import ElementMarkup.Tree.Key
import ElementMarkup.Yaml.Node

/-!
# Reading YAML

The datum of a YAML document. The entries of mappings that are merged in stand before the others;
of several merged in by one list, the first has the last word. A key that is repeated keeps its
first place and its last value.
-/

set_option autoImplicit false

namespace ElementMarkup.Yaml

inductive ReadError where
  | malformed
  /-- A scalar that is not of the kind its tag or its form says. -/
  | scalar (fault : ScalarFault)

mutual

/-- The entries of a mapping with those merged in put in front; none if something else than a
mapping is merged in. -/
def flattened? : List (Node × Node) → Option (List (Node × Node))
  | entries => do
    let (merged, own) ← splitMerges? entries
    return merged ++ own

def splitMerges? : List (Node × Node) → Option (List (Node × Node) × List (Node × Node))
  | [] => some ([], [])
  | (k, v) :: rest => do
    let (merged, own) ← splitMerges? rest
    match k with
    | .scalar .merge _ => return ((← mergedBy? v) ++ merged, own)
    | .scalar .valueMark text => return (merged, (.scalar .text text, v) :: own)
    | k => return (merged, (k, v) :: own)

def mergedBy? : Node → Option (List (Node × Node))
  | .mapping _ entries => do
    let (merged, own) ← splitMerges? entries
    return merged ++ own
  | .sequence _ items => mergedByAll? items
  | .scalar _ _ => none

def mergedByAll? : List Node → Option (List (Node × Node))
  | [] => some []
  | .mapping _ entries :: rest => do
    let (merged, own) ← splitMerges? entries
    return (← mergedByAll? rest) ++ (merged ++ own)
  | _ :: _ => none

end

mutual

/-- The datum of a node that is nested at most `depth` deep. -/
def Node.toDatum (depth : Nat) (n : Node) : Except ReadError Datum :=
  match depth with
  | 0 => .error .malformed
  | depth + 1 =>
    match n with
    | .scalar tag text =>
      match tag.read? text with
      | some (.ok d) => .ok d
      | some (.error f) => .error (.scalar f)
      | none => .error .malformed
    | .sequence .sequence items => (Node.toData depth items).map Datum.list
    | .mapping .mapping entries =>
      match flattened? entries with
      | none => .error .malformed
      | some entries => (Node.toEntries depth [] entries).map Datum.mapping
    | _ => .error .malformed

def Node.toData (depth : Nat) (items : List Node) : Except ReadError (List Datum) :=
  match depth with
  | 0 => .error .malformed
  | depth + 1 => items.mapM (Node.toDatum depth)

def Node.toEntries (depth : Nat) (before : List (Datum × Datum)) (entries : List (Node × Node)) :
    Except ReadError (List (Datum × Datum)) :=
  match depth with
  | 0 => .error .malformed
  | depth + 1 =>
    entries.foldlM (fun known (k, v) => do
      let key ← k.toDatum depth
      if !key.isKey then throw .malformed
      return putKey key (← v.toDatum depth) known) before

end

/-- The datum of a YAML text; null if the text is empty. -/
def read (cs : List Char) : Except ReadError Datum :=
  match compose? cs with
  | none => .error .malformed
  | some none => .ok .null
  | some (some n) => n.toDatum (2 * cs.length + 4)

end ElementMarkup.Yaml
