import ElementMarkup.Expression.Arguments
import ElementMarkup.Expression.BraceFields
import ElementMarkup.Text.LetterCase

/-!
# Methods of texts

The functions that texts bring along. A text that comes out of a text is of the kind of that text,
so what is made from escaped text counts as escaped.
-/

set_option autoImplicit false

namespace ElementMarkup.Expression

open Text (trimBy dropTrailing isBlank)

def textOperand (cs : List Char) : Operand := .text (String.ofList cs)

def trimSet (method : String) (args : Arguments) : Eval (Char → Bool) := do
  match ← between "str" method 0 1 args with
  | [] | [.null] => return isBlank
  | a :: _ =>
    match a.text? with
    | some s => return s.toList.contains
    | none => throw (.type (method ++ " arg must be None or str"))

/-- The members between two optional places with the place where they start; none if the places
are in the wrong order. -/
def window {α : Type} (xs : List α) (start stop : Option Int) : Option (Nat × List α) :=
  let place (i : Int) : Int := if i < 0 then max (i + xs.length) 0 else i
  let first := place (start.getD 0)
  let last := min (place (stop.getD xs.length)) xs.length
  if last < first then none else some (first.toNat, (xs.take last.toNat).drop first.toNat)

def searchWindow (method : String) (s : String) (args : Arguments) :
    Eval (Operand × Option (Nat × List Char)) := do
  let (sought, bounds) ← soughtBetween method args
  let start ← sliceIndex bounds[0]?
  let stop ← sliceIndex bounds[1]?
  return (sought, window s.toList start stop)

def soughtText (o : Operand) : Eval (List Char) :=
  match o.text? with
  | some s => return s.toList
  | none => throw (.type ("must be str, not " ++ o.kind))

def findInWindow (method s : String) (args : Arguments) : Eval (Option Nat) := do
  let (sought, found) ← searchWindow method s args
  let part ← soughtText sought
  return found.bind fun (first, cs) => Text.find? part first cs

def endsOf (method : String) (test : List Char → List Char → Bool) (s : String)
    (args : Arguments) : Eval Bool := do
  let (sought, found) ← searchWindow method s args
  let one (o : Operand) : Eval Bool :=
    match o.text? with
    | some p => return found.any fun (_, cs) => test p.toList cs
    | none =>
      throw (.type ("tuple for " ++ method ++ " must only contain str, not " ++ o.kind))
  match sought with
  | .tuple items => items.anyM one
  | o =>
    if o.text?.isSome then one o
    else throw (.type (method ++ " first arg must be str or a tuple of str, not " ++ o.kind))

def joinMembers (separator : String) : Nat → List Operand → Eval (List String)
  | _, [] => return []
  | i, o :: os => do
    match o.text? with
    | some s => return s :: (← joinMembers separator (i + 1) os)
    | none =>
      throw (.type ("sequence item " ++ toString i ++ ": expected str instance, " ++ o.kind ++
        " found"))

def Operand.isEscaped : Operand → Bool
  | .escaped _ => true
  | _ => false

def likeOwner (owner : Operand) (cs : List Char) : Operand :=
  if owner.isEscaped then .escaped (String.ofList cs) else textOperand cs

/-- The members that a text joins; an escaped text escapes them first. -/
def joinedMembers (owner given : Operand) : Eval (List Operand) := do
  if owner.isEscaped then (← given.iterate).mapM escapeOperand
  else
    match ← given.items? with
    | some members => return members
    | none => throw (.type "can only join an iterable")

def replaceArgument (position : Nat) (o : Operand) : Eval String :=
  match o.text? with
  | some s => return s
  | none =>
    throw (.type ("replace() argument " ++ toString position ++ " must be str, not " ++ o.kind))

def asInteger (o : Operand) : Eval Int :=
  match o.int? with
  | some i => return i
  | none => throw (.notAnInteger o.kind)

def asSize (o : Operand) : Eval Int := do
  let i ← asInteger o
  if sizeLimit < i ∨ i < -sizeLimit - 1 then throw (.machineRange "ssize_t") else return i

def textMethod (owner : Operand) (s : String) (name : String) (args : Arguments) :
    Eval Operand := do
  let cs := s.toList
  match name with
  | "upper" => do noArguments "str.upper" args; return likeOwner owner (Text.upper cs)
  | "lower" => do noArguments "str.lower" args; return likeOwner owner (Text.lower cs)
  | "title" => do noArguments "str.title" args; return likeOwner owner (Text.title cs)
  | "capitalize" => do
    noArguments "str.capitalize" args
    return likeOwner owner (Text.capitalize cs)
  | "strip" => return likeOwner owner (trimBy (← trimSet "strip" args) cs)
  | "lstrip" => return likeOwner owner (cs.dropWhile (← trimSet "lstrip" args))
  | "rstrip" => return likeOwner owner (dropTrailing (← trimSet "rstrip" args) cs)
  | "replace" =>
    match ← between "str" "replace" 2 3 args with
    | old :: new :: rest =>
      let old ← replaceArgument 1 old
      let new ← replaceArgument 2 (← if owner.isEscaped then escapeOperand new else pure new)
      let count ← (rest.head?.map asSize).getD (pure (-1))
      return likeOwner owner (Text.replace old.toList new.toList count cs)
    | _ => return .null
  | "split" => do
    match ← bindOptional "split" [("sep", .null), ("maxsplit", .int (-1))] args with
    | [sep, limit] =>
      let limit ← asSize limit
      match sep, sep.text? with
      | .null, _ => newList ((Text.words limit cs).map (likeOwner owner))
      | _, some "" => throw (.value "empty separator")
      | _, some mark =>
        newList ((Text.cutAt mark.toList limit cs).map (likeOwner owner))
      | o, none => throw (.type ("must be str or None, not " ++ o.kind))
    | _ => return .null
  | "join" => do
    let members ← joinedMembers owner (← exactlyOne "str.join" args)
    return likeOwner owner (s.intercalate (← joinMembers s 0 members)).toList
  | "find" => do
    return .int (((← findInWindow "find" s args).map fun i => (i : Int)).getD (-1))
  | "index" => do
    match ← findInWindow "index" s args with
    | some i => return .int i
    | none => throw (.value "substring not found")
  | "count" => do
    let (sought, found) ← searchWindow "count" s args
    let part ← soughtText sought
    return .int ((found.map fun (_, cs) => Text.count part cs).getD 0)
  | "startswith" => do
    return .bool (← endsOf "startswith" (fun p cs => p.isPrefixOf cs) s args)
  | "endswith" => do return .bool (← endsOf "endswith" (fun p cs => p.isSuffixOf cs) s args)
  | "format" =>
    return .text (← formatBraces s args.positional args.named)
  | name => throw (.attribute owner.kind name)

end ElementMarkup.Expression
