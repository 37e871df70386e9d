import ElementMarkup.Number.Basic
import ElementMarkup.Tree.Datum

/-!
# Keys of mappings

Numbers are the same key if they have the same value, a truth value counts as one or zero, and
texts are the same key if they have the same characters. A key that is set again keeps its first
place and takes its last value.
-/

set_option autoImplicit false

namespace ElementMarkup

def Datum.keyNumber? : Datum → Option Number
  | .bool b => some (.int (if b then 1 else 0))
  | .number n => some n
  | _ => none

def Datum.keyText? : Datum → Option String
  | .text s | .word s | .escaped s => some s
  | _ => none

mutual

def Datum.sameKey : Datum → Datum → Bool
  | .null, .null => true
  | .tuple xs, .tuple ys => Datum.sameKeys xs ys
  | .item x, .item y => x.kind == y.kind && x.shown? == y.shown?
  | .element x, .element y => x.shown? == y.shown?
  | .other k s _, .other k' s' _ => k == k' && s == s'
  | x, y =>
    match x.keyText?, y.keyText? with
    | some s, some t => s == t
    | none, none =>
      match x.keyNumber?, y.keyNumber? with
      | some a, some b => a.compare? b == some .eq
      | _, _ => false
    | _, _ => false

def Datum.sameKeys : List Datum → List Datum → Bool
  | [], [] => true
  | x :: xs, y :: ys => x.sameKey y && Datum.sameKeys xs ys
  | _, _ => false

end

mutual

/-- Whether a datum can be a key: lists and mappings cannot. -/
def Datum.isKey : Datum → Bool
  | .list _ | .mapping _ => false
  | .tuple items => Datum.areKeys items
  | _ => true

def Datum.areKeys : List Datum → Bool
  | [] => true
  | d :: ds => d.isKey && Datum.areKeys ds

end

def putKey (key value : Datum) : List (Datum × Datum) → List (Datum × Datum)
  | [] => [(key, value)]
  | (k, v) :: es =>
    if k.sameKey key then (k, value) :: es else (k, v) :: putKey key value es

def putKeys (entries new : List (Datum × Datum)) : List (Datum × Datum) :=
  new.foldl (fun es (k, v) => putKey k v es) entries

end ElementMarkup
