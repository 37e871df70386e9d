import ElementMarkup.Number.Shortest
import ElementMarkup.Text.Basic

/-!
# Numbers of a tree

A number is an integer of any size or a double. Integers of more than 4300 digits have no text:
writing or reading one is refused. Integers and doubles are compared by their exact values; nothing
compares with a double that is not a number.
-/

set_option autoImplicit false

namespace ElementMarkup

inductive Number where
  | int (value : Int)
  | float (value : Float)
  deriving DecidableEq

/-- The greatest number of digits that an integer may have where it is read or written. -/
def digitLimit : Nat := 4300

def isWritable (i : Int) : Bool := i.natAbs < Nat.pow 10 digitLimit

def wordLimit : Int := 0x8000000000000000

/-- The decimal text of an integer, unless it has too many digits. -/
def intText? (i : Int) : Option String :=
  if isWritable i then some (toString i) else none

def Number.text? : Number → Option String
  | .int i => intText? i
  | .float f => some (doubleText f)

inductive Magnitude where
  | nan
  | infinite (negative : Bool)
  | exact (numerator : Int) (denominator : Nat)

def Number.magnitude : Number → Magnitude
  | .int i => .exact i 1
  | .float f =>
    match readDouble f with
    | .nan => .nan
    | .infinite negative => .infinite negative
    | .finite negative m q =>
      let r := Fraction.scaled 2 m q
      .exact (if negative then -(r.num : Int) else r.num) r.den

def Number.compare? (a b : Number) : Option Ordering :=
  match a.magnitude, b.magnitude with
  | .nan, _ | _, .nan => none
  | .infinite m, .infinite n =>
    some (if m == n then .eq else if m then .lt else .gt)
  | .infinite m, .exact _ _ => some (if m then .lt else .gt)
  | .exact _ _, .infinite n => some (if n then .gt else .lt)
  | .exact x d, .exact y e => some (compare (x * e) (y * d))

end ElementMarkup
