/-!
# Double precision numbers as exact fractions

A finite double is `m · 2 ^ q` for a natural mantissa `m` and an integer exponent `q`. This module
reads a double that way, and rounds a fraction of naturals to the nearest double, a tie going to
the even mantissa and a value past the greatest double to infinity.
-/

set_option autoImplicit false

namespace ElementMarkup

inductive Reading where
  | nan
  | infinite (negative : Bool)
  | finite (negative : Bool) (mantissa : Nat) (exponent : Int)
  deriving DecidableEq, Repr

def leastExponent : Int := -1074

/-- The weight of the lowest bit of the exponent, which is that of the hidden bit of a mantissa. -/
def exponentUnit : Nat := 0x10000000000000

def signUnit : Nat := 0x8000000000000000

def readDouble (f : Float) : Reading :=
  let bits := f.toBits.toNat
  let negative := bits / signUnit == 1
  let field := bits / exponentUnit % 2048
  let fraction := bits % exponentUnit
  if field == 2047 then
    if fraction == 0 then .infinite negative else .nan
  else if field == 0 then .finite negative fraction leastExponent
  else .finite negative (exponentUnit + fraction) (leastExponent + (field - 1 : Nat))

def signed (negative : Bool) (n : Nat) : Int := if negative then -(n : Int) else n

structure Fraction where
  num : Nat
  den : Nat
  deriving DecidableEq, Repr

def Fraction.scaled (b m : Nat) (e : Int) : Fraction :=
  if 0 ≤ e then ⟨m * Nat.pow b e.toNat, 1⟩ else ⟨m, Nat.pow b (-e).toNat⟩

/-- The whole number nearest to a fraction; a half goes to the even neighbour. -/
def Fraction.round (r : Fraction) : Nat :=
  let q := r.num / r.den
  let rest := 2 * (r.num % r.den)
  if rest < r.den then q
  else if r.den < rest then q + 1
  else q + q % 2

def Fraction.floor (r : Fraction) : Nat := r.num / r.den

def Fraction.shift (r : Fraction) (e : Int) : Fraction :=
  if 0 ≤ e then ⟨r.num, r.den * Nat.pow 2 e.toNat⟩ else ⟨r.num * Nat.pow 2 (-e).toNat, r.den⟩

/-- The exponent that leaves a mantissa of 53 bits, or the least exponent. -/
def Fraction.doubleExponent (r : Fraction) : Int :=
  let e := max ((r.num.log2 : Int) - r.den.log2 - 52) leastExponent
  if (r.shift e).floor < exponentUnit then max (e - 1) leastExponent else e

def infinityBits : Nat := 2047 * exponentUnit

def Fraction.doubleBits (r : Fraction) : Nat :=
  if r.num == 0 then 0
  else
    let e := r.doubleExponent
    min ((e - leastExponent).toNat * exponentUnit + (r.shift e).round) infinityBits

def Fraction.toDouble (negative : Bool) (r : Fraction) : Float :=
  Float.ofBits (r.doubleBits + if negative then signUnit else 0).toUInt64

def infinity : Float := Float.ofBits infinityBits.toUInt64

def notANumber : Float := Float.ofBits 0x7ff8000000000000

/-- The double nearest to `m · 10 ^ e`. Exponents far outside the range of doubles are answered
without computing the power. -/
def decimalToDouble (negative : Bool) (m : Nat) (e : Int) : Float :=
  if m == 0 then (⟨0, 1⟩ : Fraction).toDouble negative
  else if 400 < e then (⟨Nat.pow 2 1024, 1⟩ : Fraction).toDouble negative
  else if e + (m.log2 / 3 + 1 : Nat) < -400 then (⟨0, 1⟩ : Fraction).toDouble negative
  else (Fraction.scaled 10 m e).toDouble negative

def intToDouble? (i : Int) : Option Float :=
  let r : Fraction := ⟨i.natAbs, 1⟩
  if r.doubleBits == infinityBits then none else some (r.toDouble (i < 0))

def isNegativeDouble (f : Float) : Bool := f.toBits.toNat / signUnit == 1

/-- The whole number that is left when the fraction of a finite double is cut off. -/
def truncateDouble? (f : Float) : Option Int :=
  match readDouble f with
  | .finite negative m q =>
    some (signed negative (Fraction.scaled 2 m q).floor)
  | _ => none

end ElementMarkup
