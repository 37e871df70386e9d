import ElementMarkup.Number.Basic

/-!
# Arithmetic of numbers

Division of integers to the nearest double, division with remainder toward minus infinity for
doubles, powers, and rounding to decimal places. A half goes to the even neighbour.
-/

set_option autoImplicit false

namespace ElementMarkup

def divideInts? (a b : Int) : Option Float :=
  let r : Fraction := ⟨a.natAbs, b.natAbs⟩
  if r.doubleBits == infinityBits then none
  else some (r.toDouble (if a = 0 then b < 0 else (a < 0) != (b < 0)))

/-- The remainder of two doubles that has the sign of the first. -/
def truncatedRemainder (x y : Float) : Float :=
  match readDouble x, readDouble y with
  | .finite negative m p, .finite _ n q =>
    if n == 0 then notANumber
    else
      let e := min p q
      let a := m * Nat.pow 2 (p - e).toNat
      let b := n * Nat.pow 2 (q - e).toNat
      (Fraction.scaled 2 (a % b) e).toDouble negative
  | .finite _ _ _, .infinite _ => x
  | _, _ => notANumber

def zeroLike (f : Float) : Float := (⟨0, 1⟩ : Fraction).toDouble (isNegativeDouble f)

/-- The quotient toward minus infinity and the remainder with the sign of the divisor. -/
def floorDivide (x y : Float) : Float × Float :=
  let rest := truncatedRemainder x y
  let quotient := (x - rest) / y
  let (quotient, rest) :=
    if rest != 0.0 then
      if (y < 0.0) != (rest < 0.0) then (quotient - 1.0, rest + y) else (quotient, rest)
    else (quotient, zeroLike y)
  let whole :=
    if quotient != 0.0 then
      let f := quotient.floor
      if quotient - f > 0.5 then f + 1.0 else f
    else zeroLike (x / y)
  (whole, rest)

/-- The whole number nearest to `n / d`; a half goes to the even neighbour. -/
def roundQuotient (n : Int) (d : Nat) : Int :=
  signed (n < 0) (Fraction.round ⟨n.natAbs, d⟩)

def roundInt (i : Int) (places : Int) : Int :=
  if 0 ≤ places then i
  else
    let unit := Nat.pow 10 (-places).toNat
    roundQuotient i unit * unit

def roundDouble? (f : Float) (places : Int) : Option Float :=
  match readDouble f with
  | .finite negative m q =>
    if 323 < places then some f
    else if places < -308 then some (zeroLike f)
    else
      let r := Fraction.scaled 2 m q
      let s := Fraction.scaled 10 1 places
      let rounded := Fraction.round ⟨r.num * s.num, r.den * s.den⟩
      let back : Fraction := ⟨rounded * s.den, s.num⟩
      if back.doubleBits == infinityBits then none else some (back.toDouble negative)
  | _ => some f

def powInt (i : Int) (n : Nat) : Int := signed (i < 0 && n % 2 == 1) (Nat.pow i.natAbs n)

def Number.toDouble? : Number → Option Float
  | .int i => intToDouble? i
  | .float f => some f

end ElementMarkup
