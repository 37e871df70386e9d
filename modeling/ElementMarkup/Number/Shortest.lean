import ElementMarkup.Number.Double

/-!
# The shortest decimal text of a double

The text of a finite double has the fewest decimal digits that read back as the same double, and
among those the ones nearest to it. Values from one ten-thousandth up to ten to the sixteenth are
written positionally and always with a point; the others carry an exponent of at least two digits.
-/

set_option autoImplicit false

namespace ElementMarkup

/-- The numbers that read back as one double: from `low` to `high`, both over `den`, the ends
included when `closed`. The double itself is `mid` over `den`. -/
structure Interval where
  low : Nat
  mid : Nat
  high : Nat
  den : Nat
  closed : Bool

/-- The numbers that read back as `m · 2 ^ q`. Below a power of two the neighbour is nearer. -/
def roundingInterval (m : Nat) (q : Int) : Interval :=
  let below := if m == exponentUnit ∧ leastExponent < q then 1 else 2
  let scale := Fraction.scaled 2 1 (q - 2)
  ⟨(4 * m - below) * scale.num, 4 * m * scale.num, (4 * m + 2) * scale.num, scale.den, m % 2 == 0⟩

def Interval.holds (i : Interval) (d : Nat) (e : Int) : Bool :=
  let r := Fraction.scaled 10 d e
  let x := r.num * i.den
  if i.closed then i.low * r.den ≤ x && x ≤ i.high * r.den
  else i.low * r.den < x && x < i.high * r.den

def Interval.distance (i : Interval) (d : Nat) (e : Int) : Nat :=
  let r := Fraction.scaled 10 d e
  let x := r.num * i.den
  let v := i.mid * r.den
  if x ≤ v then v - x else x - v

def decimalOrder (r : Fraction) : Int :=
  let guess : Int := (((r.num.log2 : Int) - r.den.log2) * 30103).fdiv 100000
  let reaches (k : Int) : Bool :=
    let p := Fraction.scaled 10 1 k
    p.num * r.den ≤ r.num * p.den
  if reaches (guess + 1) then guess + 2
  else if reaches guess then guess + 1
  else if reaches (guess - 1) then guess
  else guess - 1

/-- The nearest of the two neighbours with exponent `e` that read back as the double; of two at
one distance, the even one. -/
def Interval.candidate? (i : Interval) (e : Int) : Option Nat :=
  let d := (Fraction.mk i.mid i.den |> fun r =>
    if 0 ≤ e then r.num / (r.den * Nat.pow 10 e.toNat) else r.num * Nat.pow 10 (-e).toNat / r.den)
  match i.holds d e, i.holds (d + 1) e with
  | true, true =>
    let a := i.distance d e
    let b := i.distance (d + 1) e
    some (if a < b then d else if b < a then d + 1 else d + d % 2)
  | true, false => some d
  | false, true => some (d + 1)
  | false, false => none

/-- Tries the exponents below `order` in turn, the coarsest grid first. -/
def Interval.search (i : Interval) (order : Int) : Nat → Nat → Nat × Int
  | 0, _ => (0, 0)
  | tries + 1, digits =>
    match i.candidate? (order - digits) with
    | some d => (d, order - digits)
    | none => i.search order tries (digits + 1)

/-- The digits and the exponent of the shortest decimal that reads back as `m · 2 ^ q`. -/
def shortestDecimal (m : Nat) (q : Int) : Nat × Int :=
  let i := roundingInterval m q
  i.search (decimalOrder (Fraction.scaled 2 m q)) 18 1

def dropZeros : Nat → Nat → Int → Nat × Int
  | 0, d, e => (d, e)
  | fuel + 1, d, e => if d % 10 == 0 ∧ d ≠ 0 then dropZeros fuel (d / 10) (e + 1) else (d, e)

def zeroDigits (n : Nat) : String := String.ofList (List.replicate n '0')

def exponentText (e : Int) : String :=
  (if e < 0 then "-" else "+") ++ (if e.natAbs < 10 then "0" else "") ++ toString e.natAbs

/-- The digits `d` in positional notation with `d · 10 ^ e` as the value. -/
def positionalText (d : Nat) (e : Int) : String :=
  let text := toString d
  let point := (text.length : Int) + e
  if 0 ≤ e then text ++ zeroDigits e.toNat ++ ".0"
  else if 0 < point then
    String.ofList (text.toList.take point.toNat) ++ "." ++
      String.ofList (text.toList.drop point.toNat)
  else "0." ++ zeroDigits (-point).toNat ++ text

def scientificText (d : Nat) (e : Int) : String :=
  let text := toString d
  let rest := String.ofList (text.toList.drop 1)
  String.ofList (text.toList.take 1) ++ (if rest.isEmpty then "" else "." ++ rest) ++ "e" ++
    exponentText ((text.length : Int) + e - 1)

/-- The text of a double: the shortest that reads back. -/
def doubleText (f : Float) : String :=
  match readDouble f with
  | .nan => "nan"
  | .infinite negative => if negative then "-inf" else "inf"
  | .finite negative m q =>
    let sign := if negative then "-" else ""
    if m == 0 then sign ++ "0.0"
    else
      let found := shortestDecimal m q
      let (d, e) := dropZeros 20 found.1 found.2
      let order := ((toString d).length : Int) + e
      sign ++ (if -4 < order ∧ order ≤ 16 then positionalText d e else scientificText d e)

end ElementMarkup
