import ElementMarkup.Number.Arithmetic

/-!
# Numbers in a given format

Texts of doubles with a fixed number of places, with an exponent, or with a number of significant
digits, each rounded to nearest from the exact value; and padding to a width.
-/

set_option autoImplicit false

namespace ElementMarkup

def pointText (n places : Nat) (alternate : Bool) : String :=
  let digits := toString n
  let digits := zeroDigits (places + 1 - digits.length) ++ digits
  let whole := String.ofList (digits.toList.take (digits.length - places))
  let rest := String.ofList (digits.toList.drop (digits.length - places))
  if places = 0 then whole ++ (if alternate then "." else "") else whole ++ "." ++ rest

def fixedText (r : Fraction) (places : Nat) (alternate : Bool) : String :=
  pointText (Fraction.round ⟨r.num * Nat.pow 10 places, r.den⟩) places alternate

/-- The first `places + 1` significant digits, rounded, and the exponent of the first. -/
def significant (r : Fraction) (places : Nat) : Nat × Int :=
  if r.num == 0 then (0, 0)
  else
    let order := decimalOrder r - 1
    let unit := Fraction.scaled 10 1 (places - order)
    let n := Fraction.round ⟨r.num * unit.num, r.den * unit.den⟩
    if n == Nat.pow 10 (places + 1) then (Nat.pow 10 places, order + 1) else (n, order)

def exponentialText (r : Fraction) (places : Nat) (alternate : Bool) : String :=
  let (n, e) := significant r places
  pointText n places alternate ++ "e" ++ exponentText e

/-- The text without the zeros at its end and without a point that would end it. -/
def dropTrailingZeros (s : String) : String :=
  if s.toList.contains '.' then
    let kept := s.toList.reverse.dropWhile (· == '0')
    String.ofList (kept.dropWhile (· == '.')).reverse
  else s

/-- `digits` significant digits: positional for exponents from minus four up to `limit`. -/
def generalText (r : Fraction) (digits : Nat) (limit : Int) (alternate : Bool) : String :=
  let digits := max digits 1
  let (n, e) := significant r (digits - 1)
  if -4 ≤ e ∧ e < limit then
    let text := fixedText r (digits - 1 - e).toNat alternate
    if alternate then text else dropTrailingZeros text
  else
    let text := pointText n (digits - 1) alternate
    (if alternate then text else dropTrailingZeros text) ++ "e" ++ exponentText e

def asciiUpper (s : String) : String := String.ofList (s.toList.map Char.toUpper)

def magnitudeText (f : Float) (format : Char) (precision : Nat) (alternate : Bool) : String :=
  let text :=
    match readDouble f with
    | .nan => "nan"
    | .infinite _ => "inf"
    | .finite _ m q =>
      let r := Fraction.scaled 2 m q
      match format.toLower with
      | 'e' => exponentialText r precision alternate
      | 'f' => fixedText r precision alternate
      | _ => generalText r precision (max precision 1) alternate
  if format.isUpper then asciiUpper text else text

def baseText (base n : Nat) : String := String.ofList (Nat.toDigits base n)

/-- Whether a double carries a minus sign in its text. -/
def showsMinus (f : Float) : Bool :=
  match readDouble f with
  | .nan => false
  | .infinite negative => negative
  | .finite negative _ _ => negative

def padding (c : Char) (n : Nat) : String := String.ofList (List.replicate n c)

def padLeft (c : Char) (width : Nat) (s : String) : String := padding c (width - s.length) ++ s

def padRight (c : Char) (width : Nat) (s : String) : String := s ++ padding c (width - s.length)

/-- Centred, the odd blank going to the right. -/
def padBoth (c : Char) (width : Nat) (s : String) : String :=
  let left := (width - s.length) / 2
  padRight c width (padding c left ++ s)

end ElementMarkup
