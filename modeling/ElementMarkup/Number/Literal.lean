import ElementMarkup.Number.Basic

/-!
# Number literals

A number literal is an optional sign, digits with an optional point among them, and an optional
exponent. With neither a point nor an exponent it denotes an integer, otherwise a double. Where a
text is read as a number, blanks around it and single underscores between its digits are allowed.
-/

set_option autoImplicit false

namespace ElementMarkup

structure NumberLiteral where
  negative : Bool
  whole : List Char
  /-- The digits after the point, if there is a point. -/
  fraction : Option (List Char)
  /-- The sign and the digits of the exponent, if there is one. -/
  exponent : Option (Bool × List Char)

def takeSign : List Char → Bool × List Char
  | '-' :: cs => (true, cs)
  | '+' :: cs => (false, cs)
  | cs => (false, cs)

def takeDigits (cs : List Char) : List Char × List Char := cs.span Text.isDigit

def exponentOf? : List Char → Option (Option (Bool × List Char))
  | [] => some none
  | c :: cs =>
    if c == 'e' || c == 'E' then
      let (negative, digits) := takeSign cs
      if !digits.isEmpty && digits.all Text.isDigit then some (some (negative, digits)) else none
    else none

/-- Reads a literal that takes up the whole text. -/
def NumberLiteral.read? (cs : List Char) : Option NumberLiteral :=
  let (negative, cs) := takeSign cs
  let (whole, cs) := takeDigits cs
  match cs with
  | '.' :: cs =>
    let (fraction, cs) := takeDigits cs
    if whole.isEmpty && fraction.isEmpty then none
    else (exponentOf? cs).map fun e => ⟨negative, whole, some fraction, e⟩
  | cs =>
    if whole.isEmpty then none else (exponentOf? cs).map fun e => ⟨negative, whole, none, e⟩

def NumberLiteral.toDouble (l : NumberLiteral) : Float :=
  let fraction := l.fraction.getD []
  let e : Int :=
    match l.exponent with
    | none => 0
    | some (negative, digits) => signed negative (Text.digitsValue digits)
  decimalToDouble l.negative (Text.digitsValue (l.whole ++ fraction)) (e - fraction.length)

/-- The number that a literal denotes, or the number of its digits if they are too many. -/
def NumberLiteral.value (l : NumberLiteral) : Except Nat Number :=
  if l.fraction.isNone && l.exponent.isNone then
    if l.whole.length ≤ digitLimit then
      .ok (.int (signed l.negative (Text.digitsValue l.whole)))
    else .error l.whole.length
  else .ok (.float l.toDouble)

/-- The text without its underscores, if each of them stands between digits. -/
def dropUnderscores? (isDigit : Char → Bool) (before : Bool) : List Char → Option (List Char)
  | [] => some []
  | '_' :: c :: cs =>
    if before && isDigit c then (dropUnderscores? isDigit true cs).map (c :: ·) else none
  | ['_'] => none
  | c :: cs => (dropUnderscores? isDigit (isDigit c) cs).map (c :: ·)

def digitOfBase? (c : Char) : Option Nat :=
  match Text.digitValue? c with
  | some d => some d
  | none =>
    if 'a' ≤ c ∧ c ≤ 'z' then some (c.toNat - 'a'.toNat + 10)
    else if 'A' ≤ c ∧ c ≤ 'Z' then some (c.toNat - 'A'.toNat + 10)
    else none

def basedValue? (base : Nat) (cs : List Char) : Option Nat :=
  if cs.isEmpty then none
  else cs.foldlM (fun n c => do
    let d ← digitOfBase? c
    if d < base then some (base * n + d) else none) 0

def markedBase? : List Char → Option Nat
  | '0' :: c :: _ =>
    if c == 'x' || c == 'X' then some 16
    else if c == 'b' || c == 'B' then some 2
    else if c == 'o' || c == 'O' then some 8
    else none
  | _ => none

/-- The digits behind the mark of a base, the base of the digits, and whether the digits stand
behind a mark. -/
def baseAndDigits (base : Nat) (cs : List Char) : Nat × List Char × Bool :=
  match markedBase? cs with
  | some b => if base = 0 ∨ base = b then (b, cs.drop 2, true) else (base, cs, false)
  | none => (if base = 0 then 10 else base, cs, false)

/-- Reads an integer; base zero goes by the mark at the front of the number. -/
def readInt? (base : Nat) (s : String) : Option Int := do
  let (negative, cs) := takeSign (Text.trim s.toList)
  let (b, digits, marked) := baseAndDigits base cs
  let isBaseDigit (c : Char) : Bool := ((digitOfBase? c).map fun d => decide (d < b)).getD false
  let digits ← dropUnderscores? isBaseDigit marked digits
  let n ← basedValue? b digits
  let power := b == 2 || b == 4 || b == 8 || b == 16 || b == 32
  if !power && digitLimit < digits.length then none
  else if base = 0 && !marked && digits.head? = some '0' && n ≠ 0 then none
  else some (signed negative n)

def readFloat? (s : String) : Option Float := do
  let (negative, cs) := takeSign (Text.trim s.toList)
  let word := String.ofList (cs.map Char.toLower)
  if word == "inf" || word == "infinity" then
    return if negative then -infinity else infinity
  if word == "nan" then return notANumber
  let cs ← dropUnderscores? Text.isDigit false cs
  if cs.head? = some '-' || cs.head? = some '+' then none
  let l ← NumberLiteral.read? cs
  return { l with negative }.toDouble

end ElementMarkup
