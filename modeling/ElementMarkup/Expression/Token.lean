import ElementMarkup.Expression.Fault
import ElementMarkup.Number.Literal
import ElementMarkup.Text.Basic
import ElementMarkup.Text.Identifier

/-!
# Tokens of expressions

An expression is cut into names, numbers, quoted texts and operators; blanks between them are
dropped. Brackets have to be closed in the order in which they were opened, and a pair of closing
braces outside of all brackets ends the expression, which leaves it malformed.
-/

set_option autoImplicit false

namespace ElementMarkup.Expression

inductive TokenShape where
  | name (name : String)
  | text (value : String)
  | int (value : Nat)
  | float (value : Float)
  | operator (symbol : String)
  deriving DecidableEq

structure Token where
  line : Nat
  shape : TokenShape

inductive ScanError where
  | malformed
  | fault (fault : Fault)

def operators : List String := [
  "//", "**", "==", "!=", ">=", "<=", "+", "-", "/", "*", "%", "~", "[", "]", "(", ")", "\x7b",
  "\x7d", ">", "<", "=", ".", ":", "|", ",", ";"]

/-- The text of a quoted token up to its quote, and the rest; a backslash takes the next character
with it. -/
def quotedBody? (quote : Char) : List Char → Option (List Char × List Char)
  | [] => none
  | '\\' :: c :: cs => (quotedBody? quote cs).map fun (b, r) => ('\\' :: c :: b, r)
  | c :: cs =>
    if c == quote then some ([], cs)
    else if c == '\\' then none
    else (quotedBody? quote cs).map fun (b, r) => (c :: b, r)

def hexValue? (c : Char) : Option Nat :=
  if c.isDigit then some (c.toNat - '0'.toNat)
  else if 'a' ≤ c ∧ c ≤ 'f' then some (c.toNat - 'a'.toNat + 10)
  else if 'A' ≤ c ∧ c ≤ 'F' then some (c.toNat - 'A'.toNat + 10)
  else none

def takeHex? : Nat → Nat → List Char → Option (Nat × List Char)
  | 0, v, cs => some (v, cs)
  | n + 1, v, c :: cs => do takeHex? n (16 * v + (← hexValue? c)) cs
  | _ + 1, _, [] => none

def takeOctal : Nat → Nat → List Char → Nat × List Char
  | n + 1, v, c :: cs =>
    if '0' ≤ c ∧ c ≤ '7' then takeOctal n (8 * v + (c.toNat - '0'.toNat)) cs else (v, c :: cs)
  | _, v, cs => (v, cs)

def simpleEscapes : List (Char × List Char) := [
  ('n', ['\n']), ('t', ['\t']), ('r', ['\r']), ('\\', ['\\']), ('\'', ['\'']), ('"', ['"']),
  ('a', ['\x07']), ('b', ['\x08']), ('f', ['\x0c']), ('v', ['\x0b']), ('\n', [])]

def escapeWidth? : Char → Option Nat
  | 'x' => some 2
  | 'u' => some 4
  | 'U' => some 8
  | _ => none

/-- The text that the body of a quoted token denotes; an escape without a meaning stands for
itself. -/
def unescapeText? : Nat → List Char → Option (List Char)
  | 0, _ => none
  | _ + 1, [] => some []
  | fuel + 1, '\\' :: c :: cs =>
    match escapeWidth? c with
    | some width => do
      let (v, rest) ← takeHex? width 0 cs
      if v.isValidChar then (unescapeText? fuel rest).map (Char.ofNat v :: ·) else none
    | none =>
      match simpleEscapes.lookup c with
      | some out => (unescapeText? fuel cs).map (out ++ ·)
      | none =>
        if '0' ≤ c ∧ c ≤ '7' then
          let (v, rest) := takeOctal 2 (c.toNat - '0'.toNat) cs
          (unescapeText? fuel rest).map (Char.ofNat v :: ·)
        else (unescapeText? fuel cs).map fun rest => '\\' :: c :: rest
  | fuel + 1, c :: cs => (unescapeText? fuel cs).map (c :: ·)

def takeDigitRun (before : Bool) : List Char → List Char × List Char
  | '_' :: c :: cs =>
    if before && Text.isDigit c then
      let (d, r) := takeDigitRun true cs
      (c :: d, r)
    else ([], '_' :: c :: cs)
  | c :: cs =>
    if Text.isDigit c then
      let (d, r) := takeDigitRun true cs
      (c :: d, r)
    else ([], c :: cs)
  | [] => ([], [])

def takeExponent? : List Char → Option ((Bool × List Char) × List Char)
  | c :: cs =>
    if c == 'e' || c == 'E' then
      let (negative, rest) := takeSign cs
      let (digits, rest) := takeDigitRun false rest
      if digits.isEmpty then none else some ((negative, digits), rest)
    else none
  | [] => none

def takeFloat? (cs : List Char) : Option (Float × List Char) :=
  let (whole, rest) := takeDigitRun false cs
  if whole.isEmpty then none
  else
    let fraction : Option (List Char × List Char) :=
      match rest with
      | '.' :: r =>
        let (digits, r) := takeDigitRun false r
        if digits.isEmpty then none else some (digits, r)
      | _ => none
    match fraction with
    | some (digits, r) =>
      match takeExponent? r with
      | some (e, r) => some ((⟨false, whole, some digits, some e⟩ : NumberLiteral).toDouble, r)
      | none => some ((⟨false, whole, some digits, none⟩ : NumberLiteral).toDouble, r)
    | none =>
      (takeExponent? rest).map fun (e, r) =>
        ((⟨false, whole, none, some e⟩ : NumberLiteral).toDouble, r)

/-- Digits of a base behind its mark, each of which may follow an underscore. -/
def takeBased (base : Nat) (n : Nat) (any : Bool) : List Char → Option (Nat × List Char)
  | '_' :: c :: cs =>
    match digitOfBase? c with
    | some d => if d < base then takeBased base (base * n + d) true cs
      else if any then some (n, '_' :: c :: cs) else none
    | none => if any then some (n, '_' :: c :: cs) else none
  | c :: cs =>
    match digitOfBase? c with
    | some d => if d < base then takeBased base (base * n + d) true cs
      else if any then some (n, c :: cs) else none
    | none => if any then some (n, c :: cs) else none
  | [] => if any then some (n, []) else none

def dropZeroRun : List Char → List Char
  | '_' :: '0' :: cs => dropZeroRun cs
  | '0' :: cs => dropZeroRun cs
  | cs => cs

def takeInt? (cs : List Char) : Option (Except ScanError Nat × List Char) :=
  let based := do
    let b ← markedBase? cs
    takeBased b 0 false (cs.drop 2)
  match based with
  | some (n, r) => some (.ok n, r)
  | none =>
    match cs with
    | '0' :: r => some (.ok 0, dropZeroRun r)
    | c :: _ =>
      if '1' ≤ c ∧ c ≤ '9' then
        let (digits, r) := takeDigitRun false cs
        if digits.length ≤ digitLimit then some (.ok (Text.digitsValue digits), r)
        else some (.error (.fault (.readingTooManyDigits digits.length)), r)
      else none
    | [] => none

def takeOperator? (cs : List Char) : Option (String × List Char) :=
  (operators.find? fun o => o.toList.isPrefixOf cs).map fun o => (o, cs.drop o.length)

def closerFor (opener : String) : String :=
  if opener == "(" then ")" else if opener == "[" then "]" else "\x7d"

/-- The brackets that are open behind an operator, or none if it closes the wrong one. -/
def balance (opened : List String) (symbol : String) : Option (List String) :=
  if symbol == "(" || symbol == "[" || symbol == "\x7b" then some (closerFor symbol :: opened)
  else if symbol == ")" || symbol == "]" || symbol == "\x7d" then
    match opened with
    | expected :: rest => if expected == symbol then some rest else none
    | [] => none
  else some opened

/-- One token at the front of a text that does not start with a blank. `afterPoint` says that a
point stands right before it. -/
def takeToken (afterPoint : Bool) (cs : List Char) : Except ScanError (TokenShape × List Char) :=
  let float? := if afterPoint then none else takeFloat? cs
  match float? with
  | some (f, r) => .ok (.float f, r)
  | none =>
    match takeInt? cs with
    | some (.ok n, r) => .ok (.int n, r)
    | some (.error e, _) => .error e
    | none =>
      match cs with
      | [] => .error .malformed
      | c :: rest =>
        if Text.startsName c then
          let (name, r) := rest.span Text.continuesName
          .ok (.name (String.ofList (c :: name)), r)
        else if c == '\'' || c == '"' then
          match quotedBody? c rest with
          | none => .error .malformed
          | some (body, r) =>
            match unescapeText? (body.length + 1) body with
            | some text => .ok (.text (String.ofList text), r)
            | none => .error .malformed
        else
          match takeOperator? cs with
          | some (o, r) => .ok (.operator o, r)
          | none => .error .malformed

/-- The tokens of a source, given the line reached and the brackets that are open. -/
def tokensFrom (line : Nat) (opened : List String) (afterPoint : Bool) :
    Nat → List Char → Except ScanError (List Token)
  | 0, _ => .error .malformed
  | _ + 1, [] => .ok []
  | fuel + 1, c :: cs =>
    if Text.isBlank c then
      tokensFrom (if c == '\n' then line + 1 else line) opened false fuel cs
    else if opened.isEmpty && ['}', '}'].isPrefixOf (c :: cs) then .error .malformed
    else
      match takeToken afterPoint (c :: cs) with
      | .error e => .error e
      | .ok (shape, rest) =>
        let taken := (c :: cs).take (cs.length + 1 - rest.length)
        let opened? :=
          match shape with
          | .operator o => balance opened o
          | _ => some opened
        match opened? with
        | none => .error .malformed
        | some opened =>
          (tokensFrom (line + taken.count '\n') opened (taken.getLast? == some '.') fuel rest).map
            (⟨line, shape⟩ :: ·)

def tokens (source : String) : Except ScanError (List Token) :=
  let cs := Text.unifyLineEnds source.toList
  tokensFrom 1 [] false (cs.length + 1) cs

end ElementMarkup.Expression
