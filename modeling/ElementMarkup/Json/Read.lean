import ElementMarkup.Number.Literal
import ElementMarkup.Text.Basic
import ElementMarkup.Tree.Key

/-!
# Reading JSON

A JSON text as a datum. Numbers without a fraction and an exponent are integers; the names of the
numbers without digits are allowed. A key that is repeated keeps its first place and its last
value. The first fault is reported with the place where it was met. Lists and mappings may be nested
in each other up to a limit.
-/

set_option autoImplicit false

namespace ElementMarkup.Json

inductive Fault where
  | byteOrderMark
  | noValue
  | noPropertyName
  | noDelimiter (delimiter : Char)
  | extraData
  | unterminated
  | controlCharacter
  | unknownEscape
  | badUnicodeEscape
  deriving DecidableEq, Repr

inductive ReadError where
  | located (fault : Fault) (line column place : Nat)
  /-- An integer with too many digits. -/
  | tooManyDigits (digits : Nat)
  /-- A half of a surrogate pair without the other half, which is no character. -/
  | loneSurrogate (unit : Nat)
  /-- Lists and mappings are nested more deeply than the limit. -/
  | tooDeep
  deriving DecidableEq, Repr

def Fault.message : Fault → String
  | .byteOrderMark => "Unexpected UTF-8 BOM (decode using utf-8-sig)"
  | .noValue => "Expecting value"
  | .noPropertyName => "Expecting property name enclosed in double quotes"
  | .noDelimiter delimiter => "Expecting '" ++ String.singleton delimiter ++ "' delimiter"
  | .extraData => "Extra data"
  | .unterminated => "Unterminated string starting at"
  | .controlCharacter => "Invalid control character at"
  | .unknownEscape => "Invalid \\escape"
  | .badUnicodeEscape => "Invalid \\uXXXX escape"

/-- How deep lists and mappings may be nested. -/
def depthLimit : Nat := 1000

inductive Stop where
  | fault (fault : Fault) (place : Nat)
  | tooManyDigits (digits : Nat)
  | loneSurrogate (unit : Nat)
  | tooDeep

structure Rest where
  place : Nat
  chars : List Char

abbrev Reader (α : Type) := Rest → Except Stop (α × Rest)

def Rest.drop (r : Rest) (n : Nat) : Rest := ⟨r.place + n, r.chars.drop n⟩

def isSpace (c : Char) : Bool := c == ' ' || c == '\t' || c == '\n' || c == '\r'

def Rest.skipSpace (r : Rest) : Rest := r.drop (r.chars.takeWhile isSpace).length

def words : List (String × Datum) := [
  ("null", .null), ("true", .bool true), ("false", .bool false),
  ("NaN", .number (.float notANumber)), ("Infinity", .number (.float infinity)),
  ("-Infinity", .number (.float (-infinity)))]

def wordAt? (cs : List Char) : Option (Datum × Nat) :=
  (words.find? fun (w, _) => w.toList.isPrefixOf cs).map fun (w, d) => (d, w.length)

def isAsciiDigit (c : Char) : Bool := '0' ≤ c && c ≤ '9'

def wholePart : List Char → List Char
  | '0' :: _ => ['0']
  | cs => cs.takeWhile isAsciiDigit

def fractionPart? : List Char → Option (List Char)
  | '.' :: cs =>
    let digits := cs.takeWhile isAsciiDigit
    if digits.isEmpty then none else some digits
  | _ => none

def exponentPart? : List Char → Option ((Bool × List Char) × Nat)
  | c :: cs =>
    if c == 'e' || c == 'E' then
      let (negative, rest) := takeSign cs
      let digits := rest.takeWhile isAsciiDigit
      if digits.isEmpty then none
      else some ((negative, digits), 1 + (cs.length - rest.length) + digits.length)
    else none
  | [] => none

def numberAt? (cs : List Char) : Option (NumberLiteral × Nat) :=
  let negative := cs.head? == some '-'
  let sign := if negative then 1 else 0
  let whole := wholePart (cs.drop sign)
  if whole.isEmpty then none
  else
    let rest := cs.drop (sign + whole.length)
    let fraction := fractionPart? rest
    let taken := (fraction.map fun digits => digits.length + 1).getD 0
    let exponent := exponentPart? (rest.drop taken)
    some (⟨negative, whole, fraction, exponent.map Prod.fst⟩,
      sign + whole.length + taken + (exponent.map Prod.snd).getD 0)

def number : Reader Datum := fun r =>
  match numberAt? r.chars with
  | none => .error (.fault .noValue r.place)
  | some (literal, length) =>
    match literal.value with
    | .ok n => .ok (.number n, r.drop length)
    | .error digits => .error (.tooManyDigits digits)

def escapes : List (Char × Char) := [
  ('"', '"'), ('\\', '\\'), ('/', '/'), ('b', '\x08'), ('f', '\x0c'), ('n', '\n'), ('r', '\r'),
  ('t', '\t')]

def hexValue? (c : Char) : Option Nat :=
  if isAsciiDigit c then some (c.toNat - '0'.toNat)
  else if 'a' ≤ c ∧ c ≤ 'f' then some (c.toNat - 'a'.toNat + 10)
  else if 'A' ≤ c ∧ c ≤ 'F' then some (c.toNat - 'A'.toNat + 10)
  else none

def fourDigits? : List Char → Option Nat
  | a :: b :: c :: d :: _ => do
    let ds ← [a, b, c, d].mapM hexValue?
    return ds.foldl (fun n d => 16 * n + d) 0
  | _ => none

def isHighHalf (n : Nat) : Bool := 0xD800 ≤ n && n < 0xDC00

def isLowHalf (n : Nat) : Bool := 0xDC00 ≤ n && n < 0xE000

/-- The character of one escape, unless the escape is a half of a surrogate pair. -/
def singleUnit (n : Nat) (r : Rest) : Except Stop (Char × Rest) :=
  if isHighHalf n || isLowHalf n then .error (.loneSurrogate n) else .ok (Char.ofNat n, r)

/-- The character of an escape by number whose backslash stands at `r`, and what follows it. -/
def unicodeEscape : Reader Char := fun r =>
  let digits := r.drop 2
  let broken : Except Stop (Char × Rest) := .error (.fault .badUnicodeEscape (r.place + 1))
  if digits.chars.length < 5 then broken
  else
    match fourDigits? digits.chars with
    | none => broken
    | some n =>
      let after := digits.drop 4
      match after.chars with
      | '\\' :: 'u' :: more =>
        if isHighHalf n && 5 ≤ more.length then
          match fourDigits? more with
          | none => .error (.fault .badUnicodeEscape (after.place + 1))
          | some m =>
            if isLowHalf m then
              .ok (Char.ofNat (0x10000 + (n - 0xD800) * 0x400 + (m - 0xDC00)), after.drop 6)
            else singleUnit n after
        else singleUnit n after
      | _ => singleUnit n after

def stringBody (start : Nat) : Nat → Reader (List Char)
  | 0, _ => .error (.fault .unterminated start)
  | fuel + 1, r =>
    let goOn (c : Char) (r : Rest) : Except Stop (List Char × Rest) :=
      (stringBody start fuel r).map fun (cs, r) => (c :: cs, r)
    match r.chars with
    | [] => .error (.fault .unterminated start)
    | '"' :: _ => .ok ([], r.drop 1)
    | '\\' :: cs =>
      match cs with
      | [] => .error (.fault .unterminated start)
      | 'u' :: _ =>
        match unicodeEscape r with
        | .ok (c, r) => goOn c r
        | .error e => .error e
      | c :: _ =>
        match escapes.lookup c with
        | some c => goOn c (r.drop 2)
        | none => .error (.fault .unknownEscape r.place)
    | c :: _ =>
      if c < ' ' then .error (.fault .controlCharacter r.place) else goOn c (r.drop 1)

def string : Reader String := fun r =>
  (stringBody (r.place - 1) (r.chars.length + 1) r).map fun (cs, r) => (String.ofList cs, r)

mutual

/-- The value at the front of a text, with at most `depth` lists and mappings in each other. -/
def value (fuel depth : Nat) : Reader Datum := fun r =>
  match fuel with
  | 0 => .error (.fault .noValue r.place)
  | fuel + 1 =>
    match r.chars with
    | '"' :: _ => (string (r.drop 1)).map fun (s, r) => (.text s, r)
    | '[' :: _ =>
      match depth with
      | 0 => .error .tooDeep
      | depth + 1 =>
        let r := (r.drop 1).skipSpace
        if r.chars.head? = some ']' then .ok (.list [], r.drop 1)
        else (members fuel depth r).map fun (ds, r) => (.list ds, r)
    | '{' :: _ =>
      match depth with
      | 0 => .error .tooDeep
      | depth + 1 =>
        let r := (r.drop 1).skipSpace
        if r.chars.head? = some '}' then .ok (.mapping [], r.drop 1)
        else (properties fuel depth [] r).map fun (es, r) => (.mapping es, r)
    | cs =>
      match wordAt? cs with
      | some (d, n) => .ok (d, r.drop n)
      | none => number r

def members (fuel depth : Nat) : Reader (List Datum) := fun r =>
  match fuel with
  | 0 => .error (.fault .noValue r.place)
  | fuel + 1 => do
    let (d, r) ← value fuel depth r
    let r := r.skipSpace
    match r.chars.head? with
    | some ']' => return ([d], r.drop 1)
    | some ',' =>
      let (ds, r) ← members fuel depth (r.drop 1).skipSpace
      return (d :: ds, r)
    | _ => throw (.fault (.noDelimiter ',') r.place)

def properties (fuel depth : Nat) (before : List (Datum × Datum)) :
    Reader (List (Datum × Datum)) := fun r =>
  match fuel with
  | 0 => .error (.fault .noValue r.place)
  | fuel + 1 => do
    if r.chars.head? ≠ some '"' then throw (.fault .noPropertyName r.place)
    let (key, r) ← string (r.drop 1)
    let r := r.skipSpace
    if r.chars.head? ≠ some ':' then throw (.fault (.noDelimiter ':') r.place)
    let (d, r) ← value fuel depth (r.drop 1).skipSpace
    let entries := putKey (.text key) d before
    let r := r.skipSpace
    match r.chars.head? with
    | some '}' => return (entries, r.drop 1)
    | some ',' => properties fuel depth entries (r.drop 1).skipSpace
    | _ => throw (.fault (.noDelimiter ',') r.place)

end

def document (depth : Nat) (cs : List Char) : Except Stop Datum :=
  if cs.head? = some '\ufeff' then .error (.fault .byteOrderMark 0)
  else
    match value (2 * cs.length + 2) depth (Rest.skipSpace ⟨0, cs⟩) with
    | .error e => .error e
    | .ok (d, r) =>
      let r := r.skipSpace
      if r.chars.isEmpty then .ok d else .error (.fault .extraData r.place)

def read (depth : Nat) (cs : List Char) : Except ReadError Datum :=
  match document depth cs with
  | .ok d => .ok d
  | .error (.tooManyDigits digits) => .error (.tooManyDigits digits)
  | .error (.loneSurrogate unit) => .error (.loneSurrogate unit)
  | .error .tooDeep => .error .tooDeep
  | .error (.fault f place) =>
    let (line, column) := Text.lineAndColumn cs place
    .error (.located f line column place)

end ElementMarkup.Json
