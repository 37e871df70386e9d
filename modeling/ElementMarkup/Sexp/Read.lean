import ElementMarkup.Number.Literal
import ElementMarkup.Sexp.Lexeme
import ElementMarkup.Expression.Fault

/-!
# Reading forms

A form is a list between brackets of one kind, a string, a number, or a word. Forms are read with
a stack of the lists that are still open. The first fault in the order of the source is reported
with its line; a list that is never closed is reported last, the innermost one with the line of
its bracket.
-/

set_option autoImplicit false

namespace ElementMarkup.Sexp

inductive ReadFault where
  | unterminatedString
  | unknownEscape (c : Char)
  | unexpected (closer : Char)
  | mismatched (opener closer : Char)
  | unclosed (opener : Char)
  | formCount (count : Nat)
  deriving DecidableEq, Repr

inductive ReadError where
  | located (fault : ReadFault) (line : Nat)
  /-- An integer with too many digits. -/
  | tooManyDigits (digits : Nat)
  deriving DecidableEq, Repr

def ReadFault.message : ReadFault → String
  | .unterminatedString => "unterminated string"
  | .unknownEscape c => "unknown escape \\" ++ String.singleton c
  | .unexpected closer => "unexpected " ++ Text.quoted (String.singleton closer)
  | .mismatched opener closer =>
    Text.quoted (String.singleton opener) ++ " closed by " ++ Text.quoted (String.singleton closer)
  | .unclosed opener => "unclosed " ++ Text.quoted (String.singleton opener)
  | .formCount count => "expected one form, found " ++ toString count

def ReadError.message : ReadError → String
  | .located fault line => "line " ++ toString line ++ ": " ++ fault.message
  | .tooManyDigits digits => (Expression.Fault.readingTooManyDigits digits).message

def closerOf (opener : Char) : Char := if opener == '(' then ')' else ']'

def escapes : List (Char × Char) := [('n', '\n'), ('t', '\t'), ('"', '"'), ('\\', '\\')]

/-- The text that the body of a string denotes, or the first escape that has no meaning. -/
def unescape : List Char → Except Char (List Char)
  | [] => .ok []
  | '\\' :: c :: cs =>
    match escapes.lookup c with
    | some d => (unescape cs).map (d :: ·)
    | none => .error c
  | c :: cs => (unescape cs).map (c :: ·)

def stringBody (text : List Char) : List Char := (text.drop 1).dropLast

/-- A list that is open: its bracket, the line of the bracket, and its items, last one first. -/
structure Frame where
  opener : Char
  line : Nat
  items : List Datum

/-- The line reached, the open lists from the innermost out, and the finished forms, last one
first. -/
structure ReadState where
  line : Nat
  stack : List Frame
  forms : List Datum

def ReadState.start : ReadState := ⟨1, [], []⟩

/-- Adds a finished form to the innermost open list, or to the forms. -/
def ReadState.add (s : ReadState) (d : Datum) : ReadState :=
  match s.stack with
  | [] => { s with forms := d :: s.forms }
  | f :: fs => { s with stack := ⟨f.opener, f.line, d :: f.items⟩ :: fs }

def ReadState.close (s : ReadState) (closer : Char) : Except ReadError ReadState :=
  match s.stack with
  | [] => .error (.located (.unexpected closer) s.line)
  | f :: fs =>
    if closerOf f.opener == closer then
      .ok (ReadState.add { s with stack := fs } (.list f.items.reverse))
    else .error (.located (.mismatched f.opener closer) s.line)

/-- A word, or the number if the text of the atom is a number literal. -/
def atomDatum (text : List Char) : Except ReadError Datum :=
  match NumberLiteral.read? text with
  | none => .ok (.word (String.ofList text))
  | some l =>
    match l.value with
    | .ok n => .ok (.number n)
    | .error digits => .error (.tooManyDigits digits)

/-- What a lexeme does to the lists that are open. -/
def ReadState.accept (s : ReadState) (l : Lexeme) : Except ReadError ReadState :=
  match l.kind with
  | .blank | .comment => .ok s
  | .opening => .ok { s with stack := ⟨l.text.headD '(', s.line, []⟩ :: s.stack }
  | .closing => s.close (l.text.headD ')')
  | .unterminated => .error (.located .unterminatedString s.line)
  | .string =>
    match unescape (stringBody l.text) with
    | .ok body => .ok (s.add (.text (String.ofList body)))
    | .error c => .error (.located (.unknownEscape c) s.line)
  | .atom => (atomDatum l.text).map s.add

def ReadState.step (s : ReadState) (l : Lexeme) : Except ReadError ReadState :=
  (s.accept l).map fun next => { next with line := s.line + l.text.count '\n' }

def ReadState.finish (s : ReadState) : Except ReadError (List Datum) :=
  match s.stack with
  | [] => .ok s.forms.reverse
  | f :: _ => .error (.located (.unclosed f.opener) f.line)

def readAll (source : List Char) : Except ReadError (List Datum) := do
  let s ← (lexemes source).foldlM ReadState.step ReadState.start
  s.finish

def read (source : List Char) : Except ReadError Datum :=
  match readAll source with
  | .error e => .error e
  | .ok [d] => .ok d
  | .ok ds => .error (.located (.formCount ds.length) 1)

end ElementMarkup.Sexp
