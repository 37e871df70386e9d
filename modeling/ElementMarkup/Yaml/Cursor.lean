/-!
# Places in a YAML text

A cursor is the part of a text that is still to be read, with the number of characters before it,
its line and its column. A byte order mark takes up no column. No character stands at the end.
-/

set_option autoImplicit false

namespace ElementMarkup.Yaml

structure Cursor where
  index : Nat
  line : Nat
  column : Nat
  rest : List Char

def Cursor.start (cs : List Char) : Cursor := ⟨0, 0, 0, cs⟩

def isBreak (c : Char) : Bool :=
  c == '\n' || c == '\r' || c == '\x85' || c == '\u2028' || c == '\u2029'

def isSpaceOrTab (c : Char) : Bool := c == ' ' || c == '\t'

def endsWord : Option Char → Bool
  | none => true
  | some c => isSpaceOrTab c || isBreak c

def endsLine : Option Char → Bool
  | none => true
  | some c => isBreak c

def endsPart : Option Char → Bool
  | none => true
  | some c => c == ' ' || isBreak c

def Cursor.peekAt (c : Cursor) (n : Nat) : Option Char := c.rest[n]?

def Cursor.peek (c : Cursor) : Option Char := c.rest.head?

def Cursor.next (c : Cursor) : Cursor :=
  match c.rest with
  | [] => c
  | x :: rest =>
    if (isBreak x && x ≠ '\r') || (x == '\r' && rest.head? ≠ some '\n') then
      ⟨c.index + 1, c.line + 1, 0, rest⟩
    else if x == '\ufeff' then { c with index := c.index + 1, rest := rest }
    else ⟨c.index + 1, c.line, c.column + 1, rest⟩

def Cursor.skip (c : Cursor) (n : Nat) : Cursor := Nat.repeat Cursor.next n c

def Cursor.takeWhile (p : Char → Bool) (c : Cursor) : List Char × Cursor :=
  let taken := c.rest.takeWhile p
  (taken, c.skip taken.length)

def Cursor.skipWhile (p : Char → Bool) (c : Cursor) : Cursor := (c.takeWhile p).2

def Cursor.skipSpaces (c : Cursor) : Cursor := c.skipWhile (· == ' ')

/-- Takes a line break, which stands for a newline unless it separates lines or paragraphs. -/
def Cursor.takeBreak (c : Cursor) : List Char × Cursor :=
  match c.rest with
  | '\r' :: '\n' :: _ => (['\n'], c.skip 2)
  | '\u2028' :: _ => (['\u2028'], c.next)
  | '\u2029' :: _ => (['\u2029'], c.next)
  | x :: _ => if isBreak x then (['\n'], c.next) else ([], c)
  | [] => ([], c)

def Cursor.skipComment (c : Cursor) : Cursor :=
  if c.peek = some '#' then c.skipWhile fun x => !isBreak x else c

/-- Whether the marks of a document's start or end stand here, followed by a blank or the end. -/
def Cursor.atMark (c : Cursor) (mark : String) : Bool :=
  mark.toList.isPrefixOf c.rest && endsWord (c.peekAt mark.length)

def Cursor.atDocumentMark (c : Cursor) : Bool := c.atMark "---" || c.atMark "..."

end ElementMarkup.Yaml
