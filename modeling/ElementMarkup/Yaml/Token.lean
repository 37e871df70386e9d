import ElementMarkup.Yaml.Tag

/-!
# Tokens of YAML

A YAML text is cut into the marks of its structure and its scalars. Indentation shows as tokens:
a collection starts where the column grows, and ends where it shrinks. A scalar turns out to be a
key only when its colon follows, so the token of a key is put in front of it afterwards; the
places where a key may start are kept, one for each level of brackets.
-/

set_option autoImplicit false

namespace ElementMarkup.Yaml

inductive Token where
  | directive (directive : Directive)
  | documentStart
  | documentEnd
  | streamEnd
  | sequenceStart
  | mappingStart
  | blockEnd
  | flowSequenceStart
  | flowSequenceEnd
  | flowMappingStart
  | flowMappingEnd
  | flowEntry
  | entry
  | key
  | value
  | alias (name : String)
  | anchor (name : String)
  | tag (tag : TagText)
  | scalar (text : String) (plain : Bool)

/-- A place where a key may have started. A required one must turn out to be a key. -/
structure KeyStart where
  flow : Nat
  /-- The number of tokens before it. -/
  token : Nat
  required : Bool
  index : Nat
  line : Nat
  column : Nat

structure Scan where
  cursor : Cursor
  /-- The number of brackets that are open. -/
  flow : Nat
  indent : Int
  /-- The indentations around, the innermost first. -/
  outer : List Int
  keyAllowed : Bool
  keyStarts : List KeyStart
  tokens : Array Token

def Scan.start (cs : List Char) : Scan := ⟨Cursor.start cs, 0, -1, [], true, [], #[]⟩

def keyLimit : Nat := 1024

def Scan.push (s : Scan) (t : Token) : Scan := { s with tokens := s.tokens.push t }

def Scan.inFlow (s : Scan) : Bool := s.flow ≠ 0

/-- Skips blanks, comments and line ends; a key may start on a new line of a block. -/
def Scan.skipBlank : Nat → Scan → Scan
  | 0, s => s
  | fuel + 1, s =>
    let c := s.cursor.skipSpaces.skipComment
    let (b, after) := c.takeBreak
    if b.isEmpty then { s with cursor := c }
    else Scan.skipBlank fuel { s with cursor := after, keyAllowed := s.keyAllowed || !s.inFlow }

def Scan.skipMark (s : Scan) : Scan :=
  if s.cursor.index = 0 && s.cursor.peek = some '\ufeff' then { s with cursor := s.cursor.next }
  else s

/-- Forgets the places whose key would be too long or go over a line end. -/
def Scan.dropStale? (s : Scan) : Option Scan :=
  let stale (k : KeyStart) : Bool :=
    k.line ≠ s.cursor.line || keyLimit < s.cursor.index - k.index
  if s.keyStarts.any fun k => stale k && k.required then none
  else some { s with keyStarts := s.keyStarts.filter fun k => !stale k }

def Scan.keyStart? (s : Scan) : Option KeyStart := s.keyStarts.find? fun k => k.flow = s.flow

def Scan.dropKey? (s : Scan) : Option Scan :=
  match s.keyStart? with
  | some k =>
    if k.required then none
    else some { s with keyStarts := s.keyStarts.filter fun k => k.flow ≠ s.flow }
  | none => some s

def Scan.noteKey? (s : Scan) : Option Scan :=
  if s.keyAllowed then
    s.dropKey?.map fun s =>
      let required := !s.inFlow && s.indent = s.cursor.column
      let k : KeyStart :=
        ⟨s.flow, s.tokens.size, required, s.cursor.index, s.cursor.line, s.cursor.column⟩
      { s with keyStarts := k :: s.keyStarts }
  else some s

def Scan.unwind (column : Int) : List Int → Scan → Scan
  | outer :: rest, s =>
    if column < s.indent then
      Scan.unwind column rest { s.push .blockEnd with indent := outer, outer := rest }
    else s
  | [], s => s

def Scan.unwindTo (column : Int) (s : Scan) : Scan :=
  if s.inFlow then s else Scan.unwind column s.outer s

def Scan.indentAt (column : Nat) (token : Token) (place : Nat) (s : Scan) : Scan :=
  if s.indent < column then
    { s with
      indent := column, outer := s.indent :: s.outer,
      tokens := s.tokens.insertIdxIfInBounds place token }
  else s

def Scan.take (n : Nat) (t : Token) (s : Scan) : Scan :=
  { s.push t with cursor := s.cursor.skip n }

def Scan.streamEnd? (s : Scan) : Option Scan :=
  (s.unwindTo (-1)).dropKey?.map fun s => s.push .streamEnd

def Scan.directive? (s : Scan) : Option Scan := do
  let s ← (s.unwindTo (-1)).dropKey?
  let (d, c) ← Yaml.directive? s.cursor
  return { s.push (.directive d) with cursor := c, keyAllowed := false }

def Scan.documentMark? (t : Token) (s : Scan) : Option Scan :=
  (s.unwindTo (-1)).dropKey?.map fun s => { s.take 3 t with keyAllowed := false }

def Scan.flowStart? (t : Token) (s : Scan) : Option Scan :=
  s.noteKey?.map fun s => { s.take 1 t with flow := s.flow + 1, keyAllowed := true }

def Scan.flowEnd? (t : Token) (s : Scan) : Option Scan :=
  s.dropKey?.map fun s => { s.take 1 t with flow := s.flow - 1, keyAllowed := false }

def Scan.flowEntry? (s : Scan) : Option Scan :=
  s.dropKey?.map fun s => { s.take 1 .flowEntry with keyAllowed := true }

/-- An entry of a sequence, or a mark of a key or a value, that may start a collection. -/
def Scan.openBlock? (start : Token) (s : Scan) : Option Scan :=
  if s.inFlow then some s
  else if s.keyAllowed then some (s.indentAt s.cursor.column start s.tokens.size)
  else none

def Scan.entry? (s : Scan) : Option Scan := do
  let s ← (← s.openBlock? .sequenceStart).dropKey?
  return { s.take 1 .entry with keyAllowed := true }

def Scan.key? (s : Scan) : Option Scan := do
  let s ← (← s.openBlock? .mappingStart).dropKey?
  return { s.take 1 .key with keyAllowed := !s.inFlow }

/-- The colon of a value. If a key may have started before it, that was one. -/
def Scan.value? (s : Scan) : Option Scan :=
  match s.keyStart? with
  | some k =>
    let s := { s with
      keyStarts := s.keyStarts.filter fun k => k.flow ≠ s.flow,
      tokens := s.tokens.insertIdxIfInBounds k.token .key }
    let s := if s.inFlow then s else s.indentAt k.column .mappingStart k.token
    some { s.take 1 .value with keyAllowed := false }
  | none => do
    let s ← (← s.openBlock? .mappingStart).dropKey?
    return { s.take 1 .value with keyAllowed := !s.inFlow }

def Scan.node? (token : Cursor → Option (Token × Cursor)) (s : Scan) : Option Scan := do
  let s ← s.noteKey?
  let (t, c) ← token s.cursor
  return { s.push t with cursor := c, keyAllowed := false }

def Scan.block? (folded : Bool) (s : Scan) : Option Scan := do
  let s ← s.dropKey?
  let (text, c) ← blockText? folded s.indent s.cursor.next
  return { s.push (.scalar (String.ofList text) false) with cursor := c, keyAllowed := true }

def Scan.quoted? (double : Bool) (s : Scan) : Option Scan :=
  s.node? fun c => (quotedText? double (c.rest.length + 2) c.next).map fun (text, c) =>
    (.scalar (String.ofList text) false, c)

def Scan.plain? (s : Scan) : Option Scan :=
  s.noteKey?.map fun s =>
    let c := s.cursor
    let (text, broken, c) := plainText s.inFlow (s.indent + 1) [] false (c.rest.length + 1) c
    { s.push (.scalar (String.ofList text) true) with cursor := c, keyAllowed := broken }

def startsPlain (inFlow : Bool) (x : Char) (next : Option Char) : Bool :=
  if endsWord (some x) then false
  else if x == '-' then !endsWord next
  else if x == '?' || x == ':' then !inFlow && !endsWord next
  else !(",[]\x7b\x7d#&*!|>'\"%@\x60".toList.contains x)

def Scan.next? (s : Scan) : Option Scan := do
  let s := s.skipMark
  let s := Scan.skipBlank (s.cursor.rest.length + 1) s
  let s ← s.dropStale?
  let s := s.unwindTo s.cursor.column
  let c := s.cursor
  let atStart := c.column = 0
  let separate := s.inFlow || endsWord (c.peekAt 1)
  match c.peek with
  | none => s.streamEnd?
  | some x =>
    if x == '%' && atStart then s.directive?
    else if atStart && c.atMark "---" then s.documentMark? .documentStart
    else if atStart && c.atMark "..." then s.documentMark? .documentEnd
    else if x == '-' && endsWord (c.peekAt 1) then s.entry?
    else if x == '?' && separate then s.key?
    else if x == ':' && separate then s.value?
    else
      match x with
      | '[' => s.flowStart? .flowSequenceStart
      | '{' => s.flowStart? .flowMappingStart
      | ']' => s.flowEnd? .flowSequenceEnd
      | '}' => s.flowEnd? .flowMappingEnd
      | ',' => s.flowEntry?
      | '*' => s.node? fun c => (anchorName? c).map fun (name, c) => (.alias name, c)
      | '&' => s.node? fun c => (anchorName? c).map fun (name, c) => (.anchor name, c)
      | '!' => s.node? fun c => (tagText? c).map fun (tag, c) => (.tag tag, c)
      | '\'' => s.quoted? false
      | '"' => s.quoted? true
      | x =>
        if (x == '|' || x == '>') && !s.inFlow then s.block? (x == '>')
        else if startsPlain s.inFlow x (c.peekAt 1) then s.plain?
        else none

def Scan.finish? : Nat → Scan → Option (List Token)
  | 0, _ => none
  | fuel + 1, s =>
    match s.next? with
    | none => none
    | some s =>
      if s.tokens.back? matches some .streamEnd then some s.tokens.toList else s.finish? fuel

def isYamlChar (x : Char) : Bool :=
  x == '\t' || x == '\n' || x == '\r' || (' ' ≤ x && x ≤ '~') || x == '\x85' ||
    ('\xa0' ≤ x && x ≤ '\ufffd') || 0x10000 ≤ x.toNat

/-- The tokens of a YAML text, the end of the text last. -/
def tokens? (cs : List Char) : Option (List Token) :=
  if cs.all isYamlChar then Scan.finish? (2 * cs.length + 2) (Scan.start cs) else none

end ElementMarkup.Yaml
