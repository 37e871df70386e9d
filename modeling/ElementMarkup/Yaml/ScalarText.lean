import ElementMarkup.Yaml.Cursor

/-!
# The text of scalars

A scalar is written plainly, between quotes, or as a block behind its header. A single line break
inside a plain or quoted scalar, or in a folded block, stands for a space; further ones are kept.
In a block the lines are indented by the same number of spaces, and the header says what becomes
of the breaks at its end.
-/

set_option autoImplicit false

namespace ElementMarkup.Yaml

/-- What a line break inside a scalar stands for, given the breaks behind it. -/
def foldBreaks (first breaks : List Char) : List Char :=
  (if first ≠ ['\n'] then first else if breaks.isEmpty then [' '] else []) ++ breaks

def quotedBreaks? : Nat → Cursor → Option (List Char × Cursor)
  | 0, _ => none
  | fuel + 1, c =>
    if c.atDocumentMark then none
    else
      let c := c.skipWhile isSpaceOrTab
      let (b, after) := c.takeBreak
      if b.isEmpty then some ([], c)
      else (quotedBreaks? fuel after).map fun (more, c) => (b ++ more, c)

def quotedSpaces? (fuel : Nat) (c : Cursor) : Option (List Char × Cursor) :=
  let (blanks, c) := c.takeWhile isSpaceOrTab
  if c.rest.isEmpty then none
  else
    let (b, after) := c.takeBreak
    if b.isEmpty then some (blanks, c)
    else (quotedBreaks? fuel after).map fun (breaks, c) => (foldBreaks b breaks, c)

def escapes : List (Char × Char) := [
  ('0', '\x00'), ('a', '\x07'), ('b', '\x08'), ('t', '\t'), ('\t', '\t'), ('n', '\n'),
  ('v', '\x0b'), ('f', '\x0c'), ('r', '\r'), ('e', '\x1b'), (' ', ' '), ('"', '"'), ('\\', '\\'),
  ('/', '/'), ('N', '\x85'), ('_', '\xa0'), ('L', '\u2028'), ('P', '\u2029')]

def escapeWidth? : Char → Option Nat
  | 'x' => some 2
  | 'u' => some 4
  | 'U' => some 8
  | _ => none

def hexValue? (c : Char) : Option Nat :=
  if '0' ≤ c ∧ c ≤ '9' then some (c.toNat - '0'.toNat)
  else if 'a' ≤ c ∧ c ≤ 'f' then some (c.toNat - 'a'.toNat + 10)
  else if 'A' ≤ c ∧ c ≤ 'F' then some (c.toNat - 'A'.toNat + 10)
  else none

def hexNumber? (width : Nat) (c : Cursor) : Option Nat := do
  let cs := c.rest.take width
  if cs.length < width then none
  let digits ← cs.mapM hexValue?
  return digits.foldl (fun n d => 16 * n + d) 0

/-- What an escape stands for; the cursor stands behind its backslash. -/
def escaped? (fuel : Nat) (c : Cursor) : Option (List Char × Cursor) := do
  let x ← c.peek
  match escapes.lookup x with
  | some y => return ([y], c.next)
  | none =>
    match escapeWidth? x with
    | some width =>
      let n ← hexNumber? width c.next
      if n.isValidChar then return ([Char.ofNat n], c.next.skip width) else none
    | none =>
      if isBreak x then quotedBreaks? fuel c.takeBreak.2 else none

def endsRun (x : Char) : Bool :=
  x == '\'' || x == '"' || x == '\\' || isSpaceOrTab x || isBreak x

def quotedText? (double : Bool) : Nat → Cursor → Option (List Char × Cursor)
  | 0, _ => none
  | fuel + 1, c =>
    let (run, c) := c.takeWhile fun x => !endsRun x
    let goOn (text : List Char) (c : Cursor) : Option (List Char × Cursor) :=
      (quotedText? double fuel c).map fun (more, c) => (run ++ text ++ more, c)
    match c.rest with
    | [] => none
    | '\'' :: more =>
      if double then goOn ['\''] c.next
      else if more.head? = some '\'' then goOn ['\''] (c.skip 2)
      else some (run, c.next)
    | '"' :: _ => if double then some (run, c.next) else goOn ['"'] c.next
    | '\\' :: _ =>
      if double then
        match escaped? fuel c.next with
        | some (text, c) => goOn text c
        | none => none
      else goOn ['\\'] c.next
    | _ =>
      match quotedSpaces? fuel c with
      | some (text, c) => goOn text c
      | none => none

def isFlowMark (x : Char) : Bool :=
  x == ',' || x == '[' || x == ']' || x == '{' || x == '}'

def plainRun (inFlow : Bool) : List Char → Nat
  | [] => 0
  | x :: rest =>
    let colonEnds := endsWord rest.head? || (inFlow && rest.head?.any isFlowMark)
    if endsWord (some x) || (x == ':' && colonEnds) || (inFlow && (x == '?' || isFlowMark x)) then 0
    else 1 + plainRun inFlow rest

/-- The breaks behind a line break of a plain scalar, with the spaces between them dropped; none
in front of the mark of a document. -/
def plainBreaks : Nat → Cursor → Option (List Char) × Cursor
  | 0, c => (some [], c)
  | fuel + 1, c =>
    if c.peek = some ' ' then plainBreaks fuel c.next
    else
      let (b, after) := c.takeBreak
      if b.isEmpty then (some [], c)
      else if after.atDocumentMark then (none, after)
      else
        let (more, c) := plainBreaks fuel after
        (more.map (b ++ ·), c)

def plainSpaces (c : Cursor) : List Char × Bool × Cursor :=
  let (blanks, c) := c.takeWhile (· == ' ')
  let (b, after) := c.takeBreak
  if b.isEmpty then (blanks, false, c)
  else if after.atDocumentMark then ([], true, after)
  else
    match plainBreaks (after.rest.length + 1) after with
    | (some breaks, c) => (foldBreaks b breaks, true, c)
    | (none, c) => ([], true, c)

/-- A plain scalar in lines that are indented by at least `indent` columns, the blanks in front of
the next run, and whether the scalar ends behind a line break. -/
def plainText (inFlow : Bool) (indent : Int) (spaces : List Char) (broken : Bool) :
    Nat → Cursor → List Char × Bool × Cursor
  | 0, c => ([], broken, c)
  | fuel + 1, c =>
    let length := if c.peek = some '#' then 0 else plainRun inFlow c.rest
    if length = 0 then ([], broken, c)
    else
      let run := c.rest.take length
      let (after, broken, c) := plainSpaces (c.skip length)
      if after.isEmpty || c.peek = some '#' || (!inFlow && (c.column : Int) < indent) then
        (spaces ++ run, broken, c)
      else
        let (more, broken, c) := plainText inFlow indent after broken fuel c
        (spaces ++ run ++ more, broken, c)

inductive Chomping where
  | clip
  | strip
  | keep
  deriving DecidableEq

structure BlockHeader where
  chomping : Chomping
  increment : Option Nat

def chompingOf? : Option Char → Option Chomping
  | some '+' => some .keep
  | some '-' => some .strip
  | _ => none

def digitOf? : Option Char → Option Nat
  | some x => if '0' ≤ x ∧ x ≤ '9' then some (x.toNat - '0'.toNat) else none
  | none => none

def blockHeader? (c : Cursor) : Option (BlockHeader × Cursor) :=
  let (chomping, increment, c) : Option Chomping × Option Nat × Cursor :=
    match chompingOf? c.peek with
    | some chomping =>
      match digitOf? c.next.peek with
      | some n => (some chomping, some n, c.skip 2)
      | none => (some chomping, none, c.next)
    | none =>
      match digitOf? c.peek with
      | some n =>
        match chompingOf? c.next.peek with
        | some chomping => (some chomping, some n, c.skip 2)
        | none => (none, some n, c.next)
      | none => (none, none, c)
  if increment = some 0 || !endsPart c.peek then none
  else
    let c := c.skipSpaces.skipComment
    if endsLine c.peek then some (⟨chomping.getD .clip, increment⟩, c.takeBreak.2) else none

def Cursor.skipIndent (indent : Nat) (c : Cursor) : Cursor :=
  c.skip ((c.rest.take (indent - c.column)).takeWhile (· == ' ')).length

/-- The empty lines at the start of a block, and the greatest column that its spaces reach. -/
def blockStart (deepest : Nat) : Nat → Cursor → List Char × Nat × Cursor
  | 0, c => ([], deepest, c)
  | fuel + 1, c =>
    if c.peek = some ' ' then blockStart (max deepest c.next.column) fuel c.next
    else
      let (b, after) := c.takeBreak
      if b.isEmpty then ([], deepest, c)
      else
        let (more, deepest, c) := blockStart deepest fuel after
        (b ++ more, deepest, c)

def blockBreaks (indent : Nat) : Nat → Cursor → List Char × Cursor
  | 0, c => ([], c)
  | fuel + 1, c =>
    let c := c.skipIndent indent
    let (b, after) := c.takeBreak
    if b.isEmpty then ([], c)
    else
      let (more, c) := blockBreaks indent fuel after
      (b ++ more, c)

def atText (indent : Nat) (c : Cursor) : Bool := c.column == indent && !c.rest.isEmpty

def blockLines (folded : Bool) (chomping : Chomping) (indent : Nat) (breaks : List Char) :
    Nat → Cursor → List Char × Cursor
  | 0, c => ([], c)
  | fuel + 1, c =>
    let leading := c.peek.any fun x => !isSpaceOrTab x
    let (line, c) := c.takeWhile fun x => !isBreak x
    let (b, c) := c.takeBreak
    let (next, c) := blockBreaks indent (c.rest.length + 1) c
    if atText indent c then
      let joined :=
        if folded && b == ['\n'] && leading && c.peek.any fun x => !isSpaceOrTab x then
          if next.isEmpty then [' '] else []
        else b
      let (more, c) := blockLines folded chomping indent next fuel c
      (breaks ++ line ++ joined ++ more, c)
    else
      let tail :=
        match chomping with
        | .strip => []
        | .clip => b
        | .keep => b ++ next
      (breaks ++ line ++ tail, c)

def blockText? (folded : Bool) (parent : Int) (c : Cursor) : Option (List Char × Cursor) := do
  let (header, c) ← blockHeader? c
  let least := max 1 (parent + 1).toNat
  let fuel := c.rest.length + 1
  let (breaks, indent, c) :=
    match header.increment with
    | none =>
      let (breaks, deepest, c) := blockStart 0 fuel c
      (breaks, max least deepest, c)
    | some n =>
      let indent := least + n - 1
      let (breaks, c) := blockBreaks indent fuel c
      (breaks, indent, c)
  if atText indent c then return blockLines folded header.chomping indent breaks fuel c
  else return (if header.chomping = .keep then breaks else [], c)

end ElementMarkup.Yaml
