import ElementMarkup.Text.Utf8
import ElementMarkup.Yaml.ScalarText

/-!
# Tags and anchors

How tags, anchors and directives are written. A tag is a handle with a suffix, a suffix alone
between angle brackets, or a lone exclamation mark.
-/

set_option autoImplicit false

namespace ElementMarkup.Yaml

structure TagText where
  handle : Option String
  suffix : String

inductive Directive where
  | version (major : Nat)
  | tag (handle shorthand : String)
  | other

def isWordChar (x : Char) : Bool :=
  ('0' ≤ x && x ≤ '9') || ('A' ≤ x && x ≤ 'Z') || ('a' ≤ x && x ≤ 'z') || x == '-' || x == '_'

def isUriChar (x : Char) : Bool :=
  isWordChar x || (";/?:@&=+$,.!~*'()[]%".toList.contains x)

def uriBytes? : Nat → Cursor → Option (List UInt8 × Cursor)
  | 0, _ => none
  | fuel + 1, c =>
    if c.peek = some '%' then do
      let n ← hexNumber? 2 c.next
      let (more, c) ← uriBytes? fuel (c.skip 3)
      return (n.toUInt8 :: more, c)
    else some ([], c)

def uriChars? : Nat → Cursor → Option (List Char × Cursor)
  | 0, _ => none
  | fuel + 1, c =>
    match c.peek with
    | some '%' => do
      let (bytes, c) ← uriBytes? (fuel + 1) c
      let cs ← (Text.decodeUtf8 bytes).toOption
      let (more, c) ← uriChars? fuel c
      return (cs ++ more, c)
    | some x =>
      if isUriChar x then (uriChars? fuel c.next).map fun (more, c) => (x :: more, c)
      else some ([], c)
    | none => some ([], c)

def uri? (c : Cursor) : Option (String × Cursor) := do
  let (cs, after) ← uriChars? (c.rest.length + 1) c
  if after.index = c.index then none else some (String.ofList cs, after)

def handle? (c : Cursor) : Option (String × Cursor) :=
  if c.peek ≠ some '!' then none
  else if c.next.peek = some ' ' then some ("!", c.next)
  else
    let (word, after) := c.next.takeWhile isWordChar
    if after.peek = some '!' then some (String.ofList ('!' :: word ++ ['!']), after.next) else none

def hasSecondMark : List Char → Bool
  | [] => false
  | x :: rest => if x == '!' then true else if endsPart (some x) then false else hasSecondMark rest

def tagText? (c : Cursor) : Option (TagText × Cursor) := do
  let (tag, after) ←
    match c.next.peek with
    | some '<' => do
      let (suffix, after) ← uri? (c.skip 2)
      if after.peek = some '>' then some ((⟨none, suffix⟩ : TagText), after.next) else none
    | x => do
      if endsWord x then some ((⟨none, "!"⟩ : TagText), c.next)
      else if hasSecondMark c.next.rest then do
        let (handle, after) ← handle? c
        let (suffix, after) ← uri? after
        some ((⟨some handle, suffix⟩ : TagText), after)
      else do
        let (suffix, after) ← uri? c.next
        some ((⟨some "!", suffix⟩ : TagText), after)
  if endsPart after.peek then some (tag, after) else none

def anchorName? (c : Cursor) : Option (String × Cursor) :=
  let (word, after) := c.next.takeWhile isWordChar
  let ended := endsWord after.peek || after.peek.any fun x => "?:,]\x7d%@\x60".toList.contains x
  if word.isEmpty || !ended then none else some (String.ofList word, after)

def decimal? (c : Cursor) : Option (Nat × Cursor) :=
  let (digits, after) := c.takeWhile fun x => '0' ≤ x && x ≤ '9'
  if digits.isEmpty then none
  else some (digits.foldl (fun n d => 10 * n + (d.toNat - '0'.toNat)) 0, after)

def versionDirective? (c : Cursor) : Option (Directive × Cursor) := do
  let (major, c) ← decimal? c.skipSpaces
  if c.peek ≠ some '.' then none
  let (_, c) ← decimal? c.next
  if endsPart c.peek then some (.version major, c) else none

def tagDirective? (c : Cursor) : Option (Directive × Cursor) := do
  let (handle, c) ← handle? c.skipSpaces
  if c.peek ≠ some ' ' then none
  let (shorthand, c) ← uri? c.skipSpaces
  if endsPart c.peek then some (.tag handle shorthand, c) else none

def directive? (c : Cursor) : Option (Directive × Cursor) := do
  let (name, c) := c.next.takeWhile isWordChar
  if name.isEmpty || !endsPart c.peek then none
  let (directive, c) ←
    match String.ofList name with
    | "YAML" => versionDirective? c
    | "TAG" => tagDirective? c
    | _ => some (.other, c.skipWhile fun x => !isBreak x)
  let c := c.skipSpaces.skipComment
  if endsLine c.peek then some (directive, c.takeBreak.2) else none

end ElementMarkup.Yaml
