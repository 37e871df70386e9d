import ElementMarkup.Yaml.Scalar
import ElementMarkup.Yaml.Token

/-!
# Nodes of YAML

A document is a tree of scalars, sequences and mappings. An alias stands for the node with its
anchor, which must be complete; every anchor is used once. A node without a tag, or with a lone
exclamation mark, takes the tag of its form.
-/

set_option autoImplicit false

namespace ElementMarkup.Yaml

inductive Node where
  | scalar (tag : Tag) (text : String)
  | sequence (tag : Tag) (items : List Node)
  | mapping (tag : Tag) (entries : List (Node × Node))

def Node.tag : Node → Tag
  | .scalar t _ | .sequence t _ | .mapping t _ => t

def Node.empty : Node := .scalar .null ""

structure Composer where
  tokens : List Token
  anchors : List (String × Option Node)
  handles : List (String × String)

abbrev Compose := StateT Composer Option

namespace Compose

def peek : Compose (Option Token) := fun s => some (s.tokens.head?, s)

def next : Compose Unit := fun s => some ((), { s with tokens := s.tokens.tail })

def accept (p : Token → Bool) : Compose Bool := do
  if (← peek).any p then
    next
    return true
  else return false

def isAt (p : Token → Bool) : Compose Bool := do return (← peek).any p

def openAnchor (name : Option String) : Compose Unit := fun s =>
  match name with
  | none => some ((), s)
  | some name =>
    if (s.anchors.lookup name).isSome then none
    else some ((), { s with anchors := (name, none) :: s.anchors })

def closeAnchor (name : Option String) (node : Node) : Compose Node := fun s =>
  match name with
  | none => some (node, s)
  | some name => some (node, { s with anchors := (name, some node) :: s.anchors })

def aliased (name : String) : Compose Node := fun s =>
  match s.anchors.lookup name with
  | some (some node) => some (node, s)
  | _ => none

def tagName (t : TagText) : Compose String := fun s =>
  match t.handle with
  | none => some (t.suffix, s)
  | some handle => (s.handles.lookup handle).map fun start => (start ++ t.suffix, s)

def properties : Compose (Option String × Option String) := do
  match ← peek with
  | some (.anchor name) =>
    next
    match ← peek with
    | some (.tag t) =>
      next
      return (some name, some (← tagName t))
    | _ => return (some name, none)
  | some (.tag t) =>
    next
    match ← peek with
    | some (.anchor name) =>
      next
      return (some name, some (← tagName t))
    | _ => return (none, some (← tagName t))
  | _ => return (none, none)

def scalarTag (written : Option String) (plain : Bool) (text : String) : Tag :=
  match written with
  | some "!" => Tag.ofPlain text
  | some name => Tag.ofName name
  | none => if plain then Tag.ofPlain text else .text

def collectionTag (written : Option String) (default : Tag) : Tag :=
  match written with
  | some "!" => default
  | some name => Tag.ofName name
  | none => default

def isEntry : Token → Bool := (· matches .entry)

def isKey : Token → Bool := (· matches .key)

def isValue : Token → Bool := (· matches .value)

def isBlockEnd : Token → Bool := (· matches .blockEnd)

def endsEntry : Token → Bool := (· matches .key | .value | .blockEnd)

def isFlowEntry : Token → Bool := (· matches .flowEntry)

def isSequenceEnd : Token → Bool := (· matches .flowSequenceEnd)

def isMappingEnd : Token → Bool := (· matches .flowMappingEnd)

mutual

/-- A node. In a block, collections by indentation are allowed, and a sequence that is indented
like the mapping around it if `level` says so. -/
def node (fuel : Nat) (block level : Bool) : Compose Node :=
  match fuel with
  | 0 => failure
  | fuel + 1 => do
    match ← peek with
    | some (.alias name) =>
      next
      aliased name
    | _ =>
      let (anchor, written) ← properties
      let marked := anchor.isSome || written.isSome
      openAnchor anchor
      let content ←
        match ← peek with
        | some (.scalar text plain) =>
          next
          pure (Node.scalar (scalarTag written plain text) text)
        | some .flowSequenceStart =>
          next
          pure (.sequence (collectionTag written .sequence) (← flowItems fuel true))
        | some .flowMappingStart =>
          next
          pure (.mapping (collectionTag written .mapping) (← flowEntries fuel true))
        | some .sequenceStart =>
          if block then
            next
            pure (.sequence (collectionTag written .sequence) (← blockItems fuel))
          else emptyNode marked written
        | some .mappingStart =>
          if block then
            next
            pure (.mapping (collectionTag written .mapping) (← blockEntries fuel))
          else emptyNode marked written
        | some .entry =>
          if level then
            pure (.sequence (collectionTag written .sequence) (← levelItems fuel))
          else emptyNode marked written
        | _ => emptyNode marked written
      closeAnchor anchor content

def emptyNode (marked : Bool) (written : Option String) : Compose Node :=
  if marked then return .scalar (scalarTag written true "") "" else failure

def blockItems (fuel : Nat) : Compose (List Node) :=
  match fuel with
  | 0 => failure
  | fuel + 1 => do
    if ← accept isEntry then
      let empty ← isAt fun t => isEntry t || isBlockEnd t
      let item ← if empty then pure Node.empty else node fuel true false
      return item :: (← blockItems fuel)
    else if ← accept isBlockEnd then return []
    else failure

/-- The items of a sequence that is indented like the mapping around it. -/
def levelItems (fuel : Nat) : Compose (List Node) :=
  match fuel with
  | 0 => failure
  | fuel + 1 => do
    if ← accept isEntry then
      let empty ← isAt fun t => isEntry t || endsEntry t
      let item ← if empty then pure Node.empty else node fuel true false
      return item :: (← levelItems fuel)
    else return []

def blockEntries (fuel : Nat) : Compose (List (Node × Node)) :=
  match fuel with
  | 0 => failure
  | fuel + 1 => do
    let part : Compose Node := do
      if ← isAt endsEntry then return Node.empty else node fuel true true
    if ← accept isKey then
      let k ← part
      let v ← if ← accept isValue then part else pure Node.empty
      return (k, v) :: (← blockEntries fuel)
    else if ← accept isBlockEnd then return []
    else failure

/-- The items of a sequence between brackets; a key among them is a mapping of one entry. -/
def flowItems (fuel : Nat) (first : Bool) : Compose (List Node) :=
  match fuel with
  | 0 => failure
  | fuel + 1 => do
    if ← accept isSequenceEnd then return []
    if !first then
      if !(← accept isFlowEntry) then failure
    let part : Compose Node := do
      if ← isAt fun t => isFlowEntry t || isSequenceEnd t then return Node.empty
      else node fuel false false
    if ← accept isKey then
      let k ← if ← isAt isValue then pure Node.empty else part
      let v ← if ← accept isValue then part else pure Node.empty
      return .mapping .mapping [(k, v)] :: (← flowItems fuel false)
    else if ← accept isSequenceEnd then return []
    else
      let item ← node fuel false false
      return item :: (← flowItems fuel false)

def flowEntries (fuel : Nat) (first : Bool) : Compose (List (Node × Node)) :=
  match fuel with
  | 0 => failure
  | fuel + 1 => do
    if ← accept isMappingEnd then return []
    if !first then
      if !(← accept isFlowEntry) then failure
    let part : Compose Node := do
      if ← isAt fun t => isFlowEntry t || isMappingEnd t then return Node.empty
      else node fuel false false
    if ← accept isKey then
      let k ← if ← isAt isValue then pure Node.empty else part
      let v ← if ← accept isValue then part else pure Node.empty
      return (k, v) :: (← flowEntries fuel false)
    else if ← accept isMappingEnd then return []
    else
      let k ← node fuel false false
      return (k, Node.empty) :: (← flowEntries fuel false)

end

def defaultHandles : List (String × String) := [("!", "!"), ("!!", "tag:yaml.org,2002:")]

def directives (versioned : Bool) (handles : List (String × String)) :
    Nat → Compose (List (String × String))
  | 0 => failure
  | fuel + 1 => do
    match ← peek with
    | some (.directive d) =>
      next
      match d with
      | .version major =>
        if versioned || major ≠ 1 then failure
        directives true handles fuel
      | .tag handle shorthand =>
        if (handles.lookup handle).isSome then failure
        directives versioned ((handle, shorthand) :: handles) fuel
      | .other => directives versioned handles fuel
    | _ => return handles

def isDocumentEnd : Token → Bool := (· matches .documentEnd)

def isDocumentStart : Token → Bool := (· matches .documentStart)

def isStreamEnd : Token → Bool := (· matches .streamEnd)

def isDirective : Token → Bool := (· matches .directive _)

def skipDocumentEnds : Nat → Compose Unit
  | 0 => return ()
  | fuel + 1 => do if ← accept isDocumentEnd then skipDocumentEnds fuel

def setHandles (handles : List (String × String)) : Compose Unit := fun s =>
  some ((), { s with handles := handles ++ defaultHandles })

def document (fuel : Nat) : Compose (Option Node) := do
  let explicit ← isAt fun t => isDirective t || isDocumentStart t || isStreamEnd t
  if ← isAt isStreamEnd then return none
  let root ←
    if explicit then
      setHandles (← directives false [] fuel)
      if !(← accept isDocumentStart) then failure
      let empty ← isAt fun t =>
        isDirective t || isDocumentStart t || isDocumentEnd t || isStreamEnd t
      if empty then pure Node.empty else node fuel true false
    else node fuel true false
  let _ ← accept isDocumentEnd
  skipDocumentEnds fuel
  if ← isAt isStreamEnd then return some root else failure

end Compose

def compose? (cs : List Char) : Option (Option Node) := do
  let tokens ← tokens? cs
  let start : Composer := ⟨tokens, [], Compose.defaultHandles⟩
  return (← Compose.document (4 * tokens.length + 8) start).1

end ElementMarkup.Yaml
