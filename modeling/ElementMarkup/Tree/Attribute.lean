import ElementMarkup.Tree.Datum

/-!
# Attributes

The leading items of an element may be shorthand for attributes: `@name` for an id, `.name` for a
class, and `:name` for any attribute, whose value is the next item if that is a text or a number.
Everything from the first item on that is no shorthand is content. An attribute without a value
has the null datum. Several classes are merged into the first one.
-/

set_option autoImplicit false

namespace ElementMarkup

structure Attribute where
  name : String
  value : Datum

inductive Sigil where
  | idMark
  | classMark
  | nameMark
  deriving DecidableEq, Repr

def Sigil.char : Sigil → Char
  | .idMark => '@'
  | .classMark => '.'
  | .nameMark => ':'

def Sigil.ofChar? : Char → Option Sigil
  | '@' => some .idMark
  | '.' => some .classMark
  | ':' => some .nameMark
  | _ => none

/-- A text of at least two characters that starts with a mark, split behind it. -/
def shorthandText? (s : String) : Option (Sigil × String) :=
  match s.toList with
  | c :: d :: rest => (Sigil.ofChar? c).map fun m => (m, String.ofList (d :: rest))
  | _ => none

def Value.shorthand? : Value → Option (Sigil × String)
  | .text s | .word s => shorthandText? s
  | _ => none

def Value.attributeValue? : Value → Option Datum
  | .text s => some (.text s)
  | .number n => some (.number n)
  | _ => none

/-- The attributes at the head of an element and the number of items they take up. -/
structure Head where
  consumed : Nat
  attributes : List Attribute

/-- The head with one more attribute in front that takes up `n` items. -/
def Head.push (n : Nat) (a : Attribute) (h : Head) : Head := ⟨n + h.consumed, a :: h.attributes⟩

def Head.none : Head := ⟨0, []⟩

/-- Reads the shorthand items at the head of `items`, evaluating each item it looks at. -/
def parseHead {m : Type → Type} [Monad m] (resolve : Item → m Value) : List Item → m Head
  | [] => pure Head.none
  | item :: rest => do
    match (← resolve item).shorthand? with
    | .none => pure Head.none
    | some (.idMark, name) => return (← parseHead resolve rest).push 1 ⟨"id", .text name⟩
    | some (.classMark, name) => return (← parseHead resolve rest).push 1 ⟨"class", .text name⟩
    | some (.nameMark, name) =>
      match rest with
      | [] => pure (Head.none.push 1 ⟨name, .null⟩)
      | next :: after =>
        match (← resolve next).attributeValue? with
        | some d => return (← parseHead resolve after).push 2 ⟨name, d⟩
        | .none => return (← parseHead resolve (next :: after)).push 1 ⟨name, .null⟩

inductive AttributeError where
  /-- The last of an odd number of data is a name without a value. -/
  | oddLength (length : Nat) (last : String)
  | tooManyDigits
  deriving DecidableEq

def pairs? : List Datum → Option (List (Datum × Datum))
  | [] => some []
  | .tuple [k, v] :: ds => (pairs? ds).map ((k, v) :: ·)
  | _ => .none

/-- A list of alternating names and values; none if the last name has no value. -/
def alternating? : List Datum → Option (List (Datum × Datum))
  | [] => some []
  | [_] => .none
  | k :: v :: ds => (alternating? ds).map ((k, v) :: ·)

def namedPairs : List (Datum × Datum) → Except AttributeError (List Attribute)
  | [] => .ok []
  | (k, v) :: rest =>
    match k.plain? with
    | .none => .error .tooManyDigits
    | some name => (namedPairs rest).map (⟨name, v⟩ :: ·)

def attributesOf (items : List Datum) : Except AttributeError (List Attribute) :=
  match pairs? items with
  | some ps => namedPairs ps
  | .none =>
    match alternating? items with
    | some ps => namedPairs ps
    | .none =>
      match (items.getLast?.getD .null).shown? with
      | some last => .error (.oddLength items.length last)
      | .none => .error .tooManyDigits

def Attribute.isClass (a : Attribute) : Bool := a.name == "class"

def presentTexts? : List Datum → Option (List String)
  | [] => some []
  | .null :: ds => presentTexts? ds
  | d :: ds => do
    let t ← d.plain?
    let ts ← presentTexts? ds
    return t :: ts

def mergedValue (texts : List String) : Datum :=
  if texts.isEmpty then .null else .text (" ".intercalate texts)

/-- The first class takes the merged value and the later ones are dropped. -/
def keepFirstClass (merged : Datum) : List Attribute → List Attribute
  | [] => []
  | a :: rest =>
    if a.isClass then ⟨"class", merged⟩ :: rest.filter (!·.isClass)
    else a :: keepFirstClass merged rest

/-- Merges the classes if there are several; none if a class holds an integer with too many
digits. -/
def mergeClasses? (attributes : List Attribute) : Option (List Attribute) :=
  let classes := attributes.filter Attribute.isClass
  if classes.length < 2 then some attributes
  else (presentTexts? (classes.map Attribute.value)).map fun texts =>
    keepFirstClass (mergedValue texts) attributes

def Attribute.text? (a : Attribute) : Option String :=
  match a.value with
  | .null => some (" " ++ a.name)
  | d => d.plain?.map fun t => " " ++ a.name ++ "=\"" ++ t ++ "\""

def attributesText? : List Attribute → Option String
  | [] => some ""
  | a :: rest => do
    let t ← a.text?
    let ts ← attributesText? rest
    return t ++ ts

end ElementMarkup
