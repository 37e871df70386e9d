import ElementMarkup.Text.Basic
import ElementMarkup.Tree.Datum

/-!
# The shape of a tree

A list that starts with a tag name is an element, and the data after the tag name become its
items. A text that is one group between double braces becomes an embedded expression; any other
text stays as it is. The result of an expression becomes a value by the same rules, except that a
text at its top is always taken literally.
-/

set_option autoImplicit false

namespace ElementMarkup

inductive ShapeError where
  | unsupported (shown : String)
  | notAList (kind : String)
  | noTagName
  | badTagName (shown : String)
  | nestedExpression (shown : String)
  | emptyDocument (path : String)
  /-- A message would hold an integer with too many digits. -/
  | tooManyDigits
  deriving DecidableEq

def tooManyDigitsMessage : String :=
  "Exceeds the limit (4300 digits) for integer string conversion; " ++
    "use sys.set_int_max_str_digits() to increase the limit"

def ShapeError.message : ShapeError → String
  | .unsupported shown => "unsupported value in tree: " ++ shown
  | .notAList kind => "element must be a list, got " ++ kind
  | .noTagName => "element must start with a tag name"
  | .badTagName shown => "tag name must be a string, got " ++ shown
  | .nestedExpression shown => "expression evaluated to another expression: " ++ shown
  | .emptyDocument path => path ++ " is empty"
  | .tooManyDigits => tooManyDigitsMessage

def splitAtClosingPair : List Char → Option (List Char × List Char)
  | [] => none
  | '}' :: '}' :: rest => some ([], rest)
  | c :: rest => (splitAtClosingPair rest).map fun (inner, after) => (c :: inner, after)

/-- The source of the expression that a text consists of, if it is one group between braces. -/
def expressionSource? (cs : List Char) : Option (List Char) :=
  match Text.trim cs with
  | '{' :: '{' :: rest =>
    match splitAtClosingPair rest with
    | some (inner, []) => some (Text.trim inner)
    | _ => none
  | _ => none

/-- A text as an item: an expression if it is one group between braces. -/
def textItem (s : String) : Item :=
  match expressionSource? s.toList with
  | some source => .expression (String.ofList source)
  | none => .text s

def Datum.refuse {α : Type} (d : Datum) (reason : String → ShapeError) : Except ShapeError α :=
  match d.shown? with
  | some shown => .error (reason shown)
  | none => .error .tooManyDigits

def Datum.tagName (d : Datum) : Except ShapeError String :=
  match d with
  | .text s | .word s | .escaped s => .ok s
  | d => d.refuse .badTagName

mutual

/-- One item of an element. -/
def Datum.toItem : Datum → Except ShapeError Item
  | .item i => .ok i
  | .element e => .ok e.toItem
  | .word s => .ok (.word s)
  | .text s => .ok (textItem s)
  | .escaped s => .ok (textItem s)
  | .number n => .ok (.number n)
  | .list items => (Datum.shape items).map Element.toItem
  | .tuple items => (Datum.shape items).map Element.toItem
  | .null => Datum.null.refuse .unsupported
  | .bool b => (Datum.bool b).refuse .unsupported
  | .mapping entries => (Datum.mapping entries).refuse .unsupported
  | .counter first => (Datum.counter first).refuse .unsupported
  | .other kind shown plain => (Datum.other kind shown plain).refuse .unsupported

def Datum.shape : List Datum → Except ShapeError Element
  | [] => .error .noTagName
  | head :: rest =>
    match head.tagName with
    | .error e => .error e
    | .ok tag => (Datum.toItems rest).map fun args => ⟨tag, args⟩

def Datum.toItems : List Datum → Except ShapeError (List Item)
  | [] => .ok []
  | d :: ds =>
    match d.toItem with
    | .error e => .error e
    | .ok i => (Datum.toItems ds).map (i :: ·)

end

def Datum.toElement : Datum → Except ShapeError Element
  | .element e => .ok e
  | .item (.element tag args) => .ok ⟨tag, args⟩
  | .list items => Datum.shape items
  | .tuple items => Datum.shape items
  | d => .error (.notAList d.kind)

/-- The value that the result of an expression stands for. -/
def Datum.toValue (d : Datum) : Except ShapeError Value :=
  match d with
  | .text s | .escaped s => .ok (.text s)
  | d =>
    match d.toItem with
    | .error e => .error e
    | .ok i =>
      match i.value? with
      | some v => .ok v
      | none => d.refuse .nestedExpression

end ElementMarkup
