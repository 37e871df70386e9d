import ElementMarkup.Tree.Item

/-!
# Data

A datum is what a tree, a context or the result of an expression is made of before it is given a
shape: the values of the tree files, words read from source text, and items that are already in
their final form. A mapping keeps the order of its entries.
-/

set_option autoImplicit false

namespace ElementMarkup

inductive Datum where
  | null
  | bool (value : Bool)
  | number (value : Number)
  | text (value : String)
  | word (name : String)
  /-- A text in which the characters that have a meaning in markup are spelled out. -/
  | escaped (value : String)
  | list (items : List Datum)
  | tuple (items : List Datum)
  | mapping (entries : List (Datum × Datum))
  | item (value : Item)
  | element (value : Element)
  /-- A function without arguments whose calls give successive integers. -/
  | counter (first : Int)
  /-- A value of another kind, known by the name of the kind, its literal form and its text. -/
  | other (kind shown plain : String)

def Datum.kind : Datum → String
  | .null => "NoneType"
  | .bool _ => "bool"
  | .number (.int _) => "int"
  | .number (.float _) => "float"
  | .text _ => "str"
  | .word _ => "Symbol"
  | .escaped _ => "Markup"
  | .list _ => "list"
  | .tuple _ => "tuple"
  | .mapping _ => "dict"
  | .item i => i.kind
  | .element _ => "Element"
  | .counter _ => "function"
  | .other kind _ _ => kind

def boolText (b : Bool) : String := if b then "True" else "False"

mutual

def Datum.shown? : Datum → Option String
  | .null => some "None"
  | .bool b => some (boolText b)
  | .number n => n.text?
  | .text s => some (Text.quoted s)
  | .word s => some ("Symbol(" ++ Text.quoted s ++ ")")
  | .escaped s => some ("Markup(" ++ Text.quoted s ++ ")")
  | .list items => (Datum.shownAll? items).map fun ts => "[" ++ ", ".intercalate ts ++ "]"
  | .tuple items => (Datum.shownAll? items).map tupleText
  | .mapping entries =>
    (Datum.shownEntries? entries).map fun ts => "\x7b" ++ ", ".intercalate ts ++ "\x7d"
  | .item i => i.shown?
  | .element e => e.shown?
  | .counter _ => some "<function>"
  | .other _ shown _ => some shown

def Datum.shownAll? : List Datum → Option (List String)
  | [] => some []
  | d :: ds => do
    let t ← d.shown?
    let ts ← Datum.shownAll? ds
    return t :: ts

def Datum.shownEntries? : List (Datum × Datum) → Option (List String)
  | [] => some []
  | (k, v) :: es => do
    let a ← k.shown?
    let b ← v.shown?
    let ts ← Datum.shownEntries? es
    return (a ++ ": " ++ b) :: ts

end

/-- The plain text of a datum: texts stand for themselves, anything else for its literal form. -/
def Datum.plain? : Datum → Option String
  | .text s | .word s | .escaped s => some s
  | .other _ _ plain => some plain
  | d => d.shown?

def Datum.isNull : Datum → Bool
  | .null => true
  | _ => false

end ElementMarkup
