import ElementMarkup.Number.Basic
import ElementMarkup.Text.Quoted

/-!
# Items and elements

An element is a tag with the items written after it: texts, numbers, bare words, embedded
expressions that are evaluated when the element is rendered, and further elements. A value is an
item that is no expression.
-/

set_option autoImplicit false

namespace ElementMarkup

inductive Item where
  | text (value : String)
  | number (value : Number)
  | word (name : String)
  | expression (source : String)
  | element (tag : String) (args : List Item)

structure Element where
  tag : String
  args : List Item

inductive Value where
  | text (value : String)
  | number (value : Number)
  | word (name : String)
  | element (value : Element)

def Element.toItem (e : Element) : Item := .element e.tag e.args

def Value.toItem : Value → Item
  | .text s => .text s
  | .number n => .number n
  | .word s => .word s
  | .element e => e.toItem

def Value.isElement : Value → Bool
  | .element _ => true
  | _ => false

def Item.value? : Item → Option Value
  | .text s => some (.text s)
  | .number n => some (.number n)
  | .word s => some (.word s)
  | .expression _ => none
  | .element tag args => some (.element ⟨tag, args⟩)

theorem Value.value?_toItem (v : Value) : v.toItem.value? = some v := by
  cases v <;> rfl

theorem Item.toItem_of_value? {i : Item} {v : Value} (h : i.value? = some v) : v.toItem = i := by
  cases i with
  | expression => simp [Item.value?] at h
  | text | number | word | element =>
    obtain rfl := Option.some.inj h
    rfl

def Item.kind : Item → String
  | .text _ => "Text"
  | .number _ => "Number"
  | .word _ => "Tag"
  | .expression _ => "Expr"
  | .element _ _ => "Nested"

/-- Literals between brackets; a single one is followed by a comma. -/
def tupleText (texts : List String) : String :=
  match texts with
  | [t] => "(" ++ t ++ ",)"
  | _ => "(" ++ ", ".intercalate texts ++ ")"

def elementText (tag : String) (args : List String) : String :=
  "Element(tag=" ++ Text.quoted tag ++ ", args=" ++ tupleText args ++ ")"

mutual

def Item.shown? : Item → Option String
  | .text s => some ("Text(value=" ++ Text.quoted s ++ ")")
  | .number n => n.text?.map fun t => "Number(value=" ++ t ++ ")"
  | .word s => some ("Tag(name=" ++ Text.quoted s ++ ")")
  | .expression s => some ("Expr(source=" ++ Text.quoted s ++ ")")
  | .element tag args =>
    (Item.shownAll? args).map fun ts => "Nested(value=" ++ elementText tag ts ++ ")"

def Item.shownAll? : List Item → Option (List String)
  | [] => some []
  | i :: is => do
    let t ← i.shown?
    let ts ← Item.shownAll? is
    return t :: ts

end

def Element.shown? (e : Element) : Option String :=
  (Item.shownAll? e.args).map (elementText e.tag)

end ElementMarkup
