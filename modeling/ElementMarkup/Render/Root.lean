import ElementMarkup.Render.Outcome

/-!
# The element of a loaded tree

A tree is loaded as a datum, or as a document of another kind that is only known by a view on it: a
list of documents, or a leaf that some datum stands for. A document may hold itself, so giving it
the shape of an element goes down a limited number of lists.
-/

set_option autoImplicit false

namespace ElementMarkup

inductive Layer (δ : Type) where
  | list (items : List δ)
  | leaf (d : Datum)

structure View (δ : Type) where
  layer : δ → Layer δ
  /-- The literal form in messages, unless it holds an integer with too many digits. -/
  shown? : δ → Option String

def Datum.view : View Datum where
  layer
    | .list items | .tuple items => .list items
    | d => .leaf d
  shown? := Datum.shown?

namespace View

variable {δ : Type} (v : View δ)

def tagName (d : δ) : Except ShapeError String :=
  match v.layer d with
  | .leaf leaf => leaf.tagName
  | .list _ =>
    match v.shown? d with
    | some shown => .error (.badTagName shown)
    | none => .error .tooManyDigits

def element (item : δ → Except RenderError Item) : List δ → Except RenderError Element
  | [] => .error (.shape .noTagName)
  | head :: rest => do
    let tag ← (v.tagName head).mapError .shape
    let args ← rest.mapM item
    return ⟨tag, args⟩

def item (depth : Nat) (d : δ) : Except RenderError Item :=
  match v.layer d with
  | .leaf leaf => leaf.toItem.mapError .shape
  | .list items =>
    match depth with
    | 0 => .error .tooDeep
    | depth + 1 => (v.element (item depth) items).map Element.toItem

def root (depth : Nat) (d : δ) : Except RenderError Element :=
  match v.layer d with
  | .leaf leaf => leaf.toElement.mapError .shape
  | .list items =>
    match depth with
    | 0 => .error .tooDeep
    | depth + 1 => v.element (v.item depth) items

end View

end ElementMarkup
