import ElementMarkup.Proofs.Tree.Expression

/-!
# The depth of trees

How deep elements are nested in an item, and the sources of the expressions that stand in it. An
item below an element is less deep than the element, and its expressions are among those of the
element.
-/

set_option autoImplicit false

namespace ElementMarkup

mutual

/-- The number of elements that are nested in each other; an expression stands for none. -/
def Item.depth : Item → Nat
  | .element _ args => Item.depthAll args + 1
  | .text _ | .number _ | .word _ | .expression _ => 0

def Item.depthAll : List Item → Nat
  | [] => 0
  | i :: is => max i.depth (Item.depthAll is)

end

mutual

def Item.sources : Item → List String
  | .expression source => [source]
  | .element _ args => Item.sourcesAll args
  | .text _ | .number _ | .word _ => []

def Item.sourcesAll : List Item → List String
  | [] => []
  | i :: is => i.sources ++ Item.sourcesAll is

end

def Element.depth (e : Element) : Nat := e.toItem.depth

def Element.sources (e : Element) : List String := e.toItem.sources

def Value.depth (v : Value) : Nat := v.toItem.depth

theorem Item.depth_le_depthAll {i : Item} {is : List Item} (h : i ∈ is) :
    i.depth ≤ Item.depthAll is := by
  induction is with
  | nil => simp at h
  | cons j is ih =>
    rw [Item.depthAll]
    rcases List.mem_cons.1 h with rfl | h
    · exact Nat.le_max_left _ _
    · exact Nat.le_trans (ih h) (Nat.le_max_right _ _)

theorem Item.sources_subset_sourcesAll {i : Item} {is : List Item} (h : i ∈ is) :
    i.sources ⊆ Item.sourcesAll is := by
  induction is with
  | nil => simp at h
  | cons j is ih =>
    rw [Item.sourcesAll]
    rcases List.mem_cons.1 h with rfl | h
    · exact List.subset_append_left _ _
    · exact List.Subset.trans (ih h) (List.subset_append_right _ _)

theorem Element.depth_lt {c e : Element} (h : c.toItem ∈ e.args) : c.depth < e.depth := by
  have hle : c.depth ≤ Item.depthAll e.args := Item.depth_le_depthAll h
  have he : e.depth = Item.depthAll e.args + 1 := by
    rw [Element.depth, Element.toItem, Item.depth]
  omega

theorem Element.sources_eq (e : Element) : e.sources = Item.sourcesAll e.args := by
  rw [Element.sources, Element.toItem, Item.sources]

theorem Element.sources_subset {c e : Element} (h : c.toItem ∈ e.args) :
    c.sources ⊆ e.sources := by
  rw [e.sources_eq]
  exact Item.sources_subset_sourcesAll h

theorem Element.mem_sources {e : Element} {source : String} (h : .expression source ∈ e.args) :
    source ∈ e.sources := by
  have hsub := Item.sources_subset_sourcesAll h
  rw [e.sources_eq]
  exact hsub (by simp [Item.sources])

mutual

theorem Item.sources_eq_nil : ∀ {i : Item}, i.hasExpression = false → i.sources = []
  | .expression source, h => by simp [Item.hasExpression] at h
  | .element tag args, h => by
    rw [Item.hasExpression] at h
    rw [Item.sources]
    exact Item.sourcesAll_eq_nil h
  | .text _, _ | .number _, _ | .word _, _ => by rw [Item.sources]

theorem Item.sourcesAll_eq_nil : ∀ {is : List Item}, Item.anyExpression is = false →
    Item.sourcesAll is = []
  | [], _ => by rw [Item.sourcesAll]
  | i :: is, h => by
    rw [Item.anyExpression, Bool.or_eq_false_iff] at h
    rw [Item.sourcesAll, Item.sources_eq_nil h.1, Item.sourcesAll_eq_nil h.2, List.append_nil]

end

end ElementMarkup
