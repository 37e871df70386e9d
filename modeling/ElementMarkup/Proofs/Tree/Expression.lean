import ElementMarkup.Proofs.Failure
import ElementMarkup.Tree.Shape

/-!
# Expressions in data

A tree of plain data holds no items yet, so an expression can only come from a text that is one
group between braces and stands as an item of a list, at any depth. A text at the top of a result
is taken literally, and so is a tag name.
-/

set_option autoImplicit false

namespace ElementMarkup

mutual

def Item.hasExpression : Item → Bool
  | .expression _ => true
  | .element _ args => Item.anyExpression args
  | .text _ | .number _ | .word _ => false

def Item.anyExpression : List Item → Bool
  | [] => false
  | i :: is => i.hasExpression || Item.anyExpression is

end

def Value.hasExpression (v : Value) : Bool := v.toItem.hasExpression

mutual

def Datum.isPlain : Datum → Bool
  | .item _ | .element _ => false
  | .list items | .tuple items => Datum.allPlain items
  | .mapping entries => Datum.entriesPlain entries
  | .null | .bool _ | .number _ | .text _ | .word _ | .escaped _ | .counter _ | .other _ _ _ => true

def Datum.allPlain : List Datum → Bool
  | [] => true
  | d :: ds => d.isPlain && Datum.allPlain ds

def Datum.entriesPlain : List (Datum × Datum) → Bool
  | [] => true
  | (k, v) :: es => k.isPlain && v.isPlain && Datum.entriesPlain es

end

mutual

/-- Whether a datum becomes an expression as an item, or has a list item below it that does. -/
def Datum.spellsExpression : Datum → Bool
  | .text s | .escaped s => (expressionSource? s.toList).isSome
  | .list items | .tuple items => Datum.listSpells items
  | _ => false

def Datum.listSpells : List Datum → Bool
  | [] => false
  | _ :: rest => Datum.anySpells rest

def Datum.anySpells : List Datum → Bool
  | [] => false
  | d :: ds => d.spellsExpression || Datum.anySpells ds

end

/-- Whether a list item of a result, at any depth, is a text that spells an expression. -/
def Datum.innerExpression : Datum → Bool
  | .list items | .tuple items => Datum.listSpells items
  | _ => false

theorem Item.anyExpression_eq_false {is : List Item} :
    Item.anyExpression is = false ↔ ∀ i ∈ is, i.hasExpression = false := by
  induction is with
  | nil => simp [Item.anyExpression]
  | cons i is ih => simp [Item.anyExpression, ih]

theorem hasExpression_of_value? {i : Item} {v : Value} (h : i.value? = some v) :
    v.hasExpression = i.hasExpression := by
  rw [← Item.toItem_of_value? h]
  cases v <;> rfl

theorem textItem_hasExpression (s : String) :
    (textItem s).hasExpression = (expressionSource? s.toList).isSome := by
  unfold textItem
  cases expressionSource? s.toList <;> rfl

theorem refuse_ne_ok {α : Type} (d : Datum) (reason : String → ShapeError) (a : α) :
    d.refuse reason ≠ .ok a := by
  unfold Datum.refuse
  split <;> simp

theorem Datum.shape_cons_eq_ok {head : Datum} {rest : List Datum} {e : Element}
    (h : Datum.shape (head :: rest) = .ok e) : Datum.toItems rest = .ok e.args := by
  rw [Datum.shape] at h
  split at h
  · simp at h
  · obtain ⟨is, his, rfl⟩ := map_eq_ok_iff.1 h
    exact his

theorem Datum.toItems_cons_eq_ok {d : Datum} {ds : List Datum} {is : List Item}
    (h : Datum.toItems (d :: ds) = .ok is) :
    ∃ i is', is = i :: is' ∧ d.toItem = .ok i ∧ Datum.toItems ds = .ok is' := by
  rw [Datum.toItems] at h
  split at h
  · simp at h
  · rename_i i hi
    obtain ⟨is', his, rfl⟩ := map_eq_ok_iff.1 h
    exact ⟨i, is', rfl, hi, his⟩

mutual

/-- An item made from plain data has an expression exactly where the data spell one. -/
theorem Datum.toItem_hasExpression : ∀ {d : Datum} {i : Item}, d.isPlain = true →
    d.toItem = .ok i → i.hasExpression = d.spellsExpression
  | .text s, i, _, h | .escaped s, i, _, h => by
    rw [Datum.toItem] at h
    rw [← Except.ok.inj h, textItem_hasExpression, Datum.spellsExpression]
  | .word s, i, _, h | .number n, i, _, h => by
    rw [Datum.toItem] at h
    rw [← Except.ok.inj h]
    rfl
  | .list items, i, hp, h | .tuple items, i, hp, h => by
    rw [Datum.toItem] at h
    obtain ⟨e, he, rfl⟩ := map_eq_ok_iff.1 h
    rw [Datum.isPlain] at hp
    exact Datum.shape_hasExpression hp he
  | .item _, _, hp, _ | .element _, _, hp, _ => by
    simp [Datum.isPlain] at hp
  | .null, i, _, h | .bool _, i, _, h | .mapping _, i, _, h | .counter _, i, _, h
  | .other _ _ _, i, _, h => by
    rw [Datum.toItem] at h
    exact absurd h (refuse_ne_ok _ _ i)

theorem Datum.shape_hasExpression : ∀ {items : List Datum} {e : Element},
    Datum.allPlain items = true → Datum.shape items = .ok e →
    Item.anyExpression e.args = Datum.listSpells items
  | [], e, _, h => by
    simp [Datum.shape] at h
  | head :: rest, e, hp, h => by
    rw [Datum.allPlain, Bool.and_eq_true] at hp
    exact Datum.toItems_hasExpression hp.2 (Datum.shape_cons_eq_ok h)

theorem Datum.toItems_hasExpression : ∀ {items : List Datum} {is : List Item},
    Datum.allPlain items = true → Datum.toItems items = .ok is →
    Item.anyExpression is = Datum.anySpells items
  | [], is, _, h => by
    rw [Datum.toItems] at h
    rw [← Except.ok.inj h]
    rfl
  | d :: ds, is, hp, h => by
    rw [Datum.allPlain, Bool.and_eq_true] at hp
    obtain ⟨i, is', rfl, hi, his⟩ := Datum.toItems_cons_eq_ok h
    rw [Item.anyExpression, Datum.anySpells, Datum.toItem_hasExpression hp.1 hi,
      Datum.toItems_hasExpression hp.2 his]

end

/-- A text is a value as it stands; any other datum is one as an item that is no expression. -/
theorem Datum.toValue_eq_ok {d : Datum} {v : Value} (h : d.toValue = .ok v) :
    (∃ s, (d = .text s ∨ d = .escaped s) ∧ v = .text s) ∨
      ((∀ s, d ≠ .text s ∧ d ≠ .escaped s) ∧ ∃ i, d.toItem = .ok i ∧ i.value? = some v) := by
  unfold Datum.toValue at h
  split at h
  · rename_i s
    exact .inl ⟨s, .inl rfl, (Except.ok.inj h).symm⟩
  · rename_i s
    exact .inl ⟨s, .inr rfl, (Except.ok.inj h).symm⟩
  · rename_i ht he
    refine .inr ⟨fun s => ⟨ht s, he s⟩, ?_⟩
    split at h
    · simp at h
    · rename_i i hi
      split at h
      · rename_i v' hv
        exact ⟨i, hi, hv.trans (congrArg some (Except.ok.inj h))⟩
      · exact absurd h (refuse_ne_ok _ _ v)

theorem Datum.toValue_hasExpression {d : Datum} {v : Value} (hp : d.isPlain = true)
    (h : d.toValue = .ok v) : v.hasExpression = d.innerExpression := by
  rcases Datum.toValue_eq_ok h with ⟨s, hd, rfl⟩ | ⟨hd, i, hi, hv⟩
  · rcases hd with rfl | rfl <;> rfl
  · have hs : d.spellsExpression = d.innerExpression := by
      cases d with
      | text s => exact absurd rfl (hd s).1
      | escaped s => exact absurd rfl (hd s).2
      | _ => rfl
    rw [hasExpression_of_value? hv, Datum.toItem_hasExpression hp hi, hs]

end ElementMarkup
