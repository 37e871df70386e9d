import ElementMarkup.Proofs.Tree.Expression

/-!
# Data that can be written

A datum has a literal form and a text exactly if all of its integers have at most 4300 digits. The
items made from it are of the same kind then, and no number is the reason when it has no place in a
tree.
-/

set_option autoImplicit false

namespace ElementMarkup

def Number.writable : Number → Bool
  | .int i => isWritable i
  | .float _ => true

mutual

def Item.writable : Item → Bool
  | .number n => n.writable
  | .element _ args => Item.allWritable args
  | .text _ | .word _ | .expression _ => true

def Item.allWritable : List Item → Bool
  | [] => true
  | i :: is => i.writable && Item.allWritable is

end

def Value.writable (v : Value) : Bool := v.toItem.writable

mutual

def Datum.writable : Datum → Bool
  | .number n => n.writable
  | .list items | .tuple items => Datum.allWritable items
  | .mapping entries => Datum.entriesWritable entries
  | .item i => i.writable
  | .element e => Item.allWritable e.args
  | .null | .bool _ | .text _ | .word _ | .escaped _ | .counter _ | .other _ _ _ => true

def Datum.allWritable : List Datum → Bool
  | [] => true
  | d :: ds => d.writable && Datum.allWritable ds

def Datum.entriesWritable : List (Datum × Datum) → Bool
  | [] => true
  | (k, v) :: es => k.writable && v.writable && Datum.entriesWritable es

end

theorem Item.writable_of_mem {is : List Item} (h : Item.allWritable is = true) {i : Item}
    (hi : i ∈ is) : i.writable = true := by
  induction is with
  | nil => cases hi
  | cons j is ih =>
    rw [Item.allWritable, Bool.and_eq_true] at h
    rcases List.mem_cons.1 hi with rfl | hi
    · exact h.1
    · exact ih h.2 hi

theorem Number.isSome_text (n : Number) : n.text?.isSome = n.writable := by
  cases n with
  | int i =>
    rw [Number.text?, intText?, Number.writable]
    split <;> simp_all
  | float f => rfl

mutual

theorem Item.isSome_shown : ∀ i : Item, i.shown?.isSome = i.writable
  | .number n => by rw [Item.shown?, Option.isSome_map, Number.isSome_text, Item.writable]
  | .element tag args => by
    rw [Item.shown?, Option.isSome_map, Item.isSome_shownAll args, Item.writable]
  | .text _ | .word _ | .expression _ => by
    rw [Item.shown?, Item.writable]
    rfl

theorem Item.isSome_shownAll : ∀ is : List Item,
    (Item.shownAll? is).isSome = Item.allWritable is
  | [] => by
    rw [Item.shownAll?, Item.allWritable]
    rfl
  | i :: is => by
    rw [Item.shownAll?, Item.allWritable, ← Item.isSome_shown i, ← Item.isSome_shownAll is]
    cases i.shown? <;> cases Item.shownAll? is <;> rfl

end

mutual

theorem Datum.isSome_shown : ∀ d : Datum, d.shown?.isSome = d.writable
  | .number n => by rw [Datum.shown?, Number.isSome_text, Datum.writable]
  | .list items | .tuple items => by
    rw [Datum.shown?, Option.isSome_map, Datum.isSome_shownAll items, Datum.writable]
  | .mapping entries => by
    rw [Datum.shown?, Option.isSome_map, Datum.isSome_shownEntries entries, Datum.writable]
  | .item i => by rw [Datum.shown?, Item.isSome_shown, Datum.writable]
  | .element e => by
    rw [Datum.shown?, Element.shown?, Option.isSome_map, Item.isSome_shownAll, Datum.writable]
  | .null | .bool _ | .text _ | .word _ | .escaped _ | .counter _ | .other _ _ _ => by
    rw [Datum.shown?, Datum.writable]
    rfl

theorem Datum.isSome_shownAll : ∀ ds : List Datum,
    (Datum.shownAll? ds).isSome = Datum.allWritable ds
  | [] => by
    rw [Datum.shownAll?, Datum.allWritable]
    rfl
  | d :: ds => by
    rw [Datum.shownAll?, Datum.allWritable, ← Datum.isSome_shown d, ← Datum.isSome_shownAll ds]
    cases d.shown? <;> cases Datum.shownAll? ds <;> rfl

theorem Datum.isSome_shownEntries : ∀ es : List (Datum × Datum),
    (Datum.shownEntries? es).isSome = Datum.entriesWritable es
  | [] => by
    rw [Datum.shownEntries?, Datum.entriesWritable]
    rfl
  | (k, v) :: es => by
    rw [Datum.shownEntries?, Datum.entriesWritable, ← Datum.isSome_shown k,
      ← Datum.isSome_shown v, ← Datum.isSome_shownEntries es]
    cases k.shown? <;> cases v.shown? <;> cases Datum.shownEntries? es <;> rfl

end

theorem Datum.isSome_plain (d : Datum) : d.plain?.isSome = d.writable := by
  cases d with
  | text | word | escaped | other =>
    rw [Datum.writable]
    rfl
  | _ => exact Datum.isSome_shown _

theorem Number.exists_text {n : Number} (h : n.writable = true) : ∃ t, n.text? = some t :=
  Option.isSome_iff_exists.1 (n.isSome_text.trans h)

theorem Datum.exists_shown {d : Datum} (h : d.writable = true) : ∃ t, d.shown? = some t :=
  Option.isSome_iff_exists.1 (d.isSome_shown.trans h)

theorem Datum.exists_plain {d : Datum} (h : d.writable = true) : ∃ t, d.plain? = some t :=
  Option.isSome_iff_exists.1 (d.isSome_plain.trans h)

/-- A result with a property, or an error that no number is the reason for. -/
inductive Shaped {α : Type} (P : α → Prop) : Except ShapeError α → Prop where
  | ok {a : α} (h : P a) : Shaped P (.ok a)
  | error {e : ShapeError} (h : e ≠ .tooManyDigits) : Shaped P (.error e)

theorem shaped_ok_iff {α : Type} {P : α → Prop} {a : α} : Shaped P (.ok a) ↔ P a :=
  ⟨fun h => by cases h with | ok ha => exact ha, .ok⟩

theorem shaped_error_iff {α : Type} {P : α → Prop} {e : ShapeError} :
    Shaped P (.error e) ↔ e ≠ .tooManyDigits :=
  ⟨fun h => by cases h with | error he => exact he, .error⟩

theorem Shaped.map {α β : Type} {P : α → Prop} {Q : β → Prop} {x : Except ShapeError α} {f : α → β}
    (h : Shaped P x) (hf : ∀ a, P a → Q (f a)) : Shaped Q (x.map f) := by
  cases h with
  | ok ha => exact .ok (hf _ ha)
  | error he => exact .error he

theorem shaped_refuse {α : Type} {d : Datum} (h : d.writable = true)
    {reason : String → ShapeError} (hr : ∀ shown, reason shown ≠ .tooManyDigits) (P : α → Prop) :
    Shaped P (d.refuse reason) := by
  obtain ⟨shown, hs⟩ := Datum.exists_shown h
  rw [Datum.refuse, hs]
  exact .error (hr shown)

theorem textItem_writable (s : String) : (textItem s).writable = true := by
  unfold textItem
  split <;> rfl

theorem Datum.tagName_shaped {d : Datum} (h : d.writable = true) :
    Shaped (fun _ => True) d.tagName := by
  cases d with
  | text | word | escaped => exact .ok trivial
  | _ => exact shaped_refuse h (fun _ => ShapeError.noConfusion) _

mutual

theorem Datum.toItem_shaped : ∀ {d : Datum}, d.writable = true →
    Shaped (fun i : Item => i.writable = true) d.toItem
  | .item i, h | .element e, h | .number n, h => by
    rw [Datum.writable] at h
    rw [Datum.toItem]
    exact .ok h
  | .word s, _ => by
    rw [Datum.toItem]
    exact .ok rfl
  | .text s, _ | .escaped s, _ => by
    rw [Datum.toItem]
    exact .ok (textItem_writable s)
  | .list items, h | .tuple items, h => by
    rw [Datum.writable] at h
    rw [Datum.toItem]
    exact (Datum.shape_shaped h).map fun _ he => he
  | .null, h | .bool _, h | .mapping _, h | .counter _, h | .other _ _ _, h => by
    rw [Datum.toItem]
    exact shaped_refuse h (fun _ => ShapeError.noConfusion) _

theorem Datum.shape_shaped : ∀ {ds : List Datum}, Datum.allWritable ds = true →
    Shaped (fun e : Element => Item.allWritable e.args = true) (Datum.shape ds)
  | [], _ => by
    rw [Datum.shape]
    exact .error ShapeError.noConfusion
  | head :: rest, h => by
    rw [Datum.allWritable, Bool.and_eq_true] at h
    have htag := Datum.tagName_shaped h.1
    rw [Datum.shape]
    cases hr : head.tagName with
    | error e =>
      rw [hr, shaped_error_iff] at htag
      exact .error htag
    | ok tag => exact (Datum.toItems_shaped h.2).map fun _ his => his

theorem Datum.toItems_shaped : ∀ {ds : List Datum}, Datum.allWritable ds = true →
    Shaped (fun is : List Item => Item.allWritable is = true) (Datum.toItems ds)
  | [], _ => by
    rw [Datum.toItems]
    exact .ok rfl
  | d :: ds, h => by
    rw [Datum.allWritable, Bool.and_eq_true] at h
    have hi := Datum.toItem_shaped h.1
    rw [Datum.toItems]
    cases hr : d.toItem with
    | error e =>
      rw [hr, shaped_error_iff] at hi
      exact .error hi
    | ok i =>
      rw [hr, shaped_ok_iff] at hi
      refine (Datum.toItems_shaped h.2).map fun is his => ?_
      rw [Item.allWritable, Bool.and_eq_true]
      exact ⟨hi, his⟩

end

theorem writable_of_value? {i : Item} {v : Value} (h : i.value? = some v) :
    v.writable = i.writable := by
  rw [← Item.toItem_of_value? h]
  cases v <;> rfl

theorem Datum.toValue_shaped {d : Datum} (h : d.writable = true) :
    Shaped (fun v : Value => v.writable = true) d.toValue := by
  have hi := Datum.toItem_shaped h
  unfold Datum.toValue
  split
  · exact .ok rfl
  · exact .ok rfl
  · cases hr : d.toItem with
    | error e =>
      rw [hr, shaped_error_iff] at hi
      exact .error hi
    | ok i =>
      rw [hr, shaped_ok_iff] at hi
      dsimp only
      split
      · rename_i v hv
        exact .ok ((writable_of_value? hv).trans hi)
      · exact shaped_refuse h (fun _ => ShapeError.noConfusion) _

theorem Datum.toElement_shaped {d : Datum} (h : d.writable = true) :
    Shaped (fun e : Element => Item.allWritable e.args = true) d.toElement := by
  unfold Datum.toElement
  split
  · rw [Datum.writable] at h
    exact .ok h
  · rw [Datum.writable, Item.writable] at h
    exact .ok h
  · rw [Datum.writable] at h
    exact Datum.shape_shaped h
  · rw [Datum.writable] at h
    exact Datum.shape_shaped h
  · exact .error ShapeError.noConfusion

end ElementMarkup
