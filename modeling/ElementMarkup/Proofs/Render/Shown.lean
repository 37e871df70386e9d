import ElementMarkup.Proofs.Render.Content
import ElementMarkup.Proofs.Render.Head
import ElementMarkup.Proofs.Tree.ClassMerge

/-!
# Attributes and values that can be written

The attributes at the head of values that can be written are shown, classes merged or not, and each
such value has a text.
-/

set_option autoImplicit false

namespace ElementMarkup

theorem exists_valueText {v : Value} (h : v.writable = true) : ∃ t, v.text? = some t := by
  cases v with
  | number n => exact Number.exists_text h
  | text | word | element => exact ⟨_, rfl⟩

theorem attributeValue?_writable {v : Value} {d : Datum} (hv : v.writable = true)
    (h : v.attributeValue? = some d) : d.writable = true := by
  cases v with
  | text s =>
    obtain rfl := Option.some.inj h
    rfl
  | number n =>
    obtain rfl := Option.some.inj h
    exact hv
  | word | element => simp [Value.attributeValue?] at h

theorem headOf_writable {vs : List Value} (h : ∀ v ∈ vs, v.writable = true) :
    ∀ a ∈ (headOf vs).attributes, a.value.writable = true := by
  have hnone : ∀ a ∈ Head.none.attributes, a.value.writable = true := by simp [Head.none]
  have hpush {n : Nat} {a : Attribute} {head : Head} (ha : a.value.writable = true)
      (hrest : ∀ b ∈ head.attributes, b.value.writable = true) :
      ∀ b ∈ (head.push n a).attributes, b.value.writable = true :=
    List.forall_mem_cons.2 ⟨ha, hrest⟩
  fun_induction headOf vs with
  | case1 => exact hnone
  | case2 => exact hnone
  | case3 v rest name hm ih => exact hpush rfl (ih (List.forall_mem_cons.1 h).2)
  | case4 v rest name hm ih => exact hpush rfl (ih (List.forall_mem_cons.1 h).2)
  | case5 => exact hpush rfl hnone
  | case6 v name hm next after d hd ih =>
    rw [List.forall_mem_cons, List.forall_mem_cons] at h
    exact hpush (attributeValue?_writable h.2.1 hd) (ih h.2.2)
  | case7 v name hm next after hd ih => exact hpush rfl (ih (List.forall_mem_cons.1 h).2)

theorem MergedValues.writable {ds es : List Datum} (h : MergedValues ds es)
    (hds : ∀ d ∈ ds, d.writable = true) : ∀ d ∈ es, d.writable = true := by
  cases h with
  | none | single => exact hds
  | bare | joined => simp [Datum.writable]

theorem exists_mergeClasses {as : List Attribute} (h : ∀ a ∈ as, a.value.writable = true) :
    ∃ bs, mergeClasses? as = some bs ∧ ∀ b ∈ bs, b.value.writable = true := by
  have hclasses : ∀ d ∈ classValues as, d.writable = true := by
    intro d hd
    obtain ⟨a, ha, rfl⟩ := List.mem_map.1 hd
    exact h a (List.mem_of_mem_filter ha)
  obtain ⟨bs, hbs, hmerged⟩ := exists_merged (.inr hclasses)
  refine ⟨bs, hbs, fun b hb => ?_⟩
  cases hc : b.isClass with
  | true =>
    have hvalue : b.value ∈ classValues bs :=
      List.mem_map_of_mem (List.mem_filter.2 ⟨hb, hc⟩)
    exact hmerged.values.writable hclasses _ hvalue
  | false =>
    have hother : b ∈ as.filter (!·.isClass) := by
      rw [← hmerged.others]
      exact List.mem_filter.2 ⟨hb, by simp [hc]⟩
    exact h b (List.mem_of_mem_filter hother)

theorem exists_shownAttribute {a : Attribute} (h : a.value.writable = true) :
    ∃ s, a.shown? = some s := by
  obtain ⟨t, ht⟩ := Datum.exists_plain h
  unfold Attribute.shown?
  split
  · exact ⟨_, rfl⟩
  · exact ⟨_, by rw [ht, Option.map_some]⟩

theorem exists_shownAttributes {as : List Attribute} (h : ∀ a ∈ as, a.value.writable = true) :
    ∃ shown, shownAttributes? as = some shown := by
  have hall {bs : List Attribute} (hb : ∀ b ∈ bs, b.value.writable = true) :
      ∃ shown, bs.mapM Attribute.shown? = some shown := by
    induction bs with
    | nil => exact ⟨[], rfl⟩
    | cons b bs ih =>
      rw [List.forall_mem_cons] at hb
      obtain ⟨s, hs⟩ := exists_shownAttribute hb.1
      obtain ⟨shown, hshown⟩ := ih hb.2
      exact ⟨s :: shown, by rw [List.mapM_cons, hs, hshown]; rfl⟩
  obtain ⟨bs, hbs, hb⟩ := exists_mergeClasses h
  obtain ⟨shown, hshown⟩ := hall hb
  exact ⟨shown, by rw [shownAttributes?, hbs, Option.bind_some, hshown]⟩

end ElementMarkup
