import ElementMarkup.Tree.Shape

/-!
# Texts that are expressions

A text is an expression if it is one group: trimmed, it starts with an opening pair of braces, and
the first closing pair behind that is at its very end. Any other text stays as it is, also one with
several groups, with text around a group, or with a closing pair before its end.
-/

set_option autoImplicit false

namespace ElementMarkup

/-- A closing pair of braces stands at the index. -/
def ClosesAt (cs : List Char) (i : Nat) : Prop := ['}', '}'] <+: cs.drop i

/-- The first closing pair at or behind the start stands at the index. -/
def FirstClosing (cs : List Char) (start i : Nat) : Prop :=
  start ≤ i ∧ ClosesAt cs i ∧ ∀ j, start ≤ j → j < i → ¬ ClosesAt cs j

/-- The text is one group: it starts with an opening pair, and the first closing pair behind that
ends it. -/
def IsGroup (cs : List Char) : Prop := ['{', '{'] <+: cs ∧ FirstClosing cs 2 (cs.length - 2)

def groupInner (cs : List Char) : List Char := (cs.drop 2).take (cs.length - 4)

theorem closesAt_zero {cs : List Char} :
    ClosesAt cs 0 ↔ ∃ rest, cs = '}' :: '}' :: rest := by
  simp only [ClosesAt, List.drop_zero, List.IsPrefix, List.cons_append, List.nil_append, eq_comm]

theorem closesAt_append (inner after : List Char) :
    ClosesAt (inner ++ '}' :: '}' :: after) inner.length := by
  rw [ClosesAt, List.drop_left]
  exact ⟨after, rfl⟩

theorem splitAtClosingPair_cons {c : Char} {cs : List Char} (h : ¬ ClosesAt (c :: cs) 0) :
    splitAtClosingPair (c :: cs) =
      (splitAtClosingPair cs).map fun (inner, after) => (c :: inner, after) := by
  rw [splitAtClosingPair]
  rintro rest rfl rfl
  exact h ⟨rest, rfl⟩

theorem splitAtClosingPair_eq_some_iff {cs inner after : List Char} :
    splitAtClosingPair cs = some (inner, after) ↔
      cs = inner ++ '}' :: '}' :: after ∧ ∀ j < inner.length, ¬ ClosesAt cs j := by
  induction cs generalizing inner with
  | nil => simp [splitAtClosingPair]
  | cons c cs ih =>
    by_cases hc : ClosesAt (c :: cs) 0
    · obtain ⟨rest, hrest⟩ := closesAt_zero.1 hc
      rw [hrest, splitAtClosingPair]
      constructor
      · intro h
        obtain ⟨rfl, rfl⟩ := Prod.mk.inj (Option.some.inj h)
        exact ⟨rfl, fun j hj => absurd hj (Nat.not_lt_zero j)⟩
      · rintro ⟨hcs, hnone⟩
        cases inner with
        | nil =>
          obtain ⟨_, hcs⟩ := List.cons.inj hcs
          obtain ⟨_, rfl⟩ := List.cons.inj hcs
          rfl
        | cons d inner => exact absurd (hrest ▸ hc) (hnone 0 (Nat.zero_lt_succ _))
    · rw [splitAtClosingPair_cons hc, Option.map_eq_some_iff]
      constructor
      · rintro ⟨⟨inner', after'⟩, hx, hxr⟩
        obtain ⟨rfl, rfl⟩ := Prod.mk.inj hxr
        obtain ⟨hcs, hnone⟩ := ih.1 hx
        refine ⟨congrArg (c :: ·) hcs, fun j hj => ?_⟩
        cases j with
        | zero => exact hc
        | succ j => exact hnone j (Nat.lt_of_succ_lt_succ hj)
      · rintro ⟨hcs, hnone⟩
        cases inner with
        | nil => exact absurd (closesAt_zero.2 ⟨after, hcs⟩) hc
        | cons d inner =>
          obtain ⟨rfl, htail⟩ := List.cons.inj hcs
          exact ⟨(inner, after), ih.2 ⟨htail, fun j hj => hnone (j + 1) (Nat.succ_lt_succ hj)⟩, rfl⟩

theorem isGroup_iff {cs : List Char} : IsGroup cs ↔
    ∃ inner, cs = '{' :: '{' :: (inner ++ ['}', '}']) ∧
      ∀ j < inner.length, ¬ ClosesAt (inner ++ ['}', '}']) j := by
  constructor
  · rintro ⟨⟨rest, rfl⟩, hstart, hclose, hnone⟩
    obtain ⟨n, hn⟩ : ∃ n, rest.length = n + 2 := by
      rw [List.length_append] at hstart
      exact ⟨rest.length - 2, by simp at hstart; omega⟩
    have hlength : (['{', '{'] ++ rest).length - 2 = n + 2 := by simp [hn]
    rw [hlength] at hclose hnone
    have hlast : rest.drop n = ['}', '}'] :=
      (hclose.eq_of_length (by rw [List.length_drop]; simp [hn])).symm
    have hrest : rest = rest.take n ++ ['}', '}'] := by rw [← hlast, List.take_append_drop]
    refine ⟨rest.take n, congrArg ('{' :: '{' :: ·) hrest, fun j hj => ?_⟩
    rw [← hrest]
    exact hnone (j + 2) (Nat.le_add_left 2 j) (by rw [List.length_take] at hj; omega)
  · rintro ⟨inner, rfl, hnone⟩
    refine ⟨⟨_, rfl⟩, ?_⟩
    have hlength : ('{' :: '{' :: (inner ++ ['}', '}'])).length - 2 = inner.length + 2 := by simp
    rw [hlength]
    refine ⟨Nat.le_add_left 2 _, closesAt_append inner [], fun j hj hlt => ?_⟩
    obtain ⟨j, rfl⟩ := Nat.exists_eq_add_of_le' hj
    exact hnone j (Nat.lt_of_add_lt_add_right hlt)

theorem groupInner_group (inner : List Char) :
    groupInner ('{' :: '{' :: (inner ++ ['}', '}'])) = inner := by
  simp [groupInner]

theorem expressionSource?_eq_some_iff {cs source : List Char} :
    expressionSource? cs = some source ↔
      IsGroup (Text.trim cs) ∧ source = Text.trim (groupInner (Text.trim cs)) := by
  unfold expressionSource?
  generalize Text.trim cs = t
  constructor
  · intro h
    split at h
    · split at h
      next rest inner hx =>
        obtain ⟨rfl, hnone⟩ := splitAtClosingPair_eq_some_iff.1 hx
        rw [groupInner_group]
        exact ⟨isGroup_iff.2 ⟨inner, rfl, hnone⟩, (Option.some.inj h).symm⟩
      · cases h
    · cases h
  · rintro ⟨hg, rfl⟩
    obtain ⟨inner, rfl, hnone⟩ := isGroup_iff.1 hg
    have hsplit : splitAtClosingPair (inner ++ ['}', '}']) = some (inner, []) :=
      splitAtClosingPair_eq_some_iff.2 ⟨rfl, hnone⟩
    simp only [hsplit, groupInner_group]

theorem expressionSource?_eq_none_iff {cs : List Char} :
    expressionSource? cs = none ↔ ¬ IsGroup (Text.trim cs) := by
  rw [Option.eq_none_iff_forall_ne_some]
  constructor
  · exact fun h hg => h _ (expressionSource?_eq_some_iff.2 ⟨hg, rfl⟩)
  · exact fun h source hs => h (expressionSource?_eq_some_iff.1 hs).1

theorem not_isGroup_of_early_pair {a b : List Char} (ha : 2 ≤ a.length) (hb : b ≠ []) :
    ¬ IsGroup (a ++ '}' :: '}' :: b) := by
  rintro ⟨_, _, _, hnone⟩
  have hpos := List.length_pos_iff.2 hb
  refine hnone a.length ha ?_ (closesAt_append a b)
  simp only [List.length_append, List.length_cons]
  omega

/-- A plain text becomes an expression if and only if it is one group, whose source is what stands
between its pairs, trimmed. Every other text stays as it is, in particular if a closing pair stands
before its end. -/
theorem toItem_text (s : String) :
    (∀ source, Datum.toItem (.text s) = .ok (.expression source) ↔ IsGroup (Text.trim s.toList) ∧
        source = String.ofList (Text.trim (groupInner (Text.trim s.toList)))) ∧
      (¬ IsGroup (Text.trim s.toList) → Datum.toItem (.text s) = .ok (.text s)) ∧
      ∀ a b, Text.trim s.toList = a ++ '}' :: '}' :: b → 2 ≤ a.length → b ≠ [] →
        Datum.toItem (.text s) = .ok (.text s) := by
  have htext (hg : ¬ IsGroup (Text.trim s.toList)) : Datum.toItem (.text s) = .ok (.text s) := by
    rw [Datum.toItem, textItem, expressionSource?_eq_none_iff.2 hg]
  refine ⟨fun source => ?_, htext, fun a b hs ha hb => htext fun hg => ?_⟩
  · constructor
    · intro h
      by_cases hg : IsGroup (Text.trim s.toList)
      · rw [Datum.toItem, textItem, expressionSource?_eq_some_iff.2 ⟨hg, rfl⟩] at h
        exact ⟨hg, (Item.expression.inj (Except.ok.inj h)).symm⟩
      · rw [htext hg] at h
        cases h
    · rintro ⟨hg, rfl⟩
      rw [Datum.toItem, textItem, expressionSource?_eq_some_iff.2 ⟨hg, rfl⟩]
  · rw [hs] at hg
    exact not_isGroup_of_early_pair ha hb hg

end ElementMarkup
