import ElementMarkup.Markup.Layout
import ElementMarkup.Proofs.Markup.Partition

/-!
# Segments of a layout

The tokens of a layout fall into texts and segments. A segment is an element that holds nothing
but text, or any other markup token, and it makes one line; what comes behind a segment matters
only through its markup. Statements about layouts are proved by induction over texts and segments.
-/

set_option autoImplicit false

namespace ElementMarkup.Markup

def TokenKind.lineKind : TokenKind → LineKind
  | .opening => .opening
  | .closing => .closing
  | _ => .whole

def markupOf (ts : List Token) : List Token := ts.filter Token.isMarkup

theorem markupOf_append (ts us : List Token) : markupOf (ts ++ us) = markupOf ts ++ markupOf us :=
  List.filter_append ts us

theorem markupOf_textToken (passed : List Char) : markupOf (textToken passed) = [] := by
  unfold textToken
  split <;> rfl

theorem leafText?_eq_some_iff {name s : List Char} {ts r : List Token} :
    leafText? name ts = some (s, r) ↔ ∃ us c, ts = us ++ c :: r ∧ (∀ t ∈ us, t.kind = .text) ∧
      c.kind = .closing ∧ c.name = name ∧ s = joined (us ++ [c]) := by
  constructor
  · intro h
    induction ts generalizing s with
    | nil => simp [leafText?] at h
    | cons t ts ih =>
      unfold leafText? at h
      split at h
      · rename_i ht
        obtain ⟨⟨s', r'⟩, hx, hxr⟩ := Option.map_eq_some_iff.1 h
        obtain ⟨rfl, rfl⟩ := Prod.mk.inj hxr
        obtain ⟨us, c, rfl, hu, hc, hn, rfl⟩ := ih hx
        exact ⟨t :: us, c, rfl, List.forall_mem_cons.2 ⟨ht, hu⟩, hc, hn, by simp [joined]⟩
      · rename_i ht
        split at h
        · rename_i hn
          obtain ⟨rfl, rfl⟩ := Prod.mk.inj (Option.some.inj h)
          exact ⟨[], t, rfl, by simp, ht, eq_of_beq hn, by simp [joined]⟩
        · simp at h
      · simp at h
  · rintro ⟨us, c, rfl, hu, hc, hn, rfl⟩
    induction us with
    | nil => simp [leafText?, hc, hn, joined]
    | cons t us ih =>
      rw [List.forall_mem_cons] at hu
      simp [leafText?, hu.1, ih hu.2, joined]

/-- Whether an element is a leaf is decided by the first markup behind its opening tag. -/
theorem leafText?_eq_none_iff {name : List Char} {ts : List Token} :
    leafText? name ts = none ↔ ∀ t ∈ (markupOf ts).head?, t.kind = .closing → t.name ≠ name := by
  induction ts with
  | nil => simp [leafText?, markupOf]
  | cons t ts ih =>
    obtain ⟨kind, text, tname⟩ := t
    unfold markupOf at ih ⊢
    cases kind with
    | text => simpa [leafText?, Token.isMarkup] using ih
    | closing => simp [leafText?, Token.isMarkup]
    | declaration | opening | empty => simp [leafText?, Token.isMarkup]

/-- The tokens at the head of a layout that make one line before the tokens behind them. -/
inductive Segment : List Token → Line → List Token → Prop where
  | leaf {t c : Token} {us rest : List Token} (ht : t.kind = .opening)
      (hu : ∀ u ∈ us, u.kind = .text) (hc : c.kind = .closing) (hn : c.name = t.name) :
      Segment (t :: (us ++ [c])) ⟨.whole, joined (t :: (us ++ [c]))⟩ rest
  | alone {t : Token} {rest : List Token} (ht : t.kind ≠ .text)
      (hl : t.kind = .opening → leafText? t.name rest = none) :
      Segment [t] ⟨t.kind.lineKind, t.text⟩ rest

theorem layout_nil : layout [] = [] := by rw [layout]

theorem layout_text {t : Token} (ht : t.kind = .text) (ts : List Token) :
    layout (t :: ts) = textLine t.text ++ layout ts := by
  rw [layout, ht]

theorem layout_textToken (passed : List Char) (ts : List Token) :
    layout (textToken passed ++ ts) = textLine passed.reverse ++ layout ts := by
  cases passed with
  | nil => rfl
  | cons c passed => exact layout_text rfl ts

theorem layout_leaf {t : Token} {ts r : List Token} {s : List Char} (ht : t.kind = .opening)
    (hl : leafText? t.name ts = some (s, r)) :
    layout (t :: ts) = ⟨.whole, t.text ++ s⟩ :: layout r := by
  rw [layout, ht]
  dsimp only
  split
  · rename_i hx
    obtain ⟨rfl, rfl⟩ := Prod.mk.inj (Option.some.inj (hl.symm.trans hx))
    rfl
  · rename_i hx
    rw [hl] at hx
    simp at hx

theorem layout_alone {t : Token} {ts : List Token} (ht : t.kind ≠ .text)
    (hl : t.kind = .opening → leafText? t.name ts = none) :
    layout (t :: ts) = ⟨t.kind.lineKind, t.text⟩ :: layout ts := by
  rw [layout]
  cases hk : t.kind with
  | text => exact absurd hk ht
  | opening =>
    dsimp only
    split
    · rename_i hx
      rw [hl hk] at hx
      simp at hx
    · rfl
  | declaration | closing | empty => rfl

namespace Segment

variable {ts rest us : List Token} {l : Line}

theorem text_eq (h : Segment ts l rest) : l.text = joined ts := by
  cases h with
  | leaf => rfl
  | alone => simp [joined]

theorem head (h : Segment ts l rest) : ∃ t ts', ts = t :: ts' ∧ t.kind ≠ .text := by
  cases h with
  | leaf ht => exact ⟨_, _, rfl, by simp [ht]⟩
  | alone ht => exact ⟨_, _, rfl, ht⟩

theorem getLast (h : Segment ts l rest) : ∀ t ∈ ts.getLast?, t.kind ≠ .text := by
  cases h with
  | leaf _ _ hc _ => simp [List.getLast?_cons, hc]
  | alone ht _ => simpa using ht

theorem of_markupOf (h : Segment ts l rest) (hm : markupOf us = markupOf rest) :
    Segment ts l us := by
  cases h with
  | leaf ht hu hc hn => exact .leaf ht hu hc hn
  | alone ht hl =>
    refine .alone ht fun hk => ?_
    rw [leafText?_eq_none_iff, hm, ← leafText?_eq_none_iff]
    exact hl hk

theorem layout_append (h : Segment ts l rest) : layout (ts ++ rest) = l :: layout rest := by
  cases h with
  | @leaf t c us _ ht hu hc hn =>
    have hl : leafText? t.name (us ++ c :: rest) = some (joined (us ++ [c]), rest) :=
      leafText?_eq_some_iff.2 ⟨us, c, rfl, hu, hc, hn, rfl⟩
    rw [List.cons_append, List.append_assoc, List.singleton_append, layout_leaf ht hl, joined_cons]
  | alone ht hl => exact layout_alone ht hl

end Segment

/-- Layouts are built from texts and segments. -/
theorem layout_induction {motive : List Token → Prop} (nil : motive [])
    (text : ∀ t ts, t.kind = .text → motive ts → motive (t :: ts))
    (segment : ∀ ts l rest, Segment ts l rest → motive rest → motive (ts ++ rest)) :
    ∀ ts, motive ts := by
  intro ts
  fun_induction layout ts with
  | case1 => exact nil
  | case2 t ts ht ih => exact text t ts ht ih
  | case3 t ts ht s r hl ih =>
    obtain ⟨us, c, rfl, hu, hc, hn, rfl⟩ := leafText?_eq_some_iff.1 hl
    simpa using segment _ _ r (.leaf ht hu hc hn) ih
  | case4 t ts ht hl ih => exact segment [t] _ ts (.alone (by simp [ht]) fun _ => hl) ih
  | case5 t ts ht ih => exact segment [t] _ ts (.alone (by simp [ht]) (by simp [ht])) ih
  | case6 t ts ht ih => exact segment [t] _ ts (.alone (by simp [ht]) (by simp [ht])) ih
  | case7 t ts ht ih => exact segment [t] _ ts (.alone (by simp [ht]) (by simp [ht])) ih

end ElementMarkup.Markup
