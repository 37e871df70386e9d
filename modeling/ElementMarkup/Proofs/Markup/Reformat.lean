import ElementMarkup.Proofs.Markup.Segment
import ElementMarkup.Proofs.Text.Trim

/-!
# Reformatting

Reformatted text is an edit of the newlines of the markup it comes from. Scanned again it gives
tokens with the same markup and the same lines, whatever the markup was. So reformatting a second
time changes nothing, and it never touches a tag or a declaration.
-/

set_option autoImplicit false

namespace ElementMarkup.Markup

variable {xml : Bool}

def followed (ls : List Line) : List Char := ls.flatMap fun l => '\n' :: l.text

def linesText (ls : List Line) : List Char := joinLines (ls.map Line.text)

/-- The newline before lines, if there are any. -/
def lead (ls : List Line) : List Char := if ls.isEmpty then [] else ['\n']

theorem linesText_cons (l : Line) (ls : List Line) :
    linesText (l :: ls) = l.text ++ followed ls := by
  induction ls generalizing l with
  | nil => simp [linesText, joinLines, followed, List.intercalate]
  | cons l' ls ih =>
    have h := ih l'
    unfold linesText joinLines at h ⊢
    rw [List.map_cons, List.map_cons, List.intercalate_cons_cons, ← List.map_cons, h]
    simp [followed]

theorem followed_eq (ls : List Line) : followed ls = lead ls ++ linesText ls := by
  cases ls with
  | nil => rfl
  | cons l ls =>
    rw [linesText_cons]
    rfl

theorem newlines_lead (ls : List Line) : Newlines (lead ls) := by
  unfold lead Newlines
  split <;> simp

theorem atLineEnd_followed (ls : List Line) : AtLineEnd (followed ls) := by
  cases ls with
  | nil => simp [followed, AtLineEnd]
  | cons l ls => simp [followed, AtLineEnd]

theorem textLine_eq {a k b : List Char} (ha : Newlines a) (hk : Text.Bare (· == '\n') k)
    (hb : Newlines b) : textLine (a ++ (k ++ b)) = if k.isEmpty then [] else [⟨.whole, k⟩] := by
  have h : Text.trimNewlines (a ++ (k ++ b)) = k :=
    Text.trimBy_eq (fun c hc => beq_iff_eq.2 (ha c hc)) hk fun c hc => beq_iff_eq.2 (hb c hc)
  rw [textLine, h]

theorem exists_kept (s : List Char) : ∃ a k b, s = a ++ (k ++ b) ∧ Newlines a ∧
    Text.Bare (· == '\n') k ∧ Newlines b := by
  obtain ⟨a, b, hs, ha, hb⟩ := Text.trimBy_append (p := (· == '\n')) s
  exact ⟨a, _, b, hs, fun c hc => eq_of_beq (ha c hc), Text.trimBy_bare s,
    fun c hc => eq_of_beq (hb c hc)⟩

/-- The lines of tokens are an edit of the newlines of the text that the tokens spell. -/
theorem edit_followed (ts : List Token) : NewlineEdit (joined ts) (followed (layout ts)) := by
  induction ts using layout_induction with
  | nil =>
    rw [layout_nil]
    exact .nil
  | text t ts ht ih =>
    obtain ⟨a, k, b, hs, ha, hk, hb⟩ := exists_kept t.text
    have hrest := NewlineEdit.drop hb ih (atLineEnd_followed _)
    rw [joined_cons, layout_text ht, hs, textLine_eq ha hk hb, List.append_assoc, List.append_assoc]
    cases k with
    | nil => exact .drop ha hrest (atLineEnd_followed _)
    | cons c k => exact .single ha (hrest.append_left (c :: k))
  | segment ts l rest h ih =>
    rw [joined_append, h.layout_append, ← h.text_eq]
    exact .insert (ih.append_left l.text)

theorem withoutNewlines_followed (ls : List Line) :
    withoutNewlines (followed ls) = withoutNewlines (linesText ls) := by
  rw [followed_eq, withoutNewlines_append, (newlines_lead ls).withoutNewlines_eq, List.nil_append]

theorem scan_followed (ls : List Line) (passed : List Char) :
    scan xml passed (followed ls) = scan xml (lead ls ++ passed) (linesText ls) := by
  rw [followed_eq, scan_plain _ ((newlines_lead ls).plain _)]
  congr 2
  unfold lead
  split <;> rfl

structure Alike (us ts : List Token) : Prop where
  markup : markupOf us = markupOf ts
  lines : layout us = layout ts

theorem Alike.text {us ts : List Token} {t : Token} (h : Alike us ts) (passed : List Char)
    (ht : t.kind = .text) (hl : textLine passed.reverse = textLine t.text) :
    Alike (textToken passed ++ us) (t :: ts) := by
  constructor
  · rw [markupOf_append, markupOf_textToken, h.markup]
    simp [markupOf, Token.isMarkup, ht]
  · rw [layout_textToken, layout_text ht, hl, h.lines]

theorem Alike.behind_newlines {us ts : List Token} {passed : List Char} (h : Alike us ts)
    (hp : Newlines passed) : Alike (textToken passed ++ us) ts := by
  constructor
  · rw [markupOf_append, markupOf_textToken, h.markup]
    rfl
  · have hl : textLine passed.reverse = [] := by
      simpa using textLine_eq (k := []) (b := []) hp.reverse ⟨by simp, by simp⟩ newlines_nil
    rw [layout_textToken, hl, h.lines]
    rfl

theorem Alike.segment {ts us rest : List Token} {l : Line} (h : Alike us rest)
    (hs : Segment ts l rest) : Alike (ts ++ us) (ts ++ rest) := by
  constructor
  · rw [markupOf_append, markupOf_append, h.markup]
  · rw [(hs.of_markupOf h.markup).layout_append, hs.layout_append, h.lines]

/-- The tokens of a segment are the first tokens behind the edit. -/
theorem Segment.scanned {ts rest : List Token} {l : Line} (hs : Segment ts l rest)
    (h : Scanned xml (ts ++ rest) []) : Scanned xml ts (followed (layout rest)) := by
  have hr := (scanned_append.1 h).1
  rw [List.append_nil] at hr
  exact hr.edit (edit_followed rest) hs.getLast

theorem Segment.breaks {ts rest : List Token} {l : Line} (hs : Segment ts l rest)
    (h : Scanned xml (ts ++ rest) []) : Breaks xml (linesText (layout (ts ++ rest))) := by
  obtain ⟨t, ts', rfl, ht⟩ := hs.head
  rw [hs.layout_append, linesText_cons, hs.text_eq]
  exact (hs.scanned h).breaks ht

theorem Scanned.breaks_lines {t : Token} {ts : List Token} (h : Scanned xml (t :: ts) [])
    (ht : t.kind = .text) : Breaks xml (linesText (layout ts)) := by
  obtain ⟨_, ends, rest⟩ := h.of_text ht
  cases ts using layout_induction with
  | nil =>
    rw [layout_nil]
    exact .inl rfl
  | text u us hu => exact absurd hu (rest.not_text_of_breaks ends)
  | segment us l rest' hs => exact hs.breaks rest

/-- Scanning the lines of tokens gives tokens with the same markup and the same lines. -/
theorem alike_scan {ts : List Token} (h : Scanned xml ts []) {passed : List Char}
    (hp : Newlines passed) : Alike (scan xml passed (linesText (layout ts))) ts := by
  induction ts using layout_induction generalizing passed with
  | nil =>
    rw [layout_nil]
    change Alike (scan xml passed []) []
    rw [scan_nil, ← List.append_nil (textToken passed)]
    exact Alike.behind_newlines ⟨rfl, rfl⟩ hp
  | text t ts ht ih =>
    obtain ⟨plain, _, rest⟩ := h.of_text ht
    obtain ⟨a, k, b, hs, ha, hk, hb⟩ := exists_kept t.text
    have hline : textLine t.text = if k.isEmpty then [] else [⟨.whole, k⟩] := by
      rw [hs, textLine_eq ha hk hb]
    rw [layout_text ht, hline]
    -- A text that is dropped adds nothing to what was passed over; one that is kept is passed over
    -- together with the newline behind it, which the second layout trims again.
    by_cases hn : k.isEmpty = true
    · rw [if_pos hn] at hline ⊢
      exact (ih rest hp).text [] ht hline.symm
    · have hedit := NewlineEdit.drop hb (edit_followed ts) (atLineEnd_followed _)
      have hpassed : (lead (layout ts) ++ (k.reverse ++ passed)).reverse =
          passed.reverse ++ (k ++ (lead (layout ts)).reverse) := by simp
      rw [hs, plain_append, plain_append, List.append_nil] at plain
      rw [if_neg hn, List.singleton_append, linesText_cons, scan_plain _ (plain.2.1.edit hedit),
        scan_followed, scan_of_breaks (h.breaks_lines ht)]
      refine (ih rest newlines_nil).text _ ht ?_
      rw [hpassed, hline, textLine_eq hp.reverse hk (newlines_lead _).reverse]
  | segment ts l rest hs ih =>
    have hrest : Alike (scan xml [] (followed (layout rest))) rest := by
      rw [scan_followed, List.append_nil]
      exact ih (scanned_append.1 h).2 (newlines_lead _)
    rw [scan_of_breaks (hs.breaks h), hs.layout_append, linesText_cons, hs.text_eq,
      (hs.scanned h).scan_eq]
    exact (hrest.segment hs).behind_newlines hp

theorem alike_reformat (markup : List Char) :
    Alike (tokens xml (reformat xml markup)) (tokens xml markup) :=
  alike_scan (scanned_tokens markup) newlines_nil

theorem reformat_reformat (xml : Bool) (markup : List Char) :
    reformat xml (reformat xml markup) = reformat xml markup := by
  have h : layout (tokens xml (reformat xml markup)) = layout (tokens xml markup) :=
    (alike_reformat markup).lines
  calc
    reformat xml (reformat xml markup)
        = linesText (layout (tokens xml (reformat xml markup))) := rfl
    _ = linesText (layout (tokens xml markup)) := by rw [h]
    _ = reformat xml markup := rfl

/-- A line that is not empty and neither starts nor ends with a newline. -/
def Line.Solid (l : Line) : Prop := l.text ≠ [] ∧ Text.Bare (· == '\n') l.text

theorem Scanned.solid {ts : List Token} {r : List Char} (h : Scanned xml ts r) {t : Token}
    (hm : t ∈ ts) (ht : t.kind ≠ .text) : t.text ≠ [] ∧ Text.Bare (· == '\n') t.text := by
  obtain ⟨⟨a, ha⟩, b, hb⟩ := h.markup_ends hm ht
  refine ⟨by simp [← ha], fun c hc => ?_, fun c hc => ?_⟩
  · rw [← ha] at hc
    obtain rfl : '<' = c := Option.some.inj hc
    decide
  · rw [← hb, List.getLast?_concat] at hc
    obtain rfl : '>' = c := Option.some.inj hc
    decide

theorem Segment.solid {ts rest : List Token} {l : Line} (hs : Segment ts l rest) {r : List Char}
    (h : Scanned xml ts r) : l.Solid := by
  cases hs with
  | @leaf t c us _ ht _ hc _ =>
    obtain ⟨hne, htb⟩ := h.solid (t := t) (by simp) (by simp [ht])
    obtain ⟨hce, hcb⟩ := h.solid (t := c) (by simp) (by simp [hc])
    have hj : joined (t :: (us ++ [c])) = t.text ++ (joined us ++ c.text) := by
      simp [joined]
    rw [Line.Solid, hj]
    exact ⟨by simp [hne], htb.append hcb _ hne hce⟩
  | alone ht _ => exact h.solid (List.mem_singleton_self _) ht

theorem solid_layout {ts : List Token} (h : Scanned xml ts []) : ∀ l ∈ layout ts, l.Solid := by
  induction ts using layout_induction with
  | nil => simp [layout_nil]
  | text t ts ht ih =>
    obtain ⟨a, k, b, hs, ha, hk, hb⟩ := exists_kept t.text
    rw [layout_text ht, hs, textLine_eq ha hk hb, List.forall_mem_append]
    refine ⟨?_, ih (h.of_text ht).2.2⟩
    split
    · simp
    · rename_i hn
      simpa using ⟨by simpa using hn, hk⟩
  | segment ts l rest hs ih =>
    rw [hs.layout_append, List.forall_mem_cons]
    exact ⟨hs.solid (scanned_append.1 h).1, ih (scanned_append.1 h).2⟩

theorem bare_linesText {ls : List Line} (h : ∀ l ∈ ls, l.Solid) :
    Text.Bare (· == '\n') (linesText ls) := by
  induction ls with
  | nil => exact ⟨by simp [linesText, joinLines], by simp [linesText, joinLines]⟩
  | cons l ls ih =>
    rw [List.forall_mem_cons] at h
    rw [linesText_cons]
    cases ls with
    | nil => simpa [followed] using h.1.2
    | cons l' ls =>
      have hne : linesText (l' :: ls) ≠ [] := by
        rw [linesText_cons]
        simp [(h.2 l' List.mem_cons_self).1]
      rw [followed_eq]
      exact h.1.2.append (ih h.2) _ h.1.1 hne

/-- Reformatting moves newlines and nothing else, leaves none at either end, and keeps every tag
and declaration, in order and as what it was. -/
theorem reformat_keeps_markup (xml : Bool) (markup : List Char) :
    withoutNewlines (reformat xml markup) = withoutNewlines markup ∧
      (reformat xml markup).head? ≠ some '\n' ∧ (reformat xml markup).getLast? ≠ some '\n' ∧
      markupOf (tokens xml (reformat xml markup)) = markupOf (tokens xml markup) := by
  have hedit := (edit_followed (tokens xml markup)).withoutNewlines_eq
  have hscanned : Scanned xml (tokens xml markup) [] := scanned_tokens markup
  have hbare := bare_linesText (solid_layout hscanned)
  rw [joined_tokens, withoutNewlines_followed] at hedit
  refine ⟨hedit.symm, fun h => ?_, fun h => ?_, (alike_reformat markup).markup⟩
  · exact absurd (hbare.1 '\n' h) (by decide)
  · exact absurd (hbare.2 '\n' h) (by decide)

end ElementMarkup.Markup
