import ElementMarkup.Proofs.Sexp.Lexeme
import ElementMarkup.Proofs.Sexp.LongRun

/-!
# The grammar of lexemes

Every source text is cut into lexemes, each of which stands before the rest of the text, in exactly
one way, and this is the way the reader cuts it.
-/

set_option autoImplicit false

namespace ElementMarkup.Sexp

/-- A source text and the lexemes that it is made of, each before the rest of the text. -/
inductive Cut : List Char → List Lexeme → Prop where
  | nil : Cut [] []
  | cons {l : Lexeme} {after : List Char} {ls : List Lexeme} (h : l.Before after)
      (hs : Cut after ls) : Cut (l.text ++ after) (l :: ls)

theorem lexemeAt_before (c : Char) (cs : List Char) :
    (lexemeAt c cs).1.Before (lexemeAt c cs).2 := by
  unfold lexemeAt
  by_cases hblank : Text.isBlank c = true
  · rw [if_pos hblank]
    have hrun : ∀ d ∈ c :: cs.takeWhile Text.isBlank, Text.isBlank d = true :=
      List.forall_mem_cons.2 ⟨hblank, fun d hd => List.mem_takeWhile_imp hd⟩
    exact .blank (by simp) hrun (ends_dropWhile _ cs)
  rw [if_neg hblank]
  by_cases hsemi : (c == ';') = true
  · obtain rfl := beq_iff_eq.1 hsemi
    rw [if_pos hsemi]
    have hline : ∀ d ∈ cs.takeWhile (· != '\n'), d ≠ '\n' := fun d hd =>
      bne_iff_ne.1 (List.mem_takeWhile_imp (p := (· != '\n')) hd)
    exact .comment hline (ends_dropWhile _ cs)
  rw [if_neg hsemi]
  by_cases hopening : isOpening c = true
  · rw [if_pos hopening]
    exact .opening hopening
  rw [if_neg hopening]
  by_cases hclosing : isClosing c = true
  · rw [if_pos hclosing]
    exact .closing hclosing
  rw [if_neg hclosing]
  by_cases hquote : (c == '"') = true
  · obtain rfl := beq_iff_eq.1 hquote
    rw [if_pos hquote]
    cases hs : stringRest? cs with
    | none => exact .unterminated (stringRest?_eq_none_iff.1 hs)
    | some p =>
      obtain ⟨text, after⟩ := p
      obtain ⟨body, hbody, rfl, _⟩ := exists_of_stringRest? hs
      exact .string hbody
  · rw [if_neg hquote]
    have hc : isAtomChar c = true := by
      rw [isAtomChar_iff]
      simp only [Bool.not_eq_true, beq_eq_false_iff_ne] at hblank hsemi hopening hclosing hquote
      exact ⟨hblank, hopening, hclosing, hquote, hsemi⟩
    have hrun : ∀ d ∈ c :: cs.takeWhile isAtomChar, isAtomChar d = true :=
      List.forall_mem_cons.2 ⟨hc, fun d hd => List.mem_takeWhile_imp hd⟩
    exact .atom (by simp) hrun (ends_dropWhile _ cs)

theorem cut_lexemes (source : List Char) : Cut source (lexemes source) := by
  fun_induction lexemes source with
  | case1 => exact .nil
  | case2 c cs ih =>
    have h := Cut.cons (lexemeAt_before c cs) ih
    rwa [lexemeAt_append] at h

/-- A source text is made of the lexemes that the reader cuts it into, and of no others. -/
theorem cut_iff {source : List Char} {ls : List Lexeme} : Cut source ls ↔ lexemes source = ls := by
  constructor
  · intro h
    induction h with
    | nil => rw [lexemes]
    | cons h _ ih => rw [h.lexemes, ih]
  · rintro rfl
    exact cut_lexemes source

theorem Cut.before {source : List Char} {ls : List Lexeme} (h : Cut source ls) {l : Lexeme}
    (hl : l ∈ ls) : ∃ after, l.Before after := by
  induction h with
  | nil => simp at hl
  | @cons k after ls hk _ ih =>
    rcases List.mem_cons.1 hl with rfl | hl
    · exact ⟨after, hk⟩
    · exact ih hl

end ElementMarkup.Sexp
