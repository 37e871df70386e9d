import ElementMarkup.Proofs.Failure
import ElementMarkup.Proofs.Number.Literal
import ElementMarkup.Proofs.Sexp.Lexeme

/-!
# Forms with too many digits

A lexeme is a part of the source, so the source has the run of digits that an atom is refused for.
-/

set_option autoImplicit false

namespace ElementMarkup.Sexp

theorem stringRest?_append {cs body after : List Char} (h : stringRest? cs = some (body, after)) :
    body ++ after = cs := by
  obtain ⟨text, _, rfl, rfl⟩ := exists_of_stringRest? h
  rw [List.append_assoc, List.singleton_append]

theorem lexemeAt_append (c : Char) (cs : List Char) :
    (lexemeAt c cs).1.text ++ (lexemeAt c cs).2 = c :: cs := by
  unfold lexemeAt
  split
  · simp
  split
  · simp
  split
  · rfl
  split
  · rfl
  split
  · split
    · next h => simp [stringRest?_append h]
    · rfl
  · simp

theorem flatMap_lexemes (source : List Char) : (lexemes source).flatMap Lexeme.text = source := by
  fun_induction lexemes source with
  | case1 => rfl
  | case2 c cs ih => rw [List.flatMap_cons, ih, lexemeAt_append]

theorem lexeme_isInfix {source : List Char} {l : Lexeme} (h : l ∈ lexemes source) :
    l.text <:+: source := by
  obtain ⟨before, after, hl⟩ := List.append_of_mem h
  rw [← flatMap_lexemes source, hl]
  exact ⟨before.flatMap Lexeme.text, after.flatMap Lexeme.text, by simp⟩

theorem atomDatum_tooManyDigits {text : List Char} {digits : Nat}
    (h : atomDatum text = .error (.tooManyDigits digits)) : HasLongRun text digits := by
  unfold atomDatum at h
  split at h
  · cases h
  · next l hl =>
    split at h
    · cases h
    · next hv =>
      cases h
      exact (NumberLiteral.spells_of_read? hl).hasLongRun hv

theorem close_error {s : ReadState} {closer : Char} {e : ReadError}
    (h : s.close closer = .error e) :
    ∃ fault line, e = .located fault line := by
  unfold ReadState.close at h
  split at h
  · exact ⟨_, _, (Except.error.inj h).symm⟩
  · split at h
    · cases h
    · exact ⟨_, _, (Except.error.inj h).symm⟩

theorem accept_tooManyDigits {s : ReadState} {l : Lexeme} {digits : Nat}
    (h : s.accept l = .error (.tooManyDigits digits)) : HasLongRun l.text digits := by
  unfold ReadState.accept at h
  split at h
  · cases h
  · cases h
  · cases h
  · obtain ⟨_, _, he⟩ := close_error h
    cases he
  · cases h
  · split at h <;> cases h
  · exact atomDatum_tooManyDigits (map_eq_error_iff.1 h)

theorem readAll_tooManyDigits {source : List Char} {digits : Nat}
    (h : readAll source = .error (.tooManyDigits digits)) : HasLongRun source digits := by
  unfold readAll at h
  rcases bind_eq_error_iff.1 h with h | ⟨s, -, h⟩
  · obtain ⟨l, hl, s, hs⟩ := exists_of_foldlM_error h
    exact (accept_tooManyDigits (map_eq_error_iff.1 hs)).mono (lexeme_isInfix hl)
  · unfold ReadState.finish at h
    split at h <;> cases h

/-- A form is refused for its digits only if its source has so many digits in a row. -/
theorem read_tooManyDigits {source : List Char} {digits : Nat}
    (h : read source = .error (.tooManyDigits digits)) : HasLongRun source digits := by
  unfold read at h
  split at h
  · next hr =>
    cases h
    exact readAll_tooManyDigits hr
  · cases h
  · cases h

end ElementMarkup.Sexp
