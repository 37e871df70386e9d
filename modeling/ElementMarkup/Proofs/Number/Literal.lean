import Mathlib.Data.List.TakeDrop
import Mathlib.Data.List.TakeWhile
import ElementMarkup.Number.Literal

/-!
# The grammar of number literals

A literal is read from a text exactly if it spells the text: a sign or none, then digits, or digits
with a point on at least one side of it, then an exponent with at least one digit, or none. An
integer is refused for its digits only where a text has so many of them in a row.
-/

set_option autoImplicit false

namespace ElementMarkup

def Digits (cs : List Char) : Prop := ∀ c ∈ cs, Text.isDigit c = true

inductive SignText : Bool → List Char → Prop where
  | none : SignText false []
  | plus : SignText false ['+']
  | minus : SignText true ['-']

inductive MantissaText : List Char → Option (List Char) → List Char → Prop where
  | whole {ds : List Char} (h : Digits ds) (hne : ds ≠ []) : MantissaText ds none ds
  | pointed {w f : List Char} (hw : Digits w) (hf : Digits f) (hne : w ≠ [] ∨ f ≠ []) :
      MantissaText w (some f) (w ++ '.' :: f)

inductive ExponentText : Option (Bool × List Char) → List Char → Prop where
  | none : ExponentText none []
  | some {e : Char} {negative : Bool} {sign ds : List Char} (he : e = 'e' ∨ e = 'E')
      (hs : SignText negative sign) (hd : Digits ds) (hne : ds ≠ []) :
      ExponentText (some (negative, ds)) (e :: (sign ++ ds))

def NumberLiteral.Spells (l : NumberLiteral) (cs : List Char) : Prop :=
  ∃ sign mantissa exponent, cs = sign ++ (mantissa ++ exponent) ∧ SignText l.negative sign ∧
    MantissaText l.whole l.fraction mantissa ∧ ExponentText l.exponent exponent

def EndsDigits (cs : List Char) : Prop := ∀ c rest, cs = c :: rest → Text.isDigit c = false

def Unsigned (cs : List Char) : Prop := ∀ c rest, cs = c :: rest → c ≠ '+' ∧ c ≠ '-'

theorem ne_sign_of_isDigit {c : Char} (h : Text.isDigit c = true) : c ≠ '+' ∧ c ≠ '-' := by
  constructor
  · rintro rfl
    revert h
    decide
  · rintro rfl
    revert h
    decide

theorem Digits.unsigned_append {ds : List Char} (h : Digits ds) (hne : ds ≠ [])
    (rest : List Char) : Unsigned (ds ++ rest) := by
  obtain ⟨d, ds, rfl⟩ := List.exists_cons_of_ne_nil hne
  rintro c _ hc
  obtain ⟨rfl, _⟩ := List.cons.inj hc
  exact ne_sign_of_isDigit (h d List.mem_cons_self)

theorem takeSign_append {negative : Bool} {sign rest : List Char} (hs : SignText negative sign)
    (hr : Unsigned rest) : takeSign (sign ++ rest) = (negative, rest) := by
  cases hs with
  | plus => rfl
  | minus => rfl
  | none =>
    rw [List.nil_append]
    unfold takeSign
    split
    · exact absurd rfl (hr _ _ rfl).2
    · exact absurd rfl (hr _ _ rfl).1
    · rfl

theorem exists_signText (cs : List Char) :
    ∃ sign, SignText (takeSign cs).1 sign ∧ cs = sign ++ (takeSign cs).2 := by
  unfold takeSign
  split
  · exact ⟨['-'], .minus, rfl⟩
  · exact ⟨['+'], .plus, rfl⟩
  · exact ⟨[], .none, rfl⟩

theorem takeDigits_append {ds rest : List Char} (hd : Digits ds) (hr : EndsDigits rest) :
    takeDigits (ds ++ rest) = (ds, rest) := by
  have hrest : rest.takeWhile Text.isDigit = [] ∧ rest.dropWhile Text.isDigit = rest := by
    cases rest with
    | nil => exact ⟨rfl, rfl⟩
    | cons c cs =>
      have hc := hr c cs rfl
      simp [hc]
  rw [takeDigits, List.span_eq_takeWhile_dropWhile, List.takeWhile_append_of_pos hd,
    List.dropWhile_append_of_pos hd, hrest.1, hrest.2, List.append_nil]

theorem takeDigits_spec (cs : List Char) :
    Digits (takeDigits cs).1 ∧ cs = (takeDigits cs).1 ++ (takeDigits cs).2 := by
  rw [takeDigits, List.span_eq_takeWhile_dropWhile]
  exact ⟨fun c hc => List.mem_takeWhile_imp hc, List.takeWhile_append_dropWhile.symm⟩

theorem exponentOf?_eq_some_iff {cs : List Char} {e : Option (Bool × List Char)} :
    exponentOf? cs = some e ↔ ExponentText e cs := by
  constructor
  · intro h
    cases cs with
    | nil =>
      obtain rfl := Option.some.inj h
      exact .none
    | cons c cs =>
      obtain ⟨sign, hs, hcs⟩ := exists_signText cs
      unfold exponentOf? at h
      dsimp only at h
      split at h
      · rename_i hc
        split at h
        · rename_i hd
          obtain rfl := Option.some.inj h
          simp only [Bool.and_eq_true, Bool.not_eq_true', List.isEmpty_eq_false_iff,
            List.all_eq_true] at hd
          rw [Bool.or_eq_true, beq_iff_eq, beq_iff_eq] at hc
          have htext := ExponentText.some hc hs hd.2 hd.1
          rwa [← hcs] at htext
        · simp at h
      · simp at h
  · intro h
    cases h with
    | none => rfl
    | @some c negative sign ds he hs hd hne =>
      have hu := hd.unsigned_append hne []
      rw [List.append_nil] at hu
      have hc : (c == 'e' || c == 'E') = true := by
        rw [Bool.or_eq_true, beq_iff_eq, beq_iff_eq]
        exact he
      have hall : (!ds.isEmpty && ds.all Text.isDigit) = true := by
        simp only [Bool.and_eq_true, Bool.not_eq_true', List.isEmpty_eq_false_iff,
          List.all_eq_true]
        exact ⟨hne, hd⟩
      rw [exponentOf?, if_pos hc, takeSign_append hs hu]
      dsimp only
      rw [if_pos hall]

theorem ExponentText.endsDigits {e : Option (Bool × List Char)} {cs : List Char}
    (h : ExponentText e cs) : EndsDigits cs := by
  rintro c _ hc
  cases h with
  | none => simp at hc
  | some he =>
    obtain ⟨rfl, _⟩ := List.cons.inj hc
    rcases he with rfl | rfl <;> decide

theorem ExponentText.head_ne {e : Option (Bool × List Char)} {cs : List Char}
    (h : ExponentText e cs) (rest : List Char) : cs ≠ '.' :: rest := by
  rintro rfl
  cases h with
  | some he => rcases he with he | he <;> simp at he

theorem MantissaText.unsigned_append {w mantissa : List Char} {f : Option (List Char)}
    (h : MantissaText w f mantissa) (rest : List Char) : Unsigned (mantissa ++ rest) := by
  cases h with
  | whole hd hne => exact hd.unsigned_append hne rest
  | pointed hw hf hne =>
    by_cases hw' : w = []
    · subst hw'
      rintro c _ hc
      obtain ⟨rfl, _⟩ := List.cons.inj hc
      decide
    · rw [List.append_assoc]
      exact hw.unsigned_append hw' _

theorem NumberLiteral.read?_of_spells {l : NumberLiteral} {cs : List Char} (h : l.Spells cs) :
    read? cs = some l := by
  obtain ⟨negative, whole, fraction, exponent⟩ := l
  obtain ⟨sign, mantissa, ending, rfl, hs, hm, he⟩ := h
  have hexponent := exponentOf?_eq_some_iff.2 he
  rw [read?, takeSign_append hs (hm.unsigned_append ending)]
  dsimp only at hm he hexponent ⊢
  cases hm with
  | whole hd hne =>
    have hempty : ¬ whole.isEmpty = true := by simpa using hne
    rw [takeDigits_append hd he.endsDigits]
    dsimp only
    split
    · rename_i rest
      exact absurd rfl (he.head_ne rest)
    · rw [if_neg hempty, hexponent, Option.map_some]
  | @pointed f hw hf hne =>
    have hpoint : EndsDigits ('.' :: (f ++ ending)) := by
      rintro c _ hc
      obtain ⟨rfl, _⟩ := List.cons.inj hc
      decide
    have hempty : ¬ (whole.isEmpty && f.isEmpty) = true := by
      rw [Bool.and_eq_true, List.isEmpty_iff, List.isEmpty_iff]
      rintro ⟨hw', hf'⟩
      exact hne.elim (· hw') (· hf')
    rw [List.append_assoc, List.cons_append, takeDigits_append hw hpoint]
    change (if (whole.isEmpty && (takeDigits (f ++ ending)).1.isEmpty) = true then none
      else (exponentOf? (takeDigits (f ++ ending)).2).map fun e =>
        NumberLiteral.mk negative whole (some (takeDigits (f ++ ending)).1) e) = _
    rw [takeDigits_append hf he.endsDigits, if_neg hempty, hexponent, Option.map_some]

theorem NumberLiteral.spells_of_read? {l : NumberLiteral} {cs : List Char}
    (h : read? cs = some l) : l.Spells cs := by
  obtain ⟨sign, hs, hcs⟩ := exists_signText cs
  obtain ⟨hw, hwhole⟩ := takeDigits_spec (takeSign cs).2
  unfold read? at h
  dsimp only at h
  split at h
  · rename_i rest heq
    obtain ⟨hf, hfraction⟩ := takeDigits_spec rest
    split at h
    · simp at h
    · rename_i hne
      obtain ⟨e, he, rfl⟩ := Option.map_eq_some_iff.1 h
      rw [heq] at hwhole
      rw [Bool.and_eq_true, List.isEmpty_iff, List.isEmpty_iff, not_and_or] at hne
      refine ⟨sign, _, _, ?_, hs, .pointed hw hf hne, exponentOf?_eq_some_iff.1 he⟩
      rw [List.append_assoc, List.cons_append, ← hfraction, ← hwhole]
      exact hcs
  · split at h
    · simp at h
    · rename_i hne
      obtain ⟨e, he, rfl⟩ := Option.map_eq_some_iff.1 h
      rw [List.isEmpty_iff] at hne
      refine ⟨sign, _, _, ?_, hs, .whole hw hne, exponentOf?_eq_some_iff.1 he⟩
      rw [← hwhole]
      exact hcs

/-- A literal is read from a text exactly if it spells the text. -/
theorem NumberLiteral.read?_eq_some_iff {l : NumberLiteral} {cs : List Char} :
    read? cs = some l ↔ l.Spells cs :=
  ⟨spells_of_read?, read?_of_spells⟩

theorem NumberLiteral.not_spells_of_read? {cs : List Char} (h : read? cs = none)
    (l : NumberLiteral) : ¬ l.Spells cs := by
  intro hl
  rw [read?_of_spells hl] at h
  simp at h

/-- The text has a run of so many digits, more than an integer may have. -/
def HasLongRun (cs : List Char) (digits : Nat) : Prop :=
  ∃ run, run <:+: cs ∧ Digits run ∧ run.length = digits ∧ digitLimit < digits

theorem HasLongRun.mono {cs ds : List Char} {digits : Nat} (h : HasLongRun cs digits)
    (hs : cs <:+: ds) : HasLongRun ds digits := by
  obtain ⟨run, hr, hd⟩ := h
  exact ⟨run, hr.trans hs, hd⟩

/-- An integer is refused exactly if it has too many digits, and so is nothing else. -/
theorem NumberLiteral.value_eq_error_iff {l : NumberLiteral} {digits : Nat} :
    l.value = .error digits ↔
      l.fraction = none ∧ l.exponent = none ∧ l.whole.length = digits ∧ digitLimit < digits := by
  unfold value
  rw [← Option.isNone_iff_eq_none, ← Option.isNone_iff_eq_none]
  split
  · rename_i h
    rw [Bool.and_eq_true] at h
    split
    · simp only [reduceCtorEq, false_iff]
      omega
    · simp only [Except.error.injEq, h, true_and]
      omega
  · rename_i h
    rw [Bool.and_eq_true] at h
    simp only [reduceCtorEq, false_iff]
    tauto

theorem MantissaText.whole_isPrefix {w mantissa : List Char} {f : Option (List Char)}
    (h : MantissaText w f mantissa) : Digits w ∧ w <+: mantissa := by
  cases h with
  | whole hd => exact ⟨hd, List.prefix_rfl⟩
  | pointed hd => exact ⟨hd, List.prefix_append _ _⟩

theorem NumberLiteral.Spells.hasLongRun {l : NumberLiteral} {cs : List Char} {digits : Nat}
    (hs : l.Spells cs) (h : l.value = .error digits) : HasLongRun cs digits := by
  obtain ⟨-, -, hlength, hlimit⟩ := value_eq_error_iff.1 h
  obtain ⟨sign, mantissa, exponent, rfl, -, hm, -⟩ := hs
  obtain ⟨hd, hw⟩ := hm.whole_isPrefix
  have hin : l.whole <:+: mantissa ++ exponent :=
    (hw.trans (List.prefix_append mantissa exponent)).isInfix
  exact ⟨l.whole, hin.trans (List.suffix_append sign _).isInfix, hd, hlength, hlimit⟩

end ElementMarkup
