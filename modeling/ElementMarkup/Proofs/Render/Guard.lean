import ElementMarkup.Expression.Stages
import ElementMarkup.Proofs.Failure

/-!
# What escapes the guard

Of what a library for expressions raises, evaluation catches faults, but while a source is compiled
only those of the language. What it passes on is exactly one of a few things.
-/

set_option autoImplicit false

namespace ElementMarkup.Expression

theorem Raised.whileCompiling_eq_unguarded_iff {e : Raised} {fault : Fault} :
    e.whileCompiling = .unguarded fault ↔
      e = .fault fault ∧ fault.ofLanguage = false ∨ e = .exit fault := by
  cases e with
  | malformed => simp [whileCompiling]
  | exit e => simp [whileCompiling]
  | fault e =>
    cases hl : e.ofLanguage with
    | true =>
      simp only [whileCompiling, hl, if_true, reduceCtorEq, or_false, false_iff]
      rintro ⟨he, hf⟩
      obtain rfl := Raised.fault.inj he
      simp [hl] at hf
    | false =>
      simp only [whileCompiling, hl, Bool.false_eq_true, if_false, reduceCtorEq, or_false]
      constructor
      · intro he
        obtain rfl := Failure.unguarded.inj he
        exact ⟨rfl, hl⟩
      · rintro ⟨he, -⟩
        exact congrArg Failure.unguarded (Raised.fault.inj he)

theorem caught_eq_unguarded_iff {r : Except Raised Result} {fault : Fault} :
    caught r = .error (.unguarded fault) ↔ r = .error (.exit fault) ∨
      r = .ok (.undefined none) ∧ fault = .tooManyDigits ∨ r = .ok (.shapeless fault) := by
  rcases r with (_ | e | e) | (d | (_ | name) | e)
  all_goals simp [caught, Raised.whileRunning, Result.datum?, eq_comm]

namespace Library

variable {σ τ : Type} {l : Library σ τ} {source : String} {w : Prepared σ τ}

/-- What evaluating a source raises past every guard: a fault that is none of the language while it
is compiled, leaving the program, an undefined value of a name that has no text, or a value that a
shape cannot be looked for in. -/
inductive Escapes (l : Library σ τ) (source : String) (w : Prepared σ τ) : Fault → Prop where
  | compiling {fault : Fault} (hn : w.ready.lookup source = none)
      (h : (l.compile source w.state).1 = .error (.fault fault))
      (hl : fault.ofLanguage = false) : Escapes l source w fault
  | leftCompiling {fault : Fault} (hn : w.ready.lookup source = none)
      (h : (l.compile source w.state).1 = .error (.exit fault)) : Escapes l source w fault
  | leftRunning {fault : Fault} {t : τ} (ht : (l.stages.prepare source w).1 = .ok t)
      (h : (l.run t (l.stages.prepare source w).2.state).1 = .error (.exit fault)) :
      Escapes l source w fault
  | undefined {t : τ} (ht : (l.stages.prepare source w).1 = .ok t)
      (h : (l.run t (l.stages.prepare source w).2.state).1 = .ok (.undefined none)) :
      Escapes l source w .tooManyDigits
  | shapeless {fault : Fault} {t : τ} (ht : (l.stages.prepare source w).1 = .ok t)
      (h : (l.run t (l.stages.prepare source w).2.state).1 = .ok (.shapeless fault)) :
      Escapes l source w fault

theorem prepare_eq_error_iff {f : Failure} : (l.stages.prepare source w).1 = .error f ↔
    w.ready.lookup source = none ∧
      ∃ e, (l.compile source w.state).1 = .error e ∧ e.whileCompiling = f := by
  cases hn : w.ready.lookup source with
  | some t => simp [Stages.prepare, hn]
  | none =>
    have hprepared : (l.stages.prepare source w).1 =
        (l.compile source w.state).1.mapError Raised.whileCompiling := by
      rcases hc : l.compile source w.state with ⟨e | t, state⟩ <;>
        simp only [Stages.prepare, stages, hn, hc] <;> rfl
    simp only [hprepared, mapError_eq_error_iff, true_and]

theorem evaluate_of_prepare_error {f : Failure} (h : (l.stages.prepare source w).1 = .error f) :
    (l.stages.evaluate source w).1 = .error f := by
  unfold Stages.evaluate
  generalize l.stages.prepare source w = r at h ⊢
  obtain ⟨_, w'⟩ := r
  obtain rfl := h
  rfl

theorem evaluate_of_prepare_ok {t : τ} (h : (l.stages.prepare source w).1 = .ok t) :
    (l.stages.evaluate source w).1 = caught (l.run t (l.stages.prepare source w).2.state).1 := by
  unfold Stages.evaluate
  generalize l.stages.prepare source w = r at h ⊢
  obtain ⟨_, w'⟩ := r
  obtain rfl := h
  rfl

/-- An evaluation passes on exactly what escapes its guards. -/
theorem evaluate_unguarded_iff {fault : Fault} :
    (l.stages.evaluate source w).1 = .error (.unguarded fault) ↔ l.Escapes source w fault := by
  constructor
  · intro h
    cases hp : (l.stages.prepare source w).1 with
    | error f =>
      rw [evaluate_of_prepare_error hp, Except.error.injEq] at h
      obtain ⟨hn, e, he, hf⟩ := prepare_eq_error_iff.1 (h ▸ hp)
      rcases Raised.whileCompiling_eq_unguarded_iff.1 hf with ⟨rfl, hl⟩ | rfl
      · exact .compiling hn he hl
      · exact .leftCompiling hn he
    | ok t =>
      rw [evaluate_of_prepare_ok hp] at h
      rcases caught_eq_unguarded_iff.1 h with hr | ⟨hr, rfl⟩ | hr
      · exact .leftRunning hp hr
      · exact .undefined hp hr
      · exact .shapeless hp hr
  · intro h
    cases h with
    | compiling hn he hl =>
      exact evaluate_of_prepare_error (prepare_eq_error_iff.2
        ⟨hn, _, he, Raised.whileCompiling_eq_unguarded_iff.2 (.inl ⟨rfl, hl⟩)⟩)
    | leftCompiling hn he =>
      exact evaluate_of_prepare_error (prepare_eq_error_iff.2
        ⟨hn, _, he, Raised.whileCompiling_eq_unguarded_iff.2 (.inr rfl)⟩)
    | leftRunning ht hr =>
      rw [evaluate_of_prepare_ok ht]
      exact caught_eq_unguarded_iff.2 (.inl hr)
    | undefined ht hr =>
      rw [evaluate_of_prepare_ok ht]
      exact caught_eq_unguarded_iff.2 (.inr (.inl ⟨hr, rfl⟩))
    | shapeless ht hr =>
      rw [evaluate_of_prepare_ok ht]
      exact caught_eq_unguarded_iff.2 (.inr (.inr hr))

end Library

end ElementMarkup.Expression
