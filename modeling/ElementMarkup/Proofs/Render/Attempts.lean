import Mathlib.Data.List.Basic
import ElementMarkup.Expression.Stages
import ElementMarkup.Proofs.Render.Replay

/-!
# How often sources are evaluated

Items are resolved one after the other, and a failure does not end the course. A source is evaluated
at each call for it until one succeeds, and never again; it is made ready at most once, even when
its evaluation fails afterwards. What is kept between the calls is thus tied to what has happened:
the value of a source is known when a call for it has succeeded, and the source is ready when it has
been compiled.
-/

set_option autoImplicit false

namespace ElementMarkup

variable {σ τ ρ : Type}

/-- The results of resolving items one after the other. -/
def answers (evaluate : Evaluator σ) : Session σ → List Item → List (Except RenderError Value)
  | _, [] => []
  | s, i :: is =>
    (resolve evaluate i s).result :: answers evaluate (resolve evaluate i s).session is

def sessionAfter (evaluate : Evaluator σ) (s : Session σ) (calls : List Item) : Session σ :=
  calls.foldl (fun s i => (resolve evaluate i s).session) s

def Item.asksFor (source : String) : Item → Bool
  | .expression s => s == source
  | .text _ | .number _ | .word _ | .element _ _ => false

def answersFor (evaluate : Evaluator σ) (source : String) (s : Session σ) (calls : List Item) :
    List (Except RenderError Value) :=
  ((calls.zip (answers evaluate s calls)).filter fun p => p.1.asksFor source).map Prod.snd

theorem asksFor_iff {source : String} {i : Item} :
    i.asksFor source = true ↔ i = .expression source := by
  cases i <;> simp [Item.asksFor]

theorem answersFor_other {source : String} {i : Item} (h : i.asksFor source = false)
    (evaluate : Evaluator σ) (s : Session σ) (calls : List Item) :
    answersFor evaluate source s (i :: calls) =
      answersFor evaluate source (resolve evaluate i s).session calls := by
  simp [answersFor, answers, h]

theorem answersFor_source (evaluate : Evaluator σ) (source : String) (s : Session σ)
    (calls : List Item) : answersFor evaluate source s (.expression source :: calls) =
      (resolve evaluate (.expression source) s).result ::
        answersFor evaluate source (resolve evaluate (.expression source) s).session calls := by
  simp [answersFor, answers, Item.asksFor]

theorem resolve_state (evaluate : Evaluator σ) (i : Item) (s : Session σ) :
    (resolve evaluate i s).session.state = s.state ∨ ∃ source, i = .expression source ∧
      s.known.lookup source = none ∧
      (resolve evaluate i s).session.state = (evaluate source s.state).2 := by
  cases i with
  | expression source =>
    rcases resolve_expression evaluate source s with ⟨_, _, hr⟩ | ⟨hn, d, state, v, he, _, hr⟩ |
      ⟨hn, _, state, _, he, hr⟩
    · exact .inl (by rw [hr])
    · exact .inr ⟨source, rfl, hn, by rw [hr, he]⟩
    · exact .inr ⟨source, rfl, hn, by rw [hr, he]⟩
  | text | number | word | element => exact .inl rfl

theorem sessionAfter_state {evaluate : Evaluator σ} {P : σ → Prop}
    (h : ∀ source state, P state → P (evaluate source state).2) {s : Session σ} (hs : P s.state)
    (calls : List Item) : P (sessionAfter evaluate s calls).state := by
  induction calls generalizing s with
  | nil => exact hs
  | cons i calls ih =>
    refine ih ?_
    rcases resolve_state evaluate i s with hstate | ⟨source, _, _, hstate⟩
    · rw [hstate]
      exact hs
    · rw [hstate]
      exact h source s.state hs

/-- From related states the evaluators give the same and lead to related states. -/
def Evaluator.InStep (R : σ → τ → Prop) (f : Evaluator σ) (g : Evaluator τ) : Prop :=
  ∀ source s t, R s t → (f source s).1 = (g source t).1 ∧ R (f source s).2 (g source t).2

structure Session.Alike (R : σ → τ → Prop) (s : Session σ) (t : Session τ) : Prop where
  state : R s.state t.state
  known : s.known = t.known

theorem resolve_inStep {R : σ → τ → Prop} {f : Evaluator σ} {g : Evaluator τ}
    (h : Evaluator.InStep R f g) {s : Session σ} {t : Session τ} (hs : s.Alike R t) (i : Item) :
    (resolve f i s).result = (resolve g i t).result ∧
      (resolve f i s).session.Alike R (resolve g i t).session := by
  cases i with
  | expression source =>
    obtain ⟨hresult, hstate⟩ := h source s.state t.state hs.state
    simp only [resolve, hs.known]
    cases t.known.lookup source with
    | some v => exact ⟨rfl, hs⟩
    | none =>
      generalize f source s.state = x at hresult hstate ⊢
      generalize g source t.state = y at hresult hstate ⊢
      obtain ⟨r, state⟩ := x
      obtain ⟨r', state'⟩ := y
      obtain rfl : r = r' := hresult
      cases r with
      | error e => exact ⟨rfl, hstate, rfl⟩
      | ok d =>
        dsimp only
        cases d.toValue with
        | ok v => exact ⟨rfl, hstate, rfl⟩
        | error e => cases e <;> exact ⟨rfl, hstate, rfl⟩
  | text | number | word | element => exact ⟨rfl, hs⟩

theorem answers_inStep {R : σ → τ → Prop} {f : Evaluator σ} {g : Evaluator τ}
    (h : Evaluator.InStep R f g) {s : Session σ} {t : Session τ} (hs : s.Alike R t)
    (calls : List Item) : answers f s calls = answers g t calls := by
  induction calls generalizing s t with
  | nil => rfl
  | cons i calls ih =>
    obtain ⟨hresult, hsession⟩ := resolve_inStep h hs i
    rw [answers, answers, hresult, ih hsession]

/-- What an evaluation in stages can do: run what is ready, or fail to compile, or compile and run
what is then ready for good. -/
theorem Stages.evaluate_cases (p : Stages σ τ) (source : String) (w : Prepared σ τ) :
    (∃ t, w.ready.lookup source = some t ∧ p.evaluate source w =
      ((p.run source t w.state).1, ⟨(p.run source t w.state).2, w.ready⟩)) ∨
    (w.ready.lookup source = none ∧ ∃ f, (p.compile source w.state).1 = .error f ∧
      p.evaluate source w = (.error f, ⟨(p.compile source w.state).2, w.ready⟩)) ∨
    (w.ready.lookup source = none ∧ ∃ t, (p.compile source w.state).1 = .ok t ∧
      p.evaluate source w = ((p.run source t (p.compile source w.state).2).1,
        ⟨(p.run source t (p.compile source w.state).2).2, (source, t) :: w.ready⟩)) := by
  unfold Stages.evaluate Stages.prepare
  cases w.ready.lookup source with
  | some t => exact .inl ⟨t, rfl, rfl⟩
  | none =>
    rcases p.compile source w.state with ⟨f | t, state⟩
    · exact .inr (.inl ⟨rfl, f, rfl, rfl⟩)
    · exact .inr (.inr ⟨rfl, t, rfl, rfl⟩)

/-- What is ready has been compiled. -/
def Prepared.Compiled (w : Prepared σ Expression.Term) : Prop :=
  ∀ source t, w.ready.lookup source = some t → Expression.compile source = .ok t

theorem Prepared.Compiled.cons {w : Prepared σ Expression.Term} (h : w.Compiled) {source : String}
    {t : Expression.Term} (ht : Expression.compile source = .ok t) (state : σ) :
    Prepared.Compiled ⟨state, (source, t) :: w.ready⟩ := by
  intro source' t' h'
  by_cases hs : source' = source
  · subst hs
    obtain rfl : t = t' := by simpa using h'
    exact ht
  · rw [List.lookup_cons, beq_eq_false_iff_ne.2 hs] at h'
    exact h source' t' h'

/-- The prepared state stands for the scope. -/
structure Prepared.For (w : Prepared Expression.Scope Expression.Term)
    (scope : Expression.Scope) : Prop where
  state : w.state = scope
  ready : w.Compiled

theorem evaluate_of_compile {source : String} {t : Expression.Term}
    (h : Expression.compile source = .ok t) (scope : Expression.Scope) :
    Expression.evaluate source scope = Expression.stages.run source t scope := by
  unfold Expression.evaluate
  rw [h]
  rfl

theorem evaluate_of_refused {source : String} {f : Expression.Failure}
    (h : Expression.compile source = .error f) (scope : Expression.Scope) :
    Expression.evaluate source scope = (.error f, scope) := by
  unfold Expression.evaluate
  rw [h]

theorem stages_inStep :
    Evaluator.InStep Prepared.For Expression.stages.evaluate Expression.evaluate := by
  rintro source w _ ⟨rfl, hready⟩
  rcases Expression.stages.evaluate_cases source w with ⟨t, ht, he⟩ | ⟨_, f, hf, he⟩ |
    ⟨_, t, ht, he⟩
  · rw [he, evaluate_of_compile (hready source t ht)]
    exact ⟨rfl, rfl, hready⟩
  · rw [he, evaluate_of_refused hf]
    exact ⟨rfl, rfl, hready⟩
  · rw [he, evaluate_of_compile ht]
    exact ⟨rfl, rfl, hready.cons ht _⟩

theorem answers_stages (scope : Expression.Scope) (calls : List Item) :
    answers Expression.stages.evaluate (Session.start ⟨scope, []⟩) calls =
      answers Expression.evaluate (Session.start scope) calls :=
  answers_inStep stages_inStep ⟨⟨rfl, fun _ _ h => by cases h⟩, rfl⟩ calls

inductive StageEvent where
  | refused (source : String)
  | compiled (source : String)
  | ran (source : String)
  deriving DecidableEq

/-- The stages, recording what they do. -/
def Stages.recorded (p : Stages σ τ) : Stages (σ × List StageEvent) τ where
  compile source s :=
    match p.compile source s.1 with
    | (.error f, state) => (.error f, state, .refused source :: s.2)
    | (.ok t, state) => (.ok t, state, .compiled source :: s.2)
  run source t s :=
    match p.run source t s.1 with
    | (result, state) => (result, state, .ran source :: s.2)

def attempts (events : List StageEvent) (source : String) : Nat :=
  events.count (.refused source) + events.count (.ran source)

def Prepared.forget (w : Prepared (σ × List StageEvent) τ) : Prepared σ τ := ⟨w.state.1, w.ready⟩

theorem recorded_inStep (p : Stages σ τ) :
    Evaluator.InStep (fun w w' => w.forget = w') p.recorded.evaluate p.evaluate := by
  rintro source w _ rfl
  unfold Stages.evaluate Stages.prepare Stages.recorded Prepared.forget
  dsimp only
  cases w.ready.lookup source with
  | some t => exact ⟨rfl, rfl⟩
  | none =>
    dsimp only
    rcases p.compile source w.state.1 with ⟨f | t, state⟩
    · exact ⟨rfl, rfl⟩
    · exact ⟨rfl, rfl⟩

/-- The number that `n` reads off a state is how often the source was evaluated. -/
structure Evaluator.Counts (evaluate : Evaluator σ) (source : String) (n : σ → Nat) : Prop where
  hit : ∀ state, n (evaluate source state).2 = n state + 1
  miss : ∀ source' state, source' ≠ source → n (evaluate source' state).2 = n state

theorem recorded_run (p : Stages σ τ) (source : String) (t : τ) (s : σ × List StageEvent) :
    (p.recorded.run source t s).2.2 = .ran source :: s.2 := rfl

theorem recorded_compile (p : Stages σ τ) (source : String) (s : σ × List StageEvent) :
    (∀ f, (p.recorded.compile source s).1 = .error f →
      (p.recorded.compile source s).2.2 = .refused source :: s.2) ∧
    ∀ t, (p.recorded.compile source s).1 = .ok t →
      (p.recorded.compile source s).2.2 = .compiled source :: s.2 := by
  unfold Stages.recorded
  dsimp only
  rcases p.compile source s.1 with ⟨f | t, state⟩ <;> simp

theorem recorded_counts (p : Stages σ τ) (source : String) :
    p.recorded.evaluate.Counts source fun w => attempts w.state.2 source := by
  have hall (source' : String) (w : Prepared (σ × List StageEvent) τ) :
      attempts (p.recorded.evaluate source' w).2.state.2 source =
        attempts w.state.2 source + if source' = source then 1 else 0 := by
    rcases p.recorded.evaluate_cases source' w with ⟨t, _, he⟩ | ⟨_, f, hf, he⟩ | ⟨_, t, ht, he⟩
    · rw [he, recorded_run]
      simp [attempts, List.count_cons]
      omega
    · rw [he, (recorded_compile p source' w.state).1 f hf]
      simp [attempts, List.count_cons]
      omega
    · rw [he, recorded_run, (recorded_compile p source' w.state).2 t ht]
      simp [attempts, List.count_cons]
      omega
  constructor
  · intro w
    rw [hall, if_pos rfl]
  · intro source' w h
    rw [hall, if_neg h, Nat.add_zero]

section

variable {evaluate : Evaluator σ} {source : String} {n : σ → Nat}

theorem resolve_other (hn : evaluate.Counts source n) {i : Item} (h : i.asksFor source = false)
    (s : Session σ) : n (resolve evaluate i s).session.state = n s.state ∧
      (resolve evaluate i s).session.known.lookup source = s.known.lookup source := by
  cases i with
  | expression source' =>
    have hne : source' ≠ source := by simpa [Item.asksFor] using h
    have hmiss := hn.miss source' s.state hne
    rcases resolve_expression evaluate source' s with ⟨_, _, hr⟩ | ⟨_, d, state, v, he, _, hr⟩ |
      ⟨_, _, state, _, he, hr⟩
    · rw [hr]
      exact ⟨rfl, rfl⟩
    · rw [he] at hmiss
      rw [hr, List.lookup_cons, beq_eq_false_iff_ne.2 (Ne.symm hne)]
      exact ⟨hmiss, rfl⟩
    · rw [he] at hmiss
      rw [hr]
      exact ⟨hmiss, rfl⟩
  | text | number | word | element => exact ⟨rfl, rfl⟩

theorem resolve_unknown (hn : evaluate.Counts source n) {s : Session σ}
    (h : s.known.lookup source = none) :
    n (resolve evaluate (.expression source) s).session.state = n s.state + 1 ∧
      ((∃ v, (resolve evaluate (.expression source) s).result = .ok v) ∨
        ∃ e, (resolve evaluate (.expression source) s).result = .error e ∧
          (resolve evaluate (.expression source) s).session.known = s.known) := by
  have hhit := hn.hit s.state
  rcases resolve_expression evaluate source s with ⟨v, hv, _⟩ | ⟨_, d, state, v, he, _, hr⟩ |
    ⟨_, e, state, _, he, hr⟩
  · simp [h] at hv
  · rw [he] at hhit
    rw [hr]
    exact ⟨hhit, .inl ⟨v, rfl⟩⟩
  · rw [he] at hhit
    rw [hr]
    exact ⟨hhit, .inr ⟨e, rfl, rfl⟩⟩

/-- A source whose value is known is not evaluated any more, whatever else is. -/
theorem answersFor_known (hn : evaluate.Counts source n) {s : Session σ} {v : Value}
    (h : s.known.lookup source = some v) (calls : List Item) :
    ∃ k, answersFor evaluate source s calls = List.replicate k (.ok v) ∧
      n (sessionAfter evaluate s calls).state = n s.state := by
  induction calls generalizing s with
  | nil => exact ⟨0, rfl, rfl⟩
  | cons i calls ih =>
    by_cases hi : i.asksFor source = true
    · obtain rfl := asksFor_iff.1 hi
      have hr : resolve evaluate (.expression source) s = ⟨[], s, .ok v⟩ := resolve_of_lookup h
      obtain ⟨k, hk, hcount⟩ := ih h
      refine ⟨k + 1, ?_, ?_⟩
      · rw [answersFor_source, hr, hk]
        rfl
      · rw [sessionAfter, List.foldl_cons, hr]
        exact hcount
    · have hother : i.asksFor source = false := by simpa using hi
      obtain ⟨hstate, hknown⟩ := resolve_other hn hother s
      obtain ⟨k, hk, hcount⟩ := ih (hknown.trans h)
      refine ⟨k, ?_, hcount.trans hstate⟩
      rw [answersFor_other hother, hk]

/-- The calls for a source fail until one succeeds, and it is evaluated at each of them up to that
one. -/
theorem answersFor_unknown (hn : evaluate.Counts source n) {s : Session σ}
    (h : s.known.lookup source = none) (calls : List Item) :
    ∃ (failures : List RenderError) (k : Nat) (v : Value),
      answersFor evaluate source s calls = failures.map .error ++ List.replicate k (.ok v) ∧
        n (sessionAfter evaluate s calls).state = n s.state + failures.length + min k 1 := by
  induction calls generalizing s with
  | nil => exact ⟨[], 0, .text "", rfl, rfl⟩
  | cons i calls ih =>
    by_cases hi : i.asksFor source = true
    · obtain rfl := asksFor_iff.1 hi
      obtain ⟨hcount, ⟨v, hv⟩ | ⟨e, he, hknown⟩⟩ := resolve_unknown hn h
      · obtain ⟨k, hk, hrest⟩ := answersFor_known hn (lookup_of_resolve hv) calls
        refine ⟨[], k + 1, v, ?_, ?_⟩
        · rw [answersFor_source, hv, hk]
          rfl
        · have hafter := hrest.trans hcount
          have hmin : min (k + 1) 1 = 1 := by omega
          rw [hmin]
          exact hafter
      · rw [← hknown] at h
        obtain ⟨failures, k, v, hk, hrest⟩ := ih h
        refine ⟨e :: failures, k, v, ?_, ?_⟩
        · rw [answersFor_source, he, hk]
          rfl
        · rw [hcount] at hrest
          rw [sessionAfter, List.foldl_cons, List.length_cons]
          have hafter : n (sessionAfter evaluate _ calls).state = _ := hrest
          rw [sessionAfter] at hafter
          omega
    · have hother : i.asksFor source = false := by simpa using hi
      obtain ⟨hstate, hknown⟩ := resolve_other hn hother s
      obtain ⟨failures, k, v, hk, hrest⟩ := ih (hknown.trans h)
      refine ⟨failures, k, v, ?_, ?_⟩
      · rw [answersFor_other hother, hk]
      · rw [hstate] at hrest
        exact hrest

end

/-- The source has been compiled once if it is ready, and not at all otherwise. -/
def Prepared.CompiledOnce (source : String) (w : Prepared (σ × List StageEvent) τ) : Prop :=
  w.state.2.count (.compiled source) = if (w.ready.lookup source).isSome then 1 else 0

theorem recorded_compiledOnce (p : Stages σ τ) (source source' : String)
    {w : Prepared (σ × List StageEvent) τ} (h : w.CompiledOnce source) :
    (p.recorded.evaluate source' w).2.CompiledOnce source := by
  unfold Prepared.CompiledOnce at h ⊢
  rcases p.recorded.evaluate_cases source' w with ⟨t, _, he⟩ | ⟨_, f, hf, he⟩ | ⟨hn, t, ht, he⟩
  · rw [he, recorded_run]
    simpa using h
  · rw [he, (recorded_compile p source' w.state).1 f hf]
    simpa using h
  · rw [he, recorded_run, (recorded_compile p source' w.state).2 t ht]
    by_cases hs : source' = source
    · subst hs
      have hnone : w.state.2.count (.compiled source') = 0 := by simpa [hn] using h
      simp [hnone]
    · have hne : (source == source') = false := beq_eq_false_iff_ne.2 (Ne.symm hs)
      rw [List.lookup_cons, hne]
      simpa [List.count_cons, hs] using h

theorem sessionAfter_extends (evaluate : Evaluator σ) (s : Session σ) (calls : List Item) :
    (sessionAfter evaluate s calls).Extends s := by
  induction calls generalizing s with
  | nil => exact .refl s
  | cons i calls ih => exact (ih _).trans ((resolve_settles evaluate i).extend s)

theorem resolve_error_known {evaluate : Evaluator σ} {i : Item} {s : Session σ} {e : RenderError}
    (h : (resolve evaluate i s).result = .error e) :
    (resolve evaluate i s).session.known = s.known := by
  cases i with
  | expression source =>
    rcases resolve_expression evaluate source s with ⟨_, _, hr⟩ | ⟨_, _, _, _, _, _, hr⟩ |
      ⟨_, _, _, _, _, hr⟩
    · rw [hr]
    · simp [hr] at h
    · rw [hr]
  | text | number | word | element => rfl

namespace Stages

def after (p : Stages σ τ) (state : σ) (calls : List Item) : Session (Prepared σ τ) :=
  sessionAfter p.evaluate (Session.start ⟨state, []⟩) calls

def record (p : Stages σ τ) (state : σ) (calls : List Item) : List StageEvent :=
  (p.recorded.after (state, []) calls).state.state.2

theorem after_append (p : Stages σ τ) (state : σ) (calls calls' : List Item) :
    p.after state (calls ++ calls') = sessionAfter p.evaluate (p.after state calls) calls' :=
  List.foldl_append

/-- Whatever the stages of an evaluator do, the calls for a source among any calls fail for a while
and then give one value for good. The source is evaluated at each call that fails and at the first
one that succeeds, and it is compiled at most once. When a call has given a value, every later one
for the source leaves everything as it is and gives that value; a call that fails leaves the known
values as they are; and an item that is no expression is its own value and touches nothing. -/
theorem resolve_once (p : Stages σ τ) (state : σ) (source : String) (calls : List Item) :
    (∃ (failures : List RenderError) (k : Nat) (v : Value),
      answersFor p.evaluate source (Session.start ⟨state, []⟩) calls =
        failures.map .error ++ List.replicate k (.ok v) ∧
      attempts (p.record state calls) source = failures.length + min k 1 ∧
      (p.record state calls).count (.compiled source) ≤ 1) ∧
    (∀ (v : Value) (between : List Item),
      (resolve p.evaluate (.expression source) (p.after state calls)).result = .ok v →
        resolve p.evaluate (.expression source)
            (p.after state (calls ++ .expression source :: between)) =
          ⟨[], p.after state (calls ++ .expression source :: between), .ok v⟩) ∧
    (∀ (i : Item) (e : RenderError),
      (resolve p.evaluate i (p.after state calls)).result = .error e →
        (resolve p.evaluate i (p.after state calls)).session.known =
          (p.after state calls).known) ∧
    ∀ (i : Item) (v : Value), i.value? = some v → v.toItem = i ∧
      resolve p.evaluate i (p.after state calls) = ⟨[], p.after state calls, .ok v⟩ := by
  refine ⟨?_, fun v between hv => ?_, fun i e he => resolve_error_known he, fun i v hi => ?_⟩
  · obtain ⟨failures, k, v, hanswers, hcount⟩ := answersFor_unknown (recorded_counts p source)
      (s := Session.start ⟨(state, []), []⟩) rfl calls
    have hsame := answers_inStep (recorded_inStep p) (s := Session.start ⟨(state, []), []⟩)
      (t := Session.start ⟨state, []⟩) ⟨rfl, rfl⟩ calls
    have honce := sessionAfter_state (recorded_compiledOnce p source)
      (s := Session.start ⟨(state, []), []⟩) rfl calls
    refine ⟨failures, k, v, ?_, ?_, ?_⟩
    · rw [← hanswers, answersFor, answersFor, hsame]
    · rw [record, after, hcount]
      exact congrArg (· + min k 1) (Nat.zero_add _)
    · have hle (b : Bool) : (if b = true then 1 else 0) ≤ 1 := by cases b <;> decide
      rw [record, after, honce]
      exact hle _
  · have hlater : (p.after state (calls ++ .expression source :: between)).Extends
        (resolve p.evaluate (.expression source) (p.after state calls)).session := by
      rw [after_append]
      exact sessionAfter_extends p.evaluate _ between
    exact resolve_of_lookup (hlater source v (lookup_of_resolve hv))
  · exact ⟨Item.toItem_of_value? hi, congrFun (resolve_of_value? p.evaluate hi) _⟩

/-- Compiles nothing at first, then fails to run, and then gives a datum that is no value. -/
def flaky : Stages Nat Unit where
  compile _ n := (if n = 0 then .error .malformed else .ok (), n + 1)
  run source _ n :=
    (if n < 3 then .error (.fault .zeroPower) else .ok (if n < 5 then .null else .text source),
      n + 1)

def flakyCalls : List Item :=
  [.expression "a", .expression "a", .expression "b", .expression "a", .text "t",
    .expression "b", .expression "a"]

def flakyAnswers : List (Except RenderError Value) :=
  [.error (.evaluation "a" .malformed), .error (.evaluation "a" (.fault .zeroPower)),
    .ok (.text "a"), .ok (.text "a")]

theorem resolve_once_flaky :
    (∃ (failures : List RenderError) (k : Nat) (v : Value),
      flakyAnswers = failures.map .error ++ List.replicate k (.ok v) ∧
      3 = failures.length + min k 1) ∧
    (flaky.record 0 flakyCalls).count (.compiled "a") = 1 ∧
    (resolve flaky.evaluate (.expression "b") (flaky.after 0 (flakyCalls.take 2))).session.known =
      (flaky.after 0 (flakyCalls.take 2)).known ∧
    (resolve flaky.evaluate (.expression "a") (flaky.after 0 flakyCalls)).result =
      .ok (.text "a") := by
  have hanswers : answersFor flaky.evaluate "a" (Session.start ⟨0, []⟩) flakyCalls =
      flakyAnswers := by cbv
  have hattempts : attempts (flaky.record 0 flakyCalls) "a" = 3 := by cbv
  have hfails : (resolve flaky.evaluate (.expression "b")
      (flaky.after 0 (flakyCalls.take 2))).result =
        .error (.evaluation "b" (.shape (.unsupported "None"))) := by cbv
  have hgives : (resolve flaky.evaluate (.expression "a")
      (flaky.after 0 (flakyCalls.take 3))).result = .ok (.text "a") := by cbv
  obtain ⟨⟨failures, k, v, ha, hc, -⟩, -⟩ := flaky.resolve_once 0 "a" flakyCalls
  obtain ⟨-, -, hknown, -⟩ := flaky.resolve_once 0 "b" (flakyCalls.take 2)
  obtain ⟨-, hagain, -⟩ := flaky.resolve_once 0 "a" (flakyCalls.take 3)
  rw [hanswers] at ha
  rw [hattempts] at hc
  refine ⟨⟨failures, k, v, ha, hc⟩, by cbv, hknown _ _ hfails, ?_⟩
  have hlater := hagain _ (flakyCalls.drop 4) hgives
  exact congrArg Outcome.result hlater

end Stages

end ElementMarkup
