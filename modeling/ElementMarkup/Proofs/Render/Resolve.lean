import Mathlib
import ElementMarkup.Expression.Evaluate
import ElementMarkup.Proofs.Render.Family
import ElementMarkup.Proofs.Tree.Expression

/-!
# Resolved expressions

Every value that a session knows was made from a datum that the evaluator gave for its source. If
the data are plain, such a value holds an expression exactly when an inner text of the datum
spells one. A value without expressions is rendered without any evaluation.
-/

set_option autoImplicit false

namespace ElementMarkup

variable {σ : Type}

/-- The sessions that resolving items leads to, whether or not it succeeds. -/
inductive Session.Reached (evaluate : Evaluator σ) (state : σ) : Session σ → Prop where
  | start : Reached evaluate state (Session.start state)
  | resolve {s : Session σ} (i : Item) (h : Reached evaluate state s) :
      Reached evaluate state (resolve evaluate i s).session

def Evaluator.Gives (evaluate : Evaluator σ) (source : String) (d : Datum) : Prop :=
  ∃ state state', evaluate source state = (.ok d, state')

theorem resolve_of_value? (evaluate : Evaluator σ) {i : Item} {v : Value} (h : i.value? = some v) :
    resolve evaluate i = pure v := by
  rw [← Item.toItem_of_value? h]
  cases v <;> rfl

theorem resolveAll_values_append (evaluate : Evaluator σ) (vs : List Value) (is : List Item) :
    resolveAll evaluate (vs.map Value.toItem ++ is) =
      resolveAll evaluate is >>= fun ws => pure (vs ++ ws) := by
  induction vs with
  | nil => exact (bind_pure _).symm
  | cons v vs ih =>
    rw [List.map_cons, List.cons_append, resolveAll, ih, resolve_of_value? evaluate v.value?_toItem,
      pure_bind, bind_assoc]
    simp only [pure_bind, List.cons_append]

theorem resolveAll_values (evaluate : Evaluator σ) (vs : List Value) :
    resolveAll evaluate (vs.map Value.toItem) = pure vs := by
  have h := resolveAll_values_append evaluate vs []
  rwa [resolveAll, pure_bind, List.append_nil, List.append_nil] at h

/-- What resolving an expression can do: take a known value, or evaluate the source and know the
value afterwards, or fail and know nothing new. -/
theorem resolve_expression (evaluate : Evaluator σ) (source : String) (s : Session σ) :
    (∃ v, s.known.lookup source = some v ∧
      resolve evaluate (.expression source) s = ⟨[], s, .ok v⟩) ∨
    (s.known.lookup source = none ∧ ∃ d state' v, evaluate source s.state = (.ok d, state') ∧
      d.toValue = .ok v ∧ resolve evaluate (.expression source) s =
        ⟨[], ⟨state', (source, v) :: s.known⟩, .ok v⟩) ∨
    (s.known.lookup source = none ∧ ∃ e state', e ≠ .tooDeep ∧
      (evaluate source s.state).2 = state' ∧
      resolve evaluate (.expression source) s = ⟨[], ⟨state', s.known⟩, .error e⟩) := by
  unfold resolve
  dsimp only
  split
  · rename_i v hv
    exact .inl ⟨v, hv, rfl⟩
  · rename_i hn
    split
    · rename_i f state he
      exact .inr (.inr ⟨hn, _, state, RenderError.noConfusion, by rw [he], rfl⟩)
    · rename_i d state he
      split
      · rename_i v hd
        exact .inr (.inl ⟨hn, d, state, v, he, hd, rfl⟩)
      · exact .inr (.inr ⟨hn, _, state, RenderError.noConfusion, by rw [he], rfl⟩)
      · exact .inr (.inr ⟨hn, _, state, RenderError.noConfusion, by rw [he], rfl⟩)

theorem resolve_of_lookup {evaluate : Evaluator σ} {source : String} {s : Session σ} {v : Value}
    (h : s.known.lookup source = some v) :
    resolve evaluate (.expression source) s = ⟨[], s, .ok v⟩ := by
  unfold resolve
  dsimp only
  rw [h]

theorem lookup_of_resolve {evaluate : Evaluator σ} {source : String} {s : Session σ} {v : Value}
    (h : (resolve evaluate (.expression source) s).result = .ok v) :
    (resolve evaluate (.expression source) s).session.known.lookup source = some v := by
  rcases resolve_expression evaluate source s with ⟨v', hk, hr⟩ | ⟨_, d, state', v', _, _, hr⟩ |
    ⟨_, _, _, _, _, hr⟩
  · rw [hr] at h ⊢
    rwa [← Except.ok.inj h]
  · rw [hr] at h ⊢
    rw [← Except.ok.inj h]
    exact List.lookup_cons_self
  · rw [hr] at h
    cases h

theorem resolve_known {evaluate : Evaluator σ} {i : Item} {s : Session σ} {source : String}
    {v : Value} (hv : (source, v) ∈ (resolve evaluate i s).session.known) :
    (source, v) ∈ s.known ∨ ∃ d, evaluate.Gives source d ∧ d.toValue = .ok v := by
  cases i with
  | expression source' =>
    rcases resolve_expression evaluate source' s with ⟨_, _, hr⟩ | ⟨_, d, state', v', he, hd, hr⟩ |
      ⟨_, _, _, _, _, hr⟩
    · rw [hr] at hv
      exact .inl hv
    · rw [hr] at hv
      rcases List.mem_cons.1 hv with hv | hv
      · obtain ⟨rfl, rfl⟩ := Prod.mk.inj hv
        exact .inr ⟨d, ⟨s.state, state', he⟩, hd⟩
      · exact .inl hv
    · rw [hr] at hv
      exact .inl hv
  | text | number | word | element => exact .inl hv

/-- The known values of a session were made from data of the evaluator. -/
theorem Session.Reached.known {evaluate : Evaluator σ} {state : σ} {s : Session σ}
    (h : s.Reached evaluate state) {source : String} {v : Value} (hv : (source, v) ∈ s.known) :
    ∃ d, evaluate.Gives source d ∧ d.toValue = .ok v := by
  induction h with
  | start => simp [Session.start] at hv
  | resolve i _ ih =>
    rcases resolve_known hv with hv | hd
    · exact ih hv
    · exact hd

theorem mem_of_lookup {known : List (String × Value)} {source : String} {v : Value}
    (h : known.lookup source = some v) : (source, v) ∈ known := by
  obtain ⟨before, after, rfl, _⟩ := List.lookup_eq_some_iff.1 h
  simp

theorem Session.Reached.value {evaluate : Evaluator σ} {state : σ} {s : Session σ}
    (h : s.Reached evaluate state) {source : String} {v : Value}
    (hv : (ElementMarkup.resolve evaluate (.expression source) s).result = .ok v) :
    ∃ d, evaluate.Gives source d ∧ d.toValue = .ok v :=
  (h.resolve (.expression source)).known (mem_of_lookup (lookup_of_resolve hv))

theorem exists_value_of_hasExpression {i : Item} (h : i.hasExpression = false) :
    ∃ v, i.value? = some v ∧ v.hasExpression = false := by
  cases i with
  | expression => simp [Item.hasExpression] at h
  | text | number | word | element => exact ⟨_, rfl, h⟩

theorem resolve_congr {i : Item} (h : i.hasExpression = false) (f g : Evaluator σ) :
    resolve f i = resolve g i := by
  obtain ⟨v, hv, _⟩ := exists_value_of_hasExpression h
  rw [resolve_of_value? f hv, resolve_of_value? g hv]

theorem resolveAll_literal {is : List Item} (h : ∀ i ∈ is, i.hasExpression = false) :
    ∃ vs : List Value, (∀ v ∈ vs, v.hasExpression = false) ∧
      ∀ f : Evaluator σ, resolveAll f is = pure vs := by
  induction is with
  | nil => exact ⟨[], by simp, fun _ => rfl⟩
  | cons i is ih =>
    rw [List.forall_mem_cons] at h
    obtain ⟨v, hv, hve⟩ := exists_value_of_hasExpression h.1
    obtain ⟨vs, hvs, hall⟩ := ih h.2
    refine ⟨v :: vs, List.forall_mem_cons.2 ⟨hve, hvs⟩, fun f => ?_⟩
    rw [resolveAll, resolve_of_value? f hv, hall f]
    simp

theorem parseHead_congr {m : Type → Type} [Monad m] {f g : Item → m Value} {is : List Item}
    (h : ∀ i ∈ is, f i = g i) : parseHead f is = parseHead g is := by
  induction is using parseHead.induct with
  | case1 => rfl
  | case2 i is ih ihs =>
    rw [List.forall_mem_cons] at h
    have hrest := ih h.2
    rw [parseHead, parseHead, h.1, hrest]
    cases is with
    | nil => rfl
    | cons next after =>
      rw [List.forall_mem_cons] at h
      dsimp only
      rw [h.2.1, ihs.1 h.2.2, hrest]

theorem Step.ofWriting_eq :
    Step.OfWriting fun {α} (m : Bool → Step σ α) => m false = m true where
  pure _ := rfl
  bind hm hf := congrArg₂ Bind.bind hm (funext hf)
  write _ := rfl
  fail _ := rfl

theorem writeElement_congr {child child' : Element → Step σ Unit} {vs : List Value}
    (h : ∀ e, .element e ∈ vs → child e = child' e) (o : Options) (broken root : Bool)
    (tag : String) (attributes : List Attribute) :
    writeElement o broken child root tag attributes vs =
      writeElement o broken child' root tag attributes vs :=
  writeElement_family Step.ofWriting_eq (fun b => bif b then child' else child) h o broken root tag
    attributes

/-- An element without expressions is rendered in the same way whatever the evaluator does. -/
theorem renderElement_congr (o : Options) (broken : Bool) (f g : Evaluator σ) (depth : Nat)
    (root : Bool) {e : Element} (h : Item.anyExpression e.args = false) :
    renderElement o broken f depth root e = renderElement o broken g depth root e := by
  induction depth generalizing root e with
  | zero => rfl
  | succ depth ih =>
    rw [Item.anyExpression_eq_false] at h
    rw [renderElement, renderElement, parseHead_congr fun i hi => resolve_congr (h i hi) f g]
    congr 1
    funext _
    congr 1
    funext head
    obtain ⟨vs, hvs, hall⟩ := resolveAll_literal (σ := σ)
      fun i hi => h i (List.mem_of_mem_drop (i := head.consumed) hi)
    rw [hall f, hall g, Step.pure_bind, Step.pure_bind]
    exact writeElement_congr (fun e he => ih false (hvs _ he)) o broken root e.tag head.attributes

/-- A value resolved from plain data holds an expression exactly if a text below the top of its
datum is one group between braces, and otherwise no evaluation takes place when it is rendered. -/
theorem resolve_hasExpression_iff {evaluate : Evaluator σ} {state : σ} {s : Session σ}
    (hs : s.Reached evaluate state) {source : String} {v : Value}
    (hv : (resolve evaluate (.expression source) s).result = .ok v) :
    ∃ d, evaluate.Gives source d ∧ d.toValue = .ok v ∧ (d.isPlain = true →
      (v.hasExpression = true ↔ d.innerExpression = true) ∧
      (d.innerExpression = false → ∀ e, v = .element e →
        ∀ (o : Options) (broken : Bool) (f g : Evaluator σ) (depth : Nat) (root : Bool),
          renderElement o broken f depth root e = renderElement o broken g depth root e)) := by
  obtain ⟨d, hg, hd⟩ := hs.value hv
  refine ⟨d, hg, hd, fun hp => ?_⟩
  have heq := Datum.toValue_hasExpression hp hd
  refine ⟨by rw [heq], ?_⟩
  rintro hn e rfl o broken f g depth root
  exact renderElement_congr o broken f g depth root (heq.trans hn)

def rowContext : List (Datum × Datum) :=
  [(.text "row", .list [.text "p", .text "\x7b\x7b n \x7d\x7d"])]

theorem resolve_row :
    (resolve Expression.evaluate (.expression "row")
      (Session.start (Expression.Scope.ofContext rowContext))).result =
      .ok (.element ⟨"p", [.expression "n"]⟩) := by
  cbv

/-- Data can become an expression: a text of the context turns up as one in a value. -/
theorem resolve_row_hasExpression :
    Datum.entriesPlain rowContext = true ∧ ∃ v,
      (resolve Expression.evaluate (.expression "row")
        (Session.start (Expression.Scope.ofContext rowContext))).result = .ok v ∧
      v.hasExpression = true :=
  ⟨rfl, _, resolve_row, rfl⟩

theorem resolve_row_spells :
    (Session.start (Expression.Scope.ofContext rowContext)).Reached Expression.evaluate
        (Expression.Scope.ofContext rowContext) ∧
      ∃ d, Evaluator.Gives Expression.evaluate "row" d ∧
        d.toValue = .ok (.element ⟨"p", [.expression "n"]⟩) ∧
        (d.isPlain = true → d.innerExpression = true) := by
  obtain ⟨d, hg, hd, h⟩ := resolve_hasExpression_iff .start resolve_row
  exact ⟨.start, d, hg, hd, fun hp => (h hp).1.1 rfl⟩

end ElementMarkup
