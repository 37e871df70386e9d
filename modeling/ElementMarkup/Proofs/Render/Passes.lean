import ElementMarkup.Proofs.Render.Walk

/-!
# What rendering passes by

Rendering passes by elements and by states of the evaluator. An element stands in one that is passed
by, or is the value of an expression there; a state is reached by evaluating such an expression.
What rendering fails for stands in an element that is passed by, or is what the evaluator gives
there.
-/

set_option autoImplicit false

namespace ElementMarkup

variable {σ : Type}

/-- An element with its level below the root, or a state of the evaluator. -/
inductive Waypoint (σ : Type) where
  | element (level : Nat) (e : Element)
  | state (s : σ)

inductive Evaluator.Passes (evaluate : Evaluator σ) (start : σ) (root : Element) :
    Waypoint σ → Prop where
  | root : Passes evaluate start root (.element 0 root)
  | start : Passes evaluate start root (.state start)
  | item {level : Nat} {e : Element} {tag : String} {args : List Item}
      (h : Passes evaluate start root (.element level e)) (hi : .element tag args ∈ e.args) :
      Passes evaluate start root (.element (level + 1) ⟨tag, args⟩)
  | value {level : Nat} {e v : Element} {source : String} {s : σ} {d : Datum}
      (h : Passes evaluate start root (.element level e)) (hi : .expression source ∈ e.args)
      (hs : Passes evaluate start root (.state s)) (hd : (evaluate source s).1 = .ok d)
      (hv : d.toValue = .ok (.element v)) : Passes evaluate start root (.element (level + 1) v)
  | evaluation {level : Nat} {e : Element} {source : String} {s : σ}
      (h : Passes evaluate start root (.element level e)) (hi : .expression source ∈ e.args)
      (hs : Passes evaluate start root (.state s)) :
      Passes evaluate start root (.state (evaluate source s).2)

/-- An expression of an element that is passed by, and a state to evaluate it in. -/
structure Evaluator.Asked (evaluate : Evaluator σ) (start : σ) (root : Element) (source : String)
    (s : σ) : Prop where
  element : ∃ level e, evaluate.Passes start root (.element level e) ∧ .expression source ∈ e.args
  state : evaluate.Passes start root (.state s)

theorem Evaluator.Passes.invariant {evaluate : Evaluator σ} {start : σ} {root : Element}
    {I : σ → Prop} (hstart : I start)
    (hstep : ∀ source s, evaluate.Asked start root source s → I s → I (evaluate source s).2)
    {s : σ} (h : evaluate.Passes start root (.state s)) : I s := by
  generalize hp : Waypoint.state s = p at h
  induction h generalizing s with
  | start => exact Waypoint.state.inj hp ▸ hstart
  | @evaluation level e source s' he hi hs _ ih =>
    exact Waypoint.state.inj hp ▸ hstep source s' ⟨⟨level, e, he, hi⟩, hs⟩ (ih rfl)
  | root | item | value => cases hp

theorem Evaluator.Passes.eq_root {evaluate : Evaluator σ} {start : σ} {root : Element}
    (hitem : ∀ tag args, .element tag args ∉ root.args)
    (hvalue : ∀ source s d v, .expression source ∈ root.args →
      evaluate.Passes start root (.state s) → (evaluate source s).1 = .ok d →
        d.toValue ≠ .ok (.element v))
    {level : Nat} {e : Element} (h : evaluate.Passes start root (.element level e)) : e = root := by
  generalize hp : Waypoint.element level e = p at h
  induction h generalizing level e with
  | root => exact (Waypoint.element.inj hp).2
  | item h hi ih => exact absurd (ih rfl ▸ hi) (hitem _ _)
  | value h hi hs hd hv ih => exact absurd hv (hvalue _ _ _ _ (ih rfl ▸ hi) hs hd)
  | start | evaluation => cases hp

/-- Why rendering a root that may be nested `depth` deep fails. -/
inductive RenderError.Cause (o : Options) (evaluate : Evaluator σ) (start : σ) (root : Element)
    (depth : Nat) : RenderError → Prop where
  | tag {level : Nat} {e : Element} (h : evaluate.Passes start root (.element level e))
      (ht : o.allows e.tag = false) : Cause o evaluate start root depth (.invalidTag e.tag)
  | void {level : Nat} {e : Element} (h : evaluate.Passes start root (.element level e))
      (hx : o.xml = false) (hv : isVoidTag e.tag = true) :
      Cause o evaluate start root depth (.voidElement e.tag)
  | number {level : Nat} {e : Element} (h : evaluate.Passes start root (.element level e))
      (hw : Item.allWritable e.args = false) : Cause o evaluate start root depth .tooManyDigits
  | value {source : String} {s : σ} {d : Datum} (h : evaluate.Asked start root source s)
      (hd : (evaluate source s).1 = .ok d) (hw : d.writable = false) :
      Cause o evaluate start root depth .tooManyDigits
  | depth {e : Element} (h : evaluate.Passes start root (.element depth e)) :
      Cause o evaluate start root depth .tooDeep
  | failure {source : String} {s : σ} {f : Expression.Failure}
      (h : evaluate.Asked start root source s) (hf : (evaluate source s).1 = .error f) :
      Cause o evaluate start root depth (.evaluation source f)
  | shape {source : String} {s : σ} {d : Datum} {e : ShapeError}
      (h : evaluate.Asked start root source s) (hd : (evaluate source s).1 = .ok d)
      (he : d.toValue = .error e) :
      Cause o evaluate start root depth (.evaluation source (.shape e))

/-- The state is passed by, and so is one for each value that is known. -/
structure Session.Tracked (evaluate : Evaluator σ) (start : σ) (root : Element) (s : Session σ) :
    Prop where
  state : evaluate.Passes start root (.state s.state)
  known : ∀ p ∈ s.known, ∃ state d, evaluate.Passes start root (.state state) ∧
    (evaluate p.1 state).1 = .ok d ∧ d.toValue = .ok p.2

section

variable {o : Options} {evaluate : Evaluator σ} {start : σ} {root : Element} {depth level : Nat}

/-- A value of an element at some level: it can be written unless there is a cause to fail, and it
is passed by if it is an element. -/
structure Value.Tracked (o : Options) (evaluate : Evaluator σ) (start : σ) (root : Element)
    (depth level : Nat) (v : Value) : Prop where
  writable : v.writable = false → RenderError.Cause o evaluate start root depth .tooManyDigits
  passes : ∀ e, v = .element e → evaluate.Passes start root (.element (level + 1) e)

theorem Value.tracked_of_mem {e : Element} (he : evaluate.Passes start root (.element level e))
    {v : Value} (hv : v.toItem ∈ e.args) : v.Tracked o evaluate start root depth level where
  writable hw := .number he (Bool.eq_false_iff.2 fun hall => by
    rw [Value.writable, Item.writable_of_mem hall hv] at hw
    cases hw)
  passes := by
    rintro e' rfl
    exact .item he hv

theorem Value.tracked_of_evaluation {e : Element} {source : String} {s : σ} {d : Datum} {v : Value}
    (he : evaluate.Passes start root (.element level e)) (hi : .expression source ∈ e.args)
    (hs : evaluate.Passes start root (.state s)) (hd : (evaluate source s).1 = .ok d)
    (hv : d.toValue = .ok v) : v.Tracked o evaluate start root depth level where
  writable hw := .value ⟨⟨level, e, he, hi⟩, hs⟩ hd (Bool.eq_false_iff.2 fun hdw => by
    have hshape := Datum.toValue_shaped hdw
    rw [hv, shaped_ok_iff, hw] at hshape
    cases hshape)
  passes := by
    rintro e' rfl
    exact .value he hi hs hd hv

theorem resolve_tracked {e : Element} (he : evaluate.Passes start root (.element level e))
    {i : Item} (hi : i ∈ e.args) :
    Step.Held (Session.Tracked evaluate start root) (RenderError.Cause o evaluate start root depth)
      (Value.Tracked o evaluate start root depth level) (resolve evaluate i) := by
  intro s hs
  cases i with
  | expression source =>
    have hasked : evaluate.Asked start root source s.state := ⟨⟨level, e, he, hi⟩, hs.state⟩
    have hnext : evaluate.Passes start root (.state (evaluate source s.state).2) :=
      .evaluation he hi hs.state
    dsimp only [resolve]
    split
    · next v hk =>
      obtain ⟨state, d, hstate, hd, hv⟩ := hs.known _ (mem_of_lookup hk)
      exact ⟨hs, by simp, fun w hw =>
        Except.ok.inj hw ▸ Value.tracked_of_evaluation he hi hstate hd hv⟩
    · split
      · next f state hf =>
        rw [hf] at hnext
        refine ⟨⟨hnext, hs.known⟩, fun err herr => ?_, by simp⟩
        exact Except.error.inj herr ▸ .failure hasked (by rw [hf])
      · next d state hd =>
        rw [hd] at hnext
        have hgives : (evaluate source s.state).1 = .ok d := by rw [hd]
        split
        · next v hv =>
          refine ⟨⟨hnext, ?_⟩, by simp, fun w hw => ?_⟩
          · exact List.forall_mem_cons.2 ⟨⟨s.state, d, hs.state, hgives, hv⟩, hs.known⟩
          · exact Except.ok.inj hw ▸ Value.tracked_of_evaluation he hi hs.state hgives hv
        · next hv =>
          refine ⟨⟨hnext, hs.known⟩, fun err herr => ?_, by simp⟩
          refine Except.error.inj herr ▸ .value hasked hgives (Bool.eq_false_iff.2 fun hdw => ?_)
          have hshape := Datum.toValue_shaped hdw
          rw [hv, shaped_error_iff] at hshape
          exact hshape rfl
        · next hv =>
          refine ⟨⟨hnext, hs.known⟩, fun err herr => ?_, by simp⟩
          exact Except.error.inj herr ▸ .shape hasked hgives hv
  | text | number | word | element =>
    exact ⟨hs, by simp [resolve], fun w hw =>
      Except.ok.inj hw ▸ Value.tracked_of_mem he hi⟩

theorem resolveAll_tracked {e : Element} (he : evaluate.Passes start root (.element level e))
    {is : List Item} (hi : ∀ i ∈ is, i ∈ e.args) :
    Step.Held (Session.Tracked evaluate start root) (RenderError.Cause o evaluate start root depth)
      (fun vs => ∀ v ∈ vs, v.Tracked o evaluate start root depth level)
      (resolveAll evaluate is) := by
  induction is with
  | nil => exact Step.held_pure (by simp)
  | cons i is ih =>
    rw [List.forall_mem_cons] at hi
    exact (resolve_tracked he hi.1).bind fun v hv => (ih hi.2).bind fun vs hvs =>
      Step.held_pure (List.forall_mem_cons.2 ⟨hv, hvs⟩)

theorem contents_tracked {child : Element → Step σ Content} {vs : List Value}
    (hv : ∀ v ∈ vs, v.Tracked o evaluate start root depth level)
    (hc : ∀ e, evaluate.Passes start root (.element (level + 1) e) →
      Step.Held (Session.Tracked evaluate start root)
        (RenderError.Cause o evaluate start root depth) (fun _ => True) (child e)) :
    Step.Held (Session.Tracked evaluate start root) (RenderError.Cause o evaluate start root depth)
      (fun _ => True) (contents child vs) := by
  induction vs with
  | nil => exact Step.held_pure trivial
  | cons v vs ih =>
    rw [List.forall_mem_cons] at hv
    have hrest := ih hv.2
    have htext : Step.Held (Session.Tracked evaluate start root)
        (RenderError.Cause o evaluate start root depth) (fun _ => True)
        (Step.ofText? v.text?) := by
      cases ht : v.text? with
      | some text => exact Step.held_pure trivial
      | none =>
        refine Step.held_fail (hv.1.writable (Bool.eq_false_iff.2 fun hw => ?_))
        obtain ⟨text, hsome⟩ := exists_valueText hw
        rw [ht] at hsome
        cases hsome
    cases v with
    | element e =>
      exact (hc e (hv.1.passes e rfl)).bind fun _ _ => hrest.bind fun _ _ => Step.held_pure trivial
    | text | number | word =>
      exact htext.bind fun _ _ => hrest.bind fun _ _ => Step.held_pure trivial

theorem elementContent_tracked {child : Element → Step σ Content} {e : Element} {vs : List Value}
    (he : evaluate.Passes start root (.element level e))
    (hv : ∀ v ∈ vs, v.Tracked o evaluate start root depth level)
    (hc : ∀ e, evaluate.Passes start root (.element (level + 1) e) →
      Step.Held (Session.Tracked evaluate start root)
        (RenderError.Cause o evaluate start root depth) (fun _ => True) (child e)) :
    Step.Held (Session.Tracked evaluate start root) (RenderError.Cause o evaluate start root depth)
      (fun _ => True)
      (elementContent o child e.tag (headOf vs).attributes (childrenOf vs)) := by
  have hshown : Step.Held (Session.Tracked evaluate start root)
      (RenderError.Cause o evaluate start root depth) (fun _ => True)
      (Step.orTooManyDigits (shownAttributes? (headOf vs).attributes)) := by
    by_cases hall : ∀ v ∈ vs, v.writable = true
    · obtain ⟨shown, hs⟩ := exists_shownAttributes (headOf_writable hall)
      rw [hs]
      exact Step.held_pure trivial
    · simp only [not_forall, Bool.not_eq_true] at hall
      obtain ⟨v, hmem, hw⟩ := hall
      cases shownAttributes? (headOf vs).attributes with
      | some shown => exact Step.held_pure trivial
      | none => exact Step.held_fail ((hv v hmem).writable hw)
  refine hshown.bind fun shown _ => ?_
  split
  · next hvoid =>
    simp only [Bool.and_eq_true, Bool.not_eq_true'] at hvoid
    exact Step.held_fail (.void he hvoid.1.1 hvoid.1.2)
  · exact (contents_tracked (fun v hm => hv v (List.mem_of_mem_drop hm)) hc).bind fun _ _ =>
      Step.held_pure trivial

theorem expand_tracked {left : Nat} (hl : level + left = depth) {e : Element}
    (he : evaluate.Passes start root (.element level e)) :
    Step.Held (Session.Tracked evaluate start root) (RenderError.Cause o evaluate start root depth)
      (fun _ => True) (expand o evaluate left e) := by
  induction left generalizing level e with
  | zero =>
    obtain rfl : level = depth := hl
    exact Step.held_fail (.depth he)
  | succ left ih =>
    rw [expand_succ, checkTag]
    split
    · rw [pure_bind]
      refine (resolveAll_tracked he fun _ hi => hi).bind fun vs hvs => ?_
      exact elementContent_tracked he hvs fun e' he' => ih (by omega) he'
    · next ht =>
      rw [Step.fail_bind]
      exact Step.held_fail (.tag he (Bool.eq_false_iff.2 ht))

end

/-- Rendering a root ends in a state that it has passed by, and whatever error it ends with has a
cause in what it has passed by. -/
theorem renderElement_passes (o : Options) (broken : Bool) (evaluate : Evaluator σ) (depth : Nat)
    (start : σ) (e : Element) :
    let outcome := renderElement o broken evaluate depth true e (Session.start start)
    evaluate.Passes start e (.state outcome.session.state) ∧
      ∀ err, outcome.result = .error err → err.Cause o evaluate start e depth := by
  have hs : Session.Tracked evaluate start e (Session.start start) :=
    ⟨.start, by simp [Session.start]⟩
  have hexpand : Step.Held (Session.Tracked evaluate start e)
      (RenderError.Cause o evaluate start e depth) (fun _ => True) (expand o evaluate depth e) :=
    expand_tracked (Nat.zero_add depth) .root
  have htracked := hexpand (Session.start start) hs
  obtain ⟨hsession, hp⟩ := renderElement_prints o broken evaluate depth true e (Session.start start)
  intro outcome
  refine ⟨hsession ▸ htracked.1.state, fun err herr => ?_⟩
  cases hr : (expand o evaluate depth e (Session.start start)).result with
  | error err' =>
    rw [hr] at hp
    obtain rfl : err' = err := Except.error.inj (hp.symm.trans herr)
    exact htracked.2.1 err' hr
  | ok c =>
    rw [hr] at hp
    cases hp.1.symm.trans herr

end ElementMarkup
