import ElementMarkup.Expression.Evaluate
import ElementMarkup.Proofs.Render.Shown

/-!
# The first defect

Rendering checks tags, evaluates items, parses attributes and writes text in turns. Its outcome is
that of a plain walk: at each element the tag is checked, then all items are resolved from left to
right, then a void element is checked for children, and then the elements among the children are
visited. What is written never fails when all integers can be written.
-/

set_option autoImplicit false

namespace ElementMarkup

open Expression (Failure Fault)

variable {σ : Type}

def visitAll (visit : Element → Step σ Unit) : List Value → Step σ Unit
  | [] => pure ()
  | .element e :: rest => do
    visit e
    visitAll visit rest
  | _ :: rest => visitAll visit rest

/-- Walks through an element that is nested at most `depth` deep. -/
def walk (o : Options) (evaluate : Evaluator σ) : Nat → Element → Step σ Unit
  | 0, _ => Step.fail .tooDeep
  | depth + 1, e =>
    if e.tag ∈ o.allowedTags then do
      let values ← resolveAll evaluate e.args
      if !o.xml && isVoidTag e.tag && !(childrenOf values).isEmpty then
        Step.fail (.voidElement e.tag)
      else visitAll (walk o evaluate depth) (childrenOf values)
    else Step.fail (.invalidTag e.tag)

/-- The evaluator fails on the source, or gives a datum for it that has no place in a tree. -/
def Evaluator.Refuses (evaluate : Evaluator σ) (source : String) (f : Failure) : Prop :=
  (∃ state state', evaluate source state = (.error f, state')) ∨
    ∃ d e, evaluate.Gives source d ∧ d.toValue = .error e ∧ f = .shape e

def guarded : Failure → Bool
  | .unguarded _ => false
  | .malformed | .fault _ | .undefinedResult _ | .shape _ => true

/-- What a walk can stop at. -/
inductive Defect (o : Options) (evaluate : Evaluator σ) : RenderError → Prop where
  | tag {tag : String} (h : tag ∉ o.allowedTags) : Defect o evaluate (.invalidTag tag)
  | expression {source : String} {f : Failure} (h : evaluate.Refuses source f)
      (hg : guarded f = true) : Defect o evaluate (.evaluation source f)
  | void {tag : String} (hx : o.xml = false) (h : isVoidTag tag = true) :
      Defect o evaluate (.voidElement tag)
  | depth : Defect o evaluate .tooDeep

def Unguarded (evaluate : Evaluator σ) (err : RenderError) : Prop :=
  ∃ source fault, err = .evaluation source (.unguarded fault) ∧
    evaluate.Refuses source (.unguarded fault)

theorem mem_unionTags (base new : List String) (tag : String) :
    tag ∈ unionTags base new ↔ tag ∈ base ∨ tag ∈ new := by
  induction new generalizing base with
  | nil => simp [unionTags]
  | cons t new ih =>
    rw [unionTags, List.foldl_cons, ← unionTags, ih]
    by_cases ht : base.contains t = true
    · rw [if_pos ht, List.mem_cons]
      rw [List.contains_iff_mem] at ht
      constructor
      · rintro (h | h)
        · exact .inl h
        · exact .inr (.inr h)
      · rintro (h | rfl | h)
        · exact .inl h
        · exact .inl ht
        · exact .inr h
    · rw [if_neg ht, List.mem_append, List.mem_singleton, List.mem_cons, or_assoc]

theorem Options.allows_iff (o : Options) (tag : String) :
    o.allows tag = true ↔ tag ∈ o.allowedTags := by
  rw [allowedTags, mem_unionTags, allows, isKnownTag, Bool.or_eq_true, List.contains_iff_mem,
    List.contains_iff_mem]

def Session.Writable (s : Session σ) : Prop := ∀ p ∈ s.known, p.2.writable = true

theorem resolve_remembers (evaluate : Evaluator σ) (i : Item) :
    Step.Remembers (resolve evaluate i) := by
  intro s p hp
  cases i with
  | expression source =>
    rcases resolve_expression evaluate source s with ⟨_, _, hr⟩ | ⟨_, _, _, _, _, _, hr⟩ |
      ⟨_, _, _, _, _, hr⟩
    · rw [hr]
      exact hp
    · rw [hr]
      exact List.mem_cons_of_mem _ hp
    · rw [hr]
      exact hp
  | text | number | word | element => exact hp

theorem resolveAll_remembers (evaluate : Evaluator σ) (is : List Item) :
    Step.Remembers (resolveAll evaluate is) :=
  resolveAll_of Step.compositional_remembers (resolve_remembers evaluate) is

theorem visitAll_of {visit : Element → Step σ Unit} {C : {α : Type} → Step σ α → Prop}
    (hC : Step.Compositional C) (h : ∀ e, C (visit e)) (vs : List Value) :
    C (visitAll visit vs) := by
  induction vs with
  | nil => exact hC.pure _
  | cons v vs ih =>
    cases v with
    | element e => exact hC.bind (h e) fun _ => ih
    | text | number | word => exact ih

theorem visitAll_remembers {visit : Element → Step σ Unit} (h : ∀ e, Step.Remembers (visit e))
    (vs : List Value) : Step.Remembers (visitAll visit vs) :=
  visitAll_of Step.compositional_remembers h vs

theorem walk_remembers (o : Options) (evaluate : Evaluator σ) (depth : Nat) (e : Element) :
    Step.Remembers (walk o evaluate depth e) := by
  induction depth generalizing e with
  | zero => exact Step.remembers_fail _
  | succ depth ih =>
    rw [walk]
    split
    · refine (resolveAll_remembers evaluate e.args).bind fun vs => ?_
      split
      · exact Step.remembers_fail _
      · exact visitAll_remembers ih _
    · exact Step.remembers_fail _

/-- Unless an integer is met that cannot be written, `m` takes the course of `k`. -/
abbrev Follows {α β : Type} (R : α → β → Prop) (m : Step σ α) (k : Step σ β) : Prop :=
  Step.Course .tooManyDigits (fun v => v.writable = true) R m k

theorem resolve_follows (evaluate : Evaluator σ) {i : Item} (hi : i.writable = true) :
    Follows (fun v w => v = w ∧ v.writable = true) (resolve evaluate i) (resolve evaluate i) := by
  intro s hknown _
  refine ⟨rfl, ?_⟩
  cases i with
  | expression source =>
    rcases resolve_expression evaluate source s with ⟨v, hk, hr⟩ | ⟨_, d, state', v, _, _, hr⟩ |
      ⟨_, e, state', _, _, hr⟩
    · rw [hr] at hknown ⊢
      exact .ok ⟨rfl, hknown (source, v) (mem_of_lookup hk)⟩
    · rw [hr] at hknown ⊢
      exact .ok ⟨rfl, hknown (source, v) List.mem_cons_self⟩
    · rw [hr]
      exact .error e
  | text | number | word | element => exact .ok ⟨rfl, hi⟩

theorem resolveAll_follows (evaluate : Evaluator σ) {is : List Item}
    (hi : Item.allWritable is = true) :
    Follows (fun vs ws => vs = ws ∧ ∀ v ∈ vs, v.writable = true) (resolveAll evaluate is)
      (resolveAll evaluate is) := by
  induction is with
  | nil => exact Step.course_pure ⟨rfl, by simp⟩
  | cons i is ih =>
    rw [Item.allWritable, Bool.and_eq_true] at hi
    refine (resolve_follows evaluate hi.1).bind
      (fun _ => (resolveAll_remembers evaluate is).bind fun _ => Step.remembers_pure _)
      fun v w hv => (ih hi.2).bind (fun _ => Step.remembers_pure _) fun vs ws hvs => ?_
    obtain ⟨rfl, hv⟩ := hv
    obtain ⟨rfl, hvs⟩ := hvs
    exact Step.course_pure ⟨rfl, List.forall_mem_cons.2 ⟨hv, hvs⟩⟩

theorem Follows.map {α γ : Type} {m : Step σ α} {k : Step σ Unit}
    (h : Follows (fun _ _ => True) m k) (c : α → γ) :
    Follows (fun _ _ => True) (m >>= fun a => pure (c a)) k := by
  have hb := Step.Course.bind (f := fun a => pure (c a)) (g := pure) (Q := fun _ _ => True) h
    (fun _ => Step.remembers_pure _) fun _ _ _ => Step.course_pure trivial
  rwa [Step.bind_pure] at hb

theorem contents_follows {child : Element → Step σ Content} {visit : Element → Step σ Unit}
    (hm : ∀ e, Step.Remembers (visit e)) {vs : List Value} (hv : ∀ v ∈ vs, v.writable = true)
    (h : ∀ e, Item.allWritable e.args = true → Follows (fun _ _ => True) (child e) (visit e)) :
    Follows (fun _ _ => True) (contents child vs) (visitAll visit vs) := by
  induction vs with
  | nil => exact Step.course_pure trivial
  | cons v vs ih =>
    rw [List.forall_mem_cons] at hv
    have hrest := ih hv.2
    cases v with
    | element e =>
      exact (h e hv.1).bind (fun _ => visitAll_remembers hm vs) fun c _ _ => hrest.map (c :: ·)
    | text | number | word =>
      obtain ⟨t, ht⟩ := exists_valueText hv.1
      rw [contents, ht, visitAll]
      · exact hrest.map (.text t.toList :: ·)
      all_goals simp

theorem expand_follows (o : Options) (evaluate : Evaluator σ) (depth : Nat) {e : Element}
    (h : Item.allWritable e.args = true) :
    Follows (fun _ _ => True) (expand o evaluate depth e) (walk o evaluate depth e) := by
  induction depth generalizing e with
  | zero => exact Step.course_fail _
  | succ depth ih =>
    have hvisit (vs : List Value) := visitAll_remembers (walk_remembers o evaluate depth) vs
    rw [expand_succ, walk, checkTag]
    simp only [Options.allows_iff]
    by_cases ht : e.tag ∈ o.allowedTags
    case neg =>
      rw [if_neg ht, if_neg ht, Step.fail_bind]
      exact Step.course_fail _
    rw [if_pos ht, if_pos ht, pure_bind]
    refine (resolveAll_follows evaluate h).bind (fun vs => ?_) fun vs ws hvs => ?_
    · split
      · exact Step.remembers_fail _
      · exact hvisit _
    obtain ⟨rfl, hvs⟩ := hvs
    obtain ⟨shown, hshown⟩ := exists_shownAttributes (headOf_writable hvs)
    have hchildren : ∀ v ∈ childrenOf vs, v.writable = true :=
      fun v hv => hvs v (List.mem_of_mem_drop hv)
    rw [elementContent, hshown, Step.orTooManyDigits, pure_bind]
    split
    · exact Step.course_fail _
    · exact Follows.map (contents_follows (walk_remembers o evaluate depth) hchildren
        fun _ he => ih he) (Content.element e.tag shown)

theorem resolve_fails (evaluate : Evaluator σ) (i : Item) :
    Step.Fails (resolve evaluate i) fun err => err = .tooManyDigits ∨
      ∃ source f, err = .evaluation source f ∧ evaluate.Refuses source f := by
  intro s err h
  cases i with
  | expression source =>
    unfold resolve at h
    dsimp only at h
    split at h
    · simp at h
    · split at h
      · rename_i f state hf
        exact .inr ⟨source, f, (Except.error.inj h).symm, .inl ⟨s.state, state, hf⟩⟩
      · rename_i d state hd
        split at h
        · simp at h
        · exact .inl (Except.error.inj h).symm
        · rename_i e _ hv
          exact .inr ⟨source, .shape e, (Except.error.inj h).symm,
            .inr ⟨d, e, ⟨s.state, state, hd⟩, hv, rfl⟩⟩
  | text | number | word | element => simp [resolve] at h

theorem walk_fails (o : Options) (evaluate : Evaluator σ) (depth : Nat) (e : Element) :
    Step.Fails (walk o evaluate depth e) fun err =>
      err = .tooManyDigits ∨ Defect o evaluate err ∨ Unguarded evaluate err := by
  induction depth generalizing e with
  | zero => exact Step.fails_fail (.inr (.inl .depth))
  | succ depth ih =>
    have hresolve : Step.Fails (resolveAll evaluate e.args) fun err =>
        err = .tooManyDigits ∨ Defect o evaluate err ∨ Unguarded evaluate err := by
      intro s err h
      have hall := resolveAll_of (Step.compositional_fails _) (resolve_fails evaluate) e.args
      rcases hall s err h with rfl | ⟨source, f, rfl, hf⟩
      · exact .inl rfl
      · cases f with
        | unguarded fault => exact .inr (.inr ⟨source, fault, rfl, hf⟩)
        | malformed | fault | undefinedResult | shape => exact .inr (.inl (.expression hf rfl))
    rw [walk]
    by_cases ht : e.tag ∈ o.allowedTags
    case neg =>
      rw [if_neg ht]
      exact Step.fails_fail (.inr (.inl (.tag ht)))
    rw [if_pos ht]
    refine hresolve.bind fun vs => ?_
    split
    · rename_i hv
      simp only [Bool.and_eq_true, Bool.not_eq_true'] at hv
      exact Step.fails_fail (.inr (.inl (.void hv.1.1 hv.1.2)))
    · exact visitAll_of (Step.compositional_fails _) ih _

def Evaluator.Writable (evaluate : Evaluator σ) : Prop :=
  ∀ source d, evaluate.Gives source d → d.writable = true

section

variable {evaluate : Evaluator σ}

theorem resolve_held (he : evaluate.Writable) {i : Item} (hi : i.writable = true) :
    Step.Held Session.Writable (· ≠ .tooManyDigits) (fun v => v.writable = true)
      (resolve evaluate i) := by
  intro s hs
  cases i with
  | expression source =>
    unfold resolve
    dsimp only
    split
    · rename_i v hk
      have hv := hs (source, v) (mem_of_lookup hk)
      exact ⟨hs, by simp, fun w hw => Except.ok.inj hw ▸ hv⟩
    · split
      · exact ⟨hs, by rintro _ ⟨⟩; simp, by simp⟩
      · rename_i d state hd
        have hshape := Datum.toValue_shaped (he source d ⟨s.state, state, hd⟩)
        split
        · rename_i v hv
          rw [hv, shaped_ok_iff] at hshape
          exact ⟨List.forall_mem_cons.2 ⟨hshape, hs⟩, by simp,
            fun w hw => Except.ok.inj hw ▸ hshape⟩
        · rename_i hv
          rw [hv, shaped_error_iff] at hshape
          exact absurd rfl hshape
        · exact ⟨hs, by rintro _ ⟨⟩; simp, by simp⟩
  | text | number | word | element =>
    exact ⟨hs, by simp [resolve], fun w hw => Except.ok.inj hw ▸ hi⟩

theorem resolveAll_held (he : evaluate.Writable) {is : List Item}
    (hi : Item.allWritable is = true) :
    Step.Held Session.Writable (· ≠ .tooManyDigits) (fun vs => ∀ v ∈ vs, v.writable = true)
      (resolveAll evaluate is) := by
  induction is with
  | nil => exact Step.held_pure (by simp)
  | cons i is ih =>
    rw [Item.allWritable, Bool.and_eq_true] at hi
    exact (resolve_held he hi.1).bind fun v hv => (ih hi.2).bind fun vs hvs =>
      Step.held_pure (List.forall_mem_cons.2 ⟨hv, hvs⟩)

theorem visitAll_held {visit : Element → Step σ Unit} {vs : List Value}
    (hv : ∀ v ∈ vs, v.writable = true)
    (h : ∀ e, Item.allWritable e.args = true →
      Step.Held Session.Writable (· ≠ .tooManyDigits) (fun _ => True) (visit e)) :
    Step.Held Session.Writable (· ≠ .tooManyDigits) (fun _ => True) (visitAll visit vs) := by
  induction vs with
  | nil => exact Step.held_pure trivial
  | cons v vs ih =>
    rw [List.forall_mem_cons] at hv
    cases v with
    | element e => exact (h e hv.1).bind fun _ _ => ih hv.2
    | text | number | word => exact ih hv.2

/-- If the tree and all data of the evaluator can be written, so can all values of the walk. -/
theorem walk_held (he : evaluate.Writable) (o : Options) (depth : Nat) {e : Element}
    (h : Item.allWritable e.args = true) :
    Step.Held Session.Writable (· ≠ .tooManyDigits) (fun _ => True) (walk o evaluate depth e) := by
  induction depth generalizing e with
  | zero => exact Step.held_fail RenderError.noConfusion
  | succ depth ih =>
    rw [walk]
    split
    · refine (resolveAll_held he h).bind fun vs hvs => ?_
      split
      · exact Step.held_fail RenderError.noConfusion
      · exact visitAll_held (fun v hv => hvs v (List.mem_of_mem_drop hv)) fun _ he => ih he
    · exact Step.held_fail RenderError.noConfusion

end

/-- If all integers that are met can be written, rendering an element ends as the walk does: it
succeeds when the walk meets no defect, and otherwise it fails with the first one, or with what the
evaluator does not guard. -/
theorem renderElement_walk {o : Options} {broken : Bool} {evaluate : Evaluator σ} {depth : Nat}
    {root : Bool} {e : Element} {s : Session σ} (hw : Item.allWritable e.args = true)
    (hk : (walk o evaluate depth e s).session.Writable)
    (hd : (walk o evaluate depth e s).result ≠ .error .tooManyDigits) :
    (renderElement o broken evaluate depth root e s).result = (walk o evaluate depth e s).result ∧
      (renderElement o broken evaluate depth root e s).session =
        (walk o evaluate depth e s).session ∧
      ∀ err, (walk o evaluate depth e s).result = .error err →
        Defect o evaluate err ∨ Unguarded evaluate err := by
  obtain ⟨hsession, hagree⟩ := expand_follows o evaluate depth hw s hk hd
  obtain ⟨hprinted, hp⟩ := renderElement_prints o broken evaluate depth root e s
  refine ⟨?_, hprinted.trans hsession, fun err herr => ?_⟩
  · cases hr : (walk o evaluate depth e s).result with
    | error err =>
      rw [hagree.of_error hr] at hp
      exact hp
    | ok _ =>
      obtain ⟨c, hc, _⟩ := hagree.of_ok hr
      rw [hc] at hp
      exact hp.1
  · exact (walk_fails o evaluate depth e s err herr).resolve_left fun he => hd (he ▸ herr)

def rowEvaluator : Evaluator Unit := fun _ s => (.ok (.list [.text "td", .text "a"]), s)

theorem rowEvaluator_writable : rowEvaluator.Writable := by
  rintro source d ⟨_, _, h⟩
  obtain rfl := Except.ok.inj (Prod.mk.inj h).1
  rfl

/-- A page with a row, a void element with a row in it, and a tag that is not allowed. -/
def faultyPage : Element :=
  ⟨"div", [.text ".a", .expression "row", .element "br" [.expression "row"], .element "no" []]⟩

theorem walk_faultyPage :
    Item.allWritable faultyPage.args = true ∧
      (walk {} rowEvaluator 3 faultyPage (Session.start ())).session.Writable ∧
      (walk {} rowEvaluator 3 faultyPage (Session.start ())).result =
        .error (.voidElement "br") := by
  have hw : Item.allWritable faultyPage.args = true := by decide
  have hstart : (Session.start () : Session Unit).Writable := by
    simp [Session.Writable, Session.start]
  obtain ⟨hk, herror, _⟩ := walk_held rowEvaluator_writable {} 3 hw (Session.start ()) hstart
  have hd : (walk {} rowEvaluator 3 faultyPage (Session.start ())).result ≠
      .error .tooManyDigits := fun hr => herror _ hr rfl
  have hrendered : (renderElement {} true rowEvaluator 3 true faultyPage
      (Session.start ())).result = .error (.voidElement "br") := by cbv
  exact ⟨hw, hk, (renderElement_walk hw hk hd).1.symm.trans hrendered⟩

/-- A mapping whose key is a list is refused before it is evaluated, and the fault is passed on. -/
theorem renderElement_unhashable :
    (renderElement {} true Expression.evaluate 1 true
        ⟨"p", [.expression "\x7b[]: 1\x7d|length"]⟩
        (Session.start (Expression.Scope.ofContext []))).result =
      .error (.evaluation "\x7b[]: 1\x7d|length" (.unguarded (.unhashable "list"))) ∧
    ¬ Defect {} Expression.evaluate
      (.evaluation "\x7b[]: 1\x7d|length" (.unguarded (.unhashable "list"))) := by
  refine ⟨by cbv, fun h => ?_⟩
  cases h with
  | expression _ hg => simp [guarded] at hg

end ElementMarkup
