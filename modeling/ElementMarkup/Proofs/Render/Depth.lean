import ElementMarkup.Proofs.Render.Family
import ElementMarkup.Proofs.Render.Filled
import ElementMarkup.Proofs.Tree.Depth

/-!
# How deep rendering goes

Rendering goes down the tree, and from an expression on down the value that it has. If no value of
its expressions holds an expression, it comes to an end: no deeper than the tree is with the deepest
of these values below it. Where a value holds its own expression it does not end.
-/

set_option autoImplicit false

namespace ElementMarkup

variable {σ α β : Type}

/-- From states with `P` the evaluator goes to states with `P`, and there it gives no value for the
sources that holds an expression. -/
structure Evaluator.Finishes (evaluate : Evaluator σ) (P : σ → Prop) (sources : List String) :
    Prop where
  state : ∀ source ∈ sources, ∀ state, P state → P (evaluate source state).2
  value : ∀ source ∈ sources, ∀ state, P state → ∀ d v, (evaluate source state).1 = .ok d →
    d.toValue = .ok v → v.hasExpression = false

structure Session.Finished (P : σ → Prop) (s : Session σ) : Prop where
  state : P s.state
  known : ∀ p ∈ s.known, p.2.hasExpression = false

/-- The greatest depth of the values that are known for the sources. -/
def Session.valueDepth (s : Session σ) : List String → Nat
  | [] => 0
  | source :: rest =>
    max ((s.known.lookup source).elim 0 Value.depth) (s.valueDepth rest)

theorem Evaluator.Finishes.subset {evaluate : Evaluator σ} {P : σ → Prop}
    {sources more : List String} (h : evaluate.Finishes P more) (hs : sources ⊆ more) :
    evaluate.Finishes P sources :=
  ⟨fun source hsource => h.state source (hs hsource),
    fun source hsource => h.value source (hs hsource)⟩

theorem Session.valueDepth_le_iff {s : Session σ} {sources : List String} {n : Nat} :
    s.valueDepth sources ≤ n ↔
      ∀ source ∈ sources, ∀ v, s.known.lookup source = some v → v.depth ≤ n := by
  induction sources with
  | nil => simp [valueDepth]
  | cons source rest ih =>
    rw [valueDepth, Nat.max_le, ih, List.forall_mem_cons]
    cases s.known.lookup source <;> simp

theorem Session.depth_le_valueDepth {s : Session σ} {sources : List String} {source : String}
    {v : Value} (h : source ∈ sources) (hv : s.known.lookup source = some v) :
    v.depth ≤ s.valueDepth sources :=
  valueDepth_le_iff.1 (Nat.le_refl _) source h v hv

theorem Session.valueDepth_mono {s t : Session σ} {sources more : List String}
    (ht : t.Extends s) (hs : sources ⊆ more) : s.valueDepth sources ≤ t.valueDepth more :=
  valueDepth_le_iff.2 fun source h v hv => depth_le_valueDepth (hs h) (ht source v hv)

namespace Step

/-- From the session `s`, the steps of all depths come to one end: none is too deep for it from the
depth on that `bound` gives for the session in which they end. -/
def Ends (P : σ → Prop) (bound : Session σ → Nat) (m : Nat → Step σ α) (s : Session σ) : Prop :=
  ∃ out : Outcome σ α, out.result ≠ .error .tooDeep ∧ out.session.Finished P ∧
    out.session.Extends s ∧ ∀ depth, bound out.session ≤ depth → m depth s = out

def Rising (bound : Session σ → Nat) : Prop :=
  ∀ s t : Session σ, t.Extends s → bound s ≤ bound t

variable {P : σ → Prop} {bound : Session σ → Nat}

theorem Ends.weaken {bound' : Session σ → Nat} {m : Nat → Step σ α} {s : Session σ}
    (h : Ends P bound m s) (hb : ∀ t : Session σ, t.Extends s → bound t ≤ bound' t) :
    Ends P bound' m s := by
  obtain ⟨out, hout, hf, hs, hm⟩ := h
  exact ⟨out, hout, hf, hs, fun depth hd => hm depth (Nat.le_trans (hb _ hs) hd)⟩

theorem Ends.succ {m : Nat → Step σ α} {s : Session σ}
    (h : Ends P bound (fun depth => m (depth + 1)) s) : Ends P (fun t => bound t + 1) m s := by
  obtain ⟨out, hout, hf, hs, hm⟩ := h
  refine ⟨out, hout, hf, hs, fun depth hd => ?_⟩
  obtain ⟨below, rfl⟩ := Nat.exists_eq_add_of_le' hd
  exact hm (below + bound out.session) (Nat.le_add_left _ _)

theorem ends_const {m : Step σ α} {s : Session σ} (hr : (m s).result ≠ .error .tooDeep)
    (hf : (m s).session.Finished P) (hs : (m s).session.Extends s) :
    Ends P bound (fun _ => m) s := ⟨m s, hr, hf, hs, fun _ _ => rfl⟩

theorem Ends.bind (hb : Rising bound) {m : Nat → Step σ α} {f : Nat → α → Step σ β}
    {s : Session σ} (hm : Ends P bound m s)
    (hf : ∀ depth a, (m depth s).result = .ok a → (m depth s).session.Finished P →
      (m depth s).session.Extends s →
        Ends P bound (fun depth => f depth a) (m depth s).session) :
    Ends P bound (fun depth => m depth >>= f depth) s := by
  obtain ⟨out, hout, hfin, hs, hm⟩ := hm
  have hlast := hm _ (Nat.le_refl _)
  cases hr : out.result with
  | error e =>
    refine ⟨⟨out.written, out.session, .error e⟩, ?_, hfin, hs, fun depth hd => ?_⟩
    · intro he
      exact hout (hr.trans (congrArg Except.error (Except.error.inj he)))
    · have hfirst := hm depth hd
      have herror : (m depth s).result = .error e := hfirst ▸ hr
      change (m depth >>= f depth) s = _
      rw [bind_of_error herror, hfirst]
  | ok a =>
    have hnext := hf (bound out.session) a
    rw [hlast] at hnext
    obtain ⟨out', hout', hfin', hs', hm'⟩ := hnext hr hfin hs
    refine ⟨⟨out.written ++ out'.written, out'.session, out'.result⟩, hout', hfin', hs'.trans hs,
      fun depth hd => ?_⟩
    -- The bound of the last session is enough for the first step, too.
    have hfirst := hm depth (Nat.le_trans (hb _ _ hs') hd)
    have hok : (m depth s).result = .ok a := hfirst ▸ hr
    have hsecond : f depth a out.session = out' := hm' depth hd
    change (m depth >>= f depth) s = _
    rw [bind_of_ok hok, hfirst, hsecond]

theorem ofWriting_ends (P : σ → Prop) (hb : Rising bound) (t : Session σ) :
    Step.OfWriting fun {α} (m : Nat → Step σ α) =>
      ∀ s : Session σ, s.Finished P → s.Extends t → Ends P bound m s where
  pure a s hf _ := ends_const (by simp [pure_apply]) hf (.refl s)
  bind h hf s hs ht := (h s hs ht).bind hb fun _ a _ hfin hext => hf a _ hfin (hext.trans ht)
  write text s hf _ := ends_const (by simp [Step.write]) hf (.refl s)
  fail he s hf _ := ends_const (by cases he <;> simp [Step.fail]) hf (.refl s)

/-- From finished sessions the step leads to such sessions, and it is not too deep. -/
def Finishes (P : σ → Prop) (m : Step σ α) : Prop :=
  ∀ s : Session σ, s.Finished P → (m s).session.Finished P ∧ (m s).result ≠ .error .tooDeep

theorem compositional_finishes (P : σ → Prop) :
    Compositional fun {α} (m : Step σ α) => Finishes P m where
  pure a s hs := ⟨hs, by simp [pure_apply]⟩
  bind {_ _ m f} hm hf s hs := by
    obtain ⟨hfin, hres⟩ := hm s hs
    cases hr : (m s).result with
    | error e =>
      rw [bind_of_error hr]
      rw [hr] at hres
      exact ⟨hfin, fun he => hres (congrArg Except.error (Except.error.inj he))⟩
    | ok a =>
      rw [bind_of_ok hr]
      exact hf a _ hfin

end Step

theorem resolve_finishes {evaluate : Evaluator σ} {P : σ → Prop} {i : Item}
    (he : evaluate.Finishes P i.sources) : Step.Finishes P (resolve evaluate i) := by
  intro s hs
  cases i with
  | text | number | word | element => exact ⟨hs, by simp [resolve]⟩
  | expression source =>
    have hsource : source ∈ (Item.expression source).sources := by simp [Item.sources]
    rcases resolve_expression evaluate source s with ⟨_, _, hr⟩ | ⟨_, d, state, v, hd, hv, hr⟩ |
      ⟨_, e, state, hne, hstate, hr⟩
    · rw [hr]
      exact ⟨hs, by simp⟩
    · have hstate := he.state source hsource s.state hs.state
      have hvalue := he.value source hsource s.state hs.state d v (by rw [hd]) hv
      rw [hd] at hstate
      rw [hr]
      exact ⟨⟨hstate, List.forall_mem_cons.2 ⟨hvalue, hs.known⟩⟩, by simp⟩
    · rw [hr]
      exact ⟨⟨hstate ▸ he.state source hsource s.state hs.state, hs.known⟩, by simpa using hne⟩

theorem resolveAll_finishes {evaluate : Evaluator σ} {P : σ → Prop} {is : List Item}
    (he : evaluate.Finishes P (Item.sourcesAll is)) :
    Step.Finishes P (resolveAll evaluate is) :=
  resolveAll_of_mem (Step.compositional_finishes P) fun _ hi =>
    resolve_finishes (he.subset (Item.sources_subset_sourcesAll hi))

theorem mem_resolveAll {evaluate : Evaluator σ} {is : List Item} {s t : Session σ}
    {vs : List Value} (h : Step.Returned (resolveAll evaluate is) s t vs) {v : Value}
    (hv : v ∈ vs) : v.toItem ∈ is ∨
      ∃ source, .expression source ∈ is ∧ t.known.lookup source = some v := by
  induction is generalizing s vs with
  | nil =>
    obtain rfl := h.eq_of_pure
    simp at hv
  | cons i is ih =>
    obtain ⟨w, ws, hw, hws, rfl⟩ := h.of_seq (resolveAll_settles evaluate is)
    rcases List.mem_cons.1 hv with rfl | hv
    · obtain ⟨hw, hknown⟩ := hw
      cases i with
      | expression source =>
        exact .inr ⟨source, List.mem_cons_self, hknown source v (lookup_of_resolve hw)⟩
      | text | number | word | element =>
        obtain rfl := Except.ok.inj hw
        exact .inl List.mem_cons_self
    · rcases ih hws hv with hi | ⟨source, hi, hlookup⟩
      · exact .inl (List.mem_cons_of_mem _ hi)
      · exact .inr ⟨source, List.mem_cons_of_mem _ hi, hlookup⟩

section

variable {o : Options} {broken : Bool} {evaluate : Evaluator σ} {P : σ → Prop}

theorem checkTag_ends {bound : Session σ → Nat} (o : Options) (tag : String) {s : Session σ}
    (hs : s.Finished P) : Step.Ends P bound (fun _ => checkTag o tag) s := by
  unfold checkTag
  split
  · exact Step.ends_const (by simp [Step.pure_apply]) hs (.refl s)
  · exact Step.ends_const (by simp [Step.fail]) hs (.refl s)

theorem rising_valueDepth (depth : Nat) (sources : List String) :
    Step.Rising fun t : Session σ => depth + t.valueDepth sources :=
  fun _ _ ht => Nat.add_le_add_left (Session.valueDepth_mono ht (List.Subset.refl _)) depth

/-- An element ends one level above its items and the values of its expressions. -/
theorem renderElement_ends_of {e : Element} (he : evaluate.Finishes P e.sources)
    (hitem : ∀ c : Element, c.toItem ∈ e.args → ∀ s : Session σ, s.Finished P →
      Step.Ends P (fun t => c.depth + t.valueDepth c.sources)
        (fun depth => renderElement o broken evaluate depth false c) s)
    (hvalue : ∀ source ∈ e.sources, ∀ c : Element, Item.anyExpression c.args = false →
      ∀ s : Session σ, s.Finished P → Step.Ends P (fun _ => c.depth)
        (fun depth => renderElement o broken evaluate depth false c) s)
    (root : Bool) {s : Session σ} (hs : s.Finished P) :
    Step.Ends P (fun t => e.depth + t.valueDepth e.sources)
      (fun depth => renderElement o broken evaluate depth root e) s := by
  have hdepth : e.depth = Item.depthAll e.args + 1 := by
    rw [Element.depth, Element.toItem, Item.depth]
  have hrising := rising_valueDepth (σ := σ) (Item.depthAll e.args) e.sources
  suffices hbelow : Step.Ends P (fun t => Item.depthAll e.args + t.valueDepth e.sources)
      (fun depth => renderElement o broken evaluate (depth + 1) root e) s from
    hbelow.succ.weaken fun t _ => by omega
  simp only [renderElement_succ]
  refine (checkTag_ends o e.tag hs).bind hrising fun _ _ _ ht _ => ?_
  obtain ⟨hfinished, hresult⟩ := resolveAll_finishes (e.sources_eq ▸ he) _ ht
  refine (Step.ends_const hresult hfinished
    ((resolveAll_settles evaluate e.args).extend _)).bind hrising fun _ vs hvs hu _ => ?_
  refine writeElement_family (Step.ofWriting_ends P hrising _) _ (fun c hc w hw hwu => ?_) o broken
    root e.tag _ _ hu (.refl _)
  -- A child is an item of the element, or the value of an expression among its items.
  rcases mem_resolveAll ⟨hvs, .refl _⟩ (List.mem_of_mem_drop hc) with hi | ⟨source, hi, hlookup⟩
  · refine (hitem c hi w hw).weaken fun x hx => ?_
    have hlt := Element.depth_lt hi
    have hsub := Session.valueDepth_mono (Session.Extends.refl x) (Element.sources_subset hi)
    omega
  · have hsource := Element.mem_sources hi
    have hc : Item.anyExpression c.args = false := hu.known _ (mem_of_lookup hlookup)
    refine (hvalue source hsource c hc w hw).weaken fun x hx => ?_
    have hle : c.depth ≤ x.valueDepth e.sources :=
      Session.depth_le_valueDepth hsource (hx.trans hwu source _ hlookup)
    omega

theorem renderElement_ends_below {e : Element} (he : evaluate.Finishes P e.sources)
    (hvalue : ∀ source ∈ e.sources, ∀ c : Element, Item.anyExpression c.args = false →
      ∀ s : Session σ, s.Finished P → Step.Ends P (fun _ => c.depth)
        (fun depth => renderElement o broken evaluate depth false c) s)
    (root : Bool) {s : Session σ} (hs : s.Finished P) :
    Step.Ends P (fun t => e.depth + t.valueDepth e.sources)
      (fun depth => renderElement o broken evaluate depth root e) s := by
  induction hn : e.depth using Nat.strong_induction_on generalizing e root s with
  | _ n ih =>
    subst hn
    refine renderElement_ends_of he (fun c hc u hu => ?_) hvalue root hs
    have hsub := Element.sources_subset hc
    exact ih c.depth (Element.depth_lt hc) (he.subset hsub)
      (fun source h => hvalue source (hsub h)) false hu rfl

theorem renderElement_ends_literal {e : Element} (h : Item.anyExpression e.args = false)
    (root : Bool) {s : Session σ} (hs : s.Finished P) :
    Step.Ends P (fun _ => e.depth)
      (fun depth => renderElement o broken evaluate depth root e) s := by
  have hn : e.sources = [] := by rw [e.sources_eq, Item.sourcesAll_eq_nil h]
  have he : evaluate.Finishes P e.sources := ⟨by simp [hn], by simp [hn]⟩
  refine (renderElement_ends_below he (by simp [hn]) root hs).weaken fun t _ => ?_
  rw [hn]
  exact Nat.le_refl _

end

/-- If no value of its expressions holds an expression, rendering an element ends, with a text or
an error. It goes no deeper than the element is with the deepest of these values below it: with
that depth, as with any greater one, the outcome is the same. -/
theorem renderElement_ends (o : Options) (broken : Bool) {evaluate : Evaluator σ} {P : σ → Prop}
    {e : Element} (he : evaluate.Finishes P e.sources) (root : Bool) {s : Session σ}
    (hs : s.Finished P) :
    ∃ out : Outcome σ Unit, out.result ≠ .error .tooDeep ∧
      ∀ depth, e.depth + out.session.valueDepth e.sources ≤ depth →
        renderElement o broken evaluate depth root e s = out := by
  obtain ⟨out, hout, -, -, h⟩ := renderElement_ends_below he
    (fun _ _ c hc s hs => renderElement_ends_literal hc false hs) root hs
  exact ⟨out, hout, h⟩

def figureScope : Expression.Scope :=
  Expression.Scope.ofContext [(.text "figure", .list [.text "p", .list [.text "b", .text "x"]])]

def gallery : Element := ⟨"div", [.element "div" [.expression "figure"], .text "t"]⟩

theorem renderElement_ends_gallery :
    Evaluator.Finishes Expression.evaluate (· = figureScope) gallery.sources ∧
      (∃ out : Outcome Expression.Scope Unit, out.result ≠ .error .tooDeep ∧
        ∀ depth, gallery.depth + out.session.valueDepth gallery.sources ≤ depth →
          renderElement {} true Expression.evaluate depth false gallery
            (Session.start figureScope) = out) ∧
      (renderElement {} true Expression.evaluate 4 false gallery
        (Session.start figureScope)).result = .ok () ∧
      (renderElement {} true Expression.evaluate 3 false gallery
        (Session.start figureScope)).result = .error .tooDeep := by
  have hfigure : Expression.evaluate "figure" figureScope =
      (.ok (.list [.text "p", .list [.text "b", .text "x"]]), figureScope) := by cbv
  have hvalue : (Datum.list [.text "p", .list [.text "b", .text "x"]]).toValue =
      .ok (.element ⟨"p", [.element "b" [.text "x"]]⟩) := by cbv
  have hsources : gallery.sources = ["figure"] := by
    simp [gallery, Element.sources_eq, Item.sources, Item.sourcesAll]
  have he : Evaluator.Finishes Expression.evaluate (· = figureScope) gallery.sources := by
    rw [hsources]
    refine ⟨by simp [hfigure], ?_⟩
    rintro source hsource state rfl d v hd hv
    obtain rfl := List.mem_singleton.1 hsource
    rw [hfigure] at hd
    obtain rfl := Except.ok.inj hd
    obtain rfl := Except.ok.inj (hvalue.symm.trans hv)
    cbv
  have hs : (Session.start figureScope).Finished (· = figureScope) :=
    ⟨rfl, by simp [Session.start]⟩
  exact ⟨he, renderElement_ends {} true he false hs, by cbv, by cbv⟩

/-- The element around one expression. -/
def Element.around (tag source : String) : Element := ⟨tag, [.expression source]⟩

theorem resolve_around {evaluate : Evaluator σ} {tag source : String}
    (h : ∀ state, ∃ d, (evaluate source state).1 = .ok d ∧
      d.toValue = .ok (.element (.around tag source)))
    {s : Session σ} (hs : ∀ v, s.known.lookup source = some v → v = .element (.around tag source)) :
    (resolve evaluate (.expression source) s).result = .ok (.element (.around tag source)) := by
  cases hk : s.known.lookup source with
  | some v => rw [resolve_of_lookup hk, hs v hk]
  | none =>
    obtain ⟨d, hd, hv⟩ := h s.state
    have he : evaluate source s.state = (.ok d, (evaluate source s.state).2) := by rw [← hd]
    unfold resolve
    simp only [hk]
    rw [he]
    simp only [hv]

theorem expand_around {o : Options} {evaluate : Evaluator σ} {tag source : String}
    (hallows : o.allows tag = true) (hpaired : (!o.xml && isVoidTag tag) = false)
    (h : ∀ state, ∃ d, (evaluate source state).1 = .ok d ∧
      d.toValue = .ok (.element (.around tag source)))
    (depth : Nat) {s : Session σ}
    (hs : ∀ v, s.known.lookup source = some v → v = .element (.around tag source)) :
    (expand o evaluate depth (.around tag source) s).result = .error .tooDeep := by
  induction depth generalizing s with
  | zero => rfl
  | succ depth ih =>
    have hv := resolve_around h hs
    have hbelow := ih (s := (resolve evaluate (.expression source) s).session) fun v hk => by
      rw [lookup_of_resolve hv] at hk
      exact (Option.some.inj hk).symm
    have hcontent : elementContent o (expand o evaluate depth) tag
        (headOf [.element (.around tag source)]).attributes
        (childrenOf [.element (.around tag source)]) =
        expand o evaluate depth (.around tag source) >>= fun c =>
          pure (.element tag [] [c]) := by
      rw [childrenOf, headOf_child rfl]
      simp [elementContent, Head.none, hpaired, contents, Step.orTooManyDigits, shownAttributes?,
        mergeClasses?]
    have hcheck : checkTag (σ := σ) o tag = pure () := if_pos hallows
    have hargs : resolveAll evaluate (Element.around tag source).args =
        resolve evaluate (.expression source) >>= fun v => pure [v] := by
      simp [Element.around, resolveAll]
    rw [expand_succ, hargs]
    change ((checkTag o tag >>= _) s).result = _
    rw [hcheck, pure_bind, bind_assoc, Step.bind_of_ok hv, pure_bind]
    change ((elementContent _ _ tag _ _) _).result = _
    rw [hcontent, Step.bind_of_error hbelow]

/-- Where an expression has the element around itself as its value, no depth is enough. -/
theorem renderElement_around {o : Options} {evaluate : Evaluator σ} {tag source : String}
    (hallows : o.allows tag = true) (hpaired : (!o.xml && isVoidTag tag) = false)
    (h : ∀ state, ∃ d, (evaluate source state).1 = .ok d ∧
      d.toValue = .ok (.element (.around tag source)))
    (broken : Bool) (depth : Nat) (root : Bool) (state : σ) :
    (renderElement o broken evaluate depth root (.around tag source)
      (Session.start state)).result = .error .tooDeep := by
  have hexpand := expand_around hallows hpaired h depth (s := Session.start state)
    (by simp [Session.start])
  have hprints := (renderElement_prints o broken evaluate depth root (.around tag source)
    (Session.start state)).2
  rwa [hexpand] at hprints

end ElementMarkup
