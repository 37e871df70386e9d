import ElementMarkup.Proofs.Render.Head
import ElementMarkup.Proofs.Render.Replay

/-!
# Trees filled with the values of their expressions

A tree is filled by putting the known value in the place of each expression, also within the trees
that such values are. The session in which a rendering has ended knows all that is needed for this.
The filled tree has no expressions, and it is rendered to the same text whatever the evaluator does.
-/

set_option autoImplicit false

namespace ElementMarkup

variable {σ : Type}

mutual

/-- An item and the item it is filled to. -/
inductive Filled (known : List (String × Value)) : Item → Item → Prop where
  | text (s : String) : Filled known (.text s) (.text s)
  | number (n : Number) : Filled known (.number n) (.number n)
  | word (s : String) : Filled known (.word s) (.word s)
  | expression {source : String} {v : Value} {i : Item} (h : known.lookup source = some v)
      (hv : Filled known v.toItem i) : Filled known (.expression source) i
  | element {tag : String} {args filled : List Item} (h : FilledAll known args filled) :
      Filled known (.element tag args) (.element tag filled)

inductive FilledAll (known : List (String × Value)) : List Item → List Item → Prop where
  | nil : FilledAll known [] []
  | cons {i j : Item} {is js : List Item} (h : Filled known i j) (hs : FilledAll known is js) :
      FilledAll known (i :: is) (j :: js)

end

variable {known : List (String × Value)}

mutual

theorem Filled.unique : ∀ {i j k : Item}, Filled known i j → Filled known i k → j = k
  | _, _, _, .text _, .text _ => rfl
  | _, _, _, .number _, .number _ => rfl
  | _, _, _, .word _, .word _ => rfl
  | _, _, k, .expression hv hj, .expression hv' hk => by
    obtain rfl := Option.some.inj (hv.symm.trans hv')
    exact hj.unique hk
  | _, _, _, .element h, .element h' => by rw [h.unique h']

theorem FilledAll.unique : ∀ {is js ks : List Item}, FilledAll known is js →
    FilledAll known is ks → js = ks
  | _, _, _, .nil, .nil => rfl
  | _, _, _, .cons h hs, .cons h' hs' => by rw [h.unique h', hs.unique hs']

end

mutual

theorem Filled.hasExpression : ∀ {i j : Item}, Filled known i j → j.hasExpression = false
  | _, _, .text _ => rfl
  | _, _, .number _ => rfl
  | _, _, .word _ => rfl
  | _, _, .expression _ hv => hv.hasExpression
  | _, _, .element h => h.anyExpression

theorem FilledAll.anyExpression : ∀ {is js : List Item}, FilledAll known is js →
    Item.anyExpression js = false
  | _, _, .nil => rfl
  | _, _, .cons h hs => by
    rw [Item.anyExpression, h.hasExpression, hs.anyExpression, Bool.or_false]

end

def Value.Filled (known : List (String × Value)) (v w : Value) : Prop :=
  ElementMarkup.Filled known v.toItem w.toItem

theorem Value.filled_self {v : Value} (h : v.isElement = false) : v.Filled known v := by
  cases v with
  | text s => exact .text s
  | number n => exact .number n
  | word s => exact .word s
  | element => simp [Value.isElement] at h

theorem Value.Filled.alike {v w : Value} (h : v.Filled known w) :
    w = v ∨ v.isElement = true ∧ w.isElement = true := by
  cases v with
  | element =>
    cases w with
    | element => exact .inr ⟨rfl, rfl⟩
    | text | number | word => cases h
  | text | number | word =>
    cases w <;> cases h
    exact .inl rfl

theorem shorthand?_of_isElement {v : Value} (h : v.isElement = true) : v.shorthand? = none := by
  cases v with
  | element => rfl
  | text | number | word => simp [Value.isElement] at h

theorem attributeValue?_of_isElement {v : Value} (h : v.isElement = true) :
    v.attributeValue? = none := by
  cases v with
  | element => rfl
  | text | number | word => simp [Value.isElement] at h

theorem Value.Filled.shorthand?_eq {v w : Value} (h : v.Filled known w) :
    w.shorthand? = v.shorthand? := by
  rcases h.alike with rfl | ⟨hv, hw⟩
  · rfl
  · rw [shorthand?_of_isElement hv, shorthand?_of_isElement hw]

theorem Value.Filled.attributeValue?_eq {v w : Value} (h : v.Filled known w) :
    w.attributeValue? = v.attributeValue? := by
  rcases h.alike with rfl | ⟨hv, hw⟩
  · rfl
  · rw [attributeValue?_of_isElement hv, attributeValue?_of_isElement hw]

theorem headOf_filled {vs ws : List Value} (h : List.Forall₂ (Value.Filled known) vs ws) :
    headOf ws = headOf vs := by
  have kept {β : Type} (f : Value → β) (hf : ∀ v w, v.Filled known w → f w = f v) :
      ws.map f = vs.map f := by
    induction h with
    | nil => rfl
    | cons hv _ ih => rw [List.map_cons, List.map_cons, hf _ _ hv, ih]
  have hnames := kept Value.shorthand? fun v w hv => hv.shorthand?_eq
  have hvalues := kept Value.attributeValue? fun v w hv => hv.attributeValue?_eq
  exact headOf_congr hnames fun j _ => by rw [hvalues]

theorem headOf_values (vs : List Value) : (headOf vs).consumed ≤ vs.length ∧
    ∀ v ∈ vs.take (headOf vs).consumed, v.isElement = false := by
  have marked {v : Value} {p : Sigil × String} (h : v.shorthand? = some p) :
      v.isElement = false := by
    by_contra he
    rw [shorthand?_of_isElement (Bool.eq_true_of_not_eq_false he)] at h
    cases h
  have valued {v : Value} {d : Datum} (h : v.attributeValue? = some d) : v.isElement = false := by
    by_contra he
    rw [attributeValue?_of_isElement (Bool.eq_true_of_not_eq_false he)] at h
    cases h
  have push (front : List Value) {rest : List Value} {head : Head} {a : Attribute}
      (hf : ∀ v ∈ front, v.isElement = false) (h : head.consumed ≤ rest.length ∧
        ∀ v ∈ rest.take head.consumed, v.isElement = false) :
      (head.push front.length a).consumed ≤ (front ++ rest).length ∧
        ∀ v ∈ (front ++ rest).take (head.push front.length a).consumed, v.isElement = false := by
    constructor
    · rw [List.length_append]
      exact Nat.add_le_add_left h.1 _
    · rw [Head.push, List.take_length_add_append]
      exact List.forall_mem_append.2 ⟨hf, h.2⟩
  have nothing (vs : List Value) : Head.none.consumed ≤ vs.length ∧
      ∀ v ∈ vs.take Head.none.consumed, v.isElement = false := ⟨Nat.zero_le _, by simp [Head.none]⟩
  fun_induction headOf vs with
  | case1 => exact nothing _
  | case2 => exact nothing _
  | case3 v rest name hm ih => exact push [v] (List.forall_mem_singleton.2 (marked hm)) ih
  | case4 v rest name hm ih => exact push [v] (List.forall_mem_singleton.2 (marked hm)) ih
  | case5 v name hm => exact push [v] (List.forall_mem_singleton.2 (marked hm)) (nothing _)
  | case6 v name hm next after d hd ih =>
    refine push [v, next] (List.forall_mem_cons.2 ⟨marked hm, ?_⟩) ih
    exact List.forall_mem_singleton.2 (valued hd)
  | case7 v name hm next after hd ih =>
    exact push [v] (List.forall_mem_singleton.2 (marked hm)) ih

/-- Values are filled by filling those behind the attributes. -/
theorem exists_filled_values {vs cs : List Value}
    (h : List.Forall₂ (Value.Filled known) (childrenOf vs) cs) :
    ∃ ws, List.Forall₂ (Value.Filled known) vs ws ∧ childrenOf ws = cs := by
  obtain ⟨hle, hhead⟩ := headOf_values vs
  have hself : List.Forall₂ (Value.Filled known) (vs.take (headOf vs).consumed)
      (vs.take (headOf vs).consumed) :=
    List.forall₂_same.2 fun v hv => Value.filled_self (hhead v hv)
  have happend : List.Forall₂ (Value.Filled known)
      (vs.take (headOf vs).consumed ++ vs.drop (headOf vs).consumed)
      (vs.take (headOf vs).consumed ++ cs) := List.rel_append hself h
  have hall : List.Forall₂ (Value.Filled known) vs (vs.take (headOf vs).consumed ++ cs) := by
    rwa [List.take_append_drop] at happend
  refine ⟨_, hall, ?_⟩
  rw [childrenOf, headOf_filled hall, List.drop_left' (List.length_take_of_le hle)]

/-- The step gives `a` from `s`, and `t` knows all that is known then. -/
structure Step.Returned {α : Type} (m : Step σ α) (s t : Session σ) (a : α) : Prop where
  result : (m s).result = .ok a
  known : t.Extends (m s).session

theorem Step.Returned.of_bind {α β : Type} {m : Step σ α} {f : α → Step σ β} {s t : Session σ}
    {b : β} (hf : ∀ a, Step.Settles (f a)) (h : Step.Returned (m >>= f) s t b) :
    ∃ a, Step.Returned m s t a ∧ Step.Returned (f a) (m s).session t b := by
  obtain ⟨hb, hknown⟩ := h
  obtain ⟨a, ha, hb⟩ := Step.bind_result_eq_ok_iff.1 hb
  rw [Step.bind_of_ok ha] at hknown
  exact ⟨a, ⟨ha, hknown.trans ((hf a).extend _)⟩, hb, hknown⟩

theorem Step.Returned.eq_of_pure {α : Type} {a b : α} {s t : Session σ}
    (h : Step.Returned (pure a) s t b) : a = b := Except.ok.inj h.result

theorem Step.Returned.of_seq {α β γ : Type} {m : Step σ α} {k : Step σ β} {g : α → β → γ}
    {s t : Session σ} {c : γ} (hk : Step.Settles k)
    (h : Step.Returned (m >>= fun a => k >>= fun b => pure (g a b)) s t c) :
    ∃ a b, Step.Returned m s t a ∧ Step.Returned k (m s).session t b ∧ g a b = c := by
  obtain ⟨a, ha, h⟩ := h.of_bind fun _ => hk.bind fun _ => Step.settles_pure _
  obtain ⟨b, hb, h⟩ := h.of_bind fun _ => Step.settles_pure _
  exact ⟨a, b, ha, hb, h.eq_of_pure⟩

theorem resolveAll_settles (evaluate : Evaluator σ) (is : List Item) :
    Step.Settles (resolveAll evaluate is) :=
  resolveAll_of Step.compositional_settles (resolve_settles evaluate) is

theorem contents_settles (o : Options) (evaluate : Evaluator σ) (depth : Nat) (vs : List Value) :
    Step.Settles (contents (expand o evaluate depth) vs) := by
  have hparts := ofParts_settles evaluate
  exact contents_of hparts (expand_of hparts o depth) vs

theorem elementContent_settles (o : Options) (evaluate : Evaluator σ) (depth : Nat) (tag : String)
    (as : List Attribute) (vs : List Value) :
    Step.Settles (elementContent o (expand o evaluate depth) tag as vs) := by
  have hparts := ofParts_settles evaluate
  exact elementContent_of hparts (expand_of hparts o depth) o tag as vs

theorem checkTag_of_ok {o : Options} {tag : String} {s : Session σ} {u : Unit}
    (h : (checkTag o tag s).result = .ok u) {τ : Type} :
    (checkTag o tag : Step τ Unit) = pure () := by
  unfold checkTag at h ⊢
  split
  · rfl
  · rename_i ht
    rw [if_neg ht] at h
    cases h

theorem ofText?_of_ok {text? : Option String} {s : Session σ} {text : List Char}
    (h : (Step.ofText? text? s).result = .ok text) {τ : Type} :
    (Step.ofText? text? : Step τ (List Char)) = pure text := by
  cases text? with
  | none => cases h
  | some t =>
    obtain rfl := Except.ok.inj h
    rfl

theorem orTooManyDigits_of_ok {α : Type} {a? : Option α} {s : Session σ} {a : α}
    (h : (Step.orTooManyDigits a? s).result = .ok a) : a? = some a := by
  cases a? with
  | none => cases h
  | some b =>
    obtain rfl := Except.ok.inj h
    rfl

theorem resolve_filled {evaluate : Evaluator σ} {i j : Item} {s t : Session σ} {v : Value}
    (h : Step.Returned (resolve evaluate i) s t v) (hj : Filled t.known v.toItem j) :
    Filled t.known i j := by
  obtain ⟨hv, hknown⟩ := h
  cases i with
  | expression source => exact .expression (hknown source v (lookup_of_resolve hv)) hj
  | text | number | word | element =>
    obtain rfl := Except.ok.inj hv
    exact hj

theorem resolveAll_filled {evaluate : Evaluator σ} {is : List Item} {s t : Session σ}
    {vs ws : List Value} (h : Step.Returned (resolveAll evaluate is) s t vs)
    (hw : List.Forall₂ (Value.Filled t.known) vs ws) :
    FilledAll t.known is (ws.map Value.toItem) := by
  induction is generalizing s vs ws with
  | nil =>
    obtain rfl := h.eq_of_pure
    cases hw
    exact .nil
  | cons i is ih =>
    obtain ⟨v, vs', hv, hvs, rfl⟩ := h.of_seq (resolveAll_settles evaluate is)
    cases hw with
    | cons hw hws => exact .cons (resolve_filled hv hw) (ih hvs hws)

/-- The element is evaluated to the content by every evaluator, without an evaluation. -/
def Element.HasContent (o : Options) (depth : Nat) (e : Element) (c : Content) : Prop :=
  ∀ (τ : Type) (evaluate : Evaluator τ), expand o evaluate depth e = pure c

section

variable {o : Options} {evaluate : Evaluator σ} {depth : Nat} {s t : Session σ}

/-- What filling does for elements nested at most `depth` deep, in the session `t`. -/
def Fills (o : Options) (evaluate : Evaluator σ) (depth : Nat) (t : Session σ) : Prop :=
  ∀ {e : Element} {s : Session σ} {c : Content}, Step.Returned (expand o evaluate depth e) s t c →
    ∃ args, FilledAll t.known e.args args ∧ Element.HasContent o depth ⟨e.tag, args⟩ c

theorem contents_filled (ih : Fills o evaluate depth t) {vs : List Value} {cs : List Content}
    (h : Step.Returned (contents (expand o evaluate depth) vs) s t cs) :
    ∃ ws, List.Forall₂ (Value.Filled t.known) vs ws ∧
      ∀ (τ : Type) (f : Evaluator τ), contents (expand o f depth) ws = pure cs := by
  have hrest (vs : List Value) := contents_settles o evaluate depth vs
  induction vs generalizing s cs with
  | nil =>
    obtain rfl := h.eq_of_pure
    exact ⟨[], .nil, fun _ _ => rfl⟩
  | cons v vs vih =>
    cases v with
    | element e =>
      obtain ⟨c, cs', hc, hcs, rfl⟩ := h.of_seq (hrest vs)
      obtain ⟨args, hargs, hcontent⟩ := ih hc
      obtain ⟨ws, hws, hcontents⟩ := vih hcs
      refine ⟨.element ⟨e.tag, args⟩ :: ws, .cons (.element hargs) hws, fun τ f => ?_⟩
      rw [contents, hcontent τ f, hcontents τ f, pure_bind, pure_bind]
    | text | number | word =>
      obtain ⟨text, cs', htext, hcs, rfl⟩ := h.of_seq (hrest vs)
      obtain ⟨ws, hws, hcontents⟩ := vih hcs
      refine ⟨_ :: ws, .cons (Value.filled_self rfl) hws, fun τ f => ?_⟩
      rw [contents, ofText?_of_ok htext.result, hcontents τ f, pure_bind, pure_bind]
      all_goals simp

theorem elementContent_filled (ih : Fills o evaluate depth t) {tag : String}
    {as : List Attribute} {vs : List Value} {c : Content}
    (h : Step.Returned (elementContent o (expand o evaluate depth) tag as vs) s t c) :
    ∃ ws, List.Forall₂ (Value.Filled t.known) vs ws ∧
      ∀ (τ : Type) (f : Evaluator τ), elementContent o (expand o f depth) tag as ws = pure c := by
  have hrest := contents_settles o evaluate depth vs
  obtain ⟨shown, hshown, h⟩ := h.of_bind fun shown => by
    split
    · exact Step.settles_fail _
    · exact hrest.bind fun _ => Step.settles_pure _
  by_cases hvoid : (!o.xml && isVoidTag tag && !vs.isEmpty) = true
  · rw [if_pos hvoid] at h
    cases h.result
  · rw [if_neg hvoid] at h
    obtain ⟨cs, hcs, h⟩ := h.of_bind fun _ => Step.settles_pure _
    obtain rfl := h.eq_of_pure
    obtain ⟨ws, hws, hcontents⟩ := contents_filled ih hcs
    have hempty : ws.isEmpty = vs.isEmpty := by
      cases hws <;> rfl
    refine ⟨ws, hws, fun τ f => ?_⟩
    rw [elementContent, orTooManyDigits_of_ok hshown.result, Step.orTooManyDigits, pure_bind,
      hempty, if_neg hvoid, hcontents τ f, pure_bind]

/-- An element that is evaluated is filled by the values that are known then, and the filled element
has the same content. -/
theorem expand_filled (o : Options) (evaluate : Evaluator σ) (depth : Nat) (t : Session σ) :
    Fills o evaluate depth t := by
  induction depth with
  | zero =>
    intro e s c h
    cases h.result
  | succ depth ih =>
    intro e s c h
    -- All items are resolved before any element among them is evaluated.
    rw [expand_succ] at h
    have hcontent (vs : List Value) := elementContent_settles o evaluate depth e.tag
      (headOf vs).attributes (childrenOf vs)
    have hresolve := resolveAll_settles evaluate e.args
    obtain ⟨_, hcheck, h⟩ := h.of_bind fun _ => hresolve.bind hcontent
    obtain ⟨vs, hvs, h⟩ := h.of_bind hcontent
    obtain ⟨cs, hcs, hfilled⟩ := elementContent_filled ih h
    obtain ⟨ws, hws, rfl⟩ := exists_filled_values hcs
    refine ⟨ws.map Value.toItem, resolveAll_filled hvs hws, fun τ f => ?_⟩
    rw [expand_succ, checkTag_of_ok hcheck.result, pure_bind, resolveAll_values, pure_bind,
      headOf_filled hws, hfilled τ f]

end

/-- If a tree is rendered, then the values known in the end fill it in one way. The filled tree has
no expressions, and every evaluator renders it to the same texts, flat and in broken lines. -/
theorem renderTree_filled {o : Options} {xml : Option Bool} {broken : Bool} {evaluate : Evaluator σ}
    {depth : Nat} {state : σ} {tree : Datum} {text : List Char}
    (h : renderTree o xml broken evaluate depth state tree = .ok text) :
    ∃ e filled, tree.toElement = .ok e ∧
      (∀ i, Filled (renderElement (o.withMode xml) broken evaluate depth true e
        (Session.start state)).session.known e.toItem i ↔ i = filled.toItem) ∧
      Item.anyExpression filled.args = false ∧
      ∀ broken', ∃ text', renderTree o xml broken' evaluate depth state tree = .ok text' ∧
        ∀ (τ : Type) (f : Evaluator τ) (state' : τ),
          renderTree o xml broken' f depth state' (.element filled) = .ok text' := by
  obtain ⟨e, ht, hr⟩ := renderTree_eq_ok h
  rw [renderDocument_eq, map_eq_ok_iff] at hr
  obtain ⟨c, hc, -⟩ := hr
  have hsession := (renderElement_prints (o.withMode xml) broken evaluate depth true e
    (Session.start state)).1
  obtain ⟨args, hargs, hcontent⟩ :=
    expand_filled (o.withMode xml) evaluate depth _ ⟨hc, Session.Extends.refl _⟩
  rw [← hsession] at hargs
  have hfilled : Filled _ e.toItem _ := .element hargs
  refine ⟨e, ⟨e.tag, args⟩, ht, ?_, hargs.anyExpression, fun broken' => ?_⟩
  · intro i
    constructor
    · intro hi
      exact hi.unique hfilled
    · rintro rfl
      exact hfilled
  · refine ⟨documentText (o.withMode xml) broken' e.tag c, ?_, fun τ f state' => ?_⟩
    · rw [renderTree_of_toElement ht, renderDocument_eq, hc]
      rfl
    · have hf : (Datum.element ⟨e.tag, args⟩).toElement = .ok ⟨e.tag, args⟩ := rfl
      rw [renderTree_of_toElement hf, renderDocument_eq, hcontent τ f]
      rfl

/-- Counts its evaluations in marks; a row is a tree with an expression of its own. -/
def counting : Evaluator Nat := fun source n =>
  (.ok (if source = "row" then .element ⟨"p", [.expression "n"]⟩
    else .text (String.ofList (List.replicate n 'x'))), n + 1)

def listing : Element := ⟨"div", [.expression "row", .expression "n"]⟩

def listed : Element := ⟨"div", [.element "p" [.text "x"], .text "x"]⟩

theorem renderTree_filled_listing :
    renderTree {} none false counting 2 0 (.element listing) = .ok "<div><p>x</p>x</div>".toList ∧
      renderTree {} none false Expression.evaluate 2 (Expression.Scope.ofContext [])
        (.element listed) = .ok "<div><p>x</p>x</div>".toList := by
  have h : renderTree {} none false counting 2 0 (.element listing) =
      .ok "<div><p>x</p>x</div>".toList := by cbv
  have hknown : (renderElement ({} : Options) false counting 2 true listing
      (Session.start 0)).session.known =
        [("n", .text "x"), ("row", .element ⟨"p", [.expression "n"]⟩)] := by cbv
  obtain ⟨e, filled, he, hfilled, -, hrender⟩ := renderTree_filled h
  obtain rfl : listing = e := Except.ok.inj he
  have hlisted : listed.toItem = filled.toItem := by
    refine (hfilled _).1 ?_
    change Filled (renderElement ({} : Options) false counting 2 true listing
      (Session.start 0)).session.known _ _
    rw [hknown]
    have hn {known : List (String × Value)} (hk : known.lookup "n" = some (.text "x")) :
        Filled known (.expression "n") (.text "x") := .expression hk (.text _)
    exact .element (.cons (.expression rfl (.element (.cons (hn rfl) .nil)))
      (.cons (hn rfl) .nil))
  obtain ⟨tag, args⟩ := filled
  obtain ⟨rfl, rfl⟩ := Item.element.inj hlisted
  obtain ⟨text, htext, hsame⟩ := hrender false
  rw [h] at htext
  obtain rfl := Except.ok.inj htext
  exact ⟨h, hsame _ _ _⟩

end ElementMarkup
