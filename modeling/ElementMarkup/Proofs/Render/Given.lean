import ElementMarkup.Proofs.Render.Notation
import ElementMarkup.Proofs.Tree.ClassMerge

/-!
# Elements whose parts are given

An element can be rendered from its attributes and its children, or from a tree in which the
attributes are written in front of the children. The tree is split into the same parts, and then
both are written in the same way, so they fail with the same error or give the same text, the tree
behind what stands before a root.
-/

set_option autoImplicit false

namespace ElementMarkup

variable {σ : Type}

def spelledItems (as : List Attribute) (is : List Item) : List Item :=
  (as.flatMap Attribute.spelled).map Value.toItem ++ is

def itemTree (tag : String) (is : List Item) : Datum := .list (.text tag :: is.map Datum.item)

theorem toItems_item (is : List Item) : Datum.toItems (is.map Datum.item) = .ok is := by
  induction is with
  | nil => rfl
  | cons i is ih =>
    rw [List.map_cons, Datum.toItems, ih]
    rfl

theorem toElement_itemTree (tag : String) (is : List Item) :
    (itemTree tag is).toElement = .ok ⟨tag, is⟩ := by
  rw [itemTree, Datum.toElement, Datum.shape, toItems_item]
  rfl

theorem resolveAll_head {evaluate : Evaluator σ} {is : List Item} {s : Session σ} {ws : List Value}
    (h : (resolveAll evaluate is s).result = .ok ws) :
    ∀ w ∈ ws.head?, ∃ i ∈ is.head?, (resolve evaluate i s).result = .ok w := by
  intro w hw
  cases is with
  | nil =>
    obtain rfl : [] = ws := Except.ok.inj h
    simp at hw
  | cons i is =>
    obtain ⟨v, hv, h⟩ := Step.bind_result_eq_ok_iff.1 h
    obtain ⟨vs, _, h⟩ := Step.bind_result_eq_ok_iff.1 h
    obtain rfl : v :: vs = ws := Except.ok.inj h
    obtain rfl : v = w := Option.some.inj hw
    exact ⟨i, rfl, hv⟩

theorem checkTag_session (o : Options) (tag : String) (s : Session σ) :
    (checkTag o tag s).session = s := by
  unfold checkTag
  split <;> rfl

/-- The content of an element from its attributes and unevaluated children. -/
def givenContent (o : Options) (evaluate : Evaluator σ) (depth : Nat) (tag : String)
    (as : List Attribute) (is : List Item) : Step σ Content := do
  checkTag o tag
  let children ← resolveAll evaluate is
  elementContent o (expand o evaluate depth) tag as children

/-- An element with its attributes written in front is split into these attributes and the items
behind them. -/
theorem expand_noted {o : Options} {evaluate : Evaluator σ} {depth : Nat} {tag : String}
    {as : List Attribute} {vs : List Value} {is : List Item} {s : Session σ} (h : Noted as vs)
    (hc : ∀ i ∈ is.head?, ∀ v, (resolve evaluate i s).result = .ok v → v.Follows as) :
    expand o evaluate (depth + 1) ⟨tag, vs.map Value.toItem ++ is⟩ s =
      givenContent o evaluate depth tag as is s := by
  rw [expand_succ, givenContent]
  refine Step.bind_congr_from fun _ _ => ?_
  rw [checkTag_session, resolveAll_values_append, bind_assoc]
  refine Step.bind_congr_from fun ws hws => ?_
  have hfollows : ∀ w ∈ ws.head?, w.Follows as := by
    intro w hw
    obtain ⟨i, hi, hv⟩ := resolveAll_head hws w hw
    exact hc i hi w hv
  rw [pure_bind, childrenOf, headOf_noted h hfollows, List.drop_left]

theorem givenAttributes_pair (as : List Attribute) :
    (givenAttributes (as.map Attribute.pair) : Step σ (List Attribute)) = pure as := by
  rw [givenAttributes, attributesOf_pair]

theorem foldr_items {evaluate : Evaluator σ}
    {f : Datum → Step σ (List Value) → Step σ (List Value)}
    (h : ∀ i rest, f (.item i) rest =
      resolve evaluate i >>= fun v => rest >>= fun vs => pure (v :: vs)) (is : List Item) :
    (is.map Datum.item).foldr f (pure []) = resolveAll evaluate is := by
  induction is with
  | nil => rfl
  | cons i is ih => rw [List.map_cons, List.foldr_cons, ih, h, resolveAll]

theorem renderParts_eq (o : Options) (evaluate : Evaluator σ) (depth : Nat) (state : σ)
    (tag : String) (as : List Attribute) (is : List Item) :
    renderParts o evaluate depth state tag (as.map Attribute.pair) (is.map Datum.item) =
      (givenContent o evaluate depth tag as is (Session.start state)).result.map
        (Content.flat o.xml) := by
  have hbelow (e : Element) := (renderElement_prints o false evaluate depth false e).of_inner
  have hwrite (vs : List Value) :
      Step.Prints
        (writeElement o false (renderElement o false evaluate depth false) false tag as vs)
        (elementContent o (expand o evaluate depth) tag as vs) (Content.flat o.xml) :=
    (writeElement_prints (expand_isElement o evaluate depth) hbelow false as).of_inner
  have hprints := Step.Prints.after (checkTag_silent o tag) fun _ =>
    Step.Prints.after (resolveAll_silent evaluate is) hwrite
  unfold renderParts
  simp only [givenAttributes_pair, pure_bind]
  rw [foldr_items fun _ _ => rfl]
  exact hprints.result_map (Session.start state) fun written => written

/-- An element is rendered from its attributes and children as from the tree with the attributes
written in front, if the first child is then none of them and no value of the last one. Both fail
with the same error, or the text of the tree is that of the parts behind what stands before a
root. The parts are written without a level for the root itself, which the tree spends first, so
that the elements among the children are nested at most `depth` deep on both sides. -/
theorem renderTree_given (o : Options) (xml : Option Bool) (evaluate : Evaluator σ) (depth : Nat)
    (state : σ) (tag : String) {as : List Attribute} {is : List Item} (ha : ∀ a ∈ as, a.Simple)
    (hc : ∀ i ∈ is.head?, ∀ v, (resolve evaluate i (Session.start state)).result = .ok v →
      v.Follows as) :
    Agree (fun tree parts => tree = (if (o.withMode xml).xml then o.xmlHeader.toList
        else if tag = "html" then o.doctypeLine.toList else []) ++ parts)
      (renderTree o xml false evaluate (depth + 1) state (itemTree tag (spelledItems as is)))
      (renderParts (o.withMode xml) evaluate depth state tag (as.map Attribute.pair)
        (is.map Datum.item)) := by
  have hexpand : expand (o.withMode xml) evaluate (depth + 1) ⟨tag, spelledItems as is⟩
      (Session.start state) = givenContent (o.withMode xml) evaluate depth tag as is
        (Session.start state) := expand_noted (noted_spelled ha) hc
  rw [renderTree_of_toElement (toElement_itemTree tag _), renderDocument_eq, hexpand,
    renderParts_eq]
  refine (Agree.refl _).map fun c c' _ hcc => ?_
  obtain rfl : c = c' := hcc
  unfold documentText headerText doctypeText Content.printed
  cases hx : (o.withMode xml).xml with
  | true => simp [lineEnd, Options.withMode]
  | false =>
    by_cases ht : tag = "html"
    · simp [lineEnd, Options.withMode, Options.doctypeLine, ht]
    · simp [ht]

def pageAttributes : List Attribute :=
  [⟨"class", .text "a"⟩, ⟨"lang", .text "en"⟩, ⟨"class", .text "b"⟩, ⟨"hidden", .null⟩]

def pageScope : Expression.Scope :=
  Expression.Scope.ofContext [(.text "mark", .list [.text "b", .text "x"])]

def pageItems : List Item := [.expression "mark", .text "t"]

theorem pageAttributes_simple : ∀ a ∈ pageAttributes, a.Simple := by
  have hclass (s : String) : Attribute.Simple ⟨"class", .text s⟩ :=
    ⟨by simp, .inr (.inl ⟨s, rfl⟩)⟩
  have hlang : Attribute.Simple ⟨"lang", .text "en"⟩ := ⟨by decide, .inr (.inl ⟨"en", rfl⟩)⟩
  have hhidden : Attribute.Simple ⟨"hidden", .null⟩ := ⟨by decide, .inl rfl⟩
  simpa [pageAttributes] using ⟨hclass "a", hlang, hclass "b", hhidden⟩

theorem renderTree_given_page :
    renderParts {} Expression.evaluate 1 pageScope "html" (pageAttributes.map Attribute.pair)
        (pageItems.map Datum.item) =
        .ok "<html class=\"a b\" lang=\"en\" hidden><b>x</b>t</html>".toList ∧
      renderTree {} none false Expression.evaluate 2 pageScope
          (itemTree "html" (spelledItems pageAttributes pageItems)) =
        .ok ("<!DOCTYPE html>".toList ++
          "<html class=\"a b\" lang=\"en\" hidden><b>x</b>t</html>".toList) := by
  have hparts : renderParts {} Expression.evaluate 1 pageScope "html"
      (pageAttributes.map Attribute.pair) (pageItems.map Datum.item) =
        .ok "<html class=\"a b\" lang=\"en\" hidden><b>x</b>t</html>".toList := by cbv
  have hmark : (resolve Expression.evaluate (.expression "mark")
      (Session.start pageScope)).result = .ok (.element ⟨"b", [.text "x"]⟩) := by cbv
  have hchild : ∀ i ∈ pageItems.head?, ∀ v,
      (resolve Expression.evaluate i (Session.start pageScope)).result = .ok v →
        v.Follows pageAttributes := by
    intro i hi v hv
    obtain rfl : Item.expression "mark" = i := Option.some.inj hi
    obtain rfl : Value.element ⟨"b", [.text "x"]⟩ = v := Except.ok.inj (hmark.symm.trans hv)
    exact ⟨rfl, fun _ _ _ => rfl⟩
  have hagree := renderTree_given {} none Expression.evaluate 1 pageScope "html"
    pageAttributes_simple hchild
  obtain ⟨tree, htree, rfl⟩ := hagree.of_ok hparts
  refine ⟨hparts, htree.trans ?_⟩
  rfl

end ElementMarkup
