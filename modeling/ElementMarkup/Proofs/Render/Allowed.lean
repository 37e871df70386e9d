import ElementMarkup.Proofs.Render.Content
import ElementMarkup.Proofs.Render.Course
import ElementMarkup.Proofs.Render.Family

/-!
# Allowing more tags

Rendering looks at the allowed tags only to refuse a tag. As long as no tag is refused, it goes the
same way when more tags are allowed: through the same evaluations, to the same text or to the same
error.
-/

set_option autoImplicit false

namespace ElementMarkup

variable {σ : Type}

namespace Step

theorem ofWriting_unless (stops : RenderError → Prop) :
    Step.OfWriting fun {α} (m : Bool → Step σ α) => Unless stops (m false) (m true) where
  pure _ := unless_refl _ _
  bind h hf := h.bind hf
  write _ := unless_refl _ _
  fail _ := unless_refl _ _

end Step

def RenderError.RefusedTag (e : RenderError) : Prop := ∃ tag, e = .invalidTag tag

section

variable {o : Options} {more : List String}

theorem Options.allows_more (h : o.extensions ⊆ more) {tag : String} (ht : o.allows tag = true) :
    ({ o with extensions := more } : Options).allows tag = true := by
  unfold Options.allows isKnownTag at ht ⊢
  rw [Bool.or_eq_true, List.contains_iff_mem, List.contains_iff_mem] at ht ⊢
  exact ht.imp_right fun he => h he

theorem checkTag_allowing (h : o.extensions ⊆ more) (tag : String) :
    Step.Unless RenderError.RefusedTag (checkTag o tag : Step σ Unit)
      (checkTag { o with extensions := more } tag) := by
  unfold checkTag
  by_cases ht : o.allows tag = true
  · rw [if_pos ht, if_pos (Options.allows_more h ht)]
    exact Step.unless_refl _ _
  · rw [if_neg ht]
    exact Step.unless_fail ⟨tag, rfl⟩ _

theorem renderElement_allowing (h : o.extensions ⊆ more) (broken : Bool) (evaluate : Evaluator σ)
    (depth : Nat) (root : Bool) (e : Element) :
    Step.Unless RenderError.RefusedTag (renderElement o broken evaluate depth root e)
      (renderElement { o with extensions := more } broken evaluate depth root e) := by
  induction depth generalizing root e with
  | zero => exact Step.unless_refl _ _
  | succ depth ih =>
    let child (b : Bool) : Element → Step σ Unit :=
      renderElement (bif b then { o with extensions := more } else o) broken evaluate depth false
    rw [renderElement, renderElement]
    -- Behind the tag check nothing looks at the allowed tags but the elements below.
    refine (checkTag_allowing h e.tag).bind fun _ => (Step.unless_refl _ _).bind fun head =>
      (Step.unless_refl _ _).bind fun children => ?_
    exact writeElement_family (Step.ofWriting_unless _) child (fun c _ => ih false c) o broken root
      e.tag head.attributes

theorem renderDocument_allowing (h : o.extensions ⊆ more) {broken : Bool}
    {evaluate : Evaluator σ} {depth : Nat} {state : σ} {e : Element}
    (ht : ∀ tag, renderDocument o broken evaluate depth state e ≠ .error (.invalidTag tag)) :
    renderDocument { o with extensions := more } broken evaluate depth state e =
      renderDocument o broken evaluate depth state e := by
  have hsame : renderElement { o with extensions := more } broken evaluate depth true e
      (Session.start state) =
        renderElement o broken evaluate depth true e (Session.start state) := by
    refine renderElement_allowing h broken evaluate depth true e _ ?_
    rintro _ ⟨tag, rfl⟩ hr
    exact ht tag (map_eq_error_iff.2 hr)
  unfold renderDocument
  rw [hsame]
  rfl

end

/-- If rendering a tree refuses no tag, then allowing more tags changes nothing: the text is the
same, or the error. -/
theorem renderTree_allowing {o : Options} {more : List String} (h : o.extensions ⊆ more)
    {xml : Option Bool} {broken : Bool} {evaluate : Evaluator σ} {depth : Nat} {state : σ}
    {tree : Datum}
    (ht : ∀ tag, renderTree o xml broken evaluate depth state tree ≠ .error (.invalidTag tag)) :
    renderTree { o with extensions := more } xml broken evaluate depth state tree =
      renderTree o xml broken evaluate depth state tree := by
  cases he : tree.toElement with
  | error err =>
    unfold renderTree rootOf
    rw [he]
    rfl
  | ok e =>
    rw [renderTree_of_toElement he] at ht ⊢
    rw [renderTree_of_toElement he]
    exact renderDocument_allowing (o := o.withMode xml) h ht

def symbolTags : List String := defaultExtensions ++ ["icon", "glyph"]

def cellScope : Expression.Scope :=
  Expression.Scope.ofContext [(.text "cell", .list [.text "b", .text ":id", .text "x"])]

def figure : Element := ⟨"div", [.text ".a", .element "a" [.expression "cell"], .word "t"]⟩

def faultyFigure : Element :=
  ⟨"div", [.expression "cell", .element "br" [.text "x"], .element "icon" []]⟩

theorem renderTree_allowing_figure :
    ({} : Options).extensions ⊆ symbolTags ∧
      renderTree { ({} : Options) with extensions := symbolTags } none true Expression.evaluate 3
        cellScope (.element figure) =
          .ok "<div class=\"a\">\n<a>\n<b id=\"x\"></b>\n</a>\nt\n</div>".toList ∧
      renderTree { ({} : Options) with extensions := symbolTags } none false Expression.evaluate 3
        cellScope (.element faultyFigure) = .error (.voidElement "br") := by
  have hmore : ({} : Options).extensions ⊆ symbolTags := List.subset_append_left _ _
  have htext : renderTree {} none true Expression.evaluate 3 cellScope (.element figure) =
      .ok "<div class=\"a\">\n<a>\n<b id=\"x\"></b>\n</a>\nt\n</div>".toList := by cbv
  have herror : renderTree {} none false Expression.evaluate 3 cellScope
      (.element faultyFigure) = .error (.voidElement "br") := by cbv
  refine ⟨hmore, ?_, ?_⟩
  · rw [renderTree_allowing hmore (by simp [htext]), htext]
  · rw [renderTree_allowing hmore (by simp [herror]), herror]

end ElementMarkup
