import ElementMarkup.Proofs.Render.Content

/-!
# Properties of rendering by its parts

Rendering is put together from resolving items, writing texts and failures of its own. A property
that composition keeps holds of rendering when it holds of these parts.
-/

set_option autoImplicit false

namespace ElementMarkup

variable {σ : Type}

/-- The errors that rendering finds without an evaluation. -/
inductive RenderError.Own : RenderError → Prop where
  | invalidTag (tag : String) : Own (.invalidTag tag)
  | voidElement (tag : String) : Own (.voidElement tag)
  | tooManyDigits : Own .tooManyDigits
  | tooDeep : Own .tooDeep

/-- A compositional property that the parts of rendering have. -/
structure Step.OfParts (evaluate : Evaluator σ) (C : {α : Type} → Step σ α → Prop) : Prop
    extends Step.Compositional C where
  write : ∀ text, C (Step.write text)
  fail : ∀ {α : Type} {e : RenderError}, e.Own → C (Step.fail e : Step σ α)
  resolve : ∀ i, C (resolve evaluate i)

section

variable {evaluate : Evaluator σ} {C : {α : Type} → Step σ α → Prop}
  {child : Element → Step σ Unit}

theorem checkTag_of (h : Step.OfParts evaluate C) (o : Options) (tag : String) :
    C (checkTag o tag : Step σ Unit) := by
  unfold checkTag
  split
  · exact h.pure _
  · exact h.fail (.invalidTag tag)

theorem Step.OfParts.ofWriting (h : Step.OfParts evaluate C) :
    Step.OfWriting fun {α} (m : Unit → Step σ α) => C (m ()) where
  pure := h.pure
  bind hm hf := h.bind hm hf
  write := h.write
  fail he := by
    cases he with
    | voidElement tag => exact h.fail (.voidElement tag)
    | tooManyDigits => exact h.fail .tooManyDigits

theorem ofText?_of (h : Step.OfParts evaluate C) (t : Option String) :
    C (Step.ofText? t : Step σ (List Char)) := ofText?_family h.ofWriting t

theorem writeElement_of (h : Step.OfParts evaluate C) (hc : ∀ e, C (child e)) (o : Options)
    (broken root : Bool) (tag : String) (attributes : List Attribute) (children : List Value) :
    C (writeElement o broken child root tag attributes children) :=
  writeElement_family h.ofWriting (fun _ => child) (fun e _ => hc e) o broken root tag attributes

theorem renderElement_of (h : Step.OfParts evaluate C) (o : Options) (broken : Bool) (depth : Nat)
    (root : Bool) (e : Element) : C (renderElement o broken evaluate depth root e) := by
  induction depth generalizing root e with
  | zero => exact h.fail .tooDeep
  | succ depth ih =>
    exact h.bind (checkTag_of h o e.tag) fun _ =>
      h.bind (parseHead_of h.toCompositional h.resolve e.args) fun head =>
        h.bind (resolveAll_of h.toCompositional h.resolve _) fun children =>
          writeElement_of h (ih false) o broken root e.tag head.attributes children

theorem orTooManyDigits_of (h : Step.OfParts evaluate C) {α : Type} (a : Option α) :
    C (Step.orTooManyDigits a : Step σ α) := by
  cases a with
  | none => exact h.fail .tooManyDigits
  | some a => exact h.pure _

theorem contents_of {child : Element → Step σ Content} (h : Step.OfParts evaluate C)
    (hc : ∀ e, C (child e)) (vs : List Value) : C (contents child vs) := by
  induction vs with
  | nil => exact h.pure _
  | cons v vs ih =>
    cases v with
    | element e => exact h.bind (hc e) fun _ => h.bind ih fun _ => h.pure _
    | text | number | word =>
      exact h.bind (ofText?_of h _) fun text => h.bind ih fun _ => h.pure _

theorem elementContent_of {child : Element → Step σ Content} (h : Step.OfParts evaluate C)
    (hc : ∀ e, C (child e)) (o : Options) (tag : String) (attributes : List Attribute)
    (children : List Value) : C (elementContent o child tag attributes children) := by
  refine h.bind (orTooManyDigits_of h _) fun shown => ?_
  split
  · exact h.fail (.voidElement tag)
  · exact h.bind (contents_of h hc children) fun _ => h.pure _

theorem expand_of (h : Step.OfParts evaluate C) (o : Options) (depth : Nat) (e : Element) :
    C (expand o evaluate depth e) := by
  induction depth generalizing e with
  | zero => exact h.fail .tooDeep
  | succ depth ih =>
    exact h.bind (checkTag_of h o e.tag) fun _ =>
      h.bind (parseHead_of h.toCompositional h.resolve e.args) fun head =>
        h.bind (resolveAll_of h.toCompositional h.resolve _) fun children =>
          elementContent_of h ih o e.tag head.attributes children

end

end ElementMarkup
