import ElementMarkup.Proofs.Render.Step

/-!
# Families of rendering steps

Writing an element is put together from texts, failures of its own, and the elements below it. It
is the same for a step alone, for two runs side by side, and for the renderings of all depths: what
composition keeps of a family of steps holds of the elements that are written if it holds of those
below them.
-/

set_option autoImplicit false

namespace ElementMarkup

variable {σ ι : Type}

/-- The errors that writing finds. -/
inductive RenderError.OfWriting : RenderError → Prop where
  | voidElement (tag : String) : OfWriting (.voidElement tag)
  | tooManyDigits : OfWriting .tooManyDigits

/-- A property of families of steps that composition keeps and that the parts of writing have. -/
structure Step.OfWriting (C : {α : Type} → (ι → Step σ α) → Prop) : Prop where
  pure : ∀ {α : Type} (a : α), C fun _ => (pure a : Step σ α)
  bind : ∀ {α β : Type} {m : ι → Step σ α} {f : ι → α → Step σ β}, C m →
    (∀ a, C fun i => f i a) → C fun i => m i >>= f i
  write : ∀ text, C fun _ => Step.write text
  fail : ∀ {α : Type} {e : RenderError}, e.OfWriting → C fun _ => (Step.fail e : Step σ α)

section

variable {C : {α : Type} → (ι → Step σ α) → Prop} {child : ι → Element → Step σ Unit}
  {vs : List Value}

theorem ofText?_family (hC : Step.OfWriting C) (t : Option String) :
    C fun _ => (Step.ofText? t : Step σ (List Char)) := by
  cases t with
  | none => exact hC.fail .tooManyDigits
  | some t => exact hC.pure _

theorem writeFlat_family (hC : Step.OfWriting C)
    (h : ∀ e, .element e ∈ vs → C fun i => child i e) : C fun i => writeFlat (child i) vs := by
  induction vs with
  | nil => exact hC.pure _
  | cons v vs ih =>
    have hrest := ih fun e he => h e (List.mem_cons_of_mem _ he)
    cases v with
    | element e => exact hC.bind (h e List.mem_cons_self) fun _ => hrest
    | text | number | word =>
      exact hC.bind (ofText?_family hC _) fun text => hC.bind (hC.write text) fun _ => hrest

theorem writeLines_family (hC : Step.OfWriting C)
    (h : ∀ e, .element e ∈ vs → C fun i => child i e) (run : List Char) :
    C fun i => writeLines (child i) run vs := by
  induction vs generalizing run with
  | nil => exact hC.write _
  | cons v vs ih =>
    have hrest := ih fun e he => h e (List.mem_cons_of_mem _ he)
    cases v with
    | element e =>
      exact hC.bind (hC.write _) fun _ => hC.bind (h e List.mem_cons_self) fun _ => hrest []
    | text | number | word =>
      exact hC.bind (ofText?_family hC _) fun text => hrest (run ++ text)

theorem writePaired_family (hC : Step.OfWriting C)
    (h : ∀ e, .element e ∈ vs → C fun i => child i e) (broken : Bool) (tag : String)
    (attributes : List Char) : C fun i => writePaired broken (child i) tag attributes vs := by
  have hend : C fun _ : ι => (Step.write (closingTag tag ++ lineEnd broken) : Step σ Unit) :=
    hC.write _
  refine hC.bind (hC.write _) fun _ => ?_
  split
  · exact hC.bind (hC.write _) fun _ => hC.bind (writeLines_family hC h []) fun _ => hend
  · exact hC.bind (writeFlat_family hC h) fun _ => hend

theorem writeElement_family (hC : Step.OfWriting C) (child : ι → Element → Step σ Unit)
    (h : ∀ e, .element e ∈ vs → C fun i => child i e) (o : Options) (broken root : Bool)
    (tag : String) (attributes : List Attribute) :
    C fun i => writeElement o broken (child i) root tag attributes vs := by
  refine hC.bind (ofText?_family hC _) fun attrs => ?_
  have hpaired := writePaired_family hC h broken tag attrs
  split
  · split
    · exact hC.write _
    · exact hpaired
  · split
    · split
      · exact hC.write _
      · exact hC.fail (.voidElement tag)
    · split
      · exact hC.bind (hC.write _) fun _ => hpaired
      · exact hpaired

end

end ElementMarkup
