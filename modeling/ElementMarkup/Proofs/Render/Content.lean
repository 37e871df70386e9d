import ElementMarkup.Proofs.Render.Resolve
import ElementMarkup.Proofs.Render.Step
import ElementMarkup.Render.Document

/-!
# The content of rendered elements

The content of an element is its tree with all expressions evaluated and its attributes as they are
shown. Evaluating an element to its content and printing the content is the same as rendering the
element, flat and in broken lines, with the same errors and the same effects on the evaluator.
-/

set_option autoImplicit false

namespace ElementMarkup

variable {σ : Type}

structure ShownAttribute where
  name : String
  value : Option String

def ShownAttribute.text (a : ShownAttribute) : List Char :=
  match a.value with
  | none => ' ' :: a.name.toList
  | some v => ' ' :: (a.name.toList ++ ('=' :: '"' :: (v.toList ++ ['"'])))

def attributesText (as : List ShownAttribute) : List Char := as.flatMap ShownAttribute.text

def Attribute.shown? (a : Attribute) : Option ShownAttribute :=
  match a.value with
  | .null => some ⟨a.name, none⟩
  | d => d.plain?.map fun t => ⟨a.name, some t⟩

def shownAttributes? (attributes : List Attribute) : Option (List ShownAttribute) :=
  (mergeClasses? attributes).bind fun as => as.mapM Attribute.shown?

inductive Content where
  | text (run : List Char)
  | element (tag : String) (attributes : List ShownAttribute) (children : List Content)

def Content.isElement : Content → Bool
  | .text _ => false
  | .element _ _ _ => true

/-- A value that an integer with too many digits may have made impossible. -/
def Step.orTooManyDigits {α : Type} : Option α → Step σ α
  | some a => pure a
  | none => Step.fail .tooManyDigits

def contents (child : Element → Step σ Content) : List Value → Step σ (List Content)
  | [] => pure []
  | .element e :: rest => do
    let c ← child e
    let cs ← contents child rest
    return c :: cs
  | v :: rest => do
    let text ← Step.ofText? v.text?
    let cs ← contents child rest
    return .text text :: cs

/-- The content of an element with its attributes and children; `child` gives the content of an
element below it. -/
def elementContent (o : Options) (child : Element → Step σ Content) (tag : String)
    (attributes : List Attribute) (children : List Value) : Step σ Content := do
  let shown ← Step.orTooManyDigits (shownAttributes? attributes)
  if !o.xml && isVoidTag tag && !children.isEmpty then Step.fail (.voidElement tag)
  else
    let cs ← contents child children
    return .element tag shown cs

/-- Evaluates an element that is nested at most `depth` deep to its content. -/
def expand (o : Options) (evaluate : Evaluator σ) : Nat → Element → Step σ Content
  | 0, _ => Step.fail .tooDeep
  | depth + 1, e => do
    checkTag o e.tag
    let head ← parseHead (resolve evaluate) e.args
    let children ← resolveAll evaluate (e.args.drop head.consumed)
    elementContent o (expand o evaluate depth) e.tag head.attributes children

def closesAlone (xml : Bool) (tag : String) (children : List Content) : Bool :=
  if xml then children.isEmpty else isVoidTag tag

mutual

def Content.flat (xml : Bool) : Content → List Char
  | .text run => run
  | .element tag attributes children =>
    if closesAlone xml tag children then emptyTag tag (attributesText attributes)
    else
      openingTag tag (attributesText attributes) ++
        (Content.flatAll xml children ++ closingTag tag)

def Content.flatAll (xml : Bool) : List Content → List Char
  | [] => []
  | c :: cs => c.flat xml ++ Content.flatAll xml cs

end

mutual

def Content.lines (xml : Bool) : Content → List Markup.Line
  | .text run => Markup.textLine run
  | .element tag attributes children =>
    if closesAlone xml tag children then [⟨.whole, emptyTag tag (attributesText attributes)⟩]
    else if children.any Content.isElement then
      ⟨.opening, openingTag tag (attributesText attributes)⟩ ::
        (Content.runLines xml [] children ++ [⟨.closing, closingTag tag⟩])
    else
      [⟨.whole, openingTag tag (attributesText attributes) ++
        (Content.flatAll xml children ++ closingTag tag)⟩]

/-- The lines of children behind the text of the run that is open. -/
def Content.runLines (xml : Bool) (run : List Char) : List Content → List Markup.Line
  | [] => Markup.textLine run
  | .text more :: rest => Content.runLines xml (run ++ more) rest
  | .element tag attributes children :: rest =>
    Markup.textLine run ++
      ((Content.element tag attributes children).lines xml ++ Content.runLines xml [] rest)

end

def ended (ls : List Markup.Line) : List Char := ls.flatMap fun l => l.text ++ ['\n']

def Content.printed (xml broken : Bool) (c : Content) : List Char :=
  if broken then ended (c.lines xml) else c.flat xml

def doctypeText (o : Options) (broken root : Bool) (tag : String) : List Char :=
  if !o.xml && root && tag == "html" then o.doctypeLine.toList ++ lineEnd broken else []

theorem resolve_silent (evaluate : Evaluator σ) (i : Item) : Step.Silent (resolve evaluate i) := by
  intro s
  cases i with
  | expression source =>
    rw [resolve]
    repeat' split
    all_goals rfl
  | text | number | word | element => rfl

theorem resolveAll_of_mem {evaluate : Evaluator σ} {C : {α : Type} → Step σ α → Prop}
    (hC : Step.Compositional C) {is : List Item} (h : ∀ i ∈ is, C (resolve evaluate i)) :
    C (resolveAll evaluate is) := by
  induction is with
  | nil => exact hC.pure _
  | cons i is ih =>
    rw [List.forall_mem_cons] at h
    exact hC.bind h.1 fun _ => hC.bind (ih h.2) fun _ => hC.pure _

theorem resolveAll_of {evaluate : Evaluator σ} {C : {α : Type} → Step σ α → Prop}
    (hC : Step.Compositional C) (h : ∀ i, C (resolve evaluate i)) (is : List Item) :
    C (resolveAll evaluate is) := resolveAll_of_mem hC fun i _ => h i

theorem resolveAll_silent (evaluate : Evaluator σ) (is : List Item) :
    Step.Silent (resolveAll evaluate is) :=
  resolveAll_of Step.compositional_silent (resolve_silent evaluate) is

theorem parseHead_of {evaluate : Evaluator σ} {C : {α : Type} → Step σ α → Prop}
    (hC : Step.Compositional C) (h : ∀ i, C (resolve evaluate i)) (is : List Item) :
    C (parseHead (resolve evaluate) is) := by
  induction is using parseHead.induct with
  | case1 => exact hC.pure _
  | case2 i is ih ihs =>
    rw [parseHead]
    refine hC.bind (h i) fun v => ?_
    split
    · exact hC.pure _
    · exact hC.bind ih fun _ => hC.pure _
    · exact hC.bind ih fun _ => hC.pure _
    · cases is with
      | nil => exact hC.pure _
      | cons next after =>
        refine hC.bind (h next) fun w => ?_
        split
        · exact hC.bind ihs.1 fun _ => hC.pure _
        · exact hC.bind ih fun _ => hC.pure _

theorem parseHead_silent (evaluate : Evaluator σ) (is : List Item) :
    Step.Silent (parseHead (resolve evaluate) is) :=
  parseHead_of Step.compositional_silent (resolve_silent evaluate) is

theorem checkTag_silent (o : Options) (tag : String) :
    Step.Silent (checkTag o tag : Step σ Unit) := by
  unfold checkTag
  split
  · exact Step.silent_pure _
  · exact Step.silent_fail _

theorem orTooManyDigits_silent {α : Type} (a : Option α) :
    Step.Silent (Step.orTooManyDigits a : Step σ α) := by
  cases a with
  | none => exact Step.silent_fail _
  | some a => exact Step.silent_pure _

theorem ofText?_silent (t : Option String) : Step.Silent (Step.ofText? t : Step σ (List Char)) := by
  cases t with
  | none => exact Step.silent_fail _
  | some t => exact Step.silent_pure _

theorem Attribute.text?_eq (a : Attribute) :
    a.text? = a.shown?.map fun s => String.ofList s.text := by
  have valued (t : String) : " " ++ a.name ++ "=\"" ++ t ++ "\"" =
      String.ofList (ShownAttribute.text ⟨a.name, some t⟩) := by
    rw [← String.toList_inj]
    simp [ShownAttribute.text]
  obtain ⟨name, d⟩ := a
  unfold Attribute.text? Attribute.shown?
  cases d with
  | null =>
    rw [Option.map_some, Option.some_inj, ← String.toList_inj]
    simp [ShownAttribute.text]
  | _ =>
    dsimp only
    rw [Option.map_map]
    congr 1
    funext t
    exact valued t

theorem attributesText?_eq (as : List Attribute) : attributesText? as =
    (as.mapM Attribute.shown?).map fun shown => String.ofList (attributesText shown) := by
  induction as with
  | nil => rfl
  | cons a as ih =>
    rw [attributesText?, ih, a.text?_eq, List.mapM_cons]
    cases a.shown? with
    | none => rfl
    | some s =>
      cases as.mapM Attribute.shown? with
      | none => rfl
      | some shown => simp [attributesText]

theorem headText_eq (attributes : List Attribute) : (headText attributes : Step σ (List Char)) =
    Step.orTooManyDigits (shownAttributes? attributes) >>= fun shown =>
      pure (attributesText shown) := by
  unfold headText shownAttributes?
  cases mergeClasses? attributes with
  | none => rfl
  | some as =>
    rw [Option.bind_some, Option.bind_some, attributesText?_eq]
    cases as.mapM Attribute.shown? with
    | none => rfl
    | some shown =>
      rw [Step.orTooManyDigits, Step.pure_bind, Option.map_some, Step.ofText?, String.toList_ofList]
      rfl

theorem expand_isElement (o : Options) (evaluate : Evaluator σ) (depth : Nat) (e : Element) :
    Step.Returns (expand o evaluate depth e) fun c => c.isElement = true := by
  cases depth with
  | zero => exact Step.returns_fail _ _
  | succ depth =>
    refine (Step.returns_any _).bind fun _ _ => (Step.returns_any _).bind fun head _ =>
      (Step.returns_any _).bind fun children _ => (Step.returns_any _).bind fun shown _ => ?_
    split
    · exact Step.returns_fail _ _
    · exact (Step.returns_any _).bind fun cs _ => Step.returns_pure rfl

theorem contents_returns {child : Element → Step σ Content}
    (hc : ∀ e, Step.Returns (child e) fun c => c.isElement = true) (vs : List Value) :
    Step.Returns (contents child vs) fun cs =>
      cs.isEmpty = vs.isEmpty ∧ cs.any Content.isElement = vs.any Value.isElement := by
  induction vs with
  | nil => exact Step.returns_pure ⟨rfl, rfl⟩
  | cons v vs ih =>
    cases v with
    | element e =>
      refine (hc e).bind fun c h => ih.bind fun cs hcs => Step.returns_pure ⟨rfl, ?_⟩
      rw [List.any_cons, List.any_cons, h, hcs.2]
      rfl
    | text | number | word =>
      refine (Step.returns_any _).bind fun t _ => ih.bind fun cs hcs => Step.returns_pure ⟨rfl, ?_⟩
      rw [List.any_cons, List.any_cons, hcs.2]
      rfl

theorem writeFlat_prints {xml : Bool} {write : Element → Step σ Unit}
    {child : Element → Step σ Content} {vs : List Value}
    (h : ∀ e, .element e ∈ vs → Step.Prints (write e) (child e) (Content.flat xml)) :
    Step.Prints (writeFlat write vs) (contents child vs) (Content.flatAll xml) := by
  induction vs with
  | nil => exact .write rfl
  | cons v vs ih =>
    have hrest := ih fun e he => h e (List.mem_cons_of_mem _ he)
    cases v with
    | element e => exact (h e List.mem_cons_self).seq hrest fun _ _ _ _ => rfl
    | text | number | word =>
      exact .after (ofText?_silent _) fun text => (hrest.behind text).map fun _ => rfl

theorem ended_textLine (run : List Char) : ended (Markup.textLine run) = runLine run := by
  unfold Markup.textLine runLine
  dsimp only
  split
  · rfl
  · simp [ended]

theorem ended_append (ls ls' : List Markup.Line) : ended (ls ++ ls') = ended ls ++ ended ls' := by
  simp [ended]

theorem Content.runLines_cons_of_isElement (xml : Bool) (run : List Char) {c : Content}
    (h : c.isElement = true) (cs : List Content) : Content.runLines xml run (c :: cs) =
      Markup.textLine run ++ (c.lines xml ++ Content.runLines xml [] cs) := by
  cases c with
  | text => simp [Content.isElement] at h
  | element => rw [Content.runLines]

theorem writeLines_prints {xml : Bool} {write : Element → Step σ Unit}
    {child : Element → Step σ Content} (run : List Char) (vs : List Value)
    (hc : ∀ e, Step.Returns (child e) fun c => c.isElement = true)
    (h : ∀ e, Step.Prints (write e) (child e) fun c => ended (c.lines xml)) :
    Step.Prints (writeLines write run vs) (contents child vs)
      fun cs => ended (Content.runLines xml run cs) := by
  induction vs generalizing run with
  | nil =>
    refine .write ?_
    rw [Content.runLines, ended_textLine]
  | cons v vs ih =>
    cases v with
    | element e =>
      have hfirst := ((h e).behind (runLine run)).seq (ih []) (c := List.cons)
        (q := fun cs => ended (Content.runLines xml run cs)) fun s c hr cs => by
          rw [Content.runLines_cons_of_isElement xml run (hc e s c hr), ended_append, ended_append,
            ended_textLine, List.append_assoc]
      rwa [Step.bind_assoc] at hfirst
    | text | number | word =>
      refine .after (ofText?_silent _) fun text => (ih (run ++ text)).map fun cs => ?_
      rw [Content.runLines]

section

variable {o : Options} {broken : Bool} {write : Element → Step σ Unit}
  {child : Element → Step σ Content} {tag : String} {vs : List Value}

theorem writePaired_prints (hc : ∀ e, Step.Returns (child e) fun c => c.isElement = true)
    (h : ∀ e, Step.Prints (write e) (child e) (Content.printed o.xml broken))
    (hv : ∀ cs : List Content, cs.isEmpty = vs.isEmpty → closesAlone o.xml tag cs = false)
    (shown : List ShownAttribute) :
    Step.Prints (writePaired broken write tag (attributesText shown) vs)
      (contents child vs >>= fun cs => pure (.element tag shown cs))
      (Content.printed o.xml broken) := by
  have hcs := contents_returns hc vs
  by_cases hb : (broken && vs.any Value.isElement) = true
  · obtain ⟨rfl, ha⟩ := Bool.and_eq_true_iff.1 hb
    rw [writePaired, if_pos hb]
    have hp := (((writeLines_prints [] vs hc h).before (closingTag tag ++ lineEnd true)).behind
      ['\n']).behind (openingTag tag (attributesText shown))
    refine Step.Prints.map (p := fun cs => (Content.element tag shown cs).printed o.xml true)
      (hp.congr fun s cs hr => ?_) fun _ => rfl
    obtain ⟨hempty, hany⟩ := hcs s cs hr
    rw [Content.printed, if_pos rfl, Content.lines, hv cs hempty, hany, ha]
    simp [ended, lineEnd]
  · have hf (e : Element) (he : .element e ∈ vs) :
        Step.Prints (write e) (child e) (Content.flat o.xml) := by
      cases broken with
      | false => exact h e
      -- In broken lines only children without elements are written flat.
      | true => exact absurd (List.any_eq_true.2 ⟨_, he, rfl⟩) hb
    rw [writePaired, if_neg hb]
    have hp := ((writeFlat_prints hf).before (closingTag tag ++ lineEnd broken)).behind
      (openingTag tag (attributesText shown))
    refine Step.Prints.map (p := fun cs => (Content.element tag shown cs).printed o.xml broken)
      (hp.congr fun s cs hr => ?_) fun _ => rfl
    obtain ⟨hempty, hany⟩ := hcs s cs hr
    cases broken with
    | false =>
      rw [Content.printed, if_neg Bool.false_ne_true, Content.flat, hv cs hempty]
      simp [lineEnd]
    | true =>
      rw [Bool.true_and, ← hany] at hb
      rw [Content.printed, if_pos rfl, Content.lines, hv cs hempty, if_neg Bool.false_ne_true,
        if_neg hb]
      simp [ended, lineEnd]

theorem writeEmpty_prints (shown : List ShownAttribute) (hv : closesAlone o.xml tag [] = true) :
    Step.Prints (Step.write (emptyTag tag (attributesText shown) ++ lineEnd broken) : Step σ Unit)
      (pure (.element tag shown [])) (Content.printed o.xml broken) := by
  refine .write ?_
  cases broken with
  | false =>
    rw [Content.printed, if_neg Bool.false_ne_true, Content.flat, if_pos hv]
    simp [lineEnd]
  | true =>
    rw [Content.printed, if_pos rfl, Content.lines, if_pos hv]
    simp [ended, lineEnd]

theorem doctypeText_eq_nil {root : Bool} (h : o.xml = true ∨ isVoidTag tag = true ∨ root = false) :
    doctypeText o broken root tag = [] := by
  rw [doctypeText, if_neg]
  intro hd
  simp only [Bool.and_eq_true, Bool.not_eq_true', beq_iff_eq] at hd
  obtain ⟨⟨hx, rfl⟩, rfl⟩ := hd
  rcases h with h | h | h
  · exact absurd (hx.symm.trans h) Bool.false_ne_true
  · exact absurd h (by decide)
  · exact absurd h.symm Bool.false_ne_true

theorem writeElement_prints (hc : ∀ e, Step.Returns (child e) fun c => c.isElement = true)
    (h : ∀ e, Step.Prints (write e) (child e) (Content.printed o.xml broken)) (root : Bool)
    (attributes : List Attribute) :
    Step.Prints (writeElement o broken write root tag attributes vs)
      (elementContent o child tag attributes vs)
      fun c => doctypeText o broken root tag ++ c.printed o.xml broken := by
  rw [writeElement, elementContent, headText_eq, Step.bind_assoc]
  refine .after (orTooManyDigits_silent _) fun shown => ?_
  rw [Step.pure_bind]
  by_cases hx : o.xml = true
  · have hfail : ¬ (!o.xml && isVoidTag tag && !vs.isEmpty) = true := by simp [hx]
    rw [if_pos hx, if_neg hfail, doctypeText_eq_nil (.inl hx)]
    cases vs with
    | nil =>
      have hv : closesAlone o.xml tag [] = true := by simp [closesAlone, hx]
      exact writeEmpty_prints shown hv
    | cons v vs =>
      have hv (cs : List Content) (hcs : cs.isEmpty = (v :: vs).isEmpty) :
          closesAlone o.xml tag cs = false := by
        rw [closesAlone, if_pos hx, hcs]
        rfl
      exact writePaired_prints hc h hv shown
  · rw [if_neg hx]
    by_cases hvoid : isVoidTag tag = true
    · rw [if_pos hvoid, doctypeText_eq_nil (.inr (.inl hvoid))]
      cases vs with
      | nil =>
        have hv : closesAlone o.xml tag [] = true := by simp [closesAlone, hx, hvoid]
        have hfail : ¬ (!o.xml && isVoidTag tag && !([] : List Value).isEmpty) = true := by simp
        rw [if_neg hfail]
        exact writeEmpty_prints shown hv
      | cons v vs =>
        have hfail : (!o.xml && isVoidTag tag && !(v :: vs).isEmpty) = true := by simp [hx, hvoid]
        rw [if_pos hfail]
        exact .fail _
    · have hv (cs : List Content) (_ : cs.isEmpty = vs.isEmpty) :
          closesAlone o.xml tag cs = false := by
        simp [closesAlone, hx, hvoid]
      have hfail : ¬ (!o.xml && isVoidTag tag && !vs.isEmpty) = true := by simp [hvoid]
      have hp := writePaired_prints hc h hv shown
      rw [if_neg hvoid, if_neg hfail, doctypeText]
      by_cases hr : (root && tag == "html") = true
      · have hd : (!o.xml && root && tag == "html") = true := by simpa [hx] using hr
        rw [if_pos hd]
        simp only [hr, if_true]
        exact hp.behind _
      · have hd : ¬ (!o.xml && root && tag == "html") = true := by simpa [hx] using hr
        rw [if_neg hd]
        simp only [hr]
        exact hp

end

theorem Step.Prints.of_inner {α : Type} {m : Step σ Unit} {k : Step σ α} {o : Options}
    {broken : Bool} {tag : String} {p : α → List Char}
    (h : Step.Prints m k fun c => doctypeText o broken false tag ++ p c) : Step.Prints m k p := by
  rwa [doctypeText_eq_nil (.inr (.inr rfl))] at h

theorem renderElement_prints (o : Options) (broken : Bool) (evaluate : Evaluator σ) (depth : Nat)
    (root : Bool) (e : Element) :
    Step.Prints (renderElement o broken evaluate depth root e) (expand o evaluate depth e)
      fun c => doctypeText o broken root e.tag ++ c.printed o.xml broken := by
  induction depth generalizing root e with
  | zero => exact .fail _
  | succ depth ih =>
    have below (e : Element) := (ih false e).of_inner
    rw [renderElement, expand]
    exact .after (checkTag_silent o e.tag) fun _ => .after (parseHead_silent evaluate e.args)
      fun head => .after (resolveAll_silent evaluate _) fun _ =>
        writeElement_prints (expand_isElement o evaluate depth) below root head.attributes

def documentText (o : Options) (broken : Bool) (tag : String) (c : Content) : List Char :=
  let text := headerText o broken ++ (doctypeText o broken true tag ++ c.printed o.xml broken)
  if broken then dropFinalNewline text else text

/-- A document is the print of the content of its root, and it fails as the evaluation does. -/
theorem renderDocument_eq (o : Options) (broken : Bool) (evaluate : Evaluator σ) (depth : Nat)
    (state : σ) (e : Element) : renderDocument o broken evaluate depth state e =
      (expand o evaluate depth e (Session.start state)).result.map
        (documentText o broken e.tag) := by
  exact (renderElement_prints o broken evaluate depth true e).result_map _ fun written =>
    let text := headerText o broken ++ written
    if broken then dropFinalNewline text else text

theorem renderTree_of_toElement {tree : Datum} {e : Element} (h : tree.toElement = .ok e)
    (o : Options) (xml : Option Bool) (broken : Bool) (evaluate : Evaluator σ) (depth : Nat)
    (state : σ) : renderTree o xml broken evaluate depth state tree =
      renderDocument (o.withMode xml) broken evaluate depth state e := by
  unfold renderTree rootOf
  rw [h]
  rfl

theorem renderTree_eq_ok {o : Options} {xml : Option Bool} {broken : Bool}
    {evaluate : Evaluator σ} {depth : Nat} {state : σ} {tree : Datum} {text : List Char}
    (h : renderTree o xml broken evaluate depth state tree = .ok text) :
    ∃ e, tree.toElement = .ok e ∧
      renderDocument (o.withMode xml) broken evaluate depth state e = .ok text := by
  unfold renderTree rootOf at h
  cases ht : tree.toElement with
  | error err => simp [ht, bind, Except.bind] at h
  | ok e =>
    rw [ht] at h
    exact ⟨e, rfl, h⟩

end ElementMarkup
