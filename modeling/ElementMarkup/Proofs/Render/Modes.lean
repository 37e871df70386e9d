import ElementMarkup.Proofs.Render.Agreement
import ElementMarkup.Proofs.Render.Preview

/-!
# The two modes

In HTML a void tag closes itself and may have no children, and in XML an element without children
closes itself. A tree that HTML accepts is evaluated in the same way in XML, where nothing more can
fail. If the elements without children are just those with a void tag, the two texts differ only in
what stands before the root: the XML header, or the declaration of an `html` document.
-/

set_option autoImplicit false

namespace ElementMarkup

variable {σ α β : Type}

namespace Step

/-- Where `m` succeeds, `k` does the same. -/
def Within (m k : Step σ α) : Prop := ∀ s a, (m s).result = .ok a → k s = m s

theorem within_iff {m k : Step σ α} : Within m k ↔ Unless (fun _ => True) m k := by
  constructor
  · intro h s hs
    cases hm : (m s).result with
    | error e => exact absurd hm (hs e trivial)
    | ok a => exact h s a hm
  · intro h s a ha
    exact h s fun e _ he => by simp [ha] at he

theorem within_refl (m : Step σ α) : Within m m := fun _ _ _ => rfl

theorem within_fail (e : RenderError) (k : Step σ α) : Within (fail e) k :=
  within_iff.2 (unless_fail trivial k)

theorem Within.bind {m k : Step σ α} {f g : α → Step σ β} (h : Within m k)
    (hf : ∀ a, Within (f a) (g a)) : Within (m >>= f) (k >>= g) :=
  within_iff.2 ((within_iff.1 h).bind fun a => within_iff.1 (hf a))

end Step

theorem contents_within {child child' : Element → Step σ Content}
    (h : ∀ e, Step.Within (child e) (child' e)) (vs : List Value) :
    Step.Within (contents child vs) (contents child' vs) := by
  induction vs with
  | nil => exact Step.within_refl _
  | cons v vs ih =>
    cases v with
    | element e => exact (h e).bind fun _ => ih.bind fun _ => Step.within_refl _
    | text | number | word =>
      exact (Step.within_refl _).bind fun _ => ih.bind fun _ => Step.within_refl _

theorem elementContent_within {o : Options} {child child' : Element → Step σ Content}
    (h : ∀ e, Step.Within (child e) (child' e)) (tag : String) (attributes : List Attribute)
    (children : List Value) :
    Step.Within (elementContent (o.withMode (some false)) child tag attributes children)
      (elementContent (o.withMode (some true)) child' tag attributes children) := by
  have hxml : ¬ (!(o.withMode (some true)).xml && isVoidTag tag && !children.isEmpty) = true :=
    Bool.false_ne_true
  refine (Step.within_refl _).bind fun shown => ?_
  rw [if_neg hxml]
  split
  · exact Step.within_fail _ _
  · exact (contents_within h children).bind fun _ => Step.within_refl _

theorem expand_within (o : Options) (evaluate : Evaluator σ) (depth : Nat) (e : Element) :
    Step.Within (expand (o.withMode (some false)) evaluate depth e)
      (expand (o.withMode (some true)) evaluate depth e) := by
  induction depth generalizing e with
  | zero => exact Step.within_fail _ _
  | succ depth ih =>
    have hcheck : (checkTag (o.withMode (some false)) e.tag : Step σ Unit) =
        checkTag (o.withMode (some true)) e.tag := rfl
    rw [expand, expand, hcheck]
    exact (Step.within_refl _).bind fun _ => (Step.within_refl _).bind fun head =>
      (Step.within_refl _).bind fun children =>
        elementContent_within ih e.tag head.attributes children

/-- Each element without children, at any depth, has a void tag. -/
inductive Content.ChildlessVoid : Content → Prop where
  | text (run : List Char) : Content.ChildlessVoid (.text run)
  | element {tag : String} {attributes : List ShownAttribute} {children : List Content}
      (hv : children = [] → isVoidTag tag = true)
      (hc : ∀ c ∈ children, Content.ChildlessVoid c) :
      Content.ChildlessVoid (.element tag attributes children)

theorem closesAlone_modes {tag : String} {children : List Content}
    (hp : closesAlone false tag children = true → children = [])
    (hv : children = [] → isVoidTag tag = true) :
    closesAlone false tag children = closesAlone true tag children := by
  have hiff : isVoidTag tag = true ↔ children.isEmpty = true :=
    ⟨fun h => List.isEmpty_iff.2 (hp h), fun h => hv (List.isEmpty_iff.1 h)⟩
  exact Bool.eq_iff_iff.2 hiff

mutual

theorem Content.flat_modes : ∀ c : Content, c.Proper false → c.ChildlessVoid →
    c.flat false = c.flat true
  | .text _, _, _ => rfl
  | .element tag attributes children, .element hp hpc, .element hv hvc => by
    rw [Content.flat, Content.flat, closesAlone_modes hp hv,
      Content.flatAll_modes children hpc hvc]

theorem Content.flatAll_modes : ∀ cs : List Content, (∀ c ∈ cs, c.Proper false) →
    (∀ c ∈ cs, c.ChildlessVoid) → Content.flatAll false cs = Content.flatAll true cs
  | [], _, _ => rfl
  | c :: cs, hp, hv => by
    rw [List.forall_mem_cons] at hp hv
    rw [Content.flatAll, Content.flatAll, Content.flat_modes c hp.1 hv.1,
      Content.flatAll_modes cs hp.2 hv.2]

end

mutual

theorem Content.lines_modes : ∀ c : Content, c.Proper false → c.ChildlessVoid →
    c.lines false = c.lines true
  | .text _, _, _ => rfl
  | .element tag attributes children, .element hp hpc, .element hv hvc => by
    rw [Content.lines, Content.lines, closesAlone_modes hp hv,
      Content.flatAll_modes children hpc hvc, Content.runLines_modes children hpc hvc]

theorem Content.runLines_modes : ∀ cs : List Content, (∀ c ∈ cs, c.Proper false) →
    (∀ c ∈ cs, c.ChildlessVoid) → ∀ run,
      Content.runLines false run cs = Content.runLines true run cs
  | [], _, _, run => by rw [Content.runLines, Content.runLines]
  | .text more :: cs, hp, hv, run => by
    rw [List.forall_mem_cons] at hp hv
    rw [Content.runLines, Content.runLines, Content.runLines_modes cs hp.2 hv.2]
  | .element tag attributes children :: cs, hp, hv, run => by
    rw [List.forall_mem_cons] at hp hv
    rw [Content.runLines, Content.runLines, Content.lines_modes _ hp.1 hv.1,
      Content.runLines_modes cs hp.2 hv.2]

end

theorem Content.printed_modes {c : Content} (hp : c.Proper false) (hv : c.ChildlessVoid)
    (broken : Bool) : c.printed false broken = c.printed true broken := by
  rw [Content.printed, Content.printed, c.flat_modes hp hv, c.lines_modes hp hv]

def Content.rootText (xml broken : Bool) (c : Content) : List Char :=
  if broken then dropFinalNewline (c.printed xml true) else c.printed xml false

theorem dropFinalNewline_append (a : List Char) {b : List Char} (h : b ≠ []) :
    dropFinalNewline (a ++ b) = a ++ dropFinalNewline b := by
  unfold dropFinalNewline
  rw [List.getLast?_append_of_ne_nil a h, List.dropLast_append_of_ne_nil h]
  split <;> rfl

theorem Content.printed_ne_nil (xml : Bool) {c : Content} (h : c.isElement = true) :
    c.printed xml true ≠ [] := by
  obtain ⟨ls, kind, s, hs⟩ := Content.lines_last xml h
  rw [Content.printed, if_pos rfl, hs, ended_append]
  simp [ended]

/-- The text of a document is that of its root behind the header and the declaration. -/
theorem documentText_eq (o : Options) (broken : Bool) (tag : String) {c : Content}
    (h : c.isElement = true) : documentText o broken tag c =
      headerText o broken ++ (doctypeText o broken true tag ++ c.rootText o.xml broken) := by
  cases broken with
  | false => rfl
  | true =>
    have hne := Content.printed_ne_nil o.xml h
    have hne' : doctypeText o true true tag ++ c.printed o.xml true ≠ [] := by simp [hne]
    unfold documentText
    dsimp only
    rw [if_pos rfl, dropFinalNewline_append _ hne', dropFinalNewline_append _ hne]
    rfl

theorem Content.rootText_modes {c : Content} (hp : c.Proper false) (hv : c.ChildlessVoid)
    (broken : Bool) : c.rootText false broken = c.rootText true broken := by
  rw [Content.rootText, Content.rootText, Content.printed_modes hp hv true,
    Content.printed_modes hp hv false]

/-- If a tree can be rendered as HTML, it can be rendered as XML. The HTML text is that of the root,
behind the declaration if the tag of the root is `html`. If the elements without children have void
tags, the XML text is the same behind the header. -/
theorem renderTree_modes {o : Options} {broken : Bool} {evaluate : Evaluator σ} {depth : Nat}
    {state : σ} {tree : Datum} {html : List Char}
    (h : renderTree o (some false) broken evaluate depth state tree = .ok html) :
    ∃ e c xml, tree.toElement = .ok e ∧
      (expand (o.withMode (some false)) evaluate depth e (Session.start state)).result = .ok c ∧
      renderTree o (some true) broken evaluate depth state tree = .ok xml ∧
      html = (if e.tag = "html" then o.doctypeLine.toList ++ lineEnd broken else []) ++
        c.rootText false broken ∧
      (c.ChildlessVoid →
        xml = o.xmlHeader.toList ++ lineEnd broken ++ c.rootText false broken) := by
  obtain ⟨e, ht, hr⟩ := renderTree_eq_ok h
  rw [renderDocument_eq, map_eq_ok_iff] at hr
  obtain ⟨c, hc, rfl⟩ := hr
  have he := expand_isElement (o.withMode (some false)) evaluate depth e (Session.start state) c hc
  have hp := expand_proper (o.withMode (some false)) evaluate depth e (Session.start state) c hc
  have hxml : (expand (o.withMode (some true)) evaluate depth e (Session.start state)).result =
      .ok c := by rw [expand_within o evaluate depth e (Session.start state) c hc, hc]
  refine ⟨e, c, documentText (o.withMode (some true)) broken e.tag c, ht, hc, ?_, ?_, ?_⟩
  · unfold renderTree rootOf
    rw [ht]
    change renderDocument (o.withMode (some true)) broken evaluate depth state e = _
    rw [renderDocument_eq, hxml]
    rfl
  · rw [documentText_eq _ broken e.tag he]
    unfold headerText doctypeText
    simp [Options.withMode, Options.doctypeLine]
  · intro hv
    have hmode : (o.withMode (some true)).xml = true := rfl
    have hheader : headerText (o.withMode (some true)) broken =
        o.xmlHeader.toList ++ lineEnd broken := rfl
    rw [documentText_eq _ broken e.tag he, doctypeText_eq_nil (.inl hmode), hmode, hheader,
      ← Content.rootText_modes hp hv, List.nil_append]

/-- A page in which another `html` element stands, and whose only element without children is one
with a void tag. -/
def nestedPage : Element :=
  ⟨"html", [.element "html" [.text ".b", .expression "n"], .element "br" []]⟩

def nestedContent : Content :=
  .element "html" [] [.element "html" [⟨"class", some "b"⟩] [.text ['7']], .element "br" [] []]

theorem nestedContent_childlessVoid : nestedContent.ChildlessVoid := by
  have hinner : (Content.element "html" [⟨"class", some "b"⟩] [.text ['7']]).ChildlessVoid :=
    .element (by simp) (List.forall_mem_singleton.2 (.text _))
  have hbr : (Content.element "br" [] []).ChildlessVoid := .element (by decide) (by simp)
  exact .element (by simp) (by simpa using ⟨hinner, hbr⟩)

theorem renderTree_modes_nested :
    renderTree {} (some false) true sampleEvaluator 2 () (.element nestedPage) =
        .ok "<!DOCTYPE html>\n<html>\n<html class=\"b\">7</html>\n<br/>\n</html>".toList ∧
      renderTree {} (some true) true sampleEvaluator 2 () (.element nestedPage) =
        .ok ("<?xml version=\"1.0\" encoding=\"UTF-8\"?>\n".toList ++
          "<html>\n<html class=\"b\">7</html>\n<br/>\n</html>".toList) := by
  have hhtml : renderTree {} (some false) true sampleEvaluator 2 () (.element nestedPage) =
      .ok "<!DOCTYPE html>\n<html>\n<html class=\"b\">7</html>\n<br/>\n</html>".toList := by cbv
  have hcontent : (expand ({} : Options) sampleEvaluator 2 nestedPage (Session.start ())).result =
      .ok nestedContent := by cbv
  obtain ⟨e, c, xml, he, hc, hxml, _, h⟩ := renderTree_modes hhtml
  obtain rfl : nestedPage = e := Except.ok.inj he
  obtain rfl : c = nestedContent := Except.ok.inj (hc.symm.trans hcontent)
  refine ⟨hhtml, ?_⟩
  rw [hxml, h nestedContent_childlessVoid]
  cbv

end ElementMarkup
