import ElementMarkup.Proofs.Markup.Indent
import ElementMarkup.Proofs.Render.Rescan

/-!
# Previews

A preview takes the depth of its lines from the tags that it finds in the compiled text. The lines
are those of the content, so the number of open elements is the depth in the tree again behind
every element, and the preview is what a printer writes that goes down the tree.
-/

set_option autoImplicit false

namespace ElementMarkup

open Markup

variable {σ : Type}

/-- A text behind two spaces for each of the `depth` elements around it. -/
def indented (depth : Nat) (text : List Char) : List Char := List.replicate (2 * depth) ' ' ++ text

def displayRun (depth : Nat) (run : List Char) : List (List Char) :=
  let kept := Text.trimNewlines run
  if kept.isEmpty then [] else [indented depth kept]

mutual

/-- The pieces that a content is printed as, `depth` elements being around it. -/
def Content.display (xml : Bool) (depth : Nat) : Content → List (List Char)
  | .text run => displayRun depth run
  | .element tag attributes children =>
    if children.any Content.isElement then
      indented depth (openingTag tag (attributesText attributes)) ::
        (Content.displayAll xml (depth + 1) [] children ++ [indented depth (closingTag tag)])
    else [indented depth ((Content.element tag attributes children).flat xml)]

/-- The pieces of children behind the text of the run that is open. -/
def Content.displayAll (xml : Bool) (depth : Nat) (run : List Char) :
    List Content → List (List Char)
  | [] => displayRun depth run
  | .text more :: rest => Content.displayAll xml depth (run ++ more) rest
  | .element tag attributes children :: rest =>
    displayRun depth run ++ ((Content.element tag attributes children).display xml depth ++
      Content.displayAll xml depth [] rest)

end

def displayDocument (o : Options) (tag : String) (c : Content) : List Char :=
  joinLines ((headLines o tag).map Line.text ++ c.display o.xml 0)

/-- No element that closes itself has children, at any depth. -/
inductive Content.Proper (xml : Bool) : Content → Prop where
  | text (run : List Char) : Content.Proper xml (.text run)
  | element {tag : String} {attributes : List ShownAttribute} {children : List Content}
      (hv : closesAlone xml tag children = true → children = [])
      (hc : ∀ c ∈ children, Content.Proper xml c) :
      Content.Proper xml (.element tag attributes children)

theorem contents_forall {child : Element → Step σ Content} {P : Content → Prop}
    (ht : ∀ run, P (.text run)) (hc : ∀ e, Step.Returns (child e) P) (vs : List Value) :
    Step.Returns (contents child vs) fun cs => ∀ c ∈ cs, P c := by
  induction vs with
  | nil => exact Step.returns_pure (by simp)
  | cons v vs ih =>
    cases v with
    | element e =>
      refine (hc e).bind fun c h => ih.bind fun cs hcs => Step.returns_pure ?_
      exact List.forall_mem_cons.2 ⟨h, hcs⟩
    | text | number | word =>
      refine (Step.returns_any _).bind fun run _ => ih.bind fun cs hcs => Step.returns_pure ?_
      exact List.forall_mem_cons.2 ⟨ht run, hcs⟩

theorem expand_proper (o : Options) (evaluate : Evaluator σ) (depth : Nat) (e : Element) :
    Step.Returns (expand o evaluate depth e) (Content.Proper o.xml) := by
  induction depth generalizing e with
  | zero => exact Step.returns_fail _ _
  | succ depth ih =>
    refine (Step.returns_any _).bind fun _ _ => (Step.returns_any _).bind fun head _ =>
      (Step.returns_any _).bind fun children _ => (Step.returns_any _).bind fun shown _ => ?_
    split
    · exact Step.returns_fail _ _
    · rename_i hvoid
      have hall := contents_forall (P := Content.Proper o.xml) .text ih children
      have hempty := contents_returns (expand_isElement o evaluate depth) children
      have hboth : Step.Returns (contents (expand o evaluate depth) children) fun cs =>
          (∀ c ∈ cs, c.Proper o.xml) ∧ cs.isEmpty = children.isEmpty :=
        fun s cs hs => ⟨hall s cs hs, (hempty s cs hs).1⟩
      refine hboth.bind fun cs ⟨hcs, hce⟩ => Step.returns_pure (.element (fun ha => ?_) hcs)
      cases hx : o.xml with
      | true => simpa [closesAlone, hx] using ha
      | false =>
        have hv : isVoidTag e.tag = true := by simpa [closesAlone, hx] using ha
        have hn : children.isEmpty = true := by simpa [hx, hv] using hvoid
        exact List.isEmpty_iff.1 (hce.trans hn)

theorem margin_two (depth : Nat) (text : List Char) :
    margin 2 depth ++ text = indented depth text := by
  have h : ((2 : Int) * depth).toNat = 2 * depth := by omega
  rw [margin, h, indented]

theorem displayRun_eq (depth : Nat) (run : List Char) :
    (textLine run).map (fun l => margin 2 depth ++ l.text) = displayRun depth run := by
  unfold textLine displayRun
  dsimp only
  split
  · rfl
  · rw [List.map_singleton, margin_two]

mutual

/-- The lines of a content are indented as it is displayed, and the depth is what it was behind
them. -/
theorem Content.indentFrom_lines (xml : Bool) : ∀ c : Content, c.Proper xml →
    ∀ (depth : Nat) (ls : List Line), indentFrom 2 depth (c.lines xml ++ ls) =
      (c.display xml depth ++ (indentFrom 2 depth ls).1, (indentFrom 2 depth ls).2)
  | .text run, _, depth, ls => by
    rw [Content.lines, Content.display, indentFrom_textLine, displayRun_eq]
  | .element tag attributes children, .element hv hc, depth, ls => by
    rw [Content.lines, Content.display, Content.flat]
    by_cases ha : closesAlone xml tag children = true
    · obtain rfl := hv ha
      rw [if_pos ha, if_pos ha, if_neg (by simp), List.singleton_append, indentFrom_whole,
        margin_two]
      rfl
    · rw [if_neg ha, if_neg ha]
      by_cases he : children.any Content.isElement = true
      · have hinner := Content.indentFrom_runLines xml children hc [] (depth + 1)
          (⟨.closing, closingTag tag⟩ :: ls)
        rw [indentFrom_closing, margin_two] at hinner
        rw [if_pos he, if_pos he, List.cons_append, indentFrom_opening, margin_two,
          List.append_assoc, List.singleton_append, hinner]
        simp
      · rw [if_neg he, if_neg he, List.singleton_append, indentFrom_whole, margin_two]
        rfl

theorem Content.indentFrom_runLines (xml : Bool) : ∀ cs : List Content, (∀ c ∈ cs, c.Proper xml) →
    ∀ (run : List Char) (depth : Nat) (ls : List Line),
      indentFrom 2 depth (Content.runLines xml run cs ++ ls) =
        (Content.displayAll xml depth run cs ++ (indentFrom 2 depth ls).1,
          (indentFrom 2 depth ls).2)
  | [], _, run, depth, ls => by
    rw [Content.runLines, Content.displayAll, indentFrom_textLine, displayRun_eq]
  | .text more :: rest, h, run, depth, ls => by
    rw [List.forall_mem_cons] at h
    rw [Content.runLines, Content.displayAll, Content.indentFrom_runLines xml rest h.2]
  | .element tag attributes children :: rest, h, run, depth, ls => by
    rw [List.forall_mem_cons] at h
    rw [Content.runLines, Content.displayAll, List.append_assoc, List.append_assoc,
      indentFrom_textLine, displayRun_eq, Content.indentFrom_lines xml _ h.1,
      Content.indentFrom_runLines xml rest h.2]
    simp

end

theorem indentFrom_headLines (o : Options) (tag : String) (ls : List Line) :
    indentFrom 2 0 (headLines o tag ++ ls) =
      ((headLines o tag).map Line.text ++ (indentFrom 2 0 ls).1, (indentFrom 2 0 ls).2) := by
  unfold headLines
  split
  · exact indentFrom_whole 2 0 _ ls
  · split
    · exact indentFrom_whole 2 0 _ ls
    · rfl

/-- Reformatting keeps the lines, so that those of the broken text are those of the flat text. -/
theorem SafeDocument.lines_broken {o : Options} {c : Content} (h : SafeDocument o c)
    (he : c.isElement = true) (tag : String) :
    Markup.lines o.xml (documentText o true tag c) = headLines o tag ++ c.lines o.xml := by
  have hsame : Markup.lines o.xml (reformat o.xml (documentText o false tag c)) =
      Markup.lines o.xml (documentText o false tag c) := (alike_reformat _).lines
  rw [← h.reformat_flat he tag, hsame, h.lines_flat he tag]

theorem SafeDocument.indent_broken {o : Options} {c : Content} (h : SafeDocument o c)
    (he : c.isElement = true) (hp : c.Proper o.xml) (tag : String) :
    indent o.xml 2 (documentText o true tag c) = displayDocument o tag c := by
  have hroot := Content.indentFrom_lines o.xml c hp 0 []
  rw [List.append_nil] at hroot
  rw [indent, h.lines_broken he, indentFrom_headLines, hroot, displayDocument]
  simp [indentFrom]

theorem previewTree_of_renderDocument {o : Options} {xml : Option Bool} {evaluate : Evaluator σ}
    {depth : Nat} {state : σ} {tree : Datum} {e : Element} {text : List Char}
    (he : tree.toElement = .ok e)
    (h : renderDocument (o.withMode xml) true evaluate depth state e = .ok text) :
    previewTree o xml evaluate depth state tree = .ok
      ⟨indent (o.withMode xml).xml 2 text, indent (o.withMode xml).xml 2 text ++ ['\n']⟩ := by
  unfold previewTree rootOf previewDocument
  rw [he]
  change Except.bind ((renderDocument (o.withMode xml) true evaluate depth state e).map _) _ = _
  rw [h]
  rfl

/-- If a tree can be rendered and its pieces are safe, its preview is what the printer displays of
its content, and the stream gets that text with a newline behind it. -/
theorem previewTree_display {o : Options} {xml : Option Bool} {broken : Bool}
    {evaluate : Evaluator σ} {depth : Nat} {state : σ} {tree : Datum} {text : List Char}
    (h : renderTree o xml broken evaluate depth state tree = .ok text) :
    ∃ e c, tree.toElement = .ok e ∧
      (expand (o.withMode xml) evaluate depth e (Session.start state)).result = .ok c ∧
      (SafeDocument (o.withMode xml) c →
        previewTree o xml evaluate depth state tree =
          .ok ⟨displayDocument (o.withMode xml) e.tag c,
            displayDocument (o.withMode xml) e.tag c ++ ['\n']⟩) := by
  obtain ⟨e, ht, hr⟩ := renderTree_eq_ok h
  rw [renderDocument_eq, map_eq_ok_iff] at hr
  obtain ⟨c, hc, _⟩ := hr
  refine ⟨e, c, ht, hc, fun hs => ?_⟩
  have he := expand_isElement (o.withMode xml) evaluate depth e (Session.start state) c hc
  have hp := expand_proper (o.withMode xml) evaluate depth e (Session.start state) c hc
  have hbroken : renderDocument (o.withMode xml) true evaluate depth state e =
      .ok (documentText (o.withMode xml) true e.tag c) := by
    rw [renderDocument_eq, hc]
    rfl
  rw [previewTree_of_renderDocument ht hbroken, hs.indent_broken he hp]

theorem previewTree_display_sample :
    previewTree {} none sampleEvaluator 2 () (.element samplePage) =
      .ok ⟨"<!DOCTYPE html>\n<html>\n  a\n  <p class=\"b\">7</p>\n  <br/>\n</html>".toList,
        "<!DOCTYPE html>\n<html>\n  a\n  <p class=\"b\">7</p>\n  <br/>\n</html>\n".toList⟩ := by
  have hflat : renderTree {} none false sampleEvaluator 2 () (.element samplePage) =
      .ok "<!DOCTYPE html><html>a<p class=\"b\">7</p><br/></html>".toList := by cbv
  have hcontent : (expand {} sampleEvaluator 2 samplePage (Session.start ())).result =
      .ok sampleContent := by cbv
  obtain ⟨e, c, he, hc, h⟩ := previewTree_display hflat
  obtain rfl : samplePage = e := Except.ok.inj he
  obtain rfl : c = sampleContent := Except.ok.inj (hc.symm.trans hcontent)
  rw [h ⟨by simp [Options.withMode], fun _ => by simp [Options.withMode], sampleContent_safe⟩]
  cbv

end ElementMarkup
