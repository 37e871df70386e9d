import ElementMarkup.Proofs.Markup.Reformat
import ElementMarkup.Proofs.Render.Written

/-!
# Scanning rendered text again

The tokens of a flat text are known from the content it was printed from, if the pieces of the
content are safe. Their layout is the broken lines of the content. So a document that is rendered
flat and then reformatted is the document rendered in broken lines.
-/

set_option autoImplicit false

namespace ElementMarkup

open Markup

variable {σ : Type}

mutual

/-- The tokens that the flat text of a content is scanned to. -/
def Content.tokens (xml : Bool) : Content → List Token
  | .text run => textToken run.reverse
  | .element tag attributes children =>
    if closesAlone xml tag children then
      [⟨.empty, emptyTag tag (attributesText attributes), tag.toList⟩]
    else
      ⟨.opening, openingTag tag (attributesText attributes), tag.toList⟩ ::
        (Content.runTokens xml [] children ++ [⟨.closing, closingTag tag, tag.toList⟩])

def Content.runTokens (xml : Bool) (run : List Char) : List Content → List Token
  | [] => textToken run.reverse
  | .text more :: rest => Content.runTokens xml (run ++ more) rest
  | .element tag attributes children :: rest =>
    textToken run.reverse ++
      ((Content.element tag attributes children).tokens xml ++ Content.runTokens xml [] rest)

end

/-- Texts hold no `<`, and the pieces of tags keep to the characters that can stand in them. -/
inductive Content.Safe : Content → Prop where
  | text {run : List Char} (h : '<' ∉ run) : Content.Safe (.text run)
  | element {tag : String} {attributes : List ShownAttribute} {children : List Content}
      (ht : SafeTag tag) (ha : ∀ a ∈ attributes, a.Safe) (hc : ∀ c ∈ children, Content.Safe c) :
      Content.Safe (.element tag attributes children)

theorem joined_singleton (t : Token) : joined [t] = t.text := by simp [joined]

mutual

theorem Content.joined_tokens (xml : Bool) : ∀ c : Content, joined (c.tokens xml) = c.flat xml
  | .text run => by
    rw [Content.tokens, Content.flat, joined_textToken, List.reverse_reverse]
  | .element tag attributes children => by
    rw [Content.tokens, Content.flat]
    split
    · exact joined_singleton _
    · rw [joined_cons, joined_append, joined_singleton, Content.joined_runTokens xml [] children]
      rfl

theorem Content.joined_runTokens (xml : Bool) (run : List Char) : ∀ cs : List Content,
    joined (Content.runTokens xml run cs) = run ++ Content.flatAll xml cs
  | [] => by
    rw [Content.runTokens, Content.flatAll, joined_textToken, List.reverse_reverse, List.append_nil]
  | .text more :: rest => by
    rw [Content.runTokens, Content.flatAll, Content.flat, Content.joined_runTokens xml _ rest,
      List.append_assoc]
  | .element tag attributes children :: rest => by
    rw [Content.runTokens, Content.flatAll, joined_append, joined_append, joined_textToken,
      List.reverse_reverse, Content.joined_tokens xml (.element tag attributes children),
      Content.joined_runTokens xml [] rest]
    rfl

end

theorem kind_of_mem_textToken {passed : List Char} : ∀ t ∈ textToken passed, t.kind = .text := by
  intro t ht
  unfold textToken at ht
  split at ht
  · simp at ht
  · obtain rfl := List.mem_singleton.1 ht
    rfl

theorem Content.runTokens_of_texts (xml : Bool) (run : List Char) {cs : List Content}
    (h : ¬ cs.any Content.isElement = true) :
    Content.runTokens xml run cs = textToken (run ++ Content.flatAll xml cs).reverse := by
  induction cs generalizing run with
  | nil => rw [Content.runTokens, Content.flatAll, List.append_nil]
  | cons c cs ih =>
    cases c with
    | text more =>
      rw [List.any_cons] at h
      rw [Content.runTokens, Content.flatAll, Content.flat, ih _ h, List.append_assoc]
    | element => exact absurd rfl h

theorem Content.markupOf_runTokens (xml : Bool) (run : List Char) {cs : List Content}
    (h : cs.any Content.isElement = true) (ts : List Token) :
    ∀ t ∈ (markupOf (Content.runTokens xml run cs ++ ts)).head?, t.kind ≠ .closing := by
  induction cs generalizing run with
  | nil => simp at h
  | cons c cs ih =>
    cases c with
    | text more =>
      rw [List.any_cons] at h
      rw [Content.runTokens]
      exact ih _ h
    | element tag attributes children =>
      rw [Content.runTokens, Content.tokens, List.append_assoc, markupOf_append, markupOf_textToken,
        List.nil_append]
      split
      all_goals
        intro t ht
        simp only [List.cons_append, markupOf, List.filter_cons, Token.isMarkup] at ht
        obtain rfl := Option.some.inj ht
        simp

mutual

theorem Content.layout_tokens (xml : Bool) (ts : List Token) : ∀ c : Content,
    layout (c.tokens xml ++ ts) = c.lines xml ++ layout ts
  | .text run => by
    rw [Content.tokens, Content.lines, layout_textToken, List.reverse_reverse]
  | .element tag attributes children => by
    rw [Content.tokens, Content.lines]
    by_cases ha : closesAlone xml tag children = true
    · rw [if_pos ha, if_pos ha]
      exact layout_alone (by simp) (by simp)
    · rw [if_neg ha, if_neg ha]
      -- An element is a leaf of the token list exactly if it is one of the tree.
      by_cases he : children.any Content.isElement = true
      · have hleaf : leafText? tag.toList (Content.runTokens xml [] children ++
            ⟨.closing, closingTag tag, tag.toList⟩ :: ts) = none :=
          leafText?_eq_none_iff.2 fun t ht hk =>
            absurd hk (Content.markupOf_runTokens xml [] he _ t ht)
        have hrest := Content.layout_runTokens xml []
          (⟨.closing, closingTag tag, tag.toList⟩ :: ts) children
        rw [layout_alone (by simp) (by simp)] at hrest
        rw [if_pos he, List.cons_append, List.append_assoc, List.singleton_append,
          layout_alone (by simp) (fun _ => hleaf), hrest]
        simp [TokenKind.lineKind]
      · have hs : Segment (⟨.opening, openingTag tag (attributesText attributes), tag.toList⟩ ::
            (textToken (Content.flatAll xml children).reverse ++
              [⟨.closing, closingTag tag, tag.toList⟩])) ⟨.whole, joined _⟩ ts :=
          .leaf rfl kind_of_mem_textToken rfl rfl
        rw [if_neg he, Content.runTokens_of_texts xml [] he, List.nil_append, hs.layout_append,
          joined_cons, joined_append, joined_textToken, joined_singleton, List.reverse_reverse]
        rfl

theorem Content.layout_runTokens (xml : Bool) (run : List Char) (ts : List Token) :
    ∀ cs : List Content, layout (Content.runTokens xml run cs ++ ts) =
      Content.runLines xml run cs ++ layout ts
  | [] => by
    rw [Content.runTokens, Content.runLines, layout_textToken, List.reverse_reverse]
  | .text more :: rest => by
    rw [Content.runTokens, Content.runLines]
    exact Content.layout_runTokens xml _ ts rest
  | .element tag attributes children :: rest => by
    rw [Content.runTokens, Content.runLines, List.append_assoc, List.append_assoc, layout_textToken,
      List.reverse_reverse, Content.layout_tokens xml _ (.element tag attributes children),
      Content.layout_runTokens xml [] ts rest, List.append_assoc, List.append_assoc]

end

theorem isVoidTag_of_closesAlone {xml : Bool} {tag : String} {children : List Content}
    (h : ¬ closesAlone xml tag children = true) (hx : xml = false) : isVoidTag tag = false := by
  subst hx
  simpa [closesAlone] using h

theorem Content.Safe.breaks {c : Content} (h : c.Safe) (he : c.isElement = true) (xml : Bool)
    (r : List Char) : Breaks xml (c.flat xml ++ r) := by
  cases h with
  | text => simp [Content.isElement] at he
  | @element tag attributes children ht ha hc =>
    right
    rw [Content.flat]
    split
    · rw [markupAt?_emptyTag ht ha]
      rfl
    · rename_i hn
      rw [List.append_assoc, markupAt?_openingTag ht ha (isVoidTag_of_closesAlone hn)]
      rfl

theorem scanned_singleton {xml : Bool} {t : Token} {r : List Char}
    (h : markupAt? xml (t.text ++ r) = some (t, r)) : Scanned xml [t] r :=
  .markup h .nil

mutual

theorem Content.scanned_tokens (xml : Bool) : ∀ c : Content, c.Safe → c.isElement = true →
    ∀ r, Scanned xml (c.tokens xml) r
  | .text _, _, he, _ => by simp [Content.isElement] at he
  | .element tag attributes children, .element ht ha hc, _, r => by
    rw [Content.tokens]
    split
    · exact scanned_singleton (markupAt?_emptyTag ht ha xml r)
    · rename_i hn
      have hclosing : Scanned xml [⟨.closing, closingTag tag, tag.toList⟩] r :=
        scanned_singleton (markupAt?_closingTag ht xml r)
      have hrest := scanned_append.2
        ⟨Content.scanned_runTokens xml children [] (by simp) hc _ (hclosing.breaks (by simp)),
          hclosing⟩
      exact .markup (markupAt?_openingTag ht ha (isVoidTag_of_closesAlone hn) _) hrest

theorem Content.scanned_runTokens (xml : Bool) : ∀ (cs : List Content) (run : List Char),
    '<' ∉ run → (∀ c ∈ cs, c.Safe) → ∀ r, Breaks xml r →
      Scanned xml (Content.runTokens xml run cs) r
  | [], run, hrun, _, r, hr => by
    rw [Content.runTokens]
    exact scanned_textToken (plain_of_forall r (by simpa using hrun)) hr
  | .text more :: rest, run, hrun, h, r, hr => by
    rw [List.forall_mem_cons] at h
    obtain ⟨hmore⟩ := h.1
    rw [Content.runTokens]
    refine Content.scanned_runTokens xml rest _ ?_ h.2 r hr
    rw [List.mem_append, not_or]
    exact ⟨hrun, hmore⟩
  | .element tag attributes children :: rest, run, hrun, h, r, hr => by
    rw [List.forall_mem_cons] at h
    have hrest := Content.scanned_runTokens xml rest [] (by simp) h.2 r hr
    have hfirst := Content.scanned_tokens xml (.element tag attributes children) h.1 rfl
      (joined (Content.runTokens xml [] rest) ++ r)
    have hbreaks := h.1.breaks rfl xml (joined (Content.runTokens xml [] rest) ++ r)
    rw [← Content.joined_tokens, ← List.append_assoc, ← joined_append] at hbreaks
    rw [Content.runTokens]
    exact scanned_append.2 ⟨scanned_textToken (plain_of_forall _ (by simpa using hrun)) hbreaks,
      scanned_append.2 ⟨hfirst, hrest⟩⟩

end

def headLines (o : Options) (tag : String) : List Line :=
  if o.xml then [⟨.whole, o.xmlHeader.toList⟩]
  else if tag == "html" then [⟨.whole, o.doctypeLine.toList⟩]
  else []

def headTokens (o : Options) (tag : String) : List Token :=
  (headLines o tag).map fun l => ⟨.declaration, l.text, []⟩

/-- What is written before the root is one declaration, and the content of the root is safe. -/
structure SafeDocument (o : Options) (c : Content) : Prop where
  header : o.xml = true → IsInstruction o.xmlHeader.toList
  doctype : o.xml = false → ∀ w ∈ o.doctype, '>' ∉ w.toList
  content : c.Safe

theorem linesText_eq_dropFinalNewline (ls : List Line) :
    linesText ls = dropFinalNewline (ended ls) := by
  have hended (l : Line) (ls : List Line) : ended (l :: ls) = linesText (l :: ls) ++ ['\n'] := by
    induction ls generalizing l with
    | nil => simp [ended, linesText, joinLines]
    | cons l' ls ih =>
      rw [linesText_cons, followed_eq]
      simpa [ended, lead] using ih l'
  cases ls with
  | nil => rfl
  | cons l ls =>
    rw [hended, dropFinalNewline, List.getLast?_concat, if_pos rfl, List.dropLast_concat]

theorem documentText_broken (o : Options) (tag : String) (c : Content) :
    documentText o true tag c = linesText (headLines o tag ++ c.lines o.xml) := by
  rw [linesText_eq_dropFinalNewline, ended_append]
  unfold documentText headerText doctypeText headLines Content.printed
  cases o.xml with
  | true => simp [ended, lineEnd]
  | false =>
    by_cases ht : tag = "html"
    · simp [ht, ended, lineEnd]
    · simp [ht, ended]

theorem documentText_flat (o : Options) (tag : String) (c : Content) :
    documentText o false tag c = joined (headTokens o tag ++ c.tokens o.xml) := by
  rw [joined_append, Content.joined_tokens]
  unfold documentText headerText doctypeText headTokens headLines Content.printed
  cases o.xml with
  | true => simp [joined, lineEnd]
  | false =>
    by_cases ht : tag = "html"
    · simp [ht, joined, lineEnd]
    · simp [ht, joined]

theorem layout_headTokens (o : Options) (tag : String) (ts : List Token) :
    layout (headTokens o tag ++ ts) = headLines o tag ++ layout ts := by
  have hdecl (l : Line) (hl : l.kind = .whole) :
      layout (⟨.declaration, l.text, []⟩ :: ts) = l :: layout ts := by
    rw [layout_alone (by simp) (by simp)]
    cases l
    subst hl
    rfl
  unfold headTokens headLines
  split
  · exact hdecl _ rfl
  · split
    · exact hdecl _ rfl
    · rfl

theorem SafeDocument.scanned_headTokens {o : Options} {c : Content} (h : SafeDocument o c)
    (tag : String) (r : List Char) : Scanned o.xml (headTokens o tag) r := by
  unfold headTokens headLines
  split
  · rename_i hx
    exact scanned_singleton (markupAt?_instruction (h.header hx) o.xml r)
  · rename_i hx
    split
    · exact scanned_singleton
        (markupAt?_doctype (h.doctype (Bool.not_eq_true _ ▸ hx)) o.xml r)
    · exact .nil

theorem SafeDocument.lines_flat {o : Options} {c : Content} (h : SafeDocument o c)
    (he : c.isElement = true) (tag : String) :
    Markup.lines o.xml (documentText o false tag c) = headLines o tag ++ c.lines o.xml := by
  have hscanned : Scanned o.xml (headTokens o tag ++ c.tokens o.xml) [] :=
    scanned_append.2 ⟨h.scanned_headTokens tag _, Content.scanned_tokens o.xml c h.content he []⟩
  have hcontent := Content.layout_tokens o.xml [] c
  rw [List.append_nil, layout_nil, List.append_nil] at hcontent
  rw [documentText_flat, Markup.lines, hscanned.tokens_eq, layout_headTokens, hcontent]

theorem SafeDocument.reformat_flat {o : Options} {c : Content} (h : SafeDocument o c)
    (he : c.isElement = true) (tag : String) :
    reformat o.xml (documentText o false tag c) = documentText o true tag c := by
  calc
    reformat o.xml (documentText o false tag c)
        = linesText (Markup.lines o.xml (documentText o false tag c)) := rfl
    _ = linesText (headLines o tag ++ c.lines o.xml) := by rw [h.lines_flat he]
    _ = documentText o true tag c := (documentText_broken o tag c).symm

/-- A document that can be rendered flat can be rendered in broken lines, and if its pieces are
safe, reformatting the flat text does the same as breaking lines by the tree. -/
theorem renderDocument_reformat {o : Options} {evaluate : Evaluator σ} {depth : Nat} {state : σ}
    {e : Element} {flat : List Char}
    (h : renderDocument o false evaluate depth state e = .ok flat) :
    ∃ c, (expand o evaluate depth e (Session.start state)).result = .ok c ∧
      flat = documentText o false e.tag c ∧
      (SafeDocument o c →
        renderDocument o true evaluate depth state e = .ok (reformat o.xml flat)) := by
  rw [renderDocument_eq, map_eq_ok_iff] at h
  obtain ⟨c, hc, hflat⟩ := h
  refine ⟨c, hc, hflat.symm, fun hs => ?_⟩
  have he := expand_isElement o evaluate depth e (Session.start state) c hc
  rw [renderDocument_eq, hc, ← hflat, hs.reformat_flat he e.tag]
  rfl

def samplePage : Element :=
  ⟨"html", [.text "a", .element "p" [.text ".b", .expression "n"], .element "br" []]⟩

def sampleContent : Content :=
  .element "html" []
    [.text ['a'], .element "p" [⟨"class", some "b"⟩] [.text ['7']], .element "br" [] []]

def sampleEvaluator : Evaluator Unit := fun _ s => (.ok (.text "7"), s)

theorem sampleContent_safe : sampleContent.Safe := by
  have hp : (Content.element "p" [⟨"class", some "b"⟩] [.text ['7']]).Safe :=
    .element (by decide) (List.forall_mem_singleton.2 ⟨by simp, by simp⟩)
      (List.forall_mem_singleton.2 (.text (by decide)))
  have hbr : (Content.element "br" [] []).Safe := .element (by decide) (by simp) (by simp)
  exact .element (by decide) (by simp) (by simpa using ⟨.text (by decide), hp, hbr⟩)

theorem renderDocument_reformat_sample :
    renderDocument {} true sampleEvaluator 2 () samplePage = .ok (reformat false
      "<!DOCTYPE html><html>a<p class=\"b\">7</p><br/></html>".toList) := by
  have hflat : renderDocument {} false sampleEvaluator 2 () samplePage =
      .ok "<!DOCTYPE html><html>a<p class=\"b\">7</p><br/></html>".toList := by cbv
  have hcontent : (expand {} sampleEvaluator 2 samplePage (Session.start ())).result =
      .ok sampleContent := by cbv
  obtain ⟨c, hc, _, h⟩ := renderDocument_reformat hflat
  obtain rfl : c = sampleContent := Except.ok.inj (hc.symm.trans hcontent)
  exact h ⟨by simp, fun _ => by simp, sampleContent_safe⟩

end ElementMarkup
