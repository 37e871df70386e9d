import ElementMarkup.Proofs.Markup.Reformat
import ElementMarkup.Proofs.Render.Content
import ElementMarkup.Proofs.Render.Course

/-!
# Flat and broken documents

Rendering in broken lines takes the same course as rendering flat: the tags are checked and the
expressions are evaluated in the same order, whatever the texts are. Both fail with the same error,
or both succeed and their texts differ in newlines only.
-/

set_option autoImplicit false

namespace ElementMarkup

open Markup

variable {σ : Type}

theorem ended_cons (l : Line) (ls : List Line) : ended (l :: ls) = l.text ++ '\n' :: ended ls := by
  simp [ended]

theorem withoutNewlines_cons_newline (cs : List Char) :
    withoutNewlines ('\n' :: cs) = withoutNewlines cs := rfl

theorem withoutNewlines_ended_singleton (l : Line) :
    withoutNewlines (ended [l]) = withoutNewlines l.text := by
  rw [ended_cons, withoutNewlines_append, withoutNewlines_cons_newline]
  exact List.append_nil _

theorem withoutNewlines_textLine (run : List Char) :
    withoutNewlines (ended (textLine run)) = withoutNewlines run := by
  obtain ⟨a, k, b, hs, ha, hk, hb⟩ := exists_kept run
  have hkept : withoutNewlines (a ++ (k ++ b)) = withoutNewlines k := by
    rw [withoutNewlines_append, withoutNewlines_append, ha.withoutNewlines_eq,
      hb.withoutNewlines_eq, List.nil_append, List.append_nil]
  rw [hs, textLine_eq ha hk hb, hkept]
  cases k with
  | nil => rfl
  | cons c k => exact withoutNewlines_ended_singleton _

theorem withoutNewlines_lineEnd (broken : Bool) : withoutNewlines (lineEnd broken) = [] := by
  cases broken <;> rfl

mutual

theorem Content.withoutNewlines_lines (xml : Bool) : ∀ c : Content,
    withoutNewlines (ended (c.lines xml)) = withoutNewlines (c.flat xml)
  | .text run => by
    rw [Content.lines, Content.flat, withoutNewlines_textLine]
  | .element tag attributes children => by
    have hrun := Content.withoutNewlines_runLines xml [] children
    rw [List.nil_append] at hrun
    rw [Content.lines, Content.flat]
    by_cases ha : closesAlone xml tag children = true
    · rw [if_pos ha, if_pos ha, withoutNewlines_ended_singleton]
    · rw [if_neg ha, if_neg ha]
      by_cases he : children.any Content.isElement = true
      · rw [if_pos he, ended_cons, ended_append, withoutNewlines_append,
          withoutNewlines_cons_newline, withoutNewlines_append, hrun,
          withoutNewlines_ended_singleton, withoutNewlines_append, withoutNewlines_append]
      · rw [if_neg he, withoutNewlines_ended_singleton]

theorem Content.withoutNewlines_runLines (xml : Bool) (run : List Char) : ∀ cs : List Content,
    withoutNewlines (ended (Content.runLines xml run cs)) =
      withoutNewlines (run ++ Content.flatAll xml cs)
  | [] => by
    rw [Content.runLines, Content.flatAll, withoutNewlines_textLine, List.append_nil]
  | .text more :: rest => by
    rw [Content.runLines, Content.flatAll, Content.flat,
      Content.withoutNewlines_runLines xml (run ++ more) rest, List.append_assoc]
  | .element tag attributes children :: rest => by
    have hfirst := Content.withoutNewlines_lines xml (.element tag attributes children)
    have hrest := Content.withoutNewlines_runLines xml [] rest
    rw [List.nil_append] at hrest
    rw [Content.runLines, Content.flatAll, ended_append, ended_append, withoutNewlines_append,
      withoutNewlines_append, withoutNewlines_textLine, hfirst, hrest, withoutNewlines_append,
      withoutNewlines_append]

end

theorem Content.lines_last (xml : Bool) {c : Content} (h : c.isElement = true) :
    ∃ ls kind s, c.lines xml = ls ++ [⟨kind, s ++ ['>']⟩] := by
  cases c with
  | text => simp [Content.isElement] at h
  | element tag attributes children =>
    rw [Content.lines]
    split
    · exact ⟨[], .whole, '<' :: tag.toList ++ attributesText attributes ++ ['/'],
        by simp [emptyTag]⟩
    · split
      · exact ⟨⟨.opening, openingTag tag (attributesText attributes)⟩ ::
          Content.runLines xml [] children, .closing, '<' :: '/' :: tag.toList, rfl⟩
      · exact ⟨[], .whole, openingTag tag (attributesText attributes) ++
          (Content.flatAll xml children ++ ('<' :: '/' :: tag.toList)), by simp [closingTag]⟩

theorem withoutNewlines_dropFinalNewline (cs : List Char) :
    withoutNewlines (dropFinalNewline cs) = withoutNewlines cs := by
  unfold dropFinalNewline
  split
  · rename_i h
    obtain ⟨s, rfl⟩ := List.getLast?_eq_some_iff.1 h
    rw [List.dropLast_concat, withoutNewlines_append]
    exact (List.append_nil _).symm
  · rfl

theorem withoutNewlines_headerText (o : Options) (broken : Bool) :
    withoutNewlines (headerText o broken) = withoutNewlines (headerText o false) := by
  unfold headerText
  split
  · rw [withoutNewlines_append, withoutNewlines_append, withoutNewlines_lineEnd,
      withoutNewlines_lineEnd]
  · rfl

theorem withoutNewlines_doctypeText (o : Options) (broken root : Bool) (tag : String) :
    withoutNewlines (doctypeText o broken root tag) =
      withoutNewlines (doctypeText o false root tag) := by
  unfold doctypeText
  split
  · rw [withoutNewlines_append, withoutNewlines_append, withoutNewlines_lineEnd,
      withoutNewlines_lineEnd]
  · rfl

theorem withoutNewlines_documentText (o : Options) (tag : String) (c : Content) :
    withoutNewlines (documentText o true tag c) = withoutNewlines (documentText o false tag c) := by
  have hprinted : withoutNewlines (c.printed o.xml true) =
      withoutNewlines (c.printed o.xml false) := c.withoutNewlines_lines o.xml
  unfold documentText
  dsimp only
  rw [if_pos rfl, if_neg Bool.false_ne_true, withoutNewlines_dropFinalNewline,
    withoutNewlines_append, withoutNewlines_append, withoutNewlines_append, withoutNewlines_append,
    hprinted, withoutNewlines_headerText o true, withoutNewlines_doctypeText o true]

theorem documentText_getLast? (o : Options) (tag : String) {c : Content} (h : c.isElement = true) :
    (documentText o true tag c).getLast? = some '>' := by
  obtain ⟨ls, kind, s, hs⟩ := Content.lines_last o.xml h
  have hended : ended (c.lines o.xml) = ended ls ++ (s ++ ['>']) ++ ['\n'] := by
    rw [hs, ended_append, ended_cons]
    simp [ended]
  unfold documentText Content.printed
  dsimp only
  rw [if_pos rfl, if_pos rfl, hended, ← List.append_assoc, ← List.append_assoc, dropFinalNewline,
    List.getLast?_concat, if_pos rfl, List.dropLast_concat, ← List.append_assoc,
    ← List.append_assoc, List.getLast?_concat]

/-- A tree is rendered flat and in broken lines with the same error, or to texts that differ in
newlines only, and the text in broken lines does not end with one. -/
theorem renderTree_agree (o : Options) (xml : Option Bool) (evaluate : Evaluator σ) (depth : Nat)
    (state : σ) (tree : Datum) :
    Agree (fun pretty flat => withoutNewlines pretty = withoutNewlines flat ∧
        pretty.getLast? ≠ some '\n')
      (renderTree o xml true evaluate depth state tree)
      (renderTree o xml false evaluate depth state tree) := by
  unfold renderTree
  cases rootOf tree with
  | error e => exact .error e
  | ok e =>
    change Agree _ (renderDocument _ true evaluate depth state e)
      (renderDocument _ false evaluate depth state e)
    rw [renderDocument_eq, renderDocument_eq]
    refine (Agree.refl _).map fun c c' hc hcc => ?_
    obtain rfl : c = c' := hcc
    have he := expand_isElement (o.withMode xml) evaluate depth e (Session.start state) c hc
    refine ⟨withoutNewlines_documentText _ _ _, ?_⟩
    rw [documentText_getLast? _ _ he]
    decide

end ElementMarkup
