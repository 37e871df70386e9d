import ElementMarkup.Proofs.Render.Step
import ElementMarkup.Proofs.Tree.Writable
import ElementMarkup.Render.Renderer
import Mathlib.Data.List.Basic

/-!
# Runs of text among children

Texts, numbers and words that stand next to each other are written as one text. Children are
therefore a text in front of the first element, and elements with a text behind each of them; an
element with children is written from these texts alone, however they are cut into children.
-/

set_option autoImplicit false

namespace ElementMarkup

variable {σ : Type}

def Value.runText (v : Value) : List Char := (v.text?.getD "").toList

def joinedText (vs : List Value) : List Char := vs.flatMap Value.runText

/-- Every longest run of children that are no elements becomes one text. -/
def joinRuns : List Value → List Value
  | [] => []
  | .element e :: rest => .element e :: joinRuns rest
  | v :: rest =>
    .text (String.ofList (joinedText (v :: rest.takeWhile (!·.isElement)))) ::
      joinRuns (rest.dropWhile (!·.isElement))
termination_by vs => vs.length
decreasing_by
  · simp
  · have hle := (List.dropWhile_suffix (l := rest) (!·.isElement)).length_le
    simp only [List.length_cons]
    omega

/-- The text before the first element, and the elements with the text behind each of them. Where no
child stands, the text is empty. -/
structure Runs where
  leading : List Char
  elements : List (Element × List Char)

def Runs.push (text : List Char) (r : Runs) : Runs := ⟨text ++ r.leading, r.elements⟩

def runsOf : List Value → Runs
  | [] => ⟨[], []⟩
  | .element e :: rest => ⟨[], (e, (runsOf rest).leading) :: (runsOf rest).elements⟩
  | v :: rest => (runsOf rest).push v.runText

theorem runsOf_of_not_isElement {v : Value} (h : v.isElement = false) (rest : List Value) :
    runsOf (v :: rest) = (runsOf rest).push v.runText := by
  cases v with
  | element e => simp [Value.isElement] at h
  | text | number | word => rfl

theorem runsOf_run (vs : List Value) : runsOf vs =
    (runsOf (vs.dropWhile (!·.isElement))).push (joinedText (vs.takeWhile (!·.isElement))) := by
  induction vs with
  | nil => rfl
  | cons v vs ih =>
    by_cases hv : v.isElement = true
    · simp [hv, joinedText, Runs.push]
    · have hne : v.isElement = false := by simpa using hv
      rw [runsOf_of_not_isElement hne, ih]
      simp [hne, joinedText, Runs.push]

theorem runsOf_joinRuns (vs : List Value) : runsOf (joinRuns vs) = runsOf vs := by
  fun_induction joinRuns vs with
  | case1 => rfl
  | case2 e rest ih => simp only [runsOf, ih]
  | case3 v rest hv ih =>
    have hne : v.isElement = false := by
      cases v with
      | element e => exact absurd rfl (hv e)
      | text | number | word => rfl
    rw [runsOf_of_not_isElement rfl, ih, runsOf_of_not_isElement hne, runsOf_run rest]
    simp [Runs.push, joinedText, Value.runText, Value.text?]

theorem isEmpty_joinRuns (vs : List Value) : (joinRuns vs).isEmpty = vs.isEmpty := by
  fun_cases joinRuns vs <;> rfl

theorem any_isElement (vs : List Value) :
    vs.any Value.isElement = !(runsOf vs).elements.isEmpty := by
  induction vs with
  | nil => rfl
  | cons v vs ih =>
    cases v with
    | element e => rfl
    | text | number | word => simpa [Value.isElement, runsOf, Runs.push] using ih

def NumbersWritable (vs : List Value) : Prop := ∀ n, .number n ∈ vs → n.writable = true

theorem NumbersWritable.tail {v : Value} {vs : List Value} (h : NumbersWritable (v :: vs)) :
    NumbersWritable vs := fun n hn => h n (List.mem_cons_of_mem v hn)

theorem NumbersWritable.text? {v : Value} {vs : List Value} (h : NumbersWritable (v :: vs)) :
    (Step.ofText? v.text? : Step σ (List Char)) = pure v.runText := by
  cases v with
  | number n =>
    obtain ⟨t, ht⟩ := Number.exists_text (h n List.mem_cons_self)
    have hv : (Value.number n).text? = some t := ht
    rw [Value.runText, hv]
    rfl
  | text | word | element => rfl

theorem joinRuns_writable (vs : List Value) : NumbersWritable (joinRuns vs) := by
  intro n hn
  fun_induction joinRuns vs with
  | case1 => simp at hn
  | case2 e rest ih => exact ih (by simpa using hn)
  | case3 v rest hv ih => exact ih (by simpa using hn)

theorem Step.write_write (a b : List Char) :
    (Step.write a >>= fun _ => Step.write b : Step σ Unit) = Step.write (a ++ b) := rfl

def writeRuns (child : Element → Step σ Unit) (line : List Char → List Char) (run : List Char) :
    List (Element × List Char) → Step σ Unit
  | [] => Step.write (line run)
  | (e, behind) :: more => do
    Step.write (line run)
    child e
    writeRuns child line behind more

theorem write_writeRuns (child : Element → Step σ Unit) (a b : List Char)
    (es : List (Element × List Char)) :
    (Step.write a >>= fun _ => writeRuns child id b es) = writeRuns child id (a ++ b) es := by
  cases es with
  | nil => exact Step.write_write a b
  | cons p es =>
    simp only [writeRuns, id]
    rw [← bind_assoc, Step.write_write]

theorem writeFlat_eq (child : Element → Step σ Unit) {vs : List Value} (h : NumbersWritable vs) :
    writeFlat child vs = writeRuns child id (runsOf vs).leading (runsOf vs).elements := by
  induction vs with
  | nil => rfl
  | cons v vs ih =>
    have hrest := ih h.tail
    have htext := h.text? (σ := σ)
    cases v with
    | element e =>
      rw [writeFlat, hrest]
      rfl
    | text | number | word =>
      rw [writeFlat, htext, pure_bind, hrest, write_writeRuns]
      · rfl
      all_goals simp

theorem writeLines_eq (child : Element → Step σ Unit) {vs : List Value} (h : NumbersWritable vs)
    (run : List Char) : writeLines child run vs =
      writeRuns child runLine (run ++ (runsOf vs).leading) (runsOf vs).elements := by
  induction vs generalizing run with
  | nil => rw [writeLines, runsOf, writeRuns, List.append_nil]
  | cons v vs ih =>
    have htext := h.text? (σ := σ)
    cases v with
    | element e =>
      rw [writeLines, ih h.tail, runsOf, writeRuns, List.append_nil, List.nil_append]
    | text | number | word =>
      rw [writeLines, htext, pure_bind, ih h.tail, List.append_assoc]
      · rfl
      all_goals simp

/-- Children with the same elements and the same texts around them are written alike, if there are
children at all. -/
theorem writeElement_runs {vs ws : List Value} (hvs : NumbersWritable vs)
    (hws : NumbersWritable ws) (hempty : vs.isEmpty = ws.isEmpty) (h : runsOf vs = runsOf ws)
    (o : Options) (broken : Bool) (child : Element → Step σ Unit) (root : Bool) (tag : String)
    (attributes : List Attribute) : writeElement o broken child root tag attributes vs =
      writeElement o broken child root tag attributes ws := by
  have hany : vs.any Value.isElement = ws.any Value.isElement := by
    rw [any_isElement, any_isElement, h]
  have hpaired (attrs : List Char) :
      writePaired broken child tag attrs vs = writePaired broken child tag attrs ws := by
    unfold writePaired
    rw [hany, writeLines_eq child hvs, writeLines_eq child hws, writeFlat_eq child hvs,
      writeFlat_eq child hws, h]
  unfold writeElement
  simp only [hempty, hpaired]

namespace Renderer

/-- An element is written alike when each run of texts, numbers and words among its children is
joined to one text, and so from any two lists of children, both not empty, that have the same
elements and the same texts before, between and behind them. -/
theorem call_joinRuns (r : Renderer σ) (tag : String) (attributes : List Datum) (root : Bool)
    {vs : List Value} (hvs : ∀ n, .number n ∈ vs → n.writable = true) :
    r.call (.write tag attributes (joinRuns vs) root) =
        r.call (.write tag attributes vs root) ∧
      ∀ ws : List Value, (∀ n, .number n ∈ ws → n.writable = true) → vs ≠ [] → ws ≠ [] →
        runsOf vs = runsOf ws →
          r.call (.write tag attributes vs root) = r.call (.write tag attributes ws root) := by
  have alike {vs ws : List Value} (hvs : NumbersWritable vs) (hws : NumbersWritable ws)
      (hempty : vs.isEmpty = ws.isEmpty) (h : runsOf vs = runsOf ws) :
      r.call (.write tag attributes vs root) = r.call (.write tag attributes ws root) := by
    simp only [call]
    congr 1
    funext attrs
    exact writeElement_runs hvs hws hempty h _ _ _ _ _ _
  constructor
  · exact alike (joinRuns_writable vs) hvs (isEmpty_joinRuns vs) (runsOf_joinRuns vs)
  · intro ws hws hv hw h
    have hempty : vs.isEmpty = ws.isEmpty := by
      rw [List.isEmpty_eq_false_iff.2 hv, List.isEmpty_eq_false_iff.2 hw]
    exact alike hvs hws hempty h

def paragraphs : Renderer Unit := ⟨{}, true, fun _ s => (.ok .null, s), 2⟩

def cutChildren : List Value :=
  [.text "\n", .number (.int 3), .word "a\n", .element ⟨"p", [.text "x"]⟩, .text "b", .text "2"]

/-- The same elements and texts with other cuts, an empty text among them. -/
def recutChildren : List Value :=
  [.word "\n3", .text "", .text "a\n", .element ⟨"p", [.text "x"]⟩, .word "b2"]

theorem isWritable_three : isWritable 3 = true := by
  have hpow (n : Nat) (hn : 0 < n) : 10 ^ 1 ≤ Nat.pow 10 n := Nat.pow_le_pow_right (by decide) hn
  have hten : (3 : Int).natAbs < 10 ^ 1 := by decide
  exact decide_eq_true (Nat.lt_of_lt_of_le hten (hpow digitLimit (by decide)))

theorem call_joinRuns_recut :
    runsOf cutChildren = runsOf recutChildren ∧
      (paragraphs.call (.write "div" [] (joinRuns cutChildren) false) (Session.start ())).written =
        "<div>\n3a\n<p>x</p>\nb2\n</div>\n".toList ∧
      (paragraphs.call (.write "div" [] recutChildren false) (Session.start ())).written =
        "<div>\n3a\n<p>x</p>\nb2\n</div>\n".toList := by
  have hthree : (Value.number (.int 3)).runText = ['3'] := by
    simp [Value.runText, Value.text?, Number.text?, intText?, isWritable_three]
    rfl
  have hcut : ∀ n, .number n ∈ cutChildren → n.writable = true := by
    intro n hn
    obtain rfl : n = .int 3 := by simpa [cutChildren] using hn
    exact isWritable_three
  have hrecut : ∀ n, .number n ∈ recutChildren → n.writable = true := by
    intro n hn
    simp [recutChildren] at hn
  have hruns : runsOf cutChildren = runsOf recutChildren := by
    simp only [cutChildren, recutChildren, runsOf, hthree]
    rfl
  have hwritten : (paragraphs.call (.write "div" [] recutChildren false)
      (Session.start ())).written = "<div>\n3a\n<p>x</p>\nb2\n</div>\n".toList := by cbv
  obtain ⟨hjoined, hsame⟩ := paragraphs.call_joinRuns "div" [] false hcut
  have hother := hsame recutChildren hrecut (by simp [cutChildren]) (by simp [recutChildren]) hruns
  refine ⟨hruns, ?_, hwritten⟩
  rw [hjoined, hother]
  exact hwritten

end Renderer

end ElementMarkup
