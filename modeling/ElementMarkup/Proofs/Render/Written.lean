import ElementMarkup.Proofs.Markup.Extent
import ElementMarkup.Proofs.Render.Content
import ElementMarkup.Proofs.Text.Trim

/-!
# Reading written tags

The tags and declarations that rendering writes are markup, with the name and the kind that they
were written with, if their pieces keep to the characters that can stand in them.
-/

set_option autoImplicit false

namespace ElementMarkup

open Markup

def SafeTag (tag : String) : Prop := tag.toList ≠ [] ∧ ∀ c ∈ tag.toList, isNameChar c = true

instance (tag : String) : Decidable (SafeTag tag) :=
  decidable_of_iff (tag.toList ≠ [] ∧ tag.toList.all isNameChar = true) (by simp [SafeTag])

structure ShownAttribute.Safe (a : ShownAttribute) : Prop where
  name : ∀ c ∈ a.name.toList, c ≠ '>' ∧ c ≠ '/' ∧ c ≠ '"' ∧ c ≠ '\''
  value : ∀ v ∈ a.value, '"' ∉ v.toList

/-- A processing instruction that ends where its end mark first stands. -/
def IsInstruction (text : List Char) : Prop :=
  ∃ body, text = startInstruction ++ (body ++ endInstruction) ∧ ¬ endInstruction <:+: body ++ ['?']

theorem tagBody?_attribute {a : ShownAttribute} (ha : a.Safe) {cs b r : List Char}
    (h : tagBody? none cs = some (b, r)) :
    tagBody? none (a.text ++ cs) = some (a.text ++ b, r) := by
  obtain ⟨name, value⟩ := a
  have hname : ∀ c ∈ ' ' :: name.toList, c ≠ '>' ∧ c ≠ '"' ∧ c ≠ '\'' := by
    rw [List.forall_mem_cons]
    refine ⟨by decide, fun c hc => ?_⟩
    obtain ⟨hgt, _, hdq, hsq⟩ := ha.name c hc
    exact ⟨hgt, hdq, hsq⟩
  cases value with
  | none => exact tagBody?_plain hname h
  | some v =>
    have hquoted : tagBody? none ('=' :: '"' :: (v.toList ++ '"' :: cs)) =
        some ('=' :: '"' :: (v.toList ++ '"' :: b), r) := by
      simp [tagBody?, tagBody?_quoted (ha.value v rfl) h]
    have hall := tagBody?_plain hname hquoted
    simpa [ShownAttribute.text] using hall

theorem tagBody?_attributes {as : List ShownAttribute} (ha : ∀ a ∈ as, a.Safe)
    {cs b r : List Char} (h : tagBody? none cs = some (b, r)) :
    tagBody? none (attributesText as ++ cs) = some (attributesText as ++ b, r) := by
  induction as with
  | nil => exact h
  | cons a as ih =>
    rw [List.forall_mem_cons] at ha
    have hrest := tagBody?_attribute ha.1 (ih ha.2)
    simpa [attributesText] using hrest

theorem attributesText_head (as : List ShownAttribute) (rest : List Char) :
    (attributesText as ++ rest).head? = some ' ' ∨ as = [] := by
  cases as with
  | nil => exact .inr rfl
  | cons a as =>
    left
    obtain ⟨name, value⟩ := a
    cases value <;> rfl

theorem ShownAttribute.text_last {a : ShownAttribute} (ha : a.Safe) :
    (a.text.reverse.find? fun c => !Text.isBlank c) ≠ some '/' := by
  obtain ⟨name, value⟩ := a
  intro h
  cases value with
  | none =>
    have hm := List.mem_reverse.1 (List.mem_of_find?_eq_some h)
    rcases List.mem_cons.1 hm with hm | hm
    · exact absurd hm (by decide)
    · exact (ha.name '/' hm).2.1 rfl
  | some v =>
    have hlast : ∃ s, ShownAttribute.text ⟨name, some v⟩ = s ++ ['"'] :=
      ⟨' ' :: (name.toList ++ '=' :: '"' :: v.toList), by simp [ShownAttribute.text]⟩
    obtain ⟨s, hs⟩ := hlast
    rw [hs, List.reverse_append, List.reverse_singleton, List.singleton_append,
      List.find?_cons_of_pos (by decide)] at h
    exact absurd h (by decide)

/-- The last character of attributes that is no blank is no slash: it belongs to a name or closes
a value. -/
theorem attributesText_last {as : List ShownAttribute} (ha : ∀ a ∈ as, a.Safe) :
    (Text.dropTrailing Text.isBlank (attributesText as)).getLast? ≠ some '/' := by
  rw [Text.dropTrailing_getLast?]
  induction as with
  | nil => simp [attributesText]
  | cons a as ih =>
    rw [List.forall_mem_cons] at ha
    have hcons : attributesText (a :: as) = a.text ++ attributesText as := by simp [attributesText]
    rw [hcons, List.reverse_append, List.find?_append]
    intro h
    rcases Option.or_eq_some_iff.1 h with h | ⟨_, h⟩
    · exact ih ha.2 h
    · exact ShownAttribute.text_last ha.1 h

theorem SafeTag.head {tag : String} (h : SafeTag tag) : ∃ c n, tag.toList = c :: n ∧
    isNameChar c = true := by
  obtain ⟨c, n, hn⟩ := List.exists_cons_of_ne_nil h.1
  exact ⟨c, n, hn, h.2 c (by rw [hn]; exact List.mem_cons_self)⟩

theorem named?_tag {tag : String} (ht : SafeTag tag) {b r : List Char}
    (hb : ∀ c ∈ (b ++ ['>']).head?, isNameChar c = false)
    (h : tagBody? none (b ++ '>' :: r) = some (b, r)) :
    named? (tag.toList ++ b ++ '>' :: r) = some (tag.toList, b, r) :=
  named?_of_body ht.1 ht.2 hb h

theorem declaration?_of_head {c : Char} (h : c ≠ '!' ∧ c ≠ '?') (cs : List Char) :
    declaration? ('<' :: c :: cs) = none := by
  simp [declaration?, between?, startComment, startDeclaration, startInstruction,
    List.isPrefixOf, Ne.symm h.1, Ne.symm h.2]

theorem markupAt?_tag {tag : String} (ht : SafeTag tag) {as : List ShownAttribute}
    (ha : ∀ a ∈ as, a.Safe) (xml : Bool) {tail : List Char} (htail : tail = [] ∨ tail = ['/'])
    (r : List Char) :
    markupAt? xml ('<' :: tag.toList ++ (attributesText as ++ tail) ++ ['>'] ++ r) =
      some (⟨if closesItself xml tag.toList (attributesText as ++ tail) then .empty else .opening,
        '<' :: tag.toList ++ (attributesText as ++ tail) ++ ['>'], tag.toList⟩, r) := by
  have htailbody : tagBody? none (tail ++ '>' :: r) = some (tail, r) := by
    rcases htail with rfl | rfl
    · rfl
    · rfl
  have hbody : tagBody? none (attributesText as ++ tail ++ '>' :: r) =
      some (attributesText as ++ tail, r) := by
    rw [List.append_assoc]
    exact tagBody?_attributes ha htailbody
  have hhead : ∀ c ∈ (attributesText as ++ tail ++ ['>']).head?, isNameChar c = false := by
    intro c hc
    rw [List.append_assoc] at hc
    rcases attributesText_head as (tail ++ ['>']) with h | rfl
    · rw [h] at hc
      obtain rfl : ' ' = c := Option.some.inj hc
      decide
    · rcases htail with rfl | rfl
      · obtain rfl : '>' = c := Option.some.inj hc
        decide
      · obtain rfl : '/' = c := Option.some.inj hc
        decide
  have hnamed := named?_tag ht hhead hbody
  obtain ⟨c, n, hn, hc⟩ := ht.head
  refine markupAt?_eq_some_iff.2
    (.inr ⟨?_, tag?_eq_some_iff.2 (.inr ⟨_, tag.toList, _, ?_, hnamed, rfl⟩)⟩)
  · rw [hn]
    refine declaration?_of_head ⟨?_, ?_⟩ _
    · rintro rfl
      exact absurd hc (by decide)
    · rintro rfl
      exact absurd hc (by decide)
  · simp

theorem markupAt?_emptyTag {tag : String} (ht : SafeTag tag) {as : List ShownAttribute}
    (ha : ∀ a ∈ as, a.Safe) (xml : Bool) (r : List Char) :
    markupAt? xml (emptyTag tag (attributesText as) ++ r) =
      some (⟨.empty, emptyTag tag (attributesText as), tag.toList⟩, r) := by
  have htext : emptyTag tag (attributesText as) =
      '<' :: tag.toList ++ (attributesText as ++ ['/']) ++ ['>'] := by
    simp [emptyTag]
  have hcloses : closesItself xml tag.toList (attributesText as ++ ['/']) = true := by
    rw [closesItself, Text.dropTrailing_getLast?, List.reverse_append]
    rfl
  have h := markupAt?_tag ht ha xml (.inr rfl) r
  rwa [hcloses, if_pos rfl, ← htext] at h

theorem markupAt?_openingTag {tag : String} (ht : SafeTag tag) {as : List ShownAttribute}
    (ha : ∀ a ∈ as, a.Safe) {xml : Bool} (hvoid : xml = false → isVoidTag tag = false)
    (r : List Char) :
    markupAt? xml (openingTag tag (attributesText as) ++ r) =
      some (⟨.opening, openingTag tag (attributesText as), tag.toList⟩, r) := by
  have hcloses : closesItself xml tag.toList (attributesText as) = false := by
    have hlast := attributesText_last ha
    rw [closesItself, String.ofList_toList]
    cases xml with
    | true => simpa using hlast
    | false => simpa [hvoid rfl] using hlast
  have h := markupAt?_tag ht ha xml (.inl rfl) r
  rw [List.append_nil, hcloses] at h
  exact h

theorem markupAt?_closingTag {tag : String} (ht : SafeTag tag) (xml : Bool) (r : List Char) :
    markupAt? xml (closingTag tag ++ r) = some (⟨.closing, closingTag tag, tag.toList⟩, r) := by
  have hhead : ∀ c ∈ ([] ++ ['>']).head?, isNameChar c = false := by
    intro c hc
    obtain rfl : '>' = c := Option.some.inj hc
    decide
  have hnamed : named? (tag.toList ++ [] ++ '>' :: r) = some (tag.toList, [], r) :=
    named?_tag ht hhead rfl
  have htag : tag? xml (closingTag tag ++ r) = some (⟨.closing, closingTag tag, tag.toList⟩, r) :=
    tag?_eq_some_iff.2
      (.inl ⟨_, tag.toList, [], by simp [closingTag], hnamed, by simp [closingTag]⟩)
  exact markupAt?_eq_some_iff.2 (.inr ⟨declaration?_of_head (by decide) _, htag⟩)

theorem markupAt?_instruction {text : List Char} (h : IsInstruction text) (xml : Bool)
    (r : List Char) : markupAt? xml (text ++ r) = some (⟨.declaration, text, []⟩, r) := by
  obtain ⟨body, rfl, hb⟩ := h
  have hsplit : splitBehind? endInstruction (body ++ (endInstruction ++ r)) =
      some (body ++ endInstruction, r) := splitBehind?_first (by decide) hb r
  have hdecl : declaration? (startInstruction ++ (body ++ endInstruction) ++ r) =
      some (startInstruction ++ (body ++ endInstruction), r) := by
    rw [List.append_assoc, List.append_assoc]
    simp [declaration?, between?, startComment, startDeclaration, startInstruction, hsplit]
  exact markupAt?_eq_some_iff.2 (.inl ⟨_, hdecl, rfl⟩)

theorem not_mem_intercalate {c : Char} {sep : String} {ws : List String} (hs : c ∉ sep.toList)
    (hw : ∀ w ∈ ws, c ∉ w.toList) : c ∉ (sep.intercalate ws).toList := by
  induction ws with
  | nil => simp
  | cons w ws ih =>
    rw [List.forall_mem_cons] at hw
    cases ws with
    | nil => simpa using hw.1
    | cons w' ws =>
      rw [String.intercalate_cons_cons, String.toList_append, String.toList_append, List.mem_append,
        List.mem_append, not_or, not_or]
      exact ⟨⟨hw.1, hs⟩, ih hw.2⟩

theorem markupAt?_doctype {o : Options} (h : ∀ w ∈ o.doctype, '>' ∉ w.toList) (xml : Bool)
    (r : List Char) : markupAt? xml (o.doctypeLine.toList ++ r) =
      some (⟨.declaration, o.doctypeLine.toList, []⟩, r) := by
  have hwords : '>' ∉ 'D' :: ("OCTYPE ".toList ++ (" ".intercalate o.doctype).toList) := by
    rw [List.mem_cons, List.mem_append, not_or, not_or]
    exact ⟨by decide, by decide, not_mem_intercalate (by decide) h⟩
  have hline : o.doctypeLine.toList = startDeclaration ++
      ('D' :: ("OCTYPE ".toList ++ (" ".intercalate o.doctype).toList) ++ ['>']) := by
    simp [Options.doctypeLine, startDeclaration]
  generalize "OCTYPE ".toList ++ (" ".intercalate o.doctype).toList = body at hwords hline
  have hsplit : splitBehind? ['>'] ('D' :: body ++ (['>'] ++ r)) = some ('D' :: body ++ ['>'], r) :=
    splitBehind?_first (by decide) (fun hi => hwords (by simpa using hi.subset)) r
  have hdecl : declaration? (o.doctypeLine.toList ++ r) = some (o.doctypeLine.toList, r) := by
    rw [hline, List.append_assoc, List.append_assoc]
    simp only [List.cons_append, List.nil_append] at hsplit
    simp [declaration?, between?, startComment, startDeclaration, hsplit]
  exact markupAt?_eq_some_iff.2 (.inl ⟨_, hdecl, rfl⟩)

end ElementMarkup
