import ElementMarkup.Proofs.Markup.Extent

/-!
# Token lists that markup partitions into

`Scanned xml ts r` says that `ts` are the tokens that stand before the text `r`: each tag and
declaration is the markup at its place, and each text is a stretch without markup that ends where
markup starts or at the end of everything. Scanning finds exactly these lists, so that the tokens
of a text are known as soon as some list is scanned and spells the text.
-/

set_option autoImplicit false

namespace ElementMarkup.Markup

def Token.isMarkup (t : Token) : Bool := t.kind != .text

def joined (ts : List Token) : List Char := ts.flatMap Token.text

theorem joined_cons (t : Token) (ts : List Token) : joined (t :: ts) = t.text ++ joined ts := by
  simp [joined]

theorem joined_append (ts us : List Token) : joined (ts ++ us) = joined ts ++ joined us := by
  simp [joined]

/-- No markup starts within the first text before the second one. -/
def Plain (xml : Bool) : List Char → List Char → Prop
  | [], _ => True
  | c :: cs, r => markupAt? xml (c :: (cs ++ r)) = none ∧ Plain xml cs r

/-- A text ends before this: markup starts here, or nothing is left. -/
def Breaks (xml : Bool) (r : List Char) : Prop := r = [] ∨ (markupAt? xml r).isSome = true

inductive Scanned (xml : Bool) : List Token → List Char → Prop where
  | nil {r : List Char} : Scanned xml [] r
  | markup {t : Token} {ts : List Token} {r : List Char}
      (h : markupAt? xml (t.text ++ (joined ts ++ r)) = some (t, joined ts ++ r))
      (rest : Scanned xml ts r) : Scanned xml (t :: ts) r
  | text {s : List Char} {ts : List Token} {r : List Char} (hs : s ≠ [])
      (plain : Plain xml s (joined ts ++ r)) (ends : Breaks xml (joined ts ++ r))
      (rest : Scanned xml ts r) : Scanned xml (⟨.text, s, []⟩ :: ts) r

variable {xml : Bool}

theorem markupAt?_of_head {cs : List Char} (h : ∀ c ∈ cs.head?, c ≠ '<') :
    markupAt? xml cs = none := by
  cases hm : markupAt? xml cs with
  | none => rfl
  | some x =>
    obtain ⟨t, r⟩ := x
    obtain ⟨rfl, ⟨s, hs⟩, _⟩ := markupAt?_eq_some hm
    rw [← hs] at h
    exact absurd rfl (h '<' rfl)

theorem plain_append {a b r : List Char} :
    Plain xml (a ++ b) r ↔ Plain xml a (b ++ r) ∧ Plain xml b r := by
  induction a with
  | nil => simp [Plain]
  | cons c a ih => simp [Plain, ih, and_assoc]

theorem plain_of_forall {s : List Char} (r : List Char) (h : '<' ∉ s) : Plain xml s r := by
  induction s with
  | nil => trivial
  | cons c s ih =>
    rw [List.mem_cons, not_or] at h
    refine ⟨markupAt?_of_head ?_, ih h.2⟩
    rintro d hd rfl
    exact h.1 (Option.some.inj hd).symm

theorem Newlines.plain {s : List Char} (h : Newlines s) (r : List Char) : Plain xml s r :=
  plain_of_forall r fun hm => absurd (h '<' hm) (by decide)

theorem Plain.edit {s r r' : List Char} (h : Plain xml s r) (hr : NewlineEdit r r') :
    Plain xml s r' := by
  induction s with
  | nil => trivial
  | cons c s ih =>
    refine ⟨?_, ih h.2⟩
    by_cases hc : c = '<'
    · subst c
      exact (hr.append_left s).markupAt?_none h.1
    · apply markupAt?_of_head
      rintro d hd rfl
      exact hc (Option.some.inj hd)

theorem scan_plain {s : List Char} (r : List Char) (h : Plain xml s r) (passed : List Char) :
    scan xml passed (s ++ r) = scan xml (s.reverse ++ passed) r := by
  induction s generalizing passed with
  | nil => rfl
  | cons c s ih =>
    rw [List.cons_append, scan]
    split
    · rename_i hm
      rw [h.1] at hm
      simp at hm
    · rw [ih h.2, List.reverse_cons, List.append_assoc]
      rfl

theorem scan_markup {cs r : List Char} {t : Token} (h : markupAt? xml cs = some (t, r))
    (passed : List Char) : scan xml passed cs = textToken passed ++ t :: scan xml [] r := by
  cases cs with
  | nil =>
    rw [markupAt?_of_head (by simp)] at h
    simp at h
  | cons c cs =>
    rw [scan]
    split
    · rename_i hm
      obtain ⟨rfl, rfl⟩ := Prod.mk.inj (Option.some.inj (h.symm.trans hm))
      rfl
    · rename_i hm
      rw [h] at hm
      simp at hm

theorem scan_nil (passed : List Char) : scan xml passed [] = textToken passed := by rw [scan]

theorem scan_of_breaks {r : List Char} (h : Breaks xml r) (passed : List Char) :
    scan xml passed r = textToken passed ++ scan xml [] r := by
  rcases h with rfl | h
  · rw [scan_nil, scan_nil]
    exact (List.append_nil _).symm
  · obtain ⟨⟨t, r'⟩, hm⟩ := Option.isSome_iff_exists.1 h
    rw [scan_markup hm, scan_markup hm]
    rfl

theorem textToken_reverse {s : List Char} (hs : s ≠ []) :
    textToken s.reverse = [⟨.text, s, []⟩] := by
  simp [textToken, hs]

theorem Scanned.scan_eq {ts : List Token} {r : List Char} (h : Scanned xml ts r) :
    scan xml [] (joined ts ++ r) = ts ++ scan xml [] r := by
  induction h with
  | nil => rfl
  | markup h _ ih =>
    rw [joined_cons, List.append_assoc, scan_markup h, ih]
    rfl
  | text hs plain ends _ ih =>
    rw [joined_cons, List.append_assoc, scan_plain _ plain, List.append_nil, scan_of_breaks ends,
      ih, textToken_reverse hs]
    rfl

theorem Scanned.tokens_eq {ts : List Token} (h : Scanned xml ts []) :
    tokens xml (joined ts) = ts := by
  have hs := h.scan_eq
  rw [List.append_nil] at hs
  rw [tokens, hs, scan_nil]
  exact List.append_nil ts

theorem scanned_append {ts us : List Token} {r : List Char} :
    Scanned xml (ts ++ us) r ↔ Scanned xml ts (joined us ++ r) ∧ Scanned xml us r := by
  have assoc (ts : List Token) : joined ts ++ (joined us ++ r) = joined (ts ++ us) ++ r := by
    rw [joined_append, List.append_assoc]
  induction ts with
  | nil => exact ⟨fun h => ⟨.nil, h⟩, fun h => h.2⟩
  | cons t ts ih =>
    rw [List.cons_append]
    constructor
    · intro h
      cases h with
      | markup h rest =>
        rw [← assoc] at h
        exact ⟨.markup h (ih.1 rest).1, (ih.1 rest).2⟩
      | text hs plain ends rest =>
        rw [← assoc] at plain ends
        exact ⟨.text hs plain ends (ih.1 rest).1, (ih.1 rest).2⟩
    · rintro ⟨h, hu⟩
      cases h with
      | markup h rest =>
        rw [assoc] at h
        exact .markup h (ih.2 ⟨rest, hu⟩)
      | text hs plain ends rest =>
        rw [assoc] at plain ends
        exact .text hs plain ends (ih.2 ⟨rest, hu⟩)

theorem Scanned.of_text {t : Token} {ts : List Token} {r : List Char}
    (h : Scanned xml (t :: ts) r) (ht : t.kind = .text) :
    Plain xml t.text (joined ts ++ r) ∧ Breaks xml (joined ts ++ r) ∧ Scanned xml ts r := by
  cases h with
  | markup h _ => exact absurd ht (markupAt?_eq_some h).2.2.2
  | text _ plain ends rest => exact ⟨plain, ends, rest⟩

theorem Scanned.breaks {t : Token} {ts : List Token} {r : List Char} (h : Scanned xml (t :: ts) r)
    (ht : t.kind ≠ .text) : Breaks xml (joined (t :: ts) ++ r) := by
  cases h with
  | markup h _ =>
    rw [joined_cons, List.append_assoc]
    exact .inr (Option.isSome_iff_exists.2 ⟨_, h⟩)
  | text _ _ _ _ => exact absurd rfl ht

theorem Scanned.not_text_of_breaks {t : Token} {ts : List Token} {r : List Char}
    (h : Scanned xml (t :: ts) r) (hb : Breaks xml (joined (t :: ts) ++ r)) : t.kind ≠ .text := by
  cases h with
  | markup h _ => exact (markupAt?_eq_some h).2.2.2
  | @text s _ _ hs plain _ _ =>
    cases s with
    | nil => exact absurd rfl hs
    | cons c s =>
      rw [joined_cons, List.append_assoc] at hb
      rcases hb with hb | hb
      · simp at hb
      · exact absurd hb (by rw [List.cons_append, plain.1]; simp)

theorem Scanned.markup_ends {ts : List Token} {r : List Char} (h : Scanned xml ts r) {t : Token}
    (hm : t ∈ ts) (ht : t.kind ≠ .text) : ['<'] <+: t.text ∧ ['>'] <:+ t.text := by
  induction h with
  | nil => simp at hm
  | markup h _ ih =>
    rcases List.mem_cons.1 hm with rfl | hm
    · exact ⟨(markupAt?_eq_some h).2.1, (markupAt?_eq_some h).2.2.1⟩
    · exact ih hm
  | text _ _ _ _ ih =>
    rcases List.mem_cons.1 hm with rfl | hm
    · exact absurd rfl ht
    · exact ih hm

theorem Scanned.edit {ts : List Token} {r r' : List Char} (h : Scanned xml ts r)
    (hr : NewlineEdit r r') (hl : ∀ t ∈ ts.getLast?, t.kind ≠ .text) : Scanned xml ts r' := by
  induction h with
  | nil => exact .nil
  | @markup t ts r h rest ih =>
    refine .markup (markupAt?_behind h (hr.append_left _)) (ih hr fun u hu => hl u ?_)
    rw [List.getLast?_cons, Option.mem_def.1 hu]
    rfl
  | @text s ts r hs plain ends rest ih =>
    cases ts with
    | nil => exact absurd rfl (hl _ rfl)
    | cons u us =>
      have rest' := ih hr fun v hv => hl v (by rw [List.getLast?_cons_cons]; exact hv)
      exact .text hs (plain.edit (hr.append_left _))
        (rest'.breaks (rest.not_text_of_breaks ends)) rest'

theorem joined_textToken (passed : List Char) : joined (textToken passed) = passed.reverse := by
  unfold textToken
  split
  · simp_all [joined]
  · simp [joined]

theorem joined_scan (passed cs : List Char) :
    joined (scan xml passed cs) = passed.reverse ++ cs := by
  fun_induction scan xml passed cs with
  | case1 passed => rw [joined_textToken, List.append_nil]
  | case2 passed c rest token after h ih =>
    rw [joined_append, joined_cons, joined_textToken, ih, (markupAt?_eq_some h).1]
    rfl
  | case3 passed c rest h ih =>
    rw [ih, List.reverse_cons, List.append_assoc]
    rfl

theorem scanned_textToken {passed r : List Char} (plain : Plain xml passed.reverse r)
    (ends : Breaks xml r) : Scanned xml (textToken passed) r := by
  cases passed with
  | nil => exact .nil
  | cons c passed =>
    have hs : (c :: passed).reverse ≠ [] := by simp
    exact .text hs plain ends .nil

/-- Scanning from a place with a text passed over that no markup starts in. -/
theorem scanned_scan {passed cs : List Char} (plain : Plain xml passed.reverse cs) :
    Scanned xml (scan xml passed cs) [] := by
  fun_induction scan xml passed cs with
  | case1 passed => exact scanned_textToken plain (.inl rfl)
  | case2 passed c rest token after h ih =>
    have hcs := (markupAt?_eq_some h).1
    have hj : joined (scan xml [] after) ++ [] = after := by
      rw [List.append_nil, joined_scan]
      rfl
    rw [scanned_append, joined_cons, List.append_assoc, hj, ← hcs]
    have ends : Breaks xml (c :: rest) := .inr (Option.isSome_iff_exists.2 ⟨_, h⟩)
    refine ⟨scanned_textToken plain ends, .markup ?_ (ih trivial)⟩
    rw [hj, ← hcs]
    exact h
  | case3 passed c rest h ih =>
    apply ih
    rw [List.reverse_cons, plain_append]
    exact ⟨plain, h, trivial⟩

theorem scanned_tokens (markup : List Char) : Scanned xml (tokens xml markup) [] :=
  scanned_scan trivial

theorem joined_tokens (markup : List Char) : joined (tokens xml markup) = markup :=
  joined_scan [] markup

end ElementMarkup.Markup
