import ElementMarkup.Proofs.Markup.Partition

/-!
# The pattern of markup

Which texts are markup is said here without a scanner: comments, declarations, instructions and
tags, each by what stands between its ends. Markup is found at a place if and only if some text of
the pattern stands there, so a text between markup is a stretch in which none begins.
-/

set_option autoImplicit false

namespace ElementMarkup.Markup

/-- What stands between the name of a tag and its `>`: quoted texts, and characters that neither
end the tag nor open a quote. -/
inductive TagBody : List Char → Prop where
  | nil : TagBody []
  | plain {c : Char} {b : List Char} (hc : c ≠ '>' ∧ c ≠ '"' ∧ c ≠ '\'') (rest : TagBody b) :
      TagBody (c :: b)
  | quoted {q : Char} {v b : List Char} (hq : q = '"' ∨ q = '\'') (hv : q ∉ v)
      (rest : TagBody b) : TagBody (q :: (v ++ q :: b))

structure Named (n b : List Char) : Prop where
  nonempty : n ≠ []
  chars : ∀ c ∈ n, isNameChar c = true
  body : TagBody b

inductive Pattern : List Char → Prop where
  | comment (body : List Char) : Pattern (startComment ++ (body ++ endComment))
  | declaration {body : List Char} (h : '>' ∉ body) : Pattern (startDeclaration ++ (body ++ ['>']))
  | instruction (body : List Char) : Pattern (startInstruction ++ (body ++ endInstruction))
  | opening {n b : List Char} (h : Named n b) : Pattern ('<' :: (n ++ b ++ ['>']))
  | closing {n b : List Char} (h : Named n b) : Pattern ('<' :: '/' :: (n ++ b ++ ['>']))

/-- Markup starts a text. -/
def StartsMarkup (cs : List Char) : Prop := ∃ m r, cs = m ++ r ∧ Pattern m

def TagBody.Within : Option Char → List Char → Prop
  | none, b => TagBody b
  | some q, b => ∃ v b', b = v ++ q :: b' ∧ q ∉ v ∧ TagBody b'

theorem within_of_tagBody? {quote : Option Char} {cs b r : List Char}
    (h : tagBody? quote cs = some (b, r)) : TagBody.Within quote b := by
  induction cs generalizing quote b with
  | nil => simp [tagBody?] at h
  | cons c cs ih =>
    rcases tagBody?_cons_eq_some_iff.1 h with ⟨⟨rfl, _⟩, rfl, _⟩ | ⟨hend, b', rfl, hx⟩
    · exact .nil
    have hrest := ih hx
    cases quote with
    | some q =>
      by_cases hc : c = q
      · rw [quoteBehind, if_pos hc] at hrest
        exact ⟨[], b', by rw [hc]; rfl, List.not_mem_nil, hrest⟩
      · rw [quoteBehind, if_neg hc] at hrest
        obtain ⟨v, b'', rfl, hv, hb⟩ := hrest
        exact ⟨c :: v, b'', rfl, List.not_mem_cons_of_ne_of_not_mem (Ne.symm hc) hv, hb⟩
    | none =>
      by_cases hq : c = '"' ∨ c = '\''
      · rw [quoteBehind, if_pos hq] at hrest
        obtain ⟨v, b'', rfl, hv, hb⟩ := hrest
        exact .quoted hq hv hb
      · rw [quoteBehind, if_neg hq] at hrest
        exact .plain ⟨fun hgt => hend ⟨rfl, hgt⟩, not_or.1 hq⟩ hrest

theorem TagBody.tagBody?_eq {b : List Char} (h : TagBody b) (r : List Char) :
    tagBody? none (b ++ '>' :: r) = some (b, r) := by
  induction h with
  | nil => rfl
  | @plain c b hc _ ih => exact tagBody?_plain (s := [c]) (by simpa using hc) ih
  | @quoted q v b hq hv _ ih =>
    have hgt : q ≠ '>' := by rcases hq with rfl | rfl <;> decide
    rw [List.cons_append, tagBody?, if_neg (by simpa using hgt), if_pos (by simpa using hq),
      List.append_assoc, List.cons_append, tagBody?_quoted hv ih]
    rfl

theorem nameAndBody?_sound {cs n b r : List Char} (h : nameAndBody? cs = some (n, b, r)) :
    (∀ c ∈ n, isNameChar c = true) ∧ TagBody b := by
  induction cs generalizing n with
  | nil => simp [nameAndBody?] at h
  | cons c cs ih =>
    rcases nameAndBody?_cons_eq_some_iff.1 h with ⟨hc, n', rfl, hx⟩ | ⟨_, rfl, hx⟩
    · exact ⟨List.forall_mem_cons.2 ⟨hc, (ih hx).1⟩, (ih hx).2⟩
    · exact ⟨by simp, within_of_tagBody? hx⟩

theorem named?_sound {cs n b r : List Char} (h : named? cs = some (n, b, r)) : Named n b := by
  obtain ⟨c, cs', n', rfl, rfl, hc, hx⟩ := named?_eq_some_iff.1 h
  obtain ⟨hn, hb⟩ := nameAndBody?_sound hx
  exact ⟨List.cons_ne_nil c n', List.forall_mem_cons.2 ⟨hc, hn⟩, hb⟩

theorem nameAndBody?_ne_none {n b : List Char} (hn : ∀ c ∈ n, isNameChar c = true)
    (hb : TagBody b) (r : List Char) : nameAndBody? (n ++ b ++ '>' :: r) ≠ none := by
  induction n with
  | nil =>
    intro h
    have hbody := (NewlineEdit.tagBody?_of_nameAndBody? h).symm.trans (hb.tagBody?_eq r)
    cases hbody
  | cons c n ih =>
    rw [List.forall_mem_cons] at hn
    obtain ⟨⟨n', b', r'⟩, hx⟩ := Option.ne_none_iff_exists'.1 (ih hn.2)
    have hcons := nameAndBody?_cons_eq_some_iff.2 (.inl ⟨hn.1, n', rfl, hx⟩)
    exact Option.ne_none_iff_exists'.2 ⟨_, hcons⟩

/-- A tag is found where one stands, though its name may go further. -/
theorem Named.named?_ne_none {n b : List Char} (h : Named n b) (r : List Char) :
    named? (n ++ b ++ '>' :: r) ≠ none := by
  obtain ⟨c, n', rfl⟩ := List.exists_cons_of_ne_nil h.nonempty
  have hn := List.forall_mem_cons.1 h.chars
  rw [List.cons_append, List.cons_append, named?, if_pos hn.1, Ne, Option.map_eq_none_iff]
  exact nameAndBody?_ne_none hn.2 h.body r

theorem Named.head?_ne_slash {n b : List Char} (h : Named n b) (r : List Char) :
    (n ++ b ++ '>' :: r).head? ≠ some '/' := by
  obtain ⟨c, n', rfl⟩ := List.exists_cons_of_ne_nil h.nonempty
  have hc := (List.forall_mem_cons.1 h.chars).1
  intro he
  obtain rfl : c = '/' := Option.some.inj he
  exact absurd hc (by decide)

theorem splitBehind?_ne_none {mark : List Char} (hne : mark ≠ []) (body r : List Char) :
    splitBehind? mark (body ++ mark ++ r) ≠ none := by
  induction body with
  | nil =>
    rw [List.nil_append, splitBehind?_mark hne]
    exact Option.some_ne_none _
  | cons c body ih =>
    rw [List.cons_append, List.cons_append, splitBehind?]
    split
    · exact Option.some_ne_none _
    · rw [Ne, Option.map_eq_none_iff]
      exact ih

theorem splitBehind?_single {m : Char} {cs b r : List Char}
    (h : splitBehind? [m] cs = some (b, r)) : ∃ body, b = body ++ [m] ∧ m ∉ body := by
  induction cs generalizing b with
  | nil => simp [splitBehind?] at h
  | cons c cs ih =>
    rcases splitBehind?_cons_eq_some_iff.1 h with ⟨_, rfl, _⟩ | ⟨hp, b', rfl, hx⟩
    · exact ⟨[], rfl, List.not_mem_nil⟩
    · obtain ⟨body, rfl, hm⟩ := ih hx
      have hc : m ≠ c := by simpa using hp
      exact ⟨c :: body, rfl, List.not_mem_cons_of_ne_of_not_mem hc hm⟩

theorem between?_split {start mark cs b r : List Char} (h : between? start mark cs = some (b, r)) :
    ∃ b' r', b = start ++ b' ∧ splitBehind? mark (cs.drop start.length) = some (b', r') := by
  unfold between? at h
  split at h
  · obtain ⟨⟨b', r'⟩, hx, hxr⟩ := Option.map_eq_some_iff.1 h
    obtain ⟨rfl, rfl⟩ := Prod.mk.inj hxr
    exact ⟨b', r', rfl, hx⟩
  · cases h

theorem between?_ends {start mark cs b r : List Char} (h : between? start mark cs = some (b, r)) :
    ∃ body, b = start ++ (body ++ mark) := by
  obtain ⟨b', r', rfl, hx⟩ := between?_split h
  obtain ⟨body, rfl⟩ := (splitBehind?_eq_some hx).2
  exact ⟨body, rfl⟩

theorem between?_ne_none {start mark : List Char} (hne : mark ≠ []) (body r : List Char) :
    between? start mark (start ++ (body ++ mark) ++ r) ≠ none := by
  have hp : start.isPrefixOf (start ++ (body ++ mark) ++ r) = true := by
    rw [List.isPrefixOf_iff_prefix, List.append_assoc]
    exact List.prefix_append _ _
  rw [between?, if_pos hp, Ne, Option.map_eq_none_iff, List.append_assoc, List.drop_left]
  exact splitBehind?_ne_none hne body r

theorem declaration?_eq_none_iff {cs : List Char} : declaration? cs = none ↔
    between? startComment endComment cs = none ∧ between? startDeclaration ['>'] cs = none ∧
      between? startInstruction endInstruction cs = none := by
  rw [declaration?, Option.or_eq_none_iff, Option.or_eq_none_iff]

theorem declaration?_pattern {cs b r : List Char} (h : declaration? cs = some (b, r)) :
    Pattern b := by
  unfold declaration? at h
  rcases Option.or_eq_some_iff.1 h with h | ⟨_, h⟩
  · obtain ⟨body, rfl⟩ := between?_ends h
    exact .comment body
  rcases Option.or_eq_some_iff.1 h with h | ⟨_, h⟩
  · obtain ⟨b', r', rfl, hx⟩ := between?_split h
    obtain ⟨body, rfl, hbody⟩ := splitBehind?_single hx
    exact .declaration hbody
  · obtain ⟨body, rfl⟩ := between?_ends h
    exact .instruction body

variable {xml : Bool}

theorem tag?_pattern {cs r : List Char} {t : Token} (h : tag? xml cs = some (t, r)) :
    Pattern t.text := by
  rcases tag?_eq_some_iff.1 h with ⟨_, n, b, _, hx, rfl⟩ | ⟨_, n, b, _, hx, rfl⟩
  · exact .closing (named?_sound hx)
  · exact .opening (named?_sound hx)

theorem markupAt?_pattern {cs r : List Char} {t : Token} (h : markupAt? xml cs = some (t, r)) :
    Pattern t.text := by
  rcases markupAt?_eq_some_iff.1 h with ⟨text, hd, rfl⟩ | ⟨_, ht⟩
  · exact declaration?_pattern hd
  · exact tag?_pattern ht

theorem Pattern.markupAt?_ne_none {m : List Char} (h : Pattern m) (r : List Char) :
    markupAt? xml (m ++ r) ≠ none := by
  rw [Ne, markupAt?_eq_none_iff, declaration?_eq_none_iff]
  rintro ⟨⟨hc, hd, hi⟩, ht⟩
  cases h with
  | comment body => exact between?_ne_none (by decide) body r hc
  | declaration _ => exact between?_ne_none (by decide) _ r hd
  | instruction body => exact between?_ne_none (by decide) body r hi
  | opening h =>
    rw [List.cons_append, List.append_assoc, List.cons_append, List.nil_append,
      tag?_name xml (h.head?_ne_slash r), Option.map_eq_none_iff] at ht
    exact h.named?_ne_none r ht
  | closing h =>
    rw [List.cons_append, List.cons_append, List.append_assoc, List.cons_append, List.nil_append,
      tag?_slash, Option.map_eq_none_iff] at ht
    exact h.named?_ne_none r ht

/-- Markup is found where some text of the pattern stands, and only there. -/
theorem markupAt?_ne_none_iff {cs : List Char} : markupAt? xml cs ≠ none ↔ StartsMarkup cs := by
  constructor
  · intro h
    obtain ⟨⟨t, r⟩, hx⟩ := Option.ne_none_iff_exists'.1 h
    exact ⟨t.text, r, (markupAt?_eq_some hx).1, markupAt?_pattern hx⟩
  · rintro ⟨m, r, rfl, hm⟩
    exact hm.markupAt?_ne_none r

theorem Plain.not_starts {a b r : List Char} (h : Plain xml (a ++ b) r) (hb : b ≠ []) :
    ¬ StartsMarkup (b ++ r) := by
  obtain ⟨c, b, rfl⟩ := List.exists_cons_of_ne_nil hb
  have hnone : markupAt? xml (c :: (b ++ r)) = none := (plain_append.1 h).2.1
  exact fun hs => markupAt?_ne_none_iff.2 hs hnone

theorem Scanned.pattern {t : Token} {ts : List Token} {r : List Char}
    (h : Scanned xml (t :: ts) r) (ht : t.kind ≠ .text) : Pattern t.text := by
  cases h with
  | markup h _ => exact markupAt?_pattern h
  | text _ _ _ _ => exact absurd rfl ht

theorem Scanned.ne_nil {t : Token} {ts : List Token} {r : List Char} (h : Scanned xml (t :: ts) r)
    (ht : t.kind = .text) : t.text ≠ [] := by
  cases h with
  | markup h _ => exact absurd ht (markupAt?_eq_some h).2.2.2
  | text hs _ _ _ => exact hs

theorem Scanned.not_text_behind {t : Token} {ts : List Token} (h : Scanned xml (t :: ts) [])
    (ht : t.kind = .text) : ∀ u ∈ ts.head?, u.kind ≠ .text := by
  obtain ⟨_, ends, rest⟩ := h.of_text ht
  cases ts with
  | nil => exact fun u hu => nomatch hu
  | cons u us =>
    intro v hv
    obtain rfl := Option.some.inj hv
    exact rest.not_text_of_breaks ends

/-- The tokens of a markup text spell it. A text among them is not empty, no text follows it, and
markup starts at none of its places; every other token is a text of the pattern of markup, from its
`<` to its `>`. -/
theorem tokens_partition (xml : Bool) (markup : List Char) :
    joined (tokens xml markup) = markup ∧
      ∀ before t after, tokens xml markup = before ++ t :: after →
        (t.kind = .text → t.text ≠ [] ∧ (∀ u ∈ after.head?, u.kind ≠ .text) ∧
          ∀ a b, t.text = a ++ b → b ≠ [] → ¬ StartsMarkup (b ++ joined after)) ∧
        (t.kind ≠ .text → ['<'] <+: t.text ∧ ['>'] <:+ t.text ∧ Pattern t.text) := by
  refine ⟨joined_tokens markup, fun before t after hts => ?_⟩
  have hscan : Scanned xml (t :: after) [] := by
    have h : Scanned xml (tokens xml markup) [] := scanned_tokens markup
    rw [hts] at h
    exact (scanned_append.1 h).2
  constructor
  · intro ht
    refine ⟨hscan.ne_nil ht, hscan.not_text_behind ht, fun a b hab hb => ?_⟩
    have hplain := (hscan.of_text ht).1
    rw [hab, List.append_nil] at hplain
    exact hplain.not_starts hb
  · intro ht
    obtain ⟨hstart, hend⟩ := hscan.markup_ends List.mem_cons_self ht
    exact ⟨hstart, hend, hscan.pattern ht⟩

end ElementMarkup.Markup
