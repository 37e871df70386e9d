import ElementMarkup.Proofs.Markup.NewlineEdit

/-!
# How far markup reaches

A tag or declaration is what stands at the start of the text, from its `<` to its `>`. It stays
the same when the newlines behind it are edited: its end is found before the edit begins, and the
longer readings that failed, a comment without an end or a name that runs into an open quote,
still fail.
-/

set_option autoImplicit false

namespace ElementMarkup.Markup

theorem splitBehind?_mark {mark r : List Char} (hne : mark ≠ []) :
    splitBehind? mark (mark ++ r) = some (mark, r) := by
  cases mark with
  | nil => exact absurd rfl hne
  | cons m mark =>
    have hp : (m :: mark).isPrefixOf (m :: mark ++ r) = true :=
      List.isPrefixOf_iff_prefix.2 (List.prefix_append _ _)
    rw [List.cons_append] at hp ⊢
    rw [splitBehind?, if_pos hp, ← List.cons_append, List.drop_left]

theorem splitBehind?_eq_some {mark cs b r : List Char} (h : splitBehind? mark cs = some (b, r)) :
    cs = b ++ r ∧ mark <:+ b := by
  induction cs generalizing b with
  | nil => simp [splitBehind?] at h
  | cons c cs ih =>
    rcases splitBehind?_cons_eq_some_iff.1 h with ⟨⟨r', hr⟩, rfl, rfl⟩ | ⟨_, b', rfl, hx⟩
    · rw [← hr, List.drop_left]
      exact ⟨rfl, List.suffix_refl _⟩
    · obtain ⟨rfl, hs⟩ := ih hx
      exact ⟨rfl, hs.trans (List.suffix_cons _ _)⟩

/-- The first mark stays the first one whatever comes behind it. -/
theorem splitBehind?_behind {mark cs b r : List Char} (hne : mark ≠ [])
    (h : splitBehind? mark cs = some (b, r)) (r' : List Char) :
    splitBehind? mark (b ++ r') = some (b, r') := by
  induction cs generalizing b with
  | nil => simp [splitBehind?] at h
  | cons c cs ih =>
    rcases splitBehind?_cons_eq_some_iff.1 h with ⟨_, rfl, _⟩ | ⟨hp, b', rfl, hx⟩
    · exact splitBehind?_mark hne
    · obtain ⟨rfl, hs⟩ := splitBehind?_eq_some hx
      have hlen := hs.length_le
      have hp' : ¬ mark <+: c :: (b' ++ r') := by
        intro hm
        have hb : mark <+: c :: b' :=
          List.prefix_of_prefix_length_le hm (List.prefix_append (c :: b') r')
            (Nat.le_succ_of_le hlen)
        exact hp (hb.trans (List.prefix_append (c :: b') r))
      exact splitBehind?_cons_eq_some_iff.2 (.inr ⟨hp', b', rfl, ih hx⟩)

theorem splitBehind?_first {mark body : List Char} (hne : mark ≠ [])
    (h : ¬ mark <:+: body ++ mark.dropLast) (r : List Char) :
    splitBehind? mark (body ++ (mark ++ r)) = some (body ++ mark, r) := by
  induction body with
  | nil => exact splitBehind?_mark hne
  | cons c body ih =>
    have hp : ¬ mark.isPrefixOf (c :: (body ++ (mark ++ r))) = true := by
      intro hm
      have hlen : mark.length ≤ (c :: body ++ mark.dropLast).length := by
        rw [List.length_append, List.length_dropLast, List.length_cons]
        omega
      have hpre : c :: body ++ mark.dropLast <+: c :: (body ++ (mark ++ r)) := by
        rw [← List.cons_append, List.prefix_append_right_inj]
        exact (List.dropLast_prefix mark).trans (List.prefix_append mark r)
      exact h (List.prefix_of_prefix_length_le (List.isPrefixOf_iff_prefix.1 hm) hpre hlen).isInfix
    have hrest : ¬ mark <:+: body ++ mark.dropLast := by
      intro hi
      exact h (List.infix_cons hi)
    rw [List.cons_append, splitBehind?, if_neg hp, ih hrest]
    rfl

theorem between?_eq_some {start mark cs b r : List Char}
    (h : between? start mark cs = some (b, r)) : cs = b ++ r ∧ start <+: b ∧ mark <:+ b := by
  unfold between? at h
  split at h
  · rename_i hp
    obtain ⟨cs', rfl⟩ := List.isPrefixOf_iff_prefix.1 hp
    obtain ⟨⟨b', r'⟩, hx, hxr⟩ := Option.map_eq_some_iff.1 h
    obtain ⟨rfl, rfl⟩ := Prod.mk.inj hxr
    rw [List.drop_left] at hx
    obtain ⟨rfl, hs⟩ := splitBehind?_eq_some hx
    exact ⟨(List.append_assoc _ _ _).symm, List.prefix_append _ _,
      hs.trans (List.suffix_append _ _)⟩
  · simp at h

theorem between?_behind {start mark cs b r : List Char} (hne : mark ≠ [])
    (h : between? start mark cs = some (b, r)) (r' : List Char) :
    between? start mark (b ++ r') = some (b, r') := by
  unfold between? at h
  split at h
  · obtain ⟨⟨b', r''⟩, hx, hxr⟩ := Option.map_eq_some_iff.1 h
    obtain ⟨rfl, rfl⟩ := Prod.mk.inj hxr
    have hp : start.isPrefixOf (start ++ b' ++ r') = true := by
      rw [List.isPrefixOf_iff_prefix, List.append_assoc]
      exact List.prefix_append _ _
    rw [between?, if_pos hp, List.append_assoc, List.drop_left, splitBehind?_behind hne hx]
    rfl
  · simp at h

theorem declaration?_eq_some {cs b r : List Char} (h : declaration? cs = some (b, r)) :
    cs = b ++ r ∧ ['<'] <+: b ∧ ['>'] <:+ b := by
  unfold declaration? at h
  rcases Option.or_eq_some_iff.1 h with h | ⟨_, h⟩
  · obtain ⟨rfl, hs, he⟩ := between?_eq_some h
    exact ⟨rfl, .trans (by decide) hs, .trans (by decide) he⟩
  · rcases Option.or_eq_some_iff.1 h with h | ⟨_, h⟩
    · obtain ⟨rfl, hs, he⟩ := between?_eq_some h
      exact ⟨rfl, .trans (by decide) hs, he⟩
    · obtain ⟨rfl, hs, he⟩ := between?_eq_some h
      exact ⟨rfl, .trans (by decide) hs, .trans (by decide) he⟩

theorem declaration?_behind {b r r' : List Char} (h : declaration? (b ++ r) = some (b, r))
    (hr : NewlineEdit r r') : declaration? (b ++ r') = some (b, r') := by
  have hb := hr.append_left b
  unfold declaration? at h ⊢
  rw [Option.or_eq_some_iff, Option.or_eq_some_iff] at h ⊢
  rcases h with h | ⟨hc, h⟩
  · exact .inl (between?_behind (by decide) h r')
  · refine .inr ⟨hb.between?_none (by decide) (by decide) (by decide) hc, ?_⟩
    rcases h with h | ⟨hd, h⟩
    · exact .inl (between?_behind (by decide) h r')
    · exact .inr ⟨hb.between?_none (by decide) (by decide) (by decide) hd,
        between?_behind (by decide) h r'⟩

theorem tagBody?_eq_some {quote : Option Char} {cs b r : List Char}
    (h : tagBody? quote cs = some (b, r)) : cs = b ++ '>' :: r := by
  induction cs generalizing quote b with
  | nil => simp [tagBody?] at h
  | cons c cs ih =>
    rcases tagBody?_cons_eq_some_iff.1 h with ⟨⟨_, rfl⟩, rfl, rfl⟩ | ⟨_, b', rfl, hx⟩
    · rfl
    · rw [ih hx]
      rfl

theorem tagBody?_behind {quote : Option Char} {cs b r : List Char}
    (h : tagBody? quote cs = some (b, r)) (r' : List Char) :
    tagBody? quote (b ++ '>' :: r') = some (b, r') := by
  induction cs generalizing quote b with
  | nil => simp [tagBody?] at h
  | cons c cs ih =>
    rcases tagBody?_cons_eq_some_iff.1 h with ⟨hend, rfl, _⟩ | ⟨hend, b', rfl, hx⟩
    · exact tagBody?_cons_eq_some_iff.2 (.inl ⟨⟨hend.1, rfl⟩, rfl, rfl⟩)
    · exact tagBody?_cons_eq_some_iff.2 (.inr ⟨hend, b', rfl, ih hx⟩)

theorem tagBody?_plain {s cs b r : List Char}
    (hs : ∀ c ∈ s, c ≠ '>' ∧ c ≠ '"' ∧ c ≠ '\'') (h : tagBody? none cs = some (b, r)) :
    tagBody? none (s ++ cs) = some (s ++ b, r) := by
  induction s with
  | nil => exact h
  | cons c s ih =>
    rw [List.forall_mem_cons] at hs
    obtain ⟨⟨hgt, hdq, hsq⟩, hs⟩ := hs
    rw [List.cons_append, tagBody?]
    simp [hgt, hdq, hsq, ih hs]

theorem tagBody?_quoted {q : Char} {v cs b r : List Char} (hv : q ∉ v)
    (h : tagBody? none cs = some (b, r)) :
    tagBody? (some q) (v ++ q :: cs) = some (v ++ q :: b, r) := by
  induction v with
  | nil =>
    rw [List.nil_append, tagBody?]
    simp [h]
  | cons c v ih =>
    rw [List.mem_cons, not_or] at hv
    rw [List.cons_append, tagBody?]
    simp [Ne.symm hv.1, ih hv.2]

theorem nameAndBody?_eq_some {cs n b r : List Char} (h : nameAndBody? cs = some (n, b, r)) :
    cs = n ++ b ++ '>' :: r := by
  induction cs generalizing n with
  | nil => simp [nameAndBody?] at h
  | cons c cs ih =>
    rcases nameAndBody?_cons_eq_some_iff.1 h with ⟨_, n', rfl, hx⟩ | ⟨_, rfl, hx⟩
    · rw [ih hx]
      rfl
    · exact tagBody?_eq_some hx

/-- The name stays the longest one: behind each character that it could have taken, the tag has
no end after the edit, either. -/
theorem nameAndBody?_behind {n b r r' : List Char}
    (h : nameAndBody? (n ++ b ++ '>' :: r) = some (n, b, r)) (hr : NewlineEdit r r') :
    nameAndBody? (n ++ b ++ '>' :: r') = some (n, b, r') := by
  induction n with
  | nil =>
    obtain ⟨c, t, ht⟩ : ∃ c t, b ++ ['>'] = c :: t := List.exists_cons_of_ne_nil (by simp)
    have hcons (r : List Char) : b ++ '>' :: r = c :: (t ++ r) := by
      rw [← List.cons_append, ← ht, List.append_assoc]
      rfl
    rw [List.nil_append, hcons, nameAndBody?_cons_eq_some_iff, ← hcons] at h ⊢
    rcases h with ⟨_, n', hn, _⟩ | ⟨hc, _, hx⟩
    · simp at hn
    · exact .inr ⟨fun hn => (hr.append_left t).nameAndBody?_none (hc hn), rfl,
        tagBody?_behind hx r'⟩
  | cons c n ih =>
    rw [List.cons_append, List.cons_append, nameAndBody?_cons_eq_some_iff] at h ⊢
    rcases h with ⟨hc, n', hn, hx⟩ | ⟨_, hn, _⟩
    · obtain ⟨_, rfl⟩ := List.cons.inj hn
      exact .inl ⟨hc, n, rfl, ih hx⟩
    · simp at hn

theorem named?_eq_some {cs n b r : List Char} (h : named? cs = some (n, b, r)) :
    cs = n ++ b ++ '>' :: r := by
  obtain ⟨c, cs', n', rfl, rfl, _, hx⟩ := named?_eq_some_iff.1 h
  rw [nameAndBody?_eq_some hx]
  rfl

theorem named?_of_body {n b r : List Char} (hne : n ≠ []) (hn : ∀ c ∈ n, isNameChar c = true)
    (hb : ∀ c ∈ (b ++ ['>']).head?, isNameChar c = false)
    (h : tagBody? none (b ++ '>' :: r) = some (b, r)) :
    named? (n ++ b ++ '>' :: r) = some (n, b, r) := by
  have hbody : nameAndBody? (b ++ '>' :: r) = some ([], b, r) := by
    obtain ⟨c, t, ht⟩ : ∃ c t, b ++ ['>'] = c :: t := List.exists_cons_of_ne_nil (by simp)
    have hcons : b ++ '>' :: r = c :: (t ++ r) := by
      rw [← List.cons_append, ← ht, List.append_assoc]
      rfl
    have hc : isNameChar c = false := hb c (by rw [ht]; rfl)
    rw [hcons] at h ⊢
    exact nameAndBody?_cons_eq_some_iff.2 (.inr ⟨by simp [hc], rfl, h⟩)
  have hname (m : List Char) (hm : ∀ c ∈ m, isNameChar c = true) :
      nameAndBody? (m ++ b ++ '>' :: r) = some (m, b, r) := by
    induction m with
    | nil => exact hbody
    | cons c m ih =>
      rw [List.forall_mem_cons] at hm
      exact nameAndBody?_cons_eq_some_iff.2 (.inl ⟨hm.1, m, rfl, ih hm.2⟩)
  obtain ⟨c, m, rfl⟩ := List.exists_cons_of_ne_nil hne
  rw [List.forall_mem_cons] at hn
  exact named?_eq_some_iff.2 ⟨c, _, m, rfl, rfl, hn.1, hname m hn.2⟩

theorem named?_head {cs n b r : List Char} (h : named? cs = some (n, b, r)) :
    cs.head? ≠ some '/' := by
  obtain ⟨c, cs', n', rfl, _, hc, _⟩ := named?_eq_some_iff.1 h
  intro he
  obtain rfl : c = '/' := Option.some.inj he
  exact absurd hc (by decide)

theorem named?_behind {n b r r' : List Char}
    (h : named? (n ++ b ++ '>' :: r) = some (n, b, r)) (hr : NewlineEdit r r') :
    named? (n ++ b ++ '>' :: r') = some (n, b, r') := by
  obtain ⟨c, cs', n', hcs, rfl, hc, hx⟩ := named?_eq_some_iff.1 h
  obtain ⟨_, rfl⟩ := List.cons.inj hcs
  exact named?_eq_some_iff.2 ⟨c, _, n', rfl, rfl, hc, nameAndBody?_behind hx hr⟩

theorem tag?_eq_some_iff {xml : Bool} {cs r : List Char} {t : Token} :
    tag? xml cs = some (t, r) ↔
      (∃ cs' n b, cs = '<' :: '/' :: cs' ∧ named? cs' = some (n, b, r) ∧
        t = ⟨.closing, '<' :: '/' :: n ++ b ++ ['>'], n⟩) ∨
      (∃ cs' n b, cs = '<' :: cs' ∧ named? cs' = some (n, b, r) ∧
        t = ⟨if closesItself xml n b then .empty else .opening, '<' :: n ++ b ++ ['>'], n⟩) := by
  constructor
  · intro h
    unfold tag? at h
    split at h
    · obtain ⟨⟨n, b, r'⟩, hx, hxr⟩ := Option.map_eq_some_iff.1 h
      obtain ⟨rfl, rfl⟩ := Prod.mk.inj hxr
      exact .inl ⟨_, n, b, rfl, hx, rfl⟩
    · obtain ⟨⟨n, b, r'⟩, hx, hxr⟩ := Option.map_eq_some_iff.1 h
      obtain ⟨rfl, rfl⟩ := Prod.mk.inj hxr
      exact .inr ⟨_, n, b, rfl, hx, rfl⟩
    · simp at h
  · rintro (⟨cs', n, b, rfl, hx, rfl⟩ | ⟨cs', n, b, rfl, hx, rfl⟩)
    · rw [tag?_slash, hx]
      rfl
    · rw [tag?_name xml (named?_head hx), hx]
      rfl

theorem tag?_eq_some {xml : Bool} {cs r : List Char} {t : Token} (h : tag? xml cs = some (t, r)) :
    cs = t.text ++ r ∧ ['<'] <+: t.text ∧ ['>'] <:+ t.text ∧ t.kind ≠ .text := by
  rcases tag?_eq_some_iff.1 h with ⟨cs', n, b, rfl, hx, rfl⟩ | ⟨cs', n, b, rfl, hx, rfl⟩
  · rw [named?_eq_some hx]
    refine ⟨by simp, ⟨_, rfl⟩, List.suffix_append _ _, by simp⟩
  · rw [named?_eq_some hx]
    refine ⟨by simp, ⟨_, rfl⟩, List.suffix_append _ _, ?_⟩
    dsimp only
    split <;> simp

theorem tag?_behind {xml : Bool} {t : Token} {r r' : List Char}
    (h : tag? xml (t.text ++ r) = some (t, r)) (hr : NewlineEdit r r') :
    tag? xml (t.text ++ r') = some (t, r') := by
  rcases tag?_eq_some_iff.1 h with ⟨cs', n, b, hcs, hx, rfl⟩ | ⟨cs', n, b, hcs, hx, rfl⟩
  · rw [named?_eq_some hx] at hx
    exact tag?_eq_some_iff.2 (.inl ⟨_, n, b, by simp, named?_behind hx hr, rfl⟩)
  · rw [named?_eq_some hx] at hx
    exact tag?_eq_some_iff.2 (.inr ⟨_, n, b, by simp, named?_behind hx hr, rfl⟩)

theorem markupAt?_eq_some_iff {xml : Bool} {cs r : List Char} {t : Token} :
    markupAt? xml cs = some (t, r) ↔
      (∃ text, declaration? cs = some (text, r) ∧ t = ⟨.declaration, text, []⟩) ∨
      (declaration? cs = none ∧ tag? xml cs = some (t, r)) := by
  unfold markupAt?
  cases declaration? cs with
  | none => simp
  | some x =>
    obtain ⟨text, r'⟩ := x
    simp only [Option.some.injEq, Prod.mk.injEq, reduceCtorEq, false_and, or_false]
    constructor
    · rintro ⟨rfl, rfl⟩
      exact ⟨text, ⟨rfl, rfl⟩, rfl⟩
    · rintro ⟨_, ⟨rfl, rfl⟩, rfl⟩
      exact ⟨rfl, rfl⟩

theorem markupAt?_eq_some {xml : Bool} {cs r : List Char} {t : Token}
    (h : markupAt? xml cs = some (t, r)) :
    cs = t.text ++ r ∧ ['<'] <+: t.text ∧ ['>'] <:+ t.text ∧ t.kind ≠ .text := by
  rcases markupAt?_eq_some_iff.1 h with ⟨text, hd, rfl⟩ | ⟨_, ht⟩
  · obtain ⟨hcs, hs, he⟩ := declaration?_eq_some hd
    exact ⟨hcs, hs, he, by simp⟩
  · exact tag?_eq_some ht

/-- Markup stays the same when the newlines behind it are edited. -/
theorem markupAt?_behind {xml : Bool} {t : Token} {r r' : List Char}
    (h : markupAt? xml (t.text ++ r) = some (t, r)) (hr : NewlineEdit r r') :
    markupAt? xml (t.text ++ r') = some (t, r') := by
  rcases markupAt?_eq_some_iff.1 h with ⟨text, hd, rfl⟩ | ⟨hd, ht⟩
  · exact markupAt?_eq_some_iff.2 (.inl ⟨text, declaration?_behind hd hr, rfl⟩)
  · exact markupAt?_eq_some_iff.2
      (.inr ⟨(hr.append_left t.text).declaration?_none hd, tag?_behind ht hr⟩)

end ElementMarkup.Markup
