import ElementMarkup.Markup.Token

/-!
# Markup under edits of its newlines

Breaking lines puts newlines in between tokens and takes some out, but never joins what a newline
kept apart. A text is an edit of another when it has newlines put in anywhere, and taken out
beside another newline or at the end. Where no tag and no declaration starts in a text, none
starts in its edit: a name cannot reach further than before, a newline neither opens nor closes a
quote, and no mark that ends a declaration can appear.
-/

set_option autoImplicit false

namespace ElementMarkup.Markup

def withoutNewlines (cs : List Char) : List Char := cs.filter (· != '\n')

def Newlines (cs : List Char) : Prop := ∀ c ∈ cs, c = '\n'

/-- The end of a text, or a newline. -/
def AtLineEnd (cs : List Char) : Prop := ∀ c ∈ cs.head?, c = '\n'

inductive NewlineEdit : List Char → List Char → Prop where
  | nil : NewlineEdit [] []
  | keep (c : Char) {cs ds : List Char} (h : NewlineEdit cs ds) : NewlineEdit (c :: cs) (c :: ds)
  | insert {cs ds : List Char} (h : NewlineEdit cs ds) : NewlineEdit cs ('\n' :: ds)
  | delete {cs ds : List Char} (h : NewlineEdit cs ds) (hd : AtLineEnd ds) :
      NewlineEdit ('\n' :: cs) ds

theorem withoutNewlines_append (a b : List Char) :
    withoutNewlines (a ++ b) = withoutNewlines a ++ withoutNewlines b := List.filter_append a b

theorem newlines_nil : Newlines [] := List.forall_mem_nil _

theorem Newlines.reverse {a : List Char} (h : Newlines a) : Newlines a.reverse :=
  fun c hc => h c (List.mem_reverse.1 hc)

theorem Newlines.withoutNewlines_eq {a : List Char} (h : Newlines a) : withoutNewlines a = [] := by
  rw [withoutNewlines, List.filter_eq_nil_iff]
  intro c hc
  simp [h c hc]

namespace NewlineEdit

variable {cs ds : List Char}

theorem append_left (a : List Char) (h : NewlineEdit cs ds) : NewlineEdit (a ++ cs) (a ++ ds) := by
  induction a with
  | nil => exact h
  | cons c a ih => exact .keep c ih

theorem drop {a : List Char} (ha : Newlines a) (h : NewlineEdit cs ds) (hd : AtLineEnd ds) :
    NewlineEdit (a ++ cs) ds := by
  induction a with
  | nil => exact h
  | cons c a ih =>
    obtain rfl : c = '\n' := ha c List.mem_cons_self
    exact .delete (ih fun x hx => ha x (List.mem_cons_of_mem _ hx)) hd

theorem single {a : List Char} (ha : Newlines a) (h : NewlineEdit cs ds) :
    NewlineEdit (a ++ cs) ('\n' :: ds) :=
  drop ha (.insert h) fun _ hc => (Option.mem_some_iff.1 hc).symm

theorem withoutNewlines_eq (h : NewlineEdit cs ds) : withoutNewlines cs = withoutNewlines ds := by
  induction h with
  | nil => rfl
  | keep c _ ih =>
    unfold withoutNewlines at ih ⊢
    rw [List.filter_cons, List.filter_cons, ih]
  | insert _ ih => exact ih
  | delete _ _ ih => exact ih

theorem of_append (mark : List Char) (hm : '\n' ∉ mark) (h : NewlineEdit cs (mark ++ ds)) :
    ∃ cs', cs = mark ++ cs' ∧ NewlineEdit cs' ds := by
  induction mark generalizing cs with
  | nil => exact ⟨cs, rfl, h⟩
  | cons m mark ih =>
    rw [List.mem_cons, not_or] at hm
    cases h with
    | keep _ h =>
      obtain ⟨cs', rfl, h'⟩ := ih hm.2 h
      exact ⟨cs', rfl, h'⟩
    | insert _ => exact absurd rfl hm.1
    | delete _ hd => exact absurd (hd m rfl).symm hm.1

end NewlineEdit

theorem tagBody?_newline {quote : Option Char} (hq : quote ≠ some '\n') (cs : List Char) :
    tagBody? quote ('\n' :: cs) = none ↔ tagBody? quote cs = none := by
  cases quote with
  | none => simp [tagBody?]
  | some q =>
    have hne : ('\n' == q) = false := by
      rw [beq_eq_false_iff_ne]
      exact fun h => hq (congrArg some h.symm)
    simp [tagBody?, hne]

theorem tagBody?_withoutNewlines (cs : List Char) {quote : Option Char} (hq : quote ≠ some '\n') :
    tagBody? quote (withoutNewlines cs) = none ↔ tagBody? quote cs = none := by
  induction cs generalizing quote with
  | nil => rfl
  | cons c cs ih =>
    by_cases hc : c = '\n'
    · subst c
      rw [tagBody?_newline hq, ← ih hq]
      rfl
    · have hcons : withoutNewlines (c :: cs) = c :: withoutNewlines cs := by
        simp [withoutNewlines, hc]
      rw [hcons]
      cases quote with
      | some q =>
        simp only [tagBody?, Option.map_eq_none_iff]
        apply ih
        split
        · exact Option.some_ne_none _ |>.symm
        · exact hq
      | none =>
        simp only [tagBody?]
        split
        · simp
        · simp only [Option.map_eq_none_iff]
          apply ih
          split
          · exact fun h => hc (Option.some.inj h)
          · exact Option.some_ne_none _ |>.symm

theorem splitBehind?_cons_eq_none_iff {mark cs : List Char} {c : Char} :
    splitBehind? mark (c :: cs) = none ↔
      ¬ mark.isPrefixOf (c :: cs) = true ∧ splitBehind? mark cs = none := by
  rw [splitBehind?]
  split
  · simp_all
  · simp_all

theorem markupAt?_eq_none_iff {xml : Bool} {cs : List Char} :
    markupAt? xml cs = none ↔ declaration? cs = none ∧ tag? xml cs = none := by
  unfold markupAt?
  cases declaration? cs <;> simp

theorem tag?_slash (xml : Bool) (cs : List Char) :
    tag? xml ('<' :: '/' :: cs) = (named? cs).map fun (n, b, r) =>
      (⟨.closing, '<' :: '/' :: n ++ b ++ ['>'], n⟩, r) := rfl

theorem tag?_name (xml : Bool) {cs : List Char} (h : cs.head? ≠ some '/') :
    tag? xml ('<' :: cs) = (named? cs).map fun (n, b, r) =>
      (⟨if closesItself xml n b then .empty else .opening, '<' :: n ++ b ++ ['>'], n⟩, r) := by
  rw [tag?]
  rintro cs' rfl
  exact h rfl

theorem tag?_eq_none_iff {xml : Bool} {cs : List Char} :
    tag? xml ('<' :: cs) = none ↔
      named? cs = none ∧ ∀ cs', cs = '/' :: cs' → named? cs' = none := by
  by_cases hs : cs.head? = some '/'
  · obtain ⟨cs', rfl⟩ := List.head?_eq_some_iff.1 hs
    have hname : named? ('/' :: cs') = none := rfl
    simp [tag?_slash, hname]
  · have hno (cs' : List Char) : cs ≠ '/' :: cs' := fun he => hs (he ▸ rfl)
    simp [tag?_name xml hs, hno]

namespace NewlineEdit

variable {cs ds : List Char}

theorem tagBody?_none (h : NewlineEdit cs ds) (hn : tagBody? none cs = none) :
    tagBody? none ds = none := by
  have hq : (none : Option Char) ≠ some '\n' := Option.some_ne_none _ |>.symm
  rw [← tagBody?_withoutNewlines _ hq] at hn ⊢
  rw [← h.withoutNewlines_eq]
  exact hn

/-- A longest name fails only where the shortest one fails, too. -/
theorem tagBody?_of_nameAndBody? {cs : List Char} (hn : nameAndBody? cs = none) :
    tagBody? none cs = none := by
  cases cs with
  | nil => rfl
  | cons c cs =>
    rw [nameAndBody?] at hn
    split at hn
    · split at hn
      · simp at hn
      · exact Option.map_eq_none_iff.1 hn
    · exact Option.map_eq_none_iff.1 hn

theorem nameAndBody?_none (h : NewlineEdit cs ds) (hn : nameAndBody? cs = none) :
    nameAndBody? ds = none := by
  have atLineEnd {ds : List Char} (hd : AtLineEnd ds) (hb : tagBody? none ds = none) :
      nameAndBody? ds = none := by
    cases ds with
    | nil => rfl
    | cons d ds =>
      obtain rfl : d = '\n' := hd d rfl
      rw [nameAndBody?, hb]
      rfl
  induction h with
  | nil => rfl
  | @keep c cs ds h ih =>
    have hb := tagBody?_none (.keep c h) (tagBody?_of_nameAndBody? hn)
    rw [nameAndBody?] at hn ⊢
    rw [hb]
    split
    · rename_i hc
      rw [if_pos hc] at hn
      have hnone : nameAndBody? cs = none := by
        split at hn
        · simp at hn
        · assumption
      rw [ih hnone]
      rfl
    · rfl
  | insert h _ =>
    exact atLineEnd (fun _ hc => (Option.mem_some_iff.1 hc).symm)
      (tagBody?_none (.insert h) (tagBody?_of_nameAndBody? hn))
  | delete h hd _ =>
    exact atLineEnd hd (tagBody?_none (.delete h hd) (tagBody?_of_nameAndBody? hn))

theorem named?_none (h : NewlineEdit cs ds) (hn : named? cs = none) : named? ds = none := by
  cases h with
  | nil => rfl
  | keep c h =>
    rw [named?] at hn ⊢
    split
    · rename_i hc
      rw [if_pos hc, Option.map_eq_none_iff] at hn
      rw [nameAndBody?_none h hn]
      rfl
    · rfl
  | insert _ => rfl
  | delete _ hd =>
    cases ds with
    | nil => rfl
    | cons d ds =>
      obtain rfl : d = '\n' := hd d rfl
      rfl

theorem isPrefixOf_of {mark : List Char} (hm : '\n' ∉ mark) (h : NewlineEdit cs ds)
    (hp : mark.isPrefixOf ds = true) :
    mark.isPrefixOf cs = true ∧ NewlineEdit (cs.drop mark.length) (ds.drop mark.length) := by
  obtain ⟨ds', rfl⟩ := List.isPrefixOf_iff_prefix.1 hp
  obtain ⟨cs', rfl, h'⟩ := h.of_append mark hm
  rw [List.isPrefixOf_iff_prefix, List.drop_left, List.drop_left]
  exact ⟨List.prefix_append _ _, h'⟩

theorem splitBehind?_none {mark : List Char} (hne : mark ≠ []) (hm : '\n' ∉ mark)
    (h : NewlineEdit cs ds) (hn : splitBehind? mark cs = none) : splitBehind? mark ds = none := by
  induction h with
  | nil => rfl
  | keep c h ih =>
    rw [splitBehind?_cons_eq_none_iff] at hn ⊢
    exact ⟨fun hp => hn.1 ((NewlineEdit.keep c h).isPrefixOf_of hm hp).1, ih hn.2⟩
  | insert h ih =>
    rw [splitBehind?_cons_eq_none_iff]
    refine ⟨fun hp => ?_, ih hn⟩
    cases mark with
    | nil => exact hne rfl
    | cons m mark =>
      rw [List.isPrefixOf_cons_cons, Bool.and_eq_true, beq_iff_eq] at hp
      exact hm (hp.1 ▸ List.mem_cons_self)
  | delete h _ ih => exact ih (splitBehind?_cons_eq_none_iff.1 hn).2

theorem between?_none {start mark : List Char} (hs : '\n' ∉ start) (hne : mark ≠ [])
    (hm : '\n' ∉ mark) (h : NewlineEdit cs ds) (hn : between? start mark cs = none) :
    between? start mark ds = none := by
  unfold between? at hn ⊢
  split
  · rename_i hp
    obtain ⟨hp', h'⟩ := h.isPrefixOf_of hs hp
    rw [if_pos hp', Option.map_eq_none_iff] at hn
    rw [splitBehind?_none hne hm h' hn]
    rfl
  · rfl

theorem declaration?_none (h : NewlineEdit cs ds) (hn : declaration? cs = none) :
    declaration? ds = none := by
  unfold declaration? at hn ⊢
  rw [Option.or_eq_none_iff, Option.or_eq_none_iff] at hn ⊢
  obtain ⟨hc, hd, hi⟩ := hn
  exact ⟨between?_none (by decide) (by decide) (by decide) h hc,
    between?_none (by decide) (by decide) (by decide) h hd,
    between?_none (by decide) (by decide) (by decide) h hi⟩

theorem markupAt?_none {xml : Bool} (h : NewlineEdit cs ds)
    (hn : markupAt? xml ('<' :: cs) = none) : markupAt? xml ('<' :: ds) = none := by
  rw [markupAt?_eq_none_iff] at hn ⊢
  rw [tag?_eq_none_iff] at hn ⊢
  obtain ⟨hd, hname, hslash⟩ := hn
  refine ⟨declaration?_none (.keep '<' h) hd, named?_none h hname, ?_⟩
  rintro ds' rfl
  obtain ⟨cs', rfl, h'⟩ := h.of_append ['/'] (by decide)
  exact named?_none h' (hslash cs' rfl)

end NewlineEdit

end ElementMarkup.Markup
