import Mathlib
import ElementMarkup.Proofs.Failure
import ElementMarkup.Proofs.Number.Literal
import ElementMarkup.Proofs.Sexp.Cut
import ElementMarkup.Proofs.Sexp.Form

/-!
# Flaws of source texts

A lexeme is flawed by what it is, or by the lists that the lexemes before it leave open. The reader
stops at the first flaw and reports it with the line on which the lexeme starts. If there is none,
it reports the innermost list that is still open at the end, with the line of its bracket, and
otherwise it succeeds. Which list is open is said without a stack: behind its bracket all is
balanced.
-/

set_option autoImplicit false

namespace ElementMarkup.Sexp

/-- Lexemes in which each list is closed by its own kind of bracket. -/
inductive Balanced : List Lexeme → Prop where
  | nil : Balanced []
  | plain {l : Lexeme} {ls : List Lexeme} (ho : l.kind ≠ .opening) (hc : l.kind ≠ .closing)
      (hs : Balanced ls) : Balanced (l :: ls)
  | list {opener closer : Char} {inner ls : List Lexeme} (hb : Brackets opener closer)
      (hi : Balanced inner) (hs : Balanced ls) :
      Balanced (⟨.opening, [opener]⟩ :: (inner ++ ⟨.closing, [closer]⟩ :: ls))

/-- The innermost list that is open at the end starts with the bracket behind `before`. -/
def Open (ls before : List Lexeme) (opener : Char) : Prop :=
  ∃ inner, Balanced inner ∧ ls = before ++ ⟨.opening, [opener]⟩ :: inner

def lineBehind (ls : List Lexeme) : Nat := 1 + (ls.flatMap Lexeme.text).count '\n'

/-- An atom that is an integer with so many digits, more than an integer may have. -/
def Lexeme.Overlong (l : Lexeme) (digits : Nat) : Prop :=
  l.kind = .atom ∧ ∃ n : NumberLiteral, n.Spells l.text ∧ n.fraction = none ∧ n.exponent = none ∧
    n.whole.length = digits ∧ digitLimit < digits

/-- What is wrong with a lexeme behind others. -/
inductive Flaw (before : List Lexeme) : Lexeme → ReadError → Prop where
  | unterminated :
      Flaw before ⟨.unterminated, ['"']⟩ (.located .unterminatedString (lineBehind before))
  | escape {value valid rest : List Char} {c : Char} (hv : Escaped value valid)
      (hc : c ∉ ['"', '\\', 'n', 't']) :
      Flaw before ⟨.string, '"' :: (valid ++ '\\' :: c :: rest ++ ['"'])⟩
        (.located (.unknownEscape c) (lineBehind before))
  | unexpected {closer : Char} (h : Balanced before) :
      Flaw before ⟨.closing, [closer]⟩ (.located (.unexpected closer) (lineBehind before))
  | mismatched {outer : List Lexeme} {opener closer : Char} (h : Open before outer opener)
      (hb : ¬ Brackets opener closer) :
      Flaw before ⟨.closing, [closer]⟩ (.located (.mismatched opener closer) (lineBehind before))
  | digits {l : Lexeme} {n : Nat} (h : l.Overlong n) : Flaw before l (.tooManyDigits n)

def Clean (ls : List Lexeme) : Prop :=
  ∀ before l after e, ls = before ++ l :: after → ¬ Flaw before l e

/-- The error for the first flaw, or for the innermost open list where there is no flaw. -/
inductive Rejected (ls : List Lexeme) : ReadError → Prop where
  | flaw {before after : List Lexeme} {l : Lexeme} {e : ReadError}
      (hs : ls = before ++ l :: after) (hc : Clean before) (h : Flaw before l e) : Rejected ls e
  | unclosed {before : List Lexeme} {opener : Char} (hc : Clean ls) (h : Open ls before opener) :
      Rejected ls (.located (.unclosed opener) (lineBehind before))

theorem lookup_escapes_eq_none_iff {c : Char} :
    escapes.lookup c = none ↔ c ∉ ['"', '\\', 'n', 't'] := by
  simp [escapes, List.lookup_eq_none_iff]
  tauto

theorem Escaped.unescape_error {value valid : List Char} (h : Escaped value valid) {c : Char}
    (hc : c ∉ ['"', '\\', 'n', 't']) (rest : List Char) :
    Sexp.unescape (valid ++ '\\' :: c :: rest) = .error c := by
  rw [h.unescape_append, Sexp.unescape, lookup_escapes_eq_none_iff.2 hc]
  rfl

theorem Quoted.unescape_eq_error_iff {body : List Char} (h : Quoted body) {c : Char} :
    Sexp.unescape body = .error c ↔ ∃ value valid rest, Escaped value valid ∧
      c ∉ ['"', '\\', 'n', 't'] ∧ body = valid ++ '\\' :: c :: rest := by
  constructor
  · intro hc
    induction h with
    | nil => simp [Sexp.unescape] at hc
    | raw hq hb _ ih =>
      rw [Sexp.unescape, map_eq_error_iff] at hc
      · obtain ⟨value, valid, rest, hv, hn, rfl⟩ := ih hc
        exact ⟨_, _, rest, .raw hq hb hv, hn, rfl⟩
      · rintro _ _ h _
        exact hb h
    | @escape d body _ ih =>
      rw [Sexp.unescape] at hc
      cases hd : escapes.lookup d with
      | none =>
        rw [hd] at hc
        obtain rfl := Except.error.inj hc
        exact ⟨[], [], body, .nil, lookup_escapes_eq_none_iff.1 hd, rfl⟩
      | some e =>
        rw [hd, map_eq_error_iff] at hc
        obtain ⟨value, valid, rest, hv, hn, rfl⟩ := ih hc
        exact ⟨_, _, rest, .escape hd hv, hn, rfl⟩
  · rintro ⟨value, valid, rest, hv, hn, rfl⟩
    exact hv.unescape_error hn rest

theorem atomDatum_eq_error_iff {text : List Char} {e : ReadError} :
    atomDatum text = .error e ↔
      ∃ digits, Lexeme.Overlong ⟨.atom, text⟩ digits ∧ e = .tooManyDigits digits := by
  unfold atomDatum
  constructor
  · intro h
    split at h
    · cases h
    · rename_i n hn
      split at h
      · cases h
      · rename_i digits hv
        exact ⟨digits, ⟨rfl, n, NumberLiteral.spells_of_read? hn,
          NumberLiteral.value_eq_error_iff.1 hv⟩, (Except.error.inj h).symm⟩
  · rintro ⟨digits, ⟨-, n, hs, hv⟩, rfl⟩
    rw [NumberLiteral.read?_eq_some_iff.2 hs]
    dsimp only
    rw [NumberLiteral.value_eq_error_iff.2 hv]

def ReadState.opens (s : ReadState) : List (Char × Nat) := s.stack.map fun f => (f.opener, f.line)

/-- The lexemes leave the lists open: within each of them, all is balanced. -/
inductive Leaves : List Lexeme → List (Char × Nat) → Prop where
  | balanced {ls : List Lexeme} (h : Balanced ls) : Leaves ls []
  | within {outer inner : List Lexeme} {opener : Char} {opens : List (Char × Nat)}
      (h : Leaves outer opens) (ho : isOpening opener = true) (hi : Balanced inner) :
      Leaves (outer ++ ⟨.opening, [opener]⟩ :: inner) ((opener, lineBehind outer) :: opens)

theorem Balanced.append {ls ks : List Lexeme} (h : Balanced ls) (hk : Balanced ks) :
    Balanced (ls ++ ks) := by
  induction h with
  | nil => exact hk
  | plain ho hc _ ih => exact .plain ho hc ih
  | list hb hi _ _ ih =>
    have hlist := Balanced.list hb hi ih
    simpa using hlist

theorem Leaves.append {ls ks : List Lexeme} {opens : List (Char × Nat)} (h : Leaves ls opens)
    (hk : Balanced ks) : Leaves (ls ++ ks) opens := by
  cases h with
  | balanced h => exact .balanced (h.append hk)
  | within h ho hi =>
    have hw := Leaves.within h ho (hi.append hk)
    simpa using hw

theorem Leaves.close {ls : List Lexeme} {opener closer : Char} {n : Nat}
    {opens : List (Char × Nat)} (h : Leaves ls ((opener, n) :: opens))
    (hb : Brackets opener closer) : Leaves (ls ++ [⟨.closing, [closer]⟩]) opens := by
  cases h with
  | within h _ hi =>
    have hlist := h.append (.list hb hi .nil)
    simpa using hlist

theorem Leaves.open {ls : List Lexeme} {opener : Char} {n : Nat} {opens : List (Char × Nat)}
    (h : Leaves ls ((opener, n) :: opens)) :
    isOpening opener = true ∧ ∃ outer, Open ls outer opener ∧ n = lineBehind outer := by
  cases h with
  | @within outer inner _ _ _ ho hi => exact ⟨ho, outer, ⟨inner, hi, rfl⟩, rfl⟩

theorem brackets_iff {opener closer : Char} (h : isOpening opener = true) :
    Brackets opener closer ↔ (closerOf opener == closer) = true := by
  rw [isOpening, Bool.or_eq_true, beq_iff_eq, beq_iff_eq] at h
  constructor
  · intro hb
    cases hb <;> rfl
  · intro hc
    obtain rfl := beq_iff_eq.1 hc
    rcases h with rfl | rfl
    · exact .round
    · exact .square

theorem lineBehind_concat (ls : List Lexeme) (l : Lexeme) :
    lineBehind (ls ++ [l]) = lineBehind ls + l.text.count '\n' := by
  simp [lineBehind, Nat.add_assoc]

theorem ReadState.opens_add (s : ReadState) (d : Datum) : (s.add d).opens = s.opens := by
  obtain ⟨line, stack, forms⟩ := s
  cases stack <;> rfl

theorem ReadState.opens_atLine (s : ReadState) (n : Nat) : (s.atLine n).opens = s.opens := rfl

theorem opens_accept {s s' : ReadState} {l : Lexeme} (ho : l.kind ≠ .opening)
    (hc : l.kind ≠ .closing) (h : s.accept l = .ok s') : s'.opens = s.opens := by
  unfold ReadState.accept at h
  split at h
  · rw [← Except.ok.inj h]
  · rw [← Except.ok.inj h]
  · rename_i hk
    exact absurd hk ho
  · rename_i hk
    exact absurd hk hc
  · cases h
  · split at h
    · rw [← Except.ok.inj h, ReadState.opens_add]
    · cases h
  · obtain ⟨d, -, rfl⟩ := map_eq_ok_iff.1 h
    rw [ReadState.opens_add]

theorem close_ok {s s' : ReadState} {closer : Char} (h : s.close closer = .ok s') :
    ∃ f fs, s.stack = f :: fs ∧ (closerOf f.opener == closer) = true ∧
      s'.opens = fs.map fun f => (f.opener, f.line) := by
  unfold ReadState.close at h
  split at h
  · cases h
  · rename_i f fs hs
    split at h
    · rename_i hc
      rw [← Except.ok.inj h, ReadState.opens_add]
      exact ⟨f, fs, hs, hc, rfl⟩
    · cases h

theorem step_ok_iff {s s' : ReadState} {l : Lexeme} : s.step l = .ok s' ↔
    ∃ next, s.accept l = .ok next ∧ s' = next.atLine (s.line + l.text.count '\n') := by
  rw [ReadState.step, map_eq_ok_iff]
  simp only [eq_comm, ReadState.atLine]

theorem Balanced.opens {ls : List Lexeme} (h : Balanced ls) {s s' : ReadState}
    (hr : ls.foldlM ReadState.step s = .ok s') : s'.opens = s.opens := by
  induction h generalizing s s' with
  | nil => rw [← Except.ok.inj hr]
  | plain ho hc _ ih =>
    rw [List.foldlM_cons, bind_eq_ok_iff] at hr
    obtain ⟨t, ht, hr⟩ := hr
    obtain ⟨next, hn, rfl⟩ := step_ok_iff.1 ht
    rw [ih hr, ReadState.opens_atLine, opens_accept ho hc hn]
  | @list opener closer inner ls _ _ _ ihi ihs =>
    rw [List.foldlM_cons, bind_eq_ok_iff] at hr
    obtain ⟨t, ht, hr⟩ := hr
    rw [List.foldlM_append, bind_eq_ok_iff] at hr
    obtain ⟨u, hu, hr⟩ := hr
    rw [List.foldlM_cons, bind_eq_ok_iff] at hr
    obtain ⟨v, hv, hr⟩ := hr
    obtain ⟨next, hn, rfl⟩ := step_ok_iff.1 ht
    obtain ⟨closed, hc, rfl⟩ := step_ok_iff.1 hv
    obtain ⟨f, fs, hs, -, hopens⟩ := close_ok hc
    have hinner := ihi hu
    obtain rfl := Except.ok.inj hn
    rw [ReadState.opens, hs] at hinner
    rw [ihs hr]
    exact hopens.trans (List.cons.inj hinner).2

theorem step_leaves {before : List Lexeme} {l : Lexeme} {after : List Char} {s s' : ReadState}
    (hl : l.Before after) (hs : Leaves before s.opens) (hline : s.line = lineBehind before)
    (h : s.step l = .ok s') :
    Leaves (before ++ [l]) s'.opens ∧ s'.line = lineBehind (before ++ [l]) := by
  obtain ⟨next, hn, rfl⟩ := step_ok_iff.1 h
  rw [lineBehind_concat, ← hline]
  refine ⟨?_, rfl⟩
  have hplain (ho : l.kind ≠ .opening) (hc : l.kind ≠ .closing) :
      Leaves (before ++ [l]) next.opens := by
    rw [opens_accept ho hc hn]
    exact hs.append (.plain ho hc .nil)
  cases hl with
  | blank | comment | string | unterminated | atom => exact hplain (by simp) (by simp)
  | opening ho =>
    obtain rfl := Except.ok.inj hn
    have hw := Leaves.within hs ho .nil
    rw [← hline] at hw
    exact hw
  | closing =>
    obtain ⟨f, fs, hf, hc, hopens⟩ := close_ok hn
    rw [ReadState.opens, hf] at hs
    have hb := (brackets_iff hs.open.1).2 hc
    have hclosed := hs.close hb
    rw [← hopens] at hclosed
    exact hclosed

section

def AllBefore (ls : List Lexeme) : Prop := ∀ l ∈ ls, ∃ after, l.Before after

variable {ls before : List Lexeme} {s : ReadState}

theorem AllBefore.left {ks : List Lexeme} (h : AllBefore (ls ++ ks)) : AllBefore ls :=
  fun l hl => h l (List.mem_append_left _ hl)

theorem AllBefore.right {ks : List Lexeme} (h : AllBefore (ls ++ ks)) : AllBefore ks :=
  fun l hl => h l (List.mem_append_right _ hl)

theorem foldlM_leaves (hw : AllBefore ls) {s' : ReadState} (hs : Leaves before s.opens)
    (hline : s.line = lineBehind before) (h : ls.foldlM ReadState.step s = .ok s') :
    Leaves (before ++ ls) s'.opens ∧ s'.line = lineBehind (before ++ ls) := by
  induction ls generalizing before s with
  | nil =>
    obtain rfl := Except.ok.inj h
    rw [List.append_nil]
    exact ⟨hs, hline⟩
  | cons l ls ih =>
    rw [List.foldlM_cons, bind_eq_ok_iff] at h
    obtain ⟨t, ht, h⟩ := h
    obtain ⟨after, hl⟩ := hw l List.mem_cons_self
    obtain ⟨hopens, hnext⟩ := step_leaves hl hs hline ht
    have hrest := ih (fun k hk => hw k (List.mem_cons_of_mem _ hk)) hopens hnext h
    rwa [List.append_assoc, List.singleton_append] at hrest

/-- What has been read leaves open the lists on the stack. -/
theorem leaves_of_read (hw : AllBefore ls)
    (h : ls.foldlM ReadState.step ReadState.start = .ok s) :
    Leaves ls s.opens ∧ s.line = lineBehind ls := by
  have hstart : Leaves [] ReadState.start.opens := .balanced .nil
  exact foldlM_leaves hw hstart rfl h

theorem opens_of_open {outer : List Lexeme} {opener : Char} (hw : AllBefore ls)
    (ho : Open ls outer opener) (h : ls.foldlM ReadState.step ReadState.start = .ok s) :
    isOpening opener = true ∧ ∃ opens, s.opens = (opener, lineBehind outer) :: opens := by
  obtain ⟨inner, hi, rfl⟩ := ho
  rw [List.foldlM_append, bind_eq_ok_iff] at h
  obtain ⟨t, ht, h⟩ := h
  rw [List.foldlM_cons, bind_eq_ok_iff] at h
  obtain ⟨u, hu, h⟩ := h
  obtain ⟨next, hn, rfl⟩ := step_ok_iff.1 hu
  obtain rfl := Except.ok.inj hn
  have hline := (leaves_of_read hw.left ht).2
  obtain ⟨after, hb⟩ := hw.right _ List.mem_cons_self
  refine ⟨by cases hb; assumption, t.opens, ?_⟩
  rw [hi.opens h, ← hline]
  rfl

theorem close_eq_error_iff (hw : AllBefore ls)
    (hr : ls.foldlM ReadState.step ReadState.start = .ok s) {closer : Char} {e : ReadError} :
    s.close closer = .error e ↔
      (Balanced ls ∧ e = .located (.unexpected closer) (lineBehind ls)) ∨
      ∃ outer opener, Open ls outer opener ∧ ¬ Brackets opener closer ∧
        e = .located (.mismatched opener closer) (lineBehind ls) := by
  obtain ⟨hleaves, hline⟩ := leaves_of_read hw hr
  rw [← hline]
  constructor
  · intro h
    unfold ReadState.close at h
    rw [ReadState.opens] at hleaves
    split at h
    · rename_i hs
      rw [hs] at hleaves
      cases hleaves with
      | balanced hb => exact .inl ⟨hb, (Except.error.inj h).symm⟩
    · rename_i f fs hs
      rw [hs] at hleaves
      obtain ⟨ho, outer, hopen, -⟩ := hleaves.open
      split at h
      · cases h
      · rename_i hc
        exact .inr ⟨outer, f.opener, hopen, fun hb => hc ((brackets_iff ho).1 hb),
          (Except.error.inj h).symm⟩
  · rintro (⟨hb, rfl⟩ | ⟨outer, opener, hopen, hb, rfl⟩)
    · have hopens : s.opens = [] := hb.opens hr
      have hstack : s.stack = [] := List.map_eq_nil_iff.1 hopens
      rw [ReadState.close, hstack]
    · obtain ⟨ho, opens, hopens⟩ := opens_of_open hw hopen hr
      obtain ⟨f, fs, hstack, hf, -⟩ := List.map_eq_cons_iff.1 hopens
      obtain ⟨rfl, -⟩ := Prod.mk.inj hf
      have hc : ¬ (closerOf f.opener == closer) = true := fun hc => hb ((brackets_iff ho).2 hc)
      rw [ReadState.close, hstack]
      dsimp only
      rw [if_neg hc]

/-- Behind what has been read, a lexeme cannot be read exactly if it is flawed. -/
theorem step_eq_error_iff (hw : AllBefore ls)
    (hr : ls.foldlM ReadState.step ReadState.start = .ok s) {l : Lexeme} {after : List Char}
    (hl : l.Before after) {e : ReadError} : s.step l = .error e ↔ Flaw ls l e := by
  have hline := (leaves_of_read hw hr).2
  rw [ReadState.step, map_eq_error_iff]
  constructor
  · intro h
    cases hl with
    | blank | comment | opening => cases h
    | unterminated =>
      obtain rfl := Except.error.inj h
      rw [hline]
      exact .unterminated
    | string hq =>
      rw [ReadState.accept] at h
      dsimp only at h
      rw [stringBody_quoted] at h
      split at h
      · cases h
      · rename_i c hc
        obtain rfl := Except.error.inj h
        obtain ⟨value, valid, rest, hv, hn, rfl⟩ := hq.unescape_eq_error_iff.1 hc
        rw [hline]
        exact .escape hv hn
    | closing =>
      rcases (close_eq_error_iff hw hr).1 h with ⟨hb, rfl⟩ | ⟨outer, opener, hopen, hb, rfl⟩
      · exact .unexpected hb
      · exact .mismatched hopen hb
    | atom =>
      rw [ReadState.accept, map_eq_error_iff, atomDatum_eq_error_iff] at h
      obtain ⟨digits, hd, rfl⟩ := h
      exact .digits hd
  · intro h
    cases h with
    | unterminated =>
      rw [← hline]
      rfl
    | @escape value valid rest c hv hn =>
      rw [ReadState.accept]
      dsimp only
      rw [stringBody_quoted, hv.unescape_error hn, hline]
    | unexpected hb => exact (close_eq_error_iff hw hr).2 (.inl ⟨hb, rfl⟩)
    | mismatched hopen hb => exact (close_eq_error_iff hw hr).2 (.inr ⟨_, _, hopen, hb, rfl⟩)
    | @digits _ digits hd =>
      obtain ⟨kind, text⟩ := l
      obtain rfl : kind = .atom := hd.1
      rw [ReadState.accept, map_eq_error_iff, atomDatum_eq_error_iff]
      exact ⟨digits, hd, rfl⟩

theorem foldlM_step_eq_error_iff (hw : AllBefore ls) {e : ReadError} :
    ls.foldlM ReadState.step ReadState.start = .error e ↔ ∃ before l after s,
      ls = before ++ l :: after ∧ before.foldlM ReadState.step ReadState.start = .ok s ∧
        Flaw before l e := by
  rw [foldlM_eq_error_iff]
  constructor
  · rintro ⟨before, l, after, s, rfl, hr, h⟩
    obtain ⟨text, hl⟩ := hw.right l List.mem_cons_self
    exact ⟨before, l, after, s, rfl, hr, (step_eq_error_iff hw.left hr hl).1 h⟩
  · rintro ⟨before, l, after, s, rfl, hr, h⟩
    obtain ⟨text, hl⟩ := hw.right l List.mem_cons_self
    exact ⟨before, l, after, s, rfl, hr, (step_eq_error_iff hw.left hr hl).2 h⟩

theorem clean_iff (hw : AllBefore ls) :
    Clean ls ↔ ∃ s, ls.foldlM ReadState.step ReadState.start = .ok s := by
  constructor
  · intro hc
    cases hr : ls.foldlM ReadState.step ReadState.start with
    | ok s => exact ⟨s, rfl⟩
    | error e =>
      obtain ⟨before, l, after, s, hs, -, hf⟩ := (foldlM_step_eq_error_iff hw).1 hr
      exact absurd hf (hc before l after e hs)
  · rintro ⟨s, hr⟩ before l after e rfl hf
    have hbefore := hr
    rw [List.foldlM_append, bind_eq_ok_iff] at hbefore
    obtain ⟨t, ht, -⟩ := hbefore
    have herror := (foldlM_step_eq_error_iff hw).2 ⟨before, l, after, t, rfl, ht, hf⟩
    rw [herror] at hr
    cases hr

theorem finish_eq_error_iff (hw : AllBefore ls)
    (hr : ls.foldlM ReadState.step ReadState.start = .ok s) {e : ReadError} :
    s.finish = .error e ↔ ∃ before opener, Open ls before opener ∧
      e = .located (.unclosed opener) (lineBehind before) := by
  constructor
  · intro h
    obtain ⟨hleaves, -⟩ := leaves_of_read hw hr
    unfold ReadState.finish at h
    rw [ReadState.opens] at hleaves
    split at h
    · cases h
    · rename_i f fs hs
      obtain rfl := Except.error.inj h
      rw [hs] at hleaves
      obtain ⟨-, outer, hopen, hline⟩ := hleaves.open
      exact ⟨outer, f.opener, hopen, by rw [hline]⟩
  · rintro ⟨outer, opener, hopen, rfl⟩
    obtain ⟨-, opens, hopens⟩ := opens_of_open hw hopen hr
    obtain ⟨f, fs, hstack, hf, -⟩ := List.map_eq_cons_iff.1 hopens
    obtain ⟨rfl, hline⟩ := Prod.mk.inj hf
    rw [ReadState.finish, hstack]
    dsimp only
    rw [hline]

end

theorem readAll_eq_error_iff {source : List Char} {e : ReadError} :
    readAll source = .error e ↔ Rejected (lexemes source) e := by
  have hw : AllBefore (lexemes source) := fun l hl => (cut_lexemes source).before hl
  rw [readAll, bind_eq_error_iff]
  constructor
  · rintro (h | ⟨s, hr, h⟩)
    · obtain ⟨before, l, after, s, hs, hr, hf⟩ := (foldlM_step_eq_error_iff hw).1 h
      have hbefore : AllBefore before := (hs ▸ hw).left
      exact .flaw hs ((clean_iff hbefore).2 ⟨s, hr⟩) hf
    · obtain ⟨before, opener, ho, rfl⟩ := (finish_eq_error_iff hw hr).1 h
      exact .unclosed ((clean_iff hw).2 ⟨s, hr⟩) ho
  · intro h
    cases h with
    | @flaw before after l _ hs hc hf =>
      have hbefore : AllBefore before := (hs ▸ hw).left
      obtain ⟨s, hr⟩ := (clean_iff hbefore).1 hc
      exact .inl ((foldlM_step_eq_error_iff hw).2 ⟨before, l, after, s, hs, hr, hf⟩)
    | @unclosed before opener hc ho =>
      obtain ⟨s, hr⟩ := (clean_iff hw).1 hc
      exact .inr ⟨s, hr, (finish_eq_error_iff hw hr).2 ⟨before, opener, ho, rfl⟩⟩

/-- Every source text is cut into lexemes in one way. It is read, unless one of them is flawed or a
list is open at the end, and the first flaw comes before an open list. Without integers that are too
long, every error has a line. -/
theorem readAll_rejects (source : List Char) :
    ∃ ls, Cut source ls ∧ (∀ ks, Cut source ks → ks = ls) ∧ ((∃ e, readAll source = .error e) ↔
      (∃ before l after e, ls = before ++ l :: after ∧ Flaw before l e) ∨
        ∃ before opener, Open ls before opener) ∧
    (∀ e, readAll source = .error e ↔ Rejected ls e) ∧
    ((∀ l ∈ ls, ∀ digits, ¬ l.Overlong digits) → (∃ forms, readAll source = .ok forms) ∨
      ∃ fault line, readAll source = .error (.located fault line)) := by
  have hw : AllBefore (lexemes source) := fun l hl => (cut_lexemes source).before hl
  refine ⟨lexemes source, cut_lexemes source, fun ks hk => (cut_iff.1 hk).symm, ?_,
    fun e => readAll_eq_error_iff, fun hd => ?_⟩
  · constructor
    · rintro ⟨e, he⟩
      cases readAll_eq_error_iff.1 he with
      | flaw hs _ hf => exact .inl ⟨_, _, _, e, hs, hf⟩
      | unclosed _ ho => exact .inr ⟨_, _, ho⟩
    · intro h
      -- What is not clean has a first flaw.
      by_cases hc : Clean (lexemes source)
      · rcases h with ⟨before, l, after, e, hs, hf⟩ | ⟨before, opener, ho⟩
        · exact absurd hf (hc before l after e hs)
        · exact ⟨_, readAll_eq_error_iff.2 (.unclosed hc ho)⟩
      · cases hr : (lexemes source).foldlM ReadState.step ReadState.start with
        | ok s => exact absurd ((clean_iff hw).2 ⟨s, hr⟩) hc
        | error e => exact ⟨e, by rw [readAll, hr]; rfl⟩
  · cases hr : readAll source with
    | ok forms => exact .inl ⟨forms, rfl⟩
    | error e =>
      cases readAll_eq_error_iff.1 hr with
      | unclosed => exact .inr ⟨_, _, rfl⟩
      | flaw hs _ hf =>
        cases hf with
        | digits hl => exact absurd hl (hd _ (by simp [hs]) _)
        | _ => exact .inr ⟨_, _, rfl⟩

/-- A string over two lines, a comment, a list closed by the wrong bracket, and an open string. -/
def faultySource : List Char := "(p \"a\\t\nb\" ;)\n[q)\n\"x".toList

theorem readAll_rejects_faulty :
    (∀ l ∈ lexemes faultySource, ∀ digits, ¬ l.Overlong digits) ∧
      readAll faultySource = .error (.located (.mismatched '[' ')') 3) ∧
      Rejected (lexemes faultySource) (.located (.mismatched '[' ')') 3) ∧
      ((∃ forms, readAll faultySource = .ok forms) ∨
        ∃ fault line, readAll faultySource = .error (.located fault line)) := by
  have hnone :
      (lexemes faultySource).all (fun l => (NumberLiteral.read? l.text).isNone) = true := by
    cbv
  have hread : readAll faultySource = .error (.located (.mismatched '[' ')') 3) := by cbv
  have hd : ∀ l ∈ lexemes faultySource, ∀ digits, ¬ l.Overlong digits := by
    rintro l hl digits ⟨-, n, hs, -⟩
    have hn := List.all_eq_true.1 hnone l hl
    exact NumberLiteral.not_spells_of_read? (Option.isNone_iff_eq_none.1 hn) n hs
  obtain ⟨ls, -, hone, -, hreject, hlocated⟩ := readAll_rejects faultySource
  obtain rfl := hone _ (cut_lexemes faultySource)
  exact ⟨hd, hread, (hreject _).1 hread, hlocated hd⟩

end ElementMarkup.Sexp
