import ElementMarkup.Proofs.Sexp.Flaw

/-!
# Searching a source text

The lexemes of a source text are what a search for them finds. At each place the search takes the
first kind that a lexeme can have there and the longest lexeme of that kind, and it passes over
every character at which there is none; but there always is one. The reader is handed the lexemes
with their lines, without blanks and comments, up to the first string that does not end.
-/

set_option autoImplicit false

namespace ElementMarkup.Sexp

/-- The texts that a lexeme of each kind can have. -/
inductive Lexeme.Fits : Lexeme → Prop where
  | blank {run : List Char} (hne : run ≠ []) (h : ∀ c ∈ run, Text.isBlank c = true) :
      Fits ⟨.blank, run⟩
  | comment {text : List Char} (h : ∀ c ∈ text, c ≠ '\n') : Fits ⟨.comment, ';' :: text⟩
  | opening {c : Char} (h : isOpening c = true) : Fits ⟨.opening, [c]⟩
  | closing {c : Char} (h : isClosing c = true) : Fits ⟨.closing, [c]⟩
  | string {body : List Char} (h : Quoted body) : Fits ⟨.string, '"' :: (body ++ ['"'])⟩
  | unterminated : Fits ⟨.unterminated, ['"']⟩
  | atom {run : List Char} (hne : run ≠ []) (h : ∀ c ∈ run, isAtomChar c = true) :
      Fits ⟨.atom, run⟩

def LexemeKind.rank : LexemeKind → Nat
  | .blank => 0
  | .comment => 1
  | .opening => 2
  | .closing => 3
  | .string => 4
  | .unterminated => 5
  | .atom => 6

structure Lexeme.Matches (l : Lexeme) (cs : List Char) : Prop where
  fits : l.Fits
  start : l.text <+: cs
  first : ∀ k : Lexeme, k.Fits → k.text <+: cs → l.kind.rank ≤ k.kind.rank
  longest : ∀ k : Lexeme, k.Fits → k.text <+: cs → k.kind = l.kind →
    k.text.length ≤ l.text.length

/-- What a search finds in a text, where it passes over characters at which there is no lexeme. -/
inductive Found : List Char → List Lexeme → Prop where
  | nil : Found [] []
  | hit {l : Lexeme} {after : List Char} {ls : List Lexeme} (h : l.Matches (l.text ++ after))
      (rest : Found after ls) : Found (l.text ++ after) (l :: ls)
  | skip {c : Char} {cs : List Char} {ls : List Lexeme} (h : ∀ l : Lexeme, ¬ l.Matches (c :: cs))
      (rest : Found cs ls) : Found (c :: cs) ls

/-- No quote closes a string here, unless it is escaped. -/
def Unclosed (cs : List Char) : Prop := ∀ body rest, Quoted body → cs ≠ body ++ '"' :: rest

structure Placed where
  lexeme : Lexeme
  line : Nat

/-- The lexemes that are handed out from a line on, and the line of the string that does not end,
where handing out stops. -/
def handOut (line : Nat) : List Lexeme → List Placed × Option Nat
  | [] => ([], none)
  | l :: ls =>
    if l.kind = .unterminated then ([], some line)
    else
      let rest := handOut (line + l.text.count '\n') ls
      if l.isSpace then rest else (⟨l, line⟩ :: rest.1, rest.2)

def Terminated (ls : List Lexeme) : Prop := ∀ l ∈ ls, l.kind ≠ .unterminated

/-- A lexeme that is handed out, no blank or comment and not behind a string that does not end, and
the line behind the text before it. -/
def Handed (line : Nat) (ls : List Lexeme) (x : Placed) : Prop :=
  ∃ before after, ls = before ++ x.lexeme :: after ∧ Terminated (before ++ [x.lexeme]) ∧
    x.lexeme.isSpace = false ∧ x.line = line + (before.flatMap Lexeme.text).count '\n'

def scan (source : List Char) : List Placed × Option Nat := handOut 1 (lexemes source)

def ReadState.take (s : ReadState) (x : Placed) : Except ReadError ReadState :=
  (s.atLine x.line).accept x.lexeme

/-- The forms of what is handed out, from a state on. -/
def ReadState.readOn (s : ReadState) (handed : List Placed × Option Nat) :
    Except ReadError (List Datum) := do
  let next ← handed.1.foldlM ReadState.take s
  match handed.2 with
  | some line => .error (.located .unterminatedString line)
  | none => next.finish

theorem Lexeme.Before.fits {l : Lexeme} {after : List Char} (h : l.Before after) : l.Fits := by
  cases h with
  | blank hne h _ => exact .blank hne h
  | comment h _ => exact .comment h
  | opening h => exact .opening h
  | closing h => exact .closing h
  | string h => exact .string h
  | unterminated _ => exact .unterminated
  | atom hne h _ => exact .atom hne h

def startKind (c : Char) : LexemeKind :=
  if Text.isBlank c then .blank
  else if c = ';' then .comment
  else if isOpening c then .opening
  else if isClosing c then .closing
  else if c = '"' then .unterminated
  else .atom

theorem startKind_atom {c : Char} (h : isAtomChar c = true) : startKind c = .atom := by
  obtain ⟨hblank, hopening, hclosing, hquote, hsemi⟩ := isAtomChar_iff.1 h
  simp [startKind, hblank, hopening, hclosing, hquote, hsemi]

theorem Lexeme.Fits.startKind {l : Lexeme} (h : l.Fits) : ∃ c cs, l.text = c :: cs ∧
    (Sexp.startKind c = l.kind ∨ l.kind = .string ∧ Sexp.startKind c = .unterminated) := by
  cases h with
  | @blank run hne h =>
    obtain ⟨c, run, rfl⟩ := List.exists_cons_of_ne_nil hne
    have hc := h c List.mem_cons_self
    exact ⟨c, run, rfl, .inl (by rw [Sexp.startKind, if_pos hc])⟩
  | comment _ => exact ⟨_, _, rfl, .inl rfl⟩
  | opening h =>
    rw [isOpening, Bool.or_eq_true, beq_iff_eq, beq_iff_eq] at h
    refine ⟨_, _, rfl, .inl ?_⟩
    rcases h with rfl | rfl <;> rfl
  | closing h =>
    rw [isClosing, Bool.or_eq_true, beq_iff_eq, beq_iff_eq] at h
    refine ⟨_, _, rfl, .inl ?_⟩
    rcases h with rfl | rfl <;> rfl
  | string _ => exact ⟨_, _, rfl, .inr ⟨rfl, rfl⟩⟩
  | unterminated => exact ⟨_, _, rfl, .inl rfl⟩
  | @atom run hne h =>
    obtain ⟨c, run, rfl⟩ := List.exists_cons_of_ne_nil hne
    exact ⟨c, run, rfl, .inl (startKind_atom (h c List.mem_cons_self))⟩

/-- Two lexemes at one place have the same kind, unless one is a string and the other its quote. -/
theorem Lexeme.Fits.kinds {l k : Lexeme} {cs : List Char} (hl : l.Fits) (hk : k.Fits)
    (hls : l.text <+: cs) (hks : k.text <+: cs) :
    l.kind = k.kind ∨ (l.kind = .string ∧ k.kind = .unterminated) ∨
      (l.kind = .unterminated ∧ k.kind = .string) := by
  obtain ⟨c, ds, hc, hcl⟩ := hl.startKind
  obtain ⟨d, es, hd, hdk⟩ := hk.startKind
  rw [hc] at hls
  rw [hd] at hks
  obtain ⟨_, rfl⟩ := hls
  obtain ⟨rfl, _⟩ := List.cons_prefix_cons.1 hks
  rcases hcl with hcl | ⟨hl, hcl⟩ <;> rcases hdk with hdk | ⟨hk, hdk⟩
  · exact .inl (hcl.symm.trans hdk)
  · exact .inr (.inr ⟨hcl.symm.trans hdk, hk⟩)
  · exact .inr (.inl ⟨hl, hdk.symm.trans hcl⟩)
  · exact .inl (hl.trans hk.symm)

theorem run_length_le {p : Char → Bool} {run other after : List Char} (he : Ends p after)
    (h : ∀ c ∈ other, p c = true) (hp : other <+: run ++ after) : other.length ≤ run.length := by
  induction run generalizing other with
  | nil =>
    cases other with
    | nil => exact Nat.le_refl 0
    | cons c other =>
      obtain ⟨rest, rfl⟩ := hp
      have hc : p c = false := he c (other ++ rest) rfl
      exact absurd (h c List.mem_cons_self) (Bool.eq_false_iff.1 hc)
  | cons c run ih =>
    cases other with
    | nil => exact Nat.zero_le _
    | cons d other =>
      rw [List.forall_mem_cons] at h
      exact Nat.succ_le_succ (ih h.2 (List.cons_prefix_cons.1 hp).2)

theorem Lexeme.Before.longest {l k : Lexeme} {after : List Char} (h : l.Before after) (hk : k.Fits)
    (hp : k.text <+: l.text ++ after) (hkind : k.kind = l.kind) :
    k.text.length ≤ l.text.length := by
  cases h with
  | blank _ _ he =>
    cases hk with
    | blank _ hk => exact run_length_le he hk hp
    | _ => cases hkind
  | comment _ he =>
    cases hk with
    | comment hk =>
      have hline : ∀ c ∈ _, (c != '\n') = true := fun c hc => bne_iff_ne.2 (hk c hc)
      exact Nat.succ_le_succ (run_length_le he hline (List.cons_prefix_cons.1 hp).2)
    | _ => cases hkind
  | opening _ =>
    cases hk with
    | opening _ => exact Nat.le_refl 1
    | _ => cases hkind
  | closing _ =>
    cases hk with
    | closing _ => exact Nat.le_refl 1
    | _ => cases hkind
  | @string body after h =>
    cases hk with
    | @string other hk =>
      obtain ⟨rest, hrest⟩ := hp
      have htail : other ++ '"' :: rest = body ++ '"' :: after := by
        simpa using hrest
      have hbody := h.stringRest? after
      rw [← htail, hk.stringRest? rest] at hbody
      obtain ⟨hsame, _⟩ := Prod.mk.inj (Option.some.inj hbody)
      rw [hsame]
    | _ => cases hkind
  | unterminated _ =>
    cases hk with
    | unterminated => exact Nat.le_refl 1
    | _ => cases hkind
  | atom _ _ he =>
    cases hk with
    | atom _ hk => exact run_length_le he hk hp
    | _ => cases hkind

theorem Lexeme.Before.first {l k : Lexeme} {after : List Char} (h : l.Before after) (hk : k.Fits)
    (hp : k.text <+: l.text ++ after) : l.kind.rank ≤ k.kind.rank := by
  rcases h.fits.kinds hk (List.prefix_append _ _) hp with hkind | ⟨hl, hk⟩ | ⟨hl, hkind⟩
  · rw [hkind]
  · rw [hl, hk]
    decide
  · -- A quote that is no string has no string at its place.
    cases h with
    | unterminated h =>
      cases hk with
      | @string body hq =>
        obtain ⟨rest, hrest⟩ := hp
        have htail : body ++ '"' :: rest = after := by simpa using hrest
        exact absurd htail.symm (h body rest hq)
      | _ => cases hkind
    | _ => cases hl

theorem Lexeme.Before.matches {l : Lexeme} {after : List Char} (h : l.Before after) :
    l.Matches (l.text ++ after) :=
  ⟨h.fits, List.prefix_append _ _, fun _ hk hp => h.first hk hp,
    fun _ hk hp hkind => h.longest hk hp hkind⟩

theorem LexemeKind.rank_injective {a b : LexemeKind} (h : a.rank = b.rank) : a = b := by
  revert h
  cases a <;> cases b <;> decide

theorem Lexeme.Matches.unique {l k : Lexeme} {cs : List Char} (hl : l.Matches cs)
    (hk : k.Matches cs) : l = k := by
  have hkind : l.kind = k.kind := LexemeKind.rank_injective
    (Nat.le_antisymm (hl.first k hk.fits hk.start) (hk.first l hl.fits hl.start))
  have hlength : l.text.length = k.text.length :=
    Nat.le_antisymm (hk.longest l hl.fits hl.start hkind)
      (hl.longest k hk.fits hk.start hkind.symm)
  have htext : l.text = k.text :=
    (List.prefix_of_prefix_length_le hl.start hk.start (Nat.le_of_eq hlength)).eq_of_length hlength
  obtain ⟨kind, text⟩ := l
  obtain rfl := hkind
  obtain rfl := htext
  rfl

theorem lexemeAt_matches (c : Char) (cs : List Char) :
    (lexemeAt c cs).1.Matches (c :: cs) := by
  rw [← lexemeAt_append c cs]
  exact (lexemeAt_before c cs).matches

theorem Lexeme.Matches.lexemes {l : Lexeme} {after : List Char}
    (h : l.Matches (l.text ++ after)) : lexemes (l.text ++ after) = l :: lexemes after := by
  obtain ⟨c, ds, hc, _⟩ := h.fits.startKind
  have hcs : l.text ++ after = c :: (ds ++ after) := by rw [hc, List.cons_append]
  have hl : (lexemeAt c (ds ++ after)).1 = l :=
    (lexemeAt_matches c (ds ++ after)).unique (hcs ▸ h)
  have hafter : (lexemeAt c (ds ++ after)).2 = after := by
    have happend := lexemeAt_append c (ds ++ after)
    rw [hl, ← hcs] at happend
    exact List.append_cancel_left happend
  rw [hcs, Sexp.lexemes, hl, hafter]

theorem Cut.found {source : List Char} {ls : List Lexeme} (h : Cut source ls) :
    Found source ls := by
  induction h with
  | nil => exact .nil
  | cons h _ ih => exact .hit h.matches ih

/-- A search finds the lexemes of a source text, and passes over nothing. -/
theorem found_iff {source : List Char} {ls : List Lexeme} :
    Found source ls ↔ lexemes source = ls := by
  constructor
  · intro h
    induction h with
    | nil => rw [lexemes]
    | hit h _ ih => rw [h.lexemes, ih]
    | @skip c cs _ h _ _ => exact absurd (lexemeAt_matches c cs) (h _)
  · rintro rfl
    exact (cut_lexemes source).found

theorem Cut.flatMap {source : List Char} {ls : List Lexeme} (h : Cut source ls) :
    ls.flatMap Lexeme.text = source := by
  rw [← cut_iff.1 h, flatMap_lexemes]

theorem Cut.before_rest {source : List Char} {before after : List Lexeme} {l : Lexeme}
    (h : Cut source (before ++ l :: after)) : l.Before (after.flatMap Lexeme.text) := by
  induction before generalizing source with
  | nil =>
    cases h with
    | cons h hs => exact hs.flatMap ▸ h
  | cons k before ih =>
    cases h with
    | cons _ hs => exact ih hs

/-- A lexeme is unterminated if it starts with a quote that nothing closes. -/
theorem Lexeme.Before.unterminated_iff {l : Lexeme} {after : List Char} (h : l.Before after) :
    l.kind = .unterminated ↔ ∃ rest, l.text ++ after = '"' :: rest ∧ Unclosed rest := by
  constructor
  · intro hl
    cases h with
    | unterminated h => exact ⟨after, rfl, h⟩
    | _ => cases hl
  · rintro ⟨rest, htext, hrest⟩
    obtain ⟨c, cs, hc, hkind⟩ := h.fits.startKind
    rw [hc] at htext
    obtain ⟨rfl, hcs⟩ := List.cons.inj htext
    rcases hkind with hkind | ⟨hkind, _⟩
    · exact hkind.symm
    · cases h with
      | @string body _ h =>
        obtain ⟨_, rfl⟩ := List.cons.inj hc
        have htail : rest = body ++ '"' :: after := by simpa using hcs.symm
        exact absurd htail (hrest body after h)
      | _ => cases hkind

theorem Quoted.backslash {body a b : List Char} (h : Quoted body) (hab : body = a ++ '\\' :: b) :
    b ≠ [] ∨ ∃ a', Quoted a' ∧ a = a' ++ ['\\'] := by
  induction h generalizing a with
  | nil => simp at hab
  | @raw c body hq hb _ ih =>
    cases a with
    | nil => exact absurd (List.cons.inj hab).1 hb
    | cons d a =>
      obtain ⟨rfl, htail⟩ := List.cons.inj hab
      rcases ih htail with hne | ⟨a', ha', rfl⟩
      · exact .inl hne
      · exact .inr ⟨c :: a', .raw hq hb ha', rfl⟩
  | @escape c body _ ih =>
    cases a with
    | nil =>
      obtain ⟨_, rfl⟩ := List.cons.inj hab
      exact .inl (List.cons_ne_nil c body)
    | cons d a =>
      obtain ⟨rfl, htail⟩ := List.cons.inj hab
      cases a with
      | nil => exact .inr ⟨[], .nil, rfl⟩
      | cons e a =>
        obtain ⟨rfl, hrest⟩ := List.cons.inj htail
        rcases ih hrest with hne | ⟨a', ha', rfl⟩
        · exact .inl hne
        · exact .inr ⟨'\\' :: c :: a', .escape ha', rfl⟩

theorem handOut_cons_unterminated {l : Lexeme} (h : l.kind = .unterminated) (line : Nat)
    (ls : List Lexeme) : handOut line (l :: ls) = ([], some line) := by
  rw [handOut, if_pos h]

theorem handOut_cons_space {l : Lexeme} (h : l.isSpace = true) (line : Nat) (ls : List Lexeme) :
    handOut line (l :: ls) = handOut (line + l.text.count '\n') ls := by
  have hk : l.kind ≠ .unterminated := by
    intro hk
    rw [Lexeme.isSpace, hk] at h
    cases h
  rw [handOut, if_neg hk]
  dsimp only
  rw [if_pos h]

theorem handOut_cons {l : Lexeme} (hk : l.kind ≠ .unterminated) (h : l.isSpace = false)
    (line : Nat) (ls : List Lexeme) : handOut line (l :: ls) =
      (⟨l, line⟩ :: (handOut (line + l.text.count '\n') ls).1,
        (handOut (line + l.text.count '\n') ls).2) := by
  rw [handOut, if_neg hk]
  dsimp only
  rw [h, if_neg Bool.false_ne_true]

theorem terminated_cons {l : Lexeme} {ls : List Lexeme} :
    Terminated (l :: ls) ↔ l.kind ≠ .unterminated ∧ Terminated ls := List.forall_mem_cons

theorem handed_cons {line : Nat} {l : Lexeme} {ls : List Lexeme} {x : Placed} :
    Handed line (l :: ls) x ↔ l.kind ≠ .unterminated ∧
      ((l.isSpace = false ∧ x = ⟨l, line⟩) ∨ Handed (line + l.text.count '\n') ls x) := by
  constructor
  · rintro ⟨before, after, hls, hterm, hspace, hline⟩
    obtain ⟨k, n⟩ := x
    cases before with
    | nil =>
      obtain ⟨rfl, rfl⟩ := List.cons.inj hls
      obtain rfl : n = line := hline
      exact ⟨hterm _ List.mem_cons_self, .inl ⟨hspace, rfl⟩⟩
    | cons _ before =>
      obtain ⟨rfl, rfl⟩ := List.cons.inj hls
      rw [List.cons_append, terminated_cons] at hterm
      rw [List.flatMap_cons, List.count_append, ← Nat.add_assoc] at hline
      exact ⟨hterm.1, .inr ⟨before, after, rfl, hterm.2, hspace, hline⟩⟩
  · rintro ⟨hk, ⟨hspace, rfl⟩ | ⟨before, after, rfl, hterm, hspace, hline⟩⟩
    · exact ⟨[], ls, rfl, by simpa [Terminated] using hk, hspace, rfl⟩
    · refine ⟨l :: before, after, rfl, terminated_cons.2 ⟨hk, hterm⟩, hspace, ?_⟩
      rw [List.flatMap_cons, List.count_append, ← Nat.add_assoc]
      exact hline

theorem mem_handOut_iff {line : Nat} {ls : List Lexeme} {x : Placed} :
    x ∈ (handOut line ls).1 ↔ Handed line ls x := by
  induction ls generalizing line with
  | nil => simp [handOut, Handed]
  | cons l ls ih =>
    rw [handed_cons]
    by_cases hk : l.kind = .unterminated
    · simp [handOut_cons_unterminated hk, hk]
    cases hs : l.isSpace with
    | true => simp [handOut_cons_space hs, ih, hk]
    | false => simp [handOut_cons hk hs, ih, hk]

theorem stop_handOut {line : Nat} {ls : List Lexeme} :
    (handOut line ls).2 = none ↔ Terminated ls := by
  induction ls generalizing line with
  | nil => simp [handOut, Terminated]
  | cons l ls ih =>
    rw [terminated_cons]
    by_cases hk : l.kind = .unterminated
    · simp [handOut_cons_unterminated hk, hk]
    cases hs : l.isSpace with
    | true => simp [handOut_cons_space hs, ih, hk]
    | false => simp [handOut_cons hk hs, ih, hk]

theorem map_handOut {line : Nat} {ls : List Lexeme} : (handOut line ls).1.map Placed.lexeme =
    significant (ls.takeWhile fun l => l.kind != .unterminated) := by
  induction ls generalizing line with
  | nil => rfl
  | cons l ls ih =>
    by_cases hk : l.kind = .unterminated
    · simp [handOut_cons_unterminated hk, hk, significant]
    have hopen : (l.kind != .unterminated) = true := bne_iff_ne.2 hk
    rw [List.takeWhile_cons, hopen, if_pos rfl]
    cases hs : l.isSpace with
    | true => rw [handOut_cons_space hs, significant_cons_space hs, ih]
    | false => rw [handOut_cons hk hs, significant_cons hs, List.map_cons, ih]

theorem accept_space {l : Lexeme} (h : l.isSpace = true) (s : ReadState) : s.accept l = .ok s := by
  rw [Lexeme.isSpace, Bool.or_eq_true, beq_iff_eq, beq_iff_eq] at h
  rcases h with h | h <;> rw [ReadState.accept, h]

theorem step_atLine (s : ReadState) (l : Lexeme) (line : Nat) : (s.atLine line).step l =
    ((s.atLine line).accept l).map (ReadState.atLine · (line + l.text.count '\n')) := rfl

theorem readOn_cons (s : ReadState) (x : Placed) (xs : List Placed) (stop : Option Nat) :
    s.readOn (x :: xs, stop) = s.take x >>= fun next => next.readOn (xs, stop) := by
  unfold ReadState.readOn
  rw [List.foldlM_cons, bind_assoc]

theorem readOn_handOut (ls : List Lexeme) (s : ReadState) (line : Nat) :
    (ls.foldlM ReadState.step (s.atLine line) >>= ReadState.finish) =
      s.readOn (handOut line ls) := by
  induction ls generalizing s line with
  | nil => rfl
  | cons l ls ih =>
    rw [List.foldlM_cons, bind_assoc, step_atLine]
    by_cases hk : l.kind = .unterminated
    · rw [handOut_cons_unterminated hk, ReadState.accept, hk]
      rfl
    cases hs : l.isSpace with
    | true =>
      rw [handOut_cons_space hs, accept_space hs, ← ih]
      rfl
    | false =>
      rw [handOut_cons hk hs, readOn_cons, ReadState.take]
      cases (s.atLine line).accept l with
      | error e => rfl
      | ok next => exact ih next _

theorem readAll_eq_readOn (source : List Char) :
    readAll source = ReadState.start.readOn (scan source) :=
  readOn_handOut (lexemes source) ReadState.start 1

theorem stop_scan_iff {source : List Char} : (scan source).2 ≠ none ↔
    ∃ before l after rest, lexemes source = before ++ l :: after ∧
      l.text ++ after.flatMap Lexeme.text = '"' :: rest ∧ Unclosed rest := by
  rw [scan, Ne, stop_handOut]
  constructor
  · intro h
    unfold Terminated at h
    push Not at h
    obtain ⟨l, hl, hk⟩ := h
    obtain ⟨before, after, hls⟩ := List.append_of_mem hl
    have hbefore := (hls ▸ cut_lexemes source).before_rest
    obtain ⟨rest, hrest, hopen⟩ := hbefore.unterminated_iff.1 hk
    exact ⟨before, l, after, rest, hls, hrest, hopen⟩
  · rintro ⟨before, l, after, rest, hls, hrest, hopen⟩ hterm
    have hbefore := (hls ▸ cut_lexemes source).before_rest
    exact hterm l (by simp [hls]) (hbefore.unterminated_iff.2 ⟨rest, hrest, hopen⟩)

theorem quoted_of_mem_lexemes {source : List Char} {l : Lexeme} (h : l ∈ lexemes source)
    (hk : l.kind = .string) : ∃ body, l.text = '"' :: (body ++ ['"']) ∧ Quoted body := by
  obtain ⟨after, hl⟩ := (cut_lexemes source).before h
  cases hl with
  | string hq => exact ⟨_, rfl, hq⟩
  | _ => cases hk

/-- A search through a source text finds its lexemes and passes over nothing, so they spell it.
Those that are no blanks and comments are handed out in their order, each with its line, and handing
out stops exactly at a quote that nothing closes. The quote at the end of a string is not escaped,
and what is handed out is all that the reader reads. -/
theorem scan_source (source : List Char) :
    (∀ ls, Found source ls ↔ lexemes source = ls) ∧
      (lexemes source).flatMap Lexeme.text = source ∧
      (scan source).1.map Placed.lexeme =
        significant ((lexemes source).takeWhile fun l => l.kind != .unterminated) ∧
      (∀ x, x ∈ (scan source).1 ↔ Handed 1 (lexemes source) x) ∧
      ((scan source).2 ≠ none ↔ ∃ before l after rest, lexemes source = before ++ l :: after ∧
        l.text ++ after.flatMap Lexeme.text = '"' :: rest ∧ Unclosed rest) ∧
      (∀ l ∈ lexemes source, l.kind = .string →
        ∃ body, l.text = '"' :: (body ++ ['"']) ∧ Quoted body ∧
          ∀ a b, body = a ++ '\\' :: b → b ≠ [] ∨ ∃ a', Quoted a' ∧ a = a' ++ ['\\']) ∧
      readAll source = ReadState.start.readOn (scan source) := by
  refine ⟨fun _ => found_iff, flatMap_lexemes source, map_handOut, fun _ => mem_handOut_iff,
    stop_scan_iff, fun l hl hk => ?_, readAll_eq_readOn source⟩
  obtain ⟨body, htext, hbody⟩ := quoted_of_mem_lexemes hl hk
  exact ⟨body, htext, hbody, fun _ _ hab => hbody.backslash hab⟩

end ElementMarkup.Sexp
