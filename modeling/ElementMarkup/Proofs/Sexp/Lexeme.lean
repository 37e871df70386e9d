import ElementMarkup.Proofs.Number.Literal
import ElementMarkup.Sexp.Read

/-!
# Source texts and their lexemes

A lexeme is what it is by its own characters and by the text behind it: a run of blanks and an atom
go on for as long as they can, a comment goes to the end of its line, a string ends with the first
quote that is not escaped, and a quote is unterminated if there is no such quote.

Lexemes are laid out with blanks and comments before, between and behind them, and with at least one
blank or comment between two atoms. Cutting such a source text gives the lexemes back, whatever
stands between them.
-/

set_option autoImplicit false

namespace ElementMarkup.Sexp

def Lexeme.isSpace (l : Lexeme) : Bool := l.kind == .blank || l.kind == .comment

def significant (ls : List Lexeme) : List Lexeme := ls.filter fun l => !l.isSpace

/-- A text and a body that denotes it: quotes and backslashes are escaped, and any other character
stands for itself or is escaped. -/
inductive Escaped : List Char → List Char → Prop where
  | nil : Escaped [] []
  | raw {c : Char} {value body : List Char} (hq : c ≠ '"') (hb : c ≠ '\\')
      (h : Escaped value body) : Escaped (c :: value) (c :: body)
  | escape {c d : Char} {value body : List Char} (hc : escapes.lookup c = some d)
      (h : Escaped value body) : Escaped (d :: value) ('\\' :: c :: body)

/-- A body in which every quote and every backslash is escaped, whatever the escapes mean. -/
inductive Quoted : List Char → Prop where
  | nil : Quoted []
  | raw {c : Char} {body : List Char} (hq : c ≠ '"') (hb : c ≠ '\\') (h : Quoted body) :
      Quoted (c :: body)
  | escape {c : Char} {body : List Char} (h : Quoted body) : Quoted ('\\' :: c :: body)

def Ends (p : Char → Bool) (cs : List Char) : Prop := ∀ c rest, cs = c :: rest → p c = false

inductive Lexeme.Before : Lexeme → List Char → Prop where
  | blank {run after : List Char} (hne : run ≠ []) (h : ∀ c ∈ run, Text.isBlank c = true)
      (he : Ends Text.isBlank after) : Before ⟨.blank, run⟩ after
  | comment {text after : List Char} (h : ∀ c ∈ text, c ≠ '\n') (he : Ends (· != '\n') after) :
      Before ⟨.comment, ';' :: text⟩ after
  | opening {c : Char} {after : List Char} (h : isOpening c = true) : Before ⟨.opening, [c]⟩ after
  | closing {c : Char} {after : List Char} (h : isClosing c = true) : Before ⟨.closing, [c]⟩ after
  | string {body after : List Char} (h : Quoted body) :
      Before ⟨.string, '"' :: (body ++ ['"'])⟩ after
  | unterminated {after : List Char} (h : ∀ body rest, Quoted body → after ≠ body ++ '"' :: rest) :
      Before ⟨.unterminated, ['"']⟩ after
  | atom {run after : List Char} (hne : run ≠ []) (h : ∀ c ∈ run, isAtomChar c = true)
      (he : Ends isAtomChar after) : Before ⟨.atom, run⟩ after

inductive Lexeme.Shaped : Lexeme → Prop where
  | opening {c : Char} (h : isOpening c = true) : Shaped ⟨.opening, [c]⟩
  | closing {c : Char} (h : isClosing c = true) : Shaped ⟨.closing, [c]⟩
  | string {value body : List Char} (h : Escaped value body) :
      Shaped ⟨.string, '"' :: (body ++ ['"'])⟩
  | atom {c : Char} {cs : List Char} (hc : isAtomChar c = true)
      (h : ∀ d ∈ cs, isAtomChar d = true) : Shaped ⟨.atom, c :: cs⟩

/-- Source text with the lexemes and with blanks and comments around them. The flag says that an
atom ends right before the text, so that no atom may follow at once. -/
inductive Laid : Bool → List Lexeme → List Char → Prop where
  | nil {b : Bool} : Laid b [] []
  | blank {b : Bool} {c : Char} {ls : List Lexeme} {cs : List Char} (hc : Text.isBlank c = true)
      (h : Laid false ls cs) : Laid b ls (c :: cs)
  | comment {b : Bool} {text : List Char} {ls : List Lexeme} {cs : List Char}
      (ht : ∀ c ∈ text, c ≠ '\n') (he : ∀ c rest, cs = c :: rest → c = '\n')
      (h : Laid false ls cs) : Laid b ls (';' :: (text ++ cs))
  | lexeme {b : Bool} {l : Lexeme} {ls : List Lexeme} {cs : List Char}
      (hb : b = true → l.kind ≠ .atom) (h : Laid (l.kind == .atom) ls cs) :
      Laid b (l :: ls) (l.text ++ cs)

theorem isAtomChar_iff {c : Char} : isAtomChar c = true ↔ Text.isBlank c = false ∧
    isOpening c = false ∧ isClosing c = false ∧ c ≠ '"' ∧ c ≠ ';' := by
  unfold isAtomChar
  simp only [Bool.not_eq_true', Bool.or_eq_false_iff, beq_eq_false_iff_ne, and_assoc]

theorem isDigit_code {c : Char} (h : Text.isDigit c = true) :
    (48 ≤ c.toNat ∧ c.toNat ≤ 57) ∨
      (128 ≤ c.toNat ∧ ∃ z ∈ Text.zeros, z ≤ c.toNat ∧ c.toNat < z + 10) := by
  unfold Text.isDigit Text.digitValue? at h
  split at h
  · split at h
    · rename_i hc
      exact .inl hc
    · simp at h
  · rename_i hc
    rw [Option.isSome_map, List.find?_isSome] at h
    obtain ⟨z, hz, hzc⟩ := h
    rw [Bool.and_eq_true, decide_eq_true_eq, decide_eq_true_eq] at hzc
    exact .inr ⟨Nat.le_of_not_lt hc, z, hz, hzc⟩

theorem isBlank_code {c : Char} (h : Text.isBlank c = true) : c.toNat < 48 ∨
    c.toNat ∈ [0x85, 0xa0, 0x1680, 0x2028, 0x2029, 0x202f, 0x205f, 0x3000] ∨
    (0x2000 ≤ c.toNat ∧ c.toNat ≤ 0x200a) := by
  unfold Text.isBlank at h
  simp only [Bool.or_eq_true, Bool.and_eq_true, decide_eq_true_eq, beq_iff_eq] at h
  simp only [List.mem_cons, List.not_mem_nil, or_false]
  omega

theorem zeros_apart : ∀ z ∈ Text.zeros,
    (∀ n ∈ [0x85, 0xa0, 0x1680, 0x2028, 0x2029, 0x202f, 0x205f, 0x3000], n < z ∨ z + 10 ≤ n) ∧
      (0x200a < z ∨ z + 10 ≤ 0x2000) ∨ z = 48 := by
  decide

theorem isAtomChar_of_isDigit {c : Char} (h : Text.isDigit c = true) : isAtomChar c = true := by
  have hcode := isDigit_code h
  have hne {d : Char} (hd : d.toNat < 48 ∨ (57 < d.toNat ∧ d.toNat < 128)) : c ≠ d := by
    rintro rfl
    omega
  have hblank : Text.isBlank c = false := by
    rw [← Bool.not_eq_true]
    intro hb
    have hcb := isBlank_code hb
    rcases hcode with hc | ⟨hc, z, hz, hlow, hhigh⟩
    · simp only [List.mem_cons, List.not_mem_nil, or_false] at hcb
      omega
    · rcases zeros_apart z hz with ⟨hpoints, hrange⟩ | rfl
      · rcases hcb with hcb | hcb | hcb
        · omega
        · have hpoint := hpoints _ hcb
          omega
        · omega
      · omega
  rw [isAtomChar_iff]
  refine ⟨hblank, ?_, ?_, hne (by decide), hne (by decide)⟩
  · rw [isOpening, Bool.or_eq_false_iff, beq_eq_false_iff_ne, beq_eq_false_iff_ne]
    exact ⟨hne (by decide), hne (by decide)⟩
  · rw [isClosing, Bool.or_eq_false_iff, beq_eq_false_iff_ne, beq_eq_false_iff_ne]
    exact ⟨hne (by decide), hne (by decide)⟩

theorem isAtomChar_of_signText {negative : Bool} {sign : List Char} (h : SignText negative sign) :
    ∀ c ∈ sign, isAtomChar c = true := by
  rw [← List.all_eq_true]
  cases h <;> rfl

theorem isAtomChar_of_spells {l : NumberLiteral} {cs : List Char} (h : l.Spells cs) :
    ∀ c ∈ cs, isAtomChar c = true := by
  have hdigits {ds : List Char} (hd : Digits ds) : ∀ c ∈ ds, isAtomChar c = true :=
    fun c hc => isAtomChar_of_isDigit (hd c hc)
  obtain ⟨negative, whole, fraction, exponent⟩ := l
  obtain ⟨sign, mantissa, ending, rfl, hs, hm, he⟩ := h
  dsimp only at hs hm he
  have hmantissa : ∀ c ∈ mantissa, isAtomChar c = true := by
    cases hm with
    | whole hd => exact hdigits hd
    | pointed hw hf =>
      exact List.forall_mem_append.2
        ⟨hdigits hw, List.forall_mem_cons.2 ⟨by decide, hdigits hf⟩⟩
  have hending : ∀ c ∈ ending, isAtomChar c = true := by
    cases he with
    | none => simp
    | some he hs hd =>
      refine List.forall_mem_cons.2 ⟨?_, List.forall_mem_append.2
        ⟨isAtomChar_of_signText hs, hdigits hd⟩⟩
      rcases he with rfl | rfl <;> decide
  exact List.forall_mem_append.2
    ⟨isAtomChar_of_signText hs, List.forall_mem_append.2 ⟨hmantissa, hending⟩⟩

theorem Escaped.quoted {value body : List Char} (h : Escaped value body) : Quoted body := by
  induction h with
  | nil => exact .nil
  | raw hq hb _ ih => exact .raw hq hb ih
  | escape _ _ ih => exact .escape ih

theorem Quoted.stringRest? {body : List Char} (h : Quoted body) (rest : List Char) :
    stringRest? (body ++ '"' :: rest) = some (body ++ ['"'], rest) := by
  induction h with
  | nil => rfl
  | @raw c body hq hb _ ih =>
    rw [List.cons_append, Sexp.stringRest?, ih]
    · rfl
    · exact fun h => hq h
    · rintro _ _ h _
      exact hb h
    · exact fun h _ => hb h
  | escape _ ih =>
    rw [List.cons_append, List.cons_append, Sexp.stringRest?, ih]
    rfl

theorem exists_of_stringRest? {cs text after : List Char}
    (h : stringRest? cs = some (text, after)) :
    ∃ body, Quoted body ∧ text = body ++ ['"'] ∧ cs = body ++ '"' :: after := by
  fun_induction stringRest? cs generalizing text with
  | case1 => simp at h
  | case2 cs =>
    obtain ⟨rfl, rfl⟩ := Prod.mk.inj (Option.some.inj h)
    exact ⟨[], .nil, rfl, rfl⟩
  | case3 c cs ih =>
    obtain ⟨⟨text', after'⟩, hr, hx⟩ := Option.map_eq_some_iff.1 h
    obtain ⟨rfl, rfl⟩ := Prod.mk.inj hx
    obtain ⟨body, hb, rfl, rfl⟩ := ih hr
    exact ⟨'\\' :: c :: body, .escape hb, rfl, rfl⟩
  | case4 => simp at h
  | case5 c cs hq hb hl ih =>
    obtain ⟨⟨text', after'⟩, hr, hx⟩ := Option.map_eq_some_iff.1 h
    obtain ⟨rfl, rfl⟩ := Prod.mk.inj hx
    obtain ⟨body, hbody, rfl, rfl⟩ := ih hr
    -- The body is followed by its quote, so a backslash here would have taken a character with it.
    have hslash : c ≠ '\\' := by
      intro hc
      obtain ⟨d, ds, hd⟩ := List.exists_cons_of_ne_nil
        (show body ++ '"' :: after' ≠ [] by simp)
      exact hb d ds hc hd
    exact ⟨c :: body, .raw (fun hc => hq hc) hslash hbody, rfl, rfl⟩

theorem stringRest?_eq_none_iff {cs : List Char} :
    stringRest? cs = none ↔ ∀ body rest, Quoted body → cs ≠ body ++ '"' :: rest := by
  constructor
  · intro h body rest hb hcs
    rw [hcs, hb.stringRest?] at h
    simp at h
  · intro h
    rw [Option.eq_none_iff_forall_ne_some]
    rintro ⟨text, after⟩ hs
    obtain ⟨body, hb, _, hcs⟩ := exists_of_stringRest? hs
    exact h body after hb hcs

theorem Escaped.unescape_append {value valid : List Char} (h : Escaped value valid)
    (rest : List Char) : Sexp.unescape (valid ++ rest) = (Sexp.unescape rest).map (value ++ ·) := by
  induction h with
  | nil =>
    rw [List.nil_append]
    cases Sexp.unescape rest <;> rfl
  | raw hq hb _ ih =>
    rw [List.cons_append, Sexp.unescape, ih]
    · cases Sexp.unescape rest <;> rfl
    · rintro _ _ h _
      exact hb h
  | escape hc _ ih =>
    rw [List.cons_append, List.cons_append, Sexp.unescape, hc]
    dsimp only
    rw [ih]
    cases Sexp.unescape rest <;> rfl

theorem Escaped.unescape {value body : List Char} (h : Escaped value body) :
    unescape body = .ok value := by
  have hall := h.unescape_append []
  rw [List.append_nil, Sexp.unescape] at hall
  rw [hall, Except.map, List.append_nil]

theorem stringBody_quoted (body : List Char) : stringBody ('"' :: (body ++ ['"'])) = body := by
  rw [stringBody, List.drop_one, List.tail_cons, List.dropLast_concat]

theorem Ends.takeWhile {p : Char → Bool} {cs : List Char} (h : Ends p cs) :
    cs.takeWhile p = [] := by
  cases cs with
  | nil => rfl
  | cons c cs =>
    have hc := h c cs rfl
    simp [hc]

theorem Ends.dropWhile {p : Char → Bool} {cs : List Char} (h : Ends p cs) :
    cs.dropWhile p = cs := by
  cases cs with
  | nil => rfl
  | cons c cs =>
    have hc := h c cs rfl
    simp [hc]

theorem takeWhile_append_of_ends {p : Char → Bool} {run after : List Char}
    (h : ∀ c ∈ run, p c = true) (he : Ends p after) : (run ++ after).takeWhile p = run := by
  rw [List.takeWhile_append_of_pos h, he.takeWhile, List.append_nil]

theorem dropWhile_append_of_ends {p : Char → Bool} {run after : List Char}
    (h : ∀ c ∈ run, p c = true) (he : Ends p after) : (run ++ after).dropWhile p = after := by
  rw [List.dropWhile_append_of_pos h, he.dropWhile]

theorem ends_dropWhile (p : Char → Bool) (cs : List Char) : Ends p (cs.dropWhile p) := by
  intro c rest h
  have hhead := List.head?_dropWhile_not p cs
  rw [h] at hhead
  simpa using hhead

theorem Lexeme.Before.lexemes {l : Lexeme} {after : List Char} (h : l.Before after) :
    lexemes (l.text ++ after) = l :: lexemes after := by
  have hcut {c : Char} {cs : List Char} (hl : lexemeAt c cs = (l, after)) :
      Sexp.lexemes (c :: cs) = l :: Sexp.lexemes after := by
    rw [Sexp.lexemes, hl]
  cases h with
  | @blank run _ hne h he =>
    obtain ⟨c, run, rfl⟩ := List.exists_cons_of_ne_nil hne
    rw [List.forall_mem_cons] at h
    apply hcut
    change lexemeAt c (run ++ after) = _
    rw [lexemeAt, if_pos h.1, takeWhile_append_of_ends h.2 he, dropWhile_append_of_ends h.2 he]
  | @comment text _ h he =>
    have hline : ∀ c ∈ text, (c != '\n') = true := fun c hc => bne_iff_ne.2 (h c hc)
    apply hcut
    change lexemeAt ';' (text ++ after) = _
    rw [lexemeAt, if_neg (by decide), if_pos (by decide), takeWhile_append_of_ends hline he,
      dropWhile_append_of_ends hline he]
  | opening h =>
    rw [isOpening, Bool.or_eq_true, beq_iff_eq, beq_iff_eq] at h
    apply hcut
    rcases h with rfl | rfl <;> rfl
  | closing h =>
    rw [isClosing, Bool.or_eq_true, beq_iff_eq, beq_iff_eq] at h
    apply hcut
    rcases h with rfl | rfl <;> rfl
  | @string body _ h =>
    have hrest := h.stringRest? after
    apply hcut
    change lexemeAt '"' (body ++ ['"'] ++ after) = _
    rw [List.append_assoc, List.singleton_append, lexemeAt, if_neg (by decide), if_neg (by decide),
      if_neg (by decide), if_neg (by decide), if_pos (by decide), hrest]
  | unterminated h =>
    have hnone := stringRest?_eq_none_iff.2 h
    apply hcut
    change lexemeAt '"' after = _
    rw [lexemeAt, if_neg (by decide), if_neg (by decide), if_neg (by decide),
      if_neg (by decide), if_pos (by decide), hnone]
  | @atom run _ hne h he =>
    obtain ⟨c, run, rfl⟩ := List.exists_cons_of_ne_nil hne
    rw [List.forall_mem_cons] at h
    obtain ⟨hblank, hopening, hclosing, hquote, hsemi⟩ := isAtomChar_iff.1 h.1
    apply hcut
    change lexemeAt c (run ++ after) = _
    simp only [lexemeAt, hblank, hopening, hclosing, beq_eq_false_iff_ne.2 hquote,
      beq_eq_false_iff_ne.2 hsemi, Bool.false_eq_true, if_false]
    rw [takeWhile_append_of_ends h.2 he, dropWhile_append_of_ends h.2 he]

def EndsAtom (cs : List Char) : Prop := ∀ c rest, cs = c :: rest → isAtomChar c = false

theorem Lexeme.Shaped.before {l : Lexeme} (h : l.Shaped) {rest : List Char}
    (hr : l.kind = .atom → EndsAtom rest) : l.Before rest := by
  cases h with
  | opening h => exact .opening h
  | closing h => exact .closing h
  | string h => exact .string h.quoted
  | atom hc h => exact .atom (by simp) (List.forall_mem_cons.2 ⟨hc, h⟩) (hr rfl)

theorem lexemes_append {l : Lexeme} (h : l.Shaped) {rest : List Char}
    (hr : l.kind = .atom → EndsAtom rest) : lexemes (l.text ++ rest) = l :: lexemes rest :=
  (h.before hr).lexemes

theorem significant_cons_space {l : Lexeme} (h : l.isSpace = true) (ls : List Lexeme) :
    significant (l :: ls) = significant ls := by
  simp [significant, h]

theorem significant_cons {l : Lexeme} (h : l.isSpace = false) (ls : List Lexeme) :
    significant (l :: ls) = l :: significant ls := by
  simp [significant, h]

theorem lexemes_blank {c : Char} (hc : Text.isBlank c = true) (cs : List Char) :
    significant (lexemes (c :: cs)) = significant (lexemes (cs.dropWhile Text.isBlank)) := by
  rw [lexemes, lexemeAt, if_pos hc, significant_cons_space rfl]

theorem significant_blank {c : Char} (hc : Text.isBlank c = true) (cs : List Char) :
    significant (lexemes (c :: cs)) = significant (lexemes cs) := by
  rw [lexemes_blank hc]
  cases cs with
  | nil => rfl
  | cons d ds =>
    by_cases hd : Text.isBlank d = true
    · rw [List.dropWhile_cons_of_pos hd, lexemes_blank hd]
    · rw [List.dropWhile_cons_of_neg hd]

theorem significant_comment {text cs : List Char} (ht : ∀ c ∈ text, c ≠ '\n')
    (he : ∀ c rest, cs = c :: rest → c = '\n') :
    significant (lexemes (';' :: (text ++ cs))) = significant (lexemes cs) := by
  have hends : Ends (· != '\n') cs := by
    intro c rest h
    obtain rfl := he c rest h
    rfl
  have hcut := (Lexeme.Before.comment ht hends).lexemes
  rw [List.cons_append] at hcut
  rw [hcut, significant_cons_space rfl]

theorem Laid.endsAtom {ls : List Lexeme} {cs : List Char} (h : Laid true ls cs)
    (hs : ∀ l ∈ ls, l.Shaped) : EndsAtom cs := by
  intro d rest hd
  cases h with
  | nil => simp at hd
  | blank hc =>
    obtain ⟨rfl, _⟩ := List.cons.inj hd
    rw [← Bool.not_eq_true, isAtomChar_iff]
    rintro ⟨hblank, _⟩
    exact absurd (hblank.symm.trans hc) Bool.false_ne_true
  | comment =>
    obtain ⟨rfl, _⟩ := List.cons.inj hd
    rfl
  | @lexeme _ l ls cs hb _ =>
    have hkind := hb rfl
    have hl := hs l List.mem_cons_self
    rw [← Bool.not_eq_true, isAtomChar_iff]
    rintro ⟨_, hopening, hclosing, hquote, _⟩
    cases hl with
    | opening h =>
      obtain ⟨rfl, _⟩ := List.cons.inj hd
      exact absurd (hopening.symm.trans h) Bool.false_ne_true
    | closing h =>
      obtain ⟨rfl, _⟩ := List.cons.inj hd
      exact absurd (hclosing.symm.trans h) Bool.false_ne_true
    | string =>
      obtain ⟨rfl, _⟩ := List.cons.inj hd
      exact hquote rfl
    | atom => exact hkind rfl

/-- Source text is cut into the lexemes that it is laid out with. -/
theorem Laid.significant_lexemes {b : Bool} {ls : List Lexeme} {cs : List Char}
    (h : Laid b ls cs) (hs : ∀ l ∈ ls, l.Shaped) : significant (lexemes cs) = ls := by
  induction h with
  | nil =>
    rw [lexemes]
    rfl
  | blank hc _ ih => rw [significant_blank hc, ih hs]
  | comment ht he _ ih => rw [significant_comment ht he, ih hs]
  | @lexeme b l ls cs hb hrest ih =>
    rw [List.forall_mem_cons] at hs
    have hends (hk : l.kind = .atom) : EndsAtom cs := by
      rw [hk] at hrest
      exact hrest.endsAtom hs.2
    have hspace : l.isSpace = false := by
      obtain ⟨hl, _⟩ := hs
      cases hl <;> rfl
    rw [lexemes_append hs.1 hends, significant_cons hspace, ih hs.2]

end ElementMarkup.Sexp
