import ElementMarkup.Proofs.Sexp.Lexeme

/-!
# Written forms

Forms are written as lexemes: a list between brackets of either kind, a string between quotes, a
number as any literal that denotes it, and a symbol as an atom that is no number literal. Source
text laid out with these lexemes is read back as the forms. The reader keeps a stack of open lists,
so what a written sequence of forms does is stated for any stack.
-/

set_option autoImplicit false

namespace ElementMarkup.Sexp

inductive Form where
  | list (items : List Form)
  | string (value : List Char)
  | integer (value : Int)
  | decimal (value : Float)
  | symbol (name : List Char)

mutual

def Form.datum : Form → Datum
  | .list items => .list (Form.data items)
  | .string value => .text (String.ofList value)
  | .integer value => .number (.int value)
  | .decimal value => .number (.float value)
  | .symbol name => .word (String.ofList name)

def Form.data : List Form → List Datum
  | [] => []
  | f :: fs => f.datum :: Form.data fs

end

inductive Token : Form → Lexeme → Prop where
  | string {value body : List Char} (h : Escaped value body) :
      Token (.string value) ⟨.string, '"' :: (body ++ ['"'])⟩
  | integer {l : NumberLiteral} {cs : List Char} (h : l.Spells cs) (hf : l.fraction = none)
      (he : l.exponent = none) (hd : l.whole.length ≤ digitLimit) :
      Token (.integer (signed l.negative (Text.digitsValue l.whole))) ⟨.atom, cs⟩
  | decimal {l : NumberLiteral} {cs : List Char} (h : l.Spells cs)
      (hp : l.fraction ≠ none ∨ l.exponent ≠ none) : Token (.decimal l.toDouble) ⟨.atom, cs⟩
  | symbol {cs : List Char} (hne : cs ≠ []) (hc : ∀ c ∈ cs, isAtomChar c = true)
      (hn : ∀ l : NumberLiteral, ¬ l.Spells cs) : Token (.symbol cs) ⟨.atom, cs⟩

inductive Brackets : Char → Char → Prop where
  | round : Brackets '(' ')'
  | square : Brackets '[' ']'

/-- Forms one after the other, as lexemes. -/
inductive Written : List Form → List Lexeme → Prop where
  | nil : Written [] []
  | token {f : Form} {l : Lexeme} {fs : List Form} {ls : List Lexeme} (h : Token f l)
      (hs : Written fs ls) : Written (f :: fs) (l :: ls)
  | list {items fs : List Form} {inner ls : List Lexeme} {opener closer : Char}
      (hb : Brackets opener closer) (hi : Written items inner) (hs : Written fs ls) :
      Written (.list items :: fs)
        (⟨.opening, [opener]⟩ :: (inner ++ ⟨.closing, [closer]⟩ :: ls))

theorem ne_nil_of_spells {l : NumberLiteral} {cs : List Char} (h : l.Spells cs) : cs ≠ [] := by
  obtain ⟨negative, whole, fraction, exponent⟩ := l
  obtain ⟨sign, mantissa, ending, rfl, _, hm, _⟩ := h
  dsimp only at hm
  cases hm with
  | whole _ hne => simp [hne]
  | pointed => simp

theorem shaped_atom {cs : List Char} (hne : cs ≠ []) (h : ∀ c ∈ cs, isAtomChar c = true) :
    Lexeme.Shaped ⟨.atom, cs⟩ := by
  obtain ⟨c, cs, rfl⟩ := List.exists_cons_of_ne_nil hne
  rw [List.forall_mem_cons] at h
  exact .atom h.1 h.2

theorem Token.shaped {f : Form} {l : Lexeme} (h : Token f l) : l.Shaped := by
  cases h with
  | string h => exact .string h
  | integer h | decimal h => exact shaped_atom (ne_nil_of_spells h) (isAtomChar_of_spells h)
  | symbol hne hc => exact shaped_atom hne hc

theorem Written.shaped {fs : List Form} {ls : List Lexeme} (h : Written fs ls) :
    ∀ l ∈ ls, l.Shaped := by
  induction h with
  | nil => simp
  | token h _ ih => exact List.forall_mem_cons.2 ⟨h.shaped, ih⟩
  | @list _ _ _ _ opener closer hb _ _ ihi ihs =>
    have hbrackets : Lexeme.Shaped ⟨.opening, [opener]⟩ ∧ Lexeme.Shaped ⟨.closing, [closer]⟩ := by
      cases hb with
      | round => exact ⟨.opening (by decide), .closing (by decide)⟩
      | square => exact ⟨.opening (by decide), .closing (by decide)⟩
    exact List.forall_mem_cons.2 ⟨hbrackets.1, List.forall_mem_append.2
      ⟨ihi, List.forall_mem_cons.2 ⟨hbrackets.2, ihs⟩⟩⟩

def ReadState.atLine (s : ReadState) (n : Nat) : ReadState := { s with line := n }

def ReadState.addAll (s : ReadState) (ds : List Datum) : ReadState := ds.foldl ReadState.add s

/-- Lexemes lead from one state to another, whatever the lines are. -/
def Reads (ls : List Lexeme) (s s' : ReadState) : Prop :=
  ∀ n, ∃ m, ls.foldlM ReadState.step (s.atLine n) = .ok (s'.atLine m)

theorem reads_nil (s : ReadState) : Reads [] s s := fun n => ⟨n, rfl⟩

theorem Reads.append {ls ls' : List Lexeme} {s s' s'' : ReadState} (h : Reads ls s s')
    (h' : Reads ls' s' s'') : Reads (ls ++ ls') s s'' := by
  intro n
  obtain ⟨m, hm⟩ := h n
  obtain ⟨k, hk⟩ := h' m
  exact ⟨k, by rw [List.foldlM_append, hm]; exact hk⟩

theorem ReadState.atLine_add (s : ReadState) (n : Nat) (d : Datum) :
    (s.atLine n).add d = (s.add d).atLine n := by
  obtain ⟨line, stack, forms⟩ := s
  cases stack <;> rfl

theorem foldlM_step_cons {l : Lexeme} {s s' : ReadState} (h : s.step l = .ok s')
    (ls : List Lexeme) :
    (l :: ls).foldlM ReadState.step s = ls.foldlM ReadState.step s' := by
  rw [List.foldlM_cons, h]
  rfl

theorem reads_single {l : Lexeme} {s s' : ReadState}
    (h : ∀ n, (s.atLine n).accept l = .ok (s'.atLine n)) : Reads [l] s s' := by
  intro n
  have hstep : (s.atLine n).step l = .ok (s'.atLine (n + l.text.count '\n')) := by
    rw [ReadState.step, h n]
    rfl
  exact ⟨_, foldlM_step_cons hstep []⟩

theorem reads_space {ls : List Lexeme} (h : ∀ l ∈ ls, l.isSpace = true) (s : ReadState) :
    Reads ls s s := by
  induction ls with
  | nil => exact reads_nil s
  | cons l ls ih =>
    rw [List.forall_mem_cons] at h
    have hl : Reads [l] s s := by
      refine reads_single fun n => ?_
      obtain ⟨kind, text⟩ := l
      cases kind with
      | blank | comment => rfl
      | _ => simp [Lexeme.isSpace] at h
    exact hl.append (ih h.2)

theorem atomDatum_of_spells {l : NumberLiteral} {cs : List Char} (h : l.Spells cs) {n : Number}
    (hv : l.value = .ok n) : atomDatum cs = .ok (.number n) := by
  rw [atomDatum, NumberLiteral.read?_eq_some_iff.2 h]
  dsimp only
  rw [hv]

theorem Token.accept {f : Form} {l : Lexeme} (h : Token f l) (s : ReadState) :
    s.accept l = .ok (s.add f.datum) := by
  cases h with
  | string h =>
    rw [ReadState.accept]
    dsimp only
    rw [stringBody_quoted, h.unescape, Form.datum]
  | @integer l cs h hf he hd =>
    have hpoint : (l.fraction.isNone && l.exponent.isNone) = true := by
      rw [hf, he]
      rfl
    have hv : l.value = .ok (.int (signed l.negative (Text.digitsValue l.whole))) := by
      rw [NumberLiteral.value, if_pos hpoint, if_pos hd]
    rw [ReadState.accept, Form.datum]
    dsimp only
    rw [atomDatum_of_spells h hv]
    rfl
  | @decimal l cs h hp =>
    have hpoint : ¬ (l.fraction.isNone && l.exponent.isNone) = true := by
      rw [Bool.and_eq_true, Option.isNone_iff_eq_none, Option.isNone_iff_eq_none]
      rintro ⟨hf, he⟩
      exact hp.elim (· hf) (· he)
    have hv : l.value = .ok (.float l.toDouble) := by
      rw [NumberLiteral.value, if_neg hpoint]
    rw [ReadState.accept, Form.datum]
    dsimp only
    rw [atomDatum_of_spells h hv]
    rfl
  | @symbol cs _ _ hn =>
    have hread : NumberLiteral.read? cs = none :=
      Option.eq_none_iff_forall_ne_some.2 fun l hl =>
        hn l (NumberLiteral.read?_eq_some_iff.1 hl)
    rw [ReadState.accept, Form.datum]
    dsimp only
    rw [atomDatum, hread]
    rfl

theorem ReadState.addAll_frame (line : Nat) (f : Frame) (fs : List Frame) (forms : List Datum)
    (ds : List Datum) : addAll ⟨line, f :: fs, forms⟩ ds =
      ⟨line, ⟨f.opener, f.line, ds.reverse ++ f.items⟩ :: fs, forms⟩ := by
  induction ds generalizing f with
  | nil => rfl
  | cons d ds ih =>
    rw [addAll, List.foldl_cons, ← addAll]
    change addAll ⟨line, ⟨f.opener, f.line, d :: f.items⟩ :: fs, forms⟩ ds = _
    rw [ih, List.reverse_cons, List.append_assoc]
    rfl

theorem ReadState.addAll_top (line : Nat) (forms ds : List Datum) :
    addAll ⟨line, [], forms⟩ ds = ⟨line, [], ds.reverse ++ forms⟩ := by
  induction ds generalizing forms with
  | nil => rfl
  | cons d ds ih =>
    rw [addAll, List.foldl_cons, ← addAll]
    change addAll ⟨line, [], d :: forms⟩ ds = _
    rw [ih, List.reverse_cons, List.append_assoc]
    rfl

theorem reads_list {opener closer : Char} (hb : Brackets opener closer) {ls : List Lexeme}
    {ds : List Datum} (hi : ∀ s, Reads ls s (s.addAll ds)) (s : ReadState) :
    Reads (⟨.opening, [opener]⟩ :: (ls ++ [⟨.closing, [closer]⟩])) s (s.add (.list ds)) := by
  intro n
  have hopen : ReadState.step (s.atLine n) ⟨.opening, [opener]⟩ =
      .ok (ReadState.atLine ⟨n, ⟨opener, n, []⟩ :: s.stack, s.forms⟩
        (n + [opener].count '\n')) := rfl
  obtain ⟨m, hm⟩ := hi ⟨n, ⟨opener, n, []⟩ :: s.stack, s.forms⟩ (n + [opener].count '\n')
  have hclose : ReadState.step (ReadState.atLine (ReadState.addAll
      ⟨n, ⟨opener, n, []⟩ :: s.stack, s.forms⟩ ds) m) ⟨.closing, [closer]⟩ =
      .ok ((s.add (.list ds)).atLine (m + [closer].count '\n')) := by
    rw [ReadState.addAll_frame, List.append_nil]
    have hadd := s.atLine_add m (.list ds)
    have hreverse : ds.reverse.reverse = ds := List.reverse_reverse ds
    cases hb with
    | round =>
      change Except.map _ (.ok ((s.atLine m).add (.list ds.reverse.reverse))) = _
      rw [hreverse, hadd]
      rfl
    | square =>
      change Except.map _ (.ok ((s.atLine m).add (.list ds.reverse.reverse))) = _
      rw [hreverse, hadd]
      rfl
  refine ⟨m + [closer].count '\n', ?_⟩
  rw [foldlM_step_cons hopen, List.foldlM_append, hm]
  exact foldlM_step_cons hclose []

theorem significant_eq_cons {ls rest : List Lexeme} {l : Lexeme}
    (h : significant ls = l :: rest) :
    ∃ space after, ls = space ++ l :: after ∧ (∀ k ∈ space, k.isSpace = true) ∧
      significant after = rest := by
  obtain ⟨space, after, rfl, hspace, _, hafter⟩ := List.filter_eq_cons_iff.1 h
  refine ⟨space, after, rfl, fun k hk => ?_, hafter⟩
  simpa using hspace k hk

/-- Written forms are added one after the other, whatever blanks and comments stand between their
lexemes. -/
theorem Written.reads {fs : List Form} {ls : List Lexeme} (h : Written fs ls) :
    ∀ {source : List Lexeme}, significant source = ls → ∀ s : ReadState,
      Reads source s (s.addAll (Form.data fs)) := by
  induction h with
  | nil =>
    intro source hsource s
    have hspace : ∀ l ∈ source, l.isSpace = true := by
      simpa [significant] using hsource
    exact reads_space hspace s
  | @token f l fs ls ht _ ih =>
    intro source hsource s
    obtain ⟨space, after, rfl, hspace, hafter⟩ := significant_eq_cons hsource
    have hl : Reads [l] s (s.add f.datum) := by
      refine reads_single fun n => ?_
      rw [ht.accept, s.atLine_add]
    have hrest := ih hafter (s.add f.datum)
    rw [Form.data, ReadState.addAll, List.foldl_cons]
    exact (reads_space hspace s).append (hl.append hrest)
  | @list items fs inner ls opener closer hb _ _ ihi ihs =>
    intro source hsource s
    obtain ⟨space, after, rfl, hspace, hafter⟩ := significant_eq_cons hsource
    obtain ⟨within, behind, rfl, hwithin, hbehind⟩ := List.filter_eq_append_iff.1 hafter
    obtain ⟨space', rest, rfl, hspace', hrest⟩ := significant_eq_cons hbehind
    -- Blanks and comments before the closing bracket are read with the items.
    have hinner (t : ReadState) :
        Reads (within ++ space') t (t.addAll (Form.data items)) :=
      (ihi hwithin t).append (reads_space hspace' _)
    have hlist := reads_list hb hinner s
    have hfollowing := ihs hrest (s.add (.list (Form.data items)))
    have hall := (reads_space hspace s).append (hlist.append hfollowing)
    rw [Form.data, Form.datum]
    change Reads _ s ((s.add (.list (Form.data items))).addAll (Form.data fs))
    simpa only [List.append_assoc, List.cons_append, List.nil_append] using hall

/-- Forms that are written in a source text in any way are read back from it, and so is a single
form. -/
theorem readAll_written {forms : List Form} {ls : List Lexeme} {source : List Char}
    (h : Written forms ls) (hl : Laid false ls source) :
    readAll source = .ok (Form.data forms) ∧
      ∀ f, forms = [f] → read source = .ok f.datum := by
  have hcut := hl.significant_lexemes h.shaped
  obtain ⟨m, hm⟩ := h.reads hcut ReadState.start 1
  have hall : readAll source = .ok (Form.data forms) := by
    rw [readAll]
    change Except.bind ((lexemes source).foldlM ReadState.step (ReadState.start.atLine 1)) _ = _
    rw [hm, ReadState.start, ReadState.addAll_top, List.append_nil]
    change Except.ok (Form.data forms).reverse.reverse = _
    rw [List.reverse_reverse]
  refine ⟨hall, ?_⟩
  rintro f rfl
  rw [read, hall, Form.data, Form.data]

def sampleSource : List Char := "(p [\"a\\\"b\"x-1];c\n+12)".toList

def sampleForm : Form :=
  .list [.symbol ['p'], .list [.string ['a', '"', 'b'], .symbol ['x', '-', '1']], .integer 12]

def sampleLexemes : List Lexeme :=
  [⟨.opening, ['(']⟩, ⟨.atom, ['p']⟩, ⟨.opening, ['[']⟩,
    ⟨.string, ['"', 'a', '\\', '"', 'b', '"']⟩, ⟨.atom, ['x', '-', '1']⟩, ⟨.closing, [']']⟩,
    ⟨.atom, ['+', '1', '2']⟩, ⟨.closing, [')']⟩]

theorem sampleForm_written : Written [sampleForm] sampleLexemes := by
  have hstring : Token (.string ['a', '"', 'b']) ⟨.string, ['"', 'a', '\\', '"', 'b', '"']⟩ :=
    .string (.raw (by decide) (by decide) (.escape rfl (.raw (by decide) (by decide) .nil)))
  have hx : Token (.symbol ['x', '-', '1']) ⟨.atom, ['x', '-', '1']⟩ :=
    .symbol (by simp) (List.all_eq_true.1 rfl) (NumberLiteral.not_spells_of_read? rfl)
  have hp : Token (.symbol ['p']) ⟨.atom, ['p']⟩ :=
    .symbol (by simp) (List.all_eq_true.1 rfl) (NumberLiteral.not_spells_of_read? rfl)
  have hnumber : Token (.integer 12) ⟨.atom, ['+', '1', '2']⟩ :=
    .integer (l := ⟨false, ['1', '2'], none, none⟩) (NumberLiteral.spells_of_read? rfl) rfl rfl
      (by decide)
  have hinner : Written [.string ['a', '"', 'b'], .symbol ['x', '-', '1']] _ :=
    .token hstring (.token hx .nil)
  have hitems : Written [.symbol ['p'], .list _, .integer 12] _ :=
    .token hp (.list .square hinner (.token hnumber .nil))
  exact .list .round hitems .nil

theorem sampleSource_laid : Laid false sampleLexemes sampleSource := by
  have hclose : Laid true [⟨.closing, [')']⟩] [')'] := .lexeme (by simp) .nil
  have hnumber : Laid false (sampleLexemes.drop 6) "\n+12)".toList :=
    .blank (by decide) (.lexeme (by simp) hclose)
  have hcomment : Laid false (sampleLexemes.drop 6) (';' :: (['c'] ++ "\n+12)".toList)) :=
    .comment (by simp) (fun c _ hc => (List.cons.inj hc).1.symm) hnumber
  have hinner : Laid false (sampleLexemes.drop 2) "[\"a\\\"b\"x-1];c\n+12)".toList :=
    .lexeme (by simp) (.lexeme (by simp) (.lexeme (by simp) (.lexeme (by simp) hcomment)))
  exact .lexeme (by simp) (.lexeme (by simp) (.blank (by decide) hinner))

theorem readAll_sample :
    Written [sampleForm] sampleLexemes ∧ Laid false sampleLexemes sampleSource ∧
      readAll sampleSource = .ok [.list [.word "p", .list [.text "a\"b", .word "x-1"],
        .number (.int 12)]] ∧
      read sampleSource = .ok (.list [.word "p", .list [.text "a\"b", .word "x-1"],
        .number (.int 12)]) := by
  obtain ⟨hall, hone⟩ := readAll_written sampleForm_written sampleSource_laid
  exact ⟨sampleForm_written, sampleSource_laid, hall, hone sampleForm rfl⟩

end ElementMarkup.Sexp
