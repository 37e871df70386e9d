import ElementMarkup.Text.Basic
import ElementMarkup.Tree.Tag

/-!
# Tokens of markup

Markup as text is cut into tags, declarations and the text between them. A comment ends at its
first `-->`, a processing instruction at its first `?>`, and any other declaration at its first
`>`. A tag has a name and then runs to the first `>` that is not between quotes. A name goes as
far as it can, but gives back characters, quotes among them, if the tag has no end otherwise.
What is none of these is text.
-/

set_option autoImplicit false

namespace ElementMarkup.Markup

inductive TokenKind where
  | text
  | declaration
  | opening
  | closing
  | empty
  deriving DecidableEq, Repr

structure Token where
  kind : TokenKind
  text : List Char
  name : List Char
  deriving DecidableEq, Repr

def splitBehind? (mark : List Char) : List Char → Option (List Char × List Char)
  | [] => none
  | c :: cs =>
    if mark.isPrefixOf (c :: cs) then some (mark, (c :: cs).drop mark.length)
    else (splitBehind? mark cs).map fun (before, after) => (c :: before, after)

def startComment : List Char := ['<', '!', '-', '-']

def endComment : List Char := ['-', '-', '>']

def startInstruction : List Char := ['<', '?']

def endInstruction : List Char := ['?', '>']

def startDeclaration : List Char := ['<', '!']

def between? (start mark cs : List Char) : Option (List Char × List Char) :=
  if start.isPrefixOf cs then
    (splitBehind? mark (cs.drop start.length)).map fun (body, after) => (start ++ body, after)
  else none

def declaration? (cs : List Char) : Option (List Char × List Char) :=
  (between? startComment endComment cs).or
    ((between? startDeclaration ['>'] cs).or (between? startInstruction endInstruction cs))

def isNameChar (c : Char) : Bool :=
  !(Text.isBlank c || c == '/' || c == '>' || c == '!' || c == '?')

/-- The rest of a tag up to its `>`, which is dropped, and what follows it; `quote` is the quote
that is open. -/
def tagBody? (quote : Option Char) : List Char → Option (List Char × List Char)
  | [] => none
  | c :: cs =>
    match quote with
    | some q => (tagBody? (if c == q then none else some q) cs).map fun (b, r) => (c :: b, r)
    | none =>
      if c == '>' then some ([], cs)
      else
        (tagBody? (if c == '"' || c == '\'' then some c else none) cs).map fun (b, r) => (c :: b, r)

/-- More of a name, the body of its tag, and what follows the tag. The longest name wins. -/
def nameAndBody? : List Char → Option (List Char × List Char × List Char)
  | [] => none
  | c :: cs =>
    let stop := (tagBody? none (c :: cs)).map fun (b, r) => ([], b, r)
    if isNameChar c then
      match nameAndBody? cs with
      | some (n, b, r) => some (c :: n, b, r)
      | none => stop
    else stop

def named? : List Char → Option (List Char × List Char × List Char)
  | [] => none
  | c :: cs =>
    if isNameChar c then (nameAndBody? cs).map fun (n, b, r) => (c :: n, b, r) else none

/-- A tag closes itself when its last character but blanks is a slash, and in HTML also when it
is void. -/
def closesItself (xml : Bool) (name body : List Char) : Bool :=
  (Text.dropTrailing Text.isBlank body).getLast? == some '/' ||
    (!xml && isVoidTag (String.ofList name))

def tag? (xml : Bool) : List Char → Option (Token × List Char)
  | '<' :: '/' :: cs =>
    (named? cs).map fun (n, b, r) => (⟨.closing, '<' :: '/' :: n ++ b ++ ['>'], n⟩, r)
  | '<' :: cs =>
    (named? cs).map fun (n, b, r) =>
      (⟨if closesItself xml n b then .empty else .opening, '<' :: n ++ b ++ ['>'], n⟩, r)
  | _ => none

def markupAt? (xml : Bool) (cs : List Char) : Option (Token × List Char) :=
  match declaration? cs with
  | some (text, r) => some (⟨.declaration, text, []⟩, r)
  | none => tag? xml cs

theorem map_cons_eq_some_iff {α : Type} {x : Option (List Char × α)} {c : Char} {b : List Char}
    {r : α} : x.map (fun (b, r) => (c :: b, r)) = some (b, r) ↔
      ∃ b', b = c :: b' ∧ x = some (b', r) := by
  rw [Option.map_eq_some_iff]
  constructor
  · rintro ⟨⟨b', r'⟩, hx, hxr⟩
    obtain ⟨rfl, rfl⟩ := Prod.mk.inj hxr
    exact ⟨b', rfl, hx⟩
  · rintro ⟨b', rfl, hx⟩
    exact ⟨(b', r), hx, rfl⟩

theorem splitBehind?_cons_eq_some_iff {mark cs b r : List Char} {c : Char} :
    splitBehind? mark (c :: cs) = some (b, r) ↔
      (mark <+: c :: cs ∧ b = mark ∧ r = (c :: cs).drop mark.length) ∨
      (¬ mark <+: c :: cs ∧ ∃ b', b = c :: b' ∧ splitBehind? mark cs = some (b', r)) := by
  rw [splitBehind?]
  by_cases hp : mark <+: c :: cs
  · rw [if_pos (List.isPrefixOf_iff_prefix.2 hp)]
    simp [hp, eq_comm]
  · rw [if_neg (mt List.isPrefixOf_iff_prefix.1 hp), map_cons_eq_some_iff]
    simp [hp]

theorem splitBehind?_length {mark cs b r : List Char} (h : splitBehind? mark cs = some (b, r)) :
    r.length ≤ cs.length := by
  induction cs generalizing b with
  | nil => simp [splitBehind?] at h
  | cons c cs ih =>
    rcases splitBehind?_cons_eq_some_iff.1 h with ⟨_, _, rfl⟩ | ⟨_, b', _, hx⟩
    · rw [List.length_drop]
      exact Nat.sub_le _ _
    · exact Nat.le_succ_of_le (ih hx)

theorem between?_length {start mark cs b r : List Char} (hs : start ≠ [])
    (h : between? start mark cs = some (b, r)) : r.length < cs.length := by
  unfold between? at h
  split at h
  · rename_i hp
    obtain ⟨⟨b', r'⟩, hx, hxr⟩ := Option.map_eq_some_iff.1 h
    obtain ⟨_, rfl⟩ := Prod.mk.inj hxr
    have hle := splitBehind?_length hx
    have hlen := (List.isPrefixOf_iff_prefix.1 hp).length_le
    have hpos := List.length_pos_iff.2 hs
    rw [List.length_drop] at hle
    omega
  · simp at h

theorem declaration?_length {cs b r : List Char} (h : declaration? cs = some (b, r)) :
    r.length < cs.length := by
  unfold declaration? at h
  rcases Option.or_eq_some_iff.1 h with h | ⟨_, h⟩
  · exact between?_length (by simp [startComment]) h
  · rcases Option.or_eq_some_iff.1 h with h | ⟨_, h⟩
    · exact between?_length (by simp [startDeclaration]) h
    · exact between?_length (by simp [startInstruction]) h

def quoteBehind (quote : Option Char) (c : Char) : Option Char :=
  match quote with
  | some q => if c = q then none else some q
  | none => if c = '"' ∨ c = '\'' then some c else none

theorem tagBody?_cons_eq_some_iff {quote : Option Char} {c : Char} {cs b r : List Char} :
    tagBody? quote (c :: cs) = some (b, r) ↔
      ((quote = none ∧ c = '>') ∧ b = [] ∧ r = cs) ∨
      (¬ (quote = none ∧ c = '>') ∧ ∃ b', b = c :: b' ∧
        tagBody? (quoteBehind quote c) cs = some (b', r)) := by
  cases quote with
  | some q =>
    have hquote : (if c == q then none else some q) = quoteBehind (some q) c := by
      simp [quoteBehind]
    simp only [tagBody?, hquote, map_cons_eq_some_iff]
    simp
  | none =>
    by_cases hgt : c = '>'
    · simp [tagBody?, hgt, eq_comm]
    · have hquote : (if c == '"' || c == '\'' then some c else none) = quoteBehind none c := by
        simp [quoteBehind]
      simp only [tagBody?, beq_iff_eq, hgt, if_false, hquote, map_cons_eq_some_iff]
      simp

theorem tagBody?_length {cs b r : List Char} {quote : Option Char}
    (h : tagBody? quote cs = some (b, r)) : r.length < cs.length := by
  induction cs generalizing quote b with
  | nil => simp [tagBody?] at h
  | cons c cs ih =>
    rcases tagBody?_cons_eq_some_iff.1 h with ⟨_, _, rfl⟩ | ⟨_, b', _, hx⟩
    · exact Nat.lt_succ_self _
    · exact Nat.lt_succ_of_lt (ih hx)

theorem bodyAlone?_eq_some_iff {cs n b r : List Char} :
    (tagBody? none cs).map (fun (b, r) => (([] : List Char), b, r)) = some (n, b, r) ↔
      n = [] ∧ tagBody? none cs = some (b, r) := by
  rw [Option.map_eq_some_iff]
  constructor
  · rintro ⟨⟨b', r'⟩, hx, hxr⟩
    obtain ⟨rfl, hbr⟩ := Prod.mk.inj hxr
    exact ⟨rfl, hx.trans (congrArg some hbr)⟩
  · rintro ⟨rfl, hx⟩
    exact ⟨(b, r), hx, rfl⟩

theorem nameAndBody?_cons_eq_some_iff {c : Char} {cs n b r : List Char} :
    nameAndBody? (c :: cs) = some (n, b, r) ↔
      (isNameChar c = true ∧ ∃ n', n = c :: n' ∧ nameAndBody? cs = some (n', b, r)) ∨
      ((isNameChar c = true → nameAndBody? cs = none) ∧ n = [] ∧
        tagBody? none (c :: cs) = some (b, r)) := by
  rw [nameAndBody?]
  by_cases hc : isNameChar c = true
  · rw [if_pos hc]
    cases nameAndBody? cs with
    | none =>
      rw [bodyAlone?_eq_some_iff]
      simp [hc]
    | some x =>
      obtain ⟨n', b', r'⟩ := x
      simp only [hc, Option.some.injEq, Prod.mk.injEq, reduceCtorEq, imp_false, not_true,
        false_and, or_false, true_and]
      constructor
      · rintro ⟨rfl, rfl, rfl⟩
        exact ⟨n', rfl, rfl, rfl, rfl⟩
      · rintro ⟨_, rfl, rfl, rfl, rfl⟩
        exact ⟨rfl, rfl, rfl⟩
  · rw [if_neg hc, bodyAlone?_eq_some_iff]
    simp [hc]

theorem nameAndBody?_length {cs n b r : List Char} (h : nameAndBody? cs = some (n, b, r)) :
    r.length < cs.length := by
  induction cs generalizing n with
  | nil => simp [nameAndBody?] at h
  | cons c cs ih =>
    rcases nameAndBody?_cons_eq_some_iff.1 h with ⟨_, n', _, hx⟩ | ⟨_, _, hx⟩
    · exact Nat.lt_succ_of_lt (ih hx)
    · exact tagBody?_length hx

theorem named?_eq_some_iff {cs n b r : List Char} :
    named? cs = some (n, b, r) ↔ ∃ c cs' n', cs = c :: cs' ∧ n = c :: n' ∧ isNameChar c = true ∧
      nameAndBody? cs' = some (n', b, r) := by
  cases cs with
  | nil => simp [named?]
  | cons c cs =>
    rw [named?]
    split
    · rename_i hc
      rw [Option.map_eq_some_iff]
      constructor
      · rintro ⟨⟨n', b', r'⟩, hx, hxr⟩
        obtain ⟨rfl, hbr⟩ := Prod.mk.inj hxr
        exact ⟨c, cs, n', rfl, rfl, hc, hx.trans (by rw [hbr])⟩
      · rintro ⟨_, _, n', hcs, rfl, _, hx⟩
        obtain ⟨rfl, rfl⟩ := List.cons.inj hcs
        exact ⟨(n', b, r), hx, rfl⟩
    · rename_i hc
      simp [hc]

theorem named?_length {cs n b r : List Char} (h : named? cs = some (n, b, r)) :
    r.length < cs.length := by
  obtain ⟨c, cs', n', rfl, _, _, hx⟩ := named?_eq_some_iff.1 h
  exact Nat.lt_succ_of_lt (nameAndBody?_length hx)

theorem tag?_length {xml : Bool} {cs r : List Char} {t : Token} (h : tag? xml cs = some (t, r)) :
    r.length < cs.length := by
  unfold tag? at h
  split at h
  · obtain ⟨⟨n, b, r'⟩, hx, hxr⟩ := Option.map_eq_some_iff.1 h
    obtain ⟨_, rfl⟩ := Prod.mk.inj hxr
    exact Nat.lt_succ_of_lt (Nat.lt_succ_of_lt (named?_length hx))
  · obtain ⟨⟨n, b, r'⟩, hx, hxr⟩ := Option.map_eq_some_iff.1 h
    obtain ⟨_, rfl⟩ := Prod.mk.inj hxr
    exact Nat.lt_succ_of_lt (named?_length hx)
  · simp at h

theorem markupAt?_length {xml : Bool} {cs r : List Char} {t : Token}
    (h : markupAt? xml cs = some (t, r)) : r.length < cs.length := by
  unfold markupAt? at h
  split at h
  · rename_i heq
    obtain ⟨_, rfl⟩ := Prod.mk.inj (Option.some.inj h)
    exact declaration?_length heq
  · exact tag?_length h

/-- The text that has been passed over, last character first, as a token. -/
def textToken (passed : List Char) : List Token :=
  if passed.isEmpty then [] else [⟨.text, passed.reverse, []⟩]

/-- The tokens of a text behind the text that has been passed over. -/
def scan (xml : Bool) (passed cs : List Char) : List Token :=
  match cs with
  | [] => textToken passed
  | c :: rest =>
    match _h : markupAt? xml (c :: rest) with
    | some (token, after) => textToken passed ++ token :: scan xml [] after
    | none => scan xml (c :: passed) rest
termination_by cs.length
decreasing_by
  · exact markupAt?_length _h
  · exact Nat.lt_succ_self _

def tokens (xml : Bool) (markup : List Char) : List Token := scan xml [] markup

end ElementMarkup.Markup
