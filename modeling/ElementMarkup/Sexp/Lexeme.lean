import ElementMarkup.Text.Basic

/-!
# Lexemes of forms

The source text of a form is cut into lexemes without a gap: runs of blanks, comments up to the
end of their line, brackets, strings between double quotes, and atoms. Inside a string a backslash
takes the next character with it. A quote that no other quote closes is a lexeme of its own.
-/

set_option autoImplicit false

namespace ElementMarkup.Sexp

inductive LexemeKind where
  | blank
  | comment
  | opening
  | closing
  | string
  | unterminated
  | atom
  deriving DecidableEq, Repr

structure Lexeme where
  kind : LexemeKind
  text : List Char
  deriving DecidableEq, Repr

def isOpening (c : Char) : Bool := c == '(' || c == '['

def isClosing (c : Char) : Bool := c == ')' || c == ']'

def isAtomChar (c : Char) : Bool :=
  !(Text.isBlank c || isOpening c || isClosing c || c == '"' || c == ';')

def stringRest? : List Char → Option (List Char × List Char)
  | [] => none
  | '"' :: cs => some (['"'], cs)
  | '\\' :: c :: cs => (stringRest? cs).map fun (body, after) => ('\\' :: c :: body, after)
  | ['\\'] => none
  | c :: cs => (stringRest? cs).map fun (body, after) => (c :: body, after)

def lexemeAt (c : Char) (cs : List Char) : Lexeme × List Char :=
  if Text.isBlank c then
    (⟨.blank, c :: cs.takeWhile Text.isBlank⟩, cs.dropWhile Text.isBlank)
  else if c == ';' then
    (⟨.comment, c :: cs.takeWhile (· != '\n')⟩, cs.dropWhile (· != '\n'))
  else if isOpening c then (⟨.opening, [c]⟩, cs)
  else if isClosing c then (⟨.closing, [c]⟩, cs)
  else if c == '"' then
    match stringRest? cs with
    | some (body, after) => (⟨.string, c :: body⟩, after)
    | none => (⟨.unterminated, [c]⟩, cs)
  else (⟨.atom, c :: cs.takeWhile isAtomChar⟩, cs.dropWhile isAtomChar)

theorem stringRest?_length {cs body after : List Char}
    (h : stringRest? cs = some (body, after)) : after.length < cs.length := by
  fun_induction stringRest? cs generalizing body with
  | case1 => simp at h
  | case2 cs =>
    obtain ⟨_, rfl⟩ := Prod.mk.inj (Option.some.inj h)
    exact Nat.lt_succ_self _
  | case3 c cs ih =>
    obtain ⟨⟨b, a⟩, hx, hxr⟩ := Option.map_eq_some_iff.1 h
    obtain ⟨_, rfl⟩ := Prod.mk.inj hxr
    exact Nat.lt_succ_of_lt (Nat.lt_succ_of_lt (ih hx))
  | case4 => simp at h
  | case5 c cs _ _ _ ih =>
    obtain ⟨⟨b, a⟩, hx, hxr⟩ := Option.map_eq_some_iff.1 h
    obtain ⟨_, rfl⟩ := Prod.mk.inj hxr
    exact Nat.lt_succ_of_lt (ih hx)

theorem lexemeAt_length (c : Char) (cs : List Char) : (lexemeAt c cs).2.length ≤ cs.length := by
  have drop (p : Char → Bool) : (cs.dropWhile p).length ≤ cs.length :=
    (List.dropWhile_sublist p).length_le
  unfold lexemeAt
  split
  · exact drop _
  · split
    · exact drop _
    · split
      · exact Nat.le_refl _
      · split
        · exact Nat.le_refl _
        · split
          · split
            · rename_i h
              exact Nat.le_of_lt (stringRest?_length h)
            · exact Nat.le_refl _
          · exact drop _

def lexemes (source : List Char) : List Lexeme :=
  match source with
  | [] => []
  | c :: cs => (lexemeAt c cs).1 :: lexemes (lexemeAt c cs).2
termination_by source.length
decreasing_by exact Nat.lt_succ_of_le (lexemeAt_length c cs)

end ElementMarkup.Sexp
