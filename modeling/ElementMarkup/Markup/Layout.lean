import ElementMarkup.Markup.Token

/-!
# Lines of markup

Markup is broken into lines by its elements: every tag, declaration and run of text has a line of
its own, and an element that holds nothing but text is one line. Runs of text lose their outer
newlines and are dropped when nothing is left. Indentation puts spaces before a line for each
element that is open around it.
-/

set_option autoImplicit false

namespace ElementMarkup.Markup

/-- Whether a line opens an element with content below it, closes one, or stands for itself. -/
inductive LineKind where
  | opening
  | closing
  | whole
  deriving DecidableEq, Repr

structure Line where
  kind : LineKind
  text : List Char
  deriving DecidableEq, Repr

/-- The texts up to and with the closing tag of `name`, if nothing but text stands before it, and
the tokens behind it. -/
def leafText? (name : List Char) : List Token → Option (List Char × List Token)
  | [] => none
  | t :: ts =>
    match t.kind with
    | .text => (leafText? name ts).map fun (s, r) => (t.text ++ s, r)
    | .closing => if t.name == name then some (t.text, ts) else none
    | _ => none

theorem leafText?_length {name s : List Char} {ts r : List Token}
    (h : leafText? name ts = some (s, r)) : r.length < ts.length := by
  induction ts generalizing s with
  | nil => simp [leafText?] at h
  | cons t ts ih =>
    unfold leafText? at h
    split at h
    · obtain ⟨⟨s', r'⟩, hx, hxr⟩ := Option.map_eq_some_iff.1 h
      obtain ⟨_, rfl⟩ := Prod.mk.inj hxr
      exact Nat.lt_succ_of_lt (ih hx)
    · split at h
      · obtain ⟨_, rfl⟩ := Prod.mk.inj (Option.some.inj h)
        exact Nat.lt_succ_self _
      · simp at h
    · simp at h

def textLine (text : List Char) : List Line :=
  let kept := Text.trimNewlines text
  if kept.isEmpty then [] else [⟨.whole, kept⟩]

def layout (tokens : List Token) : List Line :=
  match tokens with
  | [] => []
  | t :: ts =>
    match t.kind with
    | .text => textLine t.text ++ layout ts
    | .opening =>
      match _h : leafText? t.name ts with
      | some (s, r) => ⟨.whole, t.text ++ s⟩ :: layout r
      | none => ⟨.opening, t.text⟩ :: layout ts
    | .closing => ⟨.closing, t.text⟩ :: layout ts
    | .declaration => ⟨.whole, t.text⟩ :: layout ts
    | .empty => ⟨.whole, t.text⟩ :: layout ts
termination_by tokens.length
decreasing_by
  · exact Nat.lt_succ_self _
  · exact Nat.lt_succ_of_lt (leafText?_length _h)
  · exact Nat.lt_succ_self _
  · exact Nat.lt_succ_self _
  · exact Nat.lt_succ_self _
  · exact Nat.lt_succ_self _

def lines (xml : Bool) (markup : List Char) : List Line := layout (tokens xml markup)

def joinLines (texts : List (List Char)) : List Char := List.intercalate ['\n'] texts

def reformat (xml : Bool) (markup : List Char) : List Char :=
  joinLines ((lines xml markup).map Line.text)

/-- The spaces before a line with `depth` elements around it; a negative width gives none. -/
def margin (width : Int) (depth : Nat) : List Char :=
  List.replicate (width * depth).toNat ' '

/-- The lines with their margins, and the number of elements that are open at the end. -/
def indentFrom (width : Int) (depth : Nat) : List Line → List (List Char) × Nat
  | [] => ([], depth)
  | l :: ls =>
    let here := if l.kind = .closing then depth - 1 else depth
    let rest := indentFrom width (if l.kind = .opening then here + 1 else here) ls
    ((margin width here ++ l.text) :: rest.1, rest.2)

def indent (xml : Bool) (width : Int) (markup : List Char) : List Char :=
  joinLines (indentFrom width 0 (lines xml markup)).1

end ElementMarkup.Markup
