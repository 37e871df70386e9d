import ElementMarkup.Text.Basic

/-!
# Occurrences of a text in another one

Where a text occurs first and how often, and a text with its occurrences replaced or cut at them.
Occurrences are found from the left and do not overlap. Replacing and cutting stop after a limit;
a negative limit is none.
-/

set_option autoImplicit false

namespace ElementMarkup.Text

def occurs (part : List Char) : List Char → Bool
  | [] => part.isEmpty
  | c :: cs => part.isPrefixOf (c :: cs) || occurs part cs

def find? (part : List Char) (start : Nat) : List Char → Option Nat
  | [] => if part.isEmpty then some start else none
  | c :: cs => if part.isPrefixOf (c :: cs) then some start else find? part (start + 1) cs

def countFrom (part : List Char) : Nat → List Char → Nat
  | 0, _ => 0
  | fuel + 1, cs =>
    match find? part 0 cs with
    | none => 0
    | some i => 1 + countFrom part fuel (cs.drop (i + part.length))

/-- The number of occurrences; an empty text occurs before every character and at the end. -/
def count (part cs : List Char) : Nat :=
  if part.isEmpty then cs.length + 1 else countFrom part (cs.length + 1) cs

def replaceFrom (old new : List Char) (limit : Int) : Nat → List Char → List Char
  | 0, cs => cs
  | fuel + 1, cs =>
    if limit = 0 then cs
    else
      match cs with
      | [] => if old.isEmpty then new else []
      | c :: rest =>
        if old.isEmpty then new ++ c :: replaceFrom old new (limit - 1) fuel rest
        else if old.isPrefixOf cs then
          new ++ replaceFrom old new (limit - 1) fuel (cs.drop old.length)
        else c :: replaceFrom old new limit fuel rest

def replace (old new : List Char) (limit : Int) (cs : List Char) : List Char :=
  replaceFrom old new limit (cs.length + 1) cs

def cutFrom (mark : List Char) (limit : Int) (part : List Char) : Nat → List Char →
    List (List Char)
  | 0, _ => [part.reverse]
  | _ + 1, [] => [part.reverse]
  | fuel + 1, c :: cs =>
    if limit ≠ 0 && mark.isPrefixOf (c :: cs) then
      part.reverse :: cutFrom mark (limit - 1) [] fuel ((c :: cs).drop mark.length)
    else cutFrom mark limit (c :: part) fuel cs

def cutAt (mark : List Char) (limit : Int) (cs : List Char) : List (List Char) :=
  cutFrom mark limit [] (cs.length + 1) cs

def wordsFrom (limit : Int) : Nat → List Char → List (List Char)
  | 0, _ => []
  | fuel + 1, cs =>
    match cs.dropWhile isBlank with
    | [] => []
    | c :: rest =>
      if limit = 0 then [c :: rest]
      else
        (c :: rest).takeWhile (!isBlank ·) ::
          wordsFrom (limit - 1) fuel ((c :: rest).dropWhile (!isBlank ·))

/-- The words of a text; after `limit` words the rest is kept as it is. -/
def words (limit : Int) (cs : List Char) : List (List Char) := wordsFrom limit (cs.length + 1) cs

end ElementMarkup.Text
