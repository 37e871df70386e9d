import ElementMarkup.Text.LetterCase

/-!
# Paths

A path is a list of names between slashes. Empty names and single points say nothing and are left
out; a path without names is the folder itself, written as a point. Two points lead one folder up,
so that several paths may lead to the same place. The path of a place has points at its front only.
-/

set_option autoImplicit false

namespace ElementMarkup

structure Path where
  absolute : Bool
  names : List String
  deriving DecidableEq, Repr

def splitSlashes (part : List Char) : List Char → List (List Char)
  | [] => [part.reverse]
  | c :: cs => if c == '/' then part.reverse :: splitSlashes [] cs else splitSlashes (c :: part) cs

def Path.ofString (s : String) : Path :=
  let names := (splitSlashes [] s.toList).map String.ofList
  ⟨s.startsWith "/", names.filter fun n => n ≠ "" ∧ n ≠ "."⟩

def Path.text (p : Path) : String :=
  let names := "/".intercalate p.names
  if p.absolute then "/" ++ names else if p.names.isEmpty then "." else names

def Path.parent (p : Path) : Path := { p with names := p.names.dropLast }

/-- The last point of a name and what follows it, if something stands on both sides of it. -/
def nameSuffix (name : List Char) : List Char :=
  let after := (name.reverse.takeWhile (· ≠ '.')).reverse
  let before := name.length - after.length - 1
  if after.length < name.length ∧ 0 < before ∧ !after.isEmpty then '.' :: after else []

def Path.suffix (p : Path) : String :=
  String.ofList (Text.lower (nameSuffix (p.names.getLastD "").toList))

def Path.isBelow (p folder : Path) : Bool :=
  p.absolute == folder.absolute && folder.names.isPrefixOf p.names && p.names ≠ folder.names

/-- Whether a path leads to a folder whatever the folder holds. -/
def Path.isAncestral (p : Path) : Bool := p.names.all (· == "..")

def Path.step (here : Path) (name : String) : Path :=
  if name ≠ ".." then { here with names := here.names ++ [name] }
  else if !here.isAncestral then { here with names := here.names.dropLast }
  else if here.absolute then here
  else { here with names := here.names ++ [name] }

def Path.origin (p : Path) : Path := { p with names := [] }

def Path.place (p : Path) : Path := p.names.foldl Path.step p.origin

def Path.upTo (p : Path) (n : Nat) : Path := { p with names := p.names.take n }

/-- Whether a path holds the null character, at which the system would stop to read it. -/
def Path.hasNull (p : Path) : Bool := p.names.any fun n => n.toList.contains '\x00'

end ElementMarkup
