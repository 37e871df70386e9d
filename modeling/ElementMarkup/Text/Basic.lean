/-!
# Characters, blanks, digits and lines

Sets of characters, the blanks that separate words, the decimal digits of version 14 of the Unicode
character database, and the ends of lines. In escaped text the characters that have a meaning in
markup are spelled as references.
-/

set_option autoImplicit false

namespace ElementMarkup.Text

/-- A set of characters by its boundaries: the code points at which membership changes, in ascending
order, starting outside the set. -/
structure CharSet where
  boundaries : List Nat

def CharSet.memberFrom (inside : Bool) (code : Nat) : List Nat → Bool
  | [] => inside
  | b :: bs => if code < b then inside else memberFrom (!inside) code bs

def CharSet.contains (s : CharSet) (c : Char) : Bool :=
  memberFrom false c.toNat s.boundaries

/-- The spaces of Unicode, the line and paragraph separators, and the control characters that move
the position or separate records. -/
def isBlank (c : Char) : Bool :=
  let n := c.toNat
  (0x09 ≤ n && n ≤ 0x0d) || (0x1c ≤ n && n ≤ 0x20) || n == 0x85 || n == 0xa0 || n == 0x1680 ||
    (0x2000 ≤ n && n ≤ 0x200a) || n == 0x2028 || n == 0x2029 || n == 0x202f || n == 0x205f ||
    n == 0x3000

/-- The text without the trailing characters that satisfy `p`. -/
def dropTrailing (p : Char → Bool) (cs : List Char) : List Char :=
  (cs.reverse.dropWhile p).reverse

def trimBy (p : Char → Bool) (cs : List Char) : List Char :=
  dropTrailing p (cs.dropWhile p)

def trim (cs : List Char) : List Char := trimBy isBlank cs

def trimNewlines (cs : List Char) : List Char := trimBy (· == '\n') cs

def zeros : List Nat := [
  48, 1632, 1776, 1984, 2406, 2534, 2662, 2790, 2918, 3046, 3174, 3302, 3430, 3558, 3664, 3792,
  3872, 4160, 4240, 6112, 6160, 6470, 6608, 6784, 6800, 6992, 7088, 7232, 7248, 42528, 43216,
  43264, 43472, 43504, 43600, 44016, 65296, 66720, 68912, 69734, 69872, 69942, 70096, 70384,
  70736, 70864, 71248, 71360, 71472, 71904, 72016, 72784, 73040, 73120, 92768, 92864, 93008,
  120782, 120792, 120802, 120812, 120822, 123200, 123632, 125264, 130032]

def digitValue? (c : Char) : Option Nat :=
  if c.toNat < 0x80 then
    if 0x30 ≤ c.toNat ∧ c.toNat ≤ 0x39 then some (c.toNat - 0x30) else none
  else
    (zeros.find? fun z => z ≤ c.toNat && c.toNat < z + 10).map (c.toNat - ·)

def isDigit (c : Char) : Bool := (digitValue? c).isSome

def digitsValue (cs : List Char) : Nat :=
  cs.foldl (fun n c => 10 * n + (digitValue? c).getD 0) 0

def unifyLineEnds : List Char → List Char
  | '\r' :: '\n' :: cs => '\n' :: unifyLineEnds cs
  | '\r' :: cs => '\n' :: unifyLineEnds cs
  | c :: cs => c :: unifyLineEnds cs
  | [] => []

def lineAndColumn (cs : List Char) (place : Nat) : Nat × Nat :=
  let before := cs.take place
  (before.count '\n' + 1, (before.reverse.takeWhile (· ≠ '\n')).length + 1)

def escapeChar (c : Char) : List Char :=
  match c with
  | '&' => ['&', 'a', 'm', 'p', ';']
  | '<' => ['&', 'l', 't', ';']
  | '>' => ['&', 'g', 't', ';']
  | '\'' => ['&', '#', '3', '9', ';']
  | '"' => ['&', '#', '3', '4', ';']
  | c => [c]

def escape (s : String) : String := String.ofList (s.toList.flatMap escapeChar)

end ElementMarkup.Text
