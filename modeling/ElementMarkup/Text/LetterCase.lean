import ElementMarkup.Text.CaseTable

/-!
# Letter case

Upper case, lower case and title case of texts. A character may become several characters, and
a capital sigma becomes the final form of its letter where it ends a word.
-/

set_option autoImplicit false

namespace ElementMarkup.Text

def CaseRun.holds (r : CaseRun) (n : Nat) : Bool :=
  r.first ≤ n && n ≤ r.last && (n - r.first) % r.step == 0

def caseImage (runs : List CaseRun) (several : List (Nat × List Nat)) (c : Char) : List Char :=
  match several.lookup c.toNat with
  | some ns => ns.map Char.ofNat
  | none =>
    match runs.find? (·.holds c.toNat) with
    | some r => [Char.ofNat (c.toNat + r.shift).toNat]
    | none => [c]

def upperChar (c : Char) : List Char :=
  if c.toNat < 0x80 then [c.toUpper] else caseImage upperRuns upperSeveral c

def lowerChar (c : Char) : List Char :=
  if c.toNat < 0x80 then [c.toLower] else caseImage lowerRuns lowerSeveral c

def titleChar (c : Char) : List Char :=
  if c.toNat < 0x80 then [c.toUpper] else caseImage titleRuns titleSeveral c

def isCased (c : Char) : Bool :=
  if c.toNat < 0x80 then c.isAlpha else casedSet.contains c

def isCaseIgnorable (c : Char) : Bool := caseIgnorableSet.contains c

def meetsCased (cs : List Char) : Bool :=
  match cs.dropWhile isCaseIgnorable with
  | [] => false
  | c :: _ => isCased c

/-- The lower case of a character between the text before it, last character first, and the
text after it. -/
def lowerBetween (before : List Char) (c : Char) (after : List Char) : List Char :=
  if c.toNat == 0x3a3 then
    [Char.ofNat (if meetsCased before && !meetsCased after then 0x3c2 else 0x3c3)]
  else lowerChar c

def lowerFrom (before : List Char) : List Char → List Char
  | [] => []
  | c :: cs => lowerBetween before c cs ++ lowerFrom (c :: before) cs

def lower (cs : List Char) : List Char := lowerFrom [] cs

def upper (cs : List Char) : List Char := cs.flatMap upperChar

def capitalize : List Char → List Char
  | [] => []
  | c :: cs => titleChar c ++ lowerFrom [c] cs

def titleFrom (before : List Char) : List Char → List Char
  | [] => []
  | c :: cs =>
    (if (before.head?.map isCased).getD false then lowerBetween before c cs else titleChar c) ++
      titleFrom (c :: before) cs

/-- Each letter that follows a letter in lower case, and every other one in title case. -/
def title (cs : List Char) : List Char := titleFrom [] cs

end ElementMarkup.Text
