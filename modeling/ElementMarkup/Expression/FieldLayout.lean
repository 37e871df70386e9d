import ElementMarkup.Expression.PercentFields

/-!
# Layouts of fields

A layout says how the text of an operand is put into a field: a fill and a side, a sign, a width,
a mark between groups of digits, a precision, and a letter for the form. Texts, integers and
doubles each take their own letters, and refuse what has no meaning for them.
-/

set_option autoImplicit false

namespace ElementMarkup.Expression

structure FieldLayout where
  fill : Char
  align : Char
  sign : Option Char
  /-- Whether a zero is shown without a minus sign. -/
  unsignedZero : Bool
  alternate : Bool
  width : Nat
  grouping : Option Char
  precision : Option Nat
  /-- The letter for the form; texts and integers have one by default. -/
  letter : Option Char

def isAlign (c : Char) : Bool := c == '<' || c == '>' || c == '=' || c == '^'

def takeAlign : List Char → Option Char × Option Char × List Char
  | c :: a :: cs =>
    if isAlign a then (some c, some a, cs)
    else if isAlign c then (none, some c, a :: cs)
    else (none, none, c :: a :: cs)
  | [c] => if isAlign c then (none, some c, []) else (none, none, [c])
  | [] => (none, none, [])

def takeOne (p : Char → Bool) : List Char → Option Char × List Char
  | c :: cs => if p c then (some c, cs) else (none, c :: cs)
  | [] => (none, [])

/-- The number at the front of a text, if there is one. -/
def takeCount (cs : List Char) : Except Fault (Option Nat × List Char) :=
  let (digits, rest) := cs.span Text.isDigit
  if digits.isEmpty then .ok (none, rest)
  else
    let n := Text.digitsValue digits
    if sizeLimit < n then .error (.value "Too many decimal digits in format string")
    else .ok (some n, rest)

def letterName (c : Char) : String :=
  if 32 < c.toNat ∧ c.toNat < 128 then String.singleton c else "\\x" ++ baseText 16 c.toNat

def groups (mark : Char) (letter : Option Char) : Bool :=
  match letter with
  | none => true
  | some c => "deEfFgG%".toList.contains c || (mark == '_' && "boxX".toList.contains c)

def takeGrouping (cs : List Char) : Except Fault (Option Char × List Char) :=
  match cs with
  | ',' :: '_' :: _ | '_' :: ',' :: _ => .error (.value "Cannot specify both ',' and '_'.")
  | ',' :: cs => .ok (some ',', cs)
  | '_' :: cs => .ok (some '_', cs)
  | cs => .ok (none, cs)

/-- Reads the layout of an operand of a kind, whose side and letter are `side` and `letter` where
the layout gives none. -/
def readLayout (kind : String) (side : Char) (letter : Option Char) (layout : List Char) :
    Except Fault FieldLayout := do
  let (fill, align, cs) := takeAlign layout
  let (sign, cs) := takeOne (fun c => c == '+' || c == '-' || c == ' ') cs
  let (positive, cs) := takeOne (· == 'z') cs
  let (hash, cs) := takeOne (· == '#') cs
  let (zero, cs) := if fill.isNone then takeOne (· == '0') cs else (none, cs)
  let (width, cs) ← takeCount cs
  let (grouping, cs) ← takeGrouping cs
  let (precision, cs) ←
    match cs with
    | '.' :: cs =>
      match ← takeCount cs with
      | (none, _) => throw (.value "Format specifier missing precision")
      | (some n, cs) => pure (some n, cs)
    | cs => pure (none, cs)
  let letter ←
    match cs with
    | [] => pure letter
    | [c] => pure (some c)
    | _ =>
      throw (.value ("Invalid format specifier '" ++ String.ofList layout ++
        "' for object of type '" ++ kind ++ "'"))
  match grouping with
  | some mark =>
    if !groups mark letter then
      throw (.value ("Cannot specify '" ++ String.singleton mark ++ "' with '" ++
        (letter.map letterName).getD "" ++ "'."))
  | none => pure ()
  let defaultAlign := if zero.isSome && side == '>' then '=' else side
  return ⟨fill.getD (if zero.isSome then '0' else ' '), align.getD defaultAlign, sign,
    positive.isSome, hash.isSome, width.getD 0, grouping, precision, letter⟩

def FieldLayout.pad (l : FieldLayout) (lead body : String) : String :=
  match l.align with
  | '<' => padRight l.fill l.width (lead ++ body)
  | '^' => padBoth l.fill l.width (lead ++ body)
  | '=' => lead ++ padLeft l.fill (l.width - lead.length) body
  | _ => padLeft l.fill l.width (lead ++ body)

def unknownCode (c : Char) (kind : String) : Fault :=
  .value ("Unknown format code '" ++ letterName c ++ "' for object of type '" ++ kind ++ "'")

def layoutText (l : FieldLayout) (kind s : String) : Except Fault String :=
  let refused (what : String) : Except Fault String :=
    .error (.value (what ++ " not allowed in string format specifier"))
  match l.letter with
  | none | some 's' =>
    if l.sign == some ' ' then refused "Space"
    else if l.sign.isSome then refused "Sign"
    else if l.unsignedZero then refused "Negative zero coercion (z)"
    else if l.alternate then refused "Alternate form (#)"
    else if l.align == '=' then refused "'=' alignment"
    else
      let s :=
        match l.precision with
        | some p => String.ofList (s.toList.take p)
        | none => s
      .ok (l.pad "" s)
  | some c => .error (unknownCode c kind)

/-- Digits, last one first, in groups of `size` with a mark between them, and as many zeros in
front as make the whole `width` long. -/
def groupFrom (size : Nat) (mark : Char) : Nat → Nat → List Char → List Char
  | 0, _, digits => digits
  | fuel + 1, width, digits =>
    let n := min size (max (max digits.length width) 1)
    let part := digits.take n
    let group := part ++ List.replicate (n - part.length) '0'
    let rest := digits.drop n
    if rest.isEmpty ∧ width ≤ n then group
    else group ++ mark :: groupFrom size mark fuel (width - n - 1) rest

def groupDigits (size : Nat) (mark : Option Char) (width : Nat) (digits : String) : String :=
  match mark with
  | none => digits
  | some m =>
    if digits.isEmpty then digits
    else
      let backwards := groupFrom size m (digits.length + width + 1) width digits.toList.reverse
      String.ofList backwards.reverse

def FieldLayout.number (l : FieldLayout) (size : Nat) (sign mark digits rest : String) : String :=
  let zeros :=
    if l.fill == '0' && l.align == '=' then l.width - sign.length - mark.length - rest.length
    else 0
  l.pad (sign ++ mark) (groupDigits size l.grouping zeros digits ++ rest)

def layoutSign (l : FieldLayout) (negative : Bool) : String :=
  if negative then "-"
  else
    match l.sign with
    | some '+' => "+"
    | some ' ' => " "
    | _ => ""

def showsZero (text : String) : Bool :=
  text.toList.any (· == '0') && !text.toList.any fun c => c.isDigit && c != '0'

def pointed (text : String) : String :=
  let (front, rest) := text.toList.span (· != 'e')
  if rest.isEmpty || front.contains '.' then text else String.ofList (front ++ '.' :: rest)

def layoutDouble (l : FieldLayout) (f : Float) : Except Fault String :=
  let magnitude := f.abs
  let body : Except Fault String :=
    match l.letter with
    | none =>
      match l.precision with
      | none =>
        .ok (if l.alternate then pointed (doubleText magnitude) else doubleText magnitude)
      | some p =>
        match readDouble magnitude with
        | .finite _ m q =>
          let text := generalText (Fraction.scaled 2 m q) p ((max p 1 : Nat) - 1) l.alternate
          .ok (if text.toList.any (fun c => c == '.' || c == 'e') then text else text ++ ".0")
        | _ => .ok (doubleText magnitude)
    | some '%' =>
      .ok (magnitudeText (magnitude * 100.0) 'f' (l.precision.getD 6) l.alternate ++ "%")
    | some 'n' => .ok (magnitudeText magnitude 'g' (l.precision.getD 6) l.alternate)
    | some c =>
      if "eEfFgG".toList.contains c then
        .ok (magnitudeText magnitude c (l.precision.getD 6) l.alternate)
      else .error (unknownCode c "float")
  body.map fun text =>
    let negative := showsMinus f && !(l.unsignedZero && showsZero text)
    let (digits, rest) := text.toList.span Char.isDigit
    l.number 3 (layoutSign l negative) "" (String.ofList digits) (String.ofList rest)

/-- The forms of an integer that are written with a letter of its own: the base, the size of
groups, and the mark in front. -/
def integerForm? : Char → Option (Nat × Nat × String)
  | 'd' | 'n' => some (10, 3, "")
  | 'b' => some (2, 4, "0b")
  | 'o' => some (8, 4, "0o")
  | 'x' => some (16, 4, "0x")
  | 'X' => some (16, 4, "0X")
  | _ => none

def layoutCharacter (l : FieldLayout) (i : Int) : Except Fault String :=
  let refused (what : String) : Except Fault String :=
    .error (.value (what ++ " not allowed with integer format specifier 'c'"))
  if l.sign.isSome then refused "Sign"
  else if l.alternate then refused "Alternate form (#)"
  else if wordLimit ≤ i ∨ i < -wordLimit then .error (.machineRange "long")
  else (characterOf i).map fun c => l.pad "" (String.singleton c)

def layoutInt (l : FieldLayout) (kind : String) (i : Int) : Except Fault String :=
  let letter := l.letter.getD 'd'
  let refused (what : String) : Except Fault String :=
    .error (.value (what ++ " not allowed in integer format specifier"))
  if "eEfFgG%".toList.contains letter then
    match intToDouble? i with
    | some f => layoutDouble l f
    | none => .error .tooLargeForFloat
  else if letter != 'c' && (integerForm? letter).isNone then .error (unknownCode letter kind)
  else if l.precision.isSome then refused "Precision"
  else if l.unsignedZero then refused "Negative zero coercion (z)"
  else
    match integerForm? letter with
    | none => layoutCharacter l i
    | some (base, size, mark) =>
      let digits? := if base = 10 then intText? i.natAbs else some (baseText base i.natAbs)
      match digits? with
      | none => .error .tooManyDigits
      | some digits =>
        let digits := if letter == 'X' then asciiUpper digits else digits
        .ok (l.number size (layoutSign l (i < 0)) (if l.alternate then mark else "") digits "")

def layoutOperand (layout : List Char) (o : Operand) : Eval String := do
  if layout.isEmpty then o.plain
  else
    match o with
    | .missing m =>
      if m.strict then m.use
      else throw (.type "unsupported format string passed to Undefined.__format__")
    | o =>
      let read (side : Char) (letter : Option Char) := readLayout o.kind side letter layout
      let text :=
        match o.text?, o.number? with
        | some s, _ => do layoutText (← read '<' (some 's')) o.kind s
        | none, some (.int i) => do layoutInt (← read '>' (some 'd')) o.kind i
        | none, some (.float f) => do layoutDouble (← read '>' none) f
        | none, none =>
          .error (.type ("unsupported format string passed to " ++ o.kind ++ ".__format__"))
      match text with
      | .ok t => return t
      | .error e => throw e

end ElementMarkup.Expression
