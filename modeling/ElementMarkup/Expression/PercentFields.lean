import ElementMarkup.Expression.Arithmetic
import ElementMarkup.Number.Format

/-!
# Texts with percent fields

A percent sign starts a field that the next argument fills in: an optional name in parentheses,
flags, a width, a precision, and a letter for the form. Every argument has to be used, unless the
arguments are given by name.
-/

set_option autoImplicit false

namespace ElementMarkup.Expression

structure FieldArguments where
  /-- The arguments that are left. -/
  rest : List Operand
  /-- The mapping for named fields, if there is one. -/
  named : Option Operand

structure PercentField where
  left : Bool
  plus : Bool
  blank : Bool
  alternate : Bool
  zero : Bool
  width : Nat
  precision : Option Nat

def PercentField.plainOne : PercentField := ⟨false, false, false, false, false, 0, none⟩

def takeArgument (args : FieldArguments) : Eval (Operand × FieldArguments) :=
  match args.rest with
  | a :: rest => return (a, { args with rest })
  | [] => throw (.type "not enough arguments for format string")

def takeFlags (f : PercentField) : List Char → PercentField × List Char
  | '-' :: cs => takeFlags { f with left := true } cs
  | '+' :: cs => takeFlags { f with plus := true } cs
  | ' ' :: cs => takeFlags { f with blank := true } cs
  | '#' :: cs => takeFlags { f with alternate := true } cs
  | '0' :: cs => takeFlags { f with zero := true } cs
  | cs => (f, cs)

inductive SizeRole where
  | width
  | precision

def SizeRole.limit : SizeRole → Int
  | .width => sizeLimit
  | .precision => 0x7fffffff

def SizeRole.tooBig : SizeRole → Fault
  | .width => .value "width too big"
  | .precision => .value "precision too big"

def SizeRole.overflow : SizeRole → Fault
  | .width => .machineRange "ssize_t"
  | .precision => .machineRange "int"

def takeSize (role : SizeRole) (args : FieldArguments) (cs : List Char) :
    Eval (Int × FieldArguments × List Char) :=
  match cs with
  | '*' :: cs => do
    let (a, args) ← takeArgument args
    match a.int? with
    | some i =>
      if role.limit < i ∨ i < -role.limit - 1 then throw role.overflow
      else return (i, args, cs)
    | none => throw (.type "* wants int")
  | cs =>
    let (digits, cs) := cs.span Char.isDigit
    let n := Text.digitsValue digits
    if role.limit < n then throw role.tooBig else return (n, args, cs)

def padNumber (f : PercentField) (sign digits : String) : String :=
  if f.left then padRight ' ' f.width (sign ++ digits)
  else if f.zero then sign ++ padLeft '0' (f.width - sign.length) digits
  else padLeft ' ' f.width (sign ++ digits)

def padText (f : PercentField) (s : String) : String :=
  let s :=
    match f.precision with
    | some p => String.ofList (s.toList.take p)
    | none => s
  if f.left then padRight ' ' f.width s else padLeft ' ' f.width s

def signText (f : PercentField) (negative : Bool) : String :=
  if negative then "-" else if f.plus then "+" else if f.blank then " " else ""

def letterFault (letter : Char) (wanted kind : String) : Fault :=
  .type ("%" ++ String.singleton letter ++ " format: " ++ wanted ++ " is required, not " ++ kind)

def truncateNumber (n : Number) : Eval Int :=
  match n with
  | .int i => return i
  | .float f =>
    match truncateDouble? f with
    | some i => return i
    | none => throw (if f.isNaN then .fromNotANumber else .fromInfinity)

def decimalField (f : PercentField) (letter : Char) (a : Operand) : Eval String := do
  match a, a.number? with
  | .missing m, _ => throw (letterFault letter "a real number" (Operand.missing m).kind)
  | _, none => throw (letterFault letter "a real number" a.kind)
  | _, some n =>
    let i ← truncateNumber n
    let digits ← shownText (intText? i.natAbs)
    return padNumber f (signText f (i < 0)) (padLeft '0' (f.precision.getD 0) digits)

def baseField (f : PercentField) (letter : Char) (a : Operand) : Eval String := do
  match a.int? with
  | none => throw (letterFault letter "an integer" a.kind)
  | some i =>
    let base := if letter == 'o' then 8 else 16
    let digits := padLeft '0' (f.precision.getD 0) (baseText base i.natAbs)
    let mark := if f.alternate then (if letter == 'o' then "0o" else "0x") else ""
    let text := mark ++ digits
    let sign := signText f (i < 0)
    let whole :=
      if f.left then padRight ' ' f.width (sign ++ text)
      else if f.zero then sign ++ mark ++ padLeft '0' (f.width - sign.length - mark.length) digits
      else padLeft ' ' f.width (sign ++ text)
    return if letter == 'X' then asciiUpper whole else whole

def floatField (f : PercentField) (letter : Char) (a : Operand) : Eval String := do
  match a.number? with
  | none => throw (.notReal a.kind)
  | some n =>
    let x ← asDouble n
    let digits := magnitudeText x letter (f.precision.getD 6) f.alternate
    return padNumber f (signText f (showsMinus x)) digits

def characterOf (i : Int) : Except Fault Char :=
  if 0 ≤ i ∧ i < 0x110000 then .ok (Char.ofNat i.toNat) else .error .noCharacter

def charField (f : PercentField) (a : Operand) : Eval String := do
  let alone (c : Char) : String := padText { f with precision := none } (String.singleton c)
  match a.int?, a.text?.map String.toList with
  | some i, _ =>
    match characterOf i with
    | .ok c => return alone c
    | .error e => throw e
  | none, some [c] => return alone c
  | none, _ => throw (.type "%c requires int or char")

/-- The literal form with every character above the first 127 spelled by its number. -/
def asciiLiteral (s : String) : String :=
  String.ofList (s.toList.flatMap fun c =>
    if c.toNat < 0x7f then [c]
    else if c.toNat < 0x100 then '\\' :: 'x' :: Text.hexDigits 2 c.toNat
    else if c.toNat < 0x10000 then '\\' :: 'u' :: Text.hexDigits 4 c.toNat
    else '\\' :: 'U' :: Text.hexDigits 8 c.toNat)

def percentText (f : PercentField) (letter : Char) (index : Nat) (a : Operand) : Eval String := do
  match letter with
  | 's' => return padText f (← a.plain)
  | 'r' => return padText f (← a.shown)
  | 'a' => return padText f (asciiLiteral (← a.shown))
  | 'd' | 'i' | 'u' => decimalField f letter a
  | 'o' | 'x' | 'X' => baseField f letter a
  | 'e' | 'E' | 'f' | 'F' | 'g' | 'G' => floatField f letter a
  | 'c' => charField f a
  | c =>
    let shown := if 31 ≤ c.toNat ∧ c.toNat ≤ 126 then c else '?'
    throw (.value ("unsupported format character '" ++ String.singleton shown ++ "' (0x" ++
      baseText 16 c.toNat ++ ") at index " ++ toString index))

/-- The name in parentheses at the front of a field, and the rest; parentheses may be nested. -/
def takeName (depth : Nat) : List Char → Option (List Char × List Char)
  | [] => none
  | '(' :: cs => (takeName (depth + 1) cs).map fun (n, r) => ('(' :: n, r)
  | ')' :: cs =>
    match depth with
    | 0 => some ([], cs)
    | depth + 1 => (takeName depth cs).map fun (n, r) => (')' :: n, r)
  | c :: cs => (takeName depth cs).map fun (n, r) => (c :: n, r)

/-- The argument of a named field becomes the only one. -/
def nameArgument (args : FieldArguments) (name : String) : Eval FieldArguments :=
  match args.named with
  | some (.mapping cell) => do
    match ← lookupKey cell (.text name) with
    | some v => return { args with rest := [v] }
    | none => throw (.absentKey (Text.quoted name))
  | some (.missing m) => m.use
  | some o => throw (.type (o.kind ++ " indices must be integers or slices, not str"))
  | none => throw (.type "format requires a mapping")

def fillPercent (total : Nat) (args : FieldArguments) (out : List Char) :
    Nat → List Char → Eval String
  | 0, _ => throw .tooDeep
  | _ + 1, [] => do
    if args.named.isNone && !args.rest.isEmpty then
      throw (.type "not all arguments converted during string formatting")
    return String.ofList out.reverse
  | fuel + 1, '%' :: '%' :: cs => fillPercent total args ('%' :: out) fuel cs
  | fuel + 1, '%' :: cs => do
    let (args, cs) ←
      match cs with
      | '(' :: cs =>
        match args.named with
        | none => throw (.type "format requires a mapping")
        | some _ =>
          match takeName 0 cs with
          | none => throw (.value "incomplete format key")
          | some (name, cs) => do pure (← nameArgument args (String.ofList name), cs)
      | cs => pure (args, cs)
    let (f, cs) := takeFlags .plainOne cs
    let (width, args, cs) ← takeSize .width args cs
    let f := { f with left := f.left || width < 0, width := width.natAbs }
    let (precision, args, cs) ←
      match cs with
      | '.' :: cs => do
        let (p, args, cs) ← takeSize .precision args cs
        pure (some p.toNat, args, cs)
      | cs => pure (none, args, cs)
    let f := { f with precision }
    let cs :=
      match cs with
      | 'h' :: cs | 'l' :: cs | 'L' :: cs => cs
      | cs => cs
    match cs with
    | [] => throw (.value "incomplete format")
    | letter :: cs =>
      let (a, args) ← takeArgument args
      let text ← percentText f letter (total - cs.length - 1) a
      fillPercent total args (text.toList.reverse ++ out) fuel cs
  | fuel + 1, c :: cs => fillPercent total args (c :: out) fuel cs

/-- Operands that stand for themselves and can also be asked by name. -/
def Operand.isSubscripted : Operand → Bool
  | .mapping _ | .list _ | .range _ _ _ | .missing _ => true
  | _ => false

def formatPercent (s : String) (right : Operand) : Eval String :=
  let args : FieldArguments :=
    match right with
    | .tuple items => ⟨items, none⟩
    | o => ⟨[o], if o.isSubscripted then some o else none⟩
  fillPercent s.length args [] (s.length + 1) s.toList

end ElementMarkup.Expression
