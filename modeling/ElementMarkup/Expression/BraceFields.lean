import ElementMarkup.Expression.Access
import ElementMarkup.Expression.FieldLayout

/-!
# Texts with brace fields

A field between braces names an argument by its place or by its name, may go on to an attribute or
a member of it, and may give a conversion and a layout. A doubled brace stands for one brace.
-/

set_option autoImplicit false

namespace ElementMarkup.Expression

/-- The arguments of a call, and how many fields have taken their place by order so far; none
once a field has named a place. -/
structure BraceArguments where
  positional : List Operand
  named : List (String × Operand)
  automatic : Option Nat
  manual : Bool

structure BraceField where
  name : List Char
  conversion : Option Char
  layout : List Char

/-- The name of a field, the character that ends it, and the rest. A name ends at a closing brace, a
colon or an exclamation mark that is not between square brackets. -/
def takeFieldName (bracketed : Bool) : List Char →
    Except Fault (List Char × Option Char × List Char)
  | [] => .ok ([], none, [])
  | c :: cs =>
    if !bracketed && c == '{' then .error (.value "unexpected '\x7b' in field name")
    else if !bracketed && (c == '}' || c == ':' || c == '!') then .ok ([], some c, cs)
    else
      (takeFieldName (if bracketed then c != ']' else c == '[') cs).map
        fun (name, last, rest) => (c :: name, last, rest)

/-- A layout up to its closing brace, braces nested, and the rest. -/
def takeLayout (depth : Nat) : List Char → Except Fault (List Char × List Char)
  | [] => .error (.value "unmatched '\x7b' in format spec")
  | '{' :: cs => (takeLayout (depth + 1) cs).map fun (f, r) => ('{' :: f, r)
  | '}' :: cs =>
    match depth with
    | 0 => .ok ([], cs)
    | depth + 1 => (takeLayout depth cs).map fun (f, r) => ('}' :: f, r)
  | c :: cs => (takeLayout depth cs).map fun (f, r) => (c :: f, r)

def takeField (cs : List Char) : Except Fault (BraceField × List Char) := do
  let laidOut (name : List Char) (conversion : Option Char) (cs : List Char) :
      Except Fault (BraceField × List Char) :=
    (takeLayout 0 cs).map fun (layout, rest) => (⟨name, conversion, layout⟩, rest)
  match ← takeFieldName false cs with
  | (name, some ':', cs) => laidOut name none cs
  | (_, some '!', []) =>
    throw (.value "end of string while looking for conversion specifier")
  | (name, some '!', [c]) => laidOut name (some c) []
  | (name, some '!', c :: '}' :: cs) => return (⟨name, some c, []⟩, cs)
  | (name, some '!', c :: ':' :: cs) => laidOut name (some c) cs
  | (_, some '!', _) => throw (.value "expected ':' after conversion specifier")
  | (name, some _, cs) => return (⟨name, none, []⟩, cs)
  | (_, none, _) => throw (.value "expected '\x7d' before end of string")

def placeName? (name : List Char) : Eval (Option Nat) :=
  match takeCount name with
  | .ok (some n, []) => return some n
  | .ok _ => return none
  | .error e => throw e

def positionalArgument (args : BraceArguments) (n : Nat) : Eval Operand :=
  match args.positional[n]? with
  | some o => return o
  | none =>
    throw (.index ("Replacement index " ++ toString n ++ " out of range for positional args tuple"))

def headArgument (args : BraceArguments) (name : List Char) : Eval (Operand × BraceArguments) := do
  if name.isEmpty then
    if args.manual then
      throw (.value
        "cannot switch from manual field specification to automatic field numbering")
    let n := args.automatic.getD 0
    return (← positionalArgument args n, { args with automatic := some (n + 1) })
  else
    match ← placeName? name with
    | some n =>
      if args.automatic.isSome then
        throw (.value
          "cannot switch from automatic field numbering to manual field specification")
      return (← positionalArgument args n, { args with manual := true })
    | none =>
      match args.named.lookup (String.ofList name) with
      | some o => return (o, args)
      | none => throw (.absentKey (Text.quoted (String.ofList name)))

def fieldAttribute (o : Operand) (name : String) : Eval Operand := do
  match ← o.attribute? name with
  | some a => return a
  | none => throw (.attribute o.kind name)

def fieldMember (o key : Operand) : Eval Operand := do
  match ← o.member? key with
  | some m => return m
  | none =>
    match o with
    | .mapping _ => throw (.absentKey (← key.shown))
    | .list _ | .tuple _ | .text _ | .escaped _ | .word _ =>
      let name := if o.text?.isSome then "string" else o.kind
      if key.int?.isSome then throw (.index (name ++ " index out of range"))
      else
        throw (.type (name ++ " indices must be integers" ++
          (if o.text?.isSome then ", not " else " or slices, not ") ++ quotedKind o key))
    | o => throw (.notSubscriptable o.kind)
where
  quotedKind (o key : Operand) : String :=
    if o.text?.isSome then "'" ++ key.kind ++ "'" else key.kind

def followPath : Nat → Operand → List Char → Eval Operand
  | 0, _, _ => throw .tooDeep
  | _ + 1, o, [] => return o
  | fuel + 1, o, '.' :: cs => do
    let (name, rest) := cs.span fun c => c != '.' && c != '['
    if name.isEmpty then throw (.value "Empty attribute in format string")
    followPath fuel (← fieldAttribute o (String.ofList name)) rest
  | fuel + 1, o, '[' :: cs => do
    let (name, rest) := cs.span (· != ']')
    match rest with
    | [] => throw (.value "Missing ']' in format string")
    | _ :: rest =>
      if name.isEmpty then throw (.value "Empty attribute in format string")
      let key :=
        match ← placeName? name with
        | some n => Operand.int n
        | none => .text (String.ofList name)
      followPath fuel (← fieldMember o key) rest
  | _ + 1, _, _ :: _ =>
    throw (.value "Only '.' or '[' may follow ']' in format field specifier")

def convert (conversion : Option Char) (o : Operand) : Eval Operand :=
  match conversion with
  | none => return o
  | some 's' => return .text (← o.plain)
  | some 'r' => return .text (← o.shown)
  | some 'a' => return .text (asciiLiteral (← o.shown))
  | some c =>
    throw (.value ("Unknown conversion specifier " ++
      (if c == '\x7f' then "\\x7f" else letterName c)))

def orThrow {α : Type} (r : Except Fault α) : Eval α :=
  match r with
  | .ok a => return a
  | .error e => throw e

/-- Fills in the fields of a text; layouts may hold fields themselves, down to `levels`. -/
def fillBraces (levels : Nat) (args : BraceArguments) (out : List Char) :
    Nat → List Char → Eval (List Char × BraceArguments)
  | 0, _ => throw .tooDeep
  | _ + 1, [] => return (out.reverse, args)
  | fuel + 1, '{' :: '{' :: cs => fillBraces levels args ('{' :: out) fuel cs
  | fuel + 1, '}' :: '}' :: cs => fillBraces levels args ('}' :: out) fuel cs
  | _ + 1, '}' :: _ => throw (.value "Single '\x7d' encountered in format string")
  | _ + 1, ['{'] => throw (.value "Single '\x7b' encountered in format string")
  | fuel + 1, '{' :: cs => do
    let (field, cs) ← orThrow (takeField cs)
    let (head, path) := field.name.span fun c => c != '.' && c != '['
    let (o, args) ← headArgument args head
    let o ← followPath (field.name.length + 1) o path
    let o ← convert field.conversion o
    let (layout, args) ←
      if field.layout.contains '{' then
        match levels with
        | 0 => throw (.value "Max string recursion exceeded")
        | levels + 1 => fillBraces levels args [] fuel field.layout
      else pure (field.layout, args)
    let text ← layoutOperand layout o
    fillBraces levels args (text.toList.reverse ++ out) fuel cs
  | fuel + 1, c :: cs => fillBraces levels args (c :: out) fuel cs

def formatBraces (s : String) (positional : List Operand) (named : List (String × Operand)) :
    Eval String := do
  let (text, _) ←
    fillBraces 1 ⟨positional, named, none, false⟩ [] (s.length + 1) s.toList
  return String.ofList text

end ElementMarkup.Expression
