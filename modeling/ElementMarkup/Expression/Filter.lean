import ElementMarkup.Expression.Call
import ElementMarkup.Number.Literal

/-!
# Filters

The functions that a value is sent through with a bar. A filter takes the value as its first
argument.
-/

set_option autoImplicit false

namespace ElementMarkup.Expression

def asText (o : Operand) : Eval Operand :=
  match o.text? with
  | some _ => return o
  | none => return .text (← o.plain)

def mapText (f : List Char → List Char) (o : Operand) : Eval Operand := do
  let t ← asText o
  return likeOwner t (f (t.text?.getD "").toList)

def isWordStart (c : Char) : Bool :=
  c == '-' || Text.isBlank c || c == '(' || c == '{' || c == '[' || c == '<'

def capitalizeWords (run : List Char) : List Char → List Char
  | [] => finish run.reverse
  | c :: cs =>
    if isWordStart c then finish run.reverse ++ c :: capitalizeWords [] cs
    else capitalizeWords (c :: run) cs
where
  finish : List Char → List Char
    | [] => []
    | c :: cs => Text.upperChar c ++ Text.lower cs

/-- The parts of the name of an attribute; numbers among them are indices. -/
def pathParts (o : Operand) : List Operand :=
  match o, o.text? with
  | .null, _ => []
  | _, some s =>
    (Text.cutAt ['.'] (-1) s.toList).map fun part =>
      if !part.isEmpty && part.all Text.isDigit then .int (Text.digitsValue part)
      else textOperand part
  | o, none => [o]

def followParts (o : Operand) (parts : List Operand) : Eval Operand :=
  parts.foldlM Operand.bracket o

def ignoreCase (o : Operand) : Operand :=
  match o.text? with
  | some s => likeOwner o (Text.lower s.toList)
  | none => o

def sortKey (caseSensitive : Bool) (parts : List Operand) (o : Operand) : Eval Operand := do
  let k ← followParts o parts
  return if caseSensitive then k else ignoreCase k

/-- The keys by which a member is sorted: one for each name between commas. -/
def sortKeys (caseSensitive : Bool) (field : Operand) (o : Operand) : Eval Operand := do
  let names :=
    match field.text? with
    | some s => (Text.cutAt [','] (-1) s.toList).map textOperand
    | none => [field]
  return .tuple (← names.mapM fun n => sortKey caseSensitive (pathParts n) o)

/-- The number of members at the front that are in order, given that the last one seen is
`previous`. -/
def runLength (precedes : Operand → Operand → Eval Bool) (descending : Bool) (previous : Operand) :
    List Operand → Eval Nat
  | [] => return 0
  | x :: xs => do
    if (← precedes x previous) == descending then
      return 1 + (← runLength precedes descending x xs)
    else return 0

/-- The place of a new member among sorted ones, behind its equals, by halving. -/
def insertionPlace (precedes : Operand → Operand → Eval Bool) (sorted : Array Operand)
    (new : Operand) : Nat → Nat → Nat → Eval Nat
  | 0, low, _ => return low
  | fuel + 1, low, high => do
    if low < high then
      let middle := low + (high - low) / 2
      match sorted[middle]? with
      | none => return low
      | some pivot =>
        if ← precedes new pivot then insertionPlace precedes sorted new fuel low middle
        else insertionPlace precedes sorted new fuel (middle + 1) high
    else return low

/-- Sorts by insertion behind the run that is in order already. -/
def sortBy (precedes : Operand → Operand → Eval Bool) (xs : List Operand) :
    Eval (List Operand) := do
  match xs with
  | [] => return []
  | [x] => return [x]
  | x :: y :: rest =>
    let descending ← precedes y x
    let n := 2 + (← runLength precedes descending y rest)
    let run := if descending then (xs.take n).reverse else xs.take n
    let sorted ← (xs.drop n).foldlM (fun (sorted : Array Operand) new => do
      let place ← insertionPlace precedes sorted new (sorted.size + 1) 0 sorted.size
      return sorted.insertIdx! place new) run.toArray
    return sorted.toList

def sortMembers (keyed : List (Operand × Operand)) (reverse : Bool) : Eval (List Operand) := do
  let pairs := keyed.map fun (k, v) => Operand.tuple [k, v]
  let precedes (a b : Operand) : Eval Bool :=
    match a, b with
    | .tuple (j :: _), .tuple (k :: _) => j.ordered .less k
    | _, _ => return false
  let sorted ← sortBy precedes (if reverse then pairs.reverse else pairs)
  let values := sorted.filterMap fun p =>
    match p with
    | .tuple [_, v] => some v
    | _ => none
  return if reverse then values.reverse else values

/-- The member whose key stands furthest in an order; of equals, the first. -/
def extreme (o : Order) (key : Operand → Eval Operand) (best bestKey : Operand) :
    List Operand → Eval Operand
  | [] => return best
  | x :: xs => do
    let k ← key x
    if ← k.ordered o bestKey then extreme o key x k xs else extreme o key best bestKey xs

def addAll (total : Operand) (items : List Operand) : Eval Operand :=
  items.foldlM (arith formatPercent .add) total

def roundOperand (o precision : Operand) : Eval Operand := do
  match o, o.number? with
  | .missing _, _ | _, none => throw (.noRounding o.kind)
  | _, some (.int i) =>
    match precision with
    | .null => return .int i
    | p => return .int (roundInt i (← asInteger p))
  | _, some (.float f) =>
    match precision with
    | .null =>
      match readDouble f with
      | .finite negative m q =>
        return .int (signed negative (Fraction.round (Fraction.scaled 2 m q)))
      | .nan => throw .fromNotANumber
      | .infinite _ => throw .fromInfinity
    | p =>
      match roundDouble? f (← asInteger p) with
      | some r => return .float r
      | none => throw .roundedTooLarge

def wholeNumber (up : Bool) (o : Operand) : Eval Operand := do
  match o.number? with
  | none => throw (.notReal o.kind)
  | some (.int i) => return .int i
  | some (.float f) =>
    match readDouble f with
    | .finite negative m q =>
      let r := Fraction.scaled 2 m q
      let n := signed negative r.num
      return .int (if up then -((-n).fdiv r.den) else n.fdiv r.den)
    | .nan => throw .fromNotANumber
    | .infinite _ => throw .fromInfinity

def roundTowards (up : Bool) (o precision : Operand) : Eval Operand := do
  let scale ← arith formatPercent .pow (.int 10) precision
  let whole ← wholeNumber up (← arith formatPercent .mul o scale)
  arith formatPercent .div whole scale

def toInt (o default base : Operand) : Eval Operand := do
  let throughFloat : Option Int := do
    let s ← o.text?
    truncateDouble? (← readFloat? s)
  match o with
  | .missing m => m.use
  | o =>
    match o.text?, o.number? with
    | some s, _ =>
      let read := do
        let b ← base.int?
        if 0 ≤ b then readInt? b.toNat s else none
      return ((read.or throughFloat).map .int).getD default
    | none, some (.int i) => return .int i
    | none, some (.float f) =>
      if f.isNaN then return default else return .int (← truncateNumber (.float f))
    | none, none => return default

def toFloat (o default : Operand) : Eval Operand := do
  match o with
  | .missing m => m.use
  | o =>
    match o.text?, o.number? with
    | some s, _ => return ((readFloat? s).map .float).getD default
    | none, some n => return .float (← asDouble n)
    | none, none => return default

def reversed (o : Operand) : Eval Operand := do
  let members (kind : String) : Eval Operand := do return .stream kind (← o.iterate).reverse
  match o with
  | .text s => return .text (String.ofList s.toList.reverse)
  | .word s => return .text (String.ofList s.toList.reverse)
  | .escaped s => return .escaped (String.ofList s.toList.reverse)
  | .list _ => members "list_reverseiterator"
  | .tuple _ => members "reversed"
  | .range _ _ _ => members "range_iterator"
  | .mapping _ | .view .keys _ => members "dict_reversekeyiterator"
  | .view .values _ => members "dict_reversevalueiterator"
  | .view .entries _ => members "dict_reverseitemiterator"
  | .missing m => if m.strict then m.use else members "reversed"
  | o =>
    match ← o.items? with
    | some items => newList items.reverse
    | none => throw (.badFilterArgument "argument must be iterable")

def lastMember (o : Operand) : Eval Operand := do
  match o with
  | .stream kind _ => throw (.notReversible kind)
  | o =>
    match ← o.items? with
    | none => throw (.notReversible o.kind)
    | some items =>
      return items.getLastD (undefinedBecause true "No last item, sequence was empty.")

def membersBy (o field : Operand) : Eval (List Operand) := do
  let items ← o.iterate
  match field with
  | .null => return items
  | a => items.mapM fun x => followParts x (pathParts a)

def textOf (f : List Char → List Char) : List Operand → Eval Operand
  | [s] => mapText f s
  | _ => return .null

structure Filter where
  signature : Signature
  run : List Operand → Eval Operand

def aggregate (o : Order) : List Operand → Eval Operand
  | [value, caseSensitive, field] => do
    let sensitive ← caseSensitive.truth
    let key := sortKey sensitive (pathParts field)
    match ← value.iterate with
    | [] => return undefinedBecause true "No aggregated item, sequence was empty."
    | x :: xs => extreme o key x (← key x) xs
  | _ => return .null

def filters : List (String × Filter) :=
  let default : Filter :=
    ⟨⟨"do_default", 0, ["value"], [("default_value", .text ""), ("boolean", .bool false)]⟩,
      fun
      | [value, default, boolean] => do
        match value with
        | .missing _ => return default
        | value =>
          if (← boolean.truth) && !(← value.truth) then return default else return value
      | _ => return .null⟩
  let extremeBy (function : String) (o : Order) : Filter :=
    ⟨⟨function, 1, ["value"], [("case_sensitive", .bool false), ("attribute", .null)]⟩,
      aggregate o⟩
  [("upper", ⟨⟨"do_upper", 0, ["s"], []⟩, textOf Text.upper⟩),
    ("lower", ⟨⟨"do_lower", 0, ["s"], []⟩, textOf Text.lower⟩),
    ("title", ⟨⟨"do_title", 0, ["s"], []⟩, fun
      | [s] => do
        let t ← asText s
        return textOperand (capitalizeWords [] (t.text?.getD "").toList)
      | _ => return .null⟩),
    ("capitalize", ⟨⟨"do_capitalize", 0, ["s"], []⟩, textOf Text.capitalize⟩),
    ("reverse", ⟨⟨"do_reverse", 0, ["value"], []⟩, fun
      | [o] => reversed o
      | _ => return .null⟩),
    ("first", ⟨⟨"sync_do_first", 1, ["seq"], []⟩, fun
      | [o] => do
        return (← o.iterate).headD (undefinedBecause true "No first item, sequence was empty.")
      | _ => return .null⟩),
    ("last", ⟨⟨"do_last", 1, ["seq"], []⟩, fun
      | [o] => lastMember o
      | _ => return .null⟩),
    ("replace", ⟨⟨"do_replace", 1, ["s", "old", "new"], [("count", .null)]⟩, fun
      | [s, old, new, count] => do
        let text ← s.plain
        let part ← old.plain
        let substitute ← new.plain
        let limit ←
          match count with
          | .null => pure (-1)
          | c => asSize c
        return textOperand (Text.replace part.toList substitute.toList limit text.toList)
      | _ => return .null⟩),
    ("trim", ⟨⟨"do_trim", 0, ["value"], [("chars", .null)]⟩, fun
      | [o, chars] => do
        let t ← asText o
        let drop ← trimSet "strip" ⟨[chars], []⟩
        return likeOwner t (Text.trimBy drop (t.text?.getD "").toList)
      | _ => return .null⟩),
    ("sum", ⟨⟨"sync_do_sum", 1, ["iterable"], [("attribute", .null), ("start", .int 0)]⟩, fun
      | [o, field, start] => do
        let items ← membersBy o field
        if start.text?.isSome then
          throw (.type "sum() can't sum strings [use ''.join(seq) instead]")
        addAll start items
      | _ => return .null⟩),
    ("join", ⟨⟨"sync_do_join", 1, ["value"], [("d", .text ""), ("attribute", .null)]⟩, fun
      | [o, separator, field] => do
        let mark ← separator.plain
        let items ← membersBy o field
        return .text (mark.intercalate (← items.mapM Operand.plain))
      | _ => return .null⟩),
    ("max", extremeBy "do_max" .greater),
    ("min", extremeBy "do_min" .less),
    ("round", ⟨⟨"do_round", 0, ["value"], [("precision", .int 0), ("method", .text "common")]⟩,
      fun
      | [o, precision, method] =>
        match method.text? with
        | some "common" => roundOperand o precision
        | some "ceil" => roundTowards true o precision
        | some "floor" => roundTowards false o precision
        | _ => throw (.badFilterArgument "method must be common, ceil or floor")
      | _ => return .null⟩),
    ("int", ⟨⟨"do_int", 0, ["value"], [("default", .int 0), ("base", .int 10)]⟩, fun
      | [o, default, base] => toInt o default base
      | _ => return .null⟩),
    ("float", ⟨⟨"do_float", 0, ["value"], [("default", .float 0.0)]⟩, fun
      | [o, default] => toFloat o default
      | _ => return .null⟩),
    ("string", ⟨⟨"soft_str", 0, ["s"], []⟩, fun
      | [o] => asText o
      | _ => return .null⟩),
    ("list", ⟨⟨"sync_do_list", 0, ["value"], []⟩, fun
      | [o] => do newList (← o.iterate)
      | _ => return .null⟩),
    ("sort", ⟨⟨"do_sort", 1, ["value"],
        [("reverse", .bool false), ("case_sensitive", .bool false), ("attribute", .null)]⟩, fun
      | [o, reverse, caseSensitive, field] => do
        let items ← o.iterate
        let sensitive ← caseSensitive.truth
        let keyed ← items.mapM fun x => do return (← sortKeys sensitive field x, x)
        newList (← sortMembers keyed (← reverse.truth))
      | _ => return .null⟩),
    ("default", default),
    ("d", default)]

/-- The filters that bind their arguments in their own way. -/
def freeFilters : List (String × (Arguments → Eval Operand)) := [
  ("abs", fun args => do
    let o ← exactlyOne "abs" args
    match o.number? with
    | some (.int i) => return .int i.natAbs
    | some (.float f) => return .float f.abs
    | none => throw (.unary "abs()" o.kind)),
  ("length", fun args => do return .int (← (← exactlyOne "len" args).length)),
  ("count", fun args => do return .int (← (← exactlyOne "len" args).length)),
  ("escape", fun args => do escapeOperand (← exactlyOne "escape" args)),
  ("e", fun args => do escapeOperand (← exactlyOne "escape" args)),
  ("format", fun args => do
    match args.positional with
    | [] => return .null
    | value :: rest =>
      if !rest.isEmpty && !args.named.isEmpty then
        throw (.badFilterArgument
          "can't handle positional and keyword arguments at the same time")
      let t ← asText value
      let right ←
        if args.named.isEmpty then pure (.tuple rest) else newMapping (namedEntries args.named)
      arith formatPercent .mod t right)]

def filter? (name : String) : Option (Arguments → Eval Operand) :=
  match freeFilters.lookup name with
  | some run => some run
  | none => (filters.lookup name).map fun f args => do f.run (← f.signature.bind args)

end ElementMarkup.Expression
