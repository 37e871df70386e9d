import ElementMarkup.Expression.Compare

/-!
# Members and attributes

A member is found by an index or a key, an attribute by a name. A name after a point looks for an
attribute first and then for a member, a key between brackets for a member first and then for an
attribute. What is not found is an undefined value that knows where it was looked for. A slice
takes the members between two places, at a given step.
-/

set_option autoImplicit false

namespace ElementMarkup.Expression

def Operand.origin (o : Operand) : String :=
  match o with
  | .null => "None"
  | .word _ => "treemark.reader.Symbol object"
  | .escaped _ => "markupsafe.Markup object"
  | .item _ | .element _ => "treemark.nodes." ++ o.kind ++ " object"
  | .other "date" _ _ => "datetime.date object"
  | .other "datetime" _ _ => "datetime.datetime object"
  | o => o.kind ++ " object"

def unbound (name : String) : Operand :=
  .missing ⟨true, some (Text.quoted name ++ " is undefined"), some (Text.quoted name)⟩

def undefinedBecause (strict : Bool) (reason : String) : Operand :=
  .missing ⟨strict, some reason, some "None"⟩

def absent (owner key : Operand) : Eval Operand := do
  let shown := (← key.toDatum (2 * nesting)).shown?
  let relation := if key.text?.isSome then " has no attribute " else " has no element "
  let message := shown.map fun t => Text.quoted owner.origin ++ relation ++ t
  return .missing ⟨true, message, shown⟩

/-- The member at an index, negative ones counted from the end. -/
def memberAt {α : Type} (xs : List α) (i : Int) : Option α :=
  if 0 ≤ i then xs[i.toNat]?
  else if 0 ≤ i + xs.length then xs[(i + xs.length).toNat]?
  else none

/-- Whether an operand can be a key; strict undefined values fault. -/
def isKey (depth : Nat) (o : Operand) : Eval Bool := do
  match o with
  | .missing m => if m.strict then m.use else return true
  | o =>
    match o.checkKey depth (← get) with
    | .ok _ _ => return true
    | .error (.undefined message) _ => throw (.undefined message)
    | .error _ _ => return false

def Operand.member? (o key : Operand) : Eval (Option Operand) :=
  match o with
  | .text s | .word s =>
    return key.int?.bind fun i => (memberAt s.toList i).map fun c => .text (String.singleton c)
  | .escaped s =>
    return key.int?.bind fun i => (memberAt s.toList i).map fun c => .escaped (String.singleton c)
  | .tuple xs => return key.int?.bind (memberAt xs)
  | .list cell => return key.int?.bind (memberAt (← listAt cell))
  | .range start stop step =>
    return key.int?.bind fun i =>
      let n := rangeLength start stop step
      let i := if i < 0 then i + n else i
      if 0 ≤ i ∧ i < n then some (.int (start + i * step)) else none
  | .mapping cell => do if ← isKey nesting key then lookupKey cell key else return none
  | .builtin .moduleNames => return if key.text? = some "os" then some (.builtin .system) else none
  | .missing m => m.use
  | _ => return none

def textMethods : List String := [
  "capitalize", "casefold", "center", "count", "encode", "endswith", "expandtabs", "find",
  "format", "format_map", "index", "isalnum", "isalpha", "isascii", "isdecimal", "isdigit",
  "isidentifier", "islower", "isnumeric", "isprintable", "isspace", "istitle", "isupper", "join",
  "ljust", "lower", "lstrip", "maketrans", "partition", "removeprefix", "removesuffix", "replace",
  "rfind", "rindex", "rjust", "rpartition", "rsplit", "rstrip", "split", "splitlines",
  "startswith", "strip", "swapcase", "title", "translate", "upper", "zfill"]

def listMethods : List String := [
  "append", "clear", "copy", "count", "extend", "index", "insert", "pop", "remove", "reverse",
  "sort"]

def mappingMethods : List String := [
  "clear", "copy", "fromkeys", "get", "items", "keys", "pop", "popitem", "setdefault", "update",
  "values"]

def integerMethods : List String := [
  "as_integer_ratio", "bit_count", "bit_length", "conjugate", "from_bytes", "to_bytes"]

def doubleMethods : List String := [
  "as_integer_ratio", "conjugate", "fromhex", "hex", "is_integer"]

def numberAttribute? (n : Number) (name : String) : Option Operand :=
  match n, name with
  | n, "real" => some (.ofNumber n)
  | .int _, "imag" => some (.int 0)
  | .float _, "imag" => some (.float 0.0)
  | .int i, "numerator" => some (.int i)
  | .int _, "denominator" => some (.int 1)
  | _, _ => none

def itemAttribute? (i : Item) (name : String) : Option Operand :=
  match i, name with
  | .text s, "value" | .text s, "text" => some (.text s)
  | .number n, "value" => some (.ofNumber n)
  | .number n, "text" => n.text?.map .text
  | .word s, "name" | .word s, "text" => some (.text s)
  | .expression s, "source" => some (.text s)
  | .element tag args, "value" => some (.element ⟨tag, args⟩)
  | _, _ => none

def Operand.attribute? (o : Operand) (name : String) : Eval (Option Operand) :=
  let methodOf (names : List String) : Option Operand :=
    if names.contains name then some (.method o name) else none
  match o with
  | .text _ | .escaped _ | .word _ => return methodOf textMethods
  | .list _ => return methodOf listMethods
  | .mapping _ => return methodOf mappingMethods
  | .tuple _ => return methodOf ["count", "index"]
  | .bool b =>
    return (numberAttribute? (.int (if b then 1 else 0)) name).or (methodOf integerMethods)
  | .int i => return (numberAttribute? (.int i) name).or (methodOf integerMethods)
  | .float f => return (numberAttribute? (.float f) name).or (methodOf doubleMethods)
  | .range start stop step =>
    match name with
    | "start" => return some (.int start)
    | "stop" => return some (.int stop)
    | "step" => return some (.int step)
    | _ => return methodOf ["count", "index"]
  | .item i => return itemAttribute? i name
  | .element e =>
    match name with
    | "tag" => return some (.text e.tag)
    | "args" => return some (.tuple (e.args.map .item))
    | _ => return none
  | .builtin .lipsum =>
    return if name = "__globals__" then some (.builtin .moduleNames) else none
  | .builtin .moduleNames => return methodOf mappingMethods
  | .builtin .system => return if name = "open" then some (.builtin .openFile) else none
  | .missing m => if name.startsWith "__" then return none else m.use
  | _ => return none

def Operand.dot (o : Operand) (name : String) : Eval Operand := do
  match ← o.attribute? name with
  | some a => return a
  | none =>
    match ← o.member? (.text name) with
    | some m => return m
    | none => absent o (.text name)

def Operand.bracket (o key : Operand) : Eval Operand := do
  match ← o.member? key with
  | some m => return m
  | none =>
    match key.text? with
    | none => absent o key
    | some name =>
      match ← o.attribute? name with
      | some a => return a
      | none => absent o key

/-- The bounds of a slice of a sequence of length `n`: where it starts, where it stops, and the
step. -/
def sliceBounds (n : Int) (start stop step : Option Int) : Int × Int × Int :=
  let step := step.getD 1
  let low : Int := if step < 0 then -1 else 0
  let high : Int := if step < 0 then n - 1 else n
  let clamp (i : Int) : Int := if i < 0 then max (i + n) low else min i high
  let first := (start.map clamp).getD (if step < 0 then high else low)
  let last := (stop.map clamp).getD (if step < 0 then low else high)
  (first, last, step)

def sliceList {α : Type} (xs : Array α) (start stop step : Option Int) : List α :=
  let (first, last, step) := sliceBounds xs.size start stop step
  let rec go (i : Int) : Nat → List α
    | 0 => []
    | k + 1 =>
      match xs[i.toNat]? with
      | some x => x :: go (i + step) k
      | none => []
  go first (rangeLength first last step)

/-- An index of a slice: an integer, or nothing. -/
def sliceIndex (o : Option Operand) : Eval (Option Int) :=
  match o with
  | none | some .null => return none
  | some o =>
    match o.int? with
    | some i => return some i
    | none => throw .sliceIndex

def Operand.slice (o : Operand) (start stop step : Option Operand) : Eval Operand := do
  let bounds : Eval (Option Int × Option Int × Option Int) := do
    let k ← sliceIndex step
    if k = some 0 then throw .sliceStepZero
    let i ← sliceIndex start
    let j ← sliceIndex stop
    return (i, j, k)
  match o with
  | .text s | .word s =>
    let (i, j, k) ← bounds
    return .text (String.ofList (sliceList s.toList.toArray i j k))
  | .escaped s =>
    let (i, j, k) ← bounds
    return .escaped (String.ofList (sliceList s.toList.toArray i j k))
  | .tuple xs =>
    let (i, j, k) ← bounds
    return .tuple (sliceList xs.toArray i j k)
  | .list cell =>
    let (i, j, k) ← bounds
    newList (sliceList (← listAt cell).toArray i j k)
  | .range a b c =>
    let (i, j, k) ← bounds
    let (first, last, by') := sliceBounds (rangeLength a b c) i j k
    return .range (a + first * c) (a + last * c) (c * by')
  | .mapping _ => throw (.unhashable "slice")
  | .missing m => m.use
  | o => throw (.notSubscriptable o.kind)

end ElementMarkup.Expression
