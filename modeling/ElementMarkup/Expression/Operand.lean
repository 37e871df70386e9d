import ElementMarkup.Expression.Fault

/-!
# Operands

The values that expressions work with. Lists and mappings live in a store, so that a change made
through one name is seen through every other; counters live there too. The store also holds the
disk, since the functions of the system are within reach of an expression. An operand is taken from
a datum and given back as one.
-/

set_option autoImplicit false

namespace ElementMarkup.Expression

/-- An undefined value. A strict one faults on almost every use; the other kind is empty text.
The texts are missing if they would hold an integer with too many digits. -/
structure Missing where
  strict : Bool
  message : Option String
  shownName : Option String

inductive Builtin where
  | range
  | dict
  /-- The function that makes up filler text. -/
  | lipsum
  /-- The names of the module that `lipsum` comes from. -/
  | moduleNames
  | system
  | openFile
  deriving DecidableEq

inductive ViewKind where
  | keys
  | values
  | entries
  deriving DecidableEq

inductive Operand where
  | null
  | bool (value : Bool)
  | int (value : Int)
  | float (value : Float)
  | text (value : String)
  | escaped (value : String)
  | word (name : String)
  | tuple (items : List Operand)
  | list (cell : Nat)
  | mapping (cell : Nat)
  | view (kind : ViewKind) (cell : Nat)
  | range (start stop step : Int)
  /-- A sequence that is gone through once. -/
  | stream (kind : String) (items : List Operand)
  | counter (cell : Nat)
  | method (owner : Operand) (name : String)
  | builtin (function : Builtin)
  | item (value : Item)
  | element (value : Element)
  | missing (value : Missing)
  | other (kind shown plain : String)

inductive Cell where
  | list (items : List Operand)
  | mapping (entries : List (Operand × Operand))
  | counter (next : Int)

structure Store where
  cells : Array Cell
  disk : Disk
  /-- How many files have been opened. -/
  opened : Nat

def Store.empty : Store := ⟨#[], Folder.disk ⟨[], []⟩, 0⟩

/-- A computation that may change the store and may fault; changes before a fault are kept. -/
abbrev Eval := EStateM Fault Store

def allocate (c : Cell) : Eval Nat := fun s =>
  .ok s.cells.size { s with cells := s.cells.push c }

def listAt (cell : Nat) : Eval (List Operand) := fun s =>
  match s.cells[cell]? with
  | some (.list items) => .ok items s
  | _ => .ok [] s

def mappingAt (cell : Nat) : Eval (List (Operand × Operand)) := fun s =>
  match s.cells[cell]? with
  | some (.mapping entries) => .ok entries s
  | _ => .ok [] s

def Store.set (s : Store) (cell : Nat) (c : Cell) : Store :=
  { s with cells := s.cells.setIfInBounds cell c }

def setCell (cell : Nat) (c : Cell) : Eval Unit := fun s => .ok () (s.set cell c)

def newList (items : List Operand) : Eval Operand := do return .list (← allocate (.list items))

def newMapping (entries : List (Operand × Operand)) : Eval Operand := do
  return .mapping (← allocate (.mapping entries))

def nextCount (cell : Nat) : Eval Int := fun s =>
  match s.cells[cell]? with
  | some (.counter n) => .ok n (s.set cell (.counter (n + 1)))
  | _ => .ok 0 s

def Operand.kind : Operand → String
  | .null => "NoneType"
  | .bool _ => "bool"
  | .int _ => "int"
  | .float _ => "float"
  | .text _ => "str"
  | .escaped _ => "Markup"
  | .word _ => "Symbol"
  | .tuple _ => "tuple"
  | .list _ => "list"
  | .mapping _ => "dict"
  | .view .keys _ => "dict_keys"
  | .view .values _ => "dict_values"
  | .view .entries _ => "dict_items"
  | .range _ _ _ => "range"
  | .stream kind _ => kind
  | .counter _ => "function"
  | .method _ _ => "builtin_function_or_method"
  | .builtin .range | .builtin .dict => "type"
  | .builtin .lipsum => "function"
  | .builtin .moduleNames => "dict"
  | .builtin .system => "module"
  | .builtin .openFile => "builtin_function_or_method"
  | .item i => i.kind
  | .element _ => "Element"
  | .missing m => if m.strict then "StrictUndefined" else "Undefined"
  | .other kind _ _ => kind

def Builtin.text : Builtin → String
  | .range => "<class 'range'>"
  | .dict => "<class 'dict'>"
  | .lipsum => "<function generate_lorem_ipsum>"
  | .moduleNames => "<module names>"
  | .system => "<module 'os' (frozen)>"
  | .openFile => "<built-in function open>"

def Operand.text? : Operand → Option String
  | .text s | .escaped s | .word s => some s
  | _ => none

/-- A truth value counts as the integer one or zero. -/
def Operand.number? : Operand → Option Number
  | .bool b => some (.int (if b then 1 else 0))
  | .int i => some (.int i)
  | .float f => some (.float f)
  | _ => none

def Operand.int? : Operand → Option Int
  | .bool b => some (if b then 1 else 0)
  | .int i => some i
  | _ => none

def Operand.ofNumber : Number → Operand
  | .int i => .int i
  | .float f => .float f

def Missing.fault (m : Missing) : Fault :=
  match m.message with
  | some message => .undefined message
  | none => .tooManyDigits

def Missing.use {α : Type} (m : Missing) : Eval α := throw m.fault

/-- How deeply operands may be nested where they are compared or shown. -/
def nesting : Nat := 1000

def rangeFrom (start step : Int) : Nat → List Operand
  | 0 => []
  | n + 1 => .int start :: rangeFrom (start + step) step n

def rangeLength (start stop step : Int) : Nat :=
  if 0 < step then ((stop - start + step - 1).fdiv step).toNat
  else if step < 0 then ((start - stop - step - 1).fdiv (-step)).toNat
  else 0

/-- The members of an operand in order; none if it has none to go through. -/
def Operand.items? (o : Operand) : Eval (Option (List Operand)) :=
  match o with
  | .text s | .escaped s | .word s =>
    return some (s.toList.map fun c => .text (String.singleton c))
  | .tuple items | .stream _ items => return some items
  | .list cell => return some (← listAt cell)
  | .mapping cell | .view .keys cell => return some ((← mappingAt cell).map Prod.fst)
  | .view .values cell => return some ((← mappingAt cell).map Prod.snd)
  | .view .entries cell => return some ((← mappingAt cell).map fun (k, v) => .tuple [k, v])
  | .range start stop step => return some (rangeFrom start step (rangeLength start stop step))
  | .missing m => if m.strict then m.use else return some []
  | _ => return none

def Operand.iterate (o : Operand) : Eval (List Operand) := do
  match ← o.items? with
  | some items => return items
  | none => throw (.notIterable o.kind)

def viewText (kind : ViewKind) (items : List String) : String :=
  let name :=
    match kind with
    | .keys => "dict_keys"
    | .values => "dict_values"
    | .entries => "dict_items"
  name ++ "([" ++ ", ".intercalate items ++ "])"

def rangeText (start stop step : Int) : String :=
  "range(" ++ toString start ++ ", " ++ toString stop ++
    (if step = 1 then "" else ", " ++ toString step) ++ ")"

def shownText (t : Option String) : Eval String :=
  match t with
  | some t => return t
  | none => throw .tooManyDigits

mutual

/-- The datum of an operand, with at most `depth` levels. -/
def Operand.toDatum (depth : Nat) (o : Operand) : Eval Datum :=
  match depth with
  | 0 => throw .tooDeep
  | depth + 1 =>
    match o with
    | .null => return .null
    | .bool b => return .bool b
    | .int i => return .number (.int i)
    | .float f => return .number (.float f)
    | .text s => return .text s
    | .escaped s => return .escaped s
    | .word s => return .word s
    | .tuple items => return .tuple (← Operand.toData depth items)
    | .list cell => do return .list (← Operand.toData depth (← listAt cell))
    | .mapping cell => do return .mapping (← Operand.toEntries depth (← mappingAt cell))
    | .view kind cell => do
      let items := (← (Operand.view kind cell).items?).getD []
      let shown ← (← Operand.toData depth items).mapM fun d => shownText d.shown?
      let text := viewText kind shown
      return .other o.kind text text
    | .range start stop step =>
      let text := rangeText start stop step
      return .other "range" text text
    | .stream kind _ =>
      let text := "<" ++ kind ++ " object>"
      return .other kind text text
    | .counter _ => return .counter 0
    | .method owner name =>
      let text := "<built-in method " ++ name ++ " of " ++ owner.kind ++ " object>"
      return .other o.kind text text
    | .builtin function =>
      let text := function.text
      return .other o.kind text text
    | .item i => return .item i
    | .element e => return .element e
    | .missing _ => return .other o.kind "Undefined" ""
    | .other kind shown plain => return .other kind shown plain

def Operand.toData (depth : Nat) (items : List Operand) : Eval (List Datum) :=
  match depth with
  | 0 => throw .tooDeep
  | depth + 1 => items.mapM (Operand.toDatum depth)

def Operand.toEntries (depth : Nat) (entries : List (Operand × Operand)) :
    Eval (List (Datum × Datum)) :=
  match depth with
  | 0 => throw .tooDeep
  | depth + 1 => entries.mapM fun (k, v) => do
    return (← Operand.toDatum depth k, ← Operand.toDatum depth v)

end

def Operand.shown (o : Operand) : Eval String := do
  shownText (← o.toDatum (2 * nesting)).shown?

/-- The text of an operand; a strict undefined value has none. -/
def Operand.plain (o : Operand) : Eval String := do
  match o with
  | .missing m => if m.strict then m.use else return ""
  | o => shownText (← o.toDatum (2 * nesting)).plain?

mutual

def Operand.ofDatum : Datum → Eval Operand
  | .null => return .null
  | .bool b => return .bool b
  | .number (.int i) => return .int i
  | .number (.float f) => return .float f
  | .text s => return .text s
  | .word s => return .word s
  | .escaped s => return .escaped s
  | .list items => do newList (← Operand.ofData items)
  | .tuple items => do return .tuple (← Operand.ofData items)
  | .mapping entries => do newMapping (← Operand.ofEntries entries)
  | .item i => return .item i
  | .element e => return .element e
  | .counter first => do return .counter (← allocate (.counter first))
  | .other kind shown plain => return .other kind shown plain

def Operand.ofData : List Datum → Eval (List Operand)
  | [] => return []
  | d :: ds => do
    let o ← Operand.ofDatum d
    return o :: (← Operand.ofData ds)

def Operand.ofEntries : List (Datum × Datum) → Eval (List (Operand × Operand))
  | [] => return []
  | (k, v) :: es => do
    let a ← Operand.ofDatum k
    let b ← Operand.ofDatum v
    return (a, b) :: (← Operand.ofEntries es)

end

def Operand.truth (o : Operand) : Eval Bool :=
  match o with
  | .null => return false
  | .bool b => return b
  | .int i => return i ≠ 0
  | .float f => return f != 0.0
  | .text s | .escaped s | .word s => return !s.isEmpty
  | .tuple items => return !items.isEmpty
  | .list cell => return !(← listAt cell).isEmpty
  | .mapping cell | .view _ cell => return !(← mappingAt cell).isEmpty
  | .range start stop step => return rangeLength start stop step ≠ 0
  | .missing m => if m.strict then m.use else return false
  | _ => return true

def Operand.length (o : Operand) : Eval Nat :=
  match o with
  | .text s | .escaped s | .word s => return s.length
  | .tuple items => return items.length
  | .list cell => return (← listAt cell).length
  | .mapping cell | .view _ cell => return (← mappingAt cell).length
  | .range start stop step => return rangeLength start stop step
  | .missing m => if m.strict then m.use else return 0
  | o => throw (.noLength o.kind)

end ElementMarkup.Expression
