import ElementMarkup.Expression.CollectionMethod

/-!
# Calls

What an operand gives when it is called with arguments: a method, one of the functions that every
expression knows, the function of the system that opens files, or a counter.
-/

set_option autoImplicit false

namespace ElementMarkup.Expression

def callMethod (owner : Operand) (name : String) (args : Arguments) : Eval Operand :=
  match owner with
  | .text s | .escaped s | .word s => textMethod owner s name args
  | .list cell => listMethod cell name args
  | .tuple items => tupleMethod items name args
  | .range start stop step => rangeMethod start stop step name args
  | .mapping cell => mappingMethod cell name args
  | o => throw (.attribute o.kind name)

def makeRange (args : Arguments) : Eval Operand := do
  if !args.named.isEmpty then throw (.arguments "range() takes no keyword arguments")
  match args.positional with
  | [] => throw (.arguments "range expected at least 1 argument, got 0")
  | [stop] => return .range 0 (← asInteger stop) 1
  | [start, stop] => return .range (← asInteger start) (← asInteger stop) 1
  | [start, stop, step] =>
    let i ← asInteger start
    let j ← asInteger stop
    let k ← asInteger step
    if k = 0 then throw (.value "range() arg 3 must not be zero") else return .range i j k
  | as =>
    throw (.arguments ("range expected at most 3 arguments, got " ++ toString as.length))

def makeMapping (args : Arguments) : Eval Operand := do
  let given ←
    match args.positional with
    | [] => pure []
    | [o] => entriesOf o
    | as => throw (.arguments ("dict expected at most 1 argument, got " ++ toString as.length))
  newMapping (← putAll (← putAll [] given) (namedEntries args.named))

/-- Opens a file of the disk by its name and the bits of an open mode, and gives its number. The
numbers up to two belong to the standard streams. -/
def openFile (args : Arguments) : Eval Operand := do
  match args.positional with
  | [] => throw (.arguments "open() missing required argument 'path' (pos 1)")
  | [_] => throw (.arguments "open() missing required argument 'flags' (pos 2)")
  | path :: flags :: _ =>
    let mode := OpenMode.ofBits ((← asInteger flags) % 0x100000000).toNat
    match path.text? with
    | none =>
      throw (.type ("open: path should be string, bytes or os.PathLike, not " ++ path.kind))
    | some name =>
      let s ← get
      match s.disk.openFile (Path.ofString name) mode with
      | .error ⟨.nullCharacter, _⟩ => throw (.value "open: embedded null character in path")
      | .error e => throw (.file e.fault name)
      | .ok disk =>
        set { s with disk := disk, opened := s.opened + 1 }
        return .int (3 + s.opened)

/-- Calls an operand. The text that `lipsum` makes up is not the same twice, so there is none. -/
def Operand.call (o : Operand) (args : Arguments) : Eval Operand :=
  match o with
  | .method owner name => callMethod owner name args
  | .builtin .range => makeRange args
  | .builtin .dict => makeMapping args
  | .builtin .openFile => openFile args
  | .counter cell => return .int (← nextCount cell)
  | .missing m => m.use
  | o => throw (.notCallable o.kind)

end ElementMarkup.Expression
