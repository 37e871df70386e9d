import ElementMarkup.Expression.Compare

/-!
# Arguments of calls

Arguments are given in order or by name. A signature says which parameters a function has and
which of them may be left out; binding finds the value of each, or the fault of the call.
-/

set_option autoImplicit false

namespace ElementMarkup.Expression

structure Arguments where
  positional : List Operand
  named : List (String × Operand)

def Arguments.empty : Arguments := ⟨[], []⟩

def argumentName (o : Operand) : Eval String :=
  match o.text? with
  | some name => return name
  | none => throw (.type "keywords must be strings")

/-- Arguments with a sequence and a mapping spread out behind them. -/
def Arguments.spreading (positional : List Operand) (named : List (String × Operand))
    (spread spreadNamed : Option Operand) : Eval Arguments := do
  let further ←
    match spread with
    | some o =>
      match ← o.items? with
      | some items => pure items
      | none => throw (.type ("Value after * must be an iterable, not " ++ o.kind))
    | none => pure []
  let furtherNamed ←
    match spreadNamed with
    | some (.mapping cell) =>
      (← mappingAt cell).mapM fun (k, v) => do return (← argumentName k, v)
    | some (.missing m) => m.use
    | some o =>
      throw (.type ("jinja2.runtime.Context.call() argument after ** must be a mapping, not " ++
        o.kind))
    | none => pure []
  match furtherNamed.find? fun (name, _) => (named.lookup name).isSome with
  | some (name, _) =>
    throw (.type ("jinja2.runtime.Context.call() got multiple values for keyword argument " ++
      Text.quoted name))
  | none => return ⟨positional ++ further, named ++ furtherNamed⟩

/-- The parameters of a function in order; the optional ones stand last with their defaults. -/
structure Signature where
  function : String
  /-- The number of parameters in front that a caller does not see. -/
  hidden : Nat
  required : List String
  optional : List (String × Operand)

def Signature.names (s : Signature) : List String := s.required ++ s.optional.map Prod.fst

def enumerateNames : List String → String
  | [] => ""
  | [a] => Text.quoted a
  | [a, b] => Text.quoted a ++ " and " ++ Text.quoted b
  | names =>
    let shown := names.map Text.quoted
    ", ".intercalate shown.dropLast ++ ", and " ++ shown.getLastD ""

def plural (n : Nat) (word : String) : String := if n = 1 then word else word ++ "s"

def Signature.tooMany (s : Signature) (given : Nat) : Fault :=
  let least := s.hidden + s.required.length
  let most := least + s.optional.length
  let given := s.hidden + given
  let verb := if given = 1 then " was given" else " were given"
  if s.optional.isEmpty then
    .arguments (s.function ++ "() takes " ++ toString most ++ " positional " ++
      plural most "argument" ++ " but " ++ toString given ++ verb)
  else
    .arguments (s.function ++ "() takes from " ++ toString least ++ " to " ++ toString most ++
      " positional arguments but " ++ toString given ++ verb)

/-- The first named argument that has no parameter or whose parameter is already taken. -/
def Signature.misnamed? (s : Signature) (taken : List String) : List (String × Operand) →
    Option Fault
  | [] => .none
  | (name, _) :: rest =>
    if !s.names.contains name then
      some (.arguments (s.function ++ "() got an unexpected keyword argument " ++
        Text.quoted name))
    else if taken.contains name then
      some (.arguments (s.function ++ "() got multiple values for argument " ++ Text.quoted name))
    else s.misnamed? taken rest

def Signature.bind (s : Signature) (args : Arguments) : Eval (List Operand) := do
  let n := args.positional.length
  match s.misnamed? (s.names.take n) args.named with
  | some fault => throw fault
  | .none => pure ()
  if s.names.length < n then throw (s.tooMany n)
  let value? (i : Nat) (name : String) : Option Operand :=
    (args.positional[i]?).or (args.named.lookup name)
  let required := s.required.zipIdx.map fun (name, i) => (name, value? i name)
  let missing := (required.filter fun (_, v) => v.isNone).map Prod.fst
  if !missing.isEmpty then
    throw (.arguments (s.function ++ "() missing " ++ toString missing.length ++
      " required positional " ++ plural missing.length "argument" ++ ": " ++
      enumerateNames missing))
  let optional := s.optional.zipIdx.map fun ((name, default), i) =>
    (value? (s.required.length + i) name).getD default
  return required.filterMap Prod.snd ++ optional

def exactlyOne (function : String) (args : Arguments) : Eval Operand :=
  if !args.named.isEmpty then
    throw (.arguments (function ++ "() takes no keyword arguments"))
  else
    match args.positional with
    | [a] => return a
    | as =>
      throw (.arguments (function ++ "() takes exactly one argument (" ++ toString as.length ++
        " given)"))

def noArguments (function : String) (args : Arguments) : Eval Unit :=
  if !args.named.isEmpty then
    throw (.arguments (function ++ "() takes no keyword arguments"))
  else if args.positional.isEmpty then return ()
  else
    throw (.arguments (function ++ "() takes no arguments (" ++
      toString args.positional.length ++ " given)"))

def onlyPositional (owner method : String) (args : Arguments) : Eval (List Operand) :=
  if args.named.isEmpty then return args.positional
  else throw (.arguments (owner ++ "." ++ method ++ "() takes no keyword arguments"))

def between (owner method : String) (least most : Nat) (args : Arguments) :
    Eval (List Operand) := do
  let given ← onlyPositional owner method args
  let wrong (bound : String) (limit : Nat) : Fault :=
    .arguments (method ++ " expected " ++ bound ++ toString limit ++ " " ++
      plural limit "argument" ++ ", got " ++ toString given.length)
  if given.length < least then throw (wrong (if least = most then "" else "at least ") least)
  else if most < given.length then throw (wrong (if least = most then "" else "at most ") most)
  else return given

def soughtBetween (method : String) (args : Arguments) : Eval (Operand × List Operand) := do
  let wrong (bound : String) (given : Nat) : Fault :=
    .arguments (method ++ "() takes " ++ bound ++ " (" ++ toString given ++ " given)")
  match ← onlyPositional "str" method args with
  | [] => throw (wrong "at least 1 argument" 0)
  | sought :: bounds =>
    if 2 < bounds.length then throw (wrong "at most 3 arguments" (bounds.length + 1))
    else return (sought, bounds)

def bindOptional (function : String) (parameters : List (String × Operand)) (args : Arguments) :
    Eval (List Operand) := do
  let names := parameters.map Prod.fst
  let given := args.positional.length + args.named.length
  if names.length < given then
    throw (.arguments (function ++ "() takes at most " ++ toString names.length ++
      (if args.positional.isEmpty then " keyword" else "") ++
      " arguments (" ++ toString given ++ " given)"))
  match (names.take args.positional.length).zipIdx.find? fun (name, _) =>
      (args.named.lookup name).isSome with
  | some (name, i) =>
    throw (.arguments ("argument for " ++ function ++ "() given by name (" ++ Text.quoted name ++
      ") and position (" ++ toString (i + 1) ++ ")"))
  | none => pure ()
  match args.named.find? fun (name, _) => !names.contains name with
  | some (name, _) =>
    throw (.arguments (Text.quoted name ++ " is an invalid keyword argument for " ++ function ++
      "()"))
  | none =>
    return parameters.zipIdx.map fun ((name, default), i) =>
      ((args.positional[i]?).or (args.named.lookup name)).getD default

end ElementMarkup.Expression
