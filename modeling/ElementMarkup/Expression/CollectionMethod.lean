import ElementMarkup.Expression.TextMethod

/-!
# Methods of collections

The functions that lists, tuples, ranges and mappings bring along. Those of lists and mappings may
change them in the store.
-/

set_option autoImplicit false

namespace ElementMarkup.Expression

def removeAt {α : Type} (xs : List α) (i : Nat) : List α := xs.take i ++ xs.drop (i + 1)

def placeOf (o : Operand) (i : Nat) : List Operand → Eval (Option Nat)
  | [] => return none
  | x :: xs => do if ← x.equal o then return some i else placeOf o (i + 1) xs

def countEqual (o : Operand) : List Operand → Eval Nat
  | [] => return 0
  | x :: xs => do return (if ← x.equal o then 1 else 0) + (← countEqual o xs)

def placeBound (o : Operand) : Eval Int :=
  match o.int? with
  | some i => return i
  | none => throw .placeIndex

def placeWithin (items : List Operand) (o : Operand) (bounds : List Operand) :
    Eval (Option Nat) := do
  match window items (← bounds[0]?.mapM placeBound) (← bounds[1]?.mapM placeBound) with
  | some (first, part) => placeOf o first part
  | none => return none

def listMethod (cell : Nat) (name : String) (args : Arguments) : Eval Operand := do
  let items ← listAt cell
  match name with
  | "append" => do
    let a ← exactlyOne "list.append" args
    setCell cell (.list (items ++ [a]))
    return .null
  | "extend" => do
    let a ← exactlyOne "list.extend" args
    setCell cell (.list (items ++ (← a.iterate)))
    return .null
  | "clear" => do
    noArguments "list.clear" args
    setCell cell (.list [])
    return .null
  | "copy" => do
    noArguments "list.copy" args
    newList items
  | "reverse" => do
    noArguments "list.reverse" args
    setCell cell (.list items.reverse)
    return .null
  | "pop" => do
    let i ← (← between "list" "pop" 0 1 args).head?.elim (pure (-1)) asSize
    if items.isEmpty then throw (.index "pop from empty list")
    match memberAt items i with
    | none => throw (.index "pop index out of range")
    | some o =>
      let place := if i < 0 then i + items.length else i
      setCell cell (.list (removeAt items place.toNat))
      return o
  | "insert" => do
    match ← between "list" "insert" 2 2 args with
    | [i, o] =>
      let (place, _, _) := sliceBounds items.length (some (← asSize i)) none none
      setCell cell (.list (items.take place.toNat ++ o :: items.drop place.toNat))
      return .null
    | _ => return .null
  | "remove" => do
    let a ← exactlyOne "list.remove" args
    match ← placeOf a 0 items with
    | none => throw (.value "list.remove(x): x not in list")
    | some i =>
      setCell cell (.list (removeAt items i))
      return .null
  | "index" => do
    match ← between "list" "index" 1 3 args with
    | o :: bounds =>
      match ← placeWithin items o bounds with
      | some i => return .int i
      | none => throw (.value ((← o.shown) ++ " is not in list"))
    | [] => return .null
  | "count" => return .int (← countEqual (← exactlyOne "list.count" args) items)
  | name => throw (.attribute "list" name)

def tupleMethod (items : List Operand) (name : String) (args : Arguments) : Eval Operand := do
  match name with
  | "index" => do
    match ← between "tuple" "index" 1 3 args with
    | o :: bounds =>
      match ← placeWithin items o bounds with
      | some i => return .int i
      | none => throw (.value "tuple.index(x): x not in tuple")
    | [] => return .null
  | "count" => return .int (← countEqual (← exactlyOne "tuple.count" args) items)
  | name => throw (.attribute "tuple" name)

def rangeMethod (start stop step : Int) (name : String) (args : Arguments) : Eval Operand := do
  let members := rangeFrom start step (rangeLength start stop step)
  match name with
  | "index" => do
    let o ← exactlyOne "range.index" args
    match ← placeOf o 0 members with
    | some i => return .int i
    | none =>
      match o with
      | .int i => throw (.value (toString i ++ " is not in range"))
      | .bool b => throw (.value ((if b then "True" else "False") ++ " is not in range"))
      | _ => throw (.value "sequence.index(x): x not in sequence")
  | "count" => return .int (← countEqual (← exactlyOne "range.count" args) members)
  | name => throw (.attribute "range" name)

def removeKey (key : Operand) : List (Operand × Operand) → Eval (List (Operand × Operand))
  | [] => return []
  | (k, v) :: es => do if ← k.equal key then return es else return (k, v) :: (← removeKey key es)

def entriesOf (o : Operand) : Eval (List (Operand × Operand)) := do
  match o with
  | .mapping cell => mappingAt cell
  | o =>
    let members ← o.iterate
    members.zipIdx.mapM fun (m, i) => do
      match ← m.items? with
      | none =>
        throw (.type ("cannot convert dictionary update sequence element #" ++ toString i ++
          " to a sequence"))
      | some [k, v] => return (k, v)
      | some parts =>
        throw (.value ("dictionary update sequence element #" ++ toString i ++ " has length " ++
          toString parts.length ++ "; 2 is required"))

def putAll (entries : List (Operand × Operand)) (new : List (Operand × Operand)) :
    Eval (List (Operand × Operand)) :=
  new.foldlM (fun es (k, v) => putChecked k v es) entries

def namedEntries (named : List (String × Operand)) : List (Operand × Operand) :=
  named.map fun (k, v) => (.text k, v)

def mappingMethod (cell : Nat) (name : String) (args : Arguments) : Eval Operand := do
  match name with
  | "get" => do
    match ← between "dict" "get" 1 2 args with
    | key :: rest => return ((← lookupKey cell key).or rest.head?).getD .null
    | [] => return .null
  | "items" => do noArguments "dict.items" args; return .view .entries cell
  | "keys" => do noArguments "dict.keys" args; return .view .keys cell
  | "values" => do noArguments "dict.values" args; return .view .values cell
  | "clear" => do
    noArguments "dict.clear" args
    setCell cell (.mapping [])
    return .null
  | "copy" => do
    noArguments "dict.copy" args
    newMapping (← mappingAt cell)
  | "pop" => do
    match ← between "dict" "pop" 1 2 args with
    | key :: rest =>
      let entries ← mappingAt cell
      let known ← if entries.isEmpty then pure none else lookupKey cell key
      match known with
      | some v =>
        setCell cell (.mapping (← removeKey key entries))
        return v
      | none =>
        match rest with
        | d :: _ => return d
        | [] => throw (.absentKey (← key.shown))
    | [] => return .null
  | "setdefault" => do
    match ← between "dict" "setdefault" 1 2 args with
    | key :: rest =>
      match ← lookupKey cell key with
      | some v => return v
      | none =>
        let value := rest.headD .null
        setCell cell (.mapping (← putChecked key value (← mappingAt cell)))
        return value
    | [] => return .null
  | "update" => do
    let given ← (← between "dict" "update" 0 1 ⟨args.positional, []⟩).head?.elim (pure []) entriesOf
    let entries ← putAll (← mappingAt cell) given
    setCell cell (.mapping (← putAll entries (namedEntries args.named)))
    return .null
  | name => throw (.attribute "dict" name)

end ElementMarkup.Expression
