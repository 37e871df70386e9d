import ElementMarkup.Expression.Fold
import ElementMarkup.Expression.Grammar
import ElementMarkup.Render.Outcome

/-!
# Evaluating expressions

A term is evaluated from left to right against the entries of a context. A scope holds the store
and the entries; it is carried on from one expression to the next, so that changes which an
expression makes to a list or a mapping stay.
-/

set_option autoImplicit false

namespace ElementMarkup.Expression

def builtins : List (String × Builtin) :=
  [("range", .range), ("dict", .dict), ("lipsum", .lipsum)]

def lookupName (entries : List (String × Operand)) (name : String) : Operand :=
  if name = "self" then
    .other "TemplateReference" "<TemplateReference None>" "<TemplateReference None>"
  else
    match entries.lookup name, builtins.lookup name with
    | some o, _ => o
    | none, some b => .builtin b
    | none, none => unbound name

def noOtherBranch (line : Nat) : Operand :=
  undefinedBecause false ("the inline if-expression on line " ++ toString line ++
    " evaluated to false and no else section was defined.")

mutual

/-- The name that stands for a number in a constant, if it has no digits. -/
def unwritable? : Datum → Option String
  | .number (.float f) => if f.isNaN then some "nan" else if f.isInf then some "inf" else none
  | .list items | .tuple items => unwritableAmong? items
  | .mapping entries => unwritableWithin? entries
  | _ => none

def unwritableAmong? : List Datum → Option String
  | [] => none
  | d :: ds => (unwritable? d).or (unwritableAmong? ds)

def unwritableWithin? : List (Datum × Datum) → Option String
  | [] => none
  | (k, v) :: es => ((unwritable? k).or (unwritable? v)).or (unwritableWithin? es)

end

def constantValue (d : Datum) : Eval Operand :=
  match unwritable? d with
  | some name => throw (.unboundName name)
  | none => Operand.ofDatum d

/-- The number of a constant that is written with a minus sign, without the sign. -/
def unsigned? : Term → Option Operand
  | .constant (.number (.int i)) => if i < 0 then some (.int (-i)) else none
  | .constant (.number (.float f)) =>
    if isNegativeDouble f && f.isFinite then some (.float (-f)) else none
  | _ => none

mutual

def Term.value (entries : List (String × Operand)) : Term → Eval Operand
  | .constant d => constantValue d
  | .name n => return lookupName entries n
  | .tuple ts => return .tuple (← Term.values entries ts)
  | .list ts => do newList (← Term.values entries ts)
  | .mapping es => do
    let pairs ← Term.entryValues entries es
    newMapping (← pairs.foldlM (fun known (k, v) => putChecked k v known) [])
  | .negative t => do negate (← t.value entries)
  | .positive t => do affirm (← t.value entries)
  | .not t => do return .bool !(← (← t.value entries).truth)
  | .and a b => do
    let o ← a.value entries
    if ← o.truth then b.value entries else return o
  | .or a b => do
    let o ← a.value entries
    if ← o.truth then return o else b.value entries
  | .arith op a b => do
    -- A power binds more tightly than the sign of a constant.
    match op, unsigned? a with
    | .pow, some x =>
      let y ← b.value entries
      negate (← arith formatPercent .pow x y)
    | op, _ =>
      let x ← a.value entries
      let y ← b.value entries
      arith formatPercent op x y
  | .concat ts => do
    let parts ← Term.values entries ts
    return .text (String.join (← parts.mapM Operand.plain))
  | .compare first rest => do
    let o ← first.value entries
    return .bool (← Term.chainHolds entries o rest)
  | .conditional line condition whenTrue whenFalse => do
    let c ← condition.value entries
    if ← c.truth then whenTrue.value entries
    else
      match ← Term.optionValue entries whenFalse with
      | some o => return o
      | none => return noOtherBranch line
  | .dot owner name => do (← owner.value entries).dot name
  | .bracket owner key => do
    let o ← owner.value entries
    o.bracket (← key.value entries)
  | .slice owner start stop step => do
    let o ← owner.value entries
    let i ← Term.optionValue entries start
    let j ← Term.optionValue entries stop
    let k ← Term.optionValue entries step
    o.slice i j k
  | .call function args => do
    let f ← function.value entries
    f.call (← args.values entries)
  | .filter value name args => do
    let o ← value.value entries
    let given ← args.values entries
    match filter? name with
    | some run => run { given with positional := o :: given.positional }
    | none => throw (.missingDependency "filter" name)
  | .test value name args => do
    let o ← value.value entries
    let given ← args.values entries
    match test? name with
    | some run => run { given with positional := o :: given.positional }
    | none => throw (.missingDependency "test" name)

def Term.values (entries : List (String × Operand)) : List Term → Eval (List Operand)
  | [] => return []
  | t :: ts => do
    let o ← t.value entries
    return o :: (← Term.values entries ts)

def Term.entryValues (entries : List (String × Operand)) :
    List (Term × Term) → Eval (List (Operand × Operand))
  | [] => return []
  | (k, v) :: es => do
    let a ← k.value entries
    let b ← v.value entries
    return (a, b) :: (← Term.entryValues entries es)

/-- Whether each comparison of a chain holds; terms behind one that does not are left out. -/
def Term.chainHolds (entries : List (String × Operand)) (left : Operand) :
    List (Comparison × Term) → Eval Bool
  | [] => return true
  | (c, t) :: rest => do
    let right ← t.value entries
    if ← c.holds left right then Term.chainHolds entries right rest else return false

def Term.optionValue (entries : List (String × Operand)) : Option Term → Eval (Option Operand)
  | none => return none
  | some t => some <$> t.value entries

def Term.namedValues (entries : List (String × Operand)) :
    List (String × Term) → Eval (List (String × Operand))
  | [] => return []
  | (name, t) :: rest => do
    let o ← t.value entries
    return (name, o) :: (← Term.namedValues entries rest)

def ArgumentTerms.values (entries : List (String × Operand)) : ArgumentTerms → Eval Arguments
  | ⟨positional, named, spread, spreadNamed⟩ => do
    let given ← Term.values entries positional
    let further ← Term.optionValue entries spread
    let pairs ← Term.namedValues entries named
    let furtherNamed ← Term.optionValue entries spreadNamed
    Arguments.spreading given pairs further furtherNamed

end

structure Scope where
  store : Store
  entries : List (Operand × Operand)

def Scope.ofContext (context : List (Datum × Datum)) : Scope :=
  match (Operand.ofEntries context).run .empty with
  | .ok entries store => ⟨store, entries⟩
  | .error _ store => ⟨store, []⟩

/-- The entries by name. A context whose keys are not all names cannot be used. -/
def Scope.named (s : Scope) : Except Fault (List (String × Operand)) := do
  let entries ← s.entries.mapM fun (k, v) =>
    match k.text? with
    | some name => .ok (name, v)
    | none => .error (.type "keywords must be strings")
  if (entries.lookup "self").isSome then
    .error (.type "TemplateExpression.__call__() got multiple values for argument 'self'")
  else .ok entries

def ready (source : String) : Except Raised Term :=
  match tokens source with
  | .error .malformed => .error .malformed
  | .error (.fault e) => .error (.fault e)
  | .ok ts =>
    match Grammar.term? ts with
    | none => .error .malformed
    | some t =>
      match t.prepare.run .empty with
      | .ok t _ => .ok t
      | .error e _ => .error (.fault e)

def compile (source : String) : Except Failure Term :=
  (ready source).mapError Raised.whileCompiling

def Operand.result (o : Operand) (store : Store) : Result :=
  match o with
  | .missing m => .undefined m.shownName
  | o =>
    match (o.toDatum (2 * nesting)).run store with
    | .ok d _ => .datum d
    | .error e _ => .shapeless e

def Term.run (t : Term) (scope : Scope) : Except Raised Result × Scope :=
  match scope.named with
  | .error e => (.error (.fault e), scope)
  | .ok entries =>
    match (t.value entries).run scope.store with
    | .error e store => (.error (.fault e), { scope with store := store })
    | .ok o store => (.ok (o.result store), { scope with store := store })

def caught (r : Except Raised Result) : Except Failure Datum :=
  match r with
  | .error e => .error e.whileRunning
  | .ok r => r.datum?

def evaluate : Evaluator Scope := fun source scope =>
  match compile source with
  | .error f => (.error f, scope)
  | .ok t =>
    let (result, scope) := t.run scope
    (caught result, scope)

end ElementMarkup.Expression
