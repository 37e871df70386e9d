import ElementMarkup.Expression.Access
import ElementMarkup.Expression.Term
import ElementMarkup.Expression.Test

/-!
# Folding constants

Before a term is evaluated, each part of it that needs no name and calls nothing is replaced by
its value, from the inside out, if that value can be written down. A part whose value would be a
fault is left for the evaluation. Filters and tests without a meaning are reported here, except
in an inline `if`, where they are reported when their branch is taken.
-/

set_option autoImplicit false

namespace ElementMarkup.Expression

def Comparison.holds : Comparison → Operand → Operand → Eval Bool
  | .equal, a, b => a.equal b
  | .unequal, a, b => return !(← a.equal b)
  | .ordered o, a, b => a.ordered o b
  | .member, a, b => a.isIn b
  | .nonmember, a, b => return !(← a.isIn b)

/-- A computation of a constant; it may find that there is none. -/
abbrev Constant := OptionT Eval

/-- Takes a fault for the lack of a constant. -/
def guarded {α : Type} (e : Eval α) : Constant α :=
  OptionT.mk (tryCatch (some <$> e) fun _ => return none)

def boundText (o : Option Operand) : Eval String :=
  match o with
  | none => return "None"
  | some o => o.shown

/-- A slice of a constant; a constant that cannot be sliced has an undefined one. -/
def constantSlice (o : Operand) (start stop step : Option Operand) : Eval Operand := do
  try o.slice start stop step
  catch e =>
    if e.kind = "TypeError" then
      let bounds ← [start, stop, step].mapM boundText
      let text := "slice(" ++ ", ".intercalate bounds ++ ")"
      absent o (.other "slice" text text)
    else throw e

mutual

def Term.constant? : Term → Constant Operand
  | .constant d => OptionT.lift (Operand.ofDatum d)
  | .name _ | .call _ _ => failure
  | .tuple ts => return .tuple (← Term.constants? ts)
  | .list ts => do OptionT.lift (newList (← Term.constants? ts))
  | .mapping es => do
    let entries ← Term.constantEntries? es
    OptionT.lift (do
      newMapping (← entries.foldlM (fun known (k, v) => putChecked k v known) []))
  | .negative t => do
    let o ← t.constant?
    guarded (negate o)
  | .positive t => do
    let o ← t.constant?
    guarded (affirm o)
  | .not t => do
    let o ← t.constant?
    guarded (do return .bool !(← o.truth))
  | .and a b => do
    let o ← a.constant?
    if ← OptionT.lift o.truth then b.constant? else return o
  | .or a b => do
    let o ← a.constant?
    if ← OptionT.lift o.truth then return o else b.constant?
  | .arith op a b => do
    let x ← a.constant?
    let y ← b.constant?
    guarded (arith formatPercent op x y)
  | .concat ts => do
    let parts ← Term.constants? ts
    OptionT.lift (do return .text (String.join (← parts.mapM Operand.plain)))
  | .compare first rest => do
    let o ← first.constant?
    return .bool (← Term.constantChain? o rest)
  | .conditional _ condition whenTrue whenFalse => do
    let o ← condition.constant?
    if ← OptionT.lift o.truth then whenTrue.constant?
    else
      match ← Term.constantOption? whenFalse with
      | some o => return o
      | none => failure
  | .dot owner name => do
    let o ← owner.constant?
    guarded (o.dot name)
  | .bracket owner key => do
    let o ← owner.constant?
    let k ← key.constant?
    guarded (o.bracket k)
  | .slice owner start stop step => do
    let o ← owner.constant?
    let i ← Term.constantOption? start
    let j ← Term.constantOption? stop
    let k ← Term.constantOption? step
    guarded (constantSlice o i j k)
  | .filter value name args => do
    match filter? name with
    | none => failure
    | some run =>
      let given ← args.constants?
      let o ← value.constant?
      guarded (run { given with positional := o :: given.positional })
  | .test value name args => do
    match test? name with
    | none => failure
    | some run =>
      let given ← args.constants?
      let o ← value.constant?
      guarded (run { given with positional := o :: given.positional })

def Term.constants? : List Term → Constant (List Operand)
  | [] => return []
  | t :: ts => do
    let o ← t.constant?
    return o :: (← Term.constants? ts)

def Term.constantEntries? : List (Term × Term) → Constant (List (Operand × Operand))
  | [] => return []
  | (k, v) :: es => do
    let a ← k.constant?
    let b ← v.constant?
    return (a, b) :: (← Term.constantEntries? es)

def Term.constantChain? (left : Operand) : List (Comparison × Term) → Constant Bool
  | [] => return true
  | (c, t) :: rest => do
    let right ← t.constant?
    if ← guarded (c.holds left right) then Term.constantChain? right rest else return false

def Term.constantOption? : Option Term → Constant (Option Operand)
  | none => return none
  | some t => some <$> t.constant?

def Term.constantNamed? : List (String × Term) → Constant (List (String × Operand))
  | [] => return []
  | (name, t) :: rest => do
    let o ← t.constant?
    return (name, o) :: (← Term.constantNamed? rest)

def ArgumentTerms.constants? : ArgumentTerms → Constant Arguments
  | ⟨positional, named, spread, spreadNamed⟩ => do
    let given ← Term.constants? positional
    let pairs ← Term.constantNamed? named
    let further ← Term.constantOption? spread
    let furtherNamed ← Term.constantOption? spreadNamed
    guarded (Arguments.spreading given pairs further furtherNamed)

end

def isLiteral : Datum → Bool
  | .null | .bool _ | .number _ | .text _ | .escaped _ => true
  | .tuple items | .list items => literals items
  | .mapping entries => literalEntries entries
  | .other kind _ _ => kind == "complex"
  | _ => false
where
  literals : List Datum → Bool
    | [] => true
    | d :: ds => isLiteral d && literals ds
  literalEntries : List (Datum × Datum) → Bool
    | [] => true
    | (k, v) :: es => isLiteral k && isLiteral v && literalEntries es

def Term.settle (t : Term) : Eval Term := do
  match ← t.constant?.run with
  | none => return t
  | some o =>
    let d ← o.toDatum (2 * nesting)
    return if isLiteral d then .constant d else t

mutual

def Term.fold : Term → Eval Term
  | .constant d => return .constant d
  | .name n => return .name n
  | .tuple ts => do Term.settle (.tuple (← Term.foldAll ts))
  | .list ts => do Term.settle (.list (← Term.foldAll ts))
  | .mapping es => do Term.settle (.mapping (← Term.foldEntries es))
  | .negative t => do Term.settle (.negative (← t.fold))
  | .positive t => do Term.settle (.positive (← t.fold))
  | .not t => do Term.settle (.not (← t.fold))
  | .and a b => do Term.settle (.and (← a.fold) (← b.fold))
  | .or a b => do Term.settle (.or (← a.fold) (← b.fold))
  | .arith op a b => do Term.settle (.arith op (← a.fold) (← b.fold))
  | .concat ts => do Term.settle (.concat (← Term.foldAll ts))
  | .compare first rest => do Term.settle (.compare (← first.fold) (← Term.foldChain rest))
  | .conditional line condition whenTrue whenFalse => do
    Term.settle (.conditional line (← condition.fold) (← whenTrue.fold)
      (← Term.foldOption whenFalse))
  | .dot owner name => do Term.settle (.dot (← owner.fold) name)
  | .bracket owner key => do Term.settle (.bracket (← owner.fold) (← key.fold))
  | .slice owner start stop step => do
    Term.settle (.slice (← owner.fold) (← Term.foldOption start) (← Term.foldOption stop)
      (← Term.foldOption step))
  | .call function args => return .call (← function.fold) (← args.fold)
  | .filter value name args => do Term.settle (.filter (← value.fold) name (← args.fold))
  | .test value name args => do Term.settle (.test (← value.fold) name (← args.fold))

def Term.foldAll : List Term → Eval (List Term)
  | [] => return []
  | t :: ts => do
    let t ← t.fold
    return t :: (← Term.foldAll ts)

def Term.foldEntries : List (Term × Term) → Eval (List (Term × Term))
  | [] => return []
  | (k, v) :: es => do
    let k ← k.fold
    let v ← v.fold
    return (k, v) :: (← Term.foldEntries es)

def Term.foldChain : List (Comparison × Term) → Eval (List (Comparison × Term))
  | [] => return []
  | (c, t) :: rest => do
    let t ← t.fold
    return (c, t) :: (← Term.foldChain rest)

def Term.foldOption : Option Term → Eval (Option Term)
  | none => return none
  | some t => some <$> t.fold

def Term.foldNamed : List (String × Term) → Eval (List (String × Term))
  | [] => return []
  | (name, t) :: rest => do
    let t ← t.fold
    return (name, t) :: (← Term.foldNamed rest)

def ArgumentTerms.fold : ArgumentTerms → Eval ArgumentTerms
  | ⟨positional, named, spread, spreadNamed⟩ =>
    return ⟨← Term.foldAll positional, ← Term.foldNamed named, ← Term.foldOption spread,
      ← Term.foldOption spreadNamed⟩

end

mutual

/-- Faults at the first filter or test without a meaning, and at the first constant with too many
digits. In a branch, `soft`, filters and tests are left for the evaluation. -/
def Term.check (soft : Bool) : Term → Eval Unit
  | .constant d => do
    let _ ← shownText d.shown?
  | .name _ => return ()
  | .tuple ts | .list ts | .concat ts => Term.checkAll soft ts
  | .mapping es => Term.checkEntries soft es
  | .negative t | .positive t | .not t | .dot t _ => t.check soft
  | .and a b | .or a b | .arith _ a b | .bracket a b => do
    a.check soft
    b.check soft
  | .compare first rest => do
    first.check soft
    Term.checkChain soft rest
  | .conditional _ condition whenTrue whenFalse => do
    whenTrue.check true
    condition.check true
    Term.checkOption true whenFalse
  | .slice owner start stop step => do
    owner.check soft
    Term.checkOption soft start
    Term.checkOption soft stop
    Term.checkOption soft step
  | .call function args => do
    function.check soft
    args.check soft
  | .filter value name args => do
    if !soft && (filter? name).isNone then throw (.unknownFilter name)
    value.check soft
    args.check soft
  | .test value name args => do
    if !soft && (test? name).isNone then throw (.unknownTest name)
    value.check soft
    args.check soft

def Term.checkAll (soft : Bool) : List Term → Eval Unit
  | [] => return ()
  | t :: ts => do
    t.check soft
    Term.checkAll soft ts

def Term.checkEntries (soft : Bool) : List (Term × Term) → Eval Unit
  | [] => return ()
  | (k, v) :: es => do
    k.check soft
    v.check soft
    Term.checkEntries soft es

def Term.checkChain (soft : Bool) : List (Comparison × Term) → Eval Unit
  | [] => return ()
  | (_, t) :: rest => do
    t.check soft
    Term.checkChain soft rest

def Term.checkOption (soft : Bool) : Option Term → Eval Unit
  | none => return ()
  | some t => t.check soft

def Term.checkNamed (soft : Bool) : List (String × Term) → Eval Unit
  | [] => return ()
  | (_, t) :: rest => do
    t.check soft
    Term.checkNamed soft rest

def ArgumentTerms.check (soft : Bool) : ArgumentTerms → Eval Unit
  | ⟨positional, named, spread, spreadNamed⟩ => do
    Term.checkAll soft positional
    Term.checkNamed soft named
    Term.checkOption soft spread
    Term.checkOption soft spreadNamed

end

mutual

/-- A term made ready for evaluation. Literal lists, tuples and mappings that the whole term is
made of are not folded themselves, only what they contain. -/
def Term.prepare : Term → Eval Term
  | .tuple ts => return .tuple (← Term.prepareAll ts)
  | .list ts => return .list (← Term.prepareAll ts)
  | .mapping es => return .mapping (← Term.prepareEntries es)
  | t => do
    let t ← t.fold
    t.check false
    return t

def Term.prepareAll : List Term → Eval (List Term)
  | [] => return []
  | t :: ts => do
    let t ← t.prepare
    return t :: (← Term.prepareAll ts)

def Term.prepareEntries : List (Term × Term) → Eval (List (Term × Term))
  | [] => return []
  | (k, v) :: es => do
    let k ← k.prepare
    let v ← v.prepare
    return (k, v) :: (← Term.prepareEntries es)

end

end ElementMarkup.Expression
