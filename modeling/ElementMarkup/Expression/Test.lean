import ElementMarkup.Expression.Filter

/-!
# Tests

The properties that a value is asked for behind the word `is`.
-/

set_option autoImplicit false

namespace ElementMarkup.Expression

def hasRemainder (o divisor : Operand) (rest : Int) : Eval Bool := do
  (← arith formatPercent .mod o divisor).equal (.int rest)

def isMissing : Operand → Bool
  | .missing _ => true
  | _ => false

def propertyOf (name : String) (holds : Operand → Eval Bool) : String × Filter :=
  (name, ⟨⟨"test_" ++ name, 0, ["value"], []⟩, fun
    | [o] => do return .bool (← holds o)
    | _ => return .null⟩)

def relationTo (name function other : String) (holds : Operand → Operand → Eval Bool) :
    String × Filter :=
  (name, ⟨⟨function, 0, ["value", other], []⟩, fun
    | [a, b] => do return .bool (← holds a b)
    | _ => return .null⟩)

def tests : List (String × Filter) := [
  propertyOf "odd" fun o => hasRemainder o (.int 2) 1,
  propertyOf "even" fun o => hasRemainder o (.int 2) 0,
  relationTo "divisibleby" "test_divisibleby" "num" fun a b => hasRemainder a b 0,
  propertyOf "defined" fun o => return !isMissing o,
  propertyOf "undefined" fun o => return isMissing o,
  propertyOf "none" fun
    | .null => return true
    | _ => return false,
  propertyOf "boolean" fun
    | .bool _ => return true
    | _ => return false,
  propertyOf "true" fun
    | .bool b => return b
    | _ => return false,
  propertyOf "false" fun
    | .bool b => return !b
    | _ => return false,
  propertyOf "integer" fun
    | .int _ => return true
    | _ => return false,
  propertyOf "float" fun
    | .float _ => return true
    | _ => return false,
  propertyOf "number" fun o => return o.number?.isSome,
  propertyOf "string" fun o => return o.text?.isSome,
  propertyOf "mapping" fun
    | .mapping _ => return true
    | _ => return false,
  propertyOf "iterable" fun o => do
    match o with
    | .missing _ => return !(← o.items?).isNone
    | o => return (← o.items?).isSome,
  propertyOf "callable" fun
    | .builtin .moduleNames | .builtin .system => return false
    | .method _ _ | .builtin _ | .counter _ | .missing _ => return true
    | _ => return false,
  relationTo "in" "test_in" "seq" Operand.isIn,
  relationTo "eq" "eq" "b" Operand.equal,
  relationTo "equalto" "eq" "b" Operand.equal,
  relationTo "ne" "ne" "b" fun a b => do return !(← a.equal b),
  relationTo "lt" "lt" "b" (Operand.ordered .less),
  relationTo "lessthan" "lt" "b" (Operand.ordered .less),
  relationTo "le" "le" "b" (Operand.ordered .lessEqual),
  relationTo "gt" "gt" "b" (Operand.ordered .greater),
  relationTo "greaterthan" "gt" "b" (Operand.ordered .greater),
  relationTo "ge" "ge" "b" (Operand.ordered .greaterEqual)]

def test? (name : String) : Option (Arguments → Eval Operand) :=
  (tests.lookup name).map fun f args => do f.run (← f.signature.bind args)

end ElementMarkup.Expression
