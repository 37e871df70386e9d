import ElementMarkup.Expression.Compare
import ElementMarkup.Number.Arithmetic
import ElementMarkup.Text.Basic

/-!
# Arithmetic of operands

Sums, products, quotients and powers of numbers, and the concatenation and repetition of texts,
lists and tuples. Text that is joined to an escaped text is escaped first.
-/

set_option autoImplicit false

namespace ElementMarkup.Expression

inductive Arith where
  | add
  | sub
  | mul
  | div
  | floordiv
  | mod
  | pow
  deriving DecidableEq

def Arith.symbol : Arith → String
  | .add => "+"
  | .sub => "-"
  | .mul => "*"
  | .div => "/"
  | .floordiv => "//"
  | .mod => "%"
  | .pow => "** or pow()"

def sizeLimit : Int := wordLimit - 1

def asDouble (n : Number) : Eval Float :=
  match n.toDouble? with
  | some f => return f
  | none => throw .tooLargeForFloat

def partText (f : Float) : String :=
  let t := doubleText f
  if t.endsWith ".0" then (t.dropEnd 2).toString else t

/-- A power of a negative base with a broken exponent is a complex number. -/
def complexPower (x y : Float) : Operand :=
  let size := (x.abs).pow y
  let angle := Float.atan2 0.0 x * y
  let re := size * angle.cos
  let im := size * angle.sin
  let text := "(" ++ partText re ++ (if im < 0.0 then "" else "+") ++ partText im ++ "j)"
  .other "complex" text text

def powerDouble (x y : Float) : Eval Operand :=
  if y == 0.0 then return .float 1.0
  else if x == 0.0 && y < 0.0 then throw .zeroPower
  else if x < 0.0 && y.isFinite && x.isFinite && y.floor != y then return complexPower x y
  else
    let r := x.pow y
    if r.isInf && x.isFinite && y.isFinite then throw .numericRange else return .float r

def numberArith (op : Arith) (a b : Number) : Eval Operand :=
  match op, a, b with
  | .add, .int x, .int y => return .int (x + y)
  | .sub, .int x, .int y => return .int (x - y)
  | .mul, .int x, .int y => return .int (x * y)
  | .div, .int x, .int y =>
    if y = 0 then throw (.division "division by zero")
    else
      match divideInts? x y with
      | some f => return .float f
      | none => throw .quotientTooLarge
  | .floordiv, .int x, .int y =>
    if y = 0 then throw (.division "integer division or modulo by zero")
    else return .int (x.fdiv y)
  | .mod, .int x, .int y =>
    if y = 0 then throw (.division "integer modulo by zero") else return .int (x.fmod y)
  | .pow, .int x, .int y => do
    if 0 ≤ y then return .int (powInt x y.toNat)
    else powerDouble (← asDouble a) (← asDouble b)
  | op, a, b => do
    let x ← asDouble a
    let y ← asDouble b
    match op with
    | .add => return .float (x + y)
    | .sub => return .float (x - y)
    | .mul => return .float (x * y)
    | .div => if y == 0.0 then throw (.division "float division by zero") else return .float (x / y)
    | .floordiv =>
      if y == 0.0 then throw (.division "float floor division by zero")
      else return .float (floorDivide x y).1
    | .mod =>
      if y == 0.0 then throw (.division "float modulo") else return .float (floorDivide x y).2
    | .pow => powerDouble x y

/-- Joins texts; next to an escaped text the other one is escaped. -/
def joinTexts (a b : Operand) (s t : String) : Operand :=
  match a, b with
  | .escaped _, .escaped _ => .escaped (s ++ t)
  | .escaped _, _ => .escaped (s ++ Text.escape t)
  | _, .escaped _ => .escaped (Text.escape s ++ t)
  | _, _ => .text (s ++ t)

def escapeOperand (o : Operand) : Eval Operand := do
  match o with
  | .escaped s => return .escaped s
  | o => return .escaped (Text.escape (← o.plain))

/-- Numbers fill fields as they are, anything else as escaped text. -/
def escapeArgument (o : Operand) : Eval Operand :=
  if o.number?.isSome then return o else escapeOperand o

def escapeArguments (o : Operand) : Eval Operand := do
  match o with
  | .tuple items => return .tuple (← items.mapM escapeArgument)
  | .mapping cell =>
    newMapping (← (← mappingAt cell).mapM fun (k, v) => do return (k, ← escapeArgument v))
  | o => return .tuple [← escapeArgument o]

def addOperands (a b : Operand) : Eval Operand := do
  match a, b with
  | .list i, .list j => newList ((← listAt i) ++ (← listAt j))
  | .tuple xs, .tuple ys => return .tuple (xs ++ ys)
  | .list _, b => throw (.concatenation "list" b.kind)
  | .tuple _, b => throw (.concatenation "tuple" b.kind)
  | a, b =>
    match a.text?, b.text? with
    | some s, some t => return joinTexts a b s t
    | some _, none => throw (.concatenation "str" b.kind)
    | none, _ => throw (.operands "+" a.kind b.kind)

def repeated {α : Type} (xs : List α) (n : Int) : List α :=
  (List.replicate n.toNat xs).flatten

def repeatSequence? (a : Operand) : Option (Int → Eval Operand) :=
  match a with
  | .text s | .word s => some fun n => return .text (String.ofList (repeated s.toList n))
  | .escaped s => some fun n => return .escaped (String.ofList (repeated s.toList n))
  | .tuple xs => some fun n => return .tuple (repeated xs n)
  | .list cell => some fun n => do newList (repeated (← listAt cell) n)
  | _ => none

def repeatBy (go : Int → Eval Operand) (count : Operand) : Eval Operand :=
  match count.int? with
  | some n => if sizeLimit < n ∨ n < -sizeLimit - 1 then throw .indexSize else go n
  | none => throw (.repetition count.kind)

def multiplyOperands (a b : Operand) : Eval Operand :=
  match repeatSequence? a with
  | some go => repeatBy go b
  | none =>
    match repeatSequence? b with
    | some go => repeatBy go a
    | none => throw (.operands "*" a.kind b.kind)

/-- Applies an operator; `format` gives the remainder of a text, which fills in its fields. -/
def arith (format : String → Operand → Eval String) (op : Arith) (a b : Operand) : Eval Operand :=
  match a.number?, b.number? with
  | some x, some y => numberArith op x y
  | _, _ =>
    match op, a, b with
    | .mod, .text s, _ | .mod, .word s, _ => return .text (← format s b)
    | .mod, .escaped s, _ => return .escaped (← format s (← escapeArguments b))
    | _, .missing m, _ => m.use
    | _, _, .missing m => m.use
    | .add, _, _ => addOperands a b
    | .mul, _, _ => multiplyOperands a b
    | _, _, _ => throw (.operands op.symbol a.kind b.kind)

def negate (o : Operand) : Eval Operand :=
  match o with
  | .missing m => m.use
  | o =>
    match o.number? with
    | some (.int i) => return .int (-i)
    | some (.float f) => return .float (-f)
    | none => throw (.unary "unary -" o.kind)

def affirm (o : Operand) : Eval Operand :=
  match o with
  | .missing m => m.use
  | o =>
    match o.number? with
    | some n => return .ofNumber n
    | none => throw (.unary "unary +" o.kind)

end ElementMarkup.Expression
