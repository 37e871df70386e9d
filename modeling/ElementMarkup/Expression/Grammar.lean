import ElementMarkup.Expression.Term
import ElementMarkup.Expression.Token

/-!
# The grammar of expressions

How a term is read from tokens. Operators bind in this order, from the loosest: the inline `if`,
`or`, `and`, `not`, comparisons, sums, concatenation, products, powers, signs; points, brackets
and calls bind tightest, then filters and tests. Operators of one level group to the left.
-/

set_option autoImplicit false

namespace ElementMarkup.Expression

namespace Grammar

abbrev Reader := StateT (List Token) Option

def peek : Reader (Option TokenShape) := fun ts => some (ts.head?.map Token.shape, ts)

def peekSecond : Reader (Option TokenShape) := fun ts => some (ts[1]?.map Token.shape, ts)

def lineHere : Reader Nat := fun ts => some ((ts.head?.map Token.line).getD 1, ts)

def next : Reader TokenShape
  | t :: ts => some (t.shape, ts)
  | [] => none

def accept (shape : TokenShape) : Reader Bool := fun ts =>
  match ts with
  | t :: rest => if t.shape = shape then some (true, rest) else some (false, ts)
  | [] => some (false, ts)

def acceptOperator (o : String) : Reader Bool := accept (.operator o)

def acceptWord (w : String) : Reader Bool := accept (.name w)

def expectOperator (o : String) : Reader Unit := do
  if ← acceptOperator o then return () else failure

def expectName : Reader String := do
  match ← next with
  | .name n => return n
  | _ => failure

def atOperator (o : String) : Reader Bool := do return (← peek) = some (.operator o)

def dottedName : Nat → String → Reader String
  | 0, _ => failure
  | fuel + 1, name => do
    if ← acceptOperator "." then dottedName fuel (name ++ "." ++ (← expectName)) else return name

def comparisonOf? : TokenShape → Option Comparison
  | .operator "==" => some .equal
  | .operator "!=" => some .unequal
  | .operator "<" => some (.ordered .less)
  | .operator "<=" => some (.ordered .lessEqual)
  | .operator ">" => some (.ordered .greater)
  | .operator ">=" => some (.ordered .greaterEqual)
  | .name "in" => some .member
  | _ => none

def sumOf? : TokenShape → Option Arith
  | .operator "+" => some .add
  | .operator "-" => some .sub
  | _ => none

def productOf? : TokenShape → Option Arith
  | .operator "*" => some .mul
  | .operator "/" => some .div
  | .operator "//" => some .floordiv
  | .operator "%" => some .mod
  | _ => none

def adjacentTexts : Nat → String → Reader String
  | 0, s => return s
  | fuel + 1, s => do
    match ← peek with
    | some (.text t) => do
      let _ ← next
      adjacentTexts fuel (s ++ t)
    | _ => return s

/-- Whether the argument of a test follows without parentheses. -/
def startsArgument : Option TokenShape → Bool
  | some (.name n) => n != "else" && n != "or" && n != "and"
  | some (.text _) | some (.int _) | some (.float _) => true
  | some (.operator o) => o == "[" || o == "\x7b"
  | none => false

inductive Subscript where
  | key (term : Term)
  | slice (start stop step : Option Term)

mutual

def expression (fuel : Nat) : Reader Term :=
  match fuel with
  | 0 => failure
  | fuel + 1 => do
    let line ← lineHere
    let first ← disjunction fuel
    conditionals fuel line first

def conditionals (fuel line : Nat) (first : Term) : Reader Term :=
  match fuel with
  | 0 => failure
  | fuel + 1 => do
    if ← acceptWord "if" then
      let condition ← disjunction fuel
      let other ← if ← acceptWord "else" then some <$> expression fuel else pure .none
      let here ← lineHere
      conditionals fuel here (.conditional line condition first other)
    else return first

def disjunction (fuel : Nat) : Reader Term :=
  match fuel with
  | 0 => failure
  | fuel + 1 => do disjunctions fuel (← conjunction fuel)

def disjunctions (fuel : Nat) (left : Term) : Reader Term :=
  match fuel with
  | 0 => failure
  | fuel + 1 => do
    if ← acceptWord "or" then disjunctions fuel (.or left (← conjunction fuel)) else return left

def conjunction (fuel : Nat) : Reader Term :=
  match fuel with
  | 0 => failure
  | fuel + 1 => do conjunctions fuel (← negation fuel)

def conjunctions (fuel : Nat) (left : Term) : Reader Term :=
  match fuel with
  | 0 => failure
  | fuel + 1 => do
    if ← acceptWord "and" then conjunctions fuel (.and left (← negation fuel)) else return left

def negation (fuel : Nat) : Reader Term :=
  match fuel with
  | 0 => failure
  | fuel + 1 => do
    if ← acceptWord "not" then return .not (← negation fuel) else comparison fuel

def comparison (fuel : Nat) : Reader Term :=
  match fuel with
  | 0 => failure
  | fuel + 1 => do
    let first ← sum fuel
    let rest ← comparisons fuel
    return if rest.isEmpty then first else .compare first rest

def comparisons (fuel : Nat) : Reader (List (Comparison × Term)) :=
  match fuel with
  | 0 => failure
  | fuel + 1 => do
    let shape ← peek
    match shape.bind comparisonOf? with
    | some c =>
      let _ ← next
      let t ← sum fuel
      return (c, t) :: (← comparisons fuel)
    | .none =>
      if shape = some (.name "not") ∧ (← peekSecond) = some (.name "in") then
        let _ ← next
        let _ ← next
        let t ← sum fuel
        return (.nonmember, t) :: (← comparisons fuel)
      else return []

def sum (fuel : Nat) : Reader Term :=
  match fuel with
  | 0 => failure
  | fuel + 1 => do sums fuel (← concatenation fuel)

def sums (fuel : Nat) (left : Term) : Reader Term :=
  match fuel with
  | 0 => failure
  | fuel + 1 => do
    match (← peek).bind sumOf? with
    | some op =>
      let _ ← next
      sums fuel (.arith op left (← concatenation fuel))
    | .none => return left

def concatenation (fuel : Nat) : Reader Term :=
  match fuel with
  | 0 => failure
  | fuel + 1 => do
    let first ← product fuel
    let rest ← concatenated fuel
    return if rest.isEmpty then first else .concat (first :: rest)

def concatenated (fuel : Nat) : Reader (List Term) :=
  match fuel with
  | 0 => failure
  | fuel + 1 => do
    if ← acceptOperator "~" then
      let t ← product fuel
      return t :: (← concatenated fuel)
    else return []

def product (fuel : Nat) : Reader Term :=
  match fuel with
  | 0 => failure
  | fuel + 1 => do products fuel (← power fuel)

def products (fuel : Nat) (left : Term) : Reader Term :=
  match fuel with
  | 0 => failure
  | fuel + 1 => do
    match (← peek).bind productOf? with
    | some op =>
      let _ ← next
      products fuel (.arith op left (← power fuel))
    | .none => return left

def power (fuel : Nat) : Reader Term :=
  match fuel with
  | 0 => failure
  | fuel + 1 => do powers fuel (← signed fuel true)

def powers (fuel : Nat) (left : Term) : Reader Term :=
  match fuel with
  | 0 => failure
  | fuel + 1 => do
    if ← acceptOperator "**" then powers fuel (.arith .pow left (← signed fuel true))
    else return left

/-- A term with its signs; only the outermost one is sent through filters. -/
def signed (fuel : Nat) (filtered : Bool) : Reader Term :=
  match fuel with
  | 0 => failure
  | fuel + 1 => do
    let t ←
      if ← acceptOperator "-" then do pure (.negative (← signed fuel false))
      else if ← acceptOperator "+" then do pure (.positive (← signed fuel false))
      else primary fuel
    let t ← postfixes fuel t
    if filtered then filters fuel t else return t

def primary (fuel : Nat) : Reader Term :=
  match fuel with
  | 0 => failure
  | fuel + 1 => do
    match ← next with
    | .name n =>
      match n with
      | "true" | "True" => return .constant (.bool true)
      | "false" | "False" => return .constant (.bool false)
      | "none" | "None" => return .constant .null
      | n => return .name n
    | .text s => return .constant (.text (← adjacentTexts fuel s))
    | .int n => return .constant (.number (.int n))
    | .float f => return .constant (.number (.float f))
    | .operator "(" => do
      let t ← tupleItems fuel []
      expectOperator ")"
      return t
    | .operator "[" => do
      let items ← listItems fuel true
      expectOperator "]"
      return .list items
    | .operator "\x7b" => do
      let entries ← mappingItems fuel true
      expectOperator "\x7d"
      return .mapping entries
    | .operator _ => failure

/-- The inside of parentheses: one term, or a tuple if there is a comma. -/
def tupleItems (fuel : Nat) (before : List Term) : Reader Term :=
  match fuel with
  | 0 => failure
  | fuel + 1 => do
    if ← atOperator ")" then return .tuple before.reverse
    let t ← expression fuel
    if ← acceptOperator "," then tupleItems fuel (t :: before)
    else if before.isEmpty then return t
    else return .tuple (t :: before).reverse

def listItems (fuel : Nat) (first : Bool) : Reader (List Term) :=
  match fuel with
  | 0 => failure
  | fuel + 1 => do
    if ← atOperator "]" then return []
    if !first then expectOperator ","
    if ← atOperator "]" then return []
    let t ← expression fuel
    return t :: (← listItems fuel false)

def mappingItems (fuel : Nat) (first : Bool) : Reader (List (Term × Term)) :=
  match fuel with
  | 0 => failure
  | fuel + 1 => do
    if ← atOperator "\x7d" then return []
    if !first then expectOperator ","
    if ← atOperator "\x7d" then return []
    let k ← expression fuel
    expectOperator ":"
    let v ← expression fuel
    return (k, v) :: (← mappingItems fuel false)

def postfixes (fuel : Nat) (t : Term) : Reader Term :=
  match fuel with
  | 0 => failure
  | fuel + 1 => do
    if ← acceptOperator "." then
      match ← next with
      | .name n => postfixes fuel (.dot t n)
      | .int n => postfixes fuel (.bracket t (.constant (.number (.int n))))
      | _ => failure
    else if ← acceptOperator "[" then
      let subscripts ← subscriptList fuel true
      expectOperator "]"
      match subscripts with
      | [.key k] => postfixes fuel (.bracket t k)
      | [.slice a b c] => postfixes fuel (.slice t a b c)
      | several =>
        let keys ← several.mapM fun s =>
          match s with
          | .key k => pure k
          | .slice _ _ _ => failure
        postfixes fuel (.bracket t (.tuple keys))
    else if ← atOperator "(" then
      let args ← callArguments fuel
      postfixes fuel (.call t args)
    else return t

def subscriptList (fuel : Nat) (first : Bool) : Reader (List Subscript) :=
  match fuel with
  | 0 => failure
  | fuel + 1 => do
    if ← atOperator "]" then return []
    if !first then expectOperator ","
    let s ← subscript fuel
    return s :: (← subscriptList fuel false)

def subscript (fuel : Nat) : Reader Subscript :=
  match fuel with
  | 0 => failure
  | fuel + 1 => do
    if ← acceptOperator ":" then sliceRest fuel .none
    else
      let t ← expression fuel
      if ← acceptOperator ":" then sliceRest fuel (some t) else return .key t

def sliceRest (fuel : Nat) (start : Option Term) : Reader Subscript :=
  match fuel with
  | 0 => failure
  | fuel + 1 => do
    let ended : Reader Bool := do return (← atOperator "]") || (← atOperator ",")
    let stop ← if (← atOperator ":") || (← ended) then pure .none else some <$> expression fuel
    let step ←
      if ← acceptOperator ":" then
        if ← ended then pure .none else some <$> expression fuel
      else pure .none
    return .slice start stop step

def callArguments (fuel : Nat) : Reader ArgumentTerms :=
  match fuel with
  | 0 => failure
  | fuel + 1 => do
    expectOperator "("
    let args ← arguments fuel .empty true
    expectOperator ")"
    return args

/-- Arguments in order come first, then the named and the spread ones, and nothing but the closing
parenthesis follows a spread mapping. -/
def arguments (fuel : Nat) (before : ArgumentTerms) (first : Bool) : Reader ArgumentTerms :=
  match fuel with
  | 0 => failure
  | fuel + 1 => do
    if ← atOperator ")" then return before
    if !first then expectOperator ","
    if ← atOperator ")" then return before
    let ⟨positional, named, spread, spreadNamed⟩ := before
    if ← acceptOperator "*" then
      if spread.isSome || spreadNamed.isSome then failure
      arguments fuel ⟨positional, named, some (← expression fuel), spreadNamed⟩ false
    else if ← acceptOperator "**" then
      if spreadNamed.isSome then failure
      arguments fuel ⟨positional, named, spread, some (← expression fuel)⟩ false
    else
      match ← peek, ← peekSecond with
      | some (.name key), some (.operator "=") =>
        if spreadNamed.isSome then failure
        let _ ← next
        let _ ← next
        arguments fuel (before.addNamed key (← expression fuel)) false
      | _, _ =>
        if spread.isSome || spreadNamed.isSome || !named.isEmpty then failure
        arguments fuel (before.add (← expression fuel)) false

def filters (fuel : Nat) (t : Term) : Reader Term :=
  match fuel with
  | 0 => failure
  | fuel + 1 => do
    if ← acceptOperator "|" then
      let name ← dottedName fuel (← expectName)
      let args ← if ← atOperator "(" then callArguments fuel else pure .empty
      filters fuel (.filter t name args)
    else if ← acceptWord "is" then
      let negated ← acceptWord "not"
      let name ← dottedName fuel (← expectName)
      let shape ← peek
      let args ←
        if shape = some (.operator "(") then callArguments fuel
        else if startsArgument shape then
          if shape = some (.name "is") then failure
          let argument ← primary fuel
          let argument ← postfixes fuel argument
          pure (ArgumentTerms.empty.add argument)
        else pure .empty
      let asked := Term.test t name args
      filters fuel (if negated then .not asked else asked)
    else if ← atOperator "(" then
      let args ← callArguments fuel
      filters fuel (.call t args)
    else return t

end

def term? (tokens : List Token) : Option Term :=
  match expression (20 * (tokens.length + 2)) tokens with
  | some (t, []) => some t
  | _ => none

end Grammar

end ElementMarkup.Expression
