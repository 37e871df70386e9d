import ElementMarkup.Expression.Arithmetic

/-!
# Terms

The form of an expression, with the operators and comparisons that it is made of.
-/

set_option autoImplicit false

namespace ElementMarkup.Expression

inductive Comparison where
  | equal
  | unequal
  | ordered (order : Order)
  | member
  | nonmember
  deriving DecidableEq

mutual

inductive Term where
  | constant (value : Datum)
  | name (name : String)
  | tuple (items : List Term)
  | list (items : List Term)
  | mapping (entries : List (Term × Term))
  | negative (term : Term)
  | positive (term : Term)
  | not (term : Term)
  | and (left right : Term)
  | or (left right : Term)
  | arith (operator : Arith) (left right : Term)
  | concat (parts : List Term)
  | compare (first : Term) (rest : List (Comparison × Term))
  /-- The line is shown when the condition is false and there is no other branch. -/
  | conditional (line : Nat) (condition whenTrue : Term) (whenFalse : Option Term)
  | dot (owner : Term) (name : String)
  | bracket (owner key : Term)
  | slice (owner : Term) (start stop step : Option Term)
  | call (function : Term) (arguments : ArgumentTerms)
  | filter (value : Term) (name : String) (arguments : ArgumentTerms)
  | test (value : Term) (name : String) (arguments : ArgumentTerms)

inductive ArgumentTerms where
  | mk (positional : List Term) (named : List (String × Term)) (spread spreadNamed : Option Term)

end

def ArgumentTerms.empty : ArgumentTerms := ⟨[], [], .none, .none⟩

def ArgumentTerms.add (t : Term) : ArgumentTerms → ArgumentTerms
  | ⟨positional, named, s, m⟩ => ⟨positional ++ [t], named, s, m⟩

def ArgumentTerms.addNamed (name : String) (t : Term) : ArgumentTerms → ArgumentTerms
  | ⟨positional, named, s, m⟩ => ⟨positional, named ++ [(name, t)], s, m⟩

end ElementMarkup.Expression
