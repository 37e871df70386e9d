import ElementMarkup.Expression.Operand
import ElementMarkup.Number.Basic
import ElementMarkup.Text.Search

/-!
# Comparing operands

Equality, order and membership. Numbers compare by value, texts by their characters, lists and
tuples by their first different members, and mappings by their entries. Operands of kinds without
an order are not compared.
-/

set_option autoImplicit false

namespace ElementMarkup.Expression

def findEntry (same : Operand → Operand → Eval Bool) (key : Operand) :
    List (Operand × Operand) → Eval (Option Operand)
  | [] => return none
  | (k, v) :: es => do if ← same k key then return some v else findEntry same key es

def sameMembers (same : Operand → Operand → Eval Bool) :
    List Operand → List Operand → Eval Bool
  | [], [] => return true
  | a :: as, b :: bs => do if ← same a b then sameMembers same as bs else return false
  | _, _ => return false

def entriesWithin (same : Operand → Operand → Eval Bool) (others : List (Operand × Operand)) :
    List (Operand × Operand) → Eval Bool
  | [] => return true
  | (k, v) :: es => do
    match ← findEntry same k others with
    | none => return false
    | some w => if ← same v w then entriesWithin same others es else return false

def Operand.same (depth : Nat) (a b : Operand) : Eval Bool :=
  match depth with
  | 0 => throw .tooDeep
  | depth + 1 =>
    match a, b with
    | .missing m, .missing n =>
      if m.strict then m.use else if n.strict then n.use else return true
    | .missing m, _ | _, .missing m => if m.strict then m.use else return false
    | .null, .null => return true
    | .tuple xs, .tuple ys => sameMembers (Operand.same depth) xs ys
    | .list i, .list j => do
      let xs ← listAt i
      let ys ← listAt j
      if i == j then return true
      if xs.length ≠ ys.length then return false
      sameMembers (Operand.same depth) xs ys
    | .mapping i, .mapping j => do
      let xs ← mappingAt i
      let ys ← mappingAt j
      if i == j then return true
      if xs.length ≠ ys.length then return false
      entriesWithin (Operand.same depth) ys xs
    | .range s t u, .range x y z =>
      let n := rangeLength s t u
      return n == rangeLength x y z && (n == 0 || (s == x && (n == 1 || u == z)))
    | .item x, .item y => return x.kind == y.kind && x.shown? == y.shown?
    | .element x, .element y => return x.shown? == y.shown?
    | .builtin x, .builtin y => return x == y
    | .counter x, .counter y => return x == y
    | .other k s _, .other k' s' _ => return k == k' && s == s'
    | a, b =>
      match a.text?, b.text? with
      | some s, some t => return s == t
      | some _, none | none, some _ => return false
      | none, none =>
        match a.number?, b.number? with
        | some x, some y => return x.compare? y == some .eq
        | _, _ => return false

def Operand.equal (a b : Operand) : Eval Bool := a.same nesting b

def Operand.isMember (a : Operand) : List Operand → Eval Bool
  | [] => return false
  | b :: bs => do if ← b.equal a then return true else a.isMember bs

def Operand.checkKey (depth : Nat) (o : Operand) : Eval Unit :=
  match depth with
  | 0 => throw .tooDeep
  | depth + 1 =>
    match o with
    | .list _ | .mapping _ => throw (.unhashable o.kind)
    | .view .keys _ | .view .entries _ => throw (.unhashable o.kind)
    | .tuple items => items.forM (Operand.checkKey depth)
    | .missing m => if m.strict then m.use else return ()
    | _ => return ()

def lookupKey (cell : Nat) (key : Operand) : Eval (Option Operand) := do
  key.checkKey nesting
  findEntry Operand.equal key (← mappingAt cell)

/-- Entries with a key set: a known key keeps its place. -/
def putEntry (key value : Operand) :
    List (Operand × Operand) → Eval (List (Operand × Operand))
  | [] => return [(key, value)]
  | (k, v) :: es => do
    if ← k.equal key then return (k, value) :: es
    else return (k, v) :: (← putEntry key value es)

def putChecked (key value : Operand) (entries : List (Operand × Operand)) :
    Eval (List (Operand × Operand)) := do
  key.checkKey nesting
  putEntry key value entries

inductive Order where
  | less
  | lessEqual
  | greater
  | greaterEqual
  deriving DecidableEq

def Order.symbol : Order → String
  | .less => "<"
  | .lessEqual => "<="
  | .greater => ">"
  | .greaterEqual => ">="

def Order.holds (o : Order) : Ordering → Bool
  | .lt => o == .less || o == .lessEqual
  | .eq => o == .lessEqual || o == .greaterEqual
  | .gt => o == .greater || o == .greaterEqual

def compareTexts (s t : String) : Ordering :=
  if s < t then .lt else if s == t then .eq else .gt

/-- Compares lists at their first different members, else by length. -/
def orderMembers (o : Order) (compareMembers : Operand → Operand → Eval Bool) :
    List Operand → List Operand → Eval Bool
  | a :: as, b :: bs => do
    if ← a.equal b then orderMembers o compareMembers as bs else compareMembers a b
  | [], [] => return o.holds .eq
  | [], _ :: _ => return o.holds .lt
  | _ :: _, [] => return o.holds .gt

def Operand.inOrder (o : Order) (depth : Nat) (a b : Operand) : Eval Bool :=
  match depth with
  | 0 => throw .tooDeep
  | depth + 1 =>
    match a, b with
    | .missing m, _ => m.use
    | _, .missing m => m.use
    | .tuple xs, .tuple ys => orderMembers o (Operand.inOrder o depth) xs ys
    | .list i, .list j => do
      orderMembers o (Operand.inOrder o depth) (← listAt i) (← listAt j)
    | a, b =>
      match a.text?, b.text? with
      | some s, some t => return o.holds (compareTexts s t)
      | _, _ =>
        match a.number?, b.number? with
        | some x, some y =>
          match x.compare? y with
          | some c => return o.holds c
          | none => return false
        | _, _ => throw (.unordered o.symbol a.kind b.kind)

def Operand.ordered (o : Order) (a b : Operand) : Eval Bool := a.inOrder o nesting b

def isRangeMember (start stop step i : Int) : Bool :=
  if 0 < step then start ≤ i && i < stop && (i - start) % step == 0
  else if step < 0 then stop < i && i ≤ start && (start - i) % (-step) == 0
  else false

def Operand.isIn (a b : Operand) : Eval Bool :=
  match b with
  | .text s | .escaped s | .word s =>
    match a.text? with
    | some t => return Text.occurs t.toList s.toList
    | none => throw (.substringOperand a.kind)
  | .mapping cell | .view .keys cell => return (← lookupKey cell a).isSome
  | .range start stop step =>
    match a.int? with
    | some i => return isRangeMember start stop step i
    | none => do a.isMember (← b.iterate)
  | .missing m => if m.strict then m.use else return false
  | b => do
    match ← b.items? with
    | some items => a.isMember items
    | none => throw (.notIterableArgument b.kind)

end ElementMarkup.Expression
