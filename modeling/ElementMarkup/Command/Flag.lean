import ElementMarkup.Text.Basic
import ElementMarkup.Text.Quoted

/-!
# Flags on a command line

An interface has flags and at most one operand. A flag may be shortened as long as no other flag
starts in the same way, and its value may follow it behind an equals sign; a flag of one letter
may have its value, or further such flags, right behind it. Two hyphens end the flags. What is
neither a known flag nor the operand is left over.
-/

set_option autoImplicit false

namespace ElementMarkup.Command

inductive Arity where
  | zero
  | one
  | several
  deriving DecidableEq, Repr

structure Flag where
  /-- The spellings, with their hyphens. -/
  names : List String
  arity : Arity
  deriving DecidableEq, Repr

inductive OperandKind where
  | single
  /-- The operand with everything behind it. -/
  | everything
  deriving DecidableEq, Repr

structure Interface where
  flags : List Flag
  operand : OperandKind

def helpFlag : Flag := ⟨["-h", "--help"], .zero⟩

inductive Stop where
  | help
  | error (message : String)
  deriving DecidableEq, Repr

inductive Joined where
  | nothing
  /-- A value behind an equals sign. -/
  | equals (value : String)
  /-- A text right behind the letter of a flag. -/
  | glued (value : String)
  deriving DecidableEq, Repr

inductive Kind where
  | word
  | separator
  | unknownFlag
  /-- A flag by the spelling used, with what follows it in the argument. -/
  | flag (flag : Flag) (name : String) (joined : Joined)
  deriving DecidableEq, Repr

structure Given where
  flags : List (Flag × List String)
  operand : Option (List String)
  extras : List String

def Given.empty : Given := ⟨[], none, []⟩

def Given.addFlag (g : Given) (f : Flag) (values : List String) : Given :=
  { g with flags := g.flags ++ [(f, values)] }

def Given.addExtras (g : Given) (extras : List String) : Given :=
  { g with extras := g.extras ++ extras }

def Interface.spellings (i : Interface) : List (String × Flag) :=
  i.flags.flatMap fun f => f.names.map fun n => (n, f)

def splitEquals : List Char → List Char × Option (List Char)
  | [] => ([], none)
  | c :: cs =>
    if c == '=' then ([], some cs)
    else
      let (before, behind) := splitEquals cs
      (c :: before, behind)

def isNegativeNumber (cs : List Char) : Bool :=
  match cs with
  | '-' :: rest =>
    let (whole, behind) := rest.span Text.isDigit
    match behind with
    | [] => !whole.isEmpty
    | '.' :: fraction => !fraction.isEmpty && fraction.all Text.isDigit
    | _ => false
  | _ => false

def joinedBy (value : Option (List Char)) : Joined :=
  match value with
  | some v => .equals (String.ofList v)
  | none => .nothing

def Interface.shortenings (i : Interface) (s : String) : List Kind :=
  match s.toList with
  | '-' :: '-' :: _ =>
    let (start, value) := splitEquals s.toList
    i.spellings.filterMap fun (n, f) =>
      if start.isPrefixOf n.toList then some (.flag f n (joinedBy value)) else none
  | '-' :: x :: behind =>
    i.spellings.filterMap fun (n, f) =>
      if n.toList = ['-', x] then some (.flag f n (.glued (String.ofList behind)))
      else if s.toList.isPrefixOf n.toList then some (.flag f n .nothing)
      else none
  | _ => []

def Kind.name : Kind → String
  | .flag _ n _ => n
  | _ => ""

def Interface.kindOf (i : Interface) (s : String) : Except Stop Kind :=
  if s = "--" then .ok .separator
  else if !s.startsWith "-" then .ok .word
  else
    match i.spellings.lookup s with
    | some f => .ok (.flag f s .nothing)
    | none =>
      if s = "-" then .ok .word
      else
        let (before, behind) := splitEquals s.toList
        let name := String.ofList before
        match behind, i.spellings.lookup name with
        | some value, some f => .ok (.flag f name (.equals (String.ofList value)))
        | _, _ =>
          match i.shortenings s with
          | [k] => .ok k
          | k :: ks =>
            .error (.error ("ambiguous option: " ++ s ++ " could match " ++
              ", ".intercalate ((k :: ks).map Kind.name)))
          | [] =>
            if isNegativeNumber s.toList || s.toList.contains ' ' then .ok .word
            else .ok .unknownFlag

/-- What each argument is; behind the first separator there are only words. -/
def Interface.kinds (i : Interface) : List String → Except Stop (List (String × Kind))
  | [] => .ok []
  | s :: ss => do
    match ← i.kindOf s with
    | .separator => return (s, .separator) :: ss.map fun s => (s, .word)
    | k => return (s, k) :: (← i.kinds ss)

def isWord (p : String × Kind) : Bool := p.2 = .word

def isSeparator (p : String × Kind) : Bool := p.2 = .separator

def isFlag (p : String × Kind) : Bool := !isWord p && !isSeparator p

def OperandKind.span (k : OperandKind) (args : List (String × Kind)) : Nat :=
  let before := args.takeWhile isSeparator
  match args.dropWhile isSeparator with
  | [] => 0
  | p :: rest =>
    if !isWord p then 0
    else
      match k with
      | .everything => args.length
      | .single => before.length + 1 + (rest.takeWhile isSeparator).length

/-- The operand without the first separator, unless it takes everything. -/
def OperandKind.values (k : OperandKind) (args : List String) : List String :=
  match k with
  | .everything => args
  | .single => args.erase "--"

def flagError (f : Flag) (message : String) : Stop :=
  .error ("argument " ++ "/".intercalate f.names ++ ": " ++ message)

inductive ClusterEnd where
  /-- With a flag, and its value if that is in the argument. -/
  | flag (flag : Flag) (value : Option String)
  /-- With letters that are no flag; they are left over as an argument of their own. -/
  | unknown (argument : String)

def Interface.cluster (i : Interface) (before : List Flag) :
    Nat → Flag → String → Joined → Except Stop (List Flag × ClusterEnd)
  | 0, f, _, _ => .ok (before, .flag f none)
  | fuel + 1, f, name, joined =>
    let more (v : String) (glued : Bool) : Except Stop (List Flag × ClusterEnd) :=
      let ignored := flagError f ("ignored explicit argument " ++ Text.quoted v)
      if f.arity ≠ .zero then .ok (before, .flag f (some v))
      else
        match name.toList, v.toList with
        | '-' :: '-' :: _, _ | _, [] | _, '-' :: _ => .error ignored
        | _, x :: rest =>
          if !glued then .error ignored
          else
            let next := String.ofList ['-', x]
            match i.spellings.lookup next with
            | none => .ok (before ++ [f], .unknown ("-" ++ v))
            | some g =>
              let joined : Joined :=
                match rest with
                | [] => .nothing
                | '=' :: value => .equals (String.ofList value)
                | rest => .glued (String.ofList rest)
              i.cluster (before ++ [f]) fuel g next joined
    match joined with
    | .nothing => .ok (before, .flag f none)
    | .equals v => more v false
    | .glued v => more v true

def Flag.values (f : Flag) (words : List String) : Except Stop (List String) :=
  match f.arity, words with
  | .zero, _ => .ok []
  | .one, w :: _ => .ok [w]
  | .one, [] => .error (flagError f "expected one argument")
  | .several, [] => .error (flagError f "expected at least one argument")
  | .several, ws => .ok ws

/-- Notes flags in order; the flag for help stops. -/
def Given.addFlags (g : Given) : List (Flag × List String) → Except Stop Given
  | [] => .ok g
  | (f, values) :: rest =>
    if f = helpFlag then .error .help else (g.addFlag f values).addFlags rest

def Interface.takeFlag (i : Interface) (g : Given) (s : String) (k : Kind)
    (rest : List (String × Kind)) : Except Stop (Given × List (String × Kind)) :=
  match k with
  | .flag f name joined => do
    let (before, last) ← i.cluster [] (s.length + 1) f name joined
    let before := before.map fun f => (f, ([] : List String))
    match last with
    | .unknown argument => return (← (g.addExtras [argument]).addFlags before, rest)
    | .flag f (some v) => return (← g.addFlags (before ++ [(f, [v])]), rest)
    | .flag f none =>
      let values ← f.values ((rest.takeWhile isWord).map Prod.fst)
      return (← g.addFlags (before ++ [(f, values)]), rest.drop values.length)
  | _ => return (g.addExtras [s], rest)

def Interface.takeOperand (i : Interface) (g : Given) (args : List (String × Kind)) :
    Given × List (String × Kind) :=
  let n := if g.operand.isSome then 0 else i.operand.span args
  if n = 0 then (g, args)
  else
    ({ g with operand := some (i.operand.values ((args.take n).map Prod.fst)) }, args.drop n)

def Interface.readFrom (i : Interface) : Nat → Given → List (String × Kind) → Except Stop Given
  | 0, g, _ => .ok g
  | fuel + 1, g, args =>
    if args.any isFlag then
      match args with
      | [] => .ok g
      | (s, k) :: rest =>
        if isFlag (s, k) then
          match i.takeFlag g s k rest with
          | .error e => .error e
          | .ok (g, rest) => i.readFrom fuel g rest
        else
          let (g', rest') := i.takeOperand g args
          if rest'.length < args.length then i.readFrom fuel g' rest'
          else
            i.readFrom fuel (g.addExtras ((args.takeWhile fun p => !isFlag p).map Prod.fst))
              (args.dropWhile fun p => !isFlag p)
    else
      let (g, rest) := i.takeOperand g args
      .ok (g.addExtras (rest.map Prod.fst))

def Interface.read (i : Interface) (args : List String) : Except Stop Given := do
  let kinds ← i.kinds args
  i.readFrom (2 * args.length + 2) Given.empty kinds

def Given.has (g : Given) (f : Flag) : Bool := g.flags.any fun (h, _) => h = f

def Given.all (g : Given) (f : Flag) : List (List String) :=
  g.flags.filterMap fun (h, values) => if h = f then some values else none

def Given.last? (g : Given) (f : Flag) : Option String := ((g.all f).getLast?).bind List.head?

end ElementMarkup.Command
