import ElementMarkup.Command.Flag
import ElementMarkup.Command.Usage

/-!
# The command line

What a command line asks for: one of the commands with its input and its flags, or a text to show.
-/

set_option autoImplicit false

namespace ElementMarkup.Command

def verboseFlag : Flag := ⟨["-v", "--verbose"], .zero⟩

def xmlFlag : Flag := ⟨["--xml"], .zero⟩

def configFlag : Flag := ⟨["--config"], .one⟩

def contextFlag : Flag := ⟨["--context"], .one⟩

def doctypeFlag : Flag := ⟨["--doctype"], .several⟩

def extensionFlag : Flag := ⟨["--extension-tag"], .one⟩

def outFlag : Flag := ⟨["--out"], .one⟩

def programInterface : Interface := ⟨[helpFlag, verboseFlag], .everything⟩

def Action.flags : Action → List Flag
  | .render => [helpFlag, xmlFlag, configFlag, contextFlag, doctypeFlag, extensionFlag, outFlag]
  | .reformat => [helpFlag, xmlFlag, outFlag]
  | .preview => [helpFlag, xmlFlag, configFlag, contextFlag]

structure Request where
  action : Action
  input : String
  xml : Bool
  config : Option String
  context : Option String
  doctype : List String
  extensions : List String
  output : Option String
  deriving DecidableEq

/-- An empty file name counts as none. -/
def named? (name : Option String) : Option String := name.filter fun n => !n.isEmpty

def Request.ofGiven (c : Action) (input : String) (g : Given) : Request where
  action := c
  input := input
  xml := g.has xmlFlag
  config := named? (g.last? configFlag)
  context := named? (g.last? contextFlag)
  doctype := (g.all doctypeFlag).getLastD []
  extensions := (g.all extensionFlag).flatten
  output := g.last? outFlag

inductive Line where
  | help (action : Option Action)
  | wrong (action : Option Action) (message : String)
  | request (verbose : Bool) (request : Request)
  deriving DecidableEq

def Stop.line (c : Option Action) : Stop → Line
  | .help => .help c
  | .error message => .wrong c message

def unrecognized (extras : List String) : Line :=
  .wrong none ("unrecognized arguments: " ++ " ".intercalate extras)

/-- Reads the arguments of a command, behind those that were left over before it. -/
def readCommand (verbose : Bool) (extras : List String) (c : Action) (args : List String) : Line :=
  match (⟨c.flags, .single⟩ : Interface).read args with
  | .error stop => stop.line (some c)
  | .ok g =>
    match g.operand with
    | some (input :: _) =>
      if (extras ++ g.extras).isEmpty then .request verbose (Request.ofGiven c input g)
      else unrecognized (extras ++ g.extras)
    | _ => .wrong (some c) "the following arguments are required: input"

def readLine (args : List String) : Line :=
  match programInterface.read args with
  | .error stop => stop.line none
  | .ok g =>
    match g.operand with
    | some (name :: rest) =>
      match Action.ofName? name with
      | some c => readCommand (g.has verboseFlag) g.extras c rest
      | none =>
        .wrong none ("argument command: invalid choice: " ++ Text.quoted name ++
          " (choose from " ++ ", ".intercalate (Action.all.map fun c => Text.quoted c.name) ++ ")")
    | _ => if g.extras.isEmpty then .help none else unrecognized g.extras

end ElementMarkup.Command
