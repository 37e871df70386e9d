import ElementMarkup.Command.Line
import ElementMarkup.Command.System

/-!
# Running commands

A run starts from a command line, the disk and the text of standard input. It ends with the texts it
printed, the disk as it is then, and the way it ended. The tree is read first, then the options,
then the context. Expected failures are reported on the error output; others are passed on.
-/

set_option autoImplicit false

namespace ElementMarkup.Command

inductive Failure where
  | load (error : LoadError)
  | shape (error : ShapeError)
  | render (error : RenderError)
  | write (error : FileError)

def Failure.message : Failure → String
  | .load e => e.message
  | .shape e => e.message
  | .render e => e.message
  | .write e => e.message

/-- Whether a failure is passed on instead of reported. -/
def Failure.isUnexpected : Failure → Bool
  | .load (.file e) | .write e => e.fault = .nullCharacter
  | .load (.encoding _) | .load (.form (.tooManyDigits _)) | .load (.json (.tooManyDigits _))
  | .load (.json (.loneSurrogate _)) | .load (.json .tooDeep) | .load (.yaml (.scalar _))
  | .shape .tooManyDigits | .render .tooManyDigits | .render (.shape .tooManyDigits)
  | .render (.evaluation _ (.unguarded _)) | .render .tooDeep =>
    true
  | _ => false

inductive Ending where
  | done
  /-- The command line was wrong. -/
  | misused
  | refused (message : String)
  | failed (failure : Failure)
  | crashed (failure : Failure)

structure Run where
  output : String
  errors : String
  disk : Disk
  ending : Ending

def Run.folder (r : Run) : Folder := r.disk.folder

/-- A part of a run; what was logged before a failure stays. -/
abbrev Work := ExceptT Failure (StateM Progress)

def fromLoad {α : Type} (r : Except LoadError α) : Work α :=
  match r with
  | .ok a => return a
  | .error e => throw (.load e)

def print (text : String) : Work Unit := modify fun p => { p with output := p.output ++ text }

def log (text : String) : Work Unit := modify fun p => { p with log := p.log ++ text }

def Request.options (r : Request) (o : Options) : Options :=
  let withDoctype := if r.doctype.isEmpty then o else { o with doctype := r.doctype }
  (withDoctype.allowing r.extensions).withMode (if r.xml then some true else none)

def Request.readMarkup (r : Request) (disk : Disk) (stdin : List Char) :
    Except LoadError (List Char) :=
  if r.input = "-" then .ok stdin else disk.readText (Path.ofString r.input)

def compiledLine (tag : String) (xml : Bool) (length : Nat) : String :=
  "DEBUG treemark.compiler: compiled <" ++ tag ++ "> as " ++ (if xml then "xml" else "html") ++
    ": " ++ toString length ++ " characters\n"

def deliver (output : Option String) (text : List Char) : Work Unit := do
  let line := String.ofList (text ++ ['\n'])
  match output with
  | none => print line
  | some name =>
    let p ← get
    let (result, disk) := p.disk.write (Path.ofString name) line.toUTF8.toList
    set { p with disk := disk }
    match result with
    | .ok _ => return ()
    | .error e => throw (.write e)

def Failure.ending : Failure → Ending
  | .load (.contextNoMapping path) => .refused (LoadError.contextNoMapping path).message
  | f => if f.isUnexpected then .crashed f else .failed f

def Ending.report : Ending → String
  | .failed f => programName ++ ": " ++ f.message ++ "\n"
  | _ => ""

namespace System

variable {δ ρ τ : Type} (S : System δ ρ τ)

def readTree (r : Request) (disk : Disk) (stdin : List Char) : Except LoadError (Loaded δ) :=
  if r.input = "-" then (readForm stdin).map .datum
  else S.documents.loadTree disk (Path.ofString r.input)

def readOptions (r : Request) (disk : Disk) : Except LoadError Options :=
  match r.config with
  | none => .ok (r.options {})
  | some name => (S.documents.loadOptions disk (Path.ofString name)).map r.options

def readContext (r : Request) (disk : Disk) : Except LoadError (Loaded δ) :=
  match r.context with
  | none => .ok (.datum (.mapping []))
  | some name => S.documents.loadContext disk (Path.ofString name)

def shaped (tree : Loaded δ) : Work Element :=
  match S.documents.root S.shapeDepth tree with
  | .ok e => return e
  | .error (.shape e) => throw (.shape e)
  | .error e => throw (.render e)

abbrev State (_ : System δ ρ τ) : Type := Prepared (Progress × ρ) τ

def evaluate : Evaluator S.State := S.expressions.stages.evaluate

/-- The document of an element. What evaluating its expressions has done stays. -/
def rendered (o : Options) (scope : ρ) (e : Element) : Work (List Char) := do
  let start : S.State := ⟨(← get, scope), []⟩
  let outcome := renderElement o true S.evaluate S.renderDepth true e (Session.start start)
  set outcome.session.state.state.1
  match outcome.result with
  | .ok _ => return documentAround o true outcome.written
  | .error f => throw (.render f)

def compiled (verbose : Bool) (stdin : List Char) (r : Request) : Work (Options × List Char) := do
  let disk := (← get).disk
  let tree ← fromLoad (S.readTree r disk stdin)
  let o ← fromLoad (S.readOptions r disk)
  let context ← fromLoad (S.readContext r disk)
  let e ← S.shaped tree
  let text ← S.rendered o (S.scope context) e
  if verbose then log (compiledLine e.tag o.xml text.length)
  return (o, text)

def perform (verbose : Bool) (stdin : List Char) (r : Request) : Work Unit := do
  match r.action with
  | .render =>
    let (_, text) ← S.compiled verbose stdin r
    deliver r.output text
  | .reformat =>
    let text ← fromLoad (r.readMarkup (← get).disk stdin)
    deliver r.output (Markup.reformat r.xml text)
  | .preview =>
    let (o, text) ← S.compiled verbose stdin r
    deliver none (Markup.indent o.xml 2 text)

def runRequest (verbose : Bool) (disk : Disk) (stdin : List Char) (r : Request) : Run :=
  let (result, p) := (S.perform verbose stdin r).run.run ⟨"", "", disk⟩
  let ending :=
    match result with
    | .ok _ => Ending.done
    | .error f => f.ending
  ⟨p.output, p.log ++ ending.report, p.disk, ending⟩

def run (args : List String) (disk : Disk) (stdin : String) : Run :=
  match readLine args with
  | .help c => ⟨helpText c, "", disk, .done⟩
  | .wrong c message => ⟨"", errorText c message, disk, .misused⟩
  | .request verbose r => S.runRequest verbose disk (Text.unifyLineEnds stdin.toList) r

end System

def run (args : List String) (folder : Folder) (stdin : String) : Run :=
  standardSystem.run args folder.disk stdin

def Ending.code : Ending → UInt32
  | .done => 0
  | .misused => 2
  | _ => 1

end ElementMarkup.Command
