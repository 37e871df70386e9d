import ElementMarkup.File.Folder
import ElementMarkup.Json.Read
import ElementMarkup.Options.Validation
import ElementMarkup.Render.Root
import ElementMarkup.Sexp.Read
import ElementMarkup.Text.Utf8
import ElementMarkup.Yaml.Read

/-!
# Loading files

A tree is read as JSON, YAML or a form, as the suffix of its path says; options are read as YAML,
and a context as JSON or YAML. An empty YAML document gives no tree, but default options and an
empty context. What reads YAML and validates options is a library with documents of its own kind.
-/

set_option autoImplicit false

namespace ElementMarkup

inductive LoadError where
  | file (error : FileError)
  | encoding (error : Text.Utf8Error)
  | form (error : Sexp.ReadError)
  | json (error : Json.ReadError)
  | yaml (error : Yaml.ReadError)
  /-- A tree file without a tree. -/
  | emptyTree (path : Path)
  | optionsFile (path : Path) (error : FileError)
  /-- An options file that is no YAML. -/
  | optionsText (path : Path)
  | optionsNoMapping (path : Path)
  | optionsInvalid (path : Path) (complaints : List Complaint)
  | contextNoMapping (path : Path)

def Json.ReadError.message : Json.ReadError → String
  | .located fault line column place =>
    fault.message ++ ": line " ++ toString line ++ " column " ++ toString column ++ " (char " ++
      toString place ++ ")"
  | .tooManyDigits digits => (Expression.Fault.readingTooManyDigits digits).message
  | .loneSurrogate _ => "surrogates not allowed"
  | .tooDeep => Expression.Fault.tooDeep.message

/-- The message on a broken YAML text is left empty. -/
def Yaml.ReadError.message : Yaml.ReadError → String
  | .malformed => ""
  | .scalar fault => fault.message

def complaintCount (n : Nat) : String :=
  toString n ++ (if n = 1 then " validation error" else " validation errors") ++
    " for RenderOptions"

def LoadError.message : LoadError → String
  | .file e => e.message
  | .encoding e => e.message
  | .form e => e.message
  | .json e => e.message
  | .yaml e => e.message
  | .emptyTree path => (ShapeError.emptyDocument path.text).message
  | .optionsFile path e => "Cannot read options from " ++ path.text ++ ": " ++ e.message
  | .optionsText path => "Cannot read options from " ++ path.text ++ ": "
  | .optionsNoMapping path => path.text ++ " must contain a mapping of render options."
  | .optionsInvalid path complaints =>
    "Invalid render options in " ++ path.text ++ ": " ++ complaintCount complaints.length
  | .contextNoMapping path => path.text ++ " must contain a mapping of names to values."

def Disk.readText (d : Disk) (p : Path) : Except LoadError (List Char) :=
  match d.read p with
  | .error e => .error (.file e)
  | .ok bytes =>
    match Text.decodeUtf8 bytes with
    | .error e => .error (.encoding e)
    | .ok cs => .ok (Text.unifyLineEnds cs)

def readForm (cs : List Char) : Except LoadError Datum := (Sexp.read cs).mapError .form

def readJson (depth : Nat) (cs : List Char) : Except LoadError Datum :=
  (Json.read depth cs).mapError .json

def readOptionsText (d : Disk) (p : Path) : Except LoadError (List Char) :=
  match d.readText p with
  | .error (.file e) => .error (if e.fault = .nullCharacter then .file e else .optionsFile p e)
  | r => r

/-- A library that reads YAML into documents and validates options, with what is asked of its
documents; data are read from JSON beside it. -/
structure Documents (δ : Type) where
  read : List Char → Except Yaml.ReadError δ
  options : δ → Except (List Complaint) Options
  view : View δ
  isNull : δ → Bool
  /-- Whether a document counts as false. -/
  isBlank : δ → Bool
  isMapping : δ → Bool
  noEntries : δ
  /-- How deep a JSON text may be nested. -/
  jsonDepth : Nat

inductive Loaded (δ : Type) where
  | datum (d : Datum)
  | document (d : δ)

namespace Documents

variable {δ : Type} (docs : Documents δ)

def readYaml (cs : List Char) : Except LoadError δ := (docs.read cs).mapError .yaml

def loadTree (disk : Disk) (p : Path) : Except LoadError (Loaded δ) := do
  let cs ← disk.readText p
  if p.suffix = ".json" then return .datum (← readJson docs.jsonDepth cs)
  else if p.suffix = ".yaml" ∨ p.suffix = ".yml" then
    let d ← docs.readYaml cs
    if docs.isNull d then throw (.emptyTree p) else return .document d
  else return .datum (← readForm cs)

/-- The document itself, or a mapping without entries in place of a blank one. -/
def orNoEntries (d : δ) : δ := if docs.isBlank d then docs.noEntries else d

def readOptionsDocument (p : Path) (cs : List Char) : Except LoadError δ :=
  match docs.readYaml cs with
  | .error (.yaml .malformed) => .error (.optionsText p)
  | r => r

def optionsOf (p : Path) (d : δ) : Except LoadError Options :=
  if docs.isMapping (docs.orNoEntries d) then
    (docs.options (docs.orNoEntries d)).mapError (.optionsInvalid p)
  else .error (.optionsNoMapping p)

def loadOptions (disk : Disk) (p : Path) : Except LoadError Options := do
  let cs ← readOptionsText disk p
  let d ← docs.readOptionsDocument p cs
  docs.optionsOf p d

def loadContext (disk : Disk) (p : Path) : Except LoadError (Loaded δ) := do
  let cs ← disk.readText p
  if p.suffix = ".json" then
    match ← readJson docs.jsonDepth cs with
    | .mapping entries => return .datum (.mapping entries)
    | _ => throw (.contextNoMapping p)
  else
    let d := docs.orNoEntries (← docs.readYaml cs)
    if docs.isMapping d then return .document d else throw (.contextNoMapping p)

def root (depth : Nat) : Loaded δ → Except RenderError Element
  | .datum d => Datum.view.root depth d
  | .document d => docs.view.root depth d

end Documents

def Datum.isBlank : Datum → Bool
  | .null => true
  | .bool b => !b
  | .number (.int i) => i == 0
  | .number (.float f) => f == 0.0
  | .text s => s.isEmpty
  | .list items => items.isEmpty
  | .mapping entries => entries.isEmpty
  | _ => false

def Datum.isMapping : Datum → Bool
  | .mapping _ => true
  | _ => false

def Datum.documents : Documents Datum where
  read := Yaml.read
  options := Options.ofDatum
  view := Datum.view
  isNull := Datum.isNull
  isBlank := Datum.isBlank
  isMapping := Datum.isMapping
  noEntries := .mapping []
  jsonDepth := Json.depthLimit

def Loaded.toDatum : Loaded Datum → Datum
  | .datum d | .document d => d

def Datum.entries : Datum → List (Datum × Datum)
  | .mapping entries => entries
  | _ => []

def loadTree (f : Folder) (p : Path) : Except LoadError Datum :=
  (Datum.documents.loadTree f.disk p).map Loaded.toDatum

def loadOptions (f : Folder) (p : Path) : Except LoadError Options :=
  Datum.documents.loadOptions f.disk p

def loadContext (f : Folder) (p : Path) : Except LoadError (List (Datum × Datum)) :=
  (Datum.documents.loadContext f.disk p).map fun d => d.toDatum.entries

end ElementMarkup
