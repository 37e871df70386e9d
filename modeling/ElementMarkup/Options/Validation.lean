import ElementMarkup.Number.Double
import ElementMarkup.Options
import ElementMarkup.Tree.Datum

/-!
# Validating render options

Options are given as a mapping. Each option has a name and may have a second one, which wins if
both are present; what is absent keeps its default, and other entries are left out of account.
Every option that does not fit is reported, in the order of the options.
-/

set_option autoImplicit false

namespace ElementMarkup

inductive Misfit where
  | boolType
  | boolParsing
  | stringType
  | tupleType
  | setType
  | modelType
  deriving DecidableEq

def Misfit.name : Misfit → String
  | .boolType => "bool_type"
  | .boolParsing => "bool_parsing"
  | .stringType => "string_type"
  | .tupleType => "tuple_type"
  | .setType => "frozen_set_type"
  | .modelType => "model_type"

structure Complaint where
  path : List String
  misfit : Misfit
  deriving DecidableEq

def valueAtKey? (key : String) : List (Datum × Datum) → Option Datum
  | [] => none
  | (.text k, v) :: es | (.word k, v) :: es => if k == key then some v else valueAtKey? key es
  | _ :: es => valueAtKey? key es

def firstPresent? (keys : List String) (entries : List (Datum × Datum)) : Option (String × Datum) :=
  keys.findSome? fun k => (valueAtKey? k entries).map fun d => (k, d)

def truthWords : List (String × Bool) := [
  ("0", false), ("off", false), ("f", false), ("false", false), ("n", false), ("no", false),
  ("1", true), ("on", true), ("t", true), ("true", true), ("y", true), ("yes", true)]

/-- The integer of a double that is a small whole number. -/
def smallInteger? (f : Float) : Option Int :=
  match truncateDouble? f with
  | some i => if Float.ofInt i == f && -wordLimit < i && i < wordLimit then some i else none
  | none => none

def readTruth (d : Datum) : Except Misfit Bool :=
  let ofInteger (i : Int) : Except Misfit Bool :=
    if i = 0 then .ok false else if i = 1 then .ok true else .error .boolParsing
  match d with
  | .bool b => .ok b
  | .text s | .word s =>
    match truthWords.lookup s.toLower with
    | some b => .ok b
    | none => .error .boolParsing
  | .number (.int i) => if -wordLimit ≤ i ∧ i < wordLimit then ofInteger i else .error .boolType
  | .number (.float f) =>
    match smallInteger? f with
    | some i => ofInteger i
    | none => .error .boolType
  | _ => .error .boolType

def readText (d : Datum) : Except Misfit String :=
  match d with
  | .text s | .word s => .ok s
  | _ => .error .stringType

/-- A result, or all complaints about it. -/
abbrev Checked (α : Type) := Except (List Complaint) α

def readTexts (key : String) (place : Nat) : List Datum → Checked (List String)
  | [] => .ok []
  | d :: ds =>
    match readText d, readTexts key (place + 1) ds with
    | .ok t, .ok ts => .ok (t :: ts)
    | .ok _, .error cs => .error cs
    | .error m, .ok _ => .error [⟨[key, toString place], m⟩]
    | .error m, .error cs => .error (⟨[key, toString place], m⟩ :: cs)

/-- The texts of a list or tuple; anything else is the given misfit. -/
def readTextList (misfit : Misfit) (key : String) (d : Datum) : Checked (List String) :=
  match d with
  | .list items | .tuple items => readTexts key 0 items
  | _ => .error [⟨[key], misfit⟩]

def located {α : Type} (read : Datum → Except Misfit α) (key : String) (d : Datum) : Checked α :=
  match read d with
  | .ok a => .ok a
  | .error m => .error [⟨[key], m⟩]

def Options.override {α : Type} (entries : List (Datum × Datum)) (keys : List String)
    (read : String → Datum → Checked α) (set : Options → α → Options) (before : Checked Options) :
    Checked Options :=
  match firstPresent? keys entries with
  | none => before
  | some (key, d) =>
    match before, read key d with
    | .ok o, .ok a => .ok (set o a)
    | .ok _, .error cs => .error cs
    | .error cs, .ok _ => .error cs
    | .error cs, .error further => .error (cs ++ further)

def Options.ofDatum (d : Datum) : Checked Options :=
  match d with
  | .mapping es =>
    let withXml :=
      Options.override es ["xml"] (located readTruth) (fun o b => { o with xml := b }) (.ok {})
    let withDoctype :=
      Options.override es ["doctypeParams", "doctype"] (readTextList .tupleType)
        (fun o ts => { o with doctype := ts }) withXml
    let withTags :=
      Options.override es ["extensionTags", "extension_tags"] (readTextList .setType)
        (fun o ts => o.allowing ts) withDoctype
    Options.override es ["xmlHeader", "xml_header"] (located readText)
      (fun o t => { o with xmlHeader := t }) withTags
  | _ => .error [⟨[], .modelType⟩]

end ElementMarkup
