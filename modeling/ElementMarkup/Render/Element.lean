import ElementMarkup.Options
import ElementMarkup.Render.Outcome
import ElementMarkup.Text.Basic
import ElementMarkup.Tree.Attribute

/-!
# Rendering elements

An element is written as its opening tag, its content and its closing tag. A void tag in HTML,
and an element without content in XML, is written as one tag that closes itself. In broken lines
an element that contains elements has its tags, its runs of text and its elements on lines of
their own, and every other element is one line.
-/

set_option autoImplicit false

namespace ElementMarkup

variable {σ : Type}

def openingTag (tag : String) (attributes : List Char) : List Char :=
  '<' :: tag.toList ++ attributes ++ ['>']

def closingTag (tag : String) : List Char := '<' :: '/' :: tag.toList ++ ['>']

def emptyTag (tag : String) (attributes : List Char) : List Char :=
  '<' :: tag.toList ++ attributes ++ ['/', '>']

def lineEnd (broken : Bool) : List Char := if broken then ['\n'] else []

/-- A run of text as lines: without its outer newlines, and dropped when nothing is left. -/
def runLine (run : List Char) : List Char :=
  let text := Text.trimNewlines run
  if text.isEmpty then [] else text ++ ['\n']

def Value.text? : Value → Option String
  | .text s | .word s => some s
  | .number n => n.text?
  | .element _ => some ""

def writeFlat (child : Element → Step σ Unit) : List Value → Step σ Unit
  | [] => pure ()
  | .element e :: rest => do
    child e
    writeFlat child rest
  | v :: rest => do
    let text ← Step.ofText? v.text?
    Step.write text
    writeFlat child rest

/-- Writes children on lines, after the text of the run that is open. -/
def writeLines (child : Element → Step σ Unit) (run : List Char) : List Value → Step σ Unit
  | [] => Step.write (runLine run)
  | .element e :: rest => do
    Step.write (runLine run)
    child e
    writeLines child [] rest
  | v :: rest => do
    let text ← Step.ofText? v.text?
    writeLines child (run ++ text) rest

/-- The attributes as they stand in a tag, classes merged. -/
def headText (attributes : List Attribute) : Step σ (List Char) :=
  Step.ofText? ((mergeClasses? attributes).bind attributesText?)

/-- The attributes that a list of data gives: pairs, or names and values in turns. -/
def givenAttributes (items : List Datum) : Step σ (List Attribute) :=
  match attributesOf items with
  | .ok attributes => pure attributes
  | .error (.oddLength length last) => Step.fail (.malformedAttributes length last)
  | .error .tooManyDigits => Step.fail .tooManyDigits

def writePaired (broken : Bool) (child : Element → Step σ Unit) (tag : String)
    (attributes : List Char) (children : List Value) : Step σ Unit := do
  Step.write (openingTag tag attributes)
  if broken && children.any Value.isElement then
    Step.write ['\n']
    writeLines child [] children
  else
    writeFlat child children
  Step.write (closingTag tag ++ lineEnd broken)

/-- Writes one element from its attributes and children; `child` writes an element below it. -/
def writeElement (o : Options) (broken : Bool) (child : Element → Step σ Unit) (root : Bool)
    (tag : String) (attributes : List Attribute) (children : List Value) : Step σ Unit := do
  let attrs ← headText attributes
  if o.xml then
    if children.isEmpty then Step.write (emptyTag tag attrs ++ lineEnd broken)
    else writePaired broken child tag attrs children
  else if isVoidTag tag then
    if children.isEmpty then Step.write (emptyTag tag attrs ++ lineEnd broken)
    else Step.fail (.voidElement tag)
  else
    if root && tag == "html" then Step.write (o.doctypeLine.toList ++ lineEnd broken)
    writePaired broken child tag attrs children

def checkTag (o : Options) (tag : String) : Step σ Unit :=
  if o.allows tag then pure () else Step.fail (.invalidTag tag)

def resolveAll (evaluate : Evaluator σ) : List Item → Step σ (List Value)
  | [] => pure []
  | i :: is => do
    let v ← resolve evaluate i
    let vs ← resolveAll evaluate is
    return v :: vs

/-- Renders an element that is nested at most `depth` deep. -/
def renderElement (o : Options) (broken : Bool) (evaluate : Evaluator σ) :
    Nat → Bool → Element → Step σ Unit
  | 0, _, _ => Step.fail .tooDeep
  | depth + 1, root, e => do
    checkTag o e.tag
    let head ← parseHead (resolve evaluate) e.args
    let children ← resolveAll evaluate (e.args.drop head.consumed)
    writeElement o broken (renderElement o broken evaluate depth false) root e.tag
      head.attributes children

end ElementMarkup
