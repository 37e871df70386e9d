import ElementMarkup.Markup.Layout
import ElementMarkup.Render.Element

/-!
# Rendering documents

A document is one element behind the XML header, in XML mode. It is rendered flat or in broken
lines; in broken lines the last line has no newline. A preview is a document in broken lines with
each line indented by its depth.
-/

set_option autoImplicit false

namespace ElementMarkup

variable {σ : Type}

/-- How deep elements may be nested. -/
def depthLimit : Nat := 1000

def dropFinalNewline (cs : List Char) : List Char :=
  if cs.getLast? = some '\n' then cs.dropLast else cs

def headerText (o : Options) (broken : Bool) : List Char :=
  if o.xml then o.xmlHeader.toList ++ lineEnd broken else []

/-- The document around what rendering an element has written. -/
def documentAround (o : Options) (broken : Bool) (written : List Char) : List Char :=
  let text := headerText o broken ++ written
  if broken then dropFinalNewline text else text

def renderDocument (o : Options) (broken : Bool) (evaluate : Evaluator σ) (depth : Nat) (state : σ)
    (e : Element) : Except RenderError (List Char) :=
  let outcome := renderElement o broken evaluate depth true e (Session.start state)
  outcome.result.map fun _ => documentAround o broken outcome.written

def previewDocument (o : Options) (evaluate : Evaluator σ) (depth : Nat) (state : σ)
    (e : Element) : Except RenderError (List Char) :=
  (renderDocument o true evaluate depth state e).map fun text => Markup.indent o.xml 2 text

def rootOf (tree : Datum) : Except RenderError Element :=
  match tree.toElement with
  | .ok e => .ok e
  | .error e => .error (.shape e)

def renderTree (o : Options) (xml : Option Bool) (broken : Bool) (evaluate : Evaluator σ)
    (depth : Nat) (state : σ) (tree : Datum) : Except RenderError (List Char) := do
  renderDocument (o.withMode xml) broken evaluate depth state (← rootOf tree)

structure Preview where
  text : List Char
  written : List Char

def previewTree (o : Options) (xml : Option Bool) (evaluate : Evaluator σ) (depth : Nat)
    (state : σ) (tree : Datum) : Except RenderError Preview := do
  let text ← previewDocument (o.withMode xml) evaluate depth state (← rootOf tree)
  return ⟨text, text ++ ['\n']⟩

/-- Renders one element from its attributes and unevaluated children, flat and without a header. -/
def renderParts (o : Options) (evaluate : Evaluator σ) (depth : Nat) (state : σ) (tag : String)
    (attributes children : List Datum) : Except RenderError (List Char) :=
  let step : Step σ Unit := do
    checkTag o tag
    let values ← children.foldr (fun d rest => do
      match d.toItem with
      | .error e => Step.fail (.shape e)
      | .ok i =>
        let v ← resolve evaluate i
        return v :: (← rest)) (pure [])
    let attrs ← givenAttributes attributes
    writeElement o false (renderElement o false evaluate depth false) false tag attrs values
  let outcome := step (Session.start state)
  outcome.result.map fun _ => outcome.written

end ElementMarkup
