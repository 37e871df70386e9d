import ElementMarkup.Render.Element

/-!
# Renderers

A renderer is called again and again, and each call adds to what it has written. All calls share
one session: a value that one of them has found is known to those after it, and the evaluator is
left as it is when a call fails.
-/

set_option autoImplicit false

namespace ElementMarkup

structure Renderer (σ : Type) where
  options : Options
  /-- Whether lines are broken. -/
  broken : Bool
  evaluate : Evaluator σ
  /-- How deep elements may be nested. -/
  depth : Nat

inductive Call where
  | render (e : Element) (root : Bool)
  /-- Writes an element whose parts are given. Its tag is not checked. -/
  | write (tag : String) (attributes : List Datum) (children : List Value) (root : Bool)
  | check (tag : String)
  | resolve (i : Item)

namespace Renderer

variable {σ : Type}

def render (r : Renderer σ) (root : Bool) (e : Element) : Step σ Unit :=
  renderElement r.options r.broken r.evaluate r.depth root e

def call (r : Renderer σ) : Call → Step σ Unit
  | .render e root => r.render root e
  | .write tag attributes children root => do
    let attrs ← givenAttributes attributes
    writeElement r.options r.broken (r.render false) root tag attrs children
  | .check tag => checkTag r.options tag
  | .resolve i => do
    let _ ← resolve r.evaluate i
    return ()

def after (r : Renderer σ) (s : Session σ) (calls : List Call) : Session σ :=
  calls.foldl (fun s c => (r.call c s).session) s

end Renderer

end ElementMarkup
