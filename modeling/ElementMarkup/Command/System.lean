import ElementMarkup.Expression.Stages
import ElementMarkup.File.Load
import ElementMarkup.Render.Document

/-!
# What commands are built on

A command rests on a library for documents and on a library for expressions. An expression may reach
what a command has done so far: the texts that were printed and the disk.
-/

set_option autoImplicit false

namespace ElementMarkup.Command

structure Progress where
  output : String
  log : String
  disk : Disk

structure System (δ ρ τ : Type) where
  documents : Documents δ
  expressions : Expression.Library (Progress × ρ) τ
  /-- The scope of a context, which is a mapping. -/
  scope : Loaded δ → ρ
  /-- How deep a tree may be nested where it is given the shape of an element. -/
  shapeDepth : Nat
  /-- How deep elements may be nested where they are rendered. -/
  renderDepth : Nat

/-- The terms of the expression language, evaluated on the disk of a command. -/
def expressions : Expression.Library (Progress × Expression.Scope) Expression.Term where
  compile source w := (Expression.ready source, w)
  run t w :=
    let (result, scope) := t.run { w.2 with store := { w.2.store with disk := w.1.disk } }
    (result, { w.1 with disk := scope.store.disk }, scope)

def standardSystem : System Datum Expression.Scope Expression.Term where
  documents := Datum.documents
  expressions := expressions
  scope context := Expression.Scope.ofContext context.toDatum.entries
  shapeDepth := depthLimit
  renderDepth := depthLimit

end ElementMarkup.Command
