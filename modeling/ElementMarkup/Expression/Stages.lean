import ElementMarkup.Expression.Evaluate

/-!
# Evaluation in stages

A source is made ready before it is evaluated. What is ready is kept, also when the evaluation
fails: the source is then evaluated again the next time, but not made ready again.
-/

set_option autoImplicit false

namespace ElementMarkup

/-- The stages of an evaluator. Both may fail, and both may change the state, failing or not. -/
structure Stages (σ τ : Type) where
  compile : String → σ → Except Expression.Failure τ × σ
  run : String → τ → σ → Except Expression.Failure Datum × σ

structure Prepared (σ τ : Type) where
  state : σ
  ready : List (String × τ)

namespace Stages

variable {σ τ : Type}

def prepare (p : Stages σ τ) (source : String) (w : Prepared σ τ) :
    Except Expression.Failure τ × Prepared σ τ :=
  match w.ready.lookup source with
  | some t => (.ok t, w)
  | none =>
    match p.compile source w.state with
    | (.error f, state) => (.error f, ⟨state, w.ready⟩)
    | (.ok t, state) => (.ok t, ⟨state, (source, t) :: w.ready⟩)

def evaluate (p : Stages σ τ) : Evaluator (Prepared σ τ) := fun source w =>
  match p.prepare source w with
  | (.error f, w) => (.error f, w)
  | (.ok t, w) =>
    let (result, state) := p.run source t w.state
    (result, ⟨state, w.ready⟩)

end Stages

namespace Expression

/-- A library for expressions. Making a source ready and evaluating what is ready may change the
state, which may hold more than values. -/
structure Library (σ τ : Type) where
  compile : String → σ → Except Raised τ × σ
  run : τ → σ → Except Raised Result × σ

/-- The stages of an evaluator on a library: what the library raises is caught or not. -/
def Library.stages {σ τ : Type} (l : Library σ τ) : Stages σ τ where
  compile source state :=
    let (result, state) := l.compile source state
    (result.mapError Raised.whileCompiling, state)
  run _ t state :=
    let (result, state) := l.run t state
    (caught result, state)

def library : Library Scope Term where
  compile source scope := (ready source, scope)
  run := Term.run

def stages : Stages Scope Term := library.stages

end Expression

end ElementMarkup
