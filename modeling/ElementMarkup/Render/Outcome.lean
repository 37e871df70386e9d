import ElementMarkup.Expression.Fault

/-!
# Rendering steps

A rendering step starts from a session, the expressions evaluated so far together with the state
of the evaluator, and ends with the text it wrote, a new session, and a result or an error. Text
written before an error is kept, and so is the session.
-/

set_option autoImplicit false

namespace ElementMarkup

/-- Evaluates the source of an expression. The state is carried on after a failure, too. -/
abbrev Evaluator (σ : Type) := String → σ → Except Expression.Failure Datum × σ

inductive RenderError where
  | invalidTag (tag : String)
  | voidElement (tag : String)
  | evaluation (source : String) (failure : Expression.Failure)
  | malformedAttributes (length : Nat) (last : String)
  | shape (error : ShapeError)
  | tooManyDigits
  /-- The elements are nested more deeply than the renderer goes. -/
  | tooDeep
  deriving DecidableEq

def RenderError.message : RenderError → String
  | .invalidTag tag => "invalid tag: " ++ Text.quoted tag
  | .voidElement tag => "<" ++ tag ++ "> is an empty element and cannot have children"
  | .evaluation source failure => failure.message source
  | .malformedAttributes length last =>
    "attribute list has odd length " ++ toString length ++ ": " ++ last ++ " has no value slot"
  | .shape e => e.message
  | .tooManyDigits => tooManyDigitsMessage
  | .tooDeep => "maximum recursion depth exceeded"

/-- The state of an evaluator and the values of the expressions that have been evaluated. -/
structure Session (σ : Type) where
  state : σ
  known : List (String × Value)

def Session.start {σ : Type} (state : σ) : Session σ := ⟨state, []⟩

structure Outcome (σ α : Type) where
  written : List Char
  session : Session σ
  result : Except RenderError α

def Step (σ α : Type) := Session σ → Outcome σ α

namespace Step

variable {σ α β : Type}

protected def pure (a : α) : Step σ α := fun s => ⟨[], s, .ok a⟩

def fail (e : RenderError) : Step σ α := fun s => ⟨[], s, .error e⟩

def write (text : List Char) : Step σ Unit := fun s => ⟨text, s, .ok ()⟩

protected def bind (m : Step σ α) (f : α → Step σ β) : Step σ β := fun s =>
  match m s with
  | ⟨text, s', .error e⟩ => ⟨text, s', .error e⟩
  | ⟨text, s', .ok a⟩ =>
    let next := f a s'
    ⟨text ++ next.written, next.session, next.result⟩

instance : Monad (Step σ) where
  pure := Step.pure
  bind := Step.bind

/-- A text that an integer with too many digits may have made impossible. -/
def ofText? (t : Option String) : Step σ (List Char) :=
  match t with
  | some t => Step.pure t.toList
  | none => fail .tooManyDigits

end Step

/-- The value of an item. An expression is evaluated unless its value is known; a failure leaves
the known values as they are. -/
def resolve {σ : Type} (evaluate : Evaluator σ) (i : Item) : Step σ Value := fun s =>
  match i with
  | .text t => ⟨[], s, .ok (.text t)⟩
  | .number n => ⟨[], s, .ok (.number n)⟩
  | .word w => ⟨[], s, .ok (.word w)⟩
  | .element tag args => ⟨[], s, .ok (.element ⟨tag, args⟩)⟩
  | .expression source =>
    match s.known.lookup source with
    | some v => ⟨[], s, .ok v⟩
    | none =>
      match evaluate source s.state with
      | (.error f, state) => ⟨[], ⟨state, s.known⟩, .error (.evaluation source f)⟩
      | (.ok d, state) =>
        match d.toValue with
        | .ok v => ⟨[], ⟨state, (source, v) :: s.known⟩, .ok v⟩
        | .error .tooManyDigits => ⟨[], ⟨state, s.known⟩, .error .tooManyDigits⟩
        | .error e => ⟨[], ⟨state, s.known⟩, .error (.evaluation source (.shape e))⟩

end ElementMarkup
