import ElementMarkup.File.Folder
import ElementMarkup.Tree.Shape

/-!
# Faults of expressions

What can go wrong while an expression is read or evaluated, one constructor per cause. A fault
has the name of its class and a message; faults of the expression language itself are reported
by their message alone, all others with the name of the class in front.
-/

set_option autoImplicit false

namespace ElementMarkup.Expression

inductive Fault where
  /-- An undefined value was used; the text says which. -/
  | undefined (message : String)
  | unknownFilter (name : String)
  | unknownTest (name : String)
  /-- An unknown filter or test of a branch that was taken. -/
  | missingDependency (role name : String)
  | badFilterArgument (message : String)
  | operands (operator left right : String)
  | concatenation (kind other : String)
  | repetition (kind : String)
  | unary (operator kind : String)
  | unordered (operator left right : String)
  | notIterable (kind : String)
  | notIterableArgument (kind : String)
  | notReversible (kind : String)
  | noLength (kind : String)
  | notCallable (kind : String)
  | notSubscriptable (kind : String)
  | unhashable (kind : String)
  | substringOperand (kind : String)
  | sliceIndex
  /-- A place in a sequence that is no integer. -/
  | placeIndex
  | sliceStepZero
  | notAnInteger (kind : String)
  | notReal (kind : String)
  | noRounding (kind : String)
  /-- A call with arguments that the function does not take. -/
  | arguments (message : String)
  | division (message : String)
  | zeroPower
  | tooLargeForFloat
  | quotientTooLarge
  | roundedTooLarge
  | numericRange
  | noCharacter
  | fromInfinity
  | fromNotANumber
  | indexSize
  /-- An integer beyond a kind of machine integer. -/
  | machineRange (kind : String)
  | tooManyDigits
  | readingTooManyDigits (digits : Nat)
  | absentKey (shown : String)
  | index (message : String)
  | value (message : String)
  | type (message : String)
  | unboundName (name : String)
  | attribute (kind name : String)
  | file (fault : FileFault) (name : String)
  | tooDeep
  /-- Another fault of the language. -/
  | language (kind message : String)
  /-- Another fault, not of the language. -/
  | foreign (kind message : String)
  deriving DecidableEq

def Fault.kind : Fault → String
  | .undefined _ => "UndefinedError"
  | .unknownFilter _ | .unknownTest _ => "TemplateAssertionError"
  | .missingDependency _ _ => "TemplateRuntimeError"
  | .badFilterArgument _ => "FilterArgumentError"
  | .operands _ _ _ | .concatenation _ _ | .repetition _ | .unary _ _ | .unordered _ _ _
  | .notIterable _ | .notIterableArgument _ | .notReversible _ | .noLength _ | .notCallable _
  | .notSubscriptable _ | .unhashable _ | .substringOperand _ | .sliceIndex | .placeIndex
  | .notAnInteger _ | .notReal _ | .noRounding _ | .arguments _ | .type _ => "TypeError"
  | .division _ | .zeroPower => "ZeroDivisionError"
  | .tooLargeForFloat | .quotientTooLarge | .roundedTooLarge | .numericRange | .noCharacter
  | .fromInfinity | .indexSize | .machineRange _ => "OverflowError"
  | .sliceStepZero | .fromNotANumber | .tooManyDigits | .readingTooManyDigits _ | .value _ =>
    "ValueError"
  | .absentKey _ => "KeyError"
  | .index _ => "IndexError"
  | .unboundName _ => "NameError"
  | .attribute _ _ => "AttributeError"
  | .file fault _ => fault.kind
  | .tooDeep => "RecursionError"
  | .language kind _ | .foreign kind _ => kind

def Fault.message : Fault → String
  | .undefined message => message
  | .unknownFilter name => "No filter named " ++ Text.quoted name ++ "."
  | .unknownTest name => "No test named " ++ Text.quoted name ++ "."
  | .missingDependency role name => "No " ++ role ++ " named " ++ Text.quoted name ++ " found."
  | .badFilterArgument message => message
  | .operands operator left right =>
    "unsupported operand type(s) for " ++ operator ++ ": '" ++ left ++ "' and '" ++ right ++ "'"
  | .concatenation kind other =>
    "can only concatenate " ++ kind ++ " (not \"" ++ other ++ "\") to " ++ kind
  | .repetition kind => "can't multiply sequence by non-int of type '" ++ kind ++ "'"
  | .unary operator kind => "bad operand type for " ++ operator ++ ": '" ++ kind ++ "'"
  | .unordered operator left right =>
    "'" ++ operator ++ "' not supported between instances of '" ++ left ++ "' and '" ++ right ++ "'"
  | .notIterable kind => "'" ++ kind ++ "' object is not iterable"
  | .notIterableArgument kind => "argument of type '" ++ kind ++ "' is not iterable"
  | .notReversible kind => "'" ++ kind ++ "' object is not reversible"
  | .noLength kind => "object of type '" ++ kind ++ "' has no len()"
  | .notCallable kind => "'" ++ kind ++ "' object is not callable"
  | .notSubscriptable kind => "'" ++ kind ++ "' object is not subscriptable"
  | .unhashable kind => "unhashable type: '" ++ kind ++ "'"
  | .substringOperand kind => "'in <string>' requires string as left operand, not " ++ kind
  | .sliceIndex => "slice indices must be integers or None or have an __index__ method"
  | .placeIndex => "slice indices must be integers or have an __index__ method"
  | .sliceStepZero => "slice step cannot be zero"
  | .notAnInteger kind => "'" ++ kind ++ "' object cannot be interpreted as an integer"
  | .notReal kind => "must be real number, not " ++ kind
  | .noRounding kind => "type " ++ kind ++ " doesn't define __round__ method"
  | .arguments message => message
  | .division message => message
  | .zeroPower => "0.0 cannot be raised to a negative power"
  | .tooLargeForFloat => "int too large to convert to float"
  | .quotientTooLarge => "integer division result too large for a float"
  | .roundedTooLarge => "rounded value too large to represent"
  | .numericRange => "(34, 'Numerical result out of range')"
  | .noCharacter => "%c arg not in range(0x110000)"
  | .fromInfinity => "cannot convert float infinity to integer"
  | .fromNotANumber => "cannot convert float NaN to integer"
  | .indexSize => "cannot fit 'int' into an index-sized integer"
  | .machineRange kind => "Python int too large to convert to C " ++ kind
  | .tooManyDigits => tooManyDigitsMessage
  | .readingTooManyDigits digits =>
    "Exceeds the limit (4300 digits) for integer string conversion: value has " ++
      toString digits ++ " digits; use sys.set_int_max_str_digits() to increase the limit"
  | .absentKey shown => shown
  | .index message => message
  | .value message => message
  | .type message => message
  | .unboundName n => "name " ++ Text.quoted n ++ " is not defined"
  | .attribute kind name => "'" ++ kind ++ "' object has no attribute " ++ Text.quoted name
  | .file fault name => fault.text ++ ": " ++ Text.quoted name
  | .tooDeep => "maximum recursion depth exceeded"
  | .language _ message | .foreign _ message => message

/-- Faults of the expression language itself are reported without the name of their class. -/
def Fault.ofLanguage : Fault → Bool
  | .undefined _ | .unknownFilter _ | .unknownTest _ | .missingDependency _ _
  | .badFilterArgument _ | .language _ _ => true
  | _ => false

inductive Failure where
  /-- The source is no expression. -/
  | malformed
  | fault (fault : Fault)
  /-- The whole expression is an undefined value of that name. -/
  | undefinedResult (shownName : String)
  /-- The result has no place in a tree. -/
  | shape (error : ShapeError)
  /-- A fault that is passed on as it is. -/
  | unguarded (fault : Fault)
  deriving DecidableEq

inductive Raised where
  /-- The source is no expression. -/
  | malformed
  | fault (fault : Fault)
  /-- The program is left, for what is no fault. -/
  | exit (fault : Fault)

/-- Of what making a source ready raises, only faults of the language are caught. -/
def Raised.whileCompiling : Raised → Failure
  | .malformed => .malformed
  | .fault e => if e.ofLanguage then .fault e else .unguarded e
  | .exit e => .unguarded e

/-- Of what evaluating a source raises, every fault is caught. -/
def Raised.whileRunning : Raised → Failure
  | .malformed => .malformed
  | .fault e => .fault e
  | .exit e => .unguarded e

inductive Result where
  | datum (d : Datum)
  /-- An undefined value of a name; none if the name holds an integer with too many digits. -/
  | undefined (shownName : Option String)
  /-- A value that a shape cannot be looked for in, such as one that holds itself. -/
  | shapeless (fault : Fault)

def Result.datum? : Result → Except Failure Datum
  | .datum d => .ok d
  | .undefined (some name) => .error (.undefinedResult name)
  | .undefined none => .error (.unguarded .tooManyDigits)
  | .shapeless e => .error (.unguarded e)

def Failure.message (source : String) (f : Failure) : String :=
  let reason :=
    match f with
    | .malformed => ""
    | .fault e => if e.ofLanguage then e.message else e.kind ++ ": " ++ e.message
    | .undefinedResult shownName => shownName ++ " is undefined"
    | .shape e => e.message
    | .unguarded e => e.message
  match f with
  | .unguarded e => e.message
  | _ => "cannot evaluate \x7b\x7b " ++ source ++ " \x7d\x7d: " ++ reason

end ElementMarkup.Expression
