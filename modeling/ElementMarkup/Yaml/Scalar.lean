import ElementMarkup.Number.Literal
import ElementMarkup.Text.Quoted
import ElementMarkup.Tree.Datum
import ElementMarkup.Yaml.Timestamp

/-!
# The values of scalars

A plain scalar without a tag is resolved by its form: truth values, integers in several bases,
doubles, nothing, and points in time are recognized, and anything else is a text. A scalar with a
tag is read as the tag says, and may fail to be of that kind.
-/

set_option autoImplicit false

namespace ElementMarkup.Yaml

/-- What a tag says about a node. -/
inductive Tag where
  | null
  | bool
  | int
  | float
  | timestamp
  | text
  | sequence
  | mapping
  /-- The mark of a mapping that is merged in. -/
  | merge
  /-- The mark of the value of a mapping. -/
  | valueMark
  | unknown
  deriving DecidableEq

def Tag.ofName (name : String) : Tag :=
  match name with
  | "tag:yaml.org,2002:null" => .null
  | "tag:yaml.org,2002:bool" => .bool
  | "tag:yaml.org,2002:int" => .int
  | "tag:yaml.org,2002:float" => .float
  | "tag:yaml.org,2002:timestamp" => .timestamp
  | "tag:yaml.org,2002:str" => .text
  | "tag:yaml.org,2002:seq" => .sequence
  | "tag:yaml.org,2002:map" => .mapping
  | "tag:yaml.org,2002:merge" => .merge
  | "tag:yaml.org,2002:value" => .valueMark
  | _ => .unknown

/-- Why a scalar has no value. -/
inductive ScalarFault where
  | noInteger (base : Nat) (text : String)
  | tooManyDigits (digits : Nat)
  | noDouble (text : String)
  | emptyNumber
  | noTruth (text : String)
  | noTimestamp
  | timestamp (fault : TimestampFault)
  /-- Another error that is none of a YAML text. -/
  | foreign (kind message : String)

def ScalarFault.kind : ScalarFault → String
  | .noInteger _ _ | .tooManyDigits _ | .noDouble _ | .timestamp _ => "ValueError"
  | .emptyNumber => "IndexError"
  | .noTruth _ => "KeyError"
  | .noTimestamp => "AttributeError"
  | .foreign kind _ => kind

def ScalarFault.message : ScalarFault → String
  | .noInteger base text =>
    "invalid literal for int() with base " ++ toString base ++ ": " ++ Text.quoted text
  | .tooManyDigits digits =>
    "Exceeds the limit (4300 digits) for integer string conversion: value has " ++
      toString digits ++ " digits; use sys.set_int_max_str_digits() to increase the limit"
  | .noDouble text => "could not convert string to float: " ++ Text.quoted text
  | .emptyNumber => "string index out of range"
  | .noTruth text => Text.quoted text
  | .noTimestamp => "'NoneType' object has no attribute 'groupdict'"
  | .timestamp f => f.message
  | .foreign _ message => message

def trueWords : List String := ["yes", "true", "on"]

def falseWords : List String := ["no", "false", "off"]

def isSpelling (word s : String) : Bool :=
  s == word || s == word.capitalize || s == word.toUpper

def isBoolForm (s : String) : Bool :=
  trueWords.any (isSpelling · s) || falseWords.any (isSpelling · s)

def isNullForm (s : String) : Bool := s == "" || s == "~" || isSpelling "null" s

def isOneOf (chars : String) (x : Char) : Bool := chars.toList.contains x

def dropSign : List Char → List Char
  | x :: cs => if x == '-' || x == '+' then cs else x :: cs
  | [] => []

def areSexagesimal (parts : List (List Char)) : Bool :=
  parts.all fun part =>
    match part with
    | [a] => isOneOf "0123456789" a
    | [a, b] => isOneOf "012345" a && isOneOf "0123456789" b
    | _ => false

def isDigitForm (x : Char) : Bool := isOneOf "0123456789_" x

def splitColons (part : List Char) : List Char → List (List Char)
  | [] => [part.reverse]
  | x :: cs => if x == ':' then part.reverse :: splitColons [] cs else splitColons (x :: part) cs

def isIntForm (s : String) : Bool :=
  match dropSign s.toList with
  | [] => false
  | ['0'] => true
  | '0' :: 'b' :: cs => !cs.isEmpty && cs.all (isOneOf "01_")
  | '0' :: 'x' :: cs => !cs.isEmpty && cs.all (isOneOf "0123456789abcdefABCDEF_")
  | '0' :: cs => cs.all (isOneOf "01234567_")
  | x :: cs =>
    isOneOf "123456789" x &&
      match splitColons [] (x :: cs) with
      | first :: rest => first.all isDigitForm && areSexagesimal rest
      | [] => false

def isExponentForm : List Char → Bool
  | [] => true
  | e :: sign :: digits =>
    isOneOf "eE" e && isOneOf "-+" sign && !digits.isEmpty && digits.all (isOneOf "0123456789")
  | _ => false

def isFloatForm (s : String) : Bool :=
  let unsigned := dropSign s.toList
  let starts (cs : List Char) : Bool := cs.head?.any (isOneOf "0123456789")
  let (before, behind) := unsigned.span (· ≠ '.')
  match behind with
  | [] => false
  | _ :: fraction =>
    let exponent := fraction.dropWhile isDigitForm
    if before.isEmpty then
      ["inf", "Inf", "INF"].contains (String.ofList fraction) ||
        (s.startsWith "." && (["nan", "NaN", "NAN"].contains (String.ofList fraction) ||
          (starts fraction && isExponentForm exponent)))
    else
      match splitColons [] before with
      | [digits] => starts digits && digits.all isDigitForm && isExponentForm exponent
      | first :: rest =>
        starts first && first.all isDigitForm && areSexagesimal rest && exponent.isEmpty
      | [] => false

def Tag.ofPlain (s : String) : Tag :=
  if isBoolForm s then .bool
  else if isFloatForm s then .float
  else if isIntForm s then .int
  else if s == "<<" then .merge
  else if isNullForm s then .null
  else if isTimestampForm s.toList then .timestamp
  else if s == "=" then .valueMark
  else .text

def withoutUnderscores (s : String) : List Char := s.toList.filter (· ≠ '_')

def readBased (base : Nat) (cs : List Char) : Except ScalarFault Int :=
  match readInt? base (String.ofList cs) with
  | some i => .ok i
  | none =>
    if base = 10 && digitLimit < cs.length && (dropSign cs).all Text.isDigit then
      .error (.tooManyDigits (dropSign cs).length)
    else .error (.noInteger base (String.ofList cs))

/-- The sum of parts in steps of sixty. -/
def inSixties (parts : List Int) : Int := parts.foldl (fun n part => 60 * n + part) 0

def readInteger (s : String) : Except ScalarFault Int := do
  let cs := withoutUnderscores s
  let apply (i : Int) : Int := if cs.head? = some '-' then -i else i
  if cs.isEmpty then throw .emptyNumber
  match dropSign cs with
  | [] => throw .emptyNumber
  | ['0'] => return 0
  | '0' :: 'b' :: digits => return apply (← readBased 2 digits)
  | '0' :: 'x' :: digits => return apply (← readBased 16 digits)
  | '0' :: digits => return apply (← readBased 8 ('0' :: digits))
  | digits =>
    if digits.contains ':' then
      return apply (inSixties (← (splitColons [] digits).mapM (readBased 10)))
    else return apply (← readBased 10 digits)

def readReal (cs : List Char) : Except ScalarFault Float :=
  match readFloat? (String.ofList cs) with
  | some f => .ok f
  | none => .error (.noDouble (String.ofList cs))

def realInSixties (parts : List Float) : Float :=
  (parts.reverse.foldl (fun (sum, base) part => (sum + part * Float.ofNat base, 60 * base))
    ((0.0 : Float), (1 : Nat))).1

def readDoubleForm (s : String) : Except ScalarFault Float := do
  let cs := (withoutUnderscores s).map Char.toLower
  let apply (f : Float) : Float := if cs.head? = some '-' then -f else f
  if cs.isEmpty then throw .emptyNumber
  let digits := dropSign cs
  match String.ofList digits with
  | ".inf" => return apply infinity
  | ".nan" => return notANumber
  | _ =>
    if digits.contains ':' then
      return apply (realInSixties (← (splitColons [] digits).mapM readReal))
    else return apply (← readReal digits)

def readTruthWord (s : String) : Except ScalarFault Bool :=
  let word := s.toLower
  if trueWords.contains word then .ok true
  else if falseWords.contains word then .ok false
  else .error (.noTruth word)

def Tag.read? (tag : Tag) (s : String) : Option (Except ScalarFault Datum) :=
  match tag with
  | .null => some (.ok .null)
  | .bool => some ((readTruthWord s).map Datum.bool)
  | .int => some ((readInteger s).map fun i => .number (.int i))
  | .float => some ((readDoubleForm s).map fun f => .number (.float f))
  | .text => some (.ok (.text s))
  | .timestamp =>
    match readTimestamp? s.toList with
    | none => some (.error .noTimestamp)
    | some t =>
      match t.fault? with
      | some f => some (.error (.timestamp f))
      | none => some (.ok t.toDatum)
  | _ => none

end ElementMarkup.Yaml
