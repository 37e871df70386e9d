import ElementMarkup.Tree.Datum

/-!
# Points in time

A date, or a date with a time of day and an offset from universal time. Fractions of a second are
cut to six digits.
-/

set_option autoImplicit false

namespace ElementMarkup.Yaml

structure TimeOfDay where
  hour : Nat
  minute : Nat
  second : Nat
  microsecond : Nat
  /-- The offset from universal time in minutes, if one is given. -/
  offset : Option Int

structure Timestamp where
  year : Nat
  month : Nat
  day : Nat
  time : Option TimeOfDay

inductive TimestampFault where
  | year (year : Nat)
  | month
  | day
  | hour
  | minute
  | second
  | offset (shown : String)

def TimestampFault.message : TimestampFault → String
  | .year n => "year " ++ toString n ++ " is out of range"
  | .month => "month must be in 1..12"
  | .day => "day is out of range for month"
  | .hour => "hour must be in 0..23"
  | .minute => "minute must be in 0..59"
  | .second => "second must be in 0..59"
  | .offset shown =>
    "offset must be a timedelta strictly between -timedelta(hours=24) and " ++
      "timedelta(hours=24), not " ++ shown

def isAsciiDigit (x : Char) : Bool := '0' ≤ x && x ≤ '9'

def numberOf (cs : List Char) : Nat := cs.foldl (fun n d => 10 * n + (d.toNat - '0'.toNat)) 0

def digits? (least most : Nat) (cs : List Char) : Option (Nat × List Char) :=
  let taken := (cs.take most).takeWhile isAsciiDigit
  if taken.length < least then none else some (numberOf taken, cs.drop taken.length)

def mark? (x : Char) : List Char → Option (List Char)
  | y :: cs => if x == y then some cs else none
  | [] => none

def microseconds (digits : List Char) : Nat :=
  let six := digits.take 6
  numberOf six * Nat.pow 10 (6 - six.length)

def offset? (cs : List Char) : Option (Option Int) :=
  match cs.dropWhile fun x => x == ' ' || x == '\t' with
  | [] => if cs.isEmpty then some none else none
  | ['Z'] => some (some 0)
  | sign :: rest =>
    if sign == '+' || sign == '-' then do
      let (hours, rest) ← digits? 1 2 rest
      let minutes ←
        match rest with
        | [] => some 0
        | rest => do
          let (n, rest) ← digits? 2 2 (← mark? ':' rest)
          if rest.isEmpty then some n else none
      let total : Int := 60 * hours + minutes
      some (some (if sign == '-' then -total else total))
    else none

def timeOfDay? (cs : List Char) : Option TimeOfDay := do
  let cs ←
    match cs with
    | 'T' :: rest | 't' :: rest => some rest
    | x :: _ =>
      if x == ' ' || x == '\t' then some (cs.dropWhile fun x => x == ' ' || x == '\t') else none
    | [] => none
  let (hour, cs) ← digits? 1 2 cs
  let (minute, cs) ← digits? 2 2 (← mark? ':' cs)
  let (second, cs) ← digits? 2 2 (← mark? ':' cs)
  let (fraction, cs) :=
    match cs with
    | '.' :: rest => (rest.takeWhile isAsciiDigit, rest.dropWhile isAsciiDigit)
    | cs => ([], cs)
  let offset ← offset? cs
  return ⟨hour, minute, second, microseconds fraction, offset⟩

def readTimestamp? (cs : List Char) : Option Timestamp := do
  let (year, cs) ← digits? 4 4 cs
  let (month, cs) ← digits? 1 2 (← mark? '-' cs)
  let (day, cs) ← digits? 1 2 (← mark? '-' cs)
  if cs.isEmpty then return ⟨year, month, day, none⟩
  else return ⟨year, month, day, some (← timeOfDay? cs)⟩

/-- Whether a plain scalar is a point in time; a date alone has two digits for month and day. -/
def isTimestampForm (cs : List Char) : Bool :=
  match readTimestamp? cs with
  | some t => t.time.isSome || cs.length == 10
  | none => false

def isLeapYear (year : Nat) : Bool :=
  year % 4 == 0 && (year % 100 != 0 || year % 400 == 0)

def daysIn (year month : Nat) : Nat :=
  if month = 2 then (if isLeapYear year then 29 else 28)
  else if [4, 6, 9, 11].contains month then 30
  else 31

def spanText (minutes : Int) : String :=
  let days := minutes.fdiv 1440
  let seconds := 60 * (minutes - 1440 * days)
  let parts :=
    (if days = 0 then [] else ["days=" ++ toString days]) ++
      (if seconds = 0 then [] else ["seconds=" ++ toString seconds])
  "datetime.timedelta(" ++ (if parts.isEmpty then "0" else ", ".intercalate parts) ++ ")"

/-- The first part of a point in time that is out of range. -/
def Timestamp.fault? (t : Timestamp) : Option TimestampFault :=
  let date : Option TimestampFault :=
    if t.year = 0 then some (.year t.year)
    else if t.month = 0 ∨ 12 < t.month then some .month
    else if t.day = 0 ∨ daysIn t.year t.month < t.day then some .day
    else none
  match t.time with
  | none => date
  | some time =>
    match time.offset with
    | some o =>
      if 1440 ≤ o.natAbs then some (.offset (spanText o))
      else date.or (timeFault? time)
    | none => date.or (timeFault? time)
where
  timeFault? (time : TimeOfDay) : Option TimestampFault :=
    if 23 < time.hour then some .hour
    else if 59 < time.minute then some .minute
    else if 59 < time.second then some .second
    else none

def paddedTo (width n : Nat) : String :=
  let digits := Nat.toDigits 10 n
  String.ofList (List.replicate (width - digits.length) '0' ++ digits)

def zoneText (offset : Int) : String :=
  if offset = 0 then "datetime.timezone.utc" else "datetime.timezone(" ++ spanText offset ++ ")"

def clockOffset (offset : Int) : String :=
  let n := offset.natAbs
  (if offset < 0 then "-" else "+") ++ paddedTo 2 (n / 60) ++ ":" ++ paddedTo 2 (n % 60)

/-- The literal form of a point in time; zero seconds are left out at the end. -/
def Timestamp.shown (t : Timestamp) : String :=
  let date := [t.year, t.month, t.day].map toString
  match t.time with
  | none => "datetime.date(" ++ ", ".intercalate date ++ ")"
  | some time =>
    let seconds :=
      if time.microsecond ≠ 0 then [time.second, time.microsecond]
      else if time.second ≠ 0 then [time.second]
      else []
    let zone := (time.offset.map fun o => "tzinfo=" ++ zoneText o).toList
    "datetime.datetime(" ++ ", ".intercalate
      (date ++ ([time.hour, time.minute] ++ seconds).map toString ++ zone) ++ ")"

def Timestamp.plain (t : Timestamp) : String :=
  let date := paddedTo 4 t.year ++ "-" ++ paddedTo 2 t.month ++ "-" ++ paddedTo 2 t.day
  match t.time with
  | none => date
  | some time =>
    date ++ " " ++ paddedTo 2 time.hour ++ ":" ++ paddedTo 2 time.minute ++ ":" ++
      paddedTo 2 time.second ++
      (if time.microsecond = 0 then "" else "." ++ paddedTo 6 time.microsecond) ++
      (time.offset.map clockOffset).getD ""

def Timestamp.toDatum (t : Timestamp) : Datum :=
  .other (if t.time.isSome then "datetime" else "date") t.shown t.plain

end ElementMarkup.Yaml
