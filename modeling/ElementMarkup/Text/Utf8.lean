import ElementMarkup.Text.Quoted

/-!
# UTF-8

Bytes are decoded as UTF-8. The first byte that no well-formed sequence goes on with ends the
decoding; the bytes of the broken sequence are reported, with the place of the first of them.
-/

set_option autoImplicit false

namespace ElementMarkup.Text

inductive Utf8Fault where
  | invalidStart
  | invalidContinuation
  | unexpectedEnd
  deriving DecidableEq, Repr

structure Utf8Error where
  fault : Utf8Fault
  first : UInt8
  place : Nat
  /-- The number of bytes of the broken sequence. -/
  length : Nat
  deriving DecidableEq, Repr

def Utf8Fault.reason : Utf8Fault → String
  | .invalidStart => "invalid start byte"
  | .invalidContinuation => "invalid continuation byte"
  | .unexpectedEnd => "unexpected end of data"

def byteText (b : UInt8) : String := String.ofList (hexDigits 2 b.toNat)

def Utf8Error.message (e : Utf8Error) : String :=
  let what :=
    if e.length = 1 then "byte 0x" ++ byteText e.first ++ " in position " ++ toString e.place
    else "bytes in position " ++ toString e.place ++ "-" ++ toString (e.place + e.length - 1)
  "'utf-8' codec can't decode " ++ what ++ ": " ++ e.fault.reason

def continuations? (b : UInt8) : Option (List (UInt8 × UInt8)) :=
  let tail : UInt8 × UInt8 := (0x80, 0xBF)
  if b < 0x80 then some []
  else if b < 0xC2 then none
  else if b < 0xE0 then some [tail]
  else if b < 0xF0 then
    some [if b == 0xE0 then (0xA0, 0xBF) else if b == 0xED then (0x80, 0x9F) else tail, tail]
  else if b < 0xF5 then
    some [if b == 0xF0 then (0x90, 0xBF) else if b == 0xF4 then (0x80, 0x8F) else tail, tail, tail]
  else none

def decodeTail (n length : Nat) : List (UInt8 × UInt8) → List UInt8 →
    Except (Utf8Fault × Nat) (Nat × List UInt8)
  | [], bytes => .ok (n, bytes)
  | _ :: _, [] => .error (.unexpectedEnd, length)
  | (low, high) :: ranges, b :: bytes =>
    if low ≤ b ∧ b ≤ high then decodeTail (64 * n + (b.toNat - 0x80)) (length + 1) ranges bytes
    else .error (.invalidContinuation, length)

def leadBits (b : UInt8) : Nat :=
  if b < 0x80 then b.toNat
  else if b < 0xE0 then b.toNat - 0xC0
  else if b < 0xF0 then b.toNat - 0xE0
  else b.toNat - 0xF0

def decodeFrom (place : Nat) : Nat → List UInt8 → Except Utf8Error (List Char)
  | 0, _ | _ + 1, [] => .ok []
  | fuel + 1, b :: bytes =>
    match continuations? b with
    | none => .error ⟨.invalidStart, b, place, 1⟩
    | some ranges =>
      match decodeTail (leadBits b) 1 ranges bytes with
      | .error (fault, length) => .error ⟨fault, b, place, length⟩
      | .ok (n, rest) => (decodeFrom (place + 1 + ranges.length) fuel rest).map (Char.ofNat n :: ·)

def decodeUtf8 (bytes : List UInt8) : Except Utf8Error (List Char) :=
  decodeFrom 0 bytes.length bytes

end ElementMarkup.Text
