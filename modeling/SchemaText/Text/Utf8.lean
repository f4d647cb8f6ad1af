/-! Text read from bytes in UTF-8. -/

namespace SchemaText.Text.Utf8

inductive Reason where
  | invalidStart
  | invalidContinuation
  | unexpectedEnd
  deriving Repr, DecidableEq

/-- The first bytes that are no text: where they start, how many they are, and the first one. -/
structure Fault where
  start : Nat
  length : Nat
  byte : UInt8
  reason : Reason
  deriving Repr, DecidableEq

/-- A character of which some bytes are read: the value so far, how many bytes are missing, and the
bounds of the next one. -/
structure Pending where
  start : Nat
  lead : UInt8
  value : Nat
  missing : Nat
  low : UInt8
  high : UInt8
  deriving Repr, DecidableEq

def pending? (start : Nat) (b : UInt8) : Option Pending :=
  let n := b.toNat
  if 0xC2 ≤ n ∧ n ≤ 0xDF then some ⟨start, b, n - 0xC0, 1, 0x80, 0xBF⟩
  else if 0xE0 ≤ n ∧ n ≤ 0xEF then
    some ⟨start, b, n - 0xE0, 2, if n = 0xE0 then 0xA0 else 0x80, if n = 0xED then 0x9F else 0xBF⟩
  else if 0xF0 ≤ n ∧ n ≤ 0xF4 then
    some ⟨start, b, n - 0xF0, 3, if n = 0xF0 then 0x90 else 0x80, if n = 0xF4 then 0x8F else 0xBF⟩
  else none

def Pending.add (p : Pending) (b : UInt8) : Pending :=
  { p with
    value := 64 * p.value + (b.toNat - 0x80), missing := p.missing - 1, low := 0x80, high := 0xBF }

def Pending.fault (p : Pending) (offset : Nat) (reason : Reason) : Fault :=
  ⟨p.start, offset - p.start, p.lead, reason⟩

def decodeFrom : Nat → Option Pending → List UInt8 → Except Fault (List Char)
  | _, none, [] => .ok []
  | offset, some p, [] => .error (p.fault offset .unexpectedEnd)
  | offset, none, b :: rest =>
    if b < 0x80 then return Char.ofNat b.toNat :: (← decodeFrom (offset + 1) none rest)
    else
      match pending? offset b with
      | some p => decodeFrom (offset + 1) (some p) rest
      | none => .error ⟨offset, 1, b, .invalidStart⟩
  | offset, some p, b :: rest =>
    if p.low ≤ b ∧ b ≤ p.high then
      if p.missing = 1 then
        return Char.ofNat (p.add b).value :: (← decodeFrom (offset + 1) none rest)
      else decodeFrom (offset + 1) (some (p.add b)) rest
    else .error (p.fault offset .invalidContinuation)

def decode (bytes : List UInt8) : Except Fault (List Char) :=
  decodeFrom 0 none bytes

def Reason.message : Reason → String
  | invalidStart => "invalid start byte"
  | invalidContinuation => "invalid continuation byte"
  | unexpectedEnd => "unexpected end of data"

def hex (b : UInt8) : String :=
  let digits := Nat.toDigits 16 b.toNat
  "0x" ++ String.ofList (List.replicate (2 - digits.length) '0' ++ digits)

def Fault.message (f : Fault) : String :=
  let place :=
    if f.length = 1 then "byte " ++ hex f.byte ++ " in position " ++ toString f.start
    else "bytes in position " ++ toString f.start ++ "-" ++ toString (f.start + f.length - 1)
  "'utf-8' codec can't decode " ++ place ++ ": " ++ f.reason.message

end SchemaText.Text.Utf8
