import Disasm.Text.Utf8

namespace Disasm.Text

inductive Control where
  /-- Outside any sequence. -/
  | ground
  | escape
  | escapeIntermediate
  /-- Past `ESC [`: the sequence ends at the first letter. -/
  | parameters
  /-- Past `ESC P`, in front of the data for a device. -/
  | deviceEntry
  | deviceParameters
  | deviceIntermediate
  /-- In data that another sequence ends, or the eight bit terminator. -/
  | data
  /-- Past `ESC ]`: in data that the bell ends, too. -/
  | command
  deriving DecidableEq, Repr

namespace Control

/-- The state behind a byte. Two bytes cancel a sequence wherever it stands, and an escape starts
another one. -/
def next (m : Control) (byte : UInt8) : Control :=
  let b := byte.toNat
  if b = 0x18 ∨ b = 0x1A then .ground
  else if b = 0x1B then .escape
  else match m with
    | .ground => .ground
    | .escape =>
      if b < 0x20 ∨ 0x7F ≤ b then .escape
      else if b < 0x30 then .escapeIntermediate
      else if b = 0x5B then .parameters
      else if b = 0x5D then .command
      else if b = 0x50 then .deviceEntry
      else if b = 0x58 ∨ b = 0x5E ∨ b = 0x5F then .data
      else .ground
    | .escapeIntermediate => if 0x30 ≤ b ∧ b < 0x7F then .ground else m
    | .parameters => if 0x40 ≤ b ∧ b < 0x7F then .ground else m
    | .deviceEntry =>
      if b < 0x20 ∨ 0x7F ≤ b then m
      else if b < 0x30 then .deviceIntermediate
      else if b < 0x40 then .deviceParameters
      else .data
    | .deviceParameters =>
      if b < 0x20 ∨ 0x7F ≤ b then m
      else if b < 0x30 then .deviceIntermediate
      else if b < 0x3C then m
      else .data
    | .deviceIntermediate => if 0x30 ≤ b ∧ b < 0x7F then .data else m
    | .data => if b = 0x9C then .ground else m
    | .command => if b = 0x07 then .ground else m

/-- Whether white space shows in a state, although a sequence may not be complete. -/
def showsBlank : Control → Bool
  | .ground | .escape | .escapeIntermediate | .parameters => true
  | _ => false

/-- Tab, line feed, form feed and carriage return. -/
def isBreak (byte : UInt8) : Bool :=
  byte = 0x09 || byte = 0x0A || byte = 0x0C || byte = 0x0D

/-- Whether a byte is inside a character of several bytes. -/
def isContinuation (byte : UInt8) : Bool :=
  0x80 ≤ byte && byte < 0xC0

def shows (m : Control) (byte : UInt8) : Bool :=
  (m = .ground && ((0x20 ≤ byte && byte < 0x7F) || 0xC0 ≤ byte)) || (m.showsBlank && isBreak byte)

/-- The bytes of a text that show. What shows ends a sequence. -/
def keep (m : Control) : List UInt8 → List UInt8
  | [] => []
  | b :: rest =>
    if m.shows b || isContinuation b then b :: keep .ground rest else keep (m.next b) rest

/-- The bytes that a filtered stream lets through. `shown` tells whether the last one was let
through; a break in the middle of a sequence does not end it. -/
def pass (m : Control) (shown : Bool) : List UInt8 → List UInt8
  | [] => []
  | b :: rest =>
    if shown && (Control.ground.shows b || isContinuation b) then
      b :: pass (if 0x80 ≤ b then .ground else m) true rest
    else if !shown && m.shows b then b :: pass (m.next b) true rest
    else pass (m.next b) false rest

end Control

def visible (s : String) : String :=
  Utf8.decode (Control.keep .ground (Utf8.encode s))

/-- What is written of a text by a stream that filters out control sequences. -/
def filtered (s : String) : String :=
  Utf8.decode (Control.pass .ground false (Utf8.encode s))

end Disasm.Text
