namespace Disasm.Text

/-- What stands for bytes that are no character. -/
def replacement : Char := '\uFFFD'

/-- A character of which some bytes are still owed: the bits read so far, the number of bytes to
come, and the range that the next one must lie in. -/
structure Unfinished where
  bits : Nat
  owed : Nat
  low : Nat := 0x80
  high : Nat := 0xBF

namespace Utf8

/-- The reader between two bytes: the unfinished character, if there is one, and the characters
read, last first. -/
structure Reader where
  unfinished : Option Unfinished := none
  read : List Char := []

/-- Reads a byte that starts a character. The ranges of the second byte keep out overlong forms,
surrogates and values above U+10FFFF. -/
def start (read : List Char) (b : Nat) : Reader :=
  if b < 0x80 then ⟨none, Char.ofNat b :: read⟩
  else if 0xC2 ≤ b ∧ b ≤ 0xDF then ⟨some ⟨b - 0xC0, 1, 0x80, 0xBF⟩, read⟩
  else if b = 0xE0 then ⟨some ⟨0, 2, 0xA0, 0xBF⟩, read⟩
  else if b = 0xED then ⟨some ⟨0xD, 2, 0x80, 0x9F⟩, read⟩
  else if 0xE1 ≤ b ∧ b ≤ 0xEF then ⟨some ⟨b - 0xE0, 2, 0x80, 0xBF⟩, read⟩
  else if b = 0xF0 then ⟨some ⟨0, 3, 0x90, 0xBF⟩, read⟩
  else if 0xF1 ≤ b ∧ b ≤ 0xF3 then ⟨some ⟨b - 0xF0, 3, 0x80, 0xBF⟩, read⟩
  else if b = 0xF4 then ⟨some ⟨4, 3, 0x80, 0x8F⟩, read⟩
  else ⟨none, replacement :: read⟩

/-- Reads one byte. A byte that cannot go on with an unfinished character ends it and starts
afresh. -/
def feed (r : Reader) (byte : UInt8) : Reader :=
  let b := byte.toNat
  match r.unfinished with
  | none => start r.read b
  | some u =>
    if u.low ≤ b ∧ b ≤ u.high then
      let bits := u.bits * 64 + (b - 0x80)
      if u.owed = 1 then ⟨none, Char.ofNat bits :: r.read⟩
      else ⟨some { bits := bits, owed := u.owed - 1 }, r.read⟩
    else start (replacement :: r.read) b

/-- The characters read; an unfinished one at the end is replaced. -/
def Reader.finish (r : Reader) : List Char :=
  match r.unfinished with
  | none => r.read.reverse
  | some _ => (replacement :: r.read).reverse

def decode (bytes : List UInt8) : String :=
  String.ofList (bytes.foldl feed {}).finish

def encode (s : String) : List UInt8 :=
  s.toList.flatMap String.utf8EncodeChar

end Utf8

end Disasm.Text
