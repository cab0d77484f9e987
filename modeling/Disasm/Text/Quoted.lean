import Disasm.Text.LetterTable
import Disasm.Text.PrintTable

namespace Disasm.Text

/-- Whether a character joins the one before it, as accents do. -/
def joins (c : Char) : Bool :=
  inRanges joiningRanges c.toNat

def isPrintable (c : Char) : Bool :=
  !inRanges unprintableRanges c.toNat

/-- The letter that stands for a character behind a backslash. -/
def shortEscape? : Char → Option Char
  | '\x00' => some '0'
  | '\t' => some 't'
  | '\r' => some 'r'
  | '\n' => some 'n'
  | '\\' => some '\\'
  | '"' => some '"'
  | _ => none

def hex (n : Nat) : List Char :=
  Nat.toDigits 16 n

/-- A character by its number. -/
def numberEscape (c : Char) : List Char :=
  ['\\', 'u', '\x7b'] ++ hex c.toNat ++ ['\x7d']

/-- A character between quotes. Of what has no short form, only that stands for itself which can be
seen on its own. -/
def escapeQuoted (c : Char) : List Char :=
  match shortEscape? c with
  | some d => ['\\', d]
  | none =>
    if joins c then numberEscape c
    else if isPrintable c then [c]
    else numberEscape c

def quoted (s : String) : String :=
  String.ofList ('"' :: s.toList.flatMap escapeQuoted ++ ['"'])

end Disasm.Text
