import Disasm.Feature.Catalogue

namespace Disasm.Report.Json

def hexDigit (n : Nat) : Char :=
  if n < 10 then Char.ofNat (0x30 + n) else Char.ofNat (0x57 + n)

/-- A character inside a string. The short escapes are used where there are any; other control
characters are written by number, and all else stands for itself. -/
def escape (c : Char) : List Char :=
  if c = '"' then ['\\', '"']
  else if c = '\\' then ['\\', '\\']
  else if c = '\x08' then ['\\', 'b']
  else if c = '\x0c' then ['\\', 'f']
  else if c = '\n' then ['\\', 'n']
  else if c = '\r' then ['\\', 'r']
  else if c = '\t' then ['\\', 't']
  else if c.toNat < 0x20 then
    ['\\', 'u', '0', '0', hexDigit (c.toNat / 16), hexDigit (c.toNat % 16)]
  else [c]

def string (s : String) : String :=
  String.ofList ('"' :: s.toList.flatMap escape ++ ['"'])

/-- Items on lines of their own between two brackets; none at all is written without a break. -/
def block (opening closing indent : String) (items : List String) : String :=
  if items.isEmpty then opening ++ closing
  else opening ++ "\n" ++
    String.intercalate ",\n" (items.map fun item => indent ++ "  " ++ item) ++
    "\n" ++ indent ++ closing

def member (f : Finding) : String :=
  string f.feature ++ ": " ++ block "[" "]" "  " (f.mnemonics.map string)

def object (found : Findings) : String :=
  block "\x7b" "\x7d" "" (found.entries.map member)

end Disasm.Report.Json
