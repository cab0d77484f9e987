import Mathlib.Data.List.Basic
import Disasm.Report.Json

namespace Disasm.Report.Json

/-- A value. A number stays as it is written. -/
inductive Value where
  | null
  | boolean (b : Bool)
  | number (literal : String)
  | string (s : String)
  | array (items : List Value)
  | object (members : List (String × Value))

section Numbers

def afterDigits? : List Char → Option (List Char)
  | [] => none
  | c :: rest => if c.isDigit then some (rest.dropWhile Char.isDigit) else none

/-- A zero in front is the whole of its number. -/
def afterWhole? : List Char → Option (List Char)
  | '0' :: rest => some rest
  | cs => afterDigits? cs

def afterFraction? : List Char → Option (List Char)
  | '.' :: rest => afterDigits? rest
  | cs => some cs

def afterExponent? : List Char → Option (List Char)
  | [] => some []
  | c :: rest =>
    if c = 'e' ∨ c = 'E' then
      match rest with
      | '+' :: digits | '-' :: digits => afterDigits? digits
      | digits => afterDigits? digits
    else some (c :: rest)

def isNumber (cs : List Char) : Bool :=
  let unsigned := match cs with
    | '-' :: rest => rest
    | _ => cs
  ((afterWhole? unsigned).bind afterFraction?).bind afterExponent? = some []

end Numbers

inductive Token where
  | arrayStart
  | arrayEnd
  | objectStart
  | objectEnd
  | comma
  | colon
  | string (s : String)
  /-- What stands without quotes: a number, or the name of a value. -/
  | word (letters : List Char)

def isGap (c : Char) : Bool :=
  c = ' ' || c = '\t' || c = '\n' || c = '\r'

def isWordChar (c : Char) : Bool :=
  c.isAlphanum || c = '-' || c = '+' || c = '.'

def punctuation? : Char → Option Token
  | '[' => some .arrayStart
  | ']' => some .arrayEnd
  | '\x7b' => some .objectStart
  | '\x7d' => some .objectEnd
  | ',' => some .comma
  | ':' => some .colon
  | _ => none

/-- What a character stands for behind a backslash. -/
def shortEscape? : Char → Option Char
  | '"' => some '"'
  | '\\' => some '\\'
  | '/' => some '/'
  | 'b' => some '\x08'
  | 'f' => some '\x0c'
  | 'n' => some '\n'
  | 'r' => some '\r'
  | 't' => some '\t'
  | _ => none

def hexValue? (c : Char) : Option Nat :=
  if '0' ≤ c ∧ c ≤ '9' then some (c.toNat - 0x30)
  else if 'a' ≤ c ∧ c ≤ 'f' then some (c.toNat - 0x57)
  else if 'A' ≤ c ∧ c ≤ 'F' then some (c.toNat - 0x37)
  else none

/-- The characters with some numbers. Two surrogates, a high and a low one, make one character, and
one alone makes none. -/
def characters? : List Nat → Option (List Char)
  | [] => some []
  | n :: rest =>
    if 0xD800 ≤ n ∧ n ≤ 0xDBFF then
      match rest with
      | [] => none
      | m :: rest =>
        if 0xDC00 ≤ m ∧ m ≤ 0xDFFF then
          (characters? rest).map
            (Char.ofNat (0x10000 + (n - 0xD800) * 0x400 + (m - 0xDC00)) :: ·)
        else none
    else if 0xDC00 ≤ n ∧ n ≤ 0xDFFF then none
    else (characters? rest).map (Char.ofNat n :: ·)

/-- What the next character belongs to. The content of a string is held as numbers, for a character
can be written in two halves. -/
inductive Mode where
  | between
  | inString (content : List Nat)
  /-- Behind a backslash. -/
  | escaped (content : List Nat)
  /-- In the number of a character, of which some digits are still owed. -/
  | numbered (content : List Nat) (owed value : Nat)
  | inWord (letters : List Char)

/-- The tokens that have been read, and where the next character stands. -/
structure Scan where
  tokens : List Token := []
  mode : Mode := .between

namespace Scan

def start (tokens : List Token) (c : Char) : Option Scan :=
  if isGap c then some ⟨tokens, .between⟩
  else if c = '"' then some ⟨tokens, .inString []⟩
  else if isWordChar c then some ⟨tokens, .inWord [c]⟩
  else (punctuation? c).map fun t => ⟨tokens ++ [t], .between⟩

def feed (s : Scan) (c : Char) : Option Scan :=
  match s.mode with
  | .between => start s.tokens c
  | .inString content =>
    if c = '"' then
      (characters? content).map fun cs => ⟨s.tokens ++ [.string (String.ofList cs)], .between⟩
    else if c = '\\' then some ⟨s.tokens, .escaped content⟩
    else if c.toNat < 0x20 then none
    else some ⟨s.tokens, .inString (content ++ [c.toNat])⟩
  | .escaped content =>
    if c = 'u' then some ⟨s.tokens, .numbered content 4 0⟩
    else (shortEscape? c).map fun d => ⟨s.tokens, .inString (content ++ [d.toNat])⟩
  | .numbered content owed value =>
    (hexValue? c).map fun d =>
      if owed = 1 then ⟨s.tokens, .inString (content ++ [16 * value + d])⟩
      else ⟨s.tokens, .numbered content (owed - 1) (16 * value + d)⟩
  | .inWord letters =>
    if isWordChar c then some ⟨s.tokens, .inWord (letters ++ [c])⟩
    else start (s.tokens ++ [.word letters]) c

def finish (s : Scan) : Option (List Token) :=
  match s.mode with
  | .between => some s.tokens
  | .inWord letters => some (s.tokens ++ [.word letters])
  | _ => none

end Scan

def tokens? (cs : List Char) : Option (List Token) :=
  (cs.foldlM Scan.feed {}).bind Scan.finish

def wordValue? (letters : List Char) : Option Value :=
  let word := String.ofList letters
  if word = "null" then some .null
  else if word = "true" then some (.boolean true)
  else if word = "false" then some (.boolean false)
  else if isNumber letters then some (.number word)
  else none

/-- An array or an object that has not ended, around the value that is being read. -/
inductive Frame where
  | array (items : List Value)
  | object (members : List (String × Value)) (key : String)

/-- What may come next, inside of what is still open. -/
inductive Stage where
  | value (outer : List Frame)
  /-- A value, or the end of an array that has just begun. -/
  | firstItem (outer : List Frame)
  /-- A key, or the end of an object that has just begun. -/
  | firstKey (outer : List Frame)
  | key (members : List (String × Value)) (outer : List Frame)
  | colon (members : List (String × Value)) (key : String) (outer : List Frame)
  /-- What comes behind a value. -/
  | behind (v : Value) (outer : List Frame)

namespace Stage

def start (outer : List Frame) : Token → Option Stage
  | .string s => some (.behind (.string s) outer)
  | .word letters => (wordValue? letters).map (.behind · outer)
  | .arrayStart => some (.firstItem outer)
  | .objectStart => some (.firstKey outer)
  | _ => none

def feed : Stage → Token → Option Stage
  | .value outer, t => start outer t
  | .firstItem outer, .arrayEnd => some (.behind (.array []) outer)
  | .firstItem outer, t => start (.array [] :: outer) t
  | .firstKey outer, .objectEnd => some (.behind (.object []) outer)
  | .firstKey outer, .string k => some (.colon [] k outer)
  | .key members outer, .string k => some (.colon members k outer)
  | .colon members k outer, .colon => some (.value (.object members k :: outer))
  | .behind v (.array items :: outer), .comma => some (.value (.array (items ++ [v]) :: outer))
  | .behind v (.array items :: outer), .arrayEnd =>
    some (.behind (.array (items ++ [v])) outer)
  | .behind v (.object members k :: outer), .comma => some (.key (members ++ [(k, v)]) outer)
  | .behind v (.object members k :: outer), .objectEnd =>
    some (.behind (.object (members ++ [(k, v)])) outer)
  | _, _ => none

end Stage

/-- The value that some tokens make up. -/
def value? (tokens : List Token) : Option Value :=
  match tokens.foldlM Stage.feed (.value []) with
  | some (.behind v []) => some v
  | _ => none

/-- The value that a text says. -/
def read? (s : String) : Option Value :=
  (tokens? s.toList).bind value?

end Disasm.Report.Json
