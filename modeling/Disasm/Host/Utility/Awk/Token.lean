import Disasm.Host.Utility.Awk.Value

namespace Disasm.Host.Utility.Awk

inductive Token where
  | number (source : String) (x : Float)
  | text (source s : String)
  | pattern (s : String)
  | name (s : String)
  /-- A name with an opening bracket right behind it. -/
  | function (s : String)
  | builtin (s : String)
  /-- Keywords, operators and punctuation. -/
  | word (s : String)
  | newline
  /-- Something that no program can have: what is said about it. -/
  | wrong (message : String)

structure Spot where
  token : Token
  line : Nat
  /-- How many brackets are open in front of it. -/
  depth : Nat

namespace Token

def keywords : List String :=
  ["BEGIN", "END", "function", "if", "else", "while", "for", "do", "break", "continue", "next",
    "nextfile", "exit", "return", "delete", "in", "getline", "print", "printf"]

/-- The functions of the language, with the least and greatest numbers of their arguments. -/
def builtins : List (String × Nat × Nat) := [
  ("length", 0, 1), ("index", 2, 2), ("substr", 2, 3), ("sprintf", 1, 1000), ("sin", 1, 1),
  ("cos", 1, 1), ("atan2", 2, 2), ("exp", 1, 1), ("log", 1, 1), ("int", 1, 1), ("sqrt", 1, 1),
  ("rand", 0, 0), ("srand", 0, 1), ("close", 1, 1), ("system", 1, 1), ("toupper", 1, 1),
  ("tolower", 1, 1), ("fflush", 0, 1), ("match", 2, 2), ("split", 2, 3), ("sub", 2, 3),
  ("gsub", 2, 3)]

/-- Operators and punctuation, the longer ones first. -/
def symbols : List String :=
  ["&&", "||", "++", "--", "+=", "-=", "*=", "/=", "%=", "^=", "==", "!=", "<=", ">=", "!~", ">>",
    "\x7b", "\x7d", "(", ")", "[", "]", ";", ",", "+", "-", "*", "/", "%", "^", "!", ">", "<", "|",
    "?", ":", "~", "$", "="]

def isOperand : Token → Bool
  | .number .. | .text .. | .pattern _ | .name _ | .builtin _ => true
  | .word s => s = ")" || s = "]" || s = "$" || s = "++" || s = "--"
  | _ => false

def shown : Token → String
  | .number s _ | .text s _ | .name s | .function s | .builtin s | .word s => s
  | .pattern s => "/" ++ s ++ "/"
  | .newline => "end of line"
  | .wrong s => s

end Token

def isNameStart (c : Char) : Bool :=
  c.isAlpha || c = '_'

def isNameChar (c : Char) : Bool :=
  c.isAlphanum || c = '_'

/-- A text without its escapes. Backslashes that mean nothing stay. -/
def unescaped : Nat → List Char → List Char
  | 0, _ | _, [] => []
  | fuel + 1, '\\' :: '\n' :: rest => unescaped fuel rest
  | fuel + 1, '\\' :: c :: rest =>
    match (('"', '"') :: controlEscapes).lookup c with
    | some d => d :: unescaped fuel rest
    | none =>
      if isOctal c then
        let ds := ((c :: rest).take 3).takeWhile isOctal
        charOf 8 ds :: unescaped fuel ((c :: rest).drop ds.length)
      else if c = 'x' && (rest.head?.bind hexDigit?).isSome then
        let ds := (rest.take 2).takeWhile fun c => (hexDigit? c).isSome
        charOf 16 ds :: unescaped fuel (rest.drop ds.length)
      else '\\' :: c :: unescaped fuel rest
  | fuel + 1, c :: rest => c :: unescaped fuel rest

def unescape (s : String) : String :=
  String.ofList (unescaped s.length s.toList)

/-- The source of a text up to its closing quote; none if its line ends first. -/
def quoted (done : List Char) : List Char → Option (List Char × List Char)
  | '\\' :: c :: rest => quoted (c :: '\\' :: done) rest
  | '"' :: rest => some (done.reverse, rest)
  | '\n' :: _ | [] => none
  | c :: rest => quoted (c :: done) rest

/-- The source of an expression up to its closing slash, which may stand in a set. -/
def slashed (inSet : Bool) (done : List Char) : List Char → Option (List Char × List Char)
  | '\\' :: '/' :: rest => slashed inSet ('/' :: done) rest
  | '\\' :: c :: rest => slashed inSet (c :: '\\' :: done) rest
  | '/' :: rest => if inSet then slashed inSet ('/' :: done) rest else some (done.reverse, rest)
  | '\n' :: _ | [] => none
  | '[' :: '^' :: ']' :: rest =>
    if inSet then slashed inSet ('^' :: '[' :: done) (']' :: rest)
    else slashed true (']' :: '^' :: '[' :: done) rest
  | '[' :: ']' :: rest =>
    if inSet then slashed false (']' :: '[' :: done) rest
    else slashed true (']' :: '[' :: done) rest
  | '[' :: rest => slashed true ('[' :: done) rest
  | ']' :: rest => slashed false (']' :: done) rest
  | c :: rest => slashed inSet (c :: done) rest
termination_by cs => cs.length

def runaway (kind : String) (cs : List Char) : String :=
  "runaway " ++ kind ++ " " ++ String.ofList ((cs.takeWhile (· != '\n')).take 10) ++ " ..."

structure Scan where
  line : Nat := 1
  /-- How many brackets and braces are open. -/
  brackets : Nat := 0
  braces : Nat := 0
  last : Option Token := none
  /-- The words that were read, the last first. -/
  found : List Spot := []
  /-- Closing brackets and braces that nothing has opened, with their lines. -/
  extra : List (Nat × String) := []

def Scan.add (s : Scan) (t : Token) : Scan :=
  { s with found := ⟨t, s.line, s.brackets⟩ :: s.found, last := some t }

def scan (s : Scan) : Nat → List Char → Scan
  | 0, _ => s
  | _, [] =>
    let s := s.add .newline
    if 0 < s.braces then
      { s with line := s.line + 1 }.add (.wrong "missing \x7d near end of file")
    else s
  | fuel + 1, c :: rest =>
    let wrong (message : String) : Scan := s.add (.wrong message)
    if c = '\n' then scan { s.add .newline with line := s.line + 1 } fuel rest
    else if c = ' ' || c = '\t' || c = '\r' then scan s fuel rest
    else if c = '#' then scan s fuel (rest.dropWhile (· != '\n'))
    else if c = '\\' && rest.head? = some '\n' then
      scan { s with line := s.line + 1 } fuel (rest.drop 1)
    else if c = '"' then
      match quoted [] rest with
      | none => wrong (runaway "string constant" (c :: rest))
      | some (source, behind) =>
        scan { s.add (.text (String.ofList ('"' :: source ++ ['"']))
          (unescape (String.ofList source))) with
          line := s.line + source.count '\n' } fuel behind
    else if c = '/' && !(s.last.any Token.isOperand) then
      match slashed false [] rest with
      | none => wrong (runaway "regular expression" (c :: rest))
      | some (source, behind) => scan (s.add (.pattern (String.ofList source))) fuel behind
    else if c.isDigit || (c = '.' && (rest.head?.any Char.isDigit)) then
      let cs := c :: rest
      match (hexNumber? cs).orElse fun _ => digitsNumber? cs with
      | none => wrong "syntax error in decimal constant"
      | some (x, behind) =>
        scan (s.add (.number (String.ofList (cs.take (cs.length - behind.length))) x)) fuel behind
    else if isNameStart c then
      let name := (c :: rest).takeWhile isNameChar
      let behind := (c :: rest).drop name.length
      let text := String.ofList name
      let token : Token :=
        if Token.keywords.contains text then .word text
        else if (Token.builtins.lookup text).isSome then .builtin text
        else if behind.head? = some '(' then .function text
        else .name text
      scan (s.add token) fuel behind
    else
      match Token.symbols.find? fun w => w.toList.isPrefixOf (c :: rest) with
      | none => wrong ("unexpected character '" ++ String.ofList [c] ++ "'")
      | some w =>
        let t := s.add (.word w)
        let rest := (c :: rest).drop w.length
        if w = "(" then scan { t with brackets := s.brackets + 1 } fuel rest
        else if w = ")" then
          if s.brackets = 0 then
            scan { s with extra := s.extra ++ [(s.line, "extra ')'")] } fuel rest
          else scan { t with brackets := s.brackets - 1 } fuel rest
        else if w = "\x7b" then scan { t with braces := s.braces + 1 } fuel rest
        else if w = "\x7d" then
          if s.braces = 0 then
            scan { s with extra := s.extra ++ [(s.line, "extra '\x7d'")] } fuel rest
          else scan { t with braces := s.braces - 1 } fuel rest
        else scan t fuel rest

def Scan.ofText (source : String) : Scan :=
  let s := scan {} (source.length + 1) source.toList
  { s with found := s.found.reverse }

end Disasm.Host.Utility.Awk
