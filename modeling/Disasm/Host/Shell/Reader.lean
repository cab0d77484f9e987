import Disasm.Host.Shell.Syntax

namespace Disasm.Host.Shell

inductive Token where
  | finish
  | newline
  | sign (s : String)
  | redirect (descriptor : Nat) (sign : String)
  | word (w : Word)

structure Awaited where
  number : Nat
  delimiter : String
  /-- Whether nothing in it is expanded. -/
  quoted : Bool
  /-- Whether tabs at the start of its lines are dropped. -/
  stripped : Bool

structure Reader where
  rest : List Char
  line : Nat := 1
  /-- A token that was looked at and not taken. -/
  pushed : Option Token := none
  awaited : List Awaited := []
  documents : List (Nat × Word) := []
  /-- How many documents there were. -/
  count : Nat := 0
  /-- Names that stand for texts where a command may start. -/
  aliases : List (String × String) := []
  /-- The aliases whose texts are being read, with what is left behind them. -/
  within : List (String × Nat) := []
  /-- What is left behind an alias that makes the word behind it one as well. -/
  continued : Option Nat := none

structure SyntaxError where
  line : Nat
  message : String

abbrev Parser := StateT Reader (Except SyntaxError)

/-- The words that are part of commands where a command may start. -/
def reservedWords : List String :=
  ["!", "case", "do", "done", "elif", "else", "esac", "fi", "for", "if", "in", "then", "until",
    "while", "\x7b", "\x7d"]

def Token.reserved? : Token → Option String
  | .word [.text s false] => if reservedWords.contains s then some s else none
  | _ => none

/-- Whether a list of commands ends in front of a token. -/
def Token.isCloser (t : Token) : Bool :=
  match t with
  | .finish => true
  | .sign s => s = ")" || s = ";;"
  | _ =>
    match t.reserved? with
    | some s => ["do", "done", "elif", "else", "esac", "fi", "then", "\x7d"].contains s
    | none => false

def Token.title (t : Token) : String :=
  match t with
  | .finish => "end of file"
  | .newline => "newline"
  | .sign s => "\"" ++ s ++ "\""
  | .redirect .. => "redirection"
  | .word _ =>
    match t.reserved? with
    | some s => "\"" ++ s ++ "\""
    | none => "word"

namespace Parser

def fail {α : Type} (message : String) : Parser α := do
  throw ⟨(← get).line, message⟩

/-- Refuses a token. `wanted` is what should stand there. -/
def unexpected {α : Type} (t : Token) (wanted : String := "") : Parser α :=
  fail (t.title ++ " unexpected" ++
    if wanted.isEmpty then "" else " (expecting \"" ++ wanted ++ "\")")

def pop : Parser (Option Char) := do
  let r ← get
  match r.rest with
  | [] => return none
  | c :: rest =>
    set { r with rest := rest, line := if c = '\n' then r.line + 1 else r.line }
    return some c

def drop (n : Nat) : Parser Unit :=
  modify fun r =>
    { r with rest := r.rest.drop n, line := r.line + (r.rest.take n).count '\n' }

/-- Takes characters as long as they pass a test. -/
def takeWhile (p : Char → Bool) : Parser (List Char) := do
  let cs := (← get).rest.takeWhile p
  drop cs.length
  return cs

def join : Nat → Parser Unit
  | 0 => pure ()
  | fuel + 1 => do
    match (← get).rest with
    | '\\' :: '\n' :: _ => drop 2; join fuel
    | _ => pure ()

/-- The next character, when joined lines are one. -/
def look : Parser (Option Char) := do
  join (← get).rest.length
  return (← get).rest.head?

def skipBlanks : Nat → Parser Unit
  | 0 => pure ()
  | fuel + 1 => do
    match ← look with
    | some ' ' | some '\t' => drop 1; skipBlanks fuel
    | some '#' => let _ ← takeWhile (· != '\n')
    | _ => pure ()

def sign? (s : List Char) : Parser Bool := do
  if s.isPrefixOf (← get).rest then
    drop s.length
    return true
  else return false

/-- Puts the text of an alias in the place of a word that was taken; tells whether it is one. In
the text of an alias its own name stands for itself. -/
def replaceAlias (t : Token) : Parser Bool := do
  let r ← get
  match t with
  | .word [.text s false] =>
    let left := r.rest.length
    match r.aliases.lookup s with
    | some text =>
      if r.within.any fun x => x.1 = s && x.2 ≤ left then return false
      let cs := text.toList
      set { r with
        rest := cs ++ r.rest
        within := (s, left) :: r.within
        continued :=
          if cs.getLast?.any fun c => c = ' ' || c = '\t' then some left else r.continued }
      return true
    | none => return false
  | _ => return false

/-- Whether a word that was taken stands right behind an alias that asks for another one. -/
def isContinued : Parser Bool := do
  let r ← get
  if r.continued.any (r.rest.length < ·) then
    set { r with continued := none }
    return true
  else return false

/-- The signs of control and of redirection, longer ones first. -/
def controls : List String := ["&&", "&", "||", "|", ";;", ";", "(", ")"]
def redirections : List String := ["<<-", "<<", "<&", "<>", "<", ">>", ">&", ">|", ">"]

def firstSign? : List String → Parser (Option String)
  | [] => return none
  | s :: rest => do
    if ← sign? s.toList then return some s else firstSign? rest

def singleQuoted : Parser (List Char) := do
  let cs ← takeWhile (· != '\'')
  match ← pop with
  | some _ => return cs
  | none => fail "Unterminated quoted string"

/-- The delimiter of a document, and whether any of it is quoted. -/
def delimiter (done : List Char) (quoted : Bool) : Nat → Parser (String × Bool)
  | 0 => fail "word unexpected"
  | fuel + 1 => do
    match (← get).rest with
    | '\'' :: _ =>
      drop 1
      let cs ← singleQuoted
      delimiter (cs.reverse ++ done) true fuel
    | '"' :: _ =>
      drop 1
      let cs ← takeWhile (· != '"')
      match ← pop with
      | some _ => delimiter (cs.reverse ++ done) true fuel
      | none => fail "Unterminated quoted string"
    | '\\' :: c :: _ => drop 2; delimiter (c :: done) true fuel
    | c :: _ =>
      if c.isWhitespace || ['&', '|', ';', '(', ')', '<', '>'].contains c then
        return (String.ofList done.reverse, quoted)
      else drop 1; delimiter (c :: done) quoted fuel
    | [] => return (String.ofList done.reverse, quoted)

/-- The lines of a document, up to its delimiter. -/
def documentLines (a : Awaited) (done : List Char) : Nat → Parser (List Char)
  | 0 => return done.reverse
  | fuel + 1 => do
    if (← get).rest.isEmpty then return done.reverse
    if a.stripped then
      let _ ← takeWhile (· = '\t')
    let line ← takeWhile (· != '\n')
    let ended ← pop
    if String.ofList line = a.delimiter then return done.reverse
    match ended with
    | some _ => documentLines a ('\n' :: line.reverse ++ done) fuel
    | none => return (line.reverse ++ done).reverse

/-- The text between backquotes, with the backslashes that protect backquotes taken out. -/
def backquoted (quoted : Bool) (done : List Char) : Nat → Parser (List Char)
  | 0 => fail "EOF in backquote substitution"
  | fuel + 1 => do
    match ← pop with
    | none => fail "EOF in backquote substitution"
    | some '`' => return done.reverse
    | some '\\' =>
      match ← pop with
      | none => fail "EOF in backquote substitution"
      | some '\n' => backquoted quoted done fuel
      | some c =>
        if c = '\\' || c = '`' || c = '$' || (quoted && c = '"') then
          backquoted quoted (c :: done) fuel
        else backquoted quoted (c :: '\\' :: done) fuel
    | some c => backquoted quoted (c :: done) fuel

end Parser

/-- Adds a text to a word that is held in reverse; text of one kind is one part. -/
def addText (parts : Word) (s : String) (quoted : Bool) : Word :=
  match parts with
  | .text t q :: rest => if q = quoted then .text (t ++ s) q :: rest else .text s quoted :: parts
  | _ => .text s quoted :: parts

end Disasm.Host.Shell
