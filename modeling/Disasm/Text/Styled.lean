import Disasm.Text.Control

namespace Disasm.Text

inductive Style where
  | plain
  | error
  | heading
  /-- Something to be typed as it stands. -/
  | literal
  | valid
  | invalid
  deriving DecidableEq, Repr

/-- The numbers that switch a style on. -/
def Style.codes : Style → List Nat
  | .plain => []
  | .error => [1, 31]
  | .heading => [1, 4]
  | .literal => [1]
  | .valid => [32]
  | .invalid => [33]

structure Span where
  style : Style := .plain
  text : String
  deriving DecidableEq, Repr

instance : Coe String Span := ⟨fun text => { text := text }⟩

abbrev Styled := List Span

def styleSequence (code : Nat) : String :=
  "\x1b[" ++ toString code ++ "m"

/-- A text with the control sequences of its style around it. -/
def Span.coded (s : Span) : String :=
  if s.style = .plain then s.text
  else String.join (s.style.codes.map styleSequence) ++ s.text ++ styleSequence 0

namespace Styled

def join (parts : List Styled) : Styled :=
  parts.flatten

def coded (s : Styled) : String :=
  String.join (s.map Span.coded)

/-- The text without styles. -/
def plain (s : Styled) : String :=
  visible s.coded

/-- The text as it is written where there is no terminal. -/
def written (s : Styled) : String :=
  filtered s.coded

end Styled

end Disasm.Text
