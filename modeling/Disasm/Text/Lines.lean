namespace Disasm.Text

/-- Puts a character in front of the lines that follow it; a line feed is a line of its own until
something stands before it. -/
def extendLines (c : Char) (lines : List (List Char)) : List (List Char) :=
  if c = '\n' then [c] :: lines
  else match lines with
    | [] => [[c]]
    | line :: rest => (c :: line) :: rest

/-- The pieces that end in a line feed, and a last piece without one if anything is left. -/
def splitLines (cs : List Char) : List (List Char) :=
  cs.foldr extendLines []

/-- The lines of a text, each with its line feed. -/
def lines (s : String) : List String :=
  (splitLines s.toList).map String.ofList

def dropLastIf (c : Char) (cs : List Char) : List Char :=
  if cs.getLast? = some c then cs.dropLast else cs

/-- A line without its line feed, and then without one carriage return. -/
def body (line : String) : String :=
  String.ofList (dropLastIf '\r' (dropLastIf '\n' line.toList))

/-- As `body`, but a carriage return is taken off only together with a line feed. -/
def content (line : String) : String :=
  if line.toList.getLast? = some '\n' then body line else line

def contents (s : String) : List String :=
  (lines s).map content

/-- What stands before the first empty line, without trailing line feeds. -/
def firstParagraph (cs : List Char) : List Char :=
  match cs with
  | [] => []
  | '\n' :: '\n' :: _ => []
  | c :: rest => c :: firstParagraph rest

end Disasm.Text
