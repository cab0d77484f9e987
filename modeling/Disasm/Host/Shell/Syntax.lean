namespace Disasm.Host.Shell

mutual

/-- A part of a word. What stands in quotes is neither cut at blanks nor read as a pattern. -/
inductive Part where
  | text (s : String) (quoted : Bool)
  | parameter (name : String) (form : Form) (quoted : Bool)
  /-- What a command prints. -/
  | output (body : Command) (quoted : Bool)
  /-- The value of an expression. -/
  | arithmetic (source : List Part) (quoted : Bool)

/-- What is made of the value of a parameter. `orEmpty` takes the empty value for a missing one. -/
inductive Form where
  | value
  | length
  | usual (orEmpty : Bool) (word : List Part)
  | assigned (orEmpty : Bool) (word : List Part)
  | demanded (orEmpty : Bool) (word : List Part)
  | instead (orEmpty : Bool) (word : List Part)
  /-- Without what a pattern covers at the start. -/
  | withoutFront (longest : Bool) (pattern : List Part)
  /-- Without what a pattern covers at the end. -/
  | withoutBack (longest : Bool) (pattern : List Part)
  /-- Something that is no form at all. -/
  | bad

inductive Target where
  | read (path : List Part)
  | write (path : List Part)
  /-- The same, even if the file must not be lost. -/
  | overwrite (path : List Part)
  | append (path : List Part)
  | both (path : List Part)
  /-- What another descriptor is joined to, or nothing for a dash. -/
  | same (descriptor : List Part)
  /-- A text in the script; the reader numbers them. -/
  | document (number : Nat)

inductive Redirection where
  | mk (descriptor : Nat) (target : Target)

inductive Command where
  | simple (line : Nat) (assignments : List (String × List Part)) (words : List (List Part))
      (redirections : List Redirection)
  | sequence (commands : List Command)
  /-- The first, and the second if it went well. -/
  | both (first second : Command)
  /-- The first, and the second if it went wrong. -/
  | either (first second : Command)
  | inverse (c : Command)
  /-- The output of each is the input of the next. -/
  | pipe (commands : List Command)
  /-- Without waiting for its end. -/
  | background (c : Command)
  /-- In a shell of its own. -/
  | isolated (line : Nat) (body : Command)
  | redirected (line : Nat) (body : Command) (redirections : List Redirection)
  | branch (condition good bad : Command)
  /-- As long as the condition gives the wanted result. -/
  | loop (wanted : Bool) (condition body : Command)
  | each (line : Nat) (name : String) (words : List (List Part)) (body : Command)
  | choice (line : Nat) (subject : List Part) (cases : List (List (List Part) × Command))
  | define (name : String) (body : Command)

end

abbrev Word := List Part

def isNameStart (c : Char) : Bool :=
  c.isAlpha || c = '_'

def isNameChar (c : Char) : Bool :=
  isNameStart c || c.isDigit

def isName (s : String) : Bool :=
  match s.toList with
  | [] => false
  | c :: rest => isNameStart c && rest.all isNameChar

/-- The name and the value in front of and behind the first equals sign. -/
def splitAssignment (cs : List Char) : String × Option (List Char) :=
  let name := String.ofList (cs.takeWhile (· != '='))
  match cs.dropWhile (· != '=') with
  | [] => (name, none)
  | _ :: value => (name, some value)

end Disasm.Host.Shell
