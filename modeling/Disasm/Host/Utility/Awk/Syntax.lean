import Disasm.Host.Regex

namespace Disasm.Host.Utility.Awk

inductive Operation where
  | add
  | subtract
  | multiply
  | divide
  | remainder
  | power
  | join

inductive Relation where
  | less
  | lessEqual
  | equal
  | notEqual
  | greater
  | greaterEqual

inductive Expr where
  | number (x : Float)
  | text (s : String)
  | pattern (e : Regex)
  | name (n : String)
  | element (array : String) (index : List Expr)
  | field (number : Expr)
  | group (e : Expr)
  | assign (operation : Option Operation) (target value : Expr)
  /-- Adds to a target; the value is the one that it has before that or behind it. -/
  | step (amount : Float) (before : Bool) (target : Expr)
  | operate (o : Operation) (a b : Expr)
  | relate (r : Relation) (a b : Expr)
  | negative (e : Expr)
  | positive (e : Expr)
  | denied (e : Expr)
  | both (a b : Expr)
  | either (a b : Expr)
  | choose (condition a b : Expr)
  | isMatch (inverted : Bool) (a b : Expr)
  | isMember (index : List Expr) (array : String)
  | call (function : String) (args : List Expr)
  | builtin (function : String) (args : List Expr)
  /-- Reads a record of the input, of a file or of the output of a command. -/
  | readNext (target : Option Expr)
  | readFile (target : Option Expr) (file : Expr)
  | readCommand (target : Option Expr) (command : Expr)

inductive Direction where
  | file
  | fileEnd
  | command
  deriving DecidableEq

inductive Statement where
  | value (e : Expr)
  | print (formatted : Bool) (args : List Expr) (target : Option (Direction × Expr))
  | choice (condition : Expr) (a b : Statement)
  | loop (condition : Expr) (body step : Statement)
  | loopBehind (body : Statement) (condition : Expr)
  | forEach (name array : String) (body : Statement)
  | block (body : List Statement)
  | next
  | nextFile
  | breakLoop
  | continueLoop
  | exit (status : Option Expr)
  | giveBack (value : Option Expr)
  | delete (array : String) (index : List Expr)

inductive Condition where
  | all
  | one (e : Expr)
  /-- Those from one record to another one. -/
  | range (first last : Expr)

structure Function where
  params : List String
  body : Statement

structure Program where
  begins : List Statement := []
  rules : List (Condition × Statement) := []
  ends : List Statement := []
  functions : List (String × Function) := []

end Disasm.Host.Utility.Awk
