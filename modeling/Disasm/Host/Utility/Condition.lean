import Disasm.Host.Utility.Print

namespace Disasm.Host.Utility

structure Surroundings where
  tree : FileTree
  directory : Place

/-- Whether a condition on one text holds; none if the operator is not known. -/
def Surroundings.unary? (s : Surroundings) (op arg : String) : Option Bool :=
  let entry := (s.tree.find s.directory arg).toOption
  match op with
  | "-n" => some (!arg.isEmpty)
  | "-z" => some arg.isEmpty
  | "-e" | "-r" | "-w" | "-O" | "-G" => some entry.isSome
  | "-f" => some (match entry with
    | some (.file ..) | some (.utility _) => true
    | _ => false)
  | "-d" => some (entry = some .directory)
  | "-s" => some (match entry with
    | some (.file content _) => !content.isEmpty
    | some .directory | some (.utility _) => true
    | _ => false)
  | "-x" => some (match entry with
    | some (.file _ executable) => executable
    | some .directory | some (.utility _) => true
    | _ => false)
  | "-c" => some (match entry with
    | some .void | some .zeros => true
    | _ => false)
  | "-b" | "-p" | "-u" | "-g" | "-k" | "-h" | "-L" | "-S" | "-t" => some false
  | _ => none

def unaryOperators : List String :=
  ["-n", "-z", "-e", "-r", "-w", "-O", "-G", "-f", "-d", "-s", "-x", "-c", "-b", "-p", "-u", "-g",
    "-k", "-h", "-L", "-S", "-t"]

def numberOperators : List String := ["-eq", "-ne", "-lt", "-le", "-gt", "-ge"]
def textOperators : List String := ["=", "!=", "<", ">"]
def fileOperators : List String := ["-nt", "-ot", "-ef"]

def binaryOperators : List String := textOperators ++ numberOperators ++ fileOperators

def compareNumbers (op : String) (a b : Int) : Bool :=
  match op with
  | "-eq" => a = b
  | "-ne" => a ≠ b
  | "-lt" => a < b
  | "-le" => a ≤ b
  | "-gt" => b < a
  | _ => b ≤ a

/-- Whether a condition on two texts that are no numbers holds. -/
def Surroundings.compareTexts (s : Surroundings) (op a b : String) : Bool :=
  match op with
  | "=" | "==" => a = b
  | "!=" => a ≠ b
  | "<" => a < b
  | ">" => b < a
  | "-ef" =>
    match s.tree.locate s.directory a, s.tree.locate s.directory b with
    | .ok p, .ok q => p = q && (s.tree.entry? p).isSome
    | _, _ => false
  | "-nt" =>
    (s.tree.find s.directory a).toOption.isSome && (s.tree.find s.directory b).toOption.isNone
  | _ => (s.tree.find s.directory a).toOption.isNone && (s.tree.find s.directory b).toOption.isSome

namespace ShellTest

inductive Kind where
  | unary | binary | not | and | or | opening | closing
  deriving DecidableEq

def kind? (s : String) : Option Kind :=
  if unaryOperators.contains s then some .unary
  else if binaryOperators.contains s then some .binary
  else [("!", Kind.not), ("-a", .and), ("-o", .or), ("(", .opening), (")", .closing)].lookup s

/-- What the first of some arguments is taken for, in front of the others. -/
def kindAt : List String → Option Kind
  | [] => none
  | s :: rest =>
    match kind? s with
    | some .unary =>
      match rest with
      | [] => none
      | [_] => some .unary
      | next :: _ => if kind? next = some .binary then none else some .unary
    | some .opening => if rest.isEmpty then none else some .opening
    | k => k

/-- Reading keeps the argument that was looked at last in front. -/
abbrev Reading := StateT (List String) (Except String)

def complain {α : Type} (op message : String) : Reading α :=
  throw (if op.isEmpty then message else op ++ ": " ++ message)

def integer (s : String) : Reading Int := do
  let cs := s.toList.dropWhile Char.isWhitespace
  match whole? (String.ofList (cs.reverse.dropWhile Char.isWhitespace).reverse) with
  | some n => return n
  | none => throw ("Illegal number: " ++ s)

def binary (s : Surroundings) : Reading Bool := do
  match ← get with
  | a :: op :: b :: rest =>
    set (b :: rest)
    if numberOperators.contains op then
      return compareNumbers op (← integer a) (← integer b)
    else return s.compareTexts op a b
  | [_, op] => complain op "argument expected"
  | _ => return false

mutual

def disjunction (s : Surroundings) : Nat → Reading Bool
  | 0 => return false
  | fuel + 1 => do
    let a ← conjunction s fuel
    let args ← get
    if kindAt (args.drop 1) = some .or then
      set (args.drop 2)
      return (← disjunction s fuel) || a
    else return a
termination_by structural fuel => fuel

def conjunction (s : Surroundings) : Nat → Reading Bool
  | 0 => return false
  | fuel + 1 => do
    let a ← negation s fuel
    let args ← get
    if kindAt (args.drop 1) = some .and then
      set (args.drop 2)
      return (← conjunction s fuel) && a
    else return a
termination_by structural fuel => fuel

def negation (s : Surroundings) : Nat → Reading Bool
  | 0 => return false
  | fuel + 1 => do
    let args ← get
    if kindAt args = some .not then
      match args.drop 1 with
      | [] => return true
      | rest =>
        set rest
        return !(← negation s fuel)
    else primary s fuel
termination_by structural fuel => fuel

def primary (s : Surroundings) : Nat → Reading Bool
  | 0 => return false
  | fuel + 1 => do
    let args ← get
    match args, kindAt args with
    | [], _ => return false
    | _ :: rest, some .opening =>
      set rest
      if kindAt rest = some .closing then return false
      let a ← disjunction s fuel
      modify (List.drop 1)
      if kindAt (← get) = some .closing then return a
      else complain "" "closing paren expected"
    | op :: rest, some .unary =>
      match rest with
      | [] => complain op "argument expected"
      | arg :: _ =>
        set rest
        if op = "-t" then
          let _ ← integer arg
        return (s.unary? op arg).getD false
    | first :: rest, _ =>
      if kindAt rest = some .binary then binary s
      else return !first.isEmpty
termination_by structural fuel => fuel

end

/-- The value of some arguments. Whether the first of three or four is a negation or an opening
bracket is decided by their number. -/
def evaluate (s : Surroundings) (inverted : Bool) : Nat → List String → Except String Bool
  | 0, _ | _, [] => .ok inverted
  | fuel + 1, args =>
    let n := args.length
    let between := n = 3 || n = 4
    if n = 3 && kind? (args.getD 1 "") = some .binary then run args (binary s)
    else if between && args.head? = some "(" && args.getLast? = some ")" then
      run (args.drop 1).dropLast (disjunction s (4 * n + 8))
    else if between && args.head? = some "!" then evaluate s (!inverted) fuel (args.drop 1)
    else run args (disjunction s (4 * n + 8))
where
  run (args : List String) (p : Reading Bool) : Except String Bool :=
    match p.run args with
    | .error e => .error e
    | .ok (value, rest) =>
      match rest with
      | op :: _ :: _ =>
        .error (if op.isEmpty then "unexpected operator" else op ++ ": unexpected operator")
      | _ => .ok (value != inverted)

end ShellTest

/-- The value of the arguments of the shell's own `test`. -/
def shellTest (s : Surroundings) (args : List String) : Except String Bool :=
  ShellTest.evaluate s false args.length args

namespace PlainTest

structure Context where
  surroundings : Surroundings
  /-- The last of all arguments. -/
  last : String

abbrev Reading := ReaderT Context (StateT (List String) (Except String))

/-- Something is missing behind the last argument. -/
def beyond {α : Type} : Reading α := do
  throw ("missing argument after " ++ quote (← read).last)

def isBinary (s : String) : Bool :=
  binaryOperators.contains s || s = "=="

def integer (s : String) : Reading Int := do
  let cs := s.toList.dropWhile Char.isWhitespace
  match whole? (String.ofList (cs.reverse.dropWhile Char.isWhitespace).reverse) with
  | some n => return n
  | none => throw ("invalid integer " ++ quote s)

def binary : Reading Bool := do
  match ← get with
  | a :: op :: b :: rest =>
    set rest
    if numberOperators.contains op then
      return compareNumbers op (← integer a) (← integer b)
    else return (← read).surroundings.compareTexts op a b
  | _ => beyond

def unary : Reading Bool := do
  match ← get with
  | op :: rest =>
    if !unaryOperators.contains op then
      throw (quote op ++ ": unary operator expected")
    match rest with
    | [] => beyond
    | arg :: rest =>
      set rest
      if op = "-t" then
        let _ ← integer arg
      return ((← read).surroundings.unary? op arg).getD false
  | [] => beyond

def isUnaryShape (s : String) : Bool :=
  s.length = 2 && s.startsWith "-"

def one : Reading Bool := do
  match ← get with
  | a :: rest =>
    set rest
    return !a.isEmpty
  | [] => beyond

def two : Reading Bool := do
  match ← get with
  | "!" :: rest =>
    set rest
    return !(← one)
  | a :: _ => if isUnaryShape a then unary else beyond
  | [] => beyond

mutual

def disjunction : Nat → Reading Bool
  | 0 => beyond
  | fuel + 1 => do
    let a ← conjunction fuel
    match ← get with
    | "-o" :: rest =>
      set rest
      return (← disjunction fuel) || a
    | _ => return a
termination_by structural fuel => fuel

def conjunction : Nat → Reading Bool
  | 0 => beyond
  | fuel + 1 => do
    let a ← term fuel
    match ← get with
    | "-a" :: rest =>
      set rest
      return (← conjunction fuel) && a
    | _ => return a
termination_by structural fuel => fuel

def term : Nat → Reading Bool
  | 0 => beyond
  | fuel + 1 => do
    match ← get with
    | [] => beyond
    | ["!"] => beyond
    | "!" :: rest =>
      set rest
      return !(← term fuel)
    | ["("] => beyond
    | "(" :: rest =>
      set rest
      let n := (rest.takeWhile (· != ")")).length
      let a ← byNumber (if n ≤ 4 && n < rest.length then n else rest.length) fuel
      match ← get with
      | ")" :: rest =>
        set rest
        return a
      | [] => throw "')' expected"
      | other :: _ => throw ("')' expected, found " ++ quote other)
    | a :: op :: b :: _ =>
      if isBinary op then binary
      else if isUnaryShape a then unary
      else
        set (op :: b :: (← get).drop 3)
        return !a.isEmpty
    | a :: rest =>
      if isUnaryShape a then unary
      else
        set rest
        return !a.isEmpty
termination_by structural fuel => fuel

def three : Nat → Reading Bool
  | 0 => beyond
  | fuel + 1 => do
    match ← get with
    | a :: op :: rest =>
      if isBinary op then binary
      else if a = "!" then
        set (op :: rest)
        return !(← two)
      else if a = "(" && rest.head? = some ")" then
        set (op :: rest)
        let value ← one
        modify (List.drop 1)
        return value
      else if op = "-a" || op = "-o" then disjunction fuel
      else throw (quote op ++ ": binary operator expected")
    | _ => beyond
termination_by structural fuel => fuel

def byNumber (n : Nat) : Nat → Reading Bool
  | 0 => beyond
  | fuel + 1 => do
    match n with
    | 0 => beyond
    | 1 => one
    | 2 => two
    | 3 => three fuel
    | 4 =>
      match ← get with
      | "!" :: rest =>
        set rest
        return !(← three fuel)
      | "(" :: rest =>
        if rest.getD 2 "" = ")" then
          set rest
          let value ← two
          modify (List.drop 1)
          return value
        else disjunction fuel
      | _ => disjunction fuel
    | _ => disjunction fuel
termination_by structural fuel => fuel

end

def evaluate (s : Surroundings) (args : List String) : Except String Bool :=
  if args.isEmpty then .ok false
  else
    match ((byNumber args.length (8 * args.length + 16)).run ⟨s, args.getLastD ""⟩).run args with
    | .error e => .error e
    | .ok (value, []) => .ok value
    | .ok (_, extra :: _) => .error ("extra argument " ++ quote extra)

end PlainTest

/-- `test`, and `[`, which wants a closing bracket. -/
def test (bracket : Bool) : Work Unit := do
  let request ← read
  if bracket && request.args.getLast? != some "]" then fail "missing ']'" 2
  let args := if bracket then request.args.dropLast else request.args
  match PlainTest.evaluate ⟨(← get).tree, request.machine.directory⟩ args with
  | .ok value => setStatus (if value then 0 else 1)
  | .error e => fail e 2

end Disasm.Host.Utility
