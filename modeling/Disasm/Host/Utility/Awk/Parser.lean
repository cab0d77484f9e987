import Disasm.Host.Utility.Awk.Pattern
import Disasm.Host.Utility.Awk.Syntax
import Disasm.Host.Utility.Awk.Token

namespace Disasm.Host.Utility.Awk

inductive Use where
  | single
  | table
  deriving DecidableEq

structure Reading where
  rest : List Spot
  line : Nat := 1
  /-- Complaints, the last first, with their lines. -/
  complaints : List (Nat × String) := []
  uses : List (String × Use) := []
  functions : List (String × Function) := []
  /-- The parameters of the function that is read. -/
  params : Option (List String) := none
  /-- Calls: the function, the number of arguments and the line. -/
  calls : List (String × Nat × Nat) := []
  loops : Nat := 0
  /-- Whether the rule that is read is one for records. -/
  inRule : Bool := false

abbrev Parse := ExceptT Unit (StateM Reading)

/-- How an expression may be written: without a `>` outside of brackets, or without `in`. -/
structure Limits where
  noGreater : Bool := false

namespace Parse

def complain (message : String) : Parse Unit :=
  modify fun r => { r with complaints := (r.line, message) :: r.complaints }

def peek : Parse (Option Token) := do
  return ((← get).rest.head?).map Spot.token

def advance : Parse Unit :=
  modify fun r => match r.rest with
    | s :: rest => { r with rest := rest, line := s.line }
    | [] => r

def refuse {α : Type} : Parse α := do
  match (← get).rest with
  | s :: _ =>
    modify fun r => { r with line := s.line }
    match s.token with
    | .wrong message => complain message
    | .newline =>
      complain (if 0 < s.depth then "missing ) near end of line"
        else "syntax error at or near end of line")
    | t => complain ("syntax error at or near " ++ t.shown)
  | [] => complain "syntax error at or near end of line"
  throw ()

def isNext (w : String) : Parse Bool := do
  match ← peek with
  | some (.word v) => return v = w
  | _ => return false

def take (w : String) : Parse Bool := do
  if ← isNext w then
    advance
    return true
  else return false

def expect (w : String) : Parse Unit := do
  if !(← take w) then refuse

def takeOne (ws : List String) : Parse (Option String) := do
  match ← peek with
  | some (.word v) =>
    if ws.contains v then
      advance
      return some v
    else return none
  | _ => return none

def skipLines : Nat → Parse Unit
  | 0 => return
  | fuel + 1 => do
    match ← peek with
    | some .newline =>
      advance
      skipLines fuel
    | _ => return

def newlines : Parse Unit := do
  skipLines (← get).rest.length

def use (name : String) (kind : Use) : Parse Unit := do
  let r ← get
  if !(r.params.any (·.contains name)) then
    match r.uses.lookup name with
    | none => set { r with uses := (name, kind) :: r.uses }
    | some other =>
      if other != kind then
        complain ("illegal reference to " ++
          (if other = .table then "array " else "variable ") ++ name)

def regex (source : String) : Parse Regex := do
  match Pattern.ofText source.toList with
  | .ok e => return e
  | .error reason =>
    complain (Pattern.complaint reason source.toList)
    return .empty

/-- A name that is not followed by an opening bracket. -/
def tableName : Parse String := do
  match ← peek with
  | some (.name n) =>
    advance
    use n .table
    return n
  | _ => refuse

/-- Whether an expression can start with the next word, apart from signs. -/
def startsOperand : Parse Bool := do
  match ← peek with
  | some (.number ..) | some (.text ..) | some (.pattern _) | some (.name _) | some (.function _)
  | some (.builtin _) => return true
  | some (.word w) => return w = "$" || w = "(" || w = "++" || w = "--"
  | _ => return false

def isTarget : Expr → Bool
  | .name _ | .element .. | .field _ => true
  | _ => false

def assignments : List (String × Option Operation) := [
  ("=", none), ("+=", some .add), ("-=", some .subtract), ("*=", some .multiply),
  ("/=", some .divide), ("%=", some .remainder), ("^=", some .power)]

def relations : List (String × Relation) := [
  ("<", .less), ("<=", .lessEqual), ("==", .equal), ("!=", .notEqual), (">", .greater),
  (">=", .greaterEqual)]

end Parse

open Parse

mutual

def expr (l : Limits) : Nat → Parse Expr
  | 0 => refuse
  | fuel + 1 => do
    let c ← eitherExpr l fuel
    if ← take "?" then
      newlines
      let a ← expr l fuel
      newlines
      expect ":"
      newlines
      return .choose c a (← expr l fuel)
    else return c
termination_by structural fuel => fuel

def eitherExpr (l : Limits) : Nat → Parse Expr
  | 0 => refuse
  | fuel + 1 => do eitherBehind l (← bothExpr l fuel) fuel
termination_by structural fuel => fuel

def eitherBehind (l : Limits) (a : Expr) : Nat → Parse Expr
  | 0 => refuse
  | fuel + 1 => do
    if ← take "||" then
      newlines
      eitherBehind l (.either a (← bothExpr l fuel)) fuel
    else return a
termination_by structural fuel => fuel

def bothExpr (l : Limits) : Nat → Parse Expr
  | 0 => refuse
  | fuel + 1 => do bothBehind l (← memberExpr l fuel) fuel
termination_by structural fuel => fuel

def bothBehind (l : Limits) (a : Expr) : Nat → Parse Expr
  | 0 => refuse
  | fuel + 1 => do
    if ← take "&&" then
      newlines
      bothBehind l (.both a (← memberExpr l fuel)) fuel
    else return a
termination_by structural fuel => fuel

def memberExpr (l : Limits) : Nat → Parse Expr
  | 0 => refuse
  | fuel + 1 => do memberBehind l (← matchExpr l fuel) fuel
termination_by structural fuel => fuel

def memberBehind (l : Limits) (a : Expr) : Nat → Parse Expr
  | 0 => refuse
  | fuel + 1 => do
    if ← take "in" then memberBehind l (.isMember [a] (← tableName)) fuel
    else return a
termination_by structural fuel => fuel

def matchExpr (l : Limits) : Nat → Parse Expr
  | 0 => refuse
  | fuel + 1 => do matchBehind l (← relationExpr l fuel) fuel
termination_by structural fuel => fuel

def matchBehind (l : Limits) (a : Expr) : Nat → Parse Expr
  | 0 => refuse
  | fuel + 1 => do
    match ← takeOne ["~", "!~"] with
    | some w =>
      let b ← relationExpr l fuel
      let b ← match b with
        | .text s => do pure (.pattern (← regex s))
        | b => pure b
      matchBehind l (.isMatch (w = "!~") a b) fuel
    | none => return a
termination_by structural fuel => fuel

def relationExpr (l : Limits) : Nat → Parse Expr
  | 0 => refuse
  | fuel + 1 => do relationBehind l (← joined l fuel) fuel
termination_by structural fuel => fuel

def relationBehind (l : Limits) (a : Expr) : Nat → Parse Expr
  | 0 => refuse
  | fuel + 1 => do
    let known := (relations.map Prod.fst).filter fun w => !(l.noGreater && w = ">")
    match ← takeOne known with
    | some w =>
      let b ← joined l fuel
      relationBehind l (.relate ((relations.lookup w).getD .equal) a b) fuel
    | none => return a
termination_by structural fuel => fuel

def joined (l : Limits) : Nat → Parse Expr
  | 0 => refuse
  | fuel + 1 => do joinedBehind l (← sum l fuel) fuel
termination_by structural fuel => fuel

def joinedBehind (l : Limits) (a : Expr) : Nat → Parse Expr
  | 0 => refuse
  | fuel + 1 => do
    if ← startsOperand then joinedBehind l (.operate .join a (← sum l fuel)) fuel
    else return a
termination_by structural fuel => fuel

def sum (l : Limits) : Nat → Parse Expr
  | 0 => refuse
  | fuel + 1 => do sumBehind l (← product l fuel) fuel
termination_by structural fuel => fuel

def sumBehind (l : Limits) (a : Expr) : Nat → Parse Expr
  | 0 => refuse
  | fuel + 1 => do
    match ← takeOne ["+", "-"] with
    | some w =>
      let b ← product l fuel
      sumBehind l (.operate (if w = "+" then .add else .subtract) a b) fuel
    | none => return a
termination_by structural fuel => fuel

def product (l : Limits) : Nat → Parse Expr
  | 0 => refuse
  | fuel + 1 => do productBehind l (← signed l fuel) fuel
termination_by structural fuel => fuel

def productBehind (l : Limits) (a : Expr) : Nat → Parse Expr
  | 0 => refuse
  | fuel + 1 => do
    match ← takeOne ["*", "/", "%"] with
    | some w =>
      let b ← signed l fuel
      let o : Operation := if w = "*" then .multiply else if w = "/" then .divide else .remainder
      productBehind l (.operate o a b) fuel
    | none => return a
termination_by structural fuel => fuel

def signed (l : Limits) : Nat → Parse Expr
  | 0 => refuse
  | fuel + 1 => do
    match ← takeOne ["!", "-", "+"] with
    | some "!" => return .denied (← signed l fuel)
    | some "-" => return .negative (← signed l fuel)
    | some _ => return .positive (← signed l fuel)
    | none => pipedBehind l (← power l fuel) fuel
termination_by structural fuel => fuel

def pipedBehind (l : Limits) (a : Expr) : Nat → Parse Expr
  | 0 => refuse
  | fuel + 1 => do
    match (← get).rest with
    | ⟨.word "|", _, _⟩ :: ⟨.word "getline", _, _⟩ :: _ =>
      advance
      advance
      pipedBehind l (.readCommand (← readTarget l fuel) a) fuel
    | _ => return a
termination_by structural fuel => fuel

def power (l : Limits) : Nat → Parse Expr
  | 0 => refuse
  | fuel + 1 => do
    let a ← stepped l fuel
    if ← take "^" then
      match ← takeOne ["!", "-", "+"] with
      | some "!" => return .operate .power a (.denied (← power l fuel))
      | some "-" => return .operate .power a (.negative (← power l fuel))
      | some _ => return .operate .power a (← power l fuel)
      | none => return .operate .power a (← power l fuel)
    else return a
termination_by structural fuel => fuel

/-- An operand with what stands right behind it. -/
def stepped (l : Limits) : Nat → Parse Expr
  | 0 => refuse
  | fuel + 1 => do
    let a ← primary l fuel
    if isTarget a then
      match ← takeOne (["++", "--"] ++ assignments.map Prod.fst) with
      | some "++" => return .step 1 false a
      | some "--" => return .step (-1) false a
      | some w =>
        newlines
        return .assign ((assignments.lookup w).getD none) a (← expr l fuel)
      | none => return a
    else return a
termination_by structural fuel => fuel

def readTarget (l : Limits) : Nat → Parse (Option Expr)
  | 0 => refuse
  | fuel + 1 => do
    match ← peek with
    | some (.name _) | some (.word "$") => return some (← primary l fuel)
    | _ => return none
termination_by structural fuel => fuel

def primary (l : Limits) : Nat → Parse Expr
  | 0 => refuse
  | fuel + 1 => do
    match ← peek with
    | some (.number _ x) =>
      advance
      return .number x
    | some (.text _ s) =>
      advance
      return .text s
    | some (.pattern s) =>
      advance
      return .pattern (← regex s)
    | some (.name n) =>
      advance
      if ← take "[" then
        use n .table
        let index ← list fuel
        expect "]"
        return .element n index
      else if (← get).functions.any (·.1 = n) && (← isNext "(") then callOf n fuel
      else
        if !(← isNext "in") then use n .single
        return .name n
    | some (.function n) =>
      advance
      callOf n fuel
    | some (.builtin n) =>
      advance
      builtinOf n fuel
    | some (.word "$") =>
      advance
      match ← takeOne ["++", "--", "-", "+", "!"] with
      | some "++" => return .field (.step 1 true (← primary l fuel))
      | some "--" => return .field (.step (-1) true (← primary l fuel))
      | some "-" => return .field (.negative (← primary l fuel))
      | some "!" => return .field (.denied (← primary l fuel))
      | _ => return .field (← primary l fuel)
    | some (.word "++") =>
      advance
      match ← readTarget l fuel with
      | some a => return .step 1 true a
      | none => refuse
    | some (.word "--") =>
      advance
      match ← readTarget l fuel with
      | some a => return .step (-1) true a
      | none => refuse
    | some (.word "-") =>
      advance
      return .negative (← power l fuel)
    | some (.word "getline") =>
      advance
      let target ← readTarget l fuel
      if ← take "<" then return .readFile target (← stepped { noGreater := true } fuel)
      else return .readNext target
    | some (.word "(") =>
      advance
      let es ← list fuel
      expect ")"
      match es with
      | [e] => return .group e
      | _ => if ← take "in" then return .isMember es (← tableName) else refuse
    | _ => refuse
termination_by structural fuel => fuel

def list : Nat → Parse (List Expr)
  | 0 => refuse
  | fuel + 1 => do
    let e ← expr {} fuel
    if ← take "," then
      newlines
      return e :: (← list fuel)
    else return [e]
termination_by structural fuel => fuel

/-- The arguments of a function, which may be names of tables. -/
def arguments : Nat → Parse (List Expr)
  | 0 => refuse
  | fuel + 1 => do
    let e ← match (← get).rest with
      | ⟨.name n, _, _⟩ :: ⟨.word w, _, _⟩ :: _ =>
        if w = "," || w = ")" then do
          advance
          pure (Expr.name n)
        else expr {} fuel
      | _ => expr {} fuel
    if ← take "," then
      newlines
      return e :: (← arguments fuel)
    else return [e]
termination_by structural fuel => fuel

def callOf (n : String) : Nat → Parse Expr
  | 0 => refuse
  | fuel + 1 => do
    expect "("
    let args ← if ← isNext ")" then pure [] else arguments fuel
    modify fun r => { r with calls := (n, args.length, r.line) :: r.calls }
    expect ")"
    return .call n args
termination_by structural fuel => fuel

def builtinOf (n : String) : Nat → Parse Expr
  | 0 => refuse
  | fuel + 1 => do
    if n = "length" && !(← isNext "(") then return .builtin n []
    expect "("
    let args ←
      if ← isNext ")" then pure []
      else if n = "split" then do
        let s ← expr {} fuel
        expect ","
        newlines
        let t ← tableName
        if ← take "," then
          newlines
          pure [s, .name t, ← expr {} fuel]
        else pure [s, .name t]
      else if n = "length" then do
        match (← get).rest with
        | ⟨.name n, _, _⟩ :: ⟨.word ")", _, _⟩ :: _ =>
          advance
          pure [Expr.name n]
        | _ => pure [← expr {} fuel]
      else list fuel
    expect ")"
    let (least, most) := (Token.builtins.lookup n).getD (0, 1000)
    if args.length < least || most < args.length then
      complain ("wrong number of arguments in call to " ++ n)
    return .builtin n args
termination_by structural fuel => fuel

end

namespace Parse

/-- Whether a statement ends in front of the next word. -/
def atEnd : Parse Bool := do
  match ← peek with
  | some .newline | some (.word ";") | some (.word "\x7d") | none => return true
  | _ => return false

/-- Takes the end of a statement. A closing brace stays. -/
def terminator : Parse Unit := do
  match ← peek with
  | some .newline | some (.word ";") =>
    advance
    newlines
  | some (.word "\x7d") => return
  | _ => refuse

/-- Tries to read something, and goes back if it cannot be read. -/
def attempt {α : Type} (p : Parse (Option α)) : Parse (Option α) := do
  let before ← get
  match (p.run.run before) with
  | (.ok (some a), r) =>
    set r
    return some a
  | _ => return none

/-- Expressions that are printed, with nothing that sends output elsewhere. -/
def printed (fuel : Nat) : Nat → Parse (List Expr)
  | 0 => refuse
  | n + 1 => do
    let e ← expr { noGreater := true } fuel
    if ← take "," then
      newlines
      return e :: (← printed fuel n)
    else return [e]

/-- Where output goes, if the statement says so. -/
def direction (fuel : Nat) : Parse (Option (Direction × Expr)) := do
  match ← takeOne [">", ">>", "|"] with
  | some ">" => return some (.file, ← expr { noGreater := true } fuel)
  | some ">>" => return some (.fileEnd, ← expr { noGreater := true } fuel)
  | some _ => return some (.command, ← expr { noGreater := true } fuel)
  | none => return none

/-- Whether output can be sent elsewhere, or the statement ends here. -/
def endsPrinted : Parse Bool := do
  if ← atEnd then return true
  match ← peek with
  | some (.word w) => return w = ">" || w = ">>" || w = "|"
  | _ => return false

def printStatement (isFormatted : Bool) (fuel : Nat) : Parse Statement := do
  let inBrackets ← attempt (do
    if ← take "(" then
      let es ← if ← isNext ")" then pure [] else list fuel
      expect ")"
      return if ← endsPrinted then some es else none
    else return none)
  let args ← match inBrackets with
    | some es => pure es
    | none => if ← endsPrinted then pure [] else printed fuel fuel
  if isFormatted && args.isEmpty then complain "no arguments in call to printf"
  return .print isFormatted args (← direction fuel)

def simple (fuel : Nat) : Parse Statement := do
  let r ← get
  let optional : Parse (Option Expr) := do
    if ← atEnd then return none else return some (← expr {} fuel)
  match ← takeOne ["print", "printf", "next", "nextfile", "break", "continue", "exit", "return",
      "delete"] with
  | some "print" => printStatement false fuel
  | some "printf" => printStatement true fuel
  | some "next" =>
    if !r.inRule && r.params.isNone then complain "improper use of next"
    return .next
  | some "nextfile" =>
    if !r.inRule && r.params.isNone then complain "improper use of nextfile"
    return .nextFile
  | some "break" =>
    if r.loops = 0 then complain "break statement outside of loop"
    return .breakLoop
  | some "continue" =>
    if r.loops = 0 then complain "continue statement outside of loop"
    return .continueLoop
  | some "exit" => return .exit (← optional)
  | some "return" =>
    if r.params.isNone then complain "return outside function body"
    return .giveBack (← optional)
  | some _ =>
    let n ← tableName
    if ← take "[" then
      let index ← list fuel
      expect "]"
      return .delete n index
    else return .delete n []
  | none => return .value (← expr {} fuel)

def inLoop {α : Type} (p : Parse α) : Parse α := do
  modify fun r => { r with loops := r.loops + 1 }
  let a ← p
  modify fun r => { r with loops := r.loops - 1 }
  return a

end Parse

mutual

/-- A statement that belongs to another one; it may be missing in front of a closing brace. -/
def inner : Nat → Parse Statement
  | 0 => refuse
  | fuel + 1 => do
    newlines
    if ← isNext "\x7d" then return .block [] else statement fuel
termination_by structural fuel => fuel

def statement : Nat → Parse Statement
  | 0 => refuse
  | fuel + 1 => do
    match ← takeOne ["\x7b", "if", "while", "do", "for", ";"] with
    | some "\x7b" =>
      let body ← statements fuel
      expect "\x7d"
      match ← peek with
      | some (.word ";") | some .newline =>
        advance
        newlines
      | _ => pure ()
      return .block body
    | some "if" =>
      expect "("
      let c ← expr {} fuel
      expect ")"
      let a ← inner fuel
      newlines
      if ← take "else" then return .choice c a (← inner fuel)
      else return .choice c a (.block [])
    | some "while" =>
      expect "("
      let c ← expr {} fuel
      expect ")"
      if ← take ";" then
        newlines
        return .loop c (.block []) (.block [])
      return .loop c (← inLoop (inner fuel)) (.block [])
    | some "do" =>
      newlines
      let body ← inLoop (statement fuel)
      newlines
      expect "while"
      expect "("
      let c ← expr {} fuel
      expect ")"
      terminator
      return .loopBehind body c
    | some "for" => forStatement fuel
    | some _ =>
      newlines
      return .block []
    | none =>
      let s ← simple fuel
      terminator
      return s
termination_by structural fuel => fuel

def forStatement : Nat → Parse Statement
  | 0 => refuse
  | fuel + 1 => do
    expect "("
    match (← get).rest with
    | ⟨.name n, _, _⟩ :: ⟨.word "in", _, _⟩ :: ⟨.name t, _, _⟩ :: ⟨.word ")", _, _⟩ :: _ =>
      (List.range 4).forM fun _ => advance
      use n .single
      use t .table
      return .forEach n t (← inLoop (inner fuel))
    | _ =>
      let start ← if ← isNext ";" then pure (Statement.block []) else simple fuel
      expect ";"
      newlines
      let c ← if ← isNext ";" then pure (Expr.number 1) else expr {} fuel
      expect ";"
      newlines
      let step ← if ← isNext ")" then pure (Statement.block []) else simple fuel
      expect ")"
      let body ← if ← take ";" then do
          newlines
          pure (Statement.block [])
        else inLoop (inner fuel)
      return .block [start, .loop c body step]
termination_by structural fuel => fuel

def statements : Nat → Parse (List Statement)
  | 0 => refuse
  | fuel + 1 => do
    newlines
    if ← isNext "\x7d" then return []
    else
      let s ← statement fuel
      return s :: (← statements fuel)
termination_by structural fuel => fuel

end

namespace Parse

def body (fuel : Nat) : Parse Statement := do
  expect "\x7b"
  let ss ← statements fuel
  expect "\x7d"
  return .block ss

/-- The parameters of a function up to the closing bracket. -/
def parameters : Nat → Parse (List String)
  | 0 => refuse
  | fuel + 1 => do
    match ← peek with
    | some (.name n) =>
      advance
      if ← take "," then
        newlines
        return n :: (← parameters fuel)
      else
        expect ")"
        return [n]
    | some (.word ")") =>
      advance
      return []
    | _ => refuse

def functionItem (fuel : Nat) : Parse Unit := do
  let n ← match ← peek with
    | some (.name n) | some (.function n) => do
      advance
      pure n
    | _ => refuse
  expect "("
  let params ← parameters fuel
  newlines
  if (← get).functions.any (·.1 = n) then
    complain ("redefinition of " ++ n)
    throw ()
  modify fun r => { r with
    params := some params, functions := (n, ⟨params, .block []⟩) :: r.functions }
  let b ← body fuel
  modify fun r => { r with params := none, functions := (n, ⟨params, b⟩) :: r.functions }

def items (fuel : Nat) (p : Program) : Nat → Parse Program
  | 0 => refuse
  | n + 1 => do
    newlines
    match ← peek with
    | none => return p
    | some (.word ";") =>
      advance
      items fuel p n
    | some (.word "function") =>
      advance
      functionItem fuel
      items fuel p n
    | some (.word "BEGIN") =>
      advance
      let b ← body fuel
      items fuel { p with begins := p.begins ++ [b] } n
    | some (.word "END") =>
      advance
      let b ← body fuel
      items fuel { p with ends := p.ends ++ [b] } n
    | _ =>
      modify fun r => { r with inRule := true }
      let condition ←
        if ← isNext "\x7b" then pure Condition.all
        else do
          let e ← expr {} fuel
          if ← take "," then
            newlines
            pure (Condition.range e (← expr {} fuel))
          else pure (Condition.one e)
      let b ←
        if ← isNext "\x7b" then body fuel
        else if ← atEnd then pure (Statement.print false [] none)
        else refuse
      modify fun r => { r with inRule := false }
      items fuel { p with rules := p.rules ++ [(condition, b)] } n

/-- Complains about calls that do not fit their functions. -/
def checkCalls : Parse Unit := do
  let r ← get
  r.calls.reverse.forM fun (n, count, line) => do
    match r.functions.lookup n with
    | some f =>
      if f.params.length < count then
        modify fun r => { r with
          complaints := (line, "too many arguments in call to " ++ n) :: r.complaints }
    | none => complain ("function " ++ n ++ " never defined")

end Parse

/-- The program that a text is, or what there is to complain about, with the lines. -/
def Program.ofText (source : String) : Except (List (Nat × String)) Program :=
  let words := Scan.ofText source
  let fuel := 40 * words.found.length + 100
  let whole : Parse Program := do
    let p ← items fuel {} fuel
    if !words.extra.isEmpty then complain "syntax error at or near end of line"
    modify fun r => { r with line := r.line + 1 }
    checkCalls
    return p
  match whole.run.run { rest := words.found, complaints := words.extra.reverse } with
  | (.ok p, r) =>
    if r.complaints.isEmpty then .ok { p with functions := r.functions }
    else .error r.complaints.reverse
  | (.error _, r) => .error r.complaints.reverse

end Disasm.Host.Utility.Awk
