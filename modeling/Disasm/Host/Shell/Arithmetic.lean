import Disasm.Host.Shell.Syntax

namespace Disasm.Host.Shell

inductive BinaryOperator where
  | times | over | modulo | plus | minus | shiftLeft | shiftRight
  | less | lessOrEqual | greater | greaterOrEqual | equal | different
  | bitAnd | bitXor | bitOr
  deriving DecidableEq

inductive UnaryOperator where
  | minus | not | complement
  deriving DecidableEq

inductive Expression where
  | number (n : Int)
  | variable (name : String)
  | unary (op : UnaryOperator) (e : Expression)
  | binary (op : BinaryOperator) (a b : Expression)
  | both (a b : Expression)
  | either (a b : Expression)
  | choice (condition good bad : Expression)
  | assign (name : String) (op : Option BinaryOperator) (e : Expression)

inductive ArithmeticError where
  | malformed (reason : String)
  | divisionByZero
  /-- The value of a variable is no number. -/
  | illegalNumber (text : String)

/-- The error as it is told about an expression. -/
def ArithmeticError.message (source : String) : ArithmeticError → String
  | .malformed reason => "arithmetic expression: " ++ reason ++ ": \"" ++ source ++ "\""
  | .divisionByZero => "arithmetic expression: division by zero: \"" ++ source ++ "\""
  | .illegalNumber text => "Illegal number: " ++ text

namespace Arithmetic

/-- The number of 64 bits with the same last bits. -/
def wrap (n : Int) : Int :=
  n.bmod (Nat.pow 2 64)

def clamp (n : Int) : Int :=
  max (-(Nat.pow 2 63)) (min (Nat.pow 2 63 - 1) n)

def digit? (c : Char) : Option Nat :=
  if c.isDigit then some (c.toNat - '0'.toNat)
  else if 'a' ≤ c && c ≤ 'f' then some (c.toNat - 'a'.toNat + 10)
  else if 'A' ≤ c && c ≤ 'F' then some (c.toNat - 'A'.toNat + 10)
  else none

/-- The number that some digits of a base start with, and what is left. -/
def digits (base : Nat) (n : Nat) : List Char → Nat × List Char
  | [] => (n, [])
  | c :: rest =>
    match digit? c with
    | some d => if d < base then digits base (n * base + d) rest else (n, c :: rest)
    | none => (n, c :: rest)

/-- An unsigned number at the start of a text: hexadecimal behind `0x`, octal behind `0`. -/
def literal (cs : List Char) : Nat × List Char :=
  match cs with
  | '0' :: x :: d :: rest =>
    if (x = 'x' || x = 'X') && ((digit? d).any (· < 16)) then digits 16 0 (d :: rest)
    else digits 8 0 cs
  | '0' :: _ => digits 8 0 cs
  | _ => digits 10 0 cs

/-- A number with blanks around it, as the value of a variable may be. Nothing is zero. -/
def value? (s : String) : Option Int :=
  let cs := s.toList.dropWhile Char.isWhitespace
  let (negative, body) := match cs with
    | '-' :: rest => (true, rest)
    | '+' :: rest => (false, rest)
    | _ => (false, cs)
  if cs.isEmpty then some 0
  else if !(body.headD ' ').isDigit then none
  else
    let (n, rest) := literal body
    if rest.all Char.isWhitespace then some (clamp (if negative then -n else n)) else none

inductive Token where
  | number (n : Int)
  | variable (name : String)
  | sign (s : String)
  deriving DecidableEq

def signs : List String :=
  ["<<=", ">>=", "<=", ">=", "==", "!=", "&&", "||", "<<", ">>", "*=", "/=", "%=", "+=", "-=",
    "&=", "^=", "|=", "<", ">", "=", "!", "~", "+", "-", "*", "/", "%", "&", "^", "|", "?", ":",
    "(", ")"]

/-- The tokens of an expression. What is no token is a sign that nothing asks for. -/
def tokens : Nat → List Char → List Token
  | 0, _ | _, [] => []
  | fuel + 1, c :: rest =>
    if c.isWhitespace then tokens fuel rest
    else if c.isDigit then
      let (n, rest) := literal (c :: rest)
      .number (clamp n) :: tokens fuel rest
    else if isNameStart c then
      let name := (c :: rest).takeWhile isNameChar
      .variable (String.ofList name) :: tokens fuel ((c :: rest).drop name.length)
    else
      match signs.find? fun s => s.toList.isPrefixOf (c :: rest) with
      | some s => .sign s :: tokens fuel ((c :: rest).drop s.length)
      | none => .sign (String.ofList [c]) :: tokens fuel rest

/-- The binary operators: from those that bind least to those that bind most. -/
def levels : List (List (String × BinaryOperator)) :=
  [[("|", .bitOr)], [("^", .bitXor)], [("&", .bitAnd)],
    [("==", .equal), ("!=", .different)],
    [("<", .less), ("<=", .lessOrEqual), (">", .greater), (">=", .greaterOrEqual)],
    [("<<", .shiftLeft), (">>", .shiftRight)],
    [("+", .plus), ("-", .minus)],
    [("*", .times), ("/", .over), ("%", .modulo)]]

/-- The operator that an assignment applies first. -/
def assignmentOperator? (s : String) : Option (Option BinaryOperator) :=
  if s = "=" then some none
  else if s.endsWith "=" then
    (levels.flatten.lookup (s.dropEnd 1).toString).bind fun op =>
      if [BinaryOperator.less, .greater].contains op then none else some (some op)
  else none

abbrev Reading := StateT (List Token) (Except ArithmeticError)

def malformed {α : Type} (reason : String) : Reading α :=
  throw (.malformed reason)

def sign? (s : String) : Reading Bool := do
  match ← get with
  | .sign t :: rest =>
    if s = t then
      set rest
      return true
    else return false
  | _ => return false

def operator? (ops : List (String × BinaryOperator)) : Reading (Option BinaryOperator) := do
  match ← get with
  | .sign t :: rest =>
    match ops.lookup t with
    | some op =>
      set rest
      return some op
    | none => return none
  | _ => return none

mutual

def assignment : Nat → Reading Expression
  | 0 => malformed "expecting primary"
  | fuel + 1 => do
    match ← get with
    | .variable name :: .sign s :: rest =>
      match assignmentOperator? s with
      | some op =>
        set rest
        return .assign name op (← assignment fuel)
      | none => conditional fuel
    | _ => conditional fuel
termination_by structural fuel => fuel

def conditional : Nat → Reading Expression
  | 0 => malformed "expecting primary"
  | fuel + 1 => do
    let condition ← eitherChain fuel
    if ← sign? "?" then
      let good ← assignment fuel
      if ← sign? ":" then return .choice condition good (← conditional fuel)
      else malformed "expecting ':'"
    else return condition
termination_by structural fuel => fuel

def eitherChain : Nat → Reading Expression
  | 0 => malformed "expecting primary"
  | fuel + 1 => do
    let a ← bothChain fuel
    if ← sign? "||" then return .either a (← eitherChain fuel) else return a
termination_by structural fuel => fuel

def bothChain : Nat → Reading Expression
  | 0 => malformed "expecting primary"
  | fuel + 1 => do
    let a ← binary levels fuel
    if ← sign? "&&" then return .both a (← bothChain fuel) else return a
termination_by structural fuel => fuel

/-- Operators of some levels, of one level from left to right. -/
def binary (levels : List (List (String × BinaryOperator))) : Nat → Reading Expression
  | 0 => malformed "expecting primary"
  | fuel + 1 => do
    match levels with
    | [] => primary fuel
    | ops :: levels => binaryBehind ops levels (← binary levels fuel) fuel
termination_by structural fuel => fuel

def binaryBehind (ops : List (String × BinaryOperator))
    (levels : List (List (String × BinaryOperator))) (a : Expression) : Nat → Reading Expression
  | 0 => malformed "expecting primary"
  | fuel + 1 => do
    match ← operator? ops with
    | some op => binaryBehind ops levels (.binary op a (← binary levels fuel)) fuel
    | none => return a
termination_by structural fuel => fuel

def primary : Nat → Reading Expression
  | 0 => malformed "expecting primary"
  | fuel + 1 => do
    match ← get with
    | .number n :: rest => set rest; return .number n
    | .variable name :: rest => set rest; return .variable name
    | .sign s :: rest =>
      set rest
      match s with
      | "(" =>
        let e ← assignment fuel
        if ← sign? ")" then return e else malformed "expecting ')'"
      | "+" => primary fuel
      | "-" => return .unary .minus (← primary fuel)
      | "!" => return .unary .not (← primary fuel)
      | "~" => return .unary .complement (← primary fuel)
      | _ => malformed "expecting primary"
    | [] => malformed "expecting primary"
termination_by structural fuel => fuel

end

/-- The expression that a text is. Blanks are zero. -/
def read (source : String) : Except ArithmeticError Expression :=
  let ts := tokens source.length source.toList
  if ts.isEmpty then .ok (.number 0)
  else
    match (assignment (16 * ts.length + 16)).run ts with
    | .error e => .error e
    | .ok (e, []) => .ok e
    | .ok _ => .error (.malformed "expecting EOF")

def truth (b : Bool) : Int :=
  if b then 1 else 0

def bits (n : Int) : Nat :=
  (n % Nat.pow 2 64).toNat

def apply (op : BinaryOperator) (a b : Int) : Except ArithmeticError Int :=
  match op with
  | .times => .ok (wrap (a * b))
  | .over => if b = 0 then .error .divisionByZero else .ok (wrap (a.tdiv b))
  | .modulo => if b = 0 then .error .divisionByZero else .ok (a.tmod b)
  | .plus => .ok (wrap (a + b))
  | .minus => .ok (wrap (a - b))
  | .shiftLeft => .ok (wrap (a * Nat.pow 2 (b % 64).toNat))
  | .shiftRight => .ok (a.fdiv (Nat.pow 2 (b % 64).toNat))
  | .less => .ok (truth (a < b))
  | .lessOrEqual => .ok (truth (a ≤ b))
  | .greater => .ok (truth (b < a))
  | .greaterOrEqual => .ok (truth (b ≤ a))
  | .equal => .ok (truth (a = b))
  | .different => .ok (truth (a ≠ b))
  | .bitAnd => .ok (wrap (bits a &&& bits b))
  | .bitXor => .ok (wrap (bits a ^^^ bits b))
  | .bitOr => .ok (wrap (bits a ||| bits b))

/-- The value of an expression in a work `m` that has variables. -/
def evaluate {m : Type → Type} [Monad m] (fail : {α : Type} → ArithmeticError → m α)
    (look : String → m Int) (store : String → Int → m Unit) : Expression → m Int
  | .number n => pure n
  | .variable name => look name
  | .unary op e => do
    let n ← evaluate fail look store e
    return match op with
      | .minus => wrap (-n)
      | .not => truth (n = 0)
      | .complement => -n - 1
  | .binary op a b => do
    let a ← evaluate fail look store a
    let b ← evaluate fail look store b
    match apply op a b with
    | .ok n => pure n
    | .error e => fail e
  | .both a b => do
    if (← evaluate fail look store a) = 0 then return 0
    return truth ((← evaluate fail look store b) ≠ 0)
  | .either a b => do
    if (← evaluate fail look store a) ≠ 0 then return 1
    return truth ((← evaluate fail look store b) ≠ 0)
  | .choice condition good bad => do
    if (← evaluate fail look store condition) ≠ 0 then evaluate fail look store good
    else evaluate fail look store bad
  | .assign name op e => do
    let b ← evaluate fail look store e
    let n ← match op with
      | none => pure b
      | some op =>
        match apply op (← look name) b with
        | .ok n => pure n
        | .error e => fail e
    store name n
    return n

end Arithmetic

end Disasm.Host.Shell
