import Disasm.Host.Regex
import Disasm.Host.Utility.Basic

namespace Disasm.Host.Utility.Expr

/-- Why an expression has no value, and the status that it gives. -/
structure Failure where
  message : String
  status : Nat := 2

/-- What is left of the arguments, and the one in front of it. -/
structure Source where
  rest : List String
  previous : String := ""

abbrev Reading := StateT Source (Except Failure)

def stop {α : Type} (message : String) (status : Nat := 2) : Reading α :=
  throw ⟨message, status⟩

def next : Reading String := do
  let s ← get
  match s.rest with
  | [] => stop ("syntax error: missing argument after " ++ quote s.previous)
  | a :: rest =>
    set (Source.mk rest a)
    return a

/-- Takes one of some operators, if it comes next. -/
def operator? (ops : List String) : Reading (Option String) := do
  match (← get).rest with
  | a :: _ =>
    if ops.contains a then return some (← next) else return none
  | [] => return none

def isNull (s : String) : Bool :=
  s.isEmpty || (match s.toList with
    | '-' :: ds => !ds.isEmpty && ds.all (· = '0')
    | ds => ds.all (· = '0'))

def integer (s : String) : Reading Int := do
  if s.startsWith "+" then stop "non-integer argument"
  match whole? s with
  | some n => return n
  | none => stop "non-integer argument"

/-- What a pattern covers at the start of a text: its first group, or how much it is. -/
def covered (s p : String) : Reading String := do
  match Regex.ofText {} p.toList with
  | .error message => stop message
  | .ok e =>
    let subject : Regex.Subject := { text := s.toList.toArray }
    let grouped := hasGroup e
    match Regex.longest? subject e 0 with
    | none => return if grouped then "" else "0"
    | some q =>
      if grouped then
        let groups := (Regex.attempt subject e
          (fun r groups => if r = q then some groups else none) 0 []).getD []
        match groups.lookup 1 with
        | some (first, last) => return String.ofList ((s.toList.drop first).take (last - first))
        | none => return ""
      else return toString q
where
  hasGroup : Regex → Bool
    | .group _ _ => true
    | .seq a b | .alt a b => hasGroup a || hasGroup b
    | .many e _ _ => hasGroup e
    | _ => false

def arithmetic (op : String) (a b : Int) : Reading String := do
  match op with
  | "+" => return toString (a + b)
  | "-" => return toString (a - b)
  | "*" => return toString (a * b)
  | "/" => if b = 0 then stop "division by zero" else return toString (a.tdiv b)
  | _ => if b = 0 then stop "division by zero" else return toString (a.tmod b)

def compared (op : String) (a b : String) : String :=
  let order := match whole? a, whole? b with
    | some m, some n => compare m n
    | _, _ => compare a b
  let holds : Bool := match op with
    | "<" => order = .lt
    | "<=" => order != .gt
    | "=" | "==" => order = .eq
    | "!=" => order != .eq
    | ">" => order = .gt
    | _ => order != .lt
  if holds then "1" else "0"

/-- The operators of every level, from those that bind least on. -/
def levels : List (List String) :=
  [["|"], ["&"], ["<", "<=", "=", "==", "!=", ">=", ">"], ["+", "-"], ["*", "/", "%"], [":"]]

def apply (op a b : String) : Reading String := do
  match op with
  | "|" => return if !isNull a then a else if isNull b then "0" else b
  | "&" => return if isNull a || isNull b then "0" else a
  | ":" => covered a b
  | "+" | "-" | "*" | "/" | "%" => arithmetic op (← integer a) (← integer b)
  | _ => return compared op a b

mutual

def level (ls : List (List String)) : Nat → Reading String
  | 0 => stop "syntax error"
  | fuel + 1 => do
    match ls with
    | [] => primary fuel
    | ops :: rest => behind ops rest (← level rest fuel) fuel
termination_by structural fuel => fuel

def behind (ops : List String) (rest : List (List String)) (a : String) : Nat → Reading String
  | 0 => stop "syntax error"
  | fuel + 1 => do
    match ← operator? ops with
    | none => return a
    | some op => behind ops rest (← apply op a (← level rest fuel)) fuel
termination_by structural fuel => fuel

def primary : Nat → Reading String
  | 0 => stop "syntax error"
  | fuel + 1 => do
    let a ← next
    match a with
    | "(" =>
      let v ← level levels fuel
      match (← get).rest with
      | ")" :: rest =>
        set (Source.mk rest ")")
        return v
      | [] => stop ("syntax error: expecting ')' after " ++ quote (← get).previous)
      | b :: _ => stop ("syntax error: expecting ')' instead of " ++ quote b)
    | ")" => stop "syntax error: unexpected ')'"
    | "+" => next
    | "length" => return toString (← primary fuel).length
    | "match" =>
      let s ← primary fuel
      covered s (← primary fuel)
    | "index" =>
      let s ← primary fuel
      let cs := (← primary fuel).toList
      return toString ((s.toList.findIdx? cs.contains).elim 0 (· + 1))
    | "substr" =>
      let s ← primary fuel
      let first ← primary fuel
      let length ← primary fuel
      match whole? first, whole? length with
      | some p, some n =>
        if p ≤ 0 || n ≤ 0 then return ""
        else return String.ofList ((s.toList.drop (p.toNat - 1)).take n.toNat)
      | _, _ => return ""
    | a => return a
termination_by structural fuel => fuel

end

def value (args : List String) : Except Failure String := do
  let (v, s) ← (level levels (16 * args.length + 32)).run ⟨args, ""⟩
  match s.rest with
  | [] => return v
  | extra :: _ => throw ⟨"syntax error: unexpected argument " ++ quote extra, 2⟩

end Expr

def expr : Work Unit := do
  let args := match (← read).args with
    | "--" :: rest => rest
    | args => args
  if args.isEmpty then misuse "missing operand" 2
  match Expr.value args with
  | .error e => fail e.message e.status
  | .ok v =>
    outText (v ++ "\n")
    setStatus (if Expr.isNull v then 1 else 0)

end Disasm.Host.Utility
