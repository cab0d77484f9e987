import Disasm.Host.Regex
import Disasm.Host.Utility.Print

namespace Disasm.Host.Utility.Awk.Pattern

/-- What is still to be read, and how many groups are open. -/
structure Source where
  rest : List Char
  depth : Nat := 0

abbrev Reading := StateT Source (Except String)

def setRest (rest : List Char) : Reading Unit :=
  modify fun s => { s with rest := rest }

def missingOperand : String := "missing operand"

def badClass : String := "bad class -- [], [^] or ["

/-- The character behind a backslash, and what follows. -/
def escaped (c : Char) (rest : List Char) : Char × List Char :=
  match [('n', '\n'), ('t', '\t'), ('r', '\r'), ('f', '\x0C'), ('v', '\x0B'), ('a', '\x07'),
      ('b', '\x08')].lookup c with
  | some d => (d, rest)
  | none =>
    if isOctal c then
      let ds := ((c :: rest).take 3).takeWhile isOctal
      (charOf 8 ds, (c :: rest).drop ds.length)
    else if c = 'x' && (rest.head?.bind hexDigit?).isSome then
      let ds := (rest.take 2).takeWhile fun c => (hexDigit? c).isSome
      (charOf 16 ds, rest.drop ds.length)
    else (c, rest)

/-- A range, from the lesser character to the greater one. -/
def ordered (c d : Char) : SetItem :=
  if d < c then .range d c else .range c d

def setChar : List Char → Option (Char × List Char)
  | '\\' :: c :: rest => some (escaped c rest)
  | c :: rest => some (c, rest)
  | [] => none

/-- The items of a set up to its closing bracket. -/
def setItems (done : List SetItem) : Nat → List Char → Except String (List SetItem × List Char)
  | 0, _ | _, [] => .error badClass
  | fuel + 1, '[' :: ':' :: rest =>
    let name := rest.takeWhile (· != ':')
    match rest.drop name.length with
    | ':' :: ']' :: behind =>
      if (charClasses.lookup (String.ofList name)).isNone then .error badClass
      else setItems (.named (String.ofList name) :: done) fuel behind
    | _ => setItems (.range '[' '[' :: done) fuel (':' :: rest)
  | fuel + 1, cs@(c :: rest) =>
    if c = ']' && !done.isEmpty then .ok (done.reverse, rest)
    else match setChar cs with
      | none => .error badClass
      | some (c, '-' :: ']' :: rest) => setItems (.range c c :: done) fuel ('-' :: ']' :: rest)
      | some (c, '-' :: rest) =>
        match setChar rest with
        | some (d, rest) => setItems (ordered c d :: done) fuel rest
        | none => .error badClass
      | some (c, rest) => setItems (.range c c :: done) fuel rest

mutual

def alternatives : Nat → Reading Regex
  | 0 => throw missingOperand
  | fuel + 1 => do
    let a ← branch none fuel
    match (← get).rest with
    | '|' :: rest =>
      setRest rest
      return .alt a (← alternatives fuel)
    | _ => return a
termination_by structural fuel => fuel

/-- The pieces of a branch behind those that were read. -/
def branch (done : Option Regex) : Nat → Reading Regex
  | 0 => throw missingOperand
  | fuel + 1 => do
    let s ← get
    let ends := match s.rest with
      | [] | '|' :: _ => true
      | ')' :: _ => 0 < s.depth
      | _ => false
    if ends then
      match done with
      | some e => return e
      | none => throw (if s.rest.isEmpty && 0 < s.depth then "missing ')'" else missingOperand)
    let a ← repeated (← atom fuel) fuel
    branch (some (done.elim a (Regex.seq · a))) fuel
termination_by structural fuel => fuel

def repeated (a : Regex) : Nat → Reading Regex
  | 0 => throw missingOperand
  | fuel + 1 => do
    match Regex.repetition? { extended := true } (← get).rest with
    | some (least, most, rest) =>
      setRest rest
      repeated (.many a least most) fuel
    | none => return a
termination_by structural fuel => fuel

def atom : Nat → Reading Regex
  | 0 => throw missingOperand
  | fuel + 1 => do
    match (← get).rest with
    | [] => throw missingOperand
    | c :: rest =>
      setRest rest
      match c, rest with
      | '*', _ | '+', _ | '?', _ => throw missingOperand
      | '(', _ =>
        modify fun s => { s with depth := s.depth + 1 }
        let e ← alternatives fuel
        match (← get).rest with
        | ')' :: rest =>
          modify fun s => { s with rest := rest, depth := s.depth - 1 }
          return .group 0 e
        | _ => throw "missing ')'"
      | '[', '^' :: more =>
        let (items, more) ← setItems [] more.length more
        setRest more
        return .oneOf true items
      | '[', _ =>
        let (items, more) ← setItems [] rest.length rest
        setRest more
        return .oneOf false items
      | '.', _ => return .any
      | '^', _ => return .start
      | '$', _ => return .finish
      | '\\', d :: more =>
        let (d, more) := escaped d more
        setRest more
        return .char d
      | c, _ => return .char c
termination_by structural fuel => fuel

end

def ofText (cs : List Char) : Except String Regex :=
  if cs.isEmpty then .ok .empty
  else do
    let (e, _) ← (alternatives (8 * cs.length + 16)).run ⟨cs, 0⟩
    return e

/-- What is said about a text that is no expression. -/
def complaint (reason : String) (cs : List Char) : String :=
  "regular expression compile failed (" ++ reason ++ ")\n" ++ String.ofList cs

end Disasm.Host.Utility.Awk.Pattern
