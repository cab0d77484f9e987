import Disasm.Host.CharClass
import Disasm.Host.Machine

namespace Disasm.Host.Utility

open Tool

structure Progress where
  status : Nat := 0
  /-- What was written, the last first, with its descriptor. -/
  written : List (Nat × List Char) := []
  /-- What can be read, if the input is open. -/
  input : Option (List Char)
  tree : FileTree

structure Request where
  /-- The name by which the utility was called. -/
  called : String
  args : List String
  machine : Machine
  /-- Whether what was read and not used can be put back. -/
  seekable : Bool
  /-- Runs a text as a script of the shell. -/
  shell : String → Progress → Progress := fun _ p => p

abbrev Work := ExceptT Unit (ReaderT Request (StateM Progress))

def out (cs : List Char) : Work Unit :=
  modify fun p => { p with written := (1, cs) :: p.written }

def outText (s : String) : Work Unit :=
  out s.toList

def setStatus (n : Nat) : Work Unit :=
  modify fun p => { p with status := n }

def finish {α : Type} (status : Nat) : Work α := do
  setStatus status
  throw ()

def called : Work String := do
  return (← read).called

def errLine (s : String) : Work Unit :=
  modify fun p => { p with written := (2, (s ++ "\n").toList) :: p.written }

/-- Writes a message, with the name of the utility in front. -/
def warn (message : String) : Work Unit := do
  errLine ((← called) ++ ": " ++ message)

def fail {α : Type} (message : String) (status : Nat := 1) : Work α := do
  warn message
  finish status

def seeHelp {α : Type} (status : Nat := 1) : Work α := do
  let name ← called
  errLine ("Try '" ++ name ++ " --help' for more information.")
  finish status

def misuse {α : Type} (message : String) (status : Nat := 1) : Work α := do
  warn message
  seeHelp status

def octalText (width n : Nat) : List Char :=
  let ds := Nat.toDigits 8 n
  List.replicate (width - ds.length) '0' ++ ds

/-- The letter of a control character behind a backslash. -/
def controlLetter? (c : Char) : Option Char :=
  [('\x07', 'a'), ('\x08', 'b'), ('\x09', 't'), ('\x0A', 'n'), ('\x0B', 'v'), ('\x0C', 'f'),
    ('\x0D', 'r')].lookup c

/-- A character behind a backslash, if it has to be written so. -/
def escapedControl (c : Char) : List Char :=
  match controlLetter? c with
  | some l => ['\\', l]
  | none => '\\' :: octalText 3 c.toNat

/-- A text between single quotes, with backslashes in front of what is special. -/
def quote (s : String) : String :=
  "'" ++ String.ofList (s.toList.flatMap fun c =>
    if c = '\'' || c = '\\' then ['\\', c]
    else if isPrintable c then [c]
    else escapedControl c) ++ "'"

/-- A text in quotes as a shell reads it, where unprintable characters stand in quotes of their
own. -/
def shellQuoted (s : String) : String :=
  let cs := s.toList
  let harmless (c : Char) : Bool :=
    isPrintable c && !(['"', '$', '\x60', '\\', '!'].contains c)
  if cs.contains '\'' && cs.all harmless then
    "\"" ++ s ++ "\""
  else
    let step (x : List Char × Bool) (c : Char) : List Char × Bool :=
      if isPrintable c then
        let opened := if x.2 then "''".toList else []
        (x.1 ++ opened ++ (if c = '\'' then "'\\''".toList else [c]), false)
      else
        (x.1 ++ (if x.2 then [] else "'$'".toList) ++ escapedControl c, true)
    let (body, _) := cs.foldl step ([], false)
    "'" ++ String.ofList body ++ "'"

/-- Whether a name needs no quotes in front of a colon. -/
def isPlainName (s : String) : Bool :=
  let cs := s.toList
  !cs.isEmpty &&
    (cs.all fun c => c.isAlphanum || "%+,-./@]_\x7b\x7d#~".toList.contains c) &&
    s != "\x7b" && s != "\x7d" && !(s.startsWith "#") && !(s.startsWith "~")

def quoteName (s : String) : String :=
  if isPlainName s then s else shellQuoted s

inductive Takes where
  | nothing
  | argument
  /-- One that has to be attached. -/
  | attached
  deriving DecidableEq

/-- An option: its letter, which also stands for its long names, and whether it takes an
argument. -/
structure Opt where
  letter : Char
  long : List String := []
  takes : Takes := .nothing

/-- The options that were given, in order, and the operands. -/
structure Given where
  options : List (Char × String) := []
  operands : List String := []

namespace Given

def has (g : Given) (c : Char) : Bool :=
  g.options.any fun x => x.1 = c

def get? (g : Given) (c : Char) : Option String :=
  g.options.reverse.lookup c

def last? (g : Given) (cs : List Char) : Option Char :=
  (g.options.reverse.map Prod.fst).find? cs.contains

end Given

/-- The wrong use of an option: what is said about it. -/
abbrev Misuse := String

/-- The options in a cluster of letters. The flag tells that the next argument belongs to the last
one. -/
def cluster (opts : List Opt) : List Char → Except Misuse (List (Char × String) × Option Char)
  | [] => .ok ([], none)
  | c :: rest =>
    match opts.find? fun o => o.letter = c with
    | none => .error ("invalid option -- '" ++ String.ofList [c] ++ "'")
    | some o =>
      match o.takes with
      | .nothing => do
        let (found, next) ← cluster opts rest
        return ((c, "") :: found, next)
      | .attached => .ok ([(c, String.ofList rest)], none)
      | .argument =>
        if rest.isEmpty then .ok ([], some c) else .ok ([(c, String.ofList rest)], none)

/-- A long option, and the letter of one that still needs its argument. -/
def longOption (opts : List Opt) (arg : String) :
    Except Misuse (List (Char × String) × Option Char) :=
  let body := (arg.toList).drop 2
  let name := String.ofList (body.takeWhile (· != '='))
  let value := match body.dropWhile (· != '=') with
    | [] => none
    | _ :: v => some (String.ofList v)
  let all : List (String × Opt) := opts.flatMap fun o => o.long.map fun l => (l, o)
  let found : List (String × Opt) := match all.filter fun x => x.1 = name with
    | [] => all.filter fun x => x.1.startsWith name
    | exact => exact
  match found with
  | [] => .error ("unrecognized option '" ++ arg ++ "'")
  | (long, o) :: others =>
    if others.any fun x => x.2.letter != o.letter then
      .error ("option '" ++ arg ++ "' is ambiguous; possibilities:" ++
        String.join (found.map fun x => " '--" ++ x.1 ++ "'"))
    else match o.takes, value with
      | .nothing, some _ => .error ("option '--" ++ long ++ "' doesn't allow an argument")
      | .nothing, none => .ok ([(o.letter, "")], none)
      | .attached, v => .ok ([(o.letter, v.getD "")], none)
      | .argument, some v => .ok ([(o.letter, v)], none)
      | .argument, none => .ok ([], some o.letter)

/-- The options among some arguments. With `mixed` they may stand behind operands. `waiting` is an
option that still needs its argument, and the way it was written. -/
def options (opts : List Opt) (mixed : Bool) (waiting : Option (Char × String)) (g : Given) :
    List String → Except Misuse Given
  | [] =>
    match waiting with
    | some (_, text) => .error text
    | none => .ok g
  | arg :: rest =>
    match waiting with
    | some (c, _) =>
      options opts mixed none { g with options := g.options ++ [(c, arg)] } rest
    | none =>
      if arg = "--" then .ok { g with operands := g.operands ++ rest }
      else if arg.startsWith "--" then
        match longOption opts arg with
        | .error e => .error e
        | .ok (found, next) =>
          let long := (next.bind fun c => opts.find? fun o => o.letter = c).bind fun o =>
            o.long.find? fun l => l.startsWith (arg.drop 2).toString
          options opts mixed
            (next.map fun c => (c, "option '--" ++ long.getD "" ++ "' requires an argument"))
            { g with options := g.options ++ found } rest
      else if arg.startsWith "-" && arg.length > 1 then
        match cluster opts (arg.toList.drop 1) with
        | .error e => .error e
        | .ok (found, next) =>
          options opts mixed
            (next.map fun c =>
              (c, "option requires an argument -- '" ++ String.ofList [c] ++ "'"))
            { g with options := g.options ++ found } rest
      else if mixed then
        options opts mixed none { g with operands := g.operands ++ [arg] } rest
      else .ok { g with operands := g.operands ++ (arg :: rest) }

def given (opts : List Opt) (mixed : Bool := true) (status : Nat := 1) : Work Given := do
  match options opts mixed none {} (← read).args with
  | .ok g => return g
  | .error e => misuse e status

inductive ReadError where
  | directory
  | system (e : SystemError)
  | closed

def ReadError.text : ReadError → String
  | .directory => "Is a directory"
  | .system e => e.text
  | .closed => "Bad file descriptor"

def takeInput : Work (Except ReadError (List Char)) := do
  match (← get).input with
  | none => return .error .closed
  | some cs =>
    modify fun p => { p with input := some [] }
    return .ok cs

def putBack (cs : List Char) : Work Unit :=
  modify fun p => { p with input := some cs }

def contentOf (path : String) : Work (Except ReadError (List Char)) := do
  match (← get).tree.find (← read).machine.directory path with
  | .error e => return .error (.system e)
  | .ok .directory => return .error .directory
  | .ok (.file content _) => return .ok content
  | .ok .void | .ok (.utility _) => return .ok []
  | .ok .zeros => return .ok manyZeros
  | .ok (.descriptor 0) => takeInput
  | .ok (.descriptor _) => return .ok []

/-- The content of a file, or of the input for a dash. -/
def contentOrInput (path : String) : Work (Except ReadError (List Char)) :=
  if path = "-" then takeInput else contentOf path

def writeFile (path : String) (content : List Char) : Work (Except String Unit) := do
  match (← get).tree.locate (← read).machine.directory path with
  | .error e => return .error e.text
  | .ok place =>
    match (← get).tree.entry? place with
    | some .directory => return .error "Is a directory"
    | some (.file _ executable) =>
      modify fun p => { p with tree := p.tree.put place (.file content executable) }
      return .ok ()
    | none =>
      modify fun p => { p with tree := p.tree.put place (.file content false) }
      return .ok ()
    | some .void | some .zeros => return .ok ()
    | some (.descriptor n) =>
      modify fun p => { p with written := (n, content) :: p.written }
      return .ok ()
    | some (.utility _) => return .error "Text file busy"

/-- The lines of a text without their ends. An end behind the last line adds none. -/
def linesOf (cs : List Char) : List (List Char) :=
  match (cs.splitOn '\n').reverse with
  | [] :: rest => rest.reverse
  | parts => parts.reverse

def unlines (lines : List (List Char)) : List Char :=
  lines.flatMap (· ++ ['\n'])

def natural? (s : String) : Option Nat :=
  if !s.isEmpty && s.toList.all Char.isDigit then
    some (s.toList.foldl (fun n c => n * 10 + (c.toNat - '0'.toNat)) 0)
  else none

def whole? (s : String) : Option Int :=
  match s.toList with
  | '-' :: rest => (natural? (String.ofList rest)).map fun n => -(n : Int)
  | '+' :: rest => (natural? (String.ofList rest)).map fun n => (n : Int)
  | _ => (natural? s).map fun n => (n : Int)

def padLeft (width : Nat) (s : String) : String :=
  String.ofList (List.replicate (width - s.length) ' ') ++ s

/-- The factor of a suffix such as `K` or `MB`. -/
def factor? (s : String) : Option Nat :=
  let units := ["K", "M", "G", "T", "P", "E"]
  if s = "" then some 1
  else if s = "b" then some 512
  else if s = "kB" then some 1000
  else if s = "k" then some 1024
  else
    (List.range units.length).findSome? fun n =>
      let u := units.getD n ""
      if s = u || s = u ++ "iB" then some (Nat.pow 1024 (n + 1))
      else if s = u ++ "B" then some (Nat.pow 1000 (n + 1))
      else none

/-- A number of lines or bytes, with a factor behind it. -/
def amount? (s : String) : Option Nat :=
  let digits := s.toList.takeWhile Char.isDigit
  match natural? (String.ofList digits), factor? (String.ofList (s.toList.drop digits.length)) with
  | some n, some f => some (n * f)
  | _, _ => none

end Disasm.Host.Utility
