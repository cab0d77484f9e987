import Disasm.Host.Utility.Awk.Pattern
import Disasm.Host.Utility.Awk.Syntax
import Disasm.Host.Utility.Awk.Token
import Disasm.Host.Utility.Basic

namespace Disasm.Host.Utility.Awk

inductive Separator where
  | blanks
  /-- Every character is a field. -/
  | none
  | char (c : Char)
  | pattern (e : Regex)

structure Record where
  text : String := ""
  /-- Its fields, if it has been cut. -/
  fields : Option (Array Value) := some #[]
  separator : Separator := .blanks
  /-- Whether ends of lines separate fields as well. -/
  lines : Bool := false

inductive Slot where
  | unset
  | value (v : Value)
  | table (n : Nat)
  /-- Nothing yet, or a table once it is used as one. -/
  | loose (n : Nat)

/-- An open file or command that is written, with what it was given, the last first. -/
structure Sink where
  name : String
  direction : Direction
  written : List (List Char) := []

structure Store where
  progress : Progress
  globals : Std.HashMap String Slot := {}
  /-- The parameters of the function that goes on. -/
  locals : List (String × Slot) := []
  tables : Array Table := #[]
  record : Record := {}
  /-- What is left of the file that is read, if one is open. -/
  main : Option (List Char) := none
  /-- The number of the operand that comes next. -/
  operand : Nat := 1
  /-- Whether an operand was a file. -/
  opened : Bool := false
  /-- Files and commands that are read, with what is left of them. -/
  sources : List (String × List Char) := []
  sinks : List Sink := []
  /-- What was printed and has not come out yet, the last first. -/
  pending : List (List Char) := []
  /-- The rules for ranges that go on. -/
  active : List Nat := []
  status : Nat := 0
  seed : Float := 0

inductive Flow where
  | next
  | nextFile
  | breaking
  | continuing
  | returning (v : Value)
  | exiting
  /-- Nothing more is done. -/
  | failing

structure Setting where
  program : Program
  request : Request

abbrev Act := ExceptT Flow (ReaderT Setting (StateM Store))

def work {α : Type} (w : Work α) : Act α := do
  let request := (← read).request
  let s ← get
  let (result, p) := (w.run.run request).run s.progress
  set { s with progress := p }
  match result with
  | .ok a => return a
  | .error _ => throw .failing

def slot? (n : String) : Act (Option Slot) := do
  let s ← get
  match s.locals.lookup n with
  | some slot => return some slot
  | none => return s.globals[n]?

def setSlot (n : String) (slot : Slot) : Act Unit :=
  modify fun s =>
    if s.locals.any (·.1 = n) then
      { s with locals := s.locals.map fun x => if x.1 = n then (n, slot) else x }
    else { s with globals := s.globals.insert n slot }

/-- The value of a name that has no meaning of its own. -/
def plain (n : String) : Act Value := do
  match ← slot? n with
  | some (.value v) => return v
  | _ => return .nothing

def conversion : Act String := do
  return (← plain "CONVFMT").toText "%.6g"

def textOf (v : Value) : Act String := do
  match v with
  | .number x => return numberText (← conversion) x
  | v => return v.toText ""

def plainText (n : String) : Act String := do
  textOf (← plain n)

def give {α : Type} (message : String) : Act α := do
  work (warn message)
  modify fun s => { s with status := 2 }
  throw .failing

/-- Ends all with a message about a mistake of the program. -/
def runtimeError {α : Type} (message : String) : Act α := do
  let file ← plainText "FILENAME"
  let fnr ← plainText "FNR"
  let nr ← plainText "NR"
  give ("run time error: " ++ message ++ "\n\tFILENAME=\"" ++ file ++ "\" FNR=" ++ fnr ++
    " NR=" ++ nr)

def newTable : Act Nat := do
  let n := (← get).tables.size
  modify fun s => { s with tables := s.tables.push {} }
  return n

def tableOf (n : String) : Act Nat := do
  match ← slot? n with
  | some (.table t) => return t
  | some (.loose t) =>
    setSlot n (.table t)
    return t
  | some (.value _) => runtimeError ("type error in " ++ n)
  | some .unset | none =>
    let t ← newTable
    setSlot n (.table t)
    return t

def tableAt (t : Nat) : Act Table := do
  return (← get).tables.getD t {}

def setTable (t : Nat) (table : Table) : Act Unit :=
  modify fun s => { s with tables := s.tables.setIfInBounds t table }

def separatorOf (s : String) : Act Separator := do
  match s.toList with
  | [] => return .none
  | [' '] => return .blanks
  | [c] => return .char c
  | cs =>
    match Pattern.ofText cs with
    | .ok e => return .pattern e
    | .error reason => runtimeError (Pattern.complaint reason cs)

/-- The first match that is not empty, from a position on. -/
def solid? (s : Regex.Subject) (e : Regex) : Nat → Nat → Option (Nat × Nat)
  | 0, _ => none
  | fuel + 1, p =>
    match Regex.search s e p with
    | none => none
    | some f => if f.first < f.last then some (f.first, f.last) else solid? s e fuel (f.first + 1)

/-- Pieces of a text between the matches of an expression. -/
def pieces (s : Regex.Subject) (e : Regex) : Nat → Nat → List String
  | 0, _ => []
  | fuel + 1, p =>
    match solid? s e (s.text.size + 1) p with
    | none => [String.ofList (s.text.toList.drop p)]
    | some (first, last) =>
      String.ofList ((s.text.toList.drop p).take (first - p)) :: pieces s e fuel last

def cut (separator : Separator) (lines : Bool) (s : String) : List String :=
  let cs := s.toList
  if cs.isEmpty then []
  else match separator with
    | .blanks => ((cs.splitOnP isBlank).filter (!·.isEmpty)).map String.ofList
    | .none => cs.map fun c => String.ofList [c]
    | .char c => (cs.splitOnP fun d => d = c || (lines && d = '\n')).map String.ofList
    | .pattern e =>
      let e := if lines then .alt e (.char '\n') else e
      pieces { text := cs.toArray } e (cs.length + 1) 0

def recordText : Act String := do
  return (← get).record.text

def fields : Act (Array Value) := do
  let r := (← get).record
  match r.fields with
  | some fs => return fs
  | none =>
    let fs := ((cut r.separator r.lines r.text).map Value.ofOutside).toArray
    modify fun s => { s with record := { r with fields := some fs } }
    return fs

def setRecord (text : String) : Act Unit := do
  let separator ← separatorOf (← plainText "FS")
  let lines := (← plainText "RS").isEmpty
  modify fun s => { s with record := ⟨text, none, separator, lines⟩ }

/-- Puts fields in the place of those of the record, whose text follows them. -/
def setFields (fs : Array Value) : Act Unit := do
  let texts ← fs.toList.mapM textOf
  let text := String.intercalate (← plainText "OFS") texts
  modify fun s => { s with record := { s.record with text := text, fields := some fs } }

def filled (fs : Array Value) (count : Nat) : Array Value :=
  fs ++ Array.replicate (count - fs.size) (.text "")

def fieldNumber (x : Float) : Act Nat := do
  let n := truncated x
  if n < 0 then runtimeError ("negative field index $" ++ toString n)
  return n.toNat

def field (n : Nat) : Act Value := do
  if n = 0 then return .ofOutside (← recordText)
  else return (← fields).getD (n - 1) (.text "")

def setField (n : Nat) (v : Value) : Act Unit := do
  if n = 0 then setRecord (← textOf v)
  else
    let fs := filled (← fields) n
    setFields (fs.setIfInBounds (n - 1) v)

def name (n : String) : Act Value := do
  if n = "NF" && !((← get).locals.any (·.1 = n)) then
    return .number (Float.ofNat (← fields).size)
  else plain n

def setName (n : String) (v : Value) : Act Unit := do
  if n = "NF" && !((← get).locals.any (·.1 = n)) then
    let count := (truncated v.toNumber).toNat
    let fs ← fields
    setFields ((filled fs count).extract 0 count)
  else setSlot n (.value v)

def count (n : String) : Act Unit := do
  let v ← plain n
  setName n (.number (v.toNumber + 1))

def flushFile (name : String) (written : List (List Char)) : Act Unit := do
  if !written.isEmpty then
    let before ← work (contentOf name)
    let content : List Char := match before with
      | .ok cs => cs
      | .error _ => []
    let _ ← work (writeFile name (content ++ written.reverse.flatten))

/-- Lets everything come out that was printed, apart from what commands are given. -/
def flush : Act Unit := do
  let s ← get
  let files := s.sinks.filter fun k => k.direction != .command
  set { s with pending := [], sinks := s.sinks.map fun (k : Sink) =>
    if k.direction = Direction.command then k else { k with written := [] } }
  work (out s.pending.reverse.flatten)
  files.reverse.forM fun k => flushFile k.name k.written

/-- Runs a command with an input of its own; gives its status. -/
def runCommand (command : String) (input : Option (List Char)) : Act Nat := do
  let shell := (← read).request.shell
  let s ← get
  let own := s.progress.input
  let p := shell command { s.progress with input := input.orElse fun _ => own }
  set { s with progress := { p with input := if input.isSome then own else p.input } }
  return p.status

def commandOutput (command : String) : Act (List Char) := do
  let shell := (← read).request.shell
  let s ← get
  let p := shell command { s.progress with written := [] }
  let (printed, others) := p.written.partition fun x => x.1 = 1
  set { s with progress := { p with written := others ++ s.progress.written } }
  return (printed.reverse.map Prod.snd).flatten

/-- Writes to an open file or command, which is opened first. -/
def write (direction : Direction) (name : String) (cs : List Char) : Act Unit := do
  if name = "/dev/stdout" || name = "-" then
    modify fun s => { s with pending := cs :: s.pending }
  else if name = "/dev/stderr" then
    work (modify fun p => { p with written := (2, cs) :: p.written })
  else
    let s ← get
    if s.sinks.any (·.name = name) then
      set { s with sinks := s.sinks.map fun (k : Sink) =>
        if k.name = name then { k with written := cs :: k.written } else k }
    else
      match direction with
      | .command => flush
      | .file | .fileEnd =>
        let keep : List Char ← match direction, ← work (contentOf name) with
          | .fileEnd, .ok cs => pure cs
          | _, _ => pure []
        match ← work (writeFile name keep) with
        | .ok _ => pure ()
        | .error e => give ("cannot open \"" ++ name ++ "\" for output (" ++ e ++ ")")
      modify fun s => { s with sinks := ⟨name, direction, [cs]⟩ :: s.sinks }

/-- Closes what is written; gives the status. -/
def closeSink (k : Sink) : Act Nat := do
  match k.direction with
  | .command => runCommand k.name (some k.written.reverse.flatten)
  | _ =>
    flushFile k.name k.written
    return 0

def close (name : String) : Act Int := do
  let s ← get
  let (mine, others) := s.sinks.partition fun k => k.name = name
  let isRead := s.sources.any fun x => x.1 = name
  set { s with sinks := others, sources := s.sources.filter fun x => x.1 != name }
  match mine with
  | k :: _ => return (← closeSink k : Nat)
  | [] => return if isRead then 0 else -1

def closeAll : Act Unit := do
  let s ← get
  set { s with sinks := [] }
  let (commands, files) := s.sinks.partition fun k => k.direction = .command
  commands.forM fun k => do
    let _ ← closeSink k
  files.reverse.forM fun k => do
    let _ ← closeSink k
  flush

/-- The record at the front of a text, and what follows. -/
def nextRecord (separator : String) (cs : List Char) : Act (Option (String × List Char)) := do
  if cs.isEmpty then return none
  match separator.toList with
  | [c] =>
    let record := cs.takeWhile (· != c)
    return some (String.ofList record, (cs.drop (record.length + 1)))
  | [] =>
    let cs := cs.dropWhile (· = '\n')
    if cs.isEmpty then return none
    let (record, rest) := paragraph [] cs.length cs
    return some (String.ofList record, rest)
  | p =>
    match Pattern.ofText p with
    | .error reason => runtimeError (Pattern.complaint reason p)
    | .ok e =>
      match solid? { text := cs.toArray } e (cs.length + 1) 0 with
      | none => return some (String.ofList cs, [])
      | some (first, last) => return some (String.ofList (cs.take first), cs.drop last)
where
  paragraph (done : List Char) : Nat → List Char → List Char × List Char
    | 0, cs => (done.reverse, cs)
    | _, [] => (done.reverse, [])
    | _, '\n' :: '\n' :: rest => (done.reverse, rest.dropWhile (· = '\n'))
    | _, ['\n'] => (done.reverse, [])
    | n + 1, c :: rest => paragraph (c :: done) n rest

/-- Gives a variable a value from the command line. -/
def assignOperand (name value : String) : Act Unit :=
  setName name (.ofOutside value)

/-- Opens the next operand that is a file, or the input if there is none; tells whether there was
one. -/
def openNext : Nat → Act Bool
  | 0 => return false
  | fuel + 1 => do
    let s ← get
    let operands := (← plain "ARGC").toNumber
    if Float.ofNat s.operand < operands then
      set { s with operand := s.operand + 1 }
      let table ← tableAt (← tableOf "ARGV")
      let arg ← match table.entries[toString s.operand]? with
        | some e => textOf e.value
        | none => pure ""
      let n := (arg.takeWhile isNameChar).toString
      if arg = "" then openNext fuel
      else if n != "" && (n.toList.head?.any fun c => !c.isDigit) &&
          (arg.drop n.length).toString.startsWith "=" then
        assignOperand n (unescape (arg.drop (n.length + 1)).toString)
        openNext fuel
      else
        openFile arg
    else if s.opened then return false
    else openFile "-"
where
  openFile (arg : String) : Act Bool := do
    match ← work (contentOrInput arg) with
    | .ok cs =>
      modify fun s => { s with main := some cs, opened := true }
      setName "FILENAME" (.text arg)
      setName "FNR" (.number 0)
      return true
    | .error .directory => give "read error (Is a directory)"
    | .error .closed => give "read error (Bad file descriptor)"
    | .error (.system e) => give ("cannot open \"" ++ arg ++ "\" (" ++ e.text ++ ")")

def readMain : Nat → Act (Option String)
  | 0 => return none
  | fuel + 1 => do
    match (← get).main with
    | none =>
      if ← openNext 1000 then readMain fuel else return none
    | some cs =>
      match ← nextRecord (← plainText "RS") cs with
      | some (record, rest) =>
        modify fun s => { s with main := some rest }
        count "NR"
        count "FNR"
        return some record
      | none =>
        modify fun s => { s with main := none }
        if ← openNext 1000 then readMain fuel else return none

/-- The next record of a file or command that is read beside the input: its text, the end, or none
if it cannot be opened. -/
def readBeside (isCommand : Bool) (name : String) : Act (Option (Option String)) := do
  let s ← get
  let content? : Option (List Char) ← match s.sources.lookup name with
    | some cs => pure (some cs)
    | none =>
      if isCommand then do
        flush
        pure (some (← commandOutput name))
      else
        match ← work (contentOrInput name) with
        | .ok cs => pure (some cs)
        | .error _ => pure none
  match content? with
  | none => return none
  | some cs =>
    let found ← nextRecord (← plainText "RS") cs
    let (record, rest) := match found with
      | some (r, rest) => (some r, rest)
      | none => (none, [])
    modify fun s => { s with sources := (name, rest) :: s.sources.filter fun x => x.1 != name }
    return some record

end Disasm.Host.Utility.Awk
