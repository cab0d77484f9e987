import Disasm.Host.Machine
import Disasm.Host.Shell.Reader

namespace Disasm.Host.Shell

open Tool

/-- An open file. Descriptors of several processes may be joined to one. -/
inductive Stream where
  /-- Something to read; what is taken from a file can be put back. -/
  | source (rest : List Char) (seekable : Bool)
  /-- Collects what is written, the last first. -/
  | sink (written : List (List Char))
  /-- A file that is written from an offset on, or at its end. -/
  | file (place : Place) (offset : Nat) (atEnd : Bool)
  /-- Always empty. -/
  | void

structure Variable where
  value : Option String := none
  exported : Bool := false
  fixed : Bool := false

/-- The shells of a system: the small one, and the large one, which differs from it in its `echo`
and in the wording of its messages. -/
inductive Dialect where
  | small
  | large
  deriving DecidableEq

structure Process where
  /-- The name in front of its messages. -/
  name : String
  number : Nat
  /-- The process that `$$` names: a shell that another one started for a part of its own script
  keeps the number of that one. -/
  shell : Nat
  parent : Nat
  /-- The open files that descriptors are joined to. -/
  descriptors : List (Nat × Nat)
  directory : Place
  args : List String := []
  bindings : List (String × Variable) := []
  functions : List (String × Command) := []
  aliases : List (String × String) := []
  dialect : Dialect := .small
  /-- The letters of the options that are set. -/
  options : List Char := []
  traps : List (Nat × String) := []
  /-- Signals with a trap that has not been run yet. -/
  caught : List Nat := []
  status : Nat := 0
  /-- The process that was started last in the background. -/
  background : Option Nat := none
  /-- Processes in the background that were not waited for. -/
  jobs : List Nat := []
  /-- What local variables hide, for every function that has not ended. -/
  hidden : List (List (String × Option Variable)) := []
  /-- How many loops go on. -/
  loops : Nat := 0
  documents : List (Nat × Word) := []
  /-- How many documents there were in all scripts. -/
  documentCount : Nat := 0
  line : Nat := 1
  /-- The command of the shell itself that goes on. -/
  command : Option String := none
  /-- Where the reading of options goes on in a cluster. -/
  cluster : Nat := 0
  /-- The permissions that new files do not get, in octal digits. -/
  mask : String := "0022"

/-- A process in the background that has not run yet. -/
structure Waiting where
  body : Command
  process : Process

structure System where
  tree : FileTree
  streams : Array Stream
  /-- The number of the next process. -/
  next : Nat
  alive : List Nat
  /-- Signals on their way to processes. -/
  signals : List (Nat × Nat) := []
  waiting : List Waiting := []
  /-- How processes in the background ended. -/
  ended : List (Nat × ExitStatus) := []

structure State where
  system : System
  process : Process

inductive Flow where
  | breaking (loops : Nat)
  | continuing (loops : Nat)
  | returning
  | exiting
  /-- Like an exit, but a command of the shell itself may be left in this way alone. -/
  | failing
  | killed (signal : Nat)
  deriving DecidableEq

abbrev Act := ExceptT Flow (StateM State)

/-- The options of a shell, with their long names. Those that have no letter have a number. -/
def optionNames : List (Char × String) := [
  ('e', "errexit"), ('f', "noglob"), ('I', "ignoreeof"), ('i', "interactive"), ('m', "monitor"),
  ('n', "noexec"), ('s', "stdin"), ('x', "xtrace"), ('v', "verbose"), ('V', "vi"), ('E', "emacs"),
  ('C', "noclobber"), ('a', "allexport"), ('b', "notify"), ('u', "nounset"), ('p', "privileged"),
  ('\x01', "nolog"), ('\x02', "debug")]

def optionLetters : List Char :=
  (optionNames.map Prod.fst).filter Char.isAlpha

namespace Act

def process : Act Process := do
  return (← get).process

def system : Act System := do
  return (← get).system

def modifyProcess (f : Process → Process) : Act Unit :=
  modify fun s => { s with process := f s.process }

def modifySystem (f : System → System) : Act Unit :=
  modify fun s => { s with system := f s.system }

def setStatus (n : Nat) : Act Unit :=
  modifyProcess fun p => { p with status := n }

def stream? (descriptor : Nat) : Act (Option Nat) := do
  return (← process).descriptors.lookup descriptor

def streamAt (n : Nat) : Act Stream := do
  return (← system).streams.getD n .void

def setStream (n : Nat) (s : Stream) : Act Unit :=
  modifySystem fun sys => { sys with streams := sys.streams.setIfInBounds n s }

def newStream (s : Stream) : Act Nat := do
  let n := (← system).streams.size
  modifySystem fun sys => { sys with streams := sys.streams.push s }
  return n

/-- Joins a descriptor to an open file, or to none. -/
def join (descriptor : Nat) (n : Option Nat) : Act Unit :=
  modifyProcess fun p =>
    let others := p.descriptors.filter fun x => x.1 != descriptor
    { p with descriptors := match n with
      | some n => (descriptor, n) :: others
      | none => others }

/-- A text with another one over it from an offset on. -/
def overlay (content : List Char) (offset : Nat) (cs : List Char) : List Char :=
  content.take offset ++ List.replicate (offset - content.length) '\x00' ++ cs ++
    content.drop (offset + cs.length)

def writeTo (n : Nat) (cs : List Char) : Act Unit := do
  if cs.isEmpty then return
  match ← streamAt n with
  | .sink written =>
    setStream n .void
    setStream n (.sink (cs :: written))
  | .file place offset atEnd =>
    match (← system).tree.entry? place with
    | some (.file content executable) =>
      let offset := if atEnd then content.length else offset
      modifySystem fun sys =>
        { sys with tree := sys.tree.put place (.file (overlay content offset cs) executable) }
      setStream n (.file place (offset + cs.length) atEnd)
    | _ => pure ()
  | _ => pure ()

/-- Writes to a descriptor; tells whether it is open for that. -/
def write (descriptor : Nat) (cs : List Char) : Act Bool := do
  match ← stream? descriptor with
  | none => return false
  | some n =>
    match ← streamAt n with
    | .source .. => return cs.isEmpty
    | _ =>
      writeTo n cs
      return true

/-- What can be read from a descriptor, if it is open for that. -/
def input? (descriptor : Nat) : Act (Option (List Char)) := do
  match ← stream? descriptor with
  | none => return none
  | some n =>
    match ← streamAt n with
    | .source rest _ => return some rest
    | .void => return some []
    | _ => return none

def setInput (descriptor : Nat) (rest : List Char) : Act Unit := do
  match ← stream? descriptor with
  | none => return
  | some n =>
    match ← streamAt n with
    | .source _ seekable => setStream n (.source rest seekable)
    | _ => return

def collected (n : Nat) : Act (List Char) := do
  match ← streamAt n with
  | .sink written => return written.reverse.flatten
  | _ => return []

def complain (message : String) : Act Unit := do
  let p ← process
  let command := match p.command with
    | some c => c ++ ": "
    | none => ""
  let place := match p.dialect with
    | .small => toString p.line
    | .large => "line " ++ toString p.line
  let _ ← write 2 (p.name ++ ": " ++ place ++ ": " ++ command ++ message ++ "\n").toList

def exit {α : Type} (status : Nat) : Act α := do
  setStatus status
  throw .exiting

def fail {α : Type} (message : String) (status : Nat := 2) : Act α := do
  complain message
  setStatus status
  throw .failing

/-- The reason of the system for not opening a file. -/
def openReason (creating : Bool) (e : SystemError) : String :=
  match e with
  | .noEntry | .notDirectory => if creating then "Directory nonexistent" else "No such file"
  | e => e.text

/-- The reasons in which the small shell has words of its own for a path that leads nowhere. -/
def openReasons : List String :=
  [openReason false .noEntry, openReason true .noEntry]

def locate (path : String) : Act (Except SystemError Place) := do
  return (← system).tree.locate (← process).directory path

def find (path : String) : Act (Except SystemError Entry) := do
  return (← system).tree.find (← process).directory path

def openSource (path : String) : Act (Except String Nat) := do
  match ← find path with
  | .error e => return .error (openReason false e)
  | .ok .directory => return .ok (← newStream (.source [] true))
  | .ok .void | .ok (.utility _) => return .ok (← newStream .void)
  | .ok .zeros => return .ok (← newStream (.source manyZeros false))
  | .ok (.file content _) => return .ok (← newStream (.source content true))
  | .ok (.descriptor n) =>
    match ← stream? n with
    | some n => return .ok n
    | none => return .error (openReason false .noEntry)

/-- What happens to the content that a file has when it is opened for writing. -/
inductive Keeping where
  | nothing
  | all
  /-- A file that is there is left alone. -/
  | existing
  deriving DecidableEq

def openSink (keep : Keeping) (path : String) : Act (Except String Nat) := do
  match ← locate path with
  | .error e => return .error (openReason true e)
  | .ok place =>
    match (← system).tree.entry? place with
    | none =>
      if path.endsWith "/" then return .error "Is a directory"
      modifySystem fun sys => { sys with tree := sys.tree.put place (.file [] false) }
      return .ok (← newStream (.file place 0 (keep = .all)))
    | some (.file _ executable) =>
      if keep = .existing then return .error "File exists"
      if keep = .nothing then
        modifySystem fun sys => { sys with tree := sys.tree.put place (.file [] executable) }
      return .ok (← newStream (.file place 0 (keep = .all)))
    | some .directory => return .error "Is a directory"
    | some .void | some .zeros => return .ok (← newStream .void)
    | some (.utility _) => return .error "Text file busy"
    | some (.descriptor n) =>
      match ← stream? n with
      | some n => return .ok n
      | none => return .error (openReason true .noEntry)

def valueOf? (name : String) : Act (Option String) := do
  return ((← process).bindings.lookup name).bind Variable.value

def setBinding (name : String) (v : Option Variable) : Act Unit :=
  modifyProcess fun p =>
    let others := p.bindings.filter fun x => x.1 != name
    { p with bindings := match v with
      | some v => (name, v) :: others
      | none => others }

def assign (name value : String) : Act Unit := do
  let p ← process
  let v := (p.bindings.lookup name).getD {}
  if v.fixed then fail (name ++ ": is read only")
  setBinding name (some { v with
    value := some value, exported := v.exported || p.options.contains 'a' })

def environment : Act (List (String × String)) := do
  return (← process).bindings.reverse.filterMap fun (name, v) =>
    if v.exported then v.value.map (name, ·) else none

def machine : Act Machine := do
  return ⟨(← system).tree, (← process).directory, ← environment⟩

/-- The signals that do nothing if nothing is said about them. -/
def harmlessSignals : List Nat := [17, 18, 23, 28]

/-- Takes a signal: it is ignored, kept for a trap, or the end. -/
def takeSignal (signal : Nat) : Act Unit := do
  match (← process).traps.lookup signal with
  | some action =>
    if signal = 9 then throw (.killed 9)
    else if !action.isEmpty then
      modifyProcess fun p => { p with caught := p.caught ++ [signal] }
  | none => if !harmlessSignals.contains signal then throw (.killed signal)

def takeSignals : Act Unit := do
  let p ← process
  let (mine, others) := (← system).signals.partition fun x => x.1 = p.number
  if !mine.isEmpty then
    modifySystem fun sys => { sys with signals := others }
    mine.forM fun x => takeSignal x.2

/-- Sends a signal; tells whether there is such a process. -/
def send (target signal : Nat) : Act Bool := do
  let sys ← system
  if !(sys.alive.contains target) then return false
  if signal = 0 then return true
  modifySystem fun sys => { sys with signals := sys.signals ++ [(target, signal)] }
  takeSignals
  return true

end Act

def statusOf : ExitStatus → Nat
  | .code n => n
  | .signal n => 128 + n

/-- What a shell says about a process that a signal has ended. -/
def signalTexts : List (Nat × String) := [
  (1, "Hangup"), (3, "Quit"), (4, "Illegal instruction"), (5, "Trace/breakpoint trap"),
  (6, "Aborted"), (7, "Bus error"), (8, "Floating point exception"), (9, "Killed"),
  (10, "User defined signal 1"), (11, "Segmentation fault"), (12, "User defined signal 2"),
  (14, "Alarm clock"), (15, "Terminated"), (16, "Stack fault"),
  (24, "CPU time limit exceeded"), (25, "File size limit exceeded"),
  (26, "Virtual timer expired"), (27, "Profiling timer expired"), (29, "I/O possible"),
  (30, "Power failure"), (31, "Bad system call")]

def signalText? (n : Nat) : Option String :=
  if 34 ≤ n then some ("Real-time signal " ++ toString (n - 34)) else signalTexts.lookup n

/-- The number of a signal, by its number or its name. -/
def signalNumber? (s : String) : Option Nat :=
  match s.toNat? with
  | some n => if n ≤ 64 then some n else none
  | none =>
    let name := s.map Char.toUpper
    if name = "EXIT" then some 0
    else (ExitStatus.signalNames.find? fun x => x.2 = "SIG" ++ name).map Prod.fst

def signalName (n : Nat) : String :=
  match ExitStatus.signalNames.lookup n with
  | some s => (s.drop 3).toString
  | none =>
    if n = 0 then "EXIT"
    else if n = 34 then "RTMIN"
    else if n = 64 then "RTMAX"
    else if n < 50 then "RTMIN+" ++ toString (n - 34)
    else "RTMAX-" ++ toString (64 - n)

end Disasm.Host.Shell
