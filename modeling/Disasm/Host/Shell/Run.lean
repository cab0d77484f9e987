import Disasm.Host.Shell.Builtin
import Disasm.Host.Shell.Parser
import Disasm.Host.Utility.Catalogue

namespace Disasm.Host.Shell

open Act Tool

structure Mode where
  /-- Whether its failure is of no consequence for the option `e`. -/
  tested : Bool := false
  /-- Whether nothing comes behind it, so that a program takes the place of the shell. -/
  last : Bool := false

namespace Act

/-- Runs something and tells how it was left, if it was. -/
def observe (body : Act Unit) : Act (Option Flow) := fun s =>
  match body s with
  | (.ok (), s) => (.ok none, s)
  | (.error flow, s) => (.ok (some flow), s)

def bury (number : Nat) (status : ExitStatus) : Act Unit :=
  modifySystem fun sys =>
    { sys with alive := sys.alive.filter (· != number), ended := (number, status) :: sys.ended }

def birth : Act Nat := do
  let n := (← system).next
  modifySystem fun sys => { sys with next := n + 1, alive := n :: sys.alive }
  return n

/-- How a process has ended that was left in some way. -/
def endOf (flow : Option Flow) : Act ExitStatus := do
  match flow with
  | some (.killed n) => return .signal n
  | _ => return .code (← process).status

/-- Runs something as a process of its own, which starts as a changed copy of this one. -/
def child (change : Process → Process) (body : Act Unit) : Act ExitStatus := do
  let outer ← process
  let number ← birth
  modifyProcess fun p => change { p with number := number }
  let status ← endOf (← observe body)
  bury number status
  modifyProcess fun _ => outer
  takeSignals
  return status

/-- Takes the status of a process that was waited for, and tells if a signal has ended it. -/
def settle (status : ExitStatus) : Act Unit := do
  match status with
  | .signal n =>
    match signalText? n with
    | some text =>
      let _ ← write 2 (text ++ "\n").toList
    | none => pure ()
  | .code _ => pure ()
  setStatus (statusOf status)

/-- The traps that a new process keeps: signals that are ignored. -/
def keptTraps (p : Process) : List (Nat × String) :=
  p.traps.filter fun t => t.1 != 0 && t.2.isEmpty

def subshell (p : Process) : Process :=
  { p with traps := keptTraps p, caught := [], jobs := [], loops := 0 }

def startedProgram (p : Process) : Process :=
  { subshell p with
    shell := p.number, parent := p.shell, args := [], functions := [], aliases := []
    options := [], status := 0
    background := none, hidden := [], documents := [], documentCount := 0, line := 1
    command := none, cluster := 0
    bindings := p.bindings.filter fun x => x.2.exported && x.2.value.isSome }

def usualBindings : List (String × String) :=
  [("IFS", usualSeparators), ("OPTIND", "1"), ("PS1", "# "), ("PS2", "> "), ("PS4", "+ ")]

def usualPath : String := "/usr/local/sbin:/usr/local/bin:/usr/sbin:/usr/bin:/sbin:/bin"

/-- Gives a new shell the variables that every shell has. -/
def prepareShell : Act Unit := do
  usualBindings.forM fun (name, value) =>
    setBinding name (some { value := some value })
  if (← valueOf? "PATH").isNone then setBinding "PATH" (some { value := some usualPath })
  setBinding "PWD" (some { value := some (Builtin.pathOf (← process).directory), exported := true })

/-- What a utility has when a command that it runs has ended. -/
def served (s : State) (command : Act Unit) (p : Utility.Progress) : Utility.Progress :=
  let whole : Act Utility.Progress := do
    modifySystem fun sys => { sys with tree := p.tree }
    let input ← newStream (.source (p.input.getD []) false)
    let output ← newStream (.sink [])
    let errors ← newStream (.sink [])
    join 0 (if p.input.isSome then some input else none)
    join 1 (some output)
    join 2 (some errors)
    let status ← child startedProgram command
    let rest := match ← streamAt input with
      | .source rest _ => rest
      | _ => []
    return { p with
      status := (match status with
        | .code n => n
        | .signal n => 256 + n)
      tree := (← system).tree, input := p.input.map fun _ => rest
      written := (2, ← collected errors) :: (1, ← collected output) :: p.written }
  match whole s with
  | (.ok p, _) => p
  | (.error _, _) => p

/-- Runs a utility with the input and output of this process. -/
def runUtility (shell : String → Utility.Progress → Utility.Progress) (name : String)
    (args : List String) : Act Unit := do
  match Utility.work? name with
  | none => setStatus 127
  | some work =>
    let input ← input? 0
    let seekable ← match ← stream? 0 with
      | none => pure false
      | some n => do
        match ← streamAt n with
        | .source _ seekable => pure seekable
        | _ => pure false
    let request : Utility.Request :=
      { called := args.headD name, args := args.drop 1, machine := ← machine,
        seekable := seekable, shell := shell }
    let done := Utility.run work request input
    modifySystem fun sys => { sys with tree := done.tree }
    match done.input with
    | some rest => setInput 0 rest
    | none => pure ()
    done.written.reverse.forM fun (descriptor, cs) => do
      let _ ← write descriptor cs
    setStatus done.status

end Act

/-- The next commands of a script, and what is left of it. -/
def readCommands (r : Reader) : Act (Option Command × Reader) := do
  let p ← process
  let r := { r with count := p.documentCount, aliases := p.aliases }
  match Parser.next r with
  | .ok (c, r) =>
    modifyProcess fun p =>
      { p with documents := r.documents ++ p.documents, documentCount := r.count }
    return (c, { r with documents := [] })
  | .error e =>
    modifyProcess fun p => { p with line := e.line }
    fail ("Syntax error: " ++ e.message)

def Reader.isDone (r : Reader) : Bool :=
  r.rest.isEmpty

/-- The options and arguments with which a shell starts. -/
structure Start where
  called : String
  dialect : Dialect
  options : List Char := []
  /-- Whether the first argument is a script. -/
  inArgument : Bool := false
  args : List String

/-- The options of a cluster of letters, in which `o` stands for one that an argument names. -/
def Start.cluster (s : Start) (sign : Char) : List Char → List String →
    Except String (Start × List String)
  | [], rest => .ok (s, rest)
  | c :: cs, rest =>
    if c = 'o' then
      match rest with
      | [] => s.cluster sign cs []
      | name :: rest =>
        match optionNames.find? fun x => x.2 = name with
        | some (c, _) => { s with options := c :: s.options }.cluster sign cs rest
        | none =>
          if s.dialect = .large && name = "pipefail" then s.cluster sign cs rest
          else .error ("Illegal option -o " ++ name)
    else if c = 'c' then { s with inArgument := true }.cluster sign cs rest
    else if c = 'l' then s.cluster sign cs rest
    else if optionLetters.contains c then
      { s with options := c :: s.options }.cluster sign cs rest
    else .error ("Illegal option " ++ String.ofList [sign, c])

/-- The options in front of the arguments of a shell. -/
def Start.read (s : Start) : Nat → List String → Except String Start
  | 0, args => .ok { s with args := args }
  | _, [] => .ok { s with args := [] }
  | fuel + 1, arg :: rest =>
    match arg.toList with
    | ['-'] | ['-', '-'] => .ok { s with args := rest }
    | sign :: c :: cs =>
      if sign = '-' || sign = '+' then do
        let (s, rest) ← s.cluster sign (c :: cs) rest
        s.read fuel rest
      else .ok { s with args := arg :: rest }
    | _ => .ok { s with args := arg :: rest }

/-- What `env` is asked. -/
structure EnvRequest where
  cleared : Bool := false
  removed : List String := []
  assigned : List (String × String) := []
  command : List String := []

def EnvRequest.ofOperands (e : EnvRequest) : List String → EnvRequest
  | [] => e
  | arg :: rest =>
    match splitAssignment arg.toList with
    | (name, some value) =>
      { e with assigned := e.assigned ++ [(name, String.ofList value)] }.ofOperands rest
    | _ => { e with command := arg :: rest }

/-- The words of a text that `env` divides. -/
def envWords (s : String) : List String :=
  ((s.toList.splitOnP fun c => c = ' ' || c = '\t').filter fun w => !w.isEmpty).map String.ofList

def envOptions : List Utility.Opt :=
  [⟨'i', ["ignore-environment"], .nothing⟩, ⟨'u', ["unset"], .argument⟩,
    ⟨'S', ["split-string"], .argument⟩, ⟨'0', ["null"], .nothing⟩, ⟨'C', ["chdir"], .argument⟩,
    ⟨'v', ["debug"], .nothing⟩]

/-- What the arguments of `env` ask. A text to be divided stands for its words. -/
def EnvRequest.read (args : List String) : Except String EnvRequest := do
  let (front, behind) := (args.takeWhile (·.startsWith "-"), args.dropWhile (·.startsWith "-"))
  let args := match front.find? (·.startsWith "-S") with
    | some s =>
      let before := front.takeWhile (· != s)
      if s.length = 2 then before ++ envWords (behind.headD "") ++ behind.drop 1
      else before ++ envWords (s.drop 2).toString ++ (front.drop (before.length + 1)) ++ behind
    | none => args
  let g ← Utility.options envOptions false none {} args
  let operands := match g.operands with
    | "-" :: rest => rest
    | operands => operands
  return { cleared := g.has 'i' || g.operands.head? = some "-"
           removed := (g.options.filter fun x => x.1 = 'u').map Prod.snd : EnvRequest
    }.ofOperands operands

/-- The items that `xargs` finds in its input: words, with quotes and backslashes, or lines. A quote
that nothing closes on its line ends them, and is told. -/
def xargsItems (byLine : Bool) (item : Option (List Char)) (done : List (List Char)) :
    Nat → List Char → List (List Char) × Option Char
  | 0, _ => (done.reverse, none)
  | _, [] =>
    ((match item with
      | some w => w.reverse :: done
      | none => done).reverse, none)
  | fuel + 1, c :: rest =>
    let add (cs : List Char) : List Char := cs ++ item.getD []
    if c = '\n' || (!byLine && Utility.isGap c) then
      match item with
      | some w => xargsItems byLine none (w.reverse :: done) fuel rest
      | none => xargsItems byLine none done fuel rest
    else if byLine && item.isNone && Utility.isGap c then xargsItems byLine item done fuel rest
    else if c = '\'' || c = '"' then
      let inner := rest.takeWhile fun d => d != c && d != '\n'
      if (rest.drop inner.length).head? = some c then
        xargsItems byLine (some (add inner.reverse)) done fuel (rest.drop (inner.length + 1))
      else (done.reverse, some c)
    else if c = '\\' then
      match rest with
      | d :: more => xargsItems byLine (some (add [d])) done fuel more
      | [] => xargsItems byLine item done fuel []
    else xargsItems byLine (some (add [c])) done fuel rest

/-- A text with every occurrence of a mark replaced. -/
def replaced (mark new : List Char) : Nat → List Char → List Char
  | 0, cs => cs
  | _, [] => []
  | fuel + 1, c :: rest =>
    if !mark.isEmpty && mark.isPrefixOf (c :: rest) then
      new ++ replaced mark new fuel ((c :: rest).drop mark.length)
    else c :: replaced mark new fuel rest

def chunks {α : Type} (n : Nat) : Nat → List α → List (List α)
  | 0, _ | _, [] => []
  | fuel + 1, items => items.take n :: chunks n fuel (items.drop n)

/-- Shows a command that is about to run, if the shell is told to. -/
def trace (errors : Option Nat) (texts : List String) : Act Unit := do
  if (← process).options.contains 'x' then
    let mark := (← valueOf? "PS4").getD ""
    match errors with
    | some n => writeTo n (mark ++ String.intercalate " " texts ++ "\n").toList
    | none => pure ()

mutual

/-- Runs a command, then the traps of signals that came up, and ends the shell over a failure if it
is told to. -/
def run (mode : Mode) (c : Command) : Nat → Act Unit
  | 0 => throw (.killed 13)
  | fuel + 1 => do
    if !(← process).options.contains 'n' then execute mode c fuel
    runTraps fuel
    let p ← process
    if p.status != 0 && p.options.contains 'e' && !mode.tested then
      match c with
      | .simple .. | .isolated .. | .pipe .. => throw .exiting
      | _ => pure ()
termination_by structural fuel => fuel

def execute (mode : Mode) (c : Command) : Nat → Act Unit
  | 0 => throw (.killed 13)
  | fuel + 1 => do
    match c with
    | .simple line assignments words redirections =>
      runSimple mode line assignments words redirections fuel
    | .sequence commands => runAll mode commands fuel
    | .both first second =>
      run { tested := true } first fuel
      if (← process).status = 0 then run mode second fuel
    | .either first second =>
      run { tested := true } first fuel
      if (← process).status != 0 then run mode second fuel
    | .inverse c =>
      run { tested := true } c fuel
      setStatus (if (← process).status = 0 then 1 else 0)
    | .pipe commands => runPipe none commands fuel
    | .background c =>
      let number ← birth
      let silent ← newStream .void
      let p ← process
      let job : Waiting := ⟨c, { subshell p with
        number := number
        descriptors := (0, silent) :: p.descriptors.filter fun d => d.1 != 0 }⟩
      modifySystem fun sys => { sys with waiting := sys.waiting ++ [job] }
      modifyProcess fun p =>
        { p with background := some number, jobs := number :: p.jobs, status := 0 }
    | .isolated line body =>
      modifyProcess fun p => { p with line := line }
      if mode.last && (← process).traps.isEmpty then
        run { mode with last := true } body fuel
        throw .exiting
      else
        settle (← child subshell (shellProcess (run { mode with last := true } body fuel) fuel))
    | .redirected line body redirections =>
      modifyProcess fun p => { p with line := line }
      let before := (← process).descriptors
      if ← redirect redirections fuel then
        let flow ← observe (run { mode with last := false } body fuel)
        modifyProcess fun p => { p with descriptors := before }
        match flow with
        | some flow => throw flow
        | none => pure ()
      else
        modifyProcess fun p => { p with descriptors := before }
        setStatus 2
    | .branch condition good bad =>
      run { tested := true } condition fuel
      if (← process).status = 0 then run mode good fuel
      else
        setStatus 0
        run mode bad fuel
    | .loop wanted condition body =>
      modifyProcess fun p => { p with loops := p.loops + 1 }
      runLoop mode wanted condition body 0 fuel
      modifyProcess fun p => { p with loops := p.loops - 1 }
    | .each line name words body =>
      modifyProcess fun p => { p with line := line }
      let fields ← expandAll words fuel
      setStatus 0
      modifyProcess fun p => { p with loops := p.loops + 1 }
      runEach mode name body fields fuel
      modifyProcess fun p => { p with loops := p.loops - 1 }
    | .choice line subject cases =>
      modifyProcess fun p => { p with line := line }
      let s ← Expand.text (fun c => output c fuel) subject
      setStatus 0
      choose mode s.toList cases fuel
    | .define name body =>
      modifyProcess fun p =>
        { p with
          functions := (name, body) :: p.functions.filter fun f => f.1 != name
          status := 0 }
termination_by structural fuel => fuel

def runAll (mode : Mode) (commands : List Command) : Nat → Act Unit
  | 0 => throw (.killed 13)
  | fuel + 1 => do
    match commands with
    | [] => pure ()
    | [c] => run mode c fuel
    | c :: rest =>
      run { mode with last := false } c fuel
      runAll mode rest fuel
termination_by structural fuel => fuel

/-- Runs a body as long as a condition gives the wanted result; `status` is that of the last
body. -/
def runLoop (mode : Mode) (wanted : Bool) (condition body : Command) (status : Nat) :
    Nat → Act Unit
  | 0 => throw (.killed 13)
  | fuel + 1 => do
    let goesOn (flow : Option Flow) : Act Bool := do
      match flow with
      | none | some (.continuing 0) | some (.continuing 1) => return true
      | some (.continuing (n + 2)) => throw (.continuing (n + 1))
      | some (.breaking (n + 2)) => throw (.breaking (n + 1))
      | some (.breaking _) => return false
      | some flow => throw flow
    let left ← observe (run { tested := true } condition fuel)
    if !(← goesOn left) then setStatus 0
    else if left.isSome then runLoop mode wanted condition body status fuel
    else if ((← process).status = 0) != wanted then setStatus status
    else if ← goesOn (← observe (run { tested := mode.tested } body fuel)) then
      runLoop mode wanted condition body (← process).status fuel
    else setStatus 0
termination_by structural fuel => fuel

def runEach (mode : Mode) (name : String) (body : Command) (fields : List String) : Nat → Act Unit
  | 0 => throw (.killed 13)
  | fuel + 1 => do
    match fields with
    | [] => pure ()
    | field :: rest =>
      assign name field
      match ← observe (run { tested := mode.tested } body fuel) with
      | none | some (.continuing 0) | some (.continuing 1) => runEach mode name body rest fuel
      | some (.continuing (n + 2)) => throw (.continuing (n + 1))
      | some (.breaking (n + 2)) => throw (.breaking (n + 1))
      | some (.breaking _) => setStatus 0
      | some flow => throw flow
termination_by structural fuel => fuel

/-- Runs the body of the first case with a pattern that covers a text. -/
def choose (mode : Mode) (subject : List Char) (cases : List (List Word × Command)) : Nat → Act Unit
  | 0 => throw (.killed 13)
  | fuel + 1 => do
    match cases with
    | [] => pure ()
    | (patterns, body) :: rest =>
      if ← covered subject patterns fuel then run mode body fuel
      else choose mode subject rest fuel
termination_by structural fuel => fuel

def covered (subject : List Char) (patterns : List Word) : Nat → Act Bool
  | 0 => throw (.killed 13)
  | fuel + 1 => do
    match patterns with
    | [] => return false
    | w :: rest =>
      let gs ← Expand.glyphs (fun c => output c fuel) w
      if Glob.covers (pattern gs) subject then return true
      covered subject rest fuel
termination_by structural fuel => fuel

/-- Runs commands that are joined by pipes; `input` is what the first of them reads. -/
def runPipe (input : Option Nat) (commands : List Command) : Nat → Act Unit
  | 0 => throw (.killed 13)
  | fuel + 1 => do
    let joined (p : Process) (output : Option Nat) : Process :=
      let set (descriptor : Nat) (n : Option Nat) (ds : List (Nat × Nat)) : List (Nat × Nat) :=
        match n with
        | some n => (descriptor, n) :: ds.filter fun d => d.1 != descriptor
        | none => ds
      { subshell p with descriptors := set 1 output (set 0 input p.descriptors) }
    match commands with
    | [] => pure ()
    | [c] =>
      settle (← child (joined · none) (shellProcess (run { last := true } c fuel) fuel))
    | c :: rest =>
      let sink ← newStream (.sink [])
      let status ← child (joined · (some sink)) (do
        shellProcess (run { last := true } c fuel) fuel
        runWaiting fuel)
      settle status
      let text ← collected sink
      setStream sink .void
      let source ← newStream (.source text false)
      runPipe (some source) rest fuel
termination_by structural fuel => fuel

/-- Runs what is to be a process of a shell up to its end, with the trap for that. -/
def shellProcess (body : Act Unit) : Nat → Act Unit
  | 0 => throw (.killed 13)
  | fuel + 1 => do
    match ← observe body with
    | some (.killed n) => throw (.killed n)
    | _ =>
      let p ← process
      match p.traps.lookup 0 with
      | none => pure ()
      | some action =>
        modifyProcess fun p => { p with traps := p.traps.filter fun t => t.1 != 0 }
        let status := p.status
        match ← observe (runText {} action fuel) with
        | some (.killed n) => throw (.killed n)
        | some .exiting | some .failing => pure ()
        | _ => setStatus status
termination_by structural fuel => fuel

def runTraps : Nat → Act Unit
  | 0 => throw (.killed 13)
  | fuel + 1 => do
    let p ← process
    match p.caught with
    | [] => pure ()
    | signal :: rest =>
      modifyProcess fun p => { p with caught := rest }
      match p.traps.lookup signal with
      | none => pure ()
      | some action =>
        runText {} action fuel
        setStatus p.status
      runTraps fuel
termination_by structural fuel => fuel

def runWaiting : Nat → Act Unit
  | 0 => throw (.killed 13)
  | fuel + 1 => do
    match (← system).waiting with
    | [] => pure ()
    | job :: rest =>
      modifySystem fun sys => { sys with waiting := rest }
      let outer ← process
      modifyProcess fun _ => job.process
      let status ← endOf (← observe (do
        takeSignals
        shellProcess (run { last := true } job.body fuel) fuel))
      bury job.process.number status
      modifyProcess fun _ => outer
      takeSignals
      runWaiting fuel
termination_by structural fuel => fuel

def output (c : Command) : Nat → Act (List Char)
  | 0 => throw (.killed 13)
  | fuel + 1 => do
    let sink ← newStream (.sink [])
    let status ← child
      (fun p => { subshell p with
        descriptors := (1, sink) :: p.descriptors.filter fun d => d.1 != 1 })
      (do
        shellProcess (run { last := true } c fuel) fuel
        runWaiting fuel)
    settle status
    let text ← collected sink
    setStream sink .void
    return text
termination_by structural fuel => fuel

def expandAll (words : List Word) : Nat → Act (List String)
  | 0 => throw (.killed 13)
  | fuel + 1 => do
    match words with
    | [] => return []
    | w :: rest =>
      let fields ← Expand.fields (fun c => output c fuel) w
      return fields ++ (← expandAll rest fuel)
termination_by structural fuel => fuel

/-- Joins descriptors to files; tells whether all went well. -/
def redirect (redirections : List Redirection) : Nat → Act Bool
  | 0 => throw (.killed 13)
  | fuel + 1 => do
    match redirections with
    | [] => return true
    | .mk descriptor target :: rest =>
      let text (w : Word) : Act String := Expand.text (fun c => output c fuel) w
      let opened (title : String) (path : String) (result : Except String Nat) : Act Bool := do
        match result with
        | .ok n =>
          join descriptor (some n)
          return true
        | .error reason =>
          match (← process).dialect with
          | .small => complain (title ++ " " ++ path ++ ": " ++ reason)
          | .large =>
            complain (path ++ ": " ++ if openReasons.contains reason then
              SystemError.noEntry.text else reason)
          return false
      let good ← match target with
        | .read w => do
          let path ← text w
          opened "cannot open" path (← openSource path)
        | .write w => do
          let path ← text w
          let careful := (← process).options.contains 'C'
          opened "cannot create" path (← openSink (if careful then .existing else .nothing) path)
        | .overwrite w => do
          let path ← text w
          opened "cannot create" path (← openSink .nothing path)
        | .append w => do
          let path ← text w
          opened "cannot create" path (← openSink .all path)
        | .both w => do
          let path ← text w
          match ← find path with
          | .error _ =>
            let _ ← openSink .all path
          | .ok _ => pure ()
          opened "cannot create" path (← openSource path)
        | .same w => do
          let s ← text w
          if s = "-" then
            join descriptor none
            pure true
          else
            match Utility.natural? s with
            | none => fail ("Syntax error: Bad fd number")
            | some n =>
              match ← stream? n with
              | some stream =>
                join descriptor (some stream)
                pure true
              | none =>
                complain (s ++ ": Bad file descriptor")
                pure false
        | .document number => do
          let w := ((← process).documents.lookup number).getD []
          let s ← text w
          join descriptor (some (← newStream (.source s.toList false)))
          pure true
      if good then redirect rest fuel else return false
termination_by structural fuel => fuel

/-- Gives values to variables; tells the names and the values. -/
def assignAll (assignments : List (String × Word)) : Nat → Act (List (String × String))
  | 0 => throw (.killed 13)
  | fuel + 1 => do
    match assignments with
    | [] => return []
    | (name, w) :: rest =>
      let value ← Expand.assigned (fun c => output c fuel) w
      assign name value
      return (name, value) :: (← assignAll rest fuel)
termination_by structural fuel => fuel

/-- Runs a simple command: expansions, redirections, assignments, then the command of that name. -/
def runSimple (mode : Mode) (line : Nat) (assignments : List (String × Word)) (words : List Word)
    (redirections : List Redirection) : Nat → Act Unit
  | 0 => throw (.killed 13)
  | fuel + 1 => do
    modifyProcess fun p => { p with line := line }
    let last := (← process).status
    let fields ← expandAll words fuel
    let before := (← process).descriptors
    let errors ← stream? 2
    let good ← redirect redirections fuel
    let name := fields.headD ""
    let restore : Act Unit := modifyProcess fun p => { p with descriptors := before }
    let special := Builtin.special.contains name
    if !good then
      restore
      match (← process).dialect with
      | .small =>
        setStatus 2
        if special then throw .failing
      | .large => setStatus 1
    else if fields.isEmpty then
      if words.isEmpty then setStatus 0
      let flow ← observe (do
        if !assignments.isEmpty then setStatus 0
        let given ← assignAll assignments fuel
        trace errors (given.map fun x => x.1 ++ "=" ++ x.2))
      restore
      match flow with
      | some flow => throw flow
      | none => pure ()
    else
      let saved := (← process).bindings
      let outerTrace := errors
      let flow ← observe (do
        let given ← assignAll assignments fuel
        trace outerTrace (given.map (fun x => x.1 ++ "=" ++ x.2) ++ fields)
        setStatus last
        if !special then
          given.forM fun x => do
            let v := ((← process).bindings.lookup x.1).getD {}
            setBinding x.1 (some { v with exported := true })
        dispatch mode name (fields.drop 1) fuel)
      if name != "exec" || 1 < fields.length then restore
      if !special && !assignments.isEmpty then
        modifyProcess fun p => { p with
          bindings := assignments.foldl (fun bs a =>
            let others := bs.filter fun x => x.1 != a.1
            match saved.lookup a.1 with
            | some v => (a.1, v) :: others
            | none => others) p.bindings }
      match flow with
      | some flow => throw flow
      | none => pure ()
termination_by structural fuel => fuel

/-- Runs the command of a name: one of the shell's own, a function or a program. -/
def dispatch (mode : Mode) (name : String) (args : List String) : Nat → Act Unit
  | 0 => throw (.killed 13)
  | fuel + 1 => do
    let p ← process
    let name := if p.dialect = .large && name = "source" then "." else name
    if Builtin.special.contains name then builtin mode name args fuel
    else match p.functions.lookup name with
    | some body => callFunction mode body args fuel
    | none =>
      if Builtin.regular.contains name then
        match ← observe (builtin mode name args fuel) with
        | some .failing => pure ()
        | some flow => throw flow
        | none => pure ()
      else external mode name args fuel
termination_by structural fuel => fuel

def callFunction (mode : Mode) (body : Command) (args : List String) : Nat → Act Unit
  | 0 => throw (.killed 13)
  | fuel + 1 => do
    let outer ← process
    modifyProcess fun p => { p with args := args, hidden := [] :: p.hidden, loops := 0 }
    let flow ← observe (run { tested := mode.tested } body fuel)
    Builtin.unhide
    modifyProcess fun p => { p with args := outer.args, loops := outer.loops }
    match flow with
    | none | some .returning => pure ()
    | some flow => throw flow
termination_by structural fuel => fuel

def builtin (mode : Mode) (name : String) (args : List String) : Nat → Act Unit
  | 0 => throw (.killed 13)
  | fuel + 1 => do
    let outer := (← process).command
    let within (title : String) (body : Act Unit) : Act Unit := do
      modifyProcess fun p => { p with command := some title }
      let flow ← observe body
      modifyProcess fun p => { p with command := outer }
      match flow with
      | some flow => throw flow
      | none => pure ()
    match Builtin.run? name args with
    | some body => within name body
    | none =>
      match name with
      | "eval" =>
        within name (do
          setStatus 0
          runText mode (String.intercalate " " args) fuel)
      | "." =>
        match args with
        | [] => pure ()
        | path :: _ => within name (source path fuel)
      | "exec" =>
        match args with
        | [] => setStatus 0
        | name :: args =>
          within "exec" (external { mode with last := true } name args fuel)
          throw .exiting
      | "command" =>
        match args with
        | "-v" :: names => within name (Builtin.type true (names.take 1))
        | "-V" :: names => within name (Builtin.type false (names.take 1))
        | "-p" :: inner :: rest | "--" :: inner :: rest | inner :: rest =>
          let own := Builtin.special.contains inner || Builtin.regular.contains inner
          if inner = "exec" || !own then
            (if inner = "exec" then builtin mode inner rest fuel else external mode inner rest fuel)
          else
            match ← observe (builtin mode inner rest fuel) with
            | some .failing => pure ()
            | some flow => throw flow
            | none => pure ()
        | [] => setStatus 0
      | "wait" => within name (wait args fuel)
      | _ => setStatus 127
termination_by structural fuel => fuel

def wait (args : List String) : Nat → Act Unit
  | 0 => throw (.killed 13)
  | fuel + 1 => do
    let jobs := (← process).jobs
    runWaiting fuel
    setStatus 0
    if args.isEmpty then modifyProcess fun p => { p with jobs := [] }
    args.forM fun arg => do
      let number ← if arg.startsWith "%" then pure (jobs.getLastD 0) else Builtin.natural arg
      if jobs.contains number then
        match (← system).ended.lookup number with
        | some status => settle status
        | none => setStatus 127
      else setStatus 127
    match (← process).caught with
    | signal :: _ => setStatus (128 + signal)
    | [] => pure ()
termination_by structural fuel => fuel

def source (path : String) : Nat → Act Unit
  | 0 => throw (.killed 13)
  | fuel + 1 => do
    let found ←
      if path.toList.contains '/' then pure (some path)
      else
        let m ← machine
        pure (((Text.fields ':' ((← valueOf? "PATH").getD "")).map fun d =>
          Machine.inDirectory d path).find? fun p => m.tree.isFile m.directory p)
    let content : Option (List Char) ← match found with
      | none => fail (path ++ ": not found")
      | some path =>
        match ← find path with
        | .ok (.file content _) => pure (some content)
        | .ok .void => pure (some [])
        | .ok _ => pure (some [])
        | .error e => fail ("cannot open " ++ path ++ ": " ++ openReason false e)
    modifyProcess fun p => { p with command := some (found.getD path), status := 0 }
    match ← observe (script {} { rest := content.getD [] } fuel) with
    | none | some .returning => pure ()
    | some flow => throw flow
termination_by structural fuel => fuel

def runText (mode : Mode) (text : String) : Nat → Act Unit
  | 0 => throw (.killed 13)
  | fuel + 1 => script mode { rest := text.toList } fuel
termination_by structural fuel => fuel

def script (mode : Mode) (r : Reader) : Nat → Act Unit
  | 0 => throw (.killed 13)
  | fuel + 1 => do
    let (c, r) ← readCommands r
    match c with
    | none => pure ()
    | some c =>
      run { mode with last := mode.last && r.isDone } c fuel
      script mode r fuel
termination_by structural fuel => fuel

def external (mode : Mode) (name : String) (args : List String) : Nat → Act Unit
  | 0 => throw (.killed 13)
  | fuel + 1 => do
    let m ← machine
    let m := { m with environment :=
      match (← process).bindings.lookup "PATH" with
      | some ⟨some path, _, _⟩ => [("PATH", path)]
      | _ => [("PATH", "")] }
    if name = "sleep" then runWaiting fuel
    let start (body : Act Unit) : Act Unit := do
      if mode.last && (← process).traps.isEmpty then
        let p ← process
        modifyProcess fun _ => { startedProgram p with
          shell := p.number, parent := p.parent, number := p.number }
        body
        throw .exiting
      else settle (← child startedProgram (do
        modifyProcess fun p => { p with shell := p.number }
        body))
    match m.resolve name args with
    | .ok p => start (program p fuel)
    | .error .badFormat => start (program ⟨"sh", "sh" :: name :: args⟩ fuel)
    | .error e =>
      let p ← process
      let (reason, status) := match e with
        | .noEntry | .notDirectory =>
          (match p.dialect with
            | .small => "not found"
            | .large =>
              if name.toList.contains '/' then e.text
              else if p.command.isSome then "not found"
              else "command not found", 127)
        | e => (e.text, 126)
      complain (name ++ ": " ++ reason)
      setStatus status
      if mode.last then throw .exiting
termination_by structural fuel => fuel

/-- Runs a program in a process that has been made for it. -/
def program (p : Program) : Nat → Act Unit
  | 0 => throw (.killed 13)
  | fuel + 1 => do
    match p.utility with
    | "sh" | "dash" => runShell .small (p.args.headD "sh") (p.args.drop 1) fuel
    | "bash" => runShell .large (p.args.headD "bash") (p.args.drop 1) fuel
    | "env" => runEnv (p.args.headD "env") (p.args.drop 1) fuel
    | "xargs" => runXargs (p.args.headD "xargs") (p.args.drop 1) fuel
    | name =>
      let s ← get
      runUtility (fun text => served s (runShell .small "sh" ["-c", text] fuel)) name p.args
termination_by structural fuel => fuel

def runShell (dialect : Dialect) (called : String) (args : List String) : Nat → Act Unit
  | 0 => throw (.killed 13)
  | fuel + 1 => do
    modifyProcess fun p => { p with name := called, dialect := dialect, line := 0 }
    prepareShell
    match Start.read { called := called, dialect := dialect, args := [] } args.length.succ args with
    | .error reason =>
      complain reason
      setStatus 2
    | .ok s =>
      modifyProcess fun p => { p with options := s.options.eraseDups }
      if s.inArgument then
        match s.args with
        | [] =>
          complain "-c requires an argument"
          setStatus 2
        | text :: rest =>
          modifyProcess fun p =>
            { p with name := rest.headD called, args := rest.drop 1, line := 1 }
          shellProcess (script { last := true } { rest := text.toList } fuel) fuel
      else
        match s.args, s.options.contains 's' with
        | path :: rest, false =>
          match ← find path with
          | .ok (.file content _) =>
            modifyProcess fun p => { p with name := path, args := rest, line := 1 }
            shellProcess (script {} { rest := content } fuel) fuel
          | .ok _ => setStatus 0
          | .error e =>
            complain ("cannot open " ++ path ++ ": " ++ openReason false e)
            setStatus 2
        | args, _ =>
          let input ← input? 0
          if input.isSome then setInput 0 []
          modifyProcess fun p => { p with args := args, line := 1 }
          shellProcess (script {} { rest := input.getD [] } fuel) fuel
termination_by structural fuel => fuel

def runEnv (called : String) (args : List String) : Nat → Act Unit
  | 0 => throw (.killed 13)
  | fuel + 1 => do
    let tell (s : String) : Act Unit := do
      let _ ← write 2 (s ++ "\n").toList
    match EnvRequest.read args with
    | .error e =>
      tell (called ++ ": " ++ e)
      tell ("Try '" ++ called ++ " --help' for more information.")
      setStatus 125
    | .ok e =>
      if e.cleared then modifyProcess fun p => { p with bindings := [] }
      e.removed.forM fun name => setBinding name none
      e.assigned.forM fun (name, value) =>
        setBinding name (some { value := some value, exported := true })
      match e.command with
      | [] =>
        (← environment).forM fun (name, value) => do
          let _ ← write 1 (name ++ "=" ++ value ++ "\n").toList
        setStatus 0
      | name :: args =>
        match (← machine).resolve name args with
        | .ok p => program p fuel
        | .error .badFormat => program ⟨"sh", "sh" :: name :: args⟩ fuel
        | .error reason =>
          tell (called ++ ": " ++ Utility.quote name ++ ": " ++ reason.text)
          if reason = .noEntry && name.toList.any Utility.isGap then
            tell (called ++ ": use -[v]S to pass options in shebang lines")
          setStatus (if reason = .noEntry then 127 else 126)
termination_by structural fuel => fuel

/-- Runs a program with what is read as its arguments. -/
def runXargs (called : String) (args : List String) : Nat → Act Unit
  | 0 => throw (.killed 13)
  | fuel + 1 => do
    let opts : List Utility.Opt := [⟨'n', ["max-args"], .argument⟩, ⟨'I', [], .argument⟩,
      ⟨'0', ["null"], .nothing⟩, ⟨'r', ["no-run-if-empty"], .nothing⟩,
      ⟨'d', ["delimiter"], .argument⟩, ⟨'L', ["max-lines"], .argument⟩,
      ⟨'t', ["verbose"], .nothing⟩, ⟨'P', ["max-procs"], .argument⟩]
    let tell (s : String) : Act Unit := do
      let _ ← write 2 (s ++ "\n").toList
    match Utility.options opts false none {} args with
    | .error e =>
      tell (called ++ ": " ++ e)
      tell ("Try '" ++ called ++ " --help' for more information.")
      setStatus 1
    | .ok g =>
      let input := ((← input? 0).getD [])
      setInput 0 []
      let (items, unmatched) : List (List Char) × Option Char :=
        if g.has '0' then
          (Utility.linesOf (input.map fun c => if c = '\x00' then '\n' else c), none)
        else match g.get? 'd' with
          | some d =>
            let escapes : Utility.Escapes := { letters := Utility.controlEscapes }
            let mark := ((escapes.expanded d).1).headD ' '
            (match (input.splitOn mark).reverse with
              | [] :: rest => rest.reverse
              | parts => parts.reverse, none)
          | none => xargsItems (g.has 'I' || g.has 'L') none [] input.length.succ input
      let items := items.map String.ofList
      let command := if g.operands.isEmpty then ["echo"] else g.operands
      let silent ← newStream .void
      join 0 (some silent)
      let calls := match g.get? 'I' with
        | some mark =>
          items.map fun item => command.map fun a =>
            String.ofList (replaced mark.toList item.toList a.length.succ a.toList)
        | none =>
          match ((g.get? 'n').orElse fun _ => g.get? 'L').bind Utility.natural? with
          | some n => (chunks (max n 1) items.length items).map (command ++ ·)
          | none => if items.isEmpty && g.has 'r' then [] else [command ++ items]
      let calls := if items.isEmpty && g.has 'r' then [] else calls
      let calls := if items.isEmpty && calls.isEmpty && !g.has 'r' && !g.has 'I' then [command]
        else calls
      let calls := if unmatched.isSome && items.isEmpty then [] else calls
      runCalls called 0 calls fuel
      match unmatched with
      | some c =>
        tell (called ++ ": unmatched " ++ (if c = '"' then "double" else "single") ++
          " quote; by default quotes are special to xargs unless you use the -0 option")
        setStatus 1
      | none => pure ()
termination_by structural fuel => fuel

def runCalls (called : String) (status : Nat) (calls : List (List String)) : Nat → Act Unit
  | 0 => throw (.killed 13)
  | fuel + 1 => do
    match calls with
    | [] => setStatus status
    | call :: rest =>
      let name := call.headD ""
      match (← machine).resolve name (call.drop 1) with
      | .ok p =>
        let result ← child (fun p => { p with shell := p.number }) (program p fuel)
        match result with
        | .code 0 => runCalls called status rest fuel
        | .code 255 =>
          let _ ← write 2 (called ++ ": " ++ name ++ ": exited with status 255; aborting\n").toList
          setStatus 124
        | .code _ => runCalls called 123 rest fuel
        | .signal n =>
          let _ ← write 2 (called ++ ": " ++ name ++ ": terminated by signal " ++ toString n ++
            "\n").toList
          setStatus 125
      | .error e =>
        let _ ← write 2 (called ++ ": " ++ name ++ ": " ++ e.text ++ "\n").toList
        setStatus (if e = .noEntry then 127 else 126)
termination_by structural fuel => fuel

end

end Disasm.Host.Shell
