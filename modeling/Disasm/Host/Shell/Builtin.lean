import Disasm.Host.Shell.Expand
import Disasm.Host.Utility.Condition

namespace Disasm.Host.Shell.Builtin

open Act Tool

def print (s : String) : Act Unit := do
  let _ ← write 1 s.toList

/-- A text in single quotes, as the shell reads it. -/
def quoted (s : String) : String :=
  let quote (cs : List Char) : List Char := '\'' :: cs ++ ['\'']
  match s.toList.splitOn '\'' with
  | [cs] => String.ofList (quote cs)
  | parts =>
    String.intercalate "\"'\"" (parts.map fun cs =>
      if cs.isEmpty then "" else String.ofList (quote cs))

def natural (s : String) : Act Nat := do
  match Utility.natural? s with
  | some n => return n
  | none => fail ("Illegal number: " ++ s)

def illegalOption {α : Type} (c : Char) : Act α :=
  fail ("Illegal option -" ++ String.ofList [c])

/-- The options of a command in front of its operands, all of them without arguments. -/
def options (known : List Char) (done : List Char) : List String → Act (List Char × List String)
  | [] => return (done, [])
  | arg :: rest => do
    if arg = "--" then return (done, rest)
    match arg.toList with
    | '-' :: c :: cs =>
      match (c :: cs).find? fun c => !known.contains c with
      | some c => illegalOption c
      | none => options known (done ++ c :: cs) rest
    | _ => return (done, arg :: rest)

def echo (args : List String) : Act Unit := do
  let text := match (← process).dialect with
    | .small => Utility.shellEcho args
    | .large => Utility.echoText args
  if ← write 1 text then setStatus 0
  else
    complain "echo: I/O error"
    setStatus 1

def printf (args : List String) : Act Unit := do
  let (_, args) ← options [] [] args
  match args with
  | [] => fail "usage: printf format [arg ...]"
  | format :: args =>
    let p := Utility.shellPrintf.run format args
    p.messages.reverse.forM complain
    let good ← write 1 p.output.reverse.flatten
    if !good then complain "I/O error"
    setStatus (if p.broken then 2 else if p.messages.isEmpty && good then 0 else 1)
    if p.broken then throw .failing

def test (bracket : Bool) (args : List String) : Act Unit := do
  if bracket && args.getLast? != some "]" then fail "missing ]"
  let args := if bracket then args.dropLast else args
  match Utility.shellTest ⟨(← system).tree, (← process).directory⟩ args with
  | .ok value => setStatus (if value then 0 else 1)
  | .error message => fail message

/-- A name and a value, behind a check of the name. -/
def assignment (arg : String) : Act (String × Option String) := do
  let (name, value) := splitAssignment arg.toList
  if !isName name then fail (name ++ ": bad variable name")
  return (name, value.map String.ofList)

/-- Gives variables a quality, and perhaps a value. -/
def declare (title : String) (has : Variable → Bool) (give : Variable → Variable)
    (args : List String) : Act Unit := do
  let (_, args) ← options ['p'] [] args
  if args.isEmpty then
    let shown := (← process).bindings.filter fun x => has x.2
    (shown.mergeSort fun a b => !(b.1 < a.1)).forM fun (name, v) =>
      print (title ++ " " ++ name ++ (match v.value with
        | some value => "=" ++ quoted value
        | none => "") ++ "\n")
  args.forM fun arg => do
    let (name, value) ← assignment arg
    match value with
    | some value => assign name value
    | none => pure ()
    setBinding name (some (give (((← process).bindings.lookup name).getD {})))
  setStatus 0

def unset (args : List String) : Act Unit := do
  let (opts, names) ← options ['f', 'v'] [] args
  names.forM fun name => do
    if opts.getLast? = some 'f' then
      modifyProcess fun p => { p with functions := p.functions.filter fun f => f.1 != name }
    else
      if !isName name then fail (name ++ ": bad variable name")
      let p ← process
      if ((p.bindings.lookup name).map Variable.fixed).getD false then
        fail (name ++ ": is read only")
      setBinding name none
  setStatus 0

def hide (args : List String) : Act Unit := do
  match (← process).hidden with
  | [] => fail "not in a function"
  | _ =>
    args.forM fun arg => do
      let (name, value) ← assignment arg
      let old := (← process).bindings.lookup name
      modifyProcess fun p =>
        { p with hidden := match p.hidden with
          | top :: rest => ((name, old) :: top) :: rest
          | [] => [] }
      match value with
      | some value => assign name value
      | none => pure ()
    setStatus 0

def unhide : Act Unit := do
  match (← process).hidden with
  | [] => return
  | top :: rest =>
    modifyProcess fun p => { p with hidden := rest }
    top.forM fun (name, old) => setBinding name old

def shift (args : List String) : Act Unit := do
  let n ← match args with
    | [] => pure 1
    | n :: _ => natural n
  if (← process).args.length < n then fail "can't shift that many"
  modifyProcess fun p => { p with args := p.args.drop n, status := 0 }

/-- Lists the options: for readers, or as commands that set them again. -/
def showOptions (forReaders : Bool) : Act Unit := do
  let p ← process
  if forReaders then print "Current option settings\n"
  optionNames.forM fun (c, name) =>
    let isOn := p.options.contains c
    if forReaders then
      print (name ++ String.ofList (List.replicate (16 - name.length) ' ') ++
        (if isOn then "on" else "off") ++ "\n")
    else print ("set " ++ (if isOn then "-" else "+") ++ "o " ++ name ++ "\n")

/-- Sets or clears the options of a cluster of letters, in which `o` stands for one that an argument
names. The arguments that are left come back. -/
def setCluster (isOn : Bool) : List Char → List String → Act (List String)
  | [], rest => return rest
  | c :: cs, rest => do
    let turn (c : Char) : Act Unit :=
      modifyProcess fun p =>
        let others := p.options.filter (· != c)
        { p with options := if isOn then c :: others else others }
    let illegal {α : Type} (s : String) : Act α :=
      fail ("Illegal option " ++ (if isOn then "-" else "+") ++ s)
    if c = 'o' then
      match rest with
      | [] =>
        showOptions isOn
        setCluster isOn cs []
      | name :: rest =>
        match optionNames.find? fun x => x.2 = name with
        | some (c, _) => turn c
        | none =>
          if (← process).dialect = .small || name != "pipefail" then illegal ("o " ++ name)
        setCluster isOn cs rest
    else
      if optionLetters.contains c then turn c else illegal (String.ofList [c])
      setCluster isOn cs rest

/-- Sets and clears options. What is left are operands, if there are any. -/
def setOptions : Nat → List String → Act (Option (List String))
  | 0, _ | _, [] => return none
  | fuel + 1, arg :: rest => do
    match arg.toList with
    | ['-', '-'] => return some rest
    | ['-'] => return if rest.isEmpty then none else some rest
    | sign :: c :: cs =>
      if sign = '-' || sign = '+' then
        let rest ← setCluster (sign = '-') (c :: cs) rest
        setOptions fuel rest
      else return some (arg :: rest)
    | _ => return some (arg :: rest)

def set (args : List String) : Act Unit := do
  if args.isEmpty then
    ((← process).bindings.mergeSort fun a b => !(b.1 < a.1)).forM fun (name, v) =>
      match v.value with
      | some value => print (name ++ "=" ++ quoted value ++ "\n")
      | none => pure ()
  match ← setOptions args.length.succ args with
  | some operands => modifyProcess fun p => { p with args := operands }
  | none => pure ()
  setStatus 0

/-- The characters of one line, and whether it was complete. Without `raw` a backslash quotes the
next character and joins lines. -/
def lineGlyphs (raw : Bool) (done : List Glyph) :
    List Char → List Glyph × List Char × Bool
  | [] => (done.reverse, [], false)
  | '\n' :: rest => (done.reverse, rest, true)
  | '\\' :: c :: rest =>
    if raw then lineGlyphs raw (⟨'\\', false⟩ :: done) (c :: rest)
    else if c = '\n' then lineGlyphs raw done rest
    else lineGlyphs raw (⟨c, true⟩ :: done) rest
  | ['\\'] => ((if raw then ⟨'\\', false⟩ :: done else done).reverse, [], false)
  | c :: rest => lineGlyphs raw (⟨c, false⟩ :: done) rest

def isBlankGlyph (separators : List Char) (g : Glyph) : Bool :=
  !g.quoted && separators.contains g.char && (g.char = ' ' || g.char = '\t' || g.char = '\n')

def isSeparator (separators : List Char) (g : Glyph) : Bool :=
  !g.quoted && separators.contains g.char

/-- The first `n` fields of a line, the last of them with all that is left. -/
def divide (separators : List Char) : Nat → List Glyph → List (List Glyph)
  | 0, _ => []
  | n + 1, gs =>
    let gs := gs.dropWhile (isBlankGlyph separators)
    if n = 0 then
      [((gs.reverse.dropWhile (isBlankGlyph separators)).reverse)]
    else
      let field := gs.takeWhile fun g => !isSeparator separators g
      let rest := (gs.drop field.length).dropWhile (isBlankGlyph separators)
      let rest := match rest with
        | g :: more => if isSeparator separators g then more else rest
        | [] => []
      field :: divide separators n rest

def read (args : List String) : Act Unit := do
  let rec front (raw : Bool) : List String → Act (Bool × List String)
    | "-p" :: _ :: rest => front raw rest
    | "--" :: rest => return (raw, rest)
    | arg :: rest =>
      match arg.toList with
      | '-' :: c :: cs => do
        match (c :: cs).find? fun c => c != 'r' with
        | some c => illegalOption c
        | none => front true rest
      | _ => return (raw, arg :: rest)
    | [] => return (raw, [])
  let (raw, names) ← front false args
  if names.isEmpty then fail "arg count"
  let input ← input? 0
  let (glyphs, rest, complete) := lineGlyphs raw [] (input.getD [])
  if input.isSome then setInput 0 rest
  let separators ← Expand.separators
  let glyphs := glyphs.filter fun g => g.char != '\x00'
  let fields := divide separators names.length glyphs
  (names.zip fields).forM fun (name, field) => do
    if !isName name then fail (name ++ ": bad variable name")
    assign name (String.ofList (field.map Glyph.char))
  setStatus (if complete then 0 else 1)

/-- Reads the next option of the arguments into a variable. -/
def getopts (args : List String) : Act Unit := do
  match args with
  | options :: name :: operands =>
    let p ← process
    let operands := if operands.isEmpty then p.args else operands
    let silent := options.startsWith ":"
    let letters := if silent then options.toList.drop 1 else options.toList
    let index := ((← valueOf? "OPTIND").bind Utility.natural?).getD 1
    let cluster := if index = 0 then 0 else p.cluster
    let index := max index 1
    let finish : Act Unit := do
      assign name "?"
      modifyProcess fun p => { p with cluster := 0 }
      setBinding "OPTARG" none
      setStatus 1
    let arg := operands.getD (index - 1) ""
    let next (index cluster : Nat) : Act Unit := do
      assign "OPTIND" (toString index)
      modifyProcess fun p => { p with cluster := cluster, status := 0 }
    if operands.length < index then finish
    else if arg = "--" && cluster = 0 then
      assign "OPTIND" (toString (index + 1))
      finish
    else
      match arg.toList.drop (cluster + 1), arg.startsWith "-" with
      | c :: rest, true =>
        let (behind, within) := if rest.isEmpty then (index + 1, 0) else (index, cluster + 1)
        match letters.dropWhile (· != c) with
        | _ :: ':' :: _ =>
          if !rest.isEmpty then
            assign name (String.ofList [c])
            assign "OPTARG" (String.ofList rest)
            next (index + 1) 0
          else if index < operands.length then
            assign name (String.ofList [c])
            assign "OPTARG" (operands.getD index "")
            next (index + 2) 0
          else
            if silent then
              assign name ":"
              assign "OPTARG" (String.ofList [c])
            else
              assign name "?"
              setBinding "OPTARG" none
              let _ ← write 2 ("No arg for -" ++ String.ofList [c] ++ " option\n").toList
            next (index + 1) 0
        | _ :: _ =>
          if c = ':' then finish
          else
            assign name (String.ofList [c])
            assign "OPTARG" ""
            next behind within
        | [] =>
          assign name "?"
          if silent then assign "OPTARG" (String.ofList [c])
          else
            setBinding "OPTARG" none
            let _ ← write 2 ("Illegal option -" ++ String.ofList [c] ++ "\n").toList
          next behind within
      | _, _ => finish
  | _ => fail "Usage: getopts optstring var [arg...]"

def pathOf (place : Place) : String :=
  "/" ++ String.intercalate "/" place

def cd (args : List String) : Act Unit := do
  let (_, args) ← options ['L', 'P'] [] args
  let target ← match args with
    | [] => pure ((← valueOf? "HOME").getD "")
    | "-" :: _ => pure ((← valueOf? "OLDPWD").getD "")
    | path :: _ => pure path
  let refuse (e : SystemError) : Act Unit := do
    match (← process).dialect with
    | .small => fail ("can't cd to " ++ target)
    | .large => fail (target ++ ": " ++ e.text) 1
  if !target.isEmpty then
    let old := (← process).directory
    match ← locate target with
    | .ok place =>
      match (← system).tree.entry? place with
      | some .directory => pure ()
      | some _ => refuse .notDirectory
      | none => refuse .noEntry
      modifyProcess fun p => { p with directory := place }
      assign "OLDPWD" (pathOf old)
      assign "PWD" (pathOf place)
      if args.head? = some "-" then print (pathOf place ++ "\n")
    | .error e => refuse e
  setStatus 0

def pwd : Act Unit := do
  print (pathOf (← process).directory ++ "\n")
  setStatus 0

def killUsage : String :=
  "Usage: kill [-s sigspec | -signum | -sigspec] [pid | job]... or\nkill -l [exitstatus]"

def kill (args : List String) : Act Unit := do
  let deliver (signal : Nat) (targets : List String) : Act Unit := do
    if targets.isEmpty then fail killUsage
    setStatus 0
    targets.forM fun target => do
      let number ←
        if target.startsWith "%" then
          match (← process).jobs with
          | [] => fail ("No such job: " ++ target)
          | jobs => pure (jobs.getLastD 0)
        else
          match Utility.whole? target with
          | some n => if n < 0 then pure 0 else pure n.toNat
          | none => fail ("Illegal number: " ++ target)
      if !(← send number signal) then
        complain "No such process\n"
        setStatus 1
  let named (name : String) : Act Nat := do
    match signalNumber? name with
    | some n => return n
    | none => fail ("invalid signal number or name: " ++ name)
  match args with
  | [] => fail killUsage
  | ["-l"] =>
    ((List.range 65).filter fun n => n != 32 && n != 33).forM fun n =>
      print ((if n = 0 then "0" else signalName n) ++ "\n")
    setStatus 0
  | "-l" :: number :: _ =>
    let n ← natural number
    let n := if 128 < n then n - 128 else n
    if n = 0 || 64 < n then fail ("invalid signal number or exit status: " ++ number)
    print (signalName n ++ "\n")
    setStatus 0
  | ["-s"] => fail "No arg for -s option"
  | "-s" :: name :: targets => do deliver (← named name) targets
  | "--" :: targets => deliver 15 targets
  | first :: targets =>
    match first.toList with
    | '-' :: name =>
      match signalNumber? (String.ofList name) with
      | some n => deliver n targets
      | none => illegalOption (name.headD '-')
    | _ => deliver 15 args

def trap (args : List String) : Act Unit := do
  let (_, args) ← options [] [] args
  let clear (signal : Nat) : Act Unit :=
    modifyProcess fun p => { p with traps := p.traps.filter fun t => t.1 != signal }
  setStatus 0
  match args with
  | [] =>
    ((← process).traps.mergeSort fun a b => a.1 ≤ b.1).forM fun (n, action) =>
      print ("trap -- " ++ quoted action ++ " " ++ signalName n ++ "\n")
  | first :: others =>
    let resets := first = "-" || (others.isEmpty || (Utility.natural? first).isSome)
    let names := if first = "-" || !resets then others else args
    let known := names.takeWhile fun name => (signalNumber? name).isSome
    (known.filterMap signalNumber?).forM fun n => do
      clear n
      if !resets then modifyProcess fun p => { p with traps := (n, first) :: p.traps }
    match names.drop known.length with
    | name :: _ =>
      let _ ← write 2 ("trap: " ++ name ++ ": bad trap\n").toList
      setStatus 1
    | [] => pure ()

/-- Names that stand for texts in scripts that are read from now on. -/
def setAliases (args : List String) : Act Unit := do
  let tell (x : String × String) : Act Unit := print (x.1 ++ "=" ++ quoted x.2 ++ "\n")
  setStatus 0
  if args.isEmpty then
    ((← process).aliases.mergeSort fun a b => !(b.1 < a.1)).forM tell
  args.forM fun arg => do
    let name := arg.toList.takeWhile (· != '=')
    match arg.toList.drop name.length with
    | _ :: text =>
      let name := String.ofList name
      modifyProcess fun p => { p with
        aliases := (name, String.ofList text) :: p.aliases.filter fun x => x.1 != name }
    | [] =>
      match (← process).aliases.lookup arg with
      | some text => tell (arg, text)
      | none =>
        let _ ← write 2 ("alias: " ++ arg ++ " not found\n").toList
        setStatus 1

def dropAliases (args : List String) : Act Unit := do
  let (found, args) ← options ['a'] [] args
  setStatus 0
  if found.contains 'a' then modifyProcess fun p => { p with aliases := [] }
  else
    args.forM fun name => do
      if ((← process).aliases.lookup name).isSome then
        modifyProcess fun p => { p with aliases := p.aliases.filter fun x => x.1 != name }
      else
        let _ ← write 2 ("unalias: " ++ name ++ " not found\n").toList
        setStatus 1

/-- The commands that a shell does itself and that end it if they go wrong. -/
def special : List String :=
  [".", ":", "break", "continue", "eval", "exec", "exit", "export", "local", "readonly", "return",
    "set", "shift", "times", "trap", "unset"]

def regular : List String :=
  ["[", "alias", "bg", "cd", "chdir", "command", "echo", "false", "fg", "getopts", "hash", "jobs",
    "kill", "printf", "pwd", "read", "test", "true", "type", "ulimit", "umask", "unalias",
    "wait"]

def programPath? (name : String) : Act (Option String) := do
  let m ← machine
  let path := ((← valueOf? "PATH").getD "")
  let good (path : String) : Bool :=
    match m.tree.find m.directory path with
    | .ok (.utility _) => true
    | .ok (.file _ executable) => executable
    | _ => false
  if name.toList.contains '/' then return if good name then some name else none
  return ((Text.fields ':' path).map fun d => Machine.inDirectory d name).find? good

def type (brief : Bool) (names : List String) : Act Unit := do
  setStatus 0
  names.forM fun name => do
    let p ← process
    if reservedWords.contains name then
      print (if brief then name ++ "\n" else name ++ " is a shell keyword\n")
    else if (p.functions.lookup name).isSome then
      print (if brief then name ++ "\n" else name ++ " is a shell function\n")
    else if special.contains name then
      print (if brief then name ++ "\n" else name ++ " is a special shell builtin\n")
    else if regular.contains name then
      print (if brief then name ++ "\n" else name ++ " is a shell builtin\n")
    else
      match ← programPath? name with
      | some path =>
        print (if brief then path ++ "\n" else name ++ " is " ++ path ++ "\n")
      | none =>
        if !brief then print (name ++ ": not found\n")
        setStatus 127

def umask (args : List String) : Act Unit := do
  match args with
  | [] => print ((← process).mask ++ "\n")
  | mask :: _ =>
    if mask.toList.all Utility.isOctal then
      modifyProcess fun p =>
        { p with mask := String.ofList (List.replicate (4 - mask.length) '0' ++ mask.toList) }
    else fail ("Illegal mode: " ++ mask)
  setStatus 0

/-- The status that is given, or that of the last command. -/
def givenStatus (args : List String) : Act Nat := do
  match args with
  | [] => return (← process).status
  | n :: _ => return (← natural n) % 256

def exit (args : List String) : Act Unit := do
  let n ← givenStatus args
  Act.exit n

def leave (args : List String) : Act Unit := do
  let n ← match args with
    | [] => pure (← process).status
    | n :: _ => natural n
  setStatus n
  throw .returning

def leaveLoops (flow : Nat → Flow) (args : List String) : Act Unit := do
  let n ← match args with
    | [] => pure 1
    | s :: _ =>
      match ← natural s with
      | 0 => fail ("Illegal number: " ++ s)
      | n => pure n
  setStatus 0
  let n := min n (← process).loops
  if 0 < n then throw (flow n)

/-- Runs one of these commands; none if it is not one of them. -/
def run? (name : String) (args : List String) : Option (Act Unit) :=
  match name with
  | ":" | "true" | "times" | "hash" | "jobs" | "ulimit" | "bg" | "fg" => some (setStatus 0)
  | "false" => some (setStatus 1)
  | "[" => some (test true args)
  | "alias" => some (setAliases args)
  | "break" => some (leaveLoops .breaking args)
  | "cd" | "chdir" => some (cd args)
  | "continue" => some (leaveLoops .continuing args)
  | "echo" => some (echo args)
  | "exit" => some (exit args)
  | "export" =>
    some (declare "export" Variable.exported (fun v => { v with exported := true }) args)
  | "getopts" => some (getopts args)
  | "kill" => some (kill args)
  | "local" => some (hide args)
  | "printf" => some (printf args)
  | "pwd" => some pwd
  | "read" => some (read args)
  | "readonly" => some (declare "readonly" Variable.fixed (fun v => { v with fixed := true }) args)
  | "return" => some (leave args)
  | "set" => some (set args)
  | "shift" => some (shift args)
  | "test" => some (test false args)
  | "trap" => some (trap args)
  | "type" => some (type false args)
  | "umask" => some (umask args)
  | "unalias" => some (dropAliases args)
  | "unset" => some (unset args)
  | _ => none

end Disasm.Host.Shell.Builtin
