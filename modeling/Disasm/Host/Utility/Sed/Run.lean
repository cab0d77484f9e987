import Disasm.Host.Utility.Lines
import Disasm.Host.Utility.Sed.Script

namespace Disasm.Host.Utility.Sed

/-- What comes out behind the line that is worked on. -/
inductive Queued where
  | text (cs : List Char)
  | file (path : String)

structure State where
  /-- The number of the next command. -/
  next : Nat := 0
  space : List Char := []
  kept : List Char := []
  rest : List (List Char)
  line : Nat := 0
  /-- Whether something was replaced since the line was read, or since this was asked. -/
  replaced : Bool := false
  /-- The ranges that go on, by the number of their command, with the line at which they end if it
  is known. -/
  active : List (Nat × Option Nat) := []
  queue : List Queued := []
  output : List (List Char) := []
  /-- What was written to files, the last first. -/
  files : List (String × List Char) := []
  last : Option Regex := none
  /-- Whether the last line that came out lacks its end. -/
  owing : Bool := false
  /-- The status, once all is done. -/
  ended : Option Nat := none
  error : Option String := none

structure Context where
  commands : Array Command
  quiet : Bool
  /-- Whether the last line has no end. -/
  unended : Bool
  /-- The content of a file, if it can be read. -/
  content : String → Option (List Char)
  name : String

namespace State

def write (s : State) (cs : List Char) : State :=
  { s with output := cs :: (if s.owing then ['\n'] :: s.output else s.output), owing := false }

/-- Writes a line, which lacks its end if it comes from the last line and that one does. -/
def writeLine (c : Context) (s : State) (cs : List Char) : State :=
  if c.unended && s.rest.isEmpty then { s.write cs with owing := true }
  else s.write (cs ++ ['\n'])

def writeFile (s : State) (path : String) (cs : List Char) : State :=
  if path = "/dev/stdout" then s.write cs else { s with files := (path, cs) :: s.files }

def flush (c : Context) (s : State) : State :=
  let s := s.queue.foldl (fun s q =>
    match q with
    | .text cs => s.write cs
    | .file path =>
      match c.content path with
      | some cs =>
        if cs.isEmpty then s
        else if cs.getLast? = some '\n' then s.write cs
        else { s.write cs with owing := true }
      | none => s) s
  { s with queue := [] }

def endCycle (c : Context) (s : State) : State :=
  (if c.quiet then s else s.writeLine c s.space).flush c

/-- Takes the next line; at the end of the input all is done. -/
def startCycle (s : State) : State :=
  match s.rest with
  | [] => { s with ended := some 0 }
  | l :: rest =>
    { s with space := l, rest := rest, line := s.line + 1, replaced := false, next := 0 }

end State

def Sought.resolve (x : Sought) (s : State) : Option Regex × State :=
  match x.regex with
  | some e => (some e, { s with last := some e })
  | none => (s.last, s)

def noRegex (s : State) : State :=
  { s with ended := some 1, error := some "no previous regular expression" }

def Address.matches (a : Address) (s : State) : Bool × State :=
  match a with
  | .line n => (s.line = n, s)
  | .last => (s.rest.isEmpty, s)
  | .stride first step =>
    (if step = 0 then s.line = first else first ≤ s.line && (s.line - first) % step = 0, s)
  | .sought x =>
    match x.resolve s with
    | (some e, s) => (Regex.isIn e s.space x.ignoreCase, s)
    | (none, s) => (false, noRegex s)

def Selector.selects (x : Selector) (n : Nat) (s : State) : Bool × State :=
  let (selected, s) := match x.first, x.last with
    | none, _ => (true, s)
    | some first, none => first.matches s
    | some first, some last =>
      let stop (s : State) : State := { s with active := s.active.filter fun a => a.1 != n }
      let start (s : State) (finish : Option Nat) : State :=
        { s with active := (n, finish) :: s.active }
      match s.active.lookup n with
      | some (some finish) =>
        if finish ≤ s.line then (s.line ≤ finish, stop s) else (true, s)
      | some none =>
        match last with
        | .address a =>
          let (ends, s) := a.matches s
          (true, if ends then stop s else s)
        | _ => (true, s)
      | none =>
        let (starts, s) := first.matches s
        if !starts then (false, s)
        else
          let upto (finish : Nat) : Bool × State :=
            (true, if s.line < finish then start s (some finish) else s)
          match last with
          | .more k => upto (s.line + k)
          | .multiple k => upto (if k = 0 then s.line else (s.line + k - 1) / k * k)
          | .address (.line k) => upto k
          | .address _ => (true, start s none)
  (selected != x.inverted, s)

/-- Changes the case of what is put in, and tells which change goes on. -/
def applyCase (kind : Case) (next : Option Case) (cs : List Char) : List Char × Option Case :=
  let whole := match kind with
    | .upper => cs.map Char.toUpper
    | .lower => cs.map Char.toLower
    | _ => cs
  match next, whole with
  | some .upperNext, c :: rest => (c.toUpper :: rest, none)
  | some .lowerNext, c :: rest => (c.toLower :: rest, none)
  | next, whole => (whole, next)

def replacement (text : List Char) (f : Regex.Found) (ps : List Piece) : List Char :=
  let part (first last : Nat) : List Char := (text.drop first).take (last - first)
  let (done, _, _) := ps.foldl
    (fun (x : List (List Char) × Case × Option Case) p =>
      let (done, kind, next) := x
      let put (cs : List Char) : List (List Char) × Case × Option Case :=
        let (cs, next) := applyCase kind next cs
        (cs :: done, kind, next)
      match p with
      | .text cs => put cs
      | .group 0 => put (part f.first f.last)
      | .group n =>
        match f.groups.lookup n with
        | some (first, last) => put (part first last)
        | none => put []
      | .case .upperNext => (done, kind, some .upperNext)
      | .case .lowerNext => (done, kind, some .lowerNext)
      | .case c => (done, c, none)) ([], .plain, none)
  done.reverse.flatten

/-- Replaces matches from the one of a number on. `text` is searched from `start` on; what is in
front has been dealt with. -/
def replaceFrom (x : Substitution) (e : Regex) (subject : Regex.Subject) (text : List Char)
    (done : List (List Char)) (count : Nat) (previous : Option Nat) :
    Nat → Nat → List (List Char) × Bool
  | 0, start => (text.drop start :: done, false)
  | fuel + 1, start =>
    if text.length < start then (done, false)
    else
      match Regex.search subject e start true with
      | none => (text.drop start :: done, false)
      | some f =>
        let before := (text.drop start).take (f.first - start)
        let char := (text.drop f.first).take 1
        if f.first = f.last && previous = some f.first then
          replaceFrom x e subject text (char :: before :: done) count none fuel (f.first + 1)
        else if count + 1 < x.number then
          if f.first = f.last then
            replaceFrom x e subject text (char :: before :: done) (count + 1) none fuel
              (f.first + 1)
          else
            let whole := (text.drop f.first).take (f.last - f.first)
            replaceFrom x e subject text (whole :: before :: done) (count + 1) (some f.last) fuel
              f.last
        else
          let new := replacement text f x.pieces
          if !x.all then (text.drop f.last :: new :: before :: done, true)
          else if f.first = f.last then
            let (done, _) := replaceFrom x e subject text (char :: new :: before :: done)
              (count + 1) none fuel (f.first + 1)
            (done, true)
          else
            let (done, _) := replaceFrom x e subject text (new :: before :: done) (count + 1)
              (some f.last) fuel f.last
            (done, true)

/-- A line with everything in it visible, in pieces of a width. -/
def listed (cs : List Char) : List Char :=
  let shown := cs.map fun c =>
    if c = '\\' then ['\\', '\\']
    else if isPrintable c then [c]
    else escapedControl c
  let (done, _) := shown.foldl (fun (x : List (List Char) × Nat) piece =>
    if 69 < x.2 + piece.length then (piece :: ['\\', '\n'] :: x.1, piece.length)
    else (piece :: x.1, x.2 + piece.length)) ([], 0)
  done.reverse.flatten ++ ['$', '\n']

/-- Does what one command says for a line that it is for. -/
def perform (c : Context) (n : Nat) (x : Selector) (a : Action) (s : State) : State :=
  let s := { s with next := n + 1 }
  match a with
  | .block _ | .nothing => s
  | .delete => (s.flush c).startCycle
  | .deleteFirst =>
    if s.space.contains '\n' then
      { s.flush c with space := (s.space.dropWhile (· != '\n')).drop 1, next := 0 }
    else (s.flush c).startCycle
  | .print => s.writeLine c s.space
  | .printFirst => s.write (s.space.takeWhile (· != '\n') ++ ['\n'])
  | .next =>
    if s.rest.isEmpty then { s.endCycle c with ended := some 0 }
    else
      let s := s.endCycle c
      { s with space := s.rest.headD [], rest := s.rest.drop 1, line := s.line + 1 }
  | .appendNext =>
    if s.rest.isEmpty then { s.endCycle c with ended := some 0 }
    else
      let s := s.flush c
      { s with space := s.space ++ '\n' :: s.rest.headD [], rest := s.rest.drop 1
               line := s.line + 1 }
  | .hold false => { s with kept := s.space }
  | .hold true => { s with kept := s.kept ++ '\n' :: s.space }
  | .get false => { s with space := s.kept }
  | .get true => { s with space := s.space ++ '\n' :: s.kept }
  | .exchange => { s with space := s.kept, kept := s.space }
  | .substitute sub =>
    match sub.sought.resolve s with
    | (none, s) => noRegex s
    | (some e, s) =>
      let subject : Regex.Subject :=
        { text := s.space.toArray, ignoreCase := sub.sought.ignoreCase }
      let (done, changed) :=
        replaceFrom sub e subject s.space [] 0 none (2 * s.space.length + 2) 0
      if !changed then s
      else
        let s := { s with space := done.reverse.flatten, replaced := true }
        let s := if sub.printed then s.writeLine c s.space else s
        match sub.file with
        | some path => s.writeFile path (s.space ++ ['\n'])
        | none => s
  | .translate table =>
    { s with space := s.space.map fun c => (table.lookup c).getD c }
  | .insert cs => s.write cs
  | .append cs => { s with queue := s.queue ++ [.text cs] }
  | .change cs =>
    let s := if x.last.isNone || x.inverted || (s.active.lookup n).isNone then s.write cs else s
    (s.flush c).startCycle
  | .quit silent status =>
    { (if silent then s else s.endCycle c) with ended := some status }
  | .number => s.write (toString s.line ++ "\n").toList
  | .list => s.write (listed s.space)
  | .jump behind condition =>
    match condition with
    | none => { s with next := behind }
    | some wanted =>
      let s := { s with replaced := false, next := if s.replaced = wanted then behind else n + 1 }
      s
  | .readFile path => { s with queue := s.queue ++ [.file path] }
  | .writeFile path first =>
    s.writeFile path ((if first then s.space.takeWhile (· != '\n') else s.space) ++ ['\n'])
  | .fileName => s.write (c.name ++ "\n").toList
  | .zap => { s with space := [] }

/-- One step: a command, or the end of the work on a line. -/
def step (c : Context) (s : State) : State :=
  match c.commands[s.next]? with
  | none => (s.endCycle c).startCycle
  | some x =>
    let (selected, s) := x.selector.selects s.next s
    if s.ended.isSome then s
    else if selected then perform c s.next x.selector x.action s
    else
      match x.action with
      | .block behind => { s with next := behind }
      | _ => { s with next := s.next + 1 }

def steps (c : Context) : Nat → State → State
  | 0, s => s
  | fuel + 1, s => if s.ended.isSome then s else steps c fuel (step c s)

def stepLimit : Nat := 5000000

def run (c : Context) (lines : List (List Char)) : State :=
  let start : State := { rest := lines }
  let fromStart := (List.range c.commands.size).filter fun n =>
    match (c.commands[n]?).map Command.selector with
    | some { first := some (.line 0), .. } => true
    | _ => false
  steps c stepLimit ({ start with active := fromStart.map fun n => (n, none) }).startCycle

end Sed

open Sed in
def sed : Work Unit := do
  let g ← match options [⟨'n', ["quiet", "silent"], .nothing⟩, ⟨'e', ["expression"], .argument⟩,
      ⟨'f', ["file"], .argument⟩, ⟨'E', ["regexp-extended"], .nothing⟩, ⟨'r', [], .nothing⟩,
      ⟨'i', ["in-place"], .attached⟩, ⟨'s', ["separate"], .nothing⟩,
      ⟨'u', ["unbuffered"], .nothing⟩, ⟨'z', ["null-data"], .nothing⟩,
      ⟨'\x01', ["posix"], .nothing⟩, ⟨'\x02', ["debug"], .nothing⟩,
      ⟨'l', ["line-length"], .argument⟩] true none {} (← read).args with
    | .ok g => pure g
    | .error e =>
      warn e
      finish 1
  let given := g.options.filter fun x => x.1 = 'e' || x.1 = 'f'
  let (parts, operands) ← match given, g.operands with
    | [], [] => finish 1
    | [], script :: rest => pure ([script.toList], rest)
    | given, operands => do
      let parts ← given.mapM fun (c, s) => do
        if c = 'e' then return s.toList
        match ← contentOrInput s with
        | .ok cs => return if cs.getLast? = some '\n' then cs.dropLast else cs
        | .error e => fail ("couldn't open file " ++ s ++ ": " ++ e.text)
      pure (parts, operands)
  let script := (parts.intersperse ['\n']).flatten
  let silent := g.has 'n' || "#n\n".toList.isPrefixOf (script ++ ['\n'])
  let commands ← match Sed.read (g.has 'E' || g.has 'r') script with
    | .ok cs => pure cs.toArray
    | .error e =>
      if e.message.startsWith "can't find" then fail e.message 4
      let (number, offset) := parts.foldl (fun (x : Nat × Nat × Bool) p =>
        let (n, offset, found) := x
        if found || e.position ≤ offset + p.length then (n, offset, true)
        else (n + 1, offset + p.length + 1, false)) (1, 0, false) |> fun x => (x.1, x.2.1)
      fail ("-e expression #" ++ toString number ++ ", char " ++ toString (e.position - offset) ++
        ": " ++ e.message)
  let names := if operands.isEmpty then ["-"] else operands
  let tree := (← get).tree
  let directory := (← read).machine.directory
  let content (path : String) : Option (List Char) :=
    match tree.find directory path with
    | .ok (.file cs _) => some cs
    | _ => none
  let inPlace := g.has 'i'
  let contents ← names.filterMapM fun name => do
    match ← (if inPlace && name = "-" then contentOf name else contentOrInput name) with
    | .ok cs => return some (name, cs)
    | .error .directory =>
      if inPlace then warn ("couldn't edit " ++ name ++ ": not a regular file")
      else warn ("read error on " ++ name ++ ": Is a directory")
      setStatus (if inPlace then 4 else 2)
      return none
    | .error .closed =>
      warn "couldn't flush stdin: Bad file descriptor"
      setStatus 4
      return none
    | .error e =>
      warn ("can't read " ++ name ++ ": " ++ e.text)
      setStatus 2
      return none
  let written := commands.toList.filterMap fun x =>
    match x.action with
    | .writeFile path _ => some path
    | .substitute { file := some path, .. } => some path
    | _ => none
  (written.filter (· != "/dev/stdout")).forM fun path => do
    let _ ← writeFile path []
  let runOn (cs : List Char) (name : String) : Work (List Char) := do
    let c : Context := {
      commands := commands, quiet := silent, unended := cs.getLast?.any (· != '\n')
      content := content, name := name }
    let s := Sed.run c (linesOf cs)
    let paths := (s.files.map Prod.fst).eraseDups
    paths.forM fun path => do
      let text := ((s.files.filter fun f => f.1 = path).map Prod.snd).reverse.flatten
      let _ ← writeFile path text
    match s.error with
    | some e => warn ("-e expression #1, char 0: " ++ e)
    | none => pure ()
    match s.ended with
    | some 0 | none => pure ()
    | some n => setStatus n
    return s.output.reverse.flatten
  if inPlace then
    contents.forM fun (name, cs) => do
      let text ← runOn cs name
      match g.get? 'i' with
      | some "" | none => pure ()
      | some suffix =>
        let _ ← writeFile (name ++ suffix) cs
      let _ ← writeFile name text
  else if g.has 's' then
    contents.forM fun (name, cs) => do out (← runOn cs name)
  else
    let all := contents.foldl (fun (all : List Char) x =>
      (if all.isEmpty || all.getLast? = some '\n' then all else all ++ ['\n']) ++ x.2) []
    out (← runOn all (names.headD "-"))

end Disasm.Host.Utility
