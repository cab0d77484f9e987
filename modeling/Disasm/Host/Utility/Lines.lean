import Disasm.Host.Utility.Print

namespace Disasm.Host.Utility

/-- How most utilities tell that a file cannot be read. -/
def plainlyTold (name reason : String) : String :=
  quoteName name ++ ": " ++ reason

/-- Goes through the contents of files, or of the input if there are none. A file that cannot be
read is told and leaves a failure. -/
def foldFiles {α : Type} (operands : List String) (told : String → String → String)
    (f : α → List Char → Work α) (start : α) : Work α :=
  (if operands.isEmpty then ["-"] else operands).foldlM (fun a name => do
    match ← contentOrInput name with
    | .ok cs => f a cs
    | .error e =>
      warn (told name e.text)
      setStatus 1
      return a) start

/-- A character with its control bits written out. -/
def visibleForm (c : Char) : List Char :=
  let low (n : Nat) : List Char :=
    if n < 0x20 then ['^', Char.ofNat (n + 0x40)]
    else if n = 0x7F then ['^', '?']
    else [Char.ofNat n]
  if c.toNat < 0x80 then low c.toNat else 'M' :: '-' :: low (c.toNat - 0x80)

structure Decoration where
  numbered : Bool := false
  numberedFull : Bool := false
  squeezed : Bool := false
  ends : Bool := false
  tabs : Bool := false
  visible : Bool := false

structure Copying where
  done : List (List Char) := []
  line : Nat := 0
  atStart : Bool := true
  /-- How many empty lines came last. -/
  empties : Nat := 0

def numberField (n : Nat) : List Char :=
  (padLeft 6 (toString n) ++ "\t").toList

def Decoration.step (d : Decoration) (s : Copying) (c : Char) : Copying :=
  if c = '\n' then
    if s.atStart then
      if d.squeezed && 1 ≤ s.empties then s
      else
        let number := d.numbered && !d.numberedFull
        let line := if number then s.line + 1 else s.line
        let text := (if number then numberField line else []) ++
          (if d.ends then ['$', '\n'] else ['\n'])
        { s with done := text :: s.done, line := line, empties := s.empties + 1 }
    else
      { s with done := (if d.ends then ['$', '\n'] else ['\n']) :: s.done, atStart := true,
               empties := 0 }
  else
    let text :=
      if c = '\t' then (if d.tabs then ['^', 'I'] else [c])
      else if d.visible then visibleForm c
      else [c]
    if s.atStart && (d.numbered || d.numberedFull) then
      { s with done := (numberField (s.line + 1) ++ text) :: s.done, line := s.line + 1,
               atStart := false, empties := 0 }
    else { s with done := text :: s.done, atStart := false, empties := 0 }

def Decoration.isPlain (d : Decoration) : Bool :=
  !(d.numbered || d.numberedFull || d.squeezed || d.ends || d.tabs || d.visible)

def catOptions : List Opt :=
  [⟨'b', ["number-nonblank"], .nothing⟩, ⟨'n', ["number"], .nothing⟩,
    ⟨'s', ["squeeze-blank"], .nothing⟩, ⟨'v', ["show-nonprinting"], .nothing⟩,
    ⟨'E', ["show-ends"], .nothing⟩, ⟨'T', ["show-tabs"], .nothing⟩,
    ⟨'A', ["show-all"], .nothing⟩, ⟨'e', [], .nothing⟩, ⟨'t', [], .nothing⟩,
    ⟨'u', [], .nothing⟩]

def cat : Work Unit := do
  let g ← given catOptions
  let any (cs : List Char) : Bool := cs.any g.has
  let d : Decoration := {
    numbered := g.has 'n', numberedFull := g.has 'b', squeezed := g.has 's'
    ends := any ['E', 'A', 'e'], tabs := any ['T', 'A', 't'], visible := any ['v', 'A', 'e', 't'] }
  let closed := (← get).input.isNone && (g.operands.isEmpty || g.operands.contains "-")
  let names := if g.operands.isEmpty then ["-"] else g.operands
  let _ ← names.foldlM (fun (s : Copying) name => do
    match ← contentOrInput name with
    | .error e =>
      warn (quoteName name ++ ": " ++ e.text)
      setStatus 1
      return s
    | .ok cs =>
      if d.isPlain then
        out cs
        return s
      else
        let s := cs.foldl d.step s
        out s.done.reverse.flatten
        return { s with done := [] }) {}
  if closed then fail "closing standard input: Bad file descriptor"

def fullLines (cs : List Char) : List (List Char) :=
  match (cs.splitOn '\n').reverse with
  | [] => []
  | last :: before =>
    before.reverse.map (· ++ ['\n']) ++ (if last.isEmpty then [] else [last])

def firstLines (n : Nat) (cs : List Char) : List Char :=
  ((fullLines cs).take n).flatten

def blockSize : Nat := 8192

/-- What is left behind the blocks that hold the first characters of a text. -/
def behindBlocks (n : Nat) (cs : List Char) : List Char :=
  cs.drop ((n + blockSize - 1) / blockSize * blockSize)

/-- How many units are meant, from which end, and whether units are bytes. -/
structure Portion where
  count : Nat
  /-- Counted from the other end. -/
  other : Bool := false
  bytes : Bool := false

/-- The portion that an argument tells; `mark` is the sign for the other end. -/
def Portion.read (mark : Char) (bytes : Bool) (s : String) : Work Portion := do
  let (other, digits) := match s.toList with
    | c :: rest => if c = mark then (true, String.ofList rest)
      else if c = '-' || c = '+' then (false, String.ofList rest) else (false, s)
    | [] => (false, s)
  match amount? digits with
  | some n => return ⟨n, other, bytes⟩
  | none => fail ("invalid number of " ++ (if bytes then "bytes" else "lines") ++ ": " ++ quote s)

/-- Old options such as `-5` in front become options with a letter. -/
def modernized (signs : List Char) (args : List String) : List String :=
  match args with
  | first :: rest =>
    match first.toList with
    | s :: ds =>
      if signs.contains s && !ds.isEmpty && ds.all Char.isDigit then
        ("-n" ++ (if s = '+' then "+" else "") ++ String.ofList ds) :: rest
      else args
    | [] => args
  | [] => []

def header (first : Bool) (name : String) : List Char :=
  ((if first then "" else "\n") ++ "==> " ++ (if name = "-" then "standard input" else name) ++
    " <==\n").toList

def portionOptions : List Opt :=
  [⟨'n', ["lines"], .argument⟩, ⟨'c', ["bytes"], .argument⟩,
    ⟨'q', ["quiet", "silent"], .nothing⟩, ⟨'v', ["verbose"], .nothing⟩,
    ⟨'z', ["zero-terminated"], .nothing⟩, ⟨'f', ["follow"], .nothing⟩,
    ⟨'F', [], .nothing⟩]

def portions (signs : List Char) (mark : Char) (select : Portion → List Char → List Char) :
    Work Unit := do
  let g ← match options portionOptions true none {} (modernized signs (← read).args) with
    | .ok g => pure g
    | .error e => misuse e
  let p ← match g.last? ['n', 'c'] with
    | some 'c' => Portion.read mark true ((g.get? 'c').getD "")
    | some _ => Portion.read mark false ((g.get? 'n').getD "")
    | none => pure ⟨10, false, false⟩
  let names := if g.operands.isEmpty then ["-"] else g.operands
  let titled := match g.last? ['q', 'v'] with
    | some 'v' => true
    | some _ => false
    | none => 1 < names.length
  let seekable := (← read).seekable
  let _ ← names.foldlM (fun (first : Bool) name => do
    match ← contentOrInput name with
    | .error .directory =>
      if titled then out (header first name)
      warn ("error reading " ++ shellQuoted name ++ ": Is a directory")
      setStatus 1
      return false
    | .error e =>
      if name = "-" then warn ("standard input: " ++ e.text)
      else warn ("cannot open " ++ shellQuoted name ++ " for reading: " ++ e.text)
      setStatus 1
      return first
    | .ok cs =>
      if titled then out (header first name)
      let chosen := select p cs
      out chosen
      if name = "-" && mark = '-' && !p.other then
        let complete := p.bytes || seekable
        putBack (if complete then cs.drop chosen.length else behindBlocks chosen.length cs)
      return false) true
  return

def head : Work Unit :=
  portions ['-'] '-' fun p cs =>
    if p.bytes then cs.take (if p.other then cs.length - p.count else p.count)
    else if p.other then
      let lines := fullLines cs
      (lines.take (lines.length - p.count)).flatten
    else firstLines p.count cs

def tail : Work Unit :=
  portions ['-', '+'] '+' fun p cs =>
    if p.bytes then cs.drop (if p.other then p.count - 1 else cs.length - p.count)
    else
      let lines := fullLines cs
      (lines.drop (if p.other then p.count - 1 else lines.length - p.count)).flatten

structure Count where
  lines : Nat := 0
  words : Nat := 0
  bytes : Nat := 0
  longest : Nat := 0

def wordCount (cs : List Char) : Nat :=
  (cs.foldl (fun (n, inside) c =>
    if isSpaceByte c then (n, false) else (if inside then n else n + 1, true))
    ((0, false) : Nat × Bool)).1

def lineWidth (cs : List Char) : Nat :=
  cs.foldl (fun n c => if c = '\t' then n + (8 - n % 8) else if isPrintable c then n + 1 else n) 0

def Count.of (cs : List Char) : Count where
  lines := cs.count '\n'
  words := wordCount cs
  bytes := cs.length
  longest := (linesOf cs).foldl (fun n l => max n (lineWidth l)) 0

def Count.add (a b : Count) : Count :=
  ⟨a.lines + b.lines, a.words + b.words, a.bytes + b.bytes, max a.longest b.longest⟩

def wc : Work Unit := do
  let g ← given [⟨'c', ["bytes"], .nothing⟩, ⟨'m', ["chars"], .nothing⟩,
    ⟨'l', ["lines"], .nothing⟩, ⟨'w', ["words"], .nothing⟩,
    ⟨'L', ["max-line-length"], .nothing⟩]
  let all := g.options.isEmpty
  let columns (c : Count) : List Nat :=
    (if all || g.has 'l' then [c.lines] else []) ++ (if all || g.has 'w' then [c.words] else []) ++
      (if g.has 'm' then [c.bytes] else []) ++ (if all || g.has 'c' then [c.bytes] else []) ++
      (if g.has 'L' then [c.longest] else [])
  let names := if g.operands.isEmpty then ["-"] else g.operands
  let tree := (← get).tree
  let directory := (← read).machine.directory
  let sizes := names.map fun name =>
    if name = "-" then none
    else match tree.find directory name with
      | .ok (.file content _) => some content.length
      | .ok (.utility _) => some 0
      | .ok _ => none
      | .error _ => some 0
  let seekable := (← read).seekable
  let inputSize := ((← get).input.map List.length).getD 0
  let sizes := sizes.zip names |>.map fun (size, name) =>
    if name = "-" && seekable then some inputSize else size
  let firstMissing := match names with
    | name :: _ => name != "-" && (tree.find directory name).toOption.isNone
    | [] => false
  let width :=
    if names.length = 1 && (columns {}).length = 1 || firstMissing then 1
    else
      let total := (sizes.map fun s => s.getD 0).foldl (· + ·) 0
      max (toString total).length (if sizes.any Option.isNone then 7 else 1)
  let row (c : Count) (name : Option String) : List Char :=
    (String.intercalate " " ((columns c).map fun n => padLeft width (toString n)) ++
      (match name with
        | some name => " " ++ name
        | none => "") ++ "\n").toList
  let total ← names.foldlM (fun (total : Count) name => do
    let tell (c : Count) : Work Unit :=
      out (row c (if g.operands.isEmpty then none else some name))
    match ← contentOrInput name with
    | .ok cs =>
      let c := Count.of cs
      tell c
      return total.add c
    | .error e =>
      warn ((if name = "-" then "'standard input'" else quoteName name) ++ ": " ++ e.text)
      setStatus 1
      match e with
      | .directory => tell {}
      | _ => pure ()
      return total) {}
  if 1 < names.length then out (row total (some "total"))

def tac : Work Unit := do
  let g ← given [⟨'b', ["before"], .nothing⟩, ⟨'r', ["regex"], .nothing⟩,
    ⟨'s', ["separator"], .argument⟩]
  foldFiles g.operands (fun name reason =>
    if reason = "Is a directory" then shellQuoted name ++ ": read error: Is a directory"
    else "failed to open " ++ shellQuoted name ++ " for reading: " ++ reason)
    (fun _ cs => out (fullLines cs).reverse.flatten) ()

def rev : Work Unit := do
  let g ← given []
  foldFiles g.operands (fun name reason =>
    if reason = "Is a directory" then name ++ ": Is a directory"
    else "cannot open " ++ name ++ ": " ++ reason)
    (fun _ cs => out ((fullLines cs).flatMap fun l =>
      if l.getLast? = some '\n' then l.dropLast.reverse ++ ['\n'] else l.reverse)) ()

def nl : Work Unit := do
  let g ← given [⟨'b', ["body-numbering"], .argument⟩, ⟨'w', ["number-width"], .argument⟩,
    ⟨'s', ["number-separator"], .argument⟩, ⟨'n', ["number-format"], .argument⟩,
    ⟨'v', ["starting-line-number"], .argument⟩, ⟨'i', ["line-increment"], .argument⟩,
    ⟨'h', ["header-numbering"], .argument⟩, ⟨'f', ["footer-numbering"], .argument⟩,
    ⟨'l', ["join-blank-lines"], .argument⟩, ⟨'p', ["no-renumber"], .nothing⟩,
    ⟨'d', ["section-delimiter"], .argument⟩]
  let number (c : Char) (usual : Nat) : Nat := ((g.get? c).bind natural?).getD usual
  let width := number 'w' 6
  let separator := ((g.get? 's').getD "\t").toList
  let style := (g.get? 'b').getD "t"
  let field (n : Nat) : List Char :=
    let ds := decimalDigits n
    match g.get? 'n' with
    | some "ln" => ds ++ List.replicate (width - ds.length) ' '
    | some "rz" => List.replicate (width - ds.length) '0' ++ ds
    | _ => List.replicate (width - ds.length) ' ' ++ ds
  let _ ← foldFiles g.operands plainlyTold (fun (next : Nat) cs => do
    let (text, next) := (linesOf cs).foldl (fun (x : List (List Char) × Nat) l =>
      if style = "a" || (style = "t" && !l.isEmpty) then
        ((field x.2 ++ separator ++ l ++ ['\n']) :: x.1, x.2 + number 'i' 1)
      else ((List.replicate (width + separator.length) ' ' ++ l ++ ['\n']) :: x.1, x.2))
      ([], next)
    out text.reverse.flatten
    return next) (number 'v' 1)

def tee : Work Unit := do
  let g ← given [⟨'a', ["append"], .nothing⟩, ⟨'i', ["ignore-interrupts"], .nothing⟩,
    ⟨'p', [], .nothing⟩]
  let cs ← match ← takeInput with
    | .ok cs => pure cs
    | .error e =>
      warn ("read error: " ++ e.text)
      setStatus 1
      pure []
  g.operands.forM fun name => do
    let before ← if g.has 'a' then
        (match ← contentOf name with
        | .ok cs => pure cs
        | .error _ => pure [])
      else pure []
    match ← writeFile name (before ++ cs) with
    | .ok () => pure ()
    | .error reason =>
      warn (quoteName name ++ ": " ++ reason)
      setStatus 1
  out cs

end Disasm.Host.Utility
