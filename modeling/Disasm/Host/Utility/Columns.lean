import Disasm.Host.Utility.Lines

namespace Disasm.Host.Utility

inductive SetPart where
  | chars (cs : List Char)
  /-- A class, which is paired with one of the other case. -/
  | named (name : String)
  /-- A character, as often as it takes. -/
  | filler (c : Char)

def bytes256 : List Char :=
  (List.range 256).map Char.ofNat

def SetPart.members : SetPart → List Char
  | .chars cs => cs
  | .named name => bytes256.filter (isOfClass name)
  | .filler _ => []

/-- A character of a set, with its escapes undone, and whether it was escaped. -/
def setChar (cs : List Char) : Option (Char × Bool × List Char) :=
  match cs with
  | [] => none
  | '\\' :: rest =>
    match rest with
    | [] => some ('\\', true, [])
    | c :: more =>
      match controlEscapes.lookup c with
      | some d => some (d, true, more)
      | none =>
        if isOctal c then
          let ds := (rest.take 3).takeWhile isOctal
          some (charOf 8 ds, true, rest.drop ds.length)
        else some (c, true, more)
  | c :: rest => some (c, false, rest)

def setParts (done : List SetPart) : Nat → List Char → Except String (List SetPart)
  | 0, _ | _, [] => .ok done.reverse
  | fuel + 1, cs =>
    match cs with
    | '[' :: ':' :: rest =>
      let name := rest.takeWhile Char.isAlpha
      match rest.drop name.length with
      | ':' :: ']' :: behind =>
        let name := String.ofList name
        if (charClasses.lookup name).isSome then setParts (.named name :: done) fuel behind
        else .error ("invalid character class " ++ quote name)
      | _ => setParts (.chars ['['] :: done) fuel (':' :: rest)
    | '[' :: '=' :: c :: '=' :: ']' :: rest => setParts (.chars [c] :: done) fuel rest
    | '[' :: c :: '*' :: rest =>
      let ds := rest.takeWhile Char.isDigit
      match rest.drop ds.length with
      | ']' :: behind =>
        let n := (natural? (String.ofList ds)).getD 0
        if n = 0 then setParts (.filler c :: done) fuel behind
        else setParts (.chars (List.replicate n c) :: done) fuel behind
      | _ => setParts (.chars ['['] :: done) fuel (c :: '*' :: rest)
    | _ =>
      match setChar cs with
      | none => .ok done.reverse
      | some (c, _, '-' :: rest) =>
        match setChar rest with
        | none => setParts (.chars [c, '-'] :: done) fuel []
        | some (d, _, behind) =>
          if d < c then
            .error ("range-endpoints of '" ++ String.ofList [c, '-', d] ++
              "' are in reverse collating sequence order")
          else
            let range := (List.range (d.toNat - c.toNat + 1)).map fun n => Char.ofNat (c.toNat + n)
            setParts (.chars range :: done) fuel behind
      | some (c, _, rest) => setParts (.chars [c] :: done) fuel rest

/-- The characters of a set that is to be as long as another one. -/
def filled (length : Nat) (parts : List SetPart) : List Char :=
  let fixed := (parts.map fun p => p.members.length).foldl (· + ·) 0
  parts.flatMap fun
    | .filler c => List.replicate (length - fixed) c
    | p => p.members

/-- Leaves one of several equal characters of a set behind each other. -/
def squeeze (isIn : Char → Bool) (cs : List Char) : List Char :=
  (cs.foldl (fun (done, (last : Option Char)) c =>
    if last = some c && isIn c then (done, last) else (c :: done, some c)) ([], none)).1.reverse

def tr : Work Unit := do
  let g ← given [⟨'c', ["complement"], .nothing⟩, ⟨'C', [], .nothing⟩,
    ⟨'d', ["delete"], .nothing⟩, ⟨'s', ["squeeze-repeats"], .nothing⟩,
    ⟨'t', ["truncate-set1"], .nothing⟩] false
  let deleting := g.has 'd'
  let squeezing := g.has 's'
  let two := if deleting then squeezing else !squeezing
  let most := if deleting && !squeezing then 1 else 2
  match g.operands with
  | [] => misuse "missing operand"
  | [a] =>
    if two then
      warn ("missing operand after " ++ quote a)
      errLine ("Two strings must be given when " ++
        (if deleting then "both deleting and squeezing repeats." else "translating."))
      seeHelp
  | operands =>
    if most < operands.length then
      warn ("extra operand " ++ quote (operands.getD most ""))
      if operands.length = 2 then
        errLine "Only one string may be given when deleting without squeezing repeats."
      seeHelp
  let parts (s : String) : Work (List SetPart) :=
    match setParts [] s.length.succ s.toList with
    | .ok parts => pure parts
    | .error e => fail e
  let first ← parts (g.operands.getD 0 "")
  let second ← parts (g.operands.getD 1 "")
  let plain := first.flatMap SetPart.members
  let inverted := g.has 'c' || g.has 'C'
  let source := if inverted then bytes256.filter fun c => !plain.contains c else plain
  let target := filled source.length second
  let target := match target.getLast? with
    | some c =>
      if g.has 't' then target
      else target ++ List.replicate (source.length - target.length) c
    | none => []
  let translating := !deleting && 1 < g.operands.length
  if translating && target.isEmpty && !source.isEmpty && !g.has 't' then
    fail "when not truncating set1, string2 must be non-empty"
  let table : Array Char := (source.zip target).foldl
    (fun t x => t.setIfInBounds x.1.toNat x.2) bytes256.toArray
  let inFirst : Array Bool := source.foldl (fun t c => t.setIfInBounds c.toNat true)
    (Array.replicate 256 false)
  let isFirst (c : Char) : Bool := inFirst.getD c.toNat false
  let cs ← match ← takeInput with
    | .ok cs => pure cs
    | .error e => fail ("read error: " ++ e.text)
  let cs := if deleting then cs.filter fun c => !isFirst c
    else if translating then cs.map fun c => table.getD c.toNat c
    else cs
  let squeezed : Char → Bool := if translating || deleting then target.contains else isFirst
  out (if squeezing then squeeze squeezed cs else cs)

structure Span where
  first : Nat
  last : Option Nat

def Span.covers (s : Span) (n : Nat) : Bool :=
  s.first ≤ n && (s.last.all fun l => n ≤ l)

def readSpans (fields : Bool) (s : String) : Work (List Span) := do
  let unit := if fields then "fields are numbered from 1"
    else "byte/character positions are numbered from 1"
  let bad {α : Type} (part : String) : Work α :=
    misuse (if fields then "invalid field value " ++ quote part
      else "invalid byte/character position " ++ quote part)
  let parts := s.toList.splitOnP fun c => c = ',' || c = ' ' || c = '\t'
  (parts.map String.ofList).mapM fun part => do
    let front := part.toList.takeWhile (· != '-')
    let number (cs : List Char) : Work Nat := do
      match natural? (String.ofList cs) with
      | some 0 => misuse unit
      | some n => return n
      | none => bad part
    match part.toList.drop front.length with
    | [] =>
      if front.isEmpty then misuse unit
      let n ← number front
      return ⟨n, some n⟩
    | _ :: back =>
      if front.isEmpty && back.isEmpty then misuse "invalid range with no endpoint: -"
      let first ← if front.isEmpty then pure 1 else number front
      if back.isEmpty then return ⟨first, none⟩
      let last ← number back
      if last < first then misuse "invalid decreasing range"
      return ⟨first, some last⟩

/-- The members of a list whose positions are covered. -/
def select {α : Type} (spans : List Span) (inverted : Bool) (items : List α) : List α :=
  ((items.zip (List.range items.length)).filter fun x =>
    (spans.any fun s => s.covers (x.2 + 1)) != inverted).map Prod.fst

def cut : Work Unit := do
  let g ← given [⟨'b', ["bytes"], .argument⟩, ⟨'c', ["characters"], .argument⟩,
    ⟨'f', ["fields"], .argument⟩, ⟨'d', ["delimiter"], .argument⟩,
    ⟨'s', ["only-delimited"], .nothing⟩, ⟨'n', [], .nothing⟩,
    ⟨'\x01', ["complement"], .nothing⟩, ⟨'\x02', ["output-delimiter"], .argument⟩]
  let lists := g.options.filter fun x => ['b', 'c', 'f'].contains x.1
  match lists with
  | [] => misuse "you must specify a list of bytes, characters, or fields"
  | (kind, list) :: others =>
    if !others.isEmpty then misuse "only one list may be specified"
    let fields := kind = 'f'
    let spans ← readSpans fields list
    let delimiter ← match g.get? 'd' with
      | none => pure '\t'
      | some d =>
        if !fields then
          misuse "an input delimiter may be specified only when operating on fields"
        match d.toList with
        | [c] => pure c
        | [] => pure '\x00'
        | _ => misuse "the delimiter must be a single character"
    if g.has 's' && !fields then
      misuse "suppressing non-delimited lines makes sense\n\tonly when operating on fields"
    let inverted := g.has '\x01'
    foldFiles g.operands plainlyTold (fun _ cs => out ((linesOf cs).flatMap fun l =>
      if fields then
        if !l.contains delimiter then (if g.has 's' then [] else l ++ ['\n'])
        else
          let chosen := select spans inverted (l.splitOn delimiter)
          let glue := match g.get? '\x02' with
            | some s => s.toList
            | none => [delimiter]
          (chosen.intersperse glue).flatten ++ ['\n']
      else select spans inverted l ++ ['\n'])) ()

def columnBehind (column : Nat) (c : Char) : Nat :=
  if c = '\x08' then column - 1
  else if c = '\r' then 0
  else if c = '\t' then column + (8 - column % 8)
  else column + 1

/-- A line in pieces of a width, each behind a line break but the first. `kept` is the piece that
grows, in reverse. -/
def foldLine (width : Nat) (atBlanks : Bool) (kept : List Char) (column : Nat) :
    Nat → List Char → List (List Char)
  | 0, cs => [kept.reverse ++ cs]
  | _, [] => [kept.reverse]
  | fuel + 1, c :: rest =>
    let column := columnBehind column c
    if width < column && !kept.isEmpty then
      let word := kept.takeWhile fun c => c != ' ' && c != '\t'
      if atBlanks && word.length < kept.length then
        (kept.drop word.length).reverse ::
          foldLine width atBlanks [] 0 fuel (word.reverse ++ c :: rest)
      else kept.reverse :: foldLine width atBlanks [] 0 fuel (c :: rest)
    else foldLine width atBlanks (c :: kept) column fuel rest

def fold : Work Unit := do
  let g ← given [⟨'w', ["width"], .argument⟩, ⟨'s', ["spaces"], .nothing⟩,
    ⟨'b', ["bytes"], .nothing⟩]
  let width ← match g.get? 'w' with
    | none => pure 80
    | some w =>
      match natural? w with
      | some 0 | none => fail ("invalid number of columns: " ++ quote w)
      | some n => pure n
  foldFiles g.operands plainlyTold (fun _ cs => out ((fullLines cs).flatMap fun l =>
    let (body, ending) := if l.getLast? = some '\n' then (l.dropLast, ['\n']) else (l, [])
    ((foldLine width (g.has 's') [] 0 (4 * body.length + 4) body).intersperse ['\n']).flatten ++
      ending)) ()

/-- The first lines of several texts put together, then the second ones, and so on. -/
def pasteRows (glue : List Char) : Nat → List (List (List Char)) → List (List Char)
  | 0, _ => []
  | fuel + 1, files =>
    if files.all List.isEmpty then []
    else
      let row := files.map fun lines => lines.headD []
      (interleave glue row ++ ['\n']) :: pasteRows glue fuel (files.map (List.drop 1))
where
  /-- Texts with delimiters between them, which are taken in turn. -/
  interleave (glue : List Char) (row : List (List Char)) : List Char :=
    match row with
    | [] => []
    | first :: rest =>
      first ++ ((rest.zip (List.range rest.length)).flatMap fun x =>
        (if glue.isEmpty then [] else [glue.getD (x.2 % glue.length) '\t']) ++ x.1)

def paste : Work Unit := do
  let g ← given [⟨'d', ["delimiters"], .argument⟩, ⟨'s', ["serial"], .nothing⟩]
  let glue := ((controlEscapesText ((g.get? 'd').getD "\t")))
  let names := if g.operands.isEmpty then ["-"] else g.operands
  let dashes := (names.filter (· = "-")).length
  let input ← if dashes = 0 then pure []
    else (match ← takeInput with
      | .ok cs => pure (linesOf cs)
      | .error e => fail ("-: " ++ e.text))
  let (files, _) ← names.foldlM (fun (x : List (List (List Char)) × Nat) name => do
    if name = "-" then
      let own := if g.has 's' then input else
        ((input.zip (List.range input.length)).filter fun l => l.2 % dashes = x.2).map Prod.fst
      return (own :: x.1, x.2 + 1)
    else
      match ← contentOf name with
      | .ok cs => return (linesOf cs :: x.1, x.2)
      | .error e => fail (quoteName name ++ ": " ++ e.text)) ([], 0)
  let files := files.reverse
  if g.has 's' then
    files.forM fun lines => out (pasteRows.interleave glue lines ++ ['\n'])
  else
    let longest := files.foldl (fun n f => max n f.length) 0
    out (pasteRows glue (longest + 1) files).flatten
where
  /-- Delimiters with their escapes undone. -/
  controlEscapesText (s : String) : List Char :=
    (({ letters := controlEscapes } : Escapes).expanded s).1

end Disasm.Host.Utility
