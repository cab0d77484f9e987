import Disasm.Host.Regex
import Disasm.Host.Utility.Lines

namespace Disasm.Host.Utility

structure GrepStyle where
  patterns : List Regex
  ignoreCase : Bool
  inverted : Bool
  words : Bool
  wholeLines : Bool

/-- The first match that does not start or end inside a word. -/
def wordMatch? (s : Regex.Subject) (e : Regex) : Nat → Nat → Option Regex.Found
  | 0, _ => none
  | fuel + 1, p =>
    let good := (Regex.ends s e [p]).filter fun q => !s.wordBehind q
    match if s.wordBefore p then none else good.getLast? with
    | some q => some ⟨p, q, []⟩
    | none => wordMatch? s e fuel (p + 1)

/-- The first match in a line from a position on. -/
def GrepStyle.find? (g : GrepStyle) (line : Array Char) (start : Nat) : Option Regex.Found :=
  let s : Regex.Subject := { text := line, ignoreCase := g.ignoreCase }
  let found := g.patterns.filterMap fun e =>
    if g.wholeLines then
      if start = 0 && (Regex.longest? s (.seq e .finish) 0).isSome then some ⟨0, line.size, []⟩
      else none
    else if g.words && !e.refersBack then wordMatch? s e (line.size + 1 - start) start
    else Regex.search s e start
  found.foldl (fun best f =>
    match best with
    | none => some f
    | some b =>
      if f.first < b.first || (f.first = b.first && b.last < f.last) then some f else some b) none

def GrepStyle.selects (g : GrepStyle) (line : List Char) : Bool :=
  (g.find? line.toArray 0).isSome != g.inverted

/-- The parts of a line that match, as far as they are not empty. -/
def GrepStyle.parts (g : GrepStyle) (line : Array Char) : Nat → Nat → List (List Char)
  | 0, _ => []
  | fuel + 1, start =>
    if line.size < start then []
    else match g.find? line start with
      | none => []
      | some f =>
        if f.last = f.first then g.parts line fuel (f.last + 1)
        else (line.toList.drop f.first).take (f.last - f.first) :: g.parts line fuel f.last

/-- What is behind a set whose opening bracket was read. -/
def behindSet (cs : List Char) : List Char :=
  let cs := match cs with
    | '^' :: rest => rest
    | cs => cs
  let cs := match cs with
    | ']' :: rest => rest
    | cs => cs
  skip cs.length cs
where
  skip : Nat → List Char → List Char
    | 0, _ | _, [] => []
    | _, ']' :: rest => rest
    | n + 1, '[' :: ':' :: rest => skip n ((rest.dropWhile (· != ':')).drop 2)
    | n + 1, _ :: rest => skip n rest

/-- The repetitions in a pattern that stand behind nothing. -/
def loneRepetitions : Nat → Bool → List Char → List String
  | 0, _, _ => []
  | _, _, [] => []
  | fuel + 1, first, '\\' :: c :: rest =>
    loneRepetitions fuel (first && ['<', '>', 'b', 'B'].contains c) rest
  | fuel + 1, _, '[' :: rest => loneRepetitions fuel false (behindSet rest)
  | fuel + 1, first, c :: rest =>
    if c = '(' || c = '|' || c = '^' then loneRepetitions fuel true rest
    else match Regex.repetition? { extended := true } (c :: rest) with
      | some (_, _, behind) =>
        let name := if c = '\x7b' then "\x7b...\x7d" else String.ofList [c]
        (if first then [name] else []) ++ loneRepetitions fuel false behind
      | none => loneRepetitions fuel false rest

/-- Whether an expression has a set that looks like the name of a class. -/
def namesClass : Regex → Bool
  | .oneOf _ items =>
    match items, items.getLast? with
    | .range ':' ':' :: _ :: _ :: _, some (.range ':' ':') => true
    | _, _ => false
  | .seq a b | .alt a b => namesClass a || namesClass b
  | .group _ e | .many e _ _ => namesClass e
  | _ => false

/-- The pattern that a text is, or what is wrong with it. -/
def grepPattern (kind : Char) (cs : List Char) : Work Regex := do
  if kind = 'F' then return cs.foldl (fun e c => .seq e (.char c)) Regex.empty
  match Regex.ofText { extended := kind != 'G', setEscapes := kind = 'P' } cs with
  | .ok e =>
    if namesClass e then fail "character class syntax is [[:space:]], not [:space:]" 2
    if kind = 'E' then
      (loneRepetitions (cs.length + 1) true cs).forM fun name =>
        warn ("warning: " ++ name ++ " at start of expression")
    return e
  | .error message => fail message 2

/-- The options of `grep`. -/
def grepOptions : List Opt :=
  [⟨'E', ["extended-regexp"], .nothing⟩, ⟨'F', ["fixed-strings"], .nothing⟩,
    ⟨'G', ["basic-regexp"], .nothing⟩, ⟨'P', ["perl-regexp"], .nothing⟩,
    ⟨'e', ["regexp"], .argument⟩, ⟨'f', ["file"], .argument⟩,
    ⟨'i', ["ignore-case"], .nothing⟩, ⟨'y', [], .nothing⟩, ⟨'v', ["invert-match"], .nothing⟩,
    ⟨'w', ["word-regexp"], .nothing⟩, ⟨'x', ["line-regexp"], .nothing⟩,
    ⟨'c', ["count"], .nothing⟩, ⟨'l', ["files-with-matches"], .nothing⟩,
    ⟨'L', ["files-without-match"], .nothing⟩, ⟨'m', ["max-count"], .argument⟩,
    ⟨'o', ["only-matching"], .nothing⟩, ⟨'q', ["quiet", "silent"], .nothing⟩,
    ⟨'s', ["no-messages"], .nothing⟩, ⟨'n', ["line-number"], .nothing⟩,
    ⟨'h', ["no-filename"], .nothing⟩, ⟨'H', ["with-filename"], .nothing⟩,
    ⟨'b', ["byte-offset"], .nothing⟩, ⟨'A', ["after-context"], .argument⟩,
    ⟨'B', ["before-context"], .argument⟩, ⟨'C', ["context"], .argument⟩,
    ⟨'a', ["text"], .nothing⟩, ⟨'r', ["recursive"], .nothing⟩, ⟨'R', [], .nothing⟩,
    ⟨'I', [], .nothing⟩, ⟨'Z', ["null"], .nothing⟩, ⟨'z', ["null-data"], .nothing⟩,
    ⟨'T', ["initial-tab"], .nothing⟩, ⟨'U', ["binary"], .nothing⟩,
    ⟨'\x01', ["color", "colour"], .attached⟩, ⟨'\x02', ["line-buffered"], .nothing⟩]

/-- Points to the way `grep` is used and ends. -/
def grepUsage {α : Type} : Work α := do
  let name ← called
  errLine ("Usage: " ++ name ++ " [OPTION]... PATTERNS [FILE]...")
  seeHelp 2

/-- A line with its number, and whether it was selected. -/
structure Marked where
  number : Nat
  offset : Nat
  text : List Char
  selected : Bool

/-- The lines of a text with their numbers and offsets. -/
def markLines (select : List Char → Bool) (most : Option Nat) :
    Nat → Nat → Nat → List (List Char) → List Marked
  | _, _, _, [] => []
  | number, offset, found, l :: rest =>
    if most.any (· ≤ found) then
      ⟨number, offset, l, false⟩ ::
        markLines (fun _ => false) most (number + 1) (offset + l.length + 1) found rest
    else
      let selected := select l
      ⟨number, offset, l, selected⟩ ::
        markLines select most (number + 1) (offset + l.length + 1)
          (if selected then found + 1 else found) rest

/-- The lines that are shown with those around selected ones, and whether lines are missing in
front of each. -/
def inContext (before after : Nat) (lines : List Marked) : List (Marked × Bool) :=
  let chosen := (lines.filter Marked.selected).map Marked.number
  let near (n : Nat) : Bool := chosen.any fun k => k ≤ n + before && n ≤ k + after
  let shown := lines.filter fun l => near l.number
  (shown.foldl (fun (done, (last : Option Nat)) l =>
    ((l, last.any fun k => k + 1 != l.number) :: done, some l.number)) ([], none)).1.reverse

def grep : Work Unit := do
  let g ← match options grepOptions true none {} (← read).args with
    | .ok g => pure g
    | .error e =>
      warn e
      grepUsage
  let amount (c : Char) : Work (Option Nat) := do
    match g.get? c with
    | none => return none
    | some s =>
      match natural? s with
      | some n => return some n
      | none =>
        if c = 'm' then fail "invalid max count" 2
        else fail (s ++ ": invalid context length argument") 2
  let most ← amount 'm'
  let around ← amount 'C'
  let before := ((← amount 'B').orElse fun _ => around).getD 0
  let after := ((← amount 'A').orElse fun _ => around).getD 0
  let given := (g.options.filter fun x => x.1 = 'e').map Prod.snd
  let fromFiles ← (g.options.filter fun x => x.1 = 'f').mapM fun x => do
    match ← contentOrInput x.2 with
    | .ok cs => return (linesOf cs).map String.ofList
    | .error e => fail (x.2 ++ ": " ++ e.text) 2
  let named := !given.isEmpty || g.has 'f'
  let (texts, operands) ←
    if named then pure (given ++ fromFiles.flatten, g.operands)
    else match g.operands with
      | [] => grepUsage
      | p :: rest => pure ([p], rest)
  let kind := (g.last? ['E', 'F', 'G', 'P']).getD 'G'
  let sources := texts.flatMap fun t => t.toList.splitOn '\n'
  let patterns ← sources.mapM (grepPattern kind)
  let style : GrepStyle := ⟨patterns, g.has 'i' || g.has 'y', g.has 'v', g.has 'w', g.has 'x'⟩
  let recursive := g.has 'r' || g.has 'R'
  let tree := (← get).tree
  let place := (← read).machine.directory
  let below (name : String) (root : Place) : List String :=
    ((tree.entries.filter fun e => e.1.take root.length = root && (match e.2 with
      | .file .. => true
      | _ => false)).map fun e =>
        (if name.isEmpty then "" else name ++ "/") ++
          String.intercalate "/" (e.1.drop root.length)).mergeSort fun a b => !(b < a)
  let names := (if operands.isEmpty then (if recursive then [""] else ["-"]) else operands).flatMap
    fun name =>
      if !recursive || name = "-" then [name]
      else match tree.locate place (if name.isEmpty then "." else name) with
        | .ok p => if tree.entry? p = some .directory then below name p else [name]
        | .error _ => [name]
  let titled := if g.has 'h' then false
    else g.has 'H' || recursive || 1 < operands.length
  let quiet := g.has 'q'
  let counts := g.has 'c'
  let lists := g.has 'l' || g.has 'L'
  let (matched, failed, _) ← names.foldlM (fun (x : Bool × Bool × Bool) name => do
    let (matched, failed, printed) := x
    if quiet && matched then return x
    let label := if name = "-" then "(standard input)" else name
    match ← contentOrInput name with
    | .error e =>
      if !g.has 's' then warn (label ++ ": " ++ e.text)
      return (matched, true, printed)
    | .ok cs =>
      let ending := if g.has 'z' then '\x00' else '\n'
      let texts := match (cs.splitOn ending).reverse with
        | [] :: rest => rest.reverse
        | parts => parts.reverse
      let most := if quiet || lists then some 1 else most
      let lines := markLines style.selects most 1 0 0 texts
      let n := (lines.filter Marked.selected).length
      let tag (mark : String) : String := if titled then label ++ mark else ""
      if quiet then return (matched || 0 < n, failed, printed)
      else if lists then
        if (0 < n) != g.has 'L' then outText (label ++ "\n")
        return (matched || (0 < n) != g.has 'L', failed, printed)
      else if counts then
        outText (tag ":" ++ toString n ++ "\n")
        return (matched || 0 < n, failed, printed)
      else if 0 < n && cs.contains '\x00' && !g.has 'a' && !g.has 'z' then
        warn (label ++ ": binary file matches")
        return (true, failed, printed)
      else
        let front (l : Marked) (offset : Nat) (mark : String) : String :=
          tag mark ++ (if g.has 'n' then toString l.number ++ mark else "") ++
            (if g.has 'b' then toString offset ++ mark else "")
        if g.has 'o' then
          (lines.filter Marked.selected).forM fun l => do
            if !style.inverted then
              (style.parts l.text.toArray (l.text.length + 2) 0).forM fun part =>
                out ((front l l.offset ":").toList ++ part ++ [ending])
          return (matched || 0 < n, failed, printed)
        else
          let shown := inContext before after lines
          let _ ← shown.foldlM (fun (first : Bool) (l, gap) => do
            if (gap || (first && printed)) && (0 < before || 0 < after) then outText "--\n"
            out ((front l l.offset (if l.selected then ":" else "-")).toList ++ l.text ++ [ending])
            return false) true
          return (matched || 0 < n, failed, printed || !shown.isEmpty)) (false, false, false)
  setStatus (if quiet && matched then 0 else if failed then 2 else if matched then 0 else 1)

/-- `grep` under a name that stands for an option. -/
def grepWith (option : String) : Work Unit :=
  withReader (fun r => { r with called := "grep", args := option :: r.args }) grep

end Disasm.Host.Utility
