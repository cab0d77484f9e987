import Disasm.Host.Utility.Print

namespace Disasm.Host.Utility

open Tool

def directory : Work Place := do
  return (← read).machine.directory

def placeOf (path : String) : Work (Except SystemError Place) := do
  return (← get).tree.locate (← directory) path

/-- What stands at the end of a path, and where. -/
def entryOf (path : String) : Work (Except SystemError (Place × Entry)) := do
  match ← placeOf path with
  | .error e => return .error e
  | .ok place =>
    match (← get).tree.entry? place with
    | some e => return .ok (place, e)
    | none => return .error .noEntry

def modifyTree (f : FileTree → FileTree) : Work Unit :=
  modify fun p => { p with tree := f p.tree }

/-- A message and a failure; the work goes on. -/
def blame (message : String) : Work Unit := do
  warn message
  setStatus 1

def missingOperand (what : String := "operand") (operands : List String) : Work Unit := do
  if operands.isEmpty then misuse ("missing " ++ what)

structure Listing where
  hidden : Bool
  dots : Bool
  marked : Bool
  slashes : Bool
  reversed : Bool
  separator : String

/-- A name, with a mark for what it is the name of. -/
def Listing.title (l : Listing) (name : String) (e : Entry) : String :=
  name ++ match e with
    | .directory => if l.marked || l.slashes then "/" else ""
    | .file _ true | .utility _ => if l.marked then "*" else ""
    | _ => ""

def Listing.members (l : Listing) (t : FileTree) (place : Place) : List String :=
  let names := (t.names place).filter fun n => l.hidden || l.dots || !n.startsWith "."
  let names := if l.dots then "." :: ".." :: names else names
  let names := if l.reversed then names.reverse else names
  names.map fun n => l.title n ((t.entry? (place ++ [n])).getD .directory)

/-- The listings of a directory and, on demand, of those in it. -/
def Listing.blocks (l : Listing) (t : FileTree) (titled deep : Bool) :
    Nat → String × Place → List String
  | 0, _ => []
  | fuel + 1, (name, place) =>
    let block := (if titled then name ++ ":\n" else "") ++
      String.join ((l.members t place).map (· ++ "\n"))
    let names := (t.names place).filter fun n =>
      (l.hidden || l.dots || !n.startsWith ".") && t.entry? (place ++ [n]) = some .directory
    let below := if l.reversed then names.reverse else names
    block :: if deep then
      below.flatMap fun n =>
        l.blocks t titled deep fuel ((if name.endsWith "/" then name else name ++ "/") ++ n,
          place ++ [n])
    else []

def ls : Work Unit := do
  let g ← given [⟨'1', [], .nothing⟩, ⟨'a', ["all"], .nothing⟩, ⟨'A', ["almost-all"], .nothing⟩,
    ⟨'d', ["directory"], .nothing⟩, ⟨'r', ["reverse"], .nothing⟩, ⟨'F', ["classify"], .nothing⟩,
    ⟨'p', [], .nothing⟩, ⟨'l', [], .nothing⟩, ⟨'t', [], .nothing⟩, ⟨'m', [], .nothing⟩,
    ⟨'C', [], .nothing⟩, ⟨'x', [], .nothing⟩, ⟨'q', [], .nothing⟩, ⟨'U', [], .nothing⟩,
    ⟨'f', [], .nothing⟩, ⟨'R', ["recursive"], .nothing⟩, ⟨'h', [], .nothing⟩,
    ⟨'\x01', ["color"], .attached⟩] true 2
  let l : Listing := {
    hidden := g.has 'A' || g.has 'a', dots := g.has 'a', marked := g.has 'F'
    slashes := g.has 'p', reversed := g.has 'r', separator := "\n" }
  let operands := if g.operands.isEmpty then ["."] else g.operands
  let t := (← get).tree
  let found ← operands.filterMapM fun name => do
    match ← entryOf name with
    | .ok (place, e) => return some (name, place, e)
    | .error e =>
      warn ("cannot access " ++ shellQuoted name ++ ": " ++ e.text)
      setStatus 2
      return none
  let sorted := found.mergeSort fun a b => (!(b.1 < a.1)) != l.reversed || a.1 = b.1
  let (dirs, files) := sorted.partition fun x => x.2.2 = .directory && !g.has 'd'
  files.forM fun (name, _, e) => outText (l.title name e ++ "\n")
  let deep := g.has 'R' && !g.has 'd'
  let titled := 1 < operands.length || deep
  let blocks := dirs.flatMap fun (name, place, _) =>
    l.blocks t titled deep t.entries.length (name, place)
  if !files.isEmpty && !blocks.isEmpty then outText "\n"
  outText (String.intercalate "\n" blocks)

def touch : Work Unit := do
  let g ← given [⟨'c', ["no-create"], .nothing⟩, ⟨'a', [], .nothing⟩, ⟨'m', [], .nothing⟩,
    ⟨'d', ["date"], .argument⟩, ⟨'t', [], .argument⟩, ⟨'r', ["reference"], .argument⟩]
  missingOperand "file operand" g.operands
  g.operands.forM fun name => do
    match ← placeOf name with
    | .error e => blame ("cannot touch " ++ shellQuoted name ++ ": " ++ e.text)
    | .ok place =>
      if ((← get).tree.entry? place).isNone then
        if name.endsWith "/" then
          blame ("setting times of " ++ shellQuoted name ++ ": No such file or directory")
        else if !g.has 'c' then modifyTree fun t => t.put place (.file [] false)

def mkdir : Work Unit := do
  let g ← given [⟨'p', ["parents"], .nothing⟩, ⟨'m', ["mode"], .argument⟩,
    ⟨'v', ["verbose"], .nothing⟩]
  missingOperand "operand" g.operands
  g.operands.forM fun name => do
    let fail (reason : String) : Work Unit :=
      blame ("cannot create directory " ++ shellQuoted name ++ ": " ++ reason)
    if g.has 'p' then
      let start : Place ← if name.startsWith "/" then pure [] else directory
      let parts := (Text.fields '/' name).filter (· != "")
      let place := parts.foldl (fun (p : Place) c =>
        if c = "." then p else if c = ".." then p.dropLast else p ++ [c]) start
      let t := (← get).tree
      let steps := (List.range (place.length + 1)).map place.take
      match steps.find? fun p => (t.entry? p).any (· != .directory) with
      | some p => fail (if p = place then "File exists" else "Not a directory")
      | none => modifyTree fun t => t.makeDirectories place
    else
      match ← placeOf name with
      | .error e => fail e.text
      | .ok place =>
        if ((← get).tree.entry? place).isSome then fail "File exists"
        else modifyTree fun t => t.put place .directory

def isInhabited (t : FileTree) (place : Place) : Bool :=
  !(t.names place).isEmpty

def rmdir : Work Unit := do
  let g ← given [⟨'p', ["parents"], .nothing⟩, ⟨'v', ["verbose"], .nothing⟩]
  missingOperand "operand" g.operands
  g.operands.forM fun name => do
    let fail (reason : String) : Work Unit :=
      blame ("failed to remove " ++ shellQuoted name ++ ": " ++ reason)
    match ← entryOf name with
    | .error e => fail e.text
    | .ok (place, .directory) =>
      if isInhabited (← get).tree place then fail "Directory not empty"
      else modifyTree fun t => t.remove place
    | .ok _ => fail "Not a directory"

/-- Removes a place and all that stands below it. -/
def removeAll (place : Place) : Work Unit :=
  modifyTree fun t => ⟨t.entries.filter fun x => x.1.take place.length != place⟩

def rm : Work Unit := do
  let g ← given [⟨'r', ["recursive"], .nothing⟩, ⟨'R', [], .nothing⟩, ⟨'f', ["force"], .nothing⟩,
    ⟨'d', ["dir"], .nothing⟩, ⟨'i', [], .nothing⟩, ⟨'v', ["verbose"], .nothing⟩]
  let force := g.has 'f'
  if !force then missingOperand "operand" g.operands
  g.operands.forM fun name => do
    let fail (reason : String) : Work Unit :=
      blame ("cannot remove " ++ shellQuoted name ++ ": " ++ reason)
    match ← entryOf name with
    | .error e => if !(force && (e = .noEntry || e = .notDirectory)) then fail e.text
    | .ok (place, .directory) =>
      if g.has 'r' || g.has 'R' then removeAll place
      else if g.has 'd' && !isInhabited (← get).tree place then removeAll place
      else fail "Is a directory"
    | .ok (place, _) => removeAll place

/-- Copies a place and all that stands below it. -/
def copyAll (source target : Place) : Work Unit :=
  modifyTree fun t =>
    let moved := (t.entries.filter fun x => x.1.take source.length = source).map fun x =>
      (target ++ x.1.drop source.length, x.2)
    moved.foldr (fun x t => t.put x.1 x.2) t

def transfer (moving : Bool) (verb : String) : Work Unit := do
  let g ← given [⟨'r', ["recursive"], .nothing⟩, ⟨'R', [], .nothing⟩, ⟨'a', ["archive"], .nothing⟩,
    ⟨'f', ["force"], .nothing⟩, ⟨'p', [], .nothing⟩, ⟨'n', ["no-clobber"], .nothing⟩,
    ⟨'v', ["verbose"], .nothing⟩, ⟨'i', [], .nothing⟩, ⟨'T', [], .nothing⟩, ⟨'d', [], .nothing⟩,
    ⟨'t', ["target-directory"], .argument⟩, ⟨'u', ["update"], .nothing⟩, ⟨'L', [], .nothing⟩,
    ⟨'P', [], .nothing⟩]
  let (sources, target) ← match g.get? 't', g.operands with
    | some _, [] => misuse "missing file operand"
    | some t, sources => pure (sources, t)
    | none, [] => misuse "missing file operand"
    | none, [a] => misuse ("missing destination file operand after " ++ shellQuoted a)
    | none, operands => pure (operands.dropLast, operands.getLastD "")
  let intoDirectory := match ← entryOf target with
    | .ok (_, .directory) => !g.has 'T'
    | _ => false
  if 1 < sources.length && !intoDirectory then
    match ← entryOf target with
    | .ok _ => fail ("target " ++ shellQuoted target ++ ": Not a directory")
    | .error e => fail ("target " ++ shellQuoted target ++ ": " ++ e.text)
  sources.forM fun name => do
    match ← entryOf name with
    | .error e => blame ("cannot stat " ++ shellQuoted name ++ ": " ++ e.text)
    | .ok (place, e) =>
      let goal := if intoDirectory then
          String.ofList (withoutSlashes target.toList) ++ "/" ++ String.ofList (baseName name)
        else target
      match ← placeOf goal with
      | .error e =>
        if moving then
          blame ("cannot move " ++ shellQuoted name ++ " to " ++ shellQuoted goal ++ ": " ++ e.text)
        else blame ("cannot create regular file " ++ shellQuoted goal ++ ": " ++ e.text)
      | .ok goalPlace =>
        let old := (← get).tree.entry? goalPlace
        if place = goalPlace then
          blame (shellQuoted name ++ " and " ++ shellQuoted goal ++ " are the same file")
        else if e = .directory && !moving && !(g.has 'r' || g.has 'R' || g.has 'a') then
          blame ("-r not specified; omitting directory " ++ shellQuoted name)
        else if goalPlace.take place.length = place && e = .directory then
          blame ("cannot " ++ verb ++ " a directory, " ++ shellQuoted name ++ ", into itself, " ++
            shellQuoted goal)
        else if g.has 'n' && old.isSome then pure ()
        else if e = .directory && old.any (· != .directory) then
          blame ("cannot overwrite non-directory " ++ shellQuoted goal ++ " with directory " ++
            shellQuoted name)
        else if e != .directory && old = some .directory then
          blame ("cannot overwrite directory " ++ shellQuoted goal ++ " with non-directory")
        else
          let kept := match e, old with
            | .file content _, some (.file _ executable) =>
              if moving then e else .file content executable
            | .utility _, _ => if moving then e else .file [] true
            | e, _ => e
          match e, old with
          | .directory, _ => copyAll place goalPlace
          | _, some .void | _, some .zeros => pure ()
          | _, _ => modifyTree fun t => t.put goalPlace kept
          if moving then removeAll place

/-- Whether a file can be run after its mode is changed; none if the mode is wrong. -/
def changedMode (mode : String) (old : Bool) : Option Bool :=
  if !mode.isEmpty && mode.toList.all isOctal then
    some ((mode.toList.reverse.take 3).any fun c => (c.toNat - '0'.toNat) % 2 = 1)
  else
    (Text.fields ',' mode).foldl (fun old part => old.bind fun old =>
      let rest := part.toList.dropWhile ['u', 'g', 'o', 'a'].contains
      match rest with
      | sign :: perms =>
        let known := perms.all ['r', 'w', 'x', 'X', 's', 't'].contains
        if !(known && ['+', '-', '='].contains sign) then none
        else if perms.contains 'x' then some (sign != '-')
        else if sign = '=' then some false
        else some old
      | [] => none) (some old)

def chmod : Work Unit := do
  let args := (← read).args
  let isMode (a : String) : Bool := (changedMode a false).isSome && !a.startsWith "--"
  let g ← match options [⟨'R', ["recursive"], .nothing⟩, ⟨'v', ["verbose"], .nothing⟩,
      ⟨'f', ["silent"], .nothing⟩, ⟨'c', ["changes"], .nothing⟩] true none {}
      (args.filter fun a => !(a.startsWith "-" && isMode a)) with
    | .ok g => pure g
    | .error e => misuse e
  let operands := (args.filter fun a => a.startsWith "-" && isMode a).take 1 ++ g.operands
  match operands with
  | [] => misuse "missing operand"
  | [mode] => misuse ("missing operand after " ++ quote mode)
  | mode :: names =>
    if (changedMode mode false).isNone then misuse ("invalid mode: " ++ quote mode)
    names.forM fun name => do
      match ← entryOf name with
      | .error e => blame ("cannot access " ++ shellQuoted name ++ ": " ++ e.text)
      | .ok (place, .file content old) =>
        modifyTree fun t => t.put place (.file content ((changedMode mode old).getD old))
      | .ok _ => pure ()

def pwdUtility : Work Unit := do
  outText ("/" ++ String.intercalate "/" (← directory) ++ "\n")

end Disasm.Host.Utility
