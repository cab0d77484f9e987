import Disasm.Host.Shell.Arithmetic
import Disasm.Host.Shell.Pattern
import Disasm.Host.Shell.State

namespace Disasm.Host.Shell

inductive Atom where
  | glyph (g : Glyph) (cuttable : Bool)
  /-- Nothing, in quotes: there is a field even if it stays empty. -/
  | present
  /-- A field ends here. -/
  | cut

def Atom.glyphs (atoms : List Atom) : List Glyph :=
  atoms.filterMap fun
    | .glyph g _ => some g
    | .present | .cut => none

def Atom.text (atoms : List Atom) : String :=
  String.ofList ((glyphs atoms).map Glyph.char)

def Atom.ofText (quoted cuttable : Bool) (s : String) : List Atom :=
  s.toList.map fun c => .glyph ⟨c, quoted⟩ cuttable

structure Fields where
  done : List (List Glyph) := []
  current : Option (List Glyph) := none
  /-- Whether a blank has ended the last field, so that a separator adds nothing to that. -/
  blank : Bool := false

namespace Fields

def close (f : Fields) : Fields :=
  match f.current with
  | some gs => { done := gs.reverse :: f.done }
  | none => f

def add (separators : List Char) (f : Fields) : Atom → Fields
  | .present => { f with current := some (f.current.getD []), blank := false }
  | .cut => { f.close with blank := false }
  | .glyph g cuttable =>
    if cuttable && separators.contains g.char then
      if g.char = ' ' || g.char = '\t' || g.char = '\n' then
        if f.current.isSome then { f.close with blank := true } else f
      else if f.current.isSome then f.close
      else if f.blank then { f with blank := false }
      else { f with done := [] :: f.done }
    else { f with current := some (g :: f.current.getD []), blank := false }

def ofAtoms (separators : List Char) (atoms : List Atom) : List (List Glyph) :=
  (atoms.foldl (add separators) {}).close.done.reverse

end Fields

/-- The characters that separate fields if nothing else is said. -/
def usualSeparators : String := " \t\n"

def components (w : List Glyph) : List (List Glyph) :=
  w.foldr (fun g parts =>
    if g.char = '/' then [] :: parts
    else match parts with
      | [] => [[g]]
      | p :: rest => (g :: p) :: rest) [[]]

/-- The paths that the rest of a pattern covers, behind a path that leads to a place. -/
def coveredPaths (t : FileTree) (place : Place) (path : String) : List (List Glyph) → List String
  | [] => []
  | [[]] => if t.entry? place = some .directory then [path] else []
  | component :: rest =>
    let text := String.ofList (component.map Glyph.char)
    let names :=
      if isPattern component then
        if t.entry? place = some .directory then
          (["..", "."] ++ t.names place).filter fun name =>
            Glob.covers (pattern component) name.toList &&
              (!name.startsWith "." || text.startsWith ".")
        else []
      else [text]
    names.flatMap fun name =>
      match t.follow place [name] with
      | .error _ => []
      | .ok next =>
        if (t.entry? next).isNone then []
        else match rest with
          | [] => [path ++ name]
          | rest => coveredPaths t next (path ++ name ++ "/") rest

/-- The files that a field covers, or its own text if there are none. -/
def expandPaths (t : FileTree) (directory : Place) (field : List Glyph) : List String :=
  let text := String.ofList (field.map Glyph.char)
  if !isPattern field then [text]
  else
    let paths := match components field with
      | [] :: rest => coveredPaths t [] "/" rest
      | parts => coveredPaths t directory "" parts
    if paths.isEmpty then [text] else paths.mergeSort fun a b => !(b < a)

namespace Expand

open Act

/-- The characters between which fields are cut. -/
def separators : Act (List Char) := do
  return ((← valueOf? "IFS").getD usualSeparators).toList

/-- What stands between arguments that are put into one text. -/
def glue : Act String := do
  match (← process).bindings.lookup "IFS" with
  | some ⟨some ifs, _, _⟩ => return String.ofList (ifs.toList.take 1)
  | _ => return " "

/-- The value of a parameter, if it has one; not for all arguments at once. -/
def single? (name : String) : Act (Option String) := do
  let p ← process
  match name with
  | "#" => return some (toString p.args.length)
  | "?" => return some (toString p.status)
  | "$" => return some (toString p.shell)
  | "!" => return p.background.map toString
  | "-" => return some (String.ofList (optionLetters.reverse.filter p.options.contains))
  | "0" => return some p.name
  | "PPID" => return some (toString p.parent)
  | _ =>
    match name.toNat? with
    | some n => return p.args[n - 1]?
    | none => valueOf? name

def isAll (name : String) : Bool :=
  name = "@" || name = "*"

/-- Whether a parameter has a value; with `orEmpty`, one that is not empty. -/
def isGiven (name : String) (orEmpty : Bool) : Act Bool := do
  if isAll name then
    let args := (← process).args
    return if orEmpty then args.any fun a => !a.isEmpty else !args.isEmpty
  else
    match ← single? name with
    | none => return false
    | some v => return !(orEmpty && v.isEmpty)

/-- Refuses a parameter without a value, if the shell is told to. -/
def requireSet (name : String) : Act Unit := do
  if (← process).options.contains 'u' && !isAll name then
    if (← single? name).isNone then
      match (← process).dialect with
      | .small => fail (name ++ ": parameter not set")
      | .large => fail (name ++ ": unbound variable") 1

def joined (name : String) : Act String := do
  if isAll name then return String.intercalate (← glue) (← process).args
  else return (← single? name).getD ""

/-- The atoms of the value of a parameter. With `spread` all arguments are fields of their own. -/
def value (name : String) (quoted spread : Bool) : Act (List Atom) := do
  if spread && isAll name && !(quoted && name = "*") then
    let args := (← process).args.map fun a =>
      if quoted then .present :: Atom.ofText true false a else Atom.ofText false true a
    return (args.intersperse [.cut]).flatten
  else return Atom.ofText quoted (!quoted) (← joined name)

/-- Puts the home directory of its user in the place of a tilde at the start of a text. -/
def home (s : String) : Act (List Atom × String) := do
  match s.toList with
  | '~' :: rest =>
    let user := rest.takeWhile (· != '/')
    let behind := String.ofList (rest.drop user.length)
    if user.isEmpty then
      match ← valueOf? "HOME" with
      | some home => return (Atom.ofText true false home, behind)
      | none => return ([], s)
    else if String.ofList user = "root" then return (Atom.ofText true false "/root", behind)
    else return ([], s)
  | _ => return ([], s)

def arithmetic (source : String) : Act String := do
  let refuse {α : Type} (e : ArithmeticError) : Act α := fail (e.message source)
  match Arithmetic.read source with
  | .error e => refuse e
  | .ok e =>
    let look (name : String) : Act Int := do
      requireSet name
      let text := (← single? name).getD ""
      match Arithmetic.value? text with
      | some n => return n
      | none => refuse (.illegalNumber text)
    let store (name : String) (n : Int) : Act Unit := assign name (toString n)
    return toString (← Arithmetic.evaluate refuse look store e)

/-- What a command prints, without the line breaks at its end. -/
def trimmed (cs : List Char) : String :=
  String.ofList ((cs.filter (· != '\x00')).reverse.dropWhile (· = '\n')).reverse

/-- The parts of a word, one after the other. Quotes around nothing but all arguments are no field
if there are none. -/
def parts (one : Bool → Part → Act (List Atom)) (first : Bool) : Word → Act (List Atom)
  | [] => return []
  | [.text "" true, .parameter "@" .value true] => one false (.parameter "@" .value true)
  | p :: rest => do
    let atoms ← one first p
    return atoms ++ (← parts one false rest)

/-- The atoms of a word. `output` runs a command for what it prints. With `spread` all arguments
are fields of their own; with `cutting` plain text is cut as well. -/
def word (output : Command → Act (List Char)) (spread cutting : Bool) :
    Nat → Word → Act (List Atom)
  | 0, _ => return []
  | fuel + 1, w =>
    let whole (w : Word) : Act String := do
      return Atom.text (← word output false false fuel w)
    let chosen (quoted : Bool) (w : Word) : Act (List Atom) :=
      word output spread (!quoted) fuel w
    parts (fun first part => do
      match part with
      | .text s true => return .present :: Atom.ofText true false s
      | .text s false =>
        let (before, rest) ← if first then home s else pure ([], s)
        return before ++ Atom.ofText false cutting rest
      | .output body quoted => do
        let s := trimmed (← output body)
        return Atom.ofText quoted (!quoted) s
      | .arithmetic source quoted => do
        let s ← arithmetic (← whole source)
        return Atom.ofText quoted (!quoted) s
      | .parameter name form quoted => do
        match form with
        | .value =>
          requireSet name
          value name quoted spread
        | .length =>
          requireSet name
          let n ← if isAll name then pure (← process).args.length
            else do pure ((← single? name).getD "").length
          return Atom.ofText quoted (!quoted) (toString n)
        | .usual orEmpty w =>
          if ← isGiven name orEmpty then value name quoted spread else chosen quoted w
        | .instead orEmpty w =>
          if ← isGiven name orEmpty then chosen quoted w else return []
        | .assigned orEmpty w =>
          if ← isGiven name orEmpty then value name quoted spread
          else
            let s ← whole w
            if isName name then assign name s else fail "Bad substitution"
            return Atom.ofText quoted (!quoted) s
        | .demanded orEmpty w =>
          if ← isGiven name orEmpty then value name quoted spread
          else
            let message ← whole w
            fail (name ++ ": " ++ (if w.isEmpty then "parameter not set" ++
              (if orEmpty then " or null" else "") else message))
        | .withoutFront longest p =>
          requireSet name
          let gs := pattern (Atom.glyphs (← word output false false fuel p))
          return Atom.ofText quoted (!quoted)
            (String.ofList (withoutFront longest gs (← joined name).toList))
        | .withoutBack longest p =>
          requireSet name
          let gs := pattern (Atom.glyphs (← word output false false fuel p))
          return Atom.ofText quoted (!quoted)
            (String.ofList (withoutBack longest gs (← joined name).toList))
        | .bad => fail "Bad substitution") true w

def wordDepth : Nat := 1000

def text (output : Command → Act (List Char)) (w : Word) : Act String := do
  return Atom.text (← word output false false wordDepth w)

def glyphs (output : Command → Act (List Char)) (w : Word) : Act (List Glyph) := do
  return Atom.glyphs (← word output false false wordDepth w)

def fields (output : Command → Act (List Char)) (w : Word) : Act (List String) := do
  let atoms ← word output true false wordDepth w
  let found := Fields.ofAtoms (← separators) atoms
  let p ← process
  if p.options.contains 'f' then
    return found.map fun f => String.ofList (f.map Glyph.char)
  else
    let t := (← system).tree
    return found.flatMap (expandPaths t p.directory)

/-- The tildes behind the colons of the value of an assignment. -/
def valueParts (w : Word) : List Word :=
  match w with
  | .text s false :: rest =>
    match (Text.fields ':' s).reverse with
    | [] | [_] => [w]
    | last :: before =>
      (before.reverse.map fun part => [.text part false]) ++ [.text last false :: rest]
  | w => [w]

def assigned (output : Command → Act (List Char)) (w : Word) : Act String := do
  return String.intercalate ":" (← (valueParts w).mapM (text output))

end Expand

end Disasm.Host.Shell
