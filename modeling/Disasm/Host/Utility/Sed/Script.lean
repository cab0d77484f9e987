import Disasm.Host.Regex
import Disasm.Host.Utility.Print

namespace Disasm.Host.Utility.Sed

/-- An expression to look for; none means the one that was looked for last. -/
structure Sought where
  regex : Option Regex
  ignoreCase : Bool := false

inductive Address where
  | line (n : Nat)
  | last
  | stride (first step : Nat)
  | sought (s : Sought)

inductive RangeEnd where
  | address (a : Address)
  /-- So many lines more. -/
  | more (n : Nat)
  /-- The next line with a number that is a multiple. -/
  | multiple (n : Nat)

structure Selector where
  first : Option Address := none
  last : Option RangeEnd := none
  inverted : Bool := false

inductive Case where
  | upper | lower | upperNext | lowerNext | plain
  deriving DecidableEq

/-- A part of what is put in the place of a match. -/
inductive Piece where
  | text (cs : List Char)
  /-- What a group has covered; the whole match is group zero. -/
  | group (n : Nat)
  | case (c : Case)

structure Substitution where
  sought : Sought
  pieces : List Piece
  /-- The first match that is replaced. -/
  number : Nat := 1
  all : Bool := false
  printed : Bool := false
  file : Option String := none

inductive Action where
  /-- A block, with the number of the command behind it. -/
  | block (behind : Nat)
  | nothing
  | delete
  | deleteFirst
  | print
  | printFirst
  | next
  | appendNext
  | hold (append : Bool)
  | get (append : Bool)
  | exchange
  | substitute (s : Substitution)
  | translate (table : List (Char × Char))
  | insert (text : List Char)
  | append (text : List Char)
  | change (text : List Char)
  | quit (silent : Bool) (status : Nat)
  | number
  | list
  /-- To the command of a number; if only after a substitution, with the wanted result. -/
  | jump (behind : Nat) (condition : Option Bool)
  | readFile (path : String)
  | writeFile (path : String) (firstLine : Bool)
  | fileName
  | zap

structure Command where
  selector : Selector
  action : Action

structure Source where
  rest : List Char
  /-- How many characters were taken. -/
  position : Nat := 0

/-- An error and the position at which it was found. -/
structure Failure where
  position : Nat
  message : String

abbrev Reading := StateT Source (Except Failure)

def bad {α : Type} (message : String) : Reading α := do
  throw ⟨(← get).position, message⟩

/-- Takes the next character. At the end there is none. -/
def pop : Reading (Option Char) := do
  let s ← get
  match s.rest with
  | [] => return none
  | c :: rest =>
    set (Source.mk rest (s.position + 1))
    return some c

def peek : Reading (Option Char) := do
  return (← get).rest.head?

def takeWhile (p : Char → Bool) : Reading (List Char) := do
  let s ← get
  let cs := s.rest.takeWhile p
  set (Source.mk (s.rest.drop cs.length) (s.position + cs.length))
  return cs

def isBlank (c : Char) : Bool :=
  isSpaceByte c && c != '\n'

def number (ds : List Char) : Nat :=
  ds.foldl (fun n c => n * 10 + (c.toNat - '0'.toNat)) 0

/-- A text up to a delimiter. The delimiter may stand in it behind a backslash, which is dropped.
In an expression a delimiter in a set ends the text as well. -/
def delimited (delimiter : Char) (regex : Bool) (done : List Char) :
    Nat → Reading (Option (List Char))
  | 0 => return none
  | fuel + 1 => do
    match ← pop with
    | none => return none
    | some c =>
      if c = delimiter then return some done.reverse
      else if c = '\\' then
        match ← pop with
        | none => return none
        | some d =>
          if d = delimiter then delimited delimiter regex (d :: done) fuel
          else if d = 'n' && regex then delimited delimiter regex ('n' :: '\\' :: done) fuel
          else delimited delimiter regex (d :: '\\' :: done) fuel
      else if c = '\n' && regex then return none
      else delimited delimiter regex (c :: done) fuel

/-- The character that the start of a text stands for behind a backslash, and what follows. -/
def escape? : List Char → Option (Char × List Char)
  | [] => none
  | c :: rest =>
    let coded (base count : Nat) (isDigit : Char → Bool) : Option (Char × List Char) :=
      let ds := (rest.take count).takeWhile isDigit
      if ds.isEmpty then none else some (charOf base ds, rest.drop ds.length)
    match [('n', '\n'), ('t', '\t'), ('f', '\x0C'), ('v', '\x0B'), ('a', '\x07'),
        ('r', '\r')].lookup c with
    | some d => some (d, rest)
    | none =>
      match c with
      | 'x' => coded 16 2 fun c => (hexDigit? c).isSome
      | 'o' => coded 8 3 isOctal
      | 'd' => coded 10 3 Char.isDigit
      | _ => none

/-- An expression with the escapes of characters undone. One that was a number stands for itself. -/
def withControls : Nat → List Char → List Char
  | 0, cs => cs
  | _, [] => []
  | fuel + 1, '\\' :: c :: rest =>
    match escape? (c :: rest) with
    | some (d, rest) =>
      (if d.isAlphanum || isSpaceByte d then [d] else ['\\', d]) ++ withControls fuel rest
    | none => '\\' :: c :: withControls fuel rest
  | fuel + 1, c :: rest => c :: withControls fuel rest

def sought (extended : Bool) (ignoreCase : Bool) (cs : List Char) : Reading Sought := do
  if cs.isEmpty then return ⟨none, ignoreCase⟩
  match Regex.ofText { extended := extended } (withControls cs.length cs) with
  | .ok e => return ⟨some e, ignoreCase⟩
  | .error message => bad message

def address? (extended : Bool) : Reading (Option Address) := do
  match ← peek with
  | some '$' =>
    let _ ← pop
    return some .last
  | some c =>
    if c.isDigit then
      let n := number (← takeWhile Char.isDigit)
      let _ ← takeWhile isBlank
      if (← peek) = some '~' then
        let _ ← pop
        let step := number (← takeWhile Char.isDigit)
        return some (.stride n step)
      return some (.line n)
    else if c = '/' || c = '\\' then
      let _ ← pop
      let delimiter ← if c = '\\' then (do return (← pop).getD '/') else pure '/'
      match ← delimited delimiter true [] (← get).rest.length.succ with
      | none => bad "unterminated address regex"
      | some cs =>
        let flags ← takeWhile fun c => c = 'I' || c = 'M'
        return some (.sought (← sought extended (flags.contains 'I') cs))
    else return none
  | none => return none

def selector (extended : Bool) : Reading Selector := do
  match ← address? extended with
  | none =>
    if (← peek) = some ',' then
      let _ ← pop
      bad "unexpected `,'"
    return {}
  | some first =>
    let _ ← takeWhile isBlank
    let last ← match ← peek with
      | some ',' => do
        let _ ← pop
        let _ ← takeWhile isBlank
        match ← peek with
        | some '+' =>
          let _ ← pop
          pure (some (RangeEnd.more (number (← takeWhile Char.isDigit))))
        | some '~' =>
          let _ ← pop
          pure (some (RangeEnd.multiple (number (← takeWhile Char.isDigit))))
        | _ =>
          match ← address? extended with
          | some a => pure (some (RangeEnd.address a))
          | none =>
            let _ ← pop
            bad "unexpected `,'"
      | _ => pure none
    match first, last with
    | .line 0, some (.address (.sought _)) => pure ()
    | .line 0, _ => bad "invalid usage of line address 0"
    | _, _ => pure ()
    return { first := some first, last := last }

/-- The end of a command: a line break, a semicolon, or a sign that starts something else. -/
def endOfCommand : Reading Unit := do
  let _ ← takeWhile isBlank
  match ← peek with
  | none | some '}' | some '#' => return
  | some c =>
    let _ ← pop
    if c != '\n' && c != ';' && c != '\r' then bad "extra characters after command"

/-- The pieces of what is put in the place of a match. -/
def pieces (done : List Piece) : Nat → List Char → List Piece
  | 0, _ | _, [] => done.reverse
  | fuel + 1, '&' :: rest => pieces (.group 0 :: done) fuel rest
  | fuel + 1, '\\' :: c :: rest =>
    if c.isDigit then pieces (.group (c.toNat - '0'.toNat) :: done) fuel rest
    else match [('U', Case.upper), ('L', .lower), ('E', .plain), ('u', .upperNext),
        ('l', .lowerNext)].lookup c with
      | some k => pieces (.case k :: done) fuel rest
      | none =>
        match escape? (c :: rest) with
        | some (d, rest) => pieces (.text [d] :: done) fuel rest
        | none => pieces (.text [c] :: done) fuel rest
  | fuel + 1, c :: rest =>
    let plain := rest.takeWhile fun c => c != '&' && c != '\\'
    pieces (.text (c :: plain) :: done) fuel (rest.drop plain.length)

def flags (s : Substitution) (numbered : Bool) : Nat → Reading (Substitution × Bool)
  | 0 => return (s, false)
  | fuel + 1 => do
    match ← peek with
    | some 'g' =>
      let _ ← pop
      if s.all then bad "multiple `g' options to `s' command"
      flags { s with all := true } numbered fuel
    | some 'p' =>
      let _ ← pop
      if s.printed then bad "multiple `p' options to `s' command"
      flags { s with printed := true } numbered fuel
    | some 'i' | some 'I' =>
      let _ ← pop
      let (s, _) ← flags s numbered fuel
      return (s, true)
    | some 'm' | some 'M' | some 'e' =>
      let _ ← pop
      flags s numbered fuel
    | some 'w' =>
      let _ ← pop
      let _ ← takeWhile isBlank
      let path ← takeWhile (· != '\n')
      if path.isEmpty then bad "missing filename in r/R/w/W commands"
      return ({ s with file := some (String.ofList path) }, false)
    | some c =>
      if c.isDigit then
        let n := number (← takeWhile Char.isDigit)
        if numbered then bad "multiple number options to `s' command"
        if n = 0 then bad "number option to `s' command may not be zero"
        flags { s with number := n } true fuel
      else if c = '}' || c = '#' || c = ';' || c = '\n' || isBlank c then
        endOfCommand
        return (s, false)
      else
        let _ ← pop
        bad "unknown option to `s'"
    | none => return (s, false)

def groupCount : Regex → Nat
  | .group n e => max n (groupCount e)
  | .seq a b | .alt a b => max (groupCount a) (groupCount b)
  | .many e _ _ => groupCount e
  | _ => 0

def substitution (extended : Bool) : Reading Action := do
  let unterminated {α : Type} : Reading α := bad "unterminated `s' command"
  match ← pop with
  | none | some '\n' | some '\\' => unterminated
  | some delimiter =>
    let fuel := (← get).rest.length.succ
    match ← delimited delimiter true [] fuel with
    | none => unterminated
    | some regex =>
      match ← delimited delimiter false [] fuel with
      | none => unterminated
      | some new =>
        let ps := pieces [] new.length.succ new
        let plain : Substitution := { sought := ⟨none, false⟩, pieces := ps }
        let (s, ignoreCase) ← flags plain false fuel
        let found ← sought extended ignoreCase regex
        let groups := (found.regex.map groupCount).getD 9
        match ps.findSome? fun
          | .group n => if groups < n then some n else none
          | _ => none with
        | some n => bad ("invalid reference \\" ++ toString n ++ " on `s' command's RHS")
        | none => return .substitute { s with sought := found }

/-- A text for `y` with its escapes undone. -/
def unescaped : Nat → List Char → List Char
  | 0, cs => cs
  | _, [] => []
  | fuel + 1, '\\' :: c :: rest =>
    (if c = 'n' then ['\n'] else if c = '\\' then ['\\']
      else match controlEscapes.lookup c with
        | some d => [d]
        | none => ['\\', c]) ++ unescaped fuel rest
  | fuel + 1, c :: rest => c :: unescaped fuel rest

def charTable : Reading Action := do
  let unterminated {α : Type} : Reading α := bad "unterminated `y' command"
  match ← pop with
  | none | some '\n' | some '\\' => unterminated
  | some delimiter =>
    let fuel := (← get).rest.length.succ
    match ← delimited delimiter false [] fuel with
    | none => unterminated
    | some old =>
      match ← delimited delimiter false [] fuel with
      | none => unterminated
      | some new =>
        let old := unescaped old.length.succ old
        let new := unescaped new.length.succ new
        if old.length != new.length then bad "strings for `y' command are different lengths"
        endOfCommand
        return .translate (old.zip new)

/-- Lines of text, up to the first line break without a backslash in front. -/
def textLines (done : List Char) : Nat → Reading (List Char)
  | 0 => return done.reverse
  | fuel + 1 => do
    match ← pop with
    | none | some '\n' => return done.reverse
    | some '\\' =>
      let s ← get
      match escape? s.rest with
      | some (d, rest) =>
        set (Source.mk rest (s.position + (s.rest.length - rest.length)))
        textLines (d :: done) fuel
      | none =>
        match ← pop with
        | none => return done.reverse
        | some c => textLines (c :: done) fuel
    | some c => textLines (c :: done) fuel

def text : Reading (List Char) := do
  let expected {α : Type} : Reading α := bad "expected \\ after `a', `c' or `i'"
  let fuel := (← get).rest.length.succ
  let _ ← takeWhile isBlank
  match ← peek with
  | none => expected
  | some '\\' =>
    let _ ← pop
    let blanks ← takeWhile isBlank
    match ← peek with
    | none => return []
    | some '\n' =>
      let _ ← pop
      return (← textLines [] fuel) ++ ['\n']
    | some c =>
      if c != '\\' then
        let _ ← pop
        return blanks ++ c :: (← textLines [] fuel) ++ ['\n']
      else return blanks ++ (← textLines [] fuel) ++ ['\n']
  | some '\n' => expected
  | _ => return (← textLines [] fuel) ++ ['\n']

/-- A command as it is read: blocks and labels are put in their places later. -/
inductive Raw where
  | command (c : Command)
  | opening (s : Selector)
  | closing
  | label (name : String)
  | jump (s : Selector) (name : String) (condition : Option Bool)

def labelName : Reading String := do
  let _ ← takeWhile isBlank
  let cs ← takeWhile fun c => c != '\n' && c != ';' && c != '}' && !isBlank c
  let _ ← takeWhile fun c => isBlank c || c = ';'
  return String.ofList cs

def fileName : Reading String := do
  let _ ← takeWhile isBlank
  let cs ← takeWhile (· != '\n')
  if cs.isEmpty then bad "missing filename in r/R/w/W commands"
  return String.ofList cs

def command (extended : Bool) (s : Selector) (c : Char) : Reading Raw := do
  let simple (a : Action) : Reading Raw := do
    endOfCommand
    return .command ⟨s, a⟩
  let oneAddress : Reading Unit := do
    if s.last.isSome then bad "command only uses one address"
  match c with
  | '\x7b' => return .opening s
  | '}' =>
    if s.first.isSome then bad "\x7d doesn't want any addresses"
    endOfCommand
    return .closing
  | ':' =>
    if s.first.isSome then bad ": doesn't want any addresses"
    let _ ← takeWhile isBlank
    let cs ← takeWhile fun c => c != '\n' && c != ';' && !isBlank c
    if cs.isEmpty then bad "\":\" lacks a label"
    return .label (String.ofList cs)
  | 'b' => return .jump s (← labelName) none
  | 't' => return .jump s (← labelName) (some true)
  | 'T' => return .jump s (← labelName) (some false)
  | 'd' => simple .delete
  | 'D' => simple .deleteFirst
  | 'p' => simple .print
  | 'P' => simple .printFirst
  | 'n' => simple .next
  | 'N' => simple .appendNext
  | 'h' => simple (.hold false)
  | 'H' => simple (.hold true)
  | 'g' => simple (.get false)
  | 'G' => simple (.get true)
  | 'x' => simple .exchange
  | '=' => simple .number
  | 'F' => simple .fileName
  | 'z' => simple .zap
  | 'l' =>
    let _ ← takeWhile isBlank
    let _ ← takeWhile Char.isDigit
    simple .list
  | 'q' | 'Q' =>
    oneAddress
    let _ ← takeWhile isBlank
    let n := number (← takeWhile Char.isDigit)
    simple (.quit (c = 'Q') n)
  | 's' => return .command ⟨s, ← substitution extended⟩
  | 'y' => return .command ⟨s, ← charTable⟩
  | 'a' => return .command ⟨s, .append (← text)⟩
  | 'i' => return .command ⟨s, .insert (← text)⟩
  | 'c' => return .command ⟨s, .change (← text)⟩
  | 'r' => return .command ⟨s, .readFile (← fileName)⟩
  | 'w' => return .command ⟨s, .writeFile (← fileName) false⟩
  | 'W' => return .command ⟨s, .writeFile (← fileName) true⟩
  | c => bad ("unknown command: `" ++ String.ofList [c] ++ "'")

def commands (extended : Bool) (done : List Raw) : Nat → Reading (List Raw)
  | 0 => return done.reverse
  | fuel + 1 => do
    let _ ← takeWhile fun c => isSpaceByte c || c = ';'
    if (← peek).isNone then return done.reverse
    if (← peek) = some '#' then
      let _ ← takeWhile (· != '\n')
      commands extended done fuel
    else
      let s ← selector extended
      let _ ← takeWhile isBlank
      let marks ← takeWhile fun c => c = '!' || isBlank c
      if 1 < marks.count '!' then bad "multiple `!'s"
      let s := { s with inverted := marks.contains '!' }
      match ← pop with
      | none | some '\n' => bad "missing command"
      | some c =>
        if c = '#' then bad "comments don't accept any addresses"
        else commands extended ((← command extended s c) :: done) fuel

/-- The number of the command behind the block that starts here. -/
def behindBlock (depth n : Nat) : List Raw → Option Nat
  | [] => none
  | .opening _ :: rest => behindBlock (depth + 1) (n + 1) rest
  | .closing :: rest => if depth = 0 then some (n + 1) else behindBlock (depth - 1) (n + 1) rest
  | _ :: rest => behindBlock depth (n + 1) rest

def labelPlace? (raws : List Raw) (name : String) : Option Nat :=
  raws.findIdx? fun
    | .label other => other = name
    | _ => false

def placed (all : List Raw) (n depth : Nat) (done : List Command) :
    List Raw → Except Failure (List Command)
  | [] => .ok done.reverse
  | raw :: rest =>
    match raw with
    | .command c => placed all (n + 1) depth (c :: done) rest
    | .opening s =>
      match behindBlock 0 (n + 1) rest with
      | none => .error ⟨0, "unmatched `\x7b'"⟩
      | some behind => placed all (n + 1) (depth + 1) (⟨s, .block behind⟩ :: done) rest
    | .closing =>
      if depth = 0 then .error ⟨0, "unexpected `\x7d'"⟩
      else placed all (n + 1) (depth - 1) (⟨{}, .nothing⟩ :: done) rest
    | .label _ => placed all (n + 1) depth (⟨{}, .nothing⟩ :: done) rest
    | .jump s name condition =>
      if name.isEmpty then
        placed all (n + 1) depth (⟨s, .jump all.length condition⟩ :: done) rest
      else
        match labelPlace? all name with
        | some place => placed all (n + 1) depth (⟨s, .jump place condition⟩ :: done) rest
        | none => .error ⟨0, "can't find label for jump to `" ++ name ++ "'"⟩

def read (extended : Bool) (cs : List Char) : Except Failure (List Command) := do
  let (raws, s) ← (commands extended [] (cs.length + 2)).run ⟨cs, 0⟩
  match placed raws 0 0 [] raws with
  | .ok cs => return cs
  | .error e => throw (if e.message.startsWith "unexpected" then { e with position := s.position }
      else e)

end Disasm.Host.Utility.Sed
