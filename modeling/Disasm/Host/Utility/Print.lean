import Disasm.Host.Utility.Basic
import Disasm.Host.Utility.Format

namespace Disasm.Host.Utility

/-- The escapes behind a backslash that a text may hold. -/
structure Escapes where
  letters : List (Char × Char)
  /-- Whether the three octal digits may have a zero in front. -/
  zero : Bool := false
  hexadecimal : Bool := false
  /-- Whether `c` ends all output. -/
  stops : Bool := false

def controlEscapes : List (Char × Char) :=
  [('a', '\x07'), ('b', '\x08'), ('f', '\x0C'), ('n', '\n'), ('r', '\r'), ('t', '\t'),
    ('v', '\x0B'), ('\\', '\\')]

def isOctal (c : Char) : Bool :=
  '0' ≤ c && c ≤ '7'

def hexDigit? (c : Char) : Option Nat :=
  if c.isDigit then some (c.toNat - '0'.toNat)
  else if 'a' ≤ c && c ≤ 'f' then some (c.toNat - 'a'.toNat + 10)
  else if 'A' ≤ c && c ≤ 'F' then some (c.toNat - 'A'.toNat + 10)
  else none

def charOf (base : Nat) (ds : List Char) : Char :=
  Char.ofNat ((ds.foldl (fun n c => n * base + (hexDigit? c).getD 0) 0) % 256)

/-- What stands behind a backslash: the characters that it gives, or none for the end of all
output, and what follows. -/
def Escapes.read (e : Escapes) (cs : List Char) : Option (List Char) × List Char :=
  match cs with
  | [] => (some ['\\'], [])
  | c :: rest =>
    match e.letters.lookup c with
    | some d => (some [d], rest)
    | none =>
      if isOctal c then
        let cs := if e.zero && c = '0' then rest else cs
        let ds := (cs.take 3).takeWhile isOctal
        (some [charOf 8 ds], cs.drop ds.length)
      else if e.hexadecimal && c = 'x' && (rest.head?.bind hexDigit?).isSome then
        let ds := (rest.take 2).takeWhile fun c => (hexDigit? c).isSome
        (some [charOf 16 ds], rest.drop ds.length)
      else if e.stops && c = 'c' then (none, [])
      else (some ['\\', c], rest)

/-- A text without its escapes, and whether it ends all output. -/
def Escapes.expand (e : Escapes) (done : List Char) : Nat → List Char → List Char × Bool
  | 0, _ | _, [] => (done.reverse, false)
  | fuel + 1, '\\' :: rest =>
    match e.read rest with
    | (some cs, rest) => e.expand (cs.reverse ++ done) fuel rest
    | (none, _) => (done.reverse, true)
  | fuel + 1, c :: rest => e.expand (c :: done) fuel rest

def Escapes.expanded (e : Escapes) (s : String) : List Char × Bool :=
  e.expand [] s.length s.toList

/-- The escapes of the shell's own `echo` and of `%b`. -/
def shellEscapes : Escapes := ⟨('e', '\x1B') :: controlEscapes, true, false, true⟩

/-- The escapes in the format of the shell's own `printf`. -/
def shellFormatEscapes : Escapes := ⟨('e', '\x1B') :: controlEscapes, false, false, false⟩

def echoEscapes : Escapes := ⟨('e', '\x1B') :: controlEscapes, true, true, true⟩

def formatEscapes : Escapes :=
  ⟨('e', '\x1B') :: ('"', '"') :: controlEscapes, false, true, true⟩

/-- The shell's own `echo` knows one option and always expands escapes. -/
def shellEcho (args : List String) : List Char :=
  let (newline, args) := match args with
    | "-n" :: rest => (false, rest)
    | args => (true, args)
  let (cs, stopped) := shellEscapes.expanded (String.intercalate " " args)
  if newline && !stopped then cs ++ ['\n'] else cs

/-- Whether an argument is a cluster of options of `echo`. -/
def isEchoOption (s : String) : Bool :=
  match s.toList with
  | '-' :: c :: rest => (c :: rest).all ['n', 'e', 'E'].contains
  | _ => false

/-- What `echo` prints. -/
def echoText (args : List String) : List Char :=
  let options := (args.takeWhile isEchoOption).flatMap String.toList
  let text := String.intercalate " " (args.dropWhile isEchoOption)
  let escaped := (options.reverse.find? fun c => c = 'e' || c = 'E') = some 'e'
  let (cs, stopped) := if escaped then echoEscapes.expanded text else (text.toList, false)
  if options.contains 'n' || stopped then cs else cs ++ ['\n']

def echo : Work Unit := do
  out (echoText (← read).args)

/-- How one of the two kinds of `printf` reads formats and talks about arguments. -/
structure PrintfStyle where
  format : Escapes
  argument : Escapes
  notNumeric : String → String
  notComplete : String → String
  /-- Whether `%q` puts quotes around its argument. -/
  quotes : Bool
  invalid : String → String
  outOfRange : String → String

def shellPrintf : PrintfStyle where
  format := shellFormatEscapes
  argument := shellEscapes
  notNumeric := fun s => s ++ ": expected numeric value"
  notComplete := fun s => s ++ ": not completely converted"
  quotes := false
  invalid := fun s => s ++ ": invalid directive"
  outOfRange := fun s => s ++ ": Numerical result out of range"

def plainPrintf : PrintfStyle where
  format := formatEscapes
  argument := ⟨formatEscapes.letters, true, true, true⟩
  notNumeric := fun s => quote s ++ ": expected a numeric value"
  notComplete := fun s => quote s ++ ": value not completely converted"
  quotes := true
  invalid := fun s => s ++ ": invalid conversion specification"
  outOfRange := fun s => quote s ++ ": Numerical result out of range"

/-- The result of printing: what came out, the messages, and whether it went wrong, was stopped or
broke off. -/
structure Printed where
  output : List (List Char) := []
  messages : List String := []
  rest : List String
  used : Bool := false
  stopped : Bool := false
  broken : Bool := false

namespace Printed

def print (p : Printed) (cs : List Char) : Printed :=
  { p with output := cs :: p.output }

def complain (p : Printed) (message : String) : Printed :=
  { p with messages := message :: p.messages }

end Printed

/-- An integer as `strtoimax` reads it, and what is left of the text. -/
def readInteger (cs : List Char) : Int × List Char :=
  let body := cs.dropWhile fun c => c = ' ' || (9 ≤ c.toNat && c.toNat ≤ 13)
  let (negative, ds) := match body with
    | '-' :: rest => (true, rest)
    | '+' :: rest => (false, rest)
    | rest => (false, rest)
  let digits (base : Nat) (ds : List Char) : Nat × List Char :=
    let good := ds.takeWhile fun c => (hexDigit? c).any (· < base)
    (good.foldl (fun n c => n * base + (hexDigit? c).getD 0) 0, ds.drop good.length)
  if !(ds.headD ' ').isDigit then (0, cs)
  else
    let (n, rest) := match ds with
      | '0' :: x :: d :: more =>
        if (x = 'x' || x = 'X') && (hexDigit? d).isSome then digits 16 (d :: more)
        else digits 8 ds
      | '0' :: _ => digits 8 ds
      | _ => digits 10 ds
    (if negative then -n else n, rest)

/-- A decimal fraction with an exponent at the start of a text: digits, a power of ten, and what is
left. -/
def readDecimal (cs : List Char) : Option (Bool × Nat × Int × List Char) :=
  let body := cs.dropWhile fun c => c = ' ' || (9 ≤ c.toNat && c.toNat ≤ 13)
  let (negative, ds) := match body with
    | '-' :: rest => (true, rest)
    | '+' :: rest => (false, rest)
    | rest => (false, rest)
  let whole := ds.takeWhile Char.isDigit
  let behind := ds.drop whole.length
  let (fraction, behind) := match behind with
    | '.' :: rest =>
      let f := rest.takeWhile Char.isDigit
      if whole.isEmpty && f.isEmpty then ([], behind) else (f, rest.drop f.length)
    | _ => ([], behind)
  if whole.isEmpty && fraction.isEmpty then none
  else
    let (e, behind) : Int × List Char := match behind with
      | c :: rest =>
        if c = 'e' || c = 'E' then
          let (negative, ds) := match rest with
            | '-' :: more => (true, more)
            | '+' :: more => (false, more)
            | more => (false, more)
          let digits := ds.takeWhile Char.isDigit
          if digits.isEmpty then (0, behind)
          else
            let n : Nat := digits.foldl (fun n c => n * 10 + (c.toNat - '0'.toNat)) 0
            (if negative then -n else n, ds.drop digits.length)
        else (0, behind)
      | [] => (0, [])
    let n := (whole ++ fraction).foldl (fun n c => n * 10 + (c.toNat - '0'.toNat)) 0
    some (negative, n, e - fraction.length, behind)

def decimalReal (negative : Bool) (n : Nat) (power : Int) : Real :=
  if 0 ≤ power then .finite negative (n * Nat.pow 10 power.toNat) 1
  else .finite negative n (Nat.pow 10 (-power).toNat)

/-- A real number as an argument: a decimal fraction, a hexadecimal integer or a name. -/
def readReal (s : String) : Real × Option Bool :=
  let cs := s.toList
  let named := (s.toList.dropWhile (· = ' ')).map Char.toLower
  let strip (cs : List Char) : Bool × List Char := match cs with
    | '-' :: rest => (true, rest)
    | '+' :: rest => (false, rest)
    | rest => (false, rest)
  let (negative, name) := strip named
  if name = "inf".toList || name = "infinity".toList then (.infinite negative, none)
  else if name = "nan".toList then (.nan, none)
  else if "0x".toList.isPrefixOf name then
    let (n, rest) := readInteger cs
    (.ofInt n, if rest.isEmpty then none else some true)
  else
    match readDecimal cs with
    | none => (.ofInt 0, some false)
    | some (negative, n, e, rest) =>
      (decimalReal negative n e, if rest.isEmpty then none else some true)

/-- The complaint about a number: whether it was at least partly one. -/
def PrintfStyle.check (style : PrintfStyle) (s : String) (p : Printed) : Option Bool → Printed
  | none => p
  | some true => p.complain (style.notComplete s)
  | some false => p.complain (style.notNumeric s)

def PrintfStyle.integer (style : PrintfStyle) (signed : Bool) (p : Printed) : Int × Printed :=
  match p.rest with
  | [] => (0, p)
  | s :: rest =>
    let p := { p with rest := rest, used := true }
    match s.toList with
    | q :: c :: _ =>
      if q = '"' || q = '\'' then ((c.toNat : Int), p) else number s p
    | _ => number s p
where
  number (s : String) (p : Printed) : Int × Printed :=
    let (n, left) := readInteger s.toList
    let p := style.check s p
      (if s.isEmpty && style.quotes then none
        else if left.length = s.length then some false
        else if left.isEmpty then none
        else some true)
    let (low, high) : Int × Int :=
      if signed then (-(Nat.pow 2 63), Nat.pow 2 63 - 1) else (-(Nat.pow 2 64), Nat.pow 2 64 - 1)
    if n < low then (low, p.complain (style.outOfRange s))
    else if high < n then (high, p.complain (style.outOfRange s))
    else (n, p)

def PrintfStyle.realNumber (style : PrintfStyle) (p : Printed) : Real × Printed :=
  match p.rest with
  | [] => (.ofInt 0, p)
  | s :: rest =>
    let p := { p with rest := rest, used := true }
    match s.toList with
    | q :: c :: _ =>
      if q = '"' || q = '\'' then (.ofInt c.toNat, p)
      else
        let (x, bad) := readReal s
        (x, style.check s p bad)
    | _ =>
      let (x, bad) := readReal s
      (x, if s.isEmpty && style.quotes then p else style.check s p bad)

def Printed.text (p : Printed) : String × Printed :=
  match p.rest with
  | [] => ("", p)
  | s :: rest => (s, { p with rest := rest, used := true })

/-- Takes arguments for the stars of a directive. -/
def PrintfStyle.stars (style : PrintfStyle) : Nat → Printed → List Int × Printed
  | 0, p => ([], p)
  | n + 1, p =>
    let (k, p) := style.integer true p
    let (ks, p) := style.stars n p
    (k :: ks, p)

def PrintfStyle.once (style : PrintfStyle) : Nat → List Char → Printed → Printed
  | 0, _, p | _, [], p => p
  | fuel + 1, '\\' :: rest, p =>
    match style.format.read rest with
    | (some cs, rest) => style.once fuel rest (p.print cs)
    | (none, _) => { p with stopped := true }
  | fuel + 1, '%' :: '%' :: rest, p => style.once fuel rest (p.print ['%'])
  | fuel + 1, '%' :: cs, p =>
    let (ks, p) := style.stars (starCount cs) p
    let (d, rest, _) := readDirective cs ks
    let c := d.conversion
    if c = 'd' || c = 'i' then
      let (n, p) := style.integer true p
      style.once fuel rest (p.print (d.whole n))
    else if ['o', 'u', 'x', 'X'].contains c then
      let (n, p) := style.integer false p
      style.once fuel rest (p.print (d.unsigned n))
    else if ['e', 'E', 'f', 'F', 'g', 'G'].contains c then
      let (x, p) := style.realNumber p
      style.once fuel rest (p.print (d.real x))
    else if c = 's' then
      let (s, p) := p.text
      style.once fuel rest (p.print (d.text s.toList))
    else if c = 'c' then
      let (s, p) := p.text
      let cs := match s.toList with
        | [] => ['\x00']
        | c :: _ => [c]
      style.once fuel rest (p.print ({ d with precision := none }.text cs))
    else if c = 'b' then
      let (s, p) := p.text
      let (cs, stopped) := style.argument.expanded s
      let p := p.print (d.text cs)
      if stopped then { p with stopped := true } else style.once fuel rest p
    else if c = 'q' && style.quotes then
      let (s, p) := p.text
      style.once fuel rest (p.print (quoteName s).toList)
    else
      let directive := String.ofList ('%' :: cs.take (cs.length - rest.length))
      { p.complain (style.invalid directive) with broken := true }
  | fuel + 1, c :: rest, p =>
    let plain := rest.takeWhile fun c => c != '%' && c != '\\'
    style.once fuel (rest.drop plain.length) (p.print (c :: plain))

/-- Prints by a format as often as there are arguments for it. -/
def PrintfStyle.repeat (style : PrintfStyle) (format : List Char) : Nat → Printed → Printed
  | 0, p => p
  | n + 1, p =>
    let p := style.once format.length.succ format { p with used := false }
    if p.stopped || p.broken || p.rest.isEmpty || !p.used then p
    else style.repeat format n p

def PrintfStyle.run (style : PrintfStyle) (format : String) (args : List String) : Printed :=
  style.repeat format.toList (args.length + 1) { rest := args }

def printf : Work Unit := do
  match (← read).args with
  | [] => misuse "missing operand"
  | first :: others =>
    match if first = "--" then others else first :: others with
    | [] => misuse "missing operand"
    | format :: args =>
      let p := plainPrintf.run format args
      let messages := if !p.stopped && !p.broken && !p.used && !p.rest.isEmpty then
          ("warning: ignoring excess arguments, starting with " ++ quote (p.rest.headD "")) ::
            p.messages
        else p.messages
      messages.reverse.forM warn
      out p.output.reverse.flatten
      if !p.messages.isEmpty then setStatus 1

/-- A decimal number with its places behind the point. -/
structure Decimal where
  value : Int
  places : Nat

def Decimal.read? (s : String) : Option Decimal :=
  match readDecimal s.toList with
  | some (negative, n, power, []) =>
    let n : Int := if negative then -n else n
    some (if 0 ≤ power then ⟨n * Nat.pow 10 power.toNat, 0⟩ else ⟨n, (-power).toNat⟩)
  | _ => none

/-- The value in units of the last of some places. -/
def Decimal.units (d : Decimal) (places : Nat) : Int :=
  d.value * Nat.pow 10 (places - d.places)

/-- A number of units of the last of some places, as text. -/
def decimalText (places : Nat) (n : Int) : List Char :=
  (if n < 0 then ['-'] else []) ++ withPoint false places n.natAbs

def sequenceLimit : Nat := 10000000

def sequenceFrom (step last : Int) : Nat → Int → List Int → List Int
  | 0, _, done => done.reverse
  | fuel + 1, n, done =>
    if (0 < step ∧ last < n) ∨ (step < 0 ∧ n < last) then done.reverse
    else sequenceFrom step last fuel (n + step) (n :: done)

/-- Whether an argument is a negative number and no option. -/
def isNegativeNumber (s : String) : Bool :=
  match s.toList with
  | '-' :: c :: _ => c = '.' || c.isDigit
  | _ => false

def seq : Work Unit := do
  let request ← read
  let front := request.args.takeWhile fun a => !isNegativeNumber a
  let behind := request.args.drop front.length
  let opts : List Opt := [⟨'f', ["format"], .argument⟩, ⟨'s', ["separator"], .argument⟩,
    ⟨'w', ["equal-width"], .nothing⟩]
  let g ← match options opts false none {} front with
    | .ok g => pure g
    | .error e => misuse e
  let operands := g.operands ++ behind
  let bad {α : Type} (s : String) : Work α :=
    misuse ("invalid floating point argument: " ++ quote s)
  if 3 < operands.length then
    misuse ("extra operand " ++ quote (operands.getD 3 ""))
  let numbers ← operands.mapM fun s =>
    match Decimal.read? s with
    | some d => pure d
    | none => bad s
  let (first, step, last) ← match numbers with
    | [] => misuse "missing operand"
    | [last] => pure (⟨1, 0⟩, ⟨1, 0⟩, last)
    | [first, last] => pure (first, ⟨1, 0⟩, last)
    | first :: step :: last :: _ =>
      if step.value = 0 then
        misuse ("invalid Zero increment value: " ++ quote (operands.getD 1 ""))
      else pure (first, step, last)
  let places := max first.places step.places
  let all := max places last.places
  let scale : Int := Nat.pow 10 (all - places)
  let start := first.units all
  let steps := ((last.units all - start) / step.units all).toNat + 1
  let values : List Int :=
    sequenceFrom (step.units all) (last.units all) (min sequenceLimit steps) start []
  let texts := values.map fun v => decimalText places (v / scale)
  let texts := match g.get? 'f' with
    | some f =>
      let pre := f.toList.takeWhile (· != '%')
      let (d, rest, _) := readDirective (f.toList.drop (pre.length + 1)) []
      values.map fun (v : Int) => pre ++ d.real (decimalReal (v < 0) v.natAbs (-all)) ++ rest
    | none => texts
  let texts := if g.has 'w' then
      let lastText := decimalText places ((values.getLastD 0) / scale)
      let width := max (decimalText places (first.units places)).length lastText.length
      texts.map fun t => match t with
        | '-' :: ds => '-' :: (List.replicate (width - t.length) '0' ++ ds)
        | ds => List.replicate (width - t.length) '0' ++ ds
    else texts
  if !texts.isEmpty then
    out ((texts.intersperse ((g.get? 's').getD "\n").toList).flatten ++ ['\n'])

def withoutSlashes (cs : List Char) : List Char :=
  match (cs.reverse.dropWhile (· = '/')).reverse with
  | [] => if cs.isEmpty then [] else ['/']
  | cs => cs

def baseName (s : String) : List Char :=
  match withoutSlashes s.toList with
  | ['/'] => ['/']
  | cs => (cs.reverse.takeWhile (· != '/')).reverse

def directoryName (s : String) : List Char :=
  match withoutSlashes s.toList with
  | ['/'] => ['/']
  | cs =>
    if cs.contains '/' then withoutSlashes (cs.reverse.dropWhile (· != '/')).reverse else ['.']

/-- A name without a given end, unless it is all of it. -/
def withoutEnd (ending name : List Char) : List Char :=
  if name != ending && ending.reverse.isPrefixOf name.reverse then
    name.take (name.length - ending.length)
  else name

def basename : Work Unit := do
  let g ← given [⟨'a', ["multiple"], .nothing⟩, ⟨'s', ["suffix"], .argument⟩,
    ⟨'z', ["zero"], .nothing⟩] false
  let close := if g.has 'z' then '\x00' else '\n'
  let ending := ((g.get? 's').getD "").toList
  match g.operands with
  | [] => misuse "missing operand"
  | operands =>
    if g.has 'a' || g.has 's' then
      operands.forM fun s => out (withoutEnd ending (baseName s) ++ [close])
    else match operands with
      | [s] => out (baseName s ++ [close])
      | [s, ending] => out (withoutEnd ending.toList (baseName s) ++ [close])
      | _ => misuse ("extra operand " ++ quote (operands.getD 2 ""))

def dirname : Work Unit := do
  let g ← given [⟨'z', ["zero"], .nothing⟩]
  if g.operands.isEmpty then misuse "missing operand"
  g.operands.forM fun s => out (directoryName s ++ [if g.has 'z' then '\x00' else '\n'])

def printenv : Work Unit := do
  let environment := (← read).machine.environment
  match (← read).args with
  | [] => environment.forM fun (name, value) => outText (name ++ "=" ++ value ++ "\n")
  | names =>
    names.forM fun name => do
      match environment.lookup name with
      | some value => outText (value ++ "\n")
      | none => setStatus 1

/-- How much `yes` says: more than any reader of it takes. -/
def yesLength : Nat := Nat.pow 2 20

def yes : Work Unit := do
  let g ← given []
  let line := if g.operands.isEmpty then "y" else String.intercalate " " g.operands
  let cs := (line ++ "\n").toList
  out (List.replicate (yesLength / cs.length + 1) cs).flatten

def isInterval (s : String) : Bool :=
  let cs := s.toList
  let body := match cs.reverse with
    | c :: rest => if ['s', 'm', 'h', 'd'].contains c then rest.reverse else cs
    | [] => []
  match readDecimal body with
  | some (negative, _, _, []) => !negative
  | _ => String.ofList body = "inf" || String.ofList body = "infinity"

def sleep : Work Unit := do
  let g ← given []
  if g.operands.isEmpty then misuse "missing operand"
  let wrong := g.operands.filter fun s => !isInterval s
  if !wrong.isEmpty then
    wrong.forM fun s => warn ("invalid time interval " ++ quote s)
    seeHelp

end Disasm.Host.Utility
