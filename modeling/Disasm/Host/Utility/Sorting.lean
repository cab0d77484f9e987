import Disasm.Host.Utility.Columns

namespace Disasm.Host.Utility

structure LineOrder where
  blanks : Bool := false
  dictionary : Bool := false
  folded : Bool := false
  printable : Bool := false
  /-- `n`, `g`, `h`, `M` or none. -/
  kind : Option Char := none
  reversed : Bool := false
  deriving DecidableEq

/-- A part of a line: from a character of a field to one of another. -/
structure Key where
  firstField : Nat
  firstChar : Nat
  lastField : Option Nat
  lastChar : Nat
  startBlanks : Bool
  endBlanks : Bool
  /-- The way in which this key is compared, if it has one of its own. -/
  order : Option LineOrder

def isGap (c : Char) : Bool :=
  c = ' ' || c = '\t'

def behindField (separator : Option Char) (cs : List Char) : List Char :=
  match separator with
  | some s => cs.dropWhile (· != s)
  | none => (cs.dropWhile isGap).dropWhile fun c => !isGap c

/-- What is left from the start of a field on, where fields are counted from zero. -/
def fromField (separator : Option Char) : Nat → List Char → List Char
  | 0, cs => cs
  | n + 1, cs =>
    let rest := behindField separator cs
    fromField separator n (if separator.isSome then rest.drop 1 else rest)

def Key.part (k : Key) (separator : Option Char) (line : List Char) : List Char :=
  let start := fromField separator (k.firstField - 1) line
  let start := (if k.startBlanks then start.dropWhile isGap else start).drop (k.firstChar - 1)
  let behind := match k.lastField with
    | none => []
    | some f =>
      if k.lastChar = 0 then behindField separator (fromField separator (f - 1) line)
      else
        let field := fromField separator (f - 1) line
        (if k.endBlanks then field.dropWhile isGap else field).drop k.lastChar
  start.take (start.length - behind.length)

/-- A number at the start of a text, in units of the last of some places. -/
structure Numeral where
  negative : Bool
  whole : Nat
  fraction : List Char

def digitsValue (ds : List Char) : Nat :=
  ds.foldl (fun n c => n * 10 + (c.toNat - '0'.toNat)) 0

def Numeral.read (cs : List Char) : Numeral × List Char :=
  let cs := cs.dropWhile isGap
  let (negative, cs) := match cs with
    | '-' :: rest => (true, rest)
    | cs => (false, cs)
  let whole := cs.takeWhile Char.isDigit
  match cs.drop whole.length with
  | '.' :: rest =>
    let fraction := rest.takeWhile Char.isDigit
    (⟨negative, digitsValue whole, fraction⟩, rest.drop fraction.length)
  | rest => (⟨negative, digitsValue whole, []⟩, rest)

def Numeral.compare (a b : Numeral) : Ordering :=
  let places := max a.fraction.length b.fraction.length
  let value (n : Numeral) : Int :=
    let ds := n.fraction ++ List.replicate (places - n.fraction.length) '0'
    let v : Int := n.whole * Nat.pow 10 places + digitsValue ds
    if n.negative then -v else v
  Ord.compare (value a) (value b)

def factorRank (cs : List Char) : Nat :=
  match cs with
  | c :: _ =>
    (["kK".toList, ['M'], ['G'], ['T'], ['P'], ['E'], ['Z'], ['Y']].findIdx? fun cs =>
      cs.contains c).elim 0 (· + 1)
  | [] => 0

def monthRank (cs : List Char) : Nat :=
  let name := String.ofList (((cs.dropWhile isGap).take 3).map Char.toUpper)
  (["JAN", "FEB", "MAR", "APR", "MAY", "JUN", "JUL", "AUG", "SEP", "OCT", "NOV",
    "DEC"].findIdx? (· = name)).elim 0 (· + 1)

/-- The sign and the size of a number with an exponent; what is none comes first. -/
def generalValue (cs : List Char) : Option (Bool × Nat × Int) :=
  (readDecimal cs).map fun (negative, n, e, _) => (negative, n, e)

def compareGeneral (a b : Option (Bool × Nat × Int)) : Ordering :=
  match a, b with
  | none, none => .eq
  | none, some _ => .lt
  | some _, none => .gt
  | some (s, m, e), some (t, n, f) =>
    let low := min e f
    let value (negative : Bool) (n : Nat) (e : Int) : Int :=
      let v : Int := n * Nat.pow 10 (e - low).toNat
      if negative then -v else v
    Ord.compare (value s m e) (value t n f)

def compareChars : List Char → List Char → Ordering
  | [], [] => .eq
  | [], _ => .lt
  | _, [] => .gt
  | a :: as, b :: bs => if a < b then .lt else if b < a then .gt else compareChars as bs

def LineOrder.compare (o : LineOrder) (a b : List Char) : Ordering :=
  let result := match o.kind with
    | some 'n' => (Numeral.read a).1.compare (Numeral.read b).1
    | some 'g' => compareGeneral (generalValue a) (generalValue b)
    | some 'h' =>
      let (m, s) := Numeral.read a
      let (n, t) := Numeral.read b
      let rank (n : Numeral) (rest : List Char) : Int :=
        let r : Int := factorRank rest
        if n.whole = 0 && n.fraction.all (· = '0') then 0 else if n.negative then -r else r
      (Ord.compare (rank m s) (rank n t)).then (m.compare n)
    | some 'M' => Ord.compare (monthRank a) (monthRank b)
    | _ =>
      let prepare (cs : List Char) : List Char :=
        let cs := if o.blanks then cs.dropWhile isGap else cs
        let cs := if o.dictionary then cs.filter fun c => isGap c || c.isAlphanum else cs
        let cs := if o.printable then cs.filter isPrintable else cs
        if o.folded then cs.map Char.toUpper else cs
      compareChars (prepare a) (prepare b)
  if o.reversed then result.swap else result

/-- The way of comparing that some letters ask for. -/
def LineOrder.ofLetters (cs : List Char) : LineOrder where
  blanks := cs.contains 'b'
  dictionary := cs.contains 'd'
  folded := cs.contains 'f'
  printable := cs.contains 'i'
  kind := cs.reverse.find? ['n', 'g', 'h', 'M'].contains
  reversed := cs.contains 'r'

/-- A key as it is written: `F[.C][OPTS][,F[.C][OPTS]]`. -/
def Key.read? (s : String) : Option Key :=
  let position (cs : List Char) : Option (Nat × Option Nat × List Char) :=
    let field := cs.takeWhile Char.isDigit
    let rest := cs.drop field.length
    let (char, rest) := match rest with
      | '.' :: more =>
        let ds := more.takeWhile Char.isDigit
        (some (digitsValue ds), more.drop ds.length)
      | rest => (none, rest)
    if field.isEmpty || !rest.all "bdfginhMRrV".toList.contains then none
    else some (digitsValue field, char, rest)
  let (front, back) := match s.splitOn "," with
    | [a] => (a, none)
    | a :: b => (a, some (String.intercalate "," b))
    | [] => ("", none)
  match position front.toList with
  | none => none
  | some (field, char, opts) =>
    let order (cs : List Char) : Option LineOrder :=
      if cs.isEmpty then none else some (.ofLetters cs)
    match back with
    | none => some ⟨field, char.getD 1, none, 0, opts.contains 'b', false, order opts⟩
    | some back =>
      match position back.toList with
      | none => none
      | some (lastField, lastChar, more) =>
        some ⟨field, char.getD 1, some lastField, lastChar.getD 0, opts.contains 'b',
          more.contains 'b', order (opts ++ more)⟩

structure Sorting where
  keys : List Key
  order : LineOrder
  separator : Option Char
  stable : Bool
  unique : Bool

def Sorting.byKeys (s : Sorting) (a b : List Char) : Ordering :=
  if s.keys.isEmpty then s.order.compare a b
  else s.keys.foldl (fun result k =>
    result.then <|
      let order := k.order.getD s.order
      let k := if k.order.isNone && s.order.blanks then
        { k with startBlanks := true, endBlanks := true } else k
      order.compare (k.part s.separator a) (k.part s.separator b)) .eq

/-- How two lines are compared; those with the same keys as a whole. -/
def Sorting.compare (s : Sorting) (a b : List Char) : Ordering :=
  (s.byKeys a b).then <|
    if s.stable || s.unique then .eq
    else if s.order.reversed then (compareChars a b).swap
    else compareChars a b

/-- Lines without those that have the same keys as the one in front. -/
def Sorting.distinct (s : Sorting) : List (List Char) → List (List Char)
  | [] => []
  | l :: rest =>
    match s.distinct rest with
    | [] => [l]
    | m :: more => if s.byKeys l m = .eq then l :: more else l :: m :: more

def Sorting.sorted (s : Sorting) (lines : List (List Char)) : List (List Char) :=
  let sorted := lines.mergeSort fun a b => s.compare a b != .gt
  if s.unique then s.distinct sorted else sorted

/-- The first line that stands behind one that should come later, with its number. -/
def Sorting.disorder? (s : Sorting) (n : Nat) : List (List Char) → Option (Nat × List Char)
  | a :: b :: rest =>
    let wrong := if s.unique then s.byKeys a b != .lt else s.compare a b = .gt
    if wrong then some (n + 1, b) else s.disorder? (n + 1) (b :: rest)
  | _ => none

def sortOptions : List Opt :=
  [⟨'b', ["ignore-leading-blanks"], .nothing⟩, ⟨'d', ["dictionary-order"], .nothing⟩,
    ⟨'f', ["ignore-case"], .nothing⟩, ⟨'g', ["general-numeric-sort"], .nothing⟩,
    ⟨'h', ["human-numeric-sort"], .nothing⟩, ⟨'i', ["ignore-nonprinting"], .nothing⟩,
    ⟨'M', ["month-sort"], .nothing⟩, ⟨'n', ["numeric-sort"], .nothing⟩,
    ⟨'r', ["reverse"], .nothing⟩, ⟨'u', ["unique"], .nothing⟩, ⟨'s', ["stable"], .nothing⟩,
    ⟨'k', ["key"], .argument⟩, ⟨'t', ["field-separator"], .argument⟩,
    ⟨'c', ["check"], .attached⟩, ⟨'C', [], .nothing⟩, ⟨'o', ["output"], .argument⟩,
    ⟨'m', ["merge"], .nothing⟩, ⟨'z', ["zero-terminated"], .nothing⟩,
    ⟨'S', ["buffer-size"], .argument⟩, ⟨'T', ["temporary-directory"], .argument⟩]

def sort : Work Unit := do
  let g ← given (sortOptions.map fun o =>
    if o.letter = 'c' then { o with takes := .nothing } else o)
    true 2
  let keys ← (g.options.filter fun x => x.1 = 'k').mapM fun x => do
    match Key.read? x.2 with
    | none =>
      let ds := x.2.toList.takeWhile Char.isDigit
      if ds.isEmpty then
        fail ("invalid number at field start: invalid count at start of " ++ quote x.2) 2
      else fail ("stray character in field spec: invalid field specification " ++ quote x.2) 2
    | some k =>
      if k.firstField = 0 || k.lastField = some 0 then
        fail ("field number is zero: invalid field specification " ++ quote x.2) 2
      else if k.firstChar = 0 then
        fail ("character offset is zero: invalid field specification " ++ quote x.2) 2
      else pure k
  let separator ← match g.get? 't' with
    | none => pure none
    | some "\\0" => pure (some '\x00')
    | some t =>
      match t.toList with
      | [c] => pure (some c)
      | [] => fail "empty tab" 2
      | _ => fail ("multi-character tab " ++ quote t) 2
  let s : Sorting := {
    keys := keys, order := .ofLetters (g.options.map Prod.fst), separator := separator
    stable := g.has 's', unique := g.has 'u' }
  let names := if g.operands.isEmpty then ["-"] else g.operands
  let ending := if g.has 'z' then '\x00' else '\n'
  let split (cs : List Char) : List (List Char) :=
    match (cs.splitOn ending).reverse with
    | [] :: rest => rest.reverse
    | parts => parts.reverse
  let lines ← names.mapM fun name => do
    match ← contentOrInput name with
    | .ok cs => return split cs
    | .error .directory => fail ("read failed: " ++ quoteName name ++ ": Is a directory") 2
    | .error e => fail ("cannot read: " ++ quoteName name ++ ": " ++ e.text) 2
  if g.has 'c' || g.has 'C' then
    match s.disorder? 1 (lines.headD []) with
    | none => return
    | some (n, line) =>
      if g.has 'c' then
        warn (names.headD "" ++ ":" ++ toString n ++ ": disorder: " ++ String.ofList line)
      setStatus 1
  else
    let text := (s.sorted lines.flatten).flatMap (· ++ [ending])
    match g.get? 'o' with
    | none => out text
    | some path =>
      match ← writeFile path text with
      | .ok () => return
      | .error reason => fail ("open failed: " ++ quoteName path ++ ": " ++ reason) 2

/-- Groups of equal things that stand behind each other, each as one and the others. -/
def groups {α : Type} (same : α → α → Bool) : List α → List (α × List α)
  | [] => []
  | a :: rest =>
    match groups same rest with
    | [] => [(a, [])]
    | (b, others) :: more =>
      if same a b then (a, b :: others) :: more else (a, []) :: (b, others) :: more

def uniq : Work Unit := do
  let g ← given [⟨'c', ["count"], .nothing⟩, ⟨'d', ["repeated"], .nothing⟩,
    ⟨'u', ["unique"], .nothing⟩, ⟨'i', ["ignore-case"], .nothing⟩,
    ⟨'f', ["skip-fields"], .argument⟩, ⟨'s', ["skip-chars"], .argument⟩,
    ⟨'w', ["check-chars"], .argument⟩, ⟨'D', [], .nothing⟩,
    ⟨'z', ["zero-terminated"], .nothing⟩]
  let number (c : Char) (what : String) : Work (Option Nat) := do
    match g.get? c with
    | none => return none
    | some s =>
      match natural? s with
      | some n => return some n
      | none => fail (s ++ ": invalid number of " ++ what)
  let skipFields ← number 'f' "fields to skip"
  let skipChars ← number 's' "bytes to skip"
  let width ← number 'w' "bytes to compare"
  if 2 < g.operands.length then misuse ("extra operand " ++ quote (g.operands.getD 2 ""))
  let key (l : List Char) : List Char :=
    let l := (fromField none (skipFields.getD 0) l).drop (skipChars.getD 0)
    let l := match width with
      | some n => l.take n
      | none => l
    if g.has 'i' then l.map Char.toUpper else l
  let name := g.operands.headD "-"
  let ending := if g.has 'z' then '\x00' else '\n'
  match ← contentOrInput name with
  | .error .directory => fail ("error reading " ++ quote name ++ ": Is a directory")
  | .error e => fail (quoteName name ++ ": " ++ e.text)
  | .ok cs =>
    let lines := match (cs.splitOn ending).reverse with
      | [] :: rest => rest.reverse
      | parts => parts.reverse
    let found := groups (fun a b => key a = key b) lines
    let text := found.flatMap fun (l, others) =>
      let n := others.length + 1
      if (g.has 'd' && n = 1) || (g.has 'u' && 1 < n) || (g.has 'D' && n = 1) then []
      else if g.has 'D' then (l :: others).flatMap (· ++ [ending])
      else (if g.has 'c' then (padLeft 7 (toString n) ++ " ").toList else []) ++ l ++ [ending]
    match g.operands.drop 1 with
    | path :: _ =>
      match ← writeFile path text with
      | .ok () => return
      | .error reason => fail (quoteName path ++ ": " ++ reason)
    | [] => out text

end Disasm.Host.Utility
