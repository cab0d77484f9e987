import Disasm.Host.CharClass

namespace Disasm.Host

inductive Regex where
  | empty
  | char (c : Char)
  | any
  | oneOf (inverted : Bool) (items : List SetItem)
  /-- In front of the first character, and behind the last one. -/
  | start
  | finish
  /-- At an edge of a word: at its start, at its end, at one of them or at none. -/
  | wordStart
  | wordEnd
  | edge (inverted : Bool)
  | seq (a b : Regex)
  | alt (a b : Regex)
  | many (e : Regex) (least : Nat) (most : Option Nat)
  | group (n : Nat) (e : Regex)
  /-- What a group has covered, once more. -/
  | back (n : Nat)

namespace Regex

structure Style where
  /-- Operators stand without backslashes. -/
  extended : Bool := false
  /-- Backslashes are special in sets. -/
  setEscapes : Bool := false

/-- What is still to be read, and the number of groups. -/
structure Source where
  rest : List Char
  groups : Nat := 0
  /-- How many groups are open. -/
  depth : Nat := 0

abbrev Reading := StateT Source (Except String)

def setRest (rest : List Char) : Reading Unit :=
  modify fun s => { s with rest := rest }

def controlOf? (c : Char) : Option Char :=
  [('n', '\n'), ('t', '\t'), ('r', '\r'), ('f', '\x0C'), ('v', '\x0B'), ('a', '\x07')].lookup c

def unmatchedSet : String := "Unmatched [, [^, [:, [., or [="

def upTo (c d : Char) (rest : List Char) : Reading SetItem := do
  setRest rest
  if d < c then throw "Invalid range end"
  return .range c d

/-- A character, and the end of a range that it may start. -/
def range (style : Style) (c : Char) : Reading SetItem := do
  match (← get).rest with
  | '-' :: ']' :: _ => return .range c c
  | '-' :: '[' :: '.' :: d :: '.' :: ']' :: rest => upTo c d rest
  | '-' :: '\\' :: d :: rest =>
    if style.setEscapes then upTo c ((controlOf? d).getD d) rest else upTo c '\\' (d :: rest)
  | '-' :: d :: rest => upTo c d rest
  | _ => return .range c c

/-- A class, or a character that stands for itself, behind an opening bracket and a sign. -/
def namedItem (style : Style) (kind : Char) (rest : List Char) : Reading SetItem := do
  let name := rest.takeWhile (· != kind)
  match rest.drop name.length with
  | _ :: ']' :: behind =>
    setRest behind
    if kind = ':' then
      if (charClasses.lookup (String.ofList name)).isNone then throw "Invalid character class name"
      return .named (String.ofList name)
    else
      match name with
      | [c] => range style c
      | _ => throw "Invalid collation character"
  | _ => throw unmatchedSet

/-- The items of a set up to its closing bracket; one in front is an item. -/
def setItems (style : Style) (done : List SetItem) : Nat → Reading (List SetItem)
  | 0 => throw unmatchedSet
  | fuel + 1 => do
    let rest := (← get).rest
    match rest with
    | [] => throw unmatchedSet
    | c :: rest =>
      setRest rest
      if c = ']' && !done.isEmpty then return done.reverse
      let item ← match c, rest with
        | '[', kind :: more =>
          if kind = ':' || kind = '=' || kind = '.' then namedItem style kind more
          else range style '['
        | '\\', d :: more =>
          if style.setEscapes then do
            setRest more
            range style ((controlOf? d).getD d)
          else range style '\\'
        | c, _ => range style c
      setItems style (item :: done) fuel

def set (style : Style) : Reading Regex := do
  let rest := (← get).rest
  match rest with
  | [] | ['^'] => throw "Invalid regular expression"
  | '^' :: more =>
    setRest more
    return .oneOf true (← setItems style [] (rest.length + 1))
  | _ => return .oneOf false (← setItems style [] (rest.length + 1))

def wordItems : List SetItem := [.named "alnum", .range '_' '_']

/-- What a letter stands for behind a backslash. -/
def escape? (c : Char) : Option Regex :=
  match c with
  | 'w' => some (.oneOf false wordItems)
  | 'W' => some (.oneOf true wordItems)
  | 's' => some (.oneOf false [.named "space"])
  | 'S' => some (.oneOf true [.named "space"])
  | 'b' => some (.edge false)
  | 'B' => some (.edge true)
  | '<' => some .wordStart
  | '>' => some .wordEnd
  | '\x60' => some .start
  | '\'' => some .finish
  | _ => none

/-- A number of repetitions, behind its opening brace: `n}`, `n,}`, `,m}` or `n,m}`. -/
def bounds? (extended : Bool) (cs : List Char) : Option (Nat × Option Nat × List Char) :=
  let number (ds : List Char) : Nat := ds.foldl (fun n c => n * 10 + (c.toNat - '0'.toNat)) 0
  let low := cs.takeWhile Char.isDigit
  let close (least : Nat) (most : Option Nat) (rest : List Char) :
      Option (Nat × Option Nat × List Char) :=
    match rest with
    | '}' :: more => if extended then some (least, most, more) else none
    | '\\' :: '}' :: more => if extended then none else some (least, most, more)
    | _ => none
  match cs.drop low.length with
  | ',' :: rest =>
    let high := rest.takeWhile Char.isDigit
    close (number low) (if high.isEmpty then none else some (number high)) (rest.drop high.length)
  | rest => if low.isEmpty then none else close (number low) (some (number low)) rest

/-- An operator that repeats what stands in front of it. -/
def repetition? (style : Style) (cs : List Char) : Option (Nat × Option Nat × List Char) :=
  match cs with
  | '*' :: rest => some (0, none, rest)
  | '+' :: rest => if style.extended then some (1, none, rest) else none
  | '?' :: rest => if style.extended then some (0, some 1, rest) else none
  | '\x7b' :: rest => if style.extended then bounds? true rest else none
  | '\\' :: '+' :: rest => if style.extended then none else some (1, none, rest)
  | '\\' :: '?' :: rest => if style.extended then none else some (0, some 1, rest)
  | '\\' :: '\x7b' :: rest => if style.extended then none else bounds? false rest
  | _ => none

def endsBranch (style : Style) (depth : Nat) (cs : List Char) : Bool :=
  match cs with
  | [] => true
  | '|' :: _ => style.extended
  | ')' :: _ => style.extended && 0 < depth
  | '\\' :: '|' :: _ => !style.extended
  | '\\' :: ')' :: _ => !style.extended
  | _ => false

mutual

def alternatives (style : Style) : Nat → Reading Regex
  | 0 => throw "Regular expression too big"
  | fuel + 1 => do
    let a ← branch style .empty true fuel
    match style.extended, (← get).rest with
    | true, '|' :: rest =>
      setRest rest
      return .alt a (← alternatives style fuel)
    | false, '\\' :: '|' :: rest =>
      setRest rest
      return .alt a (← alternatives style fuel)
    | _, _ => return a
termination_by structural fuel => fuel

def branch (style : Style) (done : Regex) (first : Bool) : Nat → Reading Regex
  | 0 => throw "Regular expression too big"
  | fuel + 1 => do
    let s ← get
    if endsBranch style s.depth s.rest then return done
    let a ← atom style first fuel
    let a ← repeated style a fuel
    branch style (match done with
      | .empty => a
      | done => .seq done a) (first && match a with
      | .start => !style.extended
      | _ => false) fuel
termination_by structural fuel => fuel

def repeated (style : Style) (a : Regex) : Nat → Reading Regex
  | 0 => throw "Regular expression too big"
  | fuel + 1 => do
    match a, style.extended with
    | .start, false => return a
    | _, _ =>
      let rest := (← get).rest
      match repetition? style rest with
      | some (least, most, rest) =>
        if most.any (· < least) then throw "Invalid content of \\\x7b\\\x7d"
        if 32767 < least then throw "Regular expression too big"
        setRest rest
        repeated style (.many a least most) fuel
      | none =>
        match style.extended, rest with
        | false, '\\' :: '\x7b' :: more =>
          throw (if more.contains '}' then "Invalid content of \\\x7b\\\x7d"
            else "Unmatched \\\x7b")
        | _, _ => return a
termination_by structural fuel => fuel

def atom (style : Style) (first : Bool) : Nat → Reading Regex
  | 0 => throw "Regular expression too big"
  | fuel + 1 => do
    let s ← get
    match s.rest with
    | [] => return .empty
    | '[' :: rest =>
      setRest rest
      set style
    | '.' :: rest =>
      setRest rest
      return .any
    | '\\' :: [] => throw "Trailing backslash"
    | '\\' :: c :: rest =>
      setRest rest
      if c = '(' && !style.extended then grouped style fuel
      else if c = '\x7b' && !style.extended && first then
        throw "Invalid preceding regular expression"
      else if c.isDigit && c != '0' then
        let n := c.toNat - '0'.toNat
        if s.groups < n then throw "Invalid back reference"
        return .back n
      else
        match escape? c with
        | some e => return e
        | none => return .char ((if c = 'n' then some '\n' else if style.setEscapes then
            controlOf? c else none).getD c)
    | '(' :: rest =>
      setRest rest
      if style.extended then grouped style fuel else return .char '('
    | '^' :: rest =>
      setRest rest
      return if style.extended || first then .start else .char '^'
    | '$' :: rest =>
      setRest rest
      return if style.extended || endsBranch style s.depth rest then .finish else .char '$'
    | c :: rest =>
      setRest rest
      if style.extended && first && (c = '*' || c = '+' || c = '?') then return .empty
      return .char c
termination_by structural fuel => fuel

def grouped (style : Style) : Nat → Reading Regex
  | 0 => throw "Regular expression too big"
  | fuel + 1 => do
    let n := (← get).groups + 1
    modify fun s => { s with groups := n, depth := s.depth + 1 }
    let e ← alternatives style fuel
    modify fun s => { s with depth := s.depth - 1 }
    match style.extended, (← get).rest with
    | true, ')' :: rest =>
      setRest rest
      return .group n e
    | false, '\\' :: ')' :: rest =>
      setRest rest
      return .group n e
    | _, _ => throw "Unmatched ( or \\("
termination_by structural fuel => fuel

end

def ofText (style : Style) (cs : List Char) : Except String Regex := do
  let (e, s) ← (alternatives style (8 * cs.length + 16)).run ⟨cs, 0, 0⟩
  if s.rest.isEmpty then return e else throw "Unmatched ) or \\)"

structure Subject where
  text : Array Char
  ignoreCase : Bool := false
  /-- Whether the text starts at the start of a line. -/
  atStart : Bool := true

def isWordChar (c : Char) : Bool :=
  c.isAlphanum || c = '_'

namespace Subject

def wordBefore (s : Subject) (p : Nat) : Bool :=
  0 < p && (s.text[p - 1]?).any isWordChar

def wordBehind (s : Subject) (p : Nat) : Bool :=
  (s.text[p]?).any isWordChar

def equal (s : Subject) (a b : Char) : Bool :=
  a = b || (s.ignoreCase && a.toLower = b.toLower)

end Subject

/-- Whether an expression for one character covers one. -/
def coversChar (s : Subject) (e : Regex) (c : Char) : Bool :=
  match e with
  | .char d => s.equal c d
  | .any => true
  | .oneOf inverted items =>
    (items.any (SetItem.covers c) || (s.ignoreCase &&
      (items.any (SetItem.covers c.toLower) || items.any (SetItem.covers c.toUpper)))) != inverted
  | _ => false

/-- Whether an expression without width holds at a position. -/
def holdsAt (s : Subject) (p : Nat) : Regex → Bool
  | .empty => true
  | .start => p = 0 && s.atStart
  | .finish => p = s.text.size
  | .wordStart => !s.wordBefore p && s.wordBehind p
  | .wordEnd => s.wordBefore p && !s.wordBehind p
  | .edge inverted => (s.wordBefore p != s.wordBehind p) != inverted
  | _ => false

def union : List Nat → List Nat → List Nat
  | [], qs => qs
  | ps, [] => ps
  | p :: ps, q :: qs =>
    if p < q then p :: union ps (q :: qs)
    else if q < p then q :: union (p :: ps) qs
    else p :: union ps qs

/-- What is in an ascending list and not in another one. -/
def without : List Nat → List Nat → List Nat
  | [], _ => []
  | ps, [] => ps
  | p :: ps, q :: qs =>
    if p < q then p :: without ps (q :: qs)
    else if q < p then without (p :: ps) qs
    else without ps qs

/-- All positions that are reached by any number of steps. -/
def closure (step : List Nat → List Nat) (reached : List Nat) : Nat → List Nat → List Nat
  | 0, _ | _, [] => reached
  | rounds + 1, frontier =>
    let new := without (step frontier) reached
    closure step (union reached new) rounds new

/-- All positions behind runs of characters that pass a test, for ascending positions. -/
def runs (text : Array Char) (test : Char → Bool) (least : Nat) : Nat → List Nat → List Nat
  | _, [] => []
  | covered, p :: ps =>
    let length := runLength text test p (text.size - p)
    let first := max covered (p + least)
    let last := p + length
    if first ≤ last then
      (List.range (last + 1 - first)).map (first + ·) ++ runs text test least (last + 1) ps
    else runs text test least covered ps
where
  runLength (text : Array Char) (test : Char → Bool) (p : Nat) : Nat → Nat
    | 0 => 0
    | n + 1 => if (text[p]?).any test then runLength text test (p + 1) n + 1 else 0

/-- The positions behind all matches from some positions, both in ascending order. Only for
expressions without references back. -/
def ends (s : Subject) : Regex → List Nat → List Nat
  | .seq a b, ps => ends s b (ends s a ps)
  | .alt a b, ps => union (ends s a ps) (ends s b ps)
  | .group _ e, ps => ends s e ps
  | .many e least most, ps =>
    match e, most with
    | .char c, none => runs s.text (coversChar s (.char c)) least 0 ps
    | .any, none => runs s.text (fun _ => true) least 0 ps
    | .oneOf inverted items, none => runs s.text (coversChar s (.oneOf inverted items)) least 0 ps
    | e, most =>
      let step := ends s e
      let start := (List.range least).foldl (fun ps _ => step ps) ps
      closure step start (match most with
        | some m => m - least
        | none => s.text.size + 1) start
  | .back _, _ => []
  | .char c, ps => (ps.filter fun p => (s.text[p]?).any (coversChar s (.char c))).map (· + 1)
  | .any, ps => (ps.filter (· < s.text.size)).map (· + 1)
  | .oneOf inverted items, ps =>
    (ps.filter fun p => (s.text[p]?).any (coversChar s (.oneOf inverted items))).map (· + 1)
  | e, ps => ps.filter fun p => holdsAt s p e

/-- What groups have covered, the last first: first position and the one behind. -/
abbrev Groups := List (Nat × Nat × Nat)

def tryMany (step : (Nat → Groups → Option Groups) → Nat → Groups → Option Groups) (least : Nat)
    (most : Option Nat) (next : Nat → Groups → Option Groups) :
    Nat → Nat → Nat → Groups → Option Groups
  | 0, _, p, groups => next p groups
  | fuel + 1, count, p, groups =>
    let more := if most.all (count < ·) then
        step (fun q groups =>
          if q = p && least ≤ count then none
          else tryMany step least most next fuel (count + 1) q groups) p groups
      else none
    match more with
    | some found => some found
    | none => if least ≤ count then next p groups else none

/-- Tries all ways to match from a position, until what follows is content. -/
def attempt (s : Subject) : Regex → (Nat → Groups → Option Groups) → Nat → Groups → Option Groups
  | .seq a b, next => attempt s a (attempt s b next)
  | .alt a b, next => fun p groups =>
    match attempt s a next p groups with
    | some found => some found
    | none => attempt s b next p groups
  | .group n e, next => fun p groups =>
    attempt s e (fun q groups => next q ((n, p, q) :: groups)) p groups
  | .many e least most, next => fun p groups =>
    tryMany (attempt s e) least most next (s.text.size + least + 1) 0 p groups
  | .back n, next => fun p groups =>
    match groups.lookup n with
    | none => none
    | some (first, last) =>
      let length := last - first
      if p + length ≤ s.text.size && (List.range length).all fun k =>
          match s.text[first + k]?, s.text[p + k]? with
          | some a, some b => s.equal a b
          | _, _ => false
      then next (p + length) groups
      else none
  | .char c, next => fun p groups =>
    if (s.text[p]?).any (coversChar s (.char c)) then next (p + 1) groups else none
  | .any, next => fun p groups => if p < s.text.size then next (p + 1) groups else none
  | .oneOf inverted items, next => fun p groups =>
    if (s.text[p]?).any (coversChar s (.oneOf inverted items)) then next (p + 1) groups else none
  | e, next => fun p groups => if holdsAt s p e then next p groups else none

def refersBack : Regex → Bool
  | .seq a b | .alt a b => a.refersBack || b.refersBack
  | .group _ e | .many e _ _ => e.refersBack
  | .back _ => true
  | _ => false

/-- The end of the longest match from a position. -/
def longest? (s : Subject) (e : Regex) (p : Nat) : Option Nat :=
  if e.refersBack then
    ((List.range (s.text.size + 1 - p)).reverse.map (p + ·)).find? fun q =>
      (attempt s e (fun r groups => if r = q then some groups else none) p []).isSome
  else (ends s e [p]).getLast?

/-- A match: where it starts and ends, and what the groups have covered. -/
structure Found where
  first : Nat
  last : Nat
  groups : Groups := []

def find? (s : Subject) (e : Regex) (withGroups : Bool) : Nat → Nat → Option Found
  | 0, _ => none
  | fuel + 1, p =>
    match longest? s e p with
    | some q =>
      some ⟨p, q, if withGroups then
        (attempt s e (fun r groups => if r = q then some groups else none) p []).getD [] else []⟩
    | none => find? s e withGroups fuel (p + 1)

/-- The first match in a text from a position on. -/
def search (s : Subject) (e : Regex) (start : Nat) (withGroups : Bool := false) : Option Found :=
  find? s e withGroups (s.text.size + 1 - start) start

/-- Whether an expression has a match in a text. -/
def isIn (e : Regex) (cs : List Char) (ignoreCase : Bool := false) : Bool :=
  (search { text := cs.toArray, ignoreCase := ignoreCase } e 0).isSome

end Regex

end Disasm.Host
