import Disasm.Host.Shell.Reader

namespace Disasm.Host.Shell.Parser

/-- Where a part of a word stands, which decides what ends it and what is special in it. -/
inductive Within where
  | plain
  /-- Between double quotes. -/
  | quotes
  /-- Between braces, behind the name of a parameter. -/
  | braces
  /-- The same between double quotes. -/
  | quotedBraces
  | document
  /-- In an expression, behind so many open brackets. -/
  | expression (depth : Nat)
  deriving DecidableEq

def Within.isQuoted : Within → Bool
  | .plain | .braces => false
  | _ => true

/-- Whether a backslash is special in front of a character. -/
def Within.escapes (w : Within) (c : Char) : Bool :=
  !w.isQuoted || c = '\\' || c = '`' || c = '$' ||
    match w with
    | .document => false
    | .quotedBraces => c = '"' || c = '}'
    | _ => c = '"'

def isMeta (c : Char) : Bool :=
  [' ', '\t', '\n', '&', '|', ';', '(', ')', '<', '>'].contains c

def specialParameters : List Char := ['@', '*', '#', '?', '-', '$', '!']

inductive ListKind where
  /-- On a line of its own. -/
  | line
  /-- Between reserved words, with one command at least. -/
  | body
  /-- In a place where it may be empty. -/
  | possible
  deriving DecidableEq

def assignment? : Word → Option (String × Word)
  | .text s false :: rest =>
    match splitAssignment s.toList with
    | (name, some value) =>
      if isName name then
        some (name, if value.isEmpty then rest else .text (String.ofList value) false :: rest)
      else none
    | _ => none
  | _ => none

/-- The commands of the shell itself that no function may be called. -/
def isSpecialBuiltin (name : String) : Bool :=
  [".", ":", "break", "continue", "eval", "exec", "exit", "export", "readonly", "return", "set",
    "shift", "times", "trap", "unset"].contains name

def inside {α : Type} (text : List Char) (p : Parser α) : Parser α := do
  let outer ← get
  set { outer with rest := text, pushed := none, awaited := [] }
  let a ← p
  modify fun r =>
    { r with rest := outer.rest, line := outer.line, pushed := outer.pushed,
             awaited := outer.awaited }
  return a

mutual

/-- The parts of a word behind those in `done`, which are in reverse, up to its end. -/
def parts (w : Within) (done : Word) : Nat → Parser Word
  | 0 => fail "word unexpected"
  | fuel + 1 => do
    match (← get).rest with
    | [] =>
      match w with
      | .plain | .document => return done.reverse
      | .quotes | .quotedBraces => fail "Unterminated quoted string"
      | .braces => fail "Missing '\x7d'"
      | .expression _ => fail "Missing '))'"
    | '\\' :: '\n' :: _ => drop 2; parts w done fuel
    | '\\' :: c :: _ =>
      drop 2
      if w.escapes c then parts w (addText done (String.ofList [c]) true) fuel
      else parts w (addText done (String.ofList ['\\', c]) true) fuel
    | '$' :: _ =>
      drop 1
      let part ← dollar w.isQuoted fuel
      match part with
      | .text s q => parts w (addText done s q) fuel
      | part => parts w (part :: done) fuel
    | '`' :: _ =>
      drop 1
      let text ← backquoted w.isQuoted [] (← get).rest.length.succ
      let body ← inside text (list .possible fuel)
      parts w (.output body w.isQuoted :: done) fuel
    | c :: rest =>
      let literal : Parser Word := do
        drop 1
        parts w (addText done (String.ofList [c]) w.isQuoted) fuel
      match w with
      | .plain =>
        if c = '\'' then singleQuotes w done fuel
        else if c = '"' then doubleQuotes w done fuel
        else if isMeta c then return done.reverse
        else literal
      | .quotes => if c = '"' then drop 1; return done.reverse else literal
      | .braces =>
        if c = '\'' then singleQuotes w done fuel
        else if c = '"' then doubleQuotes w done fuel
        else if c = '}' then drop 1; return done.reverse
        else literal
      | .quotedBraces =>
        if c = '"' then doubleQuotes w done fuel
        else if c = '}' then drop 1; return done.reverse
        else literal
      | .document => literal
      | .expression depth =>
        if c = '(' then
          drop 1
          parts (.expression (depth + 1)) (addText done "(" true) fuel
        else if c = ')' then
          if depth > 0 then
            drop 1
            parts (.expression (depth - 1)) (addText done ")" true) fuel
          else match rest with
            | ')' :: _ => drop 2; return done.reverse
            | _ => literal
        else if c = '"' then drop 1; parts w done fuel
        else literal
termination_by structural fuel => fuel

def singleQuotes (w : Within) (done : Word) : Nat → Parser Word
  | 0 => fail "word unexpected"
  | fuel + 1 => do
    drop 1
    let cs ← singleQuoted
    parts w (addText done (String.ofList cs) true) fuel
termination_by structural fuel => fuel

def doubleQuotes (w : Within) (done : Word) : Nat → Parser Word
  | 0 => fail "word unexpected"
  | fuel + 1 => do
    drop 1
    let inner ← parts .quotes [] fuel
    parts w (inner.reverse ++ addText done "" true) fuel
termination_by structural fuel => fuel

/-- What a dollar sign stands for; it has been taken. -/
def dollar (quoted : Bool) : Nat → Parser Part
  | 0 => fail "word unexpected"
  | fuel + 1 => do
    match ← look with
    | some '(' =>
      drop 1
      match ← look with
      | some '(' =>
        drop 1
        return .arithmetic (← parts (.expression 0) [] fuel) quoted
      | _ =>
        let outer := (← get).awaited
        modify fun r => { r with awaited := [] }
        let body ← list .possible fuel
        match ← token fuel with
        | .sign ")" =>
          modify fun r => { r with awaited := outer }
          return .output body quoted
        | t => unexpected t ")"
    | some '\x7b' => drop 1; braced quoted fuel
    | some c =>
      if isNameStart c then
        return .parameter (String.ofList (← takeWhile isNameChar)) .value quoted
      else if c.isDigit || specialParameters.contains c then
        drop 1
        return .parameter (String.ofList [c]) .value quoted
      else return .text "$" quoted
    | none => return .text "$" quoted
termination_by structural fuel => fuel

def braced (quoted : Bool) : Nat → Parser Part
  | 0 => fail "word unexpected"
  | fuel + 1 => do
    match (← get).rest with
    | '#' :: '}' :: _ => drop 2; return .parameter "#" .value quoted
    | '#' :: c :: rest =>
      if isNameChar c then
        drop 1
        let name := String.ofList (← takeWhile isNameChar)
        match ← look with
        | some '}' => drop 1; return .parameter name .length quoted
        | _ => bad quoted fuel
      else if specialParameters.contains c && rest.head? = some '}' then
        drop 3
        return .parameter (String.ofList [c]) .length quoted
      else
        drop 1
        form "#" quoted fuel
    | c :: _ =>
      if isNameStart c then
        let name := String.ofList (← takeWhile isNameChar)
        form name quoted fuel
      else if c.isDigit then
        let name := String.ofList (← takeWhile Char.isDigit)
        form name quoted fuel
      else if specialParameters.contains c then
        drop 1
        form (String.ofList [c]) quoted fuel
      else bad quoted fuel
    | [] => bad quoted fuel
termination_by structural fuel => fuel

def form (name : String) (quoted : Bool) : Nat → Parser Part
  | 0 => fail "word unexpected"
  | fuel + 1 => do
    let within : Within := if quoted then .quotedBraces else .braces
    let choose (orEmpty : Bool) (c : Char) (w : Word) : Form :=
      match c with
      | '-' => .usual orEmpty w
      | '=' => .assigned orEmpty w
      | '?' => .demanded orEmpty w
      | _ => .instead orEmpty w
    match (← get).rest with
    | '}' :: _ => drop 1; return .parameter name .value quoted
    | ':' :: c :: _ =>
      if ['-', '=', '?', '+'].contains c then
        drop 2
        return .parameter name (choose true c (← parts within [] fuel)) quoted
      else bad quoted fuel
    | '%' :: '%' :: _ =>
      drop 2
      return .parameter name (.withoutBack true (← parts .braces [] fuel)) quoted
    | '%' :: _ =>
      drop 1
      return .parameter name (.withoutBack false (← parts .braces [] fuel)) quoted
    | '#' :: '#' :: _ =>
      drop 2
      return .parameter name (.withoutFront true (← parts .braces [] fuel)) quoted
    | '#' :: _ =>
      drop 1
      return .parameter name (.withoutFront false (← parts .braces [] fuel)) quoted
    | c :: _ =>
      if ['-', '=', '?', '+'].contains c then
        drop 1
        return .parameter name (choose false c (← parts within [] fuel)) quoted
      else bad quoted fuel
    | [] => bad quoted fuel
termination_by structural fuel => fuel

/-- Something between braces that is no parameter. -/
def bad (quoted : Bool) : Nat → Parser Part
  | 0 => fail "word unexpected"
  | fuel + 1 => do
    let _ ← parts (if quoted then .quotedBraces else .braces) [] fuel
    return .parameter "" .bad quoted
termination_by structural fuel => fuel

def readDocuments : Nat → Parser Unit
  | 0 => pure ()
  | fuel + 1 => do
    match (← get).awaited with
    | [] => pure ()
    | a :: rest =>
      modify fun r => { r with awaited := rest }
      let text ← documentLines a [] (← get).rest.length.succ
      let body ←
        if a.quoted then pure [.text (String.ofList text) true]
        else inside text (parts .document [] fuel)
      modify fun r => { r with documents := (a.number, body) :: r.documents }
      readDocuments fuel
termination_by structural fuel => fuel

def token : Nat → Parser Token
  | 0 => fail "word unexpected"
  | fuel + 1 => do
    let r ← get
    match r.pushed with
    | some t =>
      set { r with pushed := none }
      return t
    | none =>
      skipBlanks r.rest.length.succ
      match (← get).rest with
      | [] =>
        readDocuments fuel
        return .finish
      | '\n' :: _ =>
        drop 1
        readDocuments fuel
        return .newline
      | d :: c :: _ =>
        if d.isDigit && (c = '<' || c = '>') then
          drop 1
          match ← firstSign? redirections with
          | some s => return .redirect (d.toNat - '0'.toNat) s
          | none => fail "word unexpected"
        else plainToken fuel
      | _ => plainToken fuel
termination_by structural fuel => fuel

/-- A token that does not start with the number of a descriptor. -/
def plainToken : Nat → Parser Token
  | 0 => fail "word unexpected"
  | fuel + 1 => do
    match ← firstSign? controls with
    | some s => return .sign s
    | none =>
      match ← firstSign? redirections with
      | some s => return .redirect (if s.startsWith "<" then 0 else 1) s
      | none => return .word (← parts .plain [] fuel)
termination_by structural fuel => fuel

def peek : Nat → Parser Token
  | 0 => fail "word unexpected"
  | fuel + 1 => do
    let t ← token fuel
    modify fun r => { r with pushed := some t }
    return t
termination_by structural fuel => fuel

def skipNewlines : Nat → Parser Unit
  | 0 => pure ()
  | fuel + 1 => do
    match ← peek fuel with
    | .newline =>
      let _ ← token fuel
      skipNewlines fuel
    | _ => pure ()
termination_by structural fuel => fuel

/-- Takes a reserved word that has to stand here. -/
def expect (s : String) : Nat → Parser Unit
  | 0 => fail "word unexpected"
  | fuel + 1 => do
    let t ← token fuel
    if t.reserved? = some s then pure () else unexpected t s
termination_by structural fuel => fuel

def list (kind : ListKind) : Nat → Parser Command
  | 0 => fail "word unexpected"
  | fuel + 1 => listBehind kind [] fuel
termination_by structural fuel => fuel

/-- A list of commands behind those in `done`, which are in reverse. -/
def listBehind (kind : ListKind) (done : List Command) : Nat → Parser Command
  | 0 => fail "word unexpected"
  | fuel + 1 => do
    let all (cs : List Command) : Command :=
      match cs with
      | [c] => c
      | cs => .sequence cs.reverse
    if kind != .line then skipNewlines fuel
    let t ← peek fuel
    let ended : Bool := match t with
      | .finish => true
      | .newline => kind = .line
      | t => t.isCloser && (kind = .possible || (kind = .body && !done.isEmpty))
    if ended then
      match t with
      | .newline => let _ ← token fuel
      | _ => pure ()
      return all done
    let c ← chain fuel
    match ← peek fuel with
    | .finish => return all (c :: done)
    | .newline => listBehind kind (c :: done) fuel
    | .sign ";" =>
      let _ ← token fuel
      listBehind kind (c :: done) fuel
    | .sign "&" =>
      let _ ← token fuel
      listBehind kind (.background c :: done) fuel
    | t => if kind = .line then unexpected t else return all (c :: done)
termination_by structural fuel => fuel

/-- Commands joined by `&&` and `||`, from left to right. -/
def chain : Nat → Parser Command
  | 0 => fail "word unexpected"
  | fuel + 1 => do
    let c ← pipeline fuel
    links c fuel
termination_by structural fuel => fuel

def links (first : Command) : Nat → Parser Command
  | 0 => fail "word unexpected"
  | fuel + 1 => do
    match ← peek fuel with
    | .sign "&&" =>
      let _ ← token fuel
      skipNewlines fuel
      let c ← pipeline fuel
      links (.both first c) fuel
    | .sign "||" =>
      let _ ← token fuel
      skipNewlines fuel
      let c ← pipeline fuel
      links (.either first c) fuel
    | _ => return first
termination_by structural fuel => fuel

/-- Commands joined by `|`. -/
def pipeline : Nat → Parser Command
  | 0 => fail "word unexpected"
  | fuel + 1 => do
    let t ← peek fuel
    let inverted := t.reserved? = some "!"
    if inverted then
      let _ ← token fuel
    let first ← command fuel
    let c ← pipes [first] fuel
    return if inverted then .inverse c else c
termination_by structural fuel => fuel

def pipes (done : List Command) : Nat → Parser Command
  | 0 => fail "word unexpected"
  | fuel + 1 => do
    match ← peek fuel with
    | .sign "|" =>
      let _ ← token fuel
      skipNewlines fuel
      let c ← command fuel
      pipes (c :: done) fuel
    | _ => return match done with
      | [c] => c
      | cs => .pipe cs.reverse
termination_by structural fuel => fuel

def command : Nat → Parser Command
  | 0 => fail "word unexpected"
  | fuel + 1 => do
    let line := (← get).line
    let t ← token fuel
    match t with
    | .sign "(" =>
      let body ← list .body fuel
      match ← token fuel with
      | .sign ")" => redirected line (.isolated line body) [] fuel
      | t => unexpected t ")"
    | .redirect .. =>
      modify fun r => { r with pushed := some t }
      simple line [] [] [] fuel
    | .word _ =>
      match t.reserved? with
      | some "if" =>
        let c ← branch fuel
        redirected line c [] fuel
      | some "while" | some "until" =>
        let condition ← list .body fuel
        expect "do" fuel
        let body ← list .body fuel
        expect "done" fuel
        redirected line (.loop (t.reserved? = some "while") condition body) [] fuel
      | some "for" =>
        let c ← each line fuel
        redirected line c [] fuel
      | some "case" =>
        let c ← choice line fuel
        redirected line c [] fuel
      | some "\x7b" =>
        let body ← list .body fuel
        expect "\x7d" fuel
        redirected line body [] fuel
      | some _ => unexpected t
      | none =>
        if ← replaceAlias t then command fuel
        else
          modify fun r => { r with pushed := some t }
          simple line [] [] [] fuel
    | t => unexpected t
termination_by structural fuel => fuel

/-- The part of a branch behind `if` or `elif`. -/
def branch : Nat → Parser Command
  | 0 => fail "word unexpected"
  | fuel + 1 => do
    let condition ← list .body fuel
    expect "then" fuel
    let good ← list .body fuel
    let t ← token fuel
    match t.reserved? with
    | some "elif" => return .branch condition good (← branch fuel)
    | some "else" =>
      let bad ← list .body fuel
      expect "fi" fuel
      return .branch condition good bad
    | some "fi" => return .branch condition good (.sequence [])
    | _ => unexpected t "fi"
termination_by structural fuel => fuel

/-- A loop over values, behind `for`. -/
def each (line : Nat) : Nat → Parser Command
  | 0 => fail "word unexpected"
  | fuel + 1 => do
    match ← token fuel with
    | .word [.text name false] =>
      if !isName name then fail "Bad for loop variable"
      skipNewlines fuel
      let t ← peek fuel
      let words ←
        if t.reserved? = some "in" then do
          let _ ← token fuel
          let words ← wordList [] fuel
          match ← token fuel with
          | .newline | .sign ";" => pure words
          | t => unexpected t
        else do
          match t with
          | .sign ";" =>
            let _ ← token fuel
          | _ => pure ()
          pure [[.parameter "@" .value true]]
      skipNewlines fuel
      expect "do" fuel
      let body ← list .body fuel
      expect "done" fuel
      return .each line name words body
    | _ => fail "Bad for loop variable"
termination_by structural fuel => fuel

def wordList (done : List Word) : Nat → Parser (List Word)
  | 0 => fail "word unexpected"
  | fuel + 1 => do
    match ← peek fuel with
    | .word w =>
      let _ ← token fuel
      wordList (w :: done) fuel
    | _ => return done.reverse
termination_by structural fuel => fuel

/-- A choice by patterns, behind `case`. -/
def choice (line : Nat) : Nat → Parser Command
  | 0 => fail "word unexpected"
  | fuel + 1 => do
    match ← token fuel with
    | .word subject =>
      skipNewlines fuel
      expect "in" fuel
      let cases ← choices [] fuel
      return .choice line subject cases
    | t => fail (t.title ++ " unexpected (expecting word)")
termination_by structural fuel => fuel

def choices (done : List (List Word × Command)) : Nat → Parser (List (List Word × Command))
  | 0 => fail "word unexpected"
  | fuel + 1 => do
    skipNewlines fuel
    let t ← token fuel
    if t.reserved? = some "esac" then return done.reverse
    let first ← match t with
      | .sign "(" => token fuel
      | t => pure t
    let patterns ← patternList first [] fuel
    let body ← list .possible fuel
    skipNewlines fuel
    let t ← token fuel
    match t with
    | .sign ";;" => choices ((patterns, body) :: done) fuel
    | _ =>
      if t.reserved? = some "esac" then return ((patterns, body) :: done).reverse
      else unexpected t ";;"
termination_by structural fuel => fuel

/-- Patterns with bars between them, up to the closing bracket. -/
def patternList (first : Token) (done : List Word) : Nat → Parser (List Word)
  | 0 => fail "word unexpected"
  | fuel + 1 => do
    let w : Word := match first with
      | .word w => w
      | _ => []
    match ← token fuel with
    | .sign "|" =>
      let t ← token fuel
      patternList t (w :: done) fuel
    | .sign ")" => return (w :: done).reverse
    | t => unexpected t ")"
termination_by structural fuel => fuel

def redirected (line : Nat) (c : Command) (done : List Redirection) : Nat → Parser Command
  | 0 => fail "word unexpected"
  | fuel + 1 => do
    match ← peek fuel with
    | .redirect descriptor sign =>
      let _ ← token fuel
      let r ← redirection descriptor sign fuel
      redirected line c (r :: done) fuel
    | _ => return if done.isEmpty then c else .redirected line c done.reverse
termination_by structural fuel => fuel

def redirection (descriptor : Nat) (sign : String) : Nat → Parser Redirection
  | 0 => fail "word unexpected"
  | fuel + 1 => do
    if sign.startsWith "<<" then
      skipBlanks (← get).rest.length.succ
      let (d, quoted) ← delimiter [] false (← get).rest.length.succ
      if d.isEmpty && !quoted then
        let t ← token fuel
        unexpected t
      else
        let r ← get
        let a : Awaited := ⟨r.count, d, quoted, sign = "<<-"⟩
        set { r with awaited := r.awaited ++ [a], count := r.count + 1 }
        return .mk descriptor (.document r.count)
    else
      match ← token fuel with
      | .word w =>
        return .mk descriptor (match sign with
          | "<" => .read w
          | ">>" => .append w
          | "<>" => .both w
          | ">|" => .overwrite w
          | "<&" | ">&" => .same w
          | _ => .write w)
      | t => unexpected t
termination_by structural fuel => fuel

/-- A simple command behind what is given, all of it in reverse. -/
def simple (line : Nat) (assignments : List (String × Word)) (words : List Word)
    (redirections : List Redirection) : Nat → Parser Command
  | 0 => fail "word unexpected"
  | fuel + 1 => do
    match ← peek fuel with
    | .redirect descriptor sign =>
      let _ ← token fuel
      let r ← redirection descriptor sign fuel
      simple line assignments words (r :: redirections) fuel
    | .word w =>
      let t ← token fuel
      let continued ← isContinued
      if ← (if words.isEmpty || continued then replaceAlias t else pure false) then
        simple line assignments words redirections fuel
      else
        match if words.isEmpty then assignment? w else none with
        | some a => simple line (a :: assignments) words redirections fuel
        | none => simple line assignments (w :: words) redirections fuel
    | .sign "(" =>
      match words, assignments, redirections with
      | [w], [], [] =>
        let _ ← token fuel
        match ← token fuel with
        | .sign ")" =>
          match w with
          | [.text name false] =>
            if !isName name || isSpecialBuiltin name then fail "Bad function name"
            skipNewlines fuel
            return .define name (← command fuel)
          | _ => fail "Bad function name"
        | .word _ => fail "word unexpected (expecting \")\")"
        | t => unexpected t ")"
      | _, _, _ => return .simple line assignments.reverse words.reverse redirections.reverse
    | _ => return .simple line assignments.reverse words.reverse redirections.reverse
termination_by structural fuel => fuel

end

/-- The next line of commands of a script, if there is one, and what is left of the script. -/
def next (r : Reader) : Except SyntaxError (Option Command × Reader) :=
  let texts := r.aliases.foldl (fun n x => n + x.2.length) 0
  let fuel := 8 * r.rest.length * (texts + 1) + 64
  (do
    match ← peek fuel with
    | .finish => return none
    | _ => return some (← list .line fuel) : Parser (Option Command)).run r

end Disasm.Host.Shell.Parser
