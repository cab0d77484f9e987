import Disasm.Host.Utility.Awk.Parser
import Disasm.Host.Utility.Awk.Store

namespace Disasm.Host.Utility.Awk

def arithmetic (o : Operation) (x y : Float) : Float :=
  match o with
  | .add => x + y
  | .subtract => x - y
  | .multiply => x * y
  | .divide => x / y
  | .remainder => remainderOf x y
  | .power => Float.pow x y
  | .join => x
where
  /-- The remainder has the sign of what is divided. -/
  remainderOf (x y : Float) : Float :=
    match Real.ofFloat x, Real.ofFloat y with
    | .finite negative n d, .finite _ m e =>
      if m = 0 then 0 / 0
      else
        let r := Float.ofInt (n * e % (m * d) : Nat) / Float.ofInt (d * e : Nat)
        if negative then -r else r
    | .finite .., .infinite _ => x
    | _, _ => 0 / 0

def operate (o : Operation) (a b : Value) : Act Value := do
  match o with
  | .join => return .text ((← textOf a) ++ (← textOf b))
  | o => return .number (arithmetic o a.toNumber b.toNumber)

def order (a b : Value) : Act Ordering := do
  match a.comparable?, b.comparable? with
  | some x, some y => return if x < y then .lt else if x > y then .gt else .eq
  | _, _ => return compare (← textOf a) (← textOf b)

def holds (r : Relation) (o : Ordering) : Bool :=
  match r with
  | .less => o = .lt
  | .lessEqual => o != .gt
  | .equal => o = .eq
  | .notEqual => o != .eq
  | .greater => o = .gt
  | .greaterEqual => o != .lt

def patternOf (v : Value) : Act Regex := do
  let s ← textOf v
  match Pattern.ofText s.toList with
  | .ok e => return e
  | .error reason => runtimeError (Pattern.complaint reason s.toList)

/-- A part of a text, for a position and a length. What would lie in front of the text is added to
the length. -/
def substring (s : String) (first : Float) (length : Option Float) : String :=
  let cs := s.toList
  let p := truncated first
  match length with
  | none => String.ofList (cs.drop (p - 1).toNat)
  | some n =>
    let n := if p ≤ 0 then truncated n - p else truncated n
    String.ofList ((cs.drop (p - 1).toNat).take n.toNat)

/-- The first position of a text in another one, from one on; none if it is nowhere. -/
def positionOf (part : List Char) (n : Nat) : List Char → Nat
  | [] => if part.isEmpty then n else 0
  | c :: rest => if part.isPrefixOf (c :: rest) then n else positionOf part (n + 1) rest

def replacement (found : List Char) : List Char → List Char
  | '\\' :: '\\' :: rest => '\\' :: replacement found rest
  | '\\' :: '&' :: rest => '&' :: replacement found rest
  | '&' :: rest => found ++ replacement found rest
  | c :: rest => c :: replacement found rest
  | [] => []

/-- A text with its matches replaced, from a position on; `after` tells that a match ends there. -/
def replaceAll (s : Regex.Subject) (e : Regex) (new : List Char) (all : Bool) :
    Nat → Nat → Bool → List Char × Nat
  | 0, p, _ => (s.text.toList.drop p, 0)
  | fuel + 1, p, after =>
    match Regex.search s e p with
    | none => (s.text.toList.drop p, 0)
    | some f =>
      let before := (s.text.toList.drop p).take (f.first - p)
      let found := (s.text.toList.drop f.first).take (f.last - f.first)
      let next := (s.text.toList.drop f.last).take 1
      if f.first = f.last && f.first = p && after then
        if s.text.size ≤ p then ([], 0)
        else
          let (rest, n) := replaceAll s e new all fuel (p + 1) false
          (next ++ rest, n)
      else
        let done := before ++ replacement found new
        if !all then (done ++ s.text.toList.drop f.last, 1)
        else if f.first < f.last then
          let (rest, n) := replaceAll s e new all fuel f.last true
          (done ++ rest, n + 1)
        else if s.text.size ≤ f.last then (done, 1)
        else
          let (rest, n) := replaceAll s e new all fuel (f.last + 1) false
          (done ++ next ++ rest, n + 1)

def directed (d : Directive) (v : Value) : Act (Option (List Char)) := do
  match d.conversion with
  | 'd' | 'i' =>
    let n := truncated v.toNumber
    return some (d.whole n)
  | 'o' | 'x' | 'X' | 'u' => return some (d.unsigned (truncated v.toNumber))
  | 'e' | 'f' | 'g' | 'E' | 'F' | 'G' =>
    let x := v.toNumber
    return some (if x.isNaN then d.text "-nan".toList else d.real (Real.ofFloat x))
  | 'c' =>
    let c : Char := match v with
      | .number x | .numeric _ x => Char.ofNat ((truncated x) % 256).toNat
      | .text s => s.toList.headD '\x00'
      | .nothing => '\x00'
    return some ({ d with precision := none }.text [c])
  | 's' => return some (d.text (← textOf v).toList)
  | _ => return none

/-- A text in which directives are replaced by values: what could be made, and what is wrong with
the rest. -/
def fillIn (title : String) (format : List Char) (number : Nat) (done : List Char) :
    Nat → List Char → List Value → Act (List Char × Option String)
  | 0, _, _ => return (done.reverse, none)
  | _, [], _ => return (done.reverse, none)
  | fuel + 1, '%' :: '%' :: rest, vs => fillIn title format number ('%' :: done) fuel rest vs
  | fuel + 1, '%' :: rest, vs => do
    let stars := starCount rest
    let missing := "not enough arguments passed to " ++ title ++ "(\"" ++ String.ofList format ++
      "\")"
    if vs.length ≤ stars then return (done.reverse, some missing)
    let (d, rest, _) := readDirective rest ((vs.take stars).map fun v => truncated v.toNumber)
    match ← directed d ((vs.drop stars).headD .nothing) with
    | some cs =>
      fillIn title format (number + 1) (cs.reverse ++ done) fuel rest (vs.drop (stars + 1))
    | none =>
      return (done.reverse, some ("improper conversion(number " ++ toString number ++ ") in " ++
        title ++ "(\"" ++ String.ofList format ++ "\")"))
  | fuel + 1, c :: rest, vs => fillIn title format number (c :: done) fuel rest vs

def fillInValues (title : String) (vs : List Value) : Act (List Char × Option String) := do
  let format := (← textOf (vs.headD .nothing)).toList
  fillIn title format 1 [] (format.length + 1) format (vs.drop 1)

/-- The functions whose arguments are all values. -/
def builtin (f : String) (vs : List Value) : Act Value := do
  let first := vs.headD .nothing
  let second := (vs.drop 1).headD .nothing
  let x := first.toNumber
  match f with
  | "length" =>
    let s ← match vs with
      | [] => recordText
      | v :: _ => textOf v
    return .number (Float.ofNat s.length)
  | "index" =>
    return .number (Float.ofNat (positionOf (← textOf second).toList 1 (← textOf first).toList))
  | "substr" =>
    return .text (substring (← textOf first) second.toNumber (vs[2]?.map Value.toNumber))
  | "sprintf" =>
    match ← fillInValues "sprintf" vs with
    | (cs, none) => return .text (String.ofList cs)
    | (_, some message) => runtimeError message
  | "sin" => return .number (Float.sin x)
  | "cos" => return .number (Float.cos x)
  | "atan2" => return .number (Float.atan2 x second.toNumber)
  | "exp" => return .number (Float.exp x)
  | "log" => return .number (Float.log x)
  | "sqrt" => return .number (Float.sqrt x)
  | "int" => return .number (if x < 0 then Float.ceil x else Float.floor x)
  | "rand" => return .number 0.5
  | "srand" =>
    let before := (← get).seed
    modify fun s => { s with seed := x }
    return .number before
  | "toupper" => return .text ((← textOf first).map Char.toUpper)
  | "tolower" => return .text ((← textOf first).map Char.toLower)
  | "close" => return .number (Float.ofInt (← close (← textOf first)))
  | "fflush" =>
    flush
    return .number 0
  | "system" =>
    flush
    return .number (Float.ofNat (← runCommand (← textOf first) none))
  | _ => return .nothing

/-- The key of some values, and the number that it is if it is one. -/
def keyOf (vs : List Value) : Act (String × Option Int) := do
  match vs with
  | [.number x] =>
    match wholeOf? x with
    | some n => return (toString n, some n)
    | none => return (← textOf (.number x), none)
  | vs =>
    let texts ← vs.mapM textOf
    return (String.intercalate (← plainText "SUBSEP") texts, none)

inductive Place where
  | name (n : String)
  | field (n : Nat)
  | element (table : Nat) (key : String) (number : Option Int)
  | nowhere

def Place.value : Place → Act Value
  | .name n => Awk.name n
  | .field n => Awk.field n
  | .element t key number => do
    let (v, table) := (← tableAt t).get key number
    setTable t table
    return v
  | .nowhere => return .nothing

def Place.set (p : Place) (v : Value) : Act Unit := do
  match p with
  | .name n => setName n v
  | .field n => setField n v
  | .element t key number => setTable t ((← tableAt t).set key number v)
  | .nowhere => return

mutual

def eval (e : Expr) : Nat → Act Value
  | 0 => throw .failing
  | fuel + 1 => do
    match e with
    | .number x => return .number x
    | .text s => return .text s
    | .pattern e => return .ofBool (Regex.isIn e (← recordText).toList)
    | .name n => name n
    | .element array index => (← placeOf (.element array index) fuel).value
    | .field e => field (← fieldNumber (← eval e fuel).toNumber)
    | .group e => eval e fuel
    | .assign operation target e =>
      let place ← placeOf target fuel
      let v ← eval e fuel
      let v ← match operation with
        | none => pure v
        | some o => operate o (← place.value) v
      place.set v
      return v
    | .step amount before target =>
      let place ← placeOf target fuel
      let x := (← place.value).toNumber
      place.set (.number (x + amount))
      return .number (if before then x + amount else x)
    | .operate o a b =>
      let a ← eval a fuel
      operate o a (← eval b fuel)
    | .relate r a b =>
      let a ← eval a fuel
      return .ofBool (holds r (← order a (← eval b fuel)))
    | .negative e => return .number (-(← eval e fuel).toNumber)
    | .positive e => return .number (← eval e fuel).toNumber
    | .denied e => return .ofBool !(← eval e fuel).isTrue
    | .both a b =>
      if (← eval a fuel).isTrue then return .ofBool (← eval b fuel).isTrue
      else return .ofBool false
    | .either a b =>
      if (← eval a fuel).isTrue then return .ofBool true
      else return .ofBool (← eval b fuel).isTrue
    | .choose c a b => if (← eval c fuel).isTrue then eval a fuel else eval b fuel
    | .isMatch inverted a b =>
      let s ← textOf (← eval a fuel)
      let p ← evalPattern b fuel
      return .ofBool (Regex.isIn p s.toList != inverted)
    | .isMember index array =>
      let (key, _) ← keyOf (← evalAll index fuel)
      return .ofBool ((← tableAt (← tableOf array)).contains key)
    | .call f args => callFunction f args fuel
    | .builtin f args => callBuiltin f args fuel
    | .readNext target =>
      match ← readMain 1000 with
      | none => return .number 0
      | some record =>
        match target with
        | none => setRecord record
        | some target => (← placeOf target fuel).set (.ofOutside record)
        return .number 1
    | .readFile target file =>
      readFrom target false (← textOf (← eval file fuel)) fuel
    | .readCommand target command =>
      readFrom target true (← textOf (← eval command fuel)) fuel
termination_by structural fuel => fuel

def readFrom (target : Option Expr) (isCommand : Bool) (name : String) : Nat → Act Value
  | 0 => throw .failing
  | fuel + 1 => do
    match ← readBeside isCommand name with
    | none => return .number (-1)
    | some none => return .number 0
    | some (some record) =>
      match target with
      | none => setRecord record
      | some target => (← placeOf target fuel).set (.ofOutside record)
      return .number 1
termination_by structural fuel => fuel

def evalAll (es : List Expr) : Nat → Act (List Value)
  | 0 => throw .failing
  | fuel + 1 => do
    match es with
    | [] => return []
    | e :: rest =>
      let v ← eval e fuel
      return v :: (← evalAll rest fuel)
termination_by structural fuel => fuel

def evalPattern (e : Expr) : Nat → Act Regex
  | 0 => throw .failing
  | fuel + 1 => do
    match e with
    | .pattern p => return p
    | e => patternOf (← eval e fuel)
termination_by structural fuel => fuel

def placeOf (target : Expr) : Nat → Act Place
  | 0 => throw .failing
  | fuel + 1 => do
    match target with
    | .name n => return .name n
    | .field e => return .field (← fieldNumber (← eval e fuel).toNumber)
    | .element array index =>
      let (key, number) ← keyOf (← evalAll index fuel)
      return .element (← tableOf array) key number
    | .group e => placeOf e fuel
    | _ => return .nowhere
termination_by structural fuel => fuel

/-- What the parameters of a function stand for. Names of tables pass the tables on. -/
def passed (params : List String) (args : List Expr) : Nat → Act (List (String × Slot))
  | 0 => throw .failing
  | fuel + 1 => do
    match params, args with
    | [], _ => return []
    | p :: ps, [] => return (p, .unset) :: (← passed ps [] fuel)
    | p :: ps, e :: es =>
      let slot ← match e with
        | .name n =>
          if n = "NF" then pure (Slot.value (← name n))
          else match ← slot? n with
            | some (.value v) => pure (.value v)
            | some (.table t) => pure (.table t)
            | some (.loose t) => pure (.loose t)
            | some .unset | none =>
              let t ← newTable
              setSlot n (.loose t)
              pure (.loose t)
        | e => pure (.value (← eval e fuel))
      return (p, slot) :: (← passed ps es fuel)
termination_by structural fuel => fuel

def callFunction (f : String) (args : List Expr) : Nat → Act Value
  | 0 => throw .failing
  | fuel + 1 => do
    match (← read).program.functions.lookup f with
    | none => return .nothing
    | some function =>
      let slots ← passed function.params args fuel
      let outer := (← get).locals
      modify fun s => { s with locals := slots }
      let v ← tryCatch (do
          exec function.body fuel
          return .nothing) fun flow => match flow with
        | .returning v => return v
        | flow => throw flow
      modify fun s => { s with locals := outer }
      return v
termination_by structural fuel => fuel

def callBuiltin (f : String) (args : List Expr) : Nat → Act Value
  | 0 => throw .failing
  | fuel + 1 => do
    match f, args with
    | "length", [.name n] =>
      match ← slot? n with
      | some (.table t) => return .number (Float.ofNat (← tableAt t).entries.size)
      | some (.loose t) => return .number (Float.ofNat (← tableAt t).entries.size)
      | _ => builtin f [← name n]
    | "split", e :: .name t :: separator =>
      let s ← textOf (← eval e fuel)
      let separator ← match separator with
        | .pattern p :: _ => pure (Separator.pattern p)
        | e :: _ => separatorOf (← textOf (← eval e fuel))
        | [] => separatorOf (← plainText "FS")
      let parts := cut separator false s
      let table := (parts.zipIdx 1).foldl (fun (t : Table) (part, n) =>
        t.set (toString n) (some n) (.ofOutside part)) {}
      setTable (← tableOf t) table
      return .number (Float.ofNat parts.length)
    | "match", [a, b] =>
      let s ← textOf (← eval a fuel)
      let p ← evalPattern b fuel
      let (start, length) : Nat × Int :=
        match Regex.search { text := s.toList.toArray } p 0 with
        | some f => (f.first + 1, (f.last - f.first : Nat))
        | none => (0, -1)
      setName "RSTART" (.number (Float.ofNat start))
      setName "RLENGTH" (.number (Float.ofInt length))
      return .number (Float.ofNat start)
    | "sub", a :: b :: target => substitute false a b (target.headD (.field (.number 0))) fuel
    | "gsub", a :: b :: target => substitute true a b (target.headD (.field (.number 0))) fuel
    | f, args => builtin f (← evalAll args fuel)
termination_by structural fuel => fuel

/-- Replaces matches in a target; the value is how many. -/
def substitute (all : Bool) (a b target : Expr) : Nat → Act Value
  | 0 => throw .failing
  | fuel + 1 => do
    let p ← evalPattern a fuel
    let new ← textOf (← eval b fuel)
    let s ← textOf (← eval target fuel)
    let (cs, n) := replaceAll { text := s.toList.toArray } p new.toList all (s.length + 2) 0 false
    if 0 < n then (← placeOf target fuel).set (.text (String.ofList cs))
    return .number (Float.ofNat n)
termination_by structural fuel => fuel

def exec (s : Statement) : Nat → Act Unit
  | 0 => throw .failing
  | fuel + 1 => do
    match s with
    | .value e =>
      let _ ← eval e fuel
    | .print isFormatted args target =>
      let vs ← evalAll args fuel
      let (direction, name) ← match target with
        | none => pure (Direction.file, "/dev/stdout")
        | some (direction, e) => pure (direction, ← textOf (← eval e fuel))
      if isFormatted then
        let (cs, wrong) ← fillInValues "printf" vs
        write direction name cs
        match wrong with
        | some message => runtimeError message
        | none => pure ()
      else
        let texts ← vs.mapM fun v => do
          match v with
          | .number x => pure (numberText (← plainText "OFMT") x)
          | v => textOf v
        let line ← if vs.isEmpty then recordText
          else pure (String.intercalate (← plainText "OFS") texts)
        write direction name (line ++ (← plainText "ORS")).toList
    | .choice c a b => if (← eval c fuel).isTrue then exec a fuel else exec b fuel
    | .loop c body step => loop c body step fuel
    | .loopBehind body c =>
      if ← runBody body fuel then loop c body (.block []) fuel
    | .forEach n array body =>
      let t ← tableOf array
      let (keys, table) := (← tableAt t).keys
      setTable t table
      forKeys n keys body fuel
    | .block body => execAll body fuel
    | .next => throw .next
    | .nextFile => throw .nextFile
    | .breakLoop => throw .breaking
    | .continueLoop => throw .continuing
    | .exit e =>
      match e with
      | none => pure ()
      | some e =>
        let x := (← eval e fuel).toNumber
        modify fun s => { s with status := ((truncated x) % 256).toNat }
      throw .exiting
    | .giveBack e =>
      match e with
      | none => throw (.returning .nothing)
      | some e => throw (.returning (← eval e fuel))
    | .delete array index =>
      let t ← tableOf array
      if index.isEmpty then setTable t {}
      else
        let (key, _) ← keyOf (← evalAll index fuel)
        setTable t ((← tableAt t).erase key)
termination_by structural fuel => fuel

def execAll (ss : List Statement) : Nat → Act Unit
  | 0 => throw .failing
  | fuel + 1 => do
    match ss with
    | [] => return
    | s :: rest =>
      exec s fuel
      execAll rest fuel
termination_by structural fuel => fuel

/-- Runs the body of a loop; tells whether the loop goes on. -/
def runBody (body : Statement) : Nat → Act Bool
  | 0 => throw .failing
  | fuel + 1 =>
    tryCatch (do
      exec body fuel
      return true) fun flow => match flow with
    | .breaking => return false
    | .continuing => return true
    | flow => throw flow
termination_by structural fuel => fuel

def loop (c : Expr) (body step : Statement) : Nat → Act Unit
  | 0 => throw .failing
  | fuel + 1 => do
    if (← eval c fuel).isTrue then
      if ← runBody body fuel then
        exec step fuel
        loop c body step fuel
termination_by structural fuel => fuel

def forKeys (n : String) (keys : List String) (body : Statement) : Nat → Act Unit
  | 0 => throw .failing
  | fuel + 1 => do
    match keys with
    | [] => return
    | k :: rest =>
      setName n (.text k)
      if ← runBody body fuel then forKeys n rest body fuel
termination_by structural fuel => fuel

end

/-- How deep the parts of a program may be nested, and how often loops may turn. -/
def depth : Nat := 100000000

def applies (number : Nat) (c : Condition) : Act Bool := do
  match c with
  | .all => return true
  | .one e => return (← eval e depth).isTrue
  | .range first last =>
    if (← get).active.contains number || (← eval first depth).isTrue then
      if (← eval last depth).isTrue then
        modify fun s => { s with active := s.active.filter (· != number) }
      else modify fun s => { s with active := number :: s.active.filter (· != number) }
      return true
    else return false

def applyRules : Nat → List (Condition × Statement) → Act Unit
  | _, [] => return
  | number, (c, body) :: rest => do
    if ← applies number c then exec body depth
    applyRules (number + 1) rest

def records (rules : List (Condition × Statement)) : Nat → Act Unit
  | 0 => return
  | fuel + 1 => do
    match ← readMain 1000 with
    | none => return
    | some record =>
      setRecord record
      tryCatch (applyRules 0 rules) fun flow => match flow with
        | .next => return
        | .nextFile => modify fun s => { s with main := none }
        | flow => throw flow
      records rules fuel

/-- Runs a part of a program; tells whether it was left by an exit. -/
def untilExit (a : Act Unit) : Act Bool :=
  tryCatch (do
    a
    return false) fun flow => match flow with
  | .failing => throw .failing
  | _ => return true

def runProgram (p : Program) : Act Unit := do
  let left ← untilExit (execAll p.begins depth)
  let left ← if left || (p.rules.isEmpty && p.ends.isEmpty) then pure left
    else untilExit (records p.rules depth)
  if !(left && p.begins.isEmpty && p.rules.isEmpty) then
    let _ ← untilExit (execAll p.ends depth)

/-- The options of `awk`, and what stands behind them. -/
structure Start where
  separator : Option String := none
  assignments : List (String × String) := []
  programs : List String := []
  operands : List String := []
  version : Bool := false
  help : Bool := false

/-- The letters of options that take an argument, and what is done with it. -/
def Start.take (s : Start) (letter : Char) (v : String) : Except String Start :=
  match letter with
  | 'F' => .ok { s with separator := some v }
  | 'f' => .ok { s with programs := s.programs ++ [v] }
  | 'v' =>
    let n := (v.takeWhile isNameChar).toString
    if n != "" && (v.drop n.length).toString.startsWith "=" then
      .ok { s with assignments := s.assignments ++ [(n, (v.drop (n.length + 1)).toString)] }
    else .error ("improper assignment: -v " ++ v)
  | _ =>
    if v.startsWith "v" then .ok { s with version := true }
    else if v.startsWith "h" || v.startsWith "u" then .ok { s with help := true }
    else .ok s

/-- Reads options; a message tells what is wrong with them. `waiting` is one that still needs its
argument. -/
def Start.read (s : Start) (waiting : Option Char) : List String → Except String Start
  | [] =>
    match waiting with
    | some c => .error ("option -" ++ String.ofList [c] ++ " lacks argument")
    | none => .ok s
  | arg :: rest =>
    if s.version || s.help then .ok s
    else match waiting, arg.toList with
    | some c, _ => do (← s.take c arg).read none rest
    | none, ['-', '-'] => .ok { s with operands := rest }
    | none, ['-'] => .ok { s with operands := arg :: rest }
    | none, '-' :: '-' :: _ =>
      if arg = "--version" then .ok { s with version := true }
      else if arg = "--help" || arg = "--usage" then .ok { s with help := true }
      else .error ("not an option: " ++ arg)
    | none, '-' :: c :: cs =>
      if !(['F', 'f', 'v', 'W'].contains c) then .error ("not an option: " ++ arg)
      else if cs.isEmpty then s.read (some c) rest
      else do (← s.take c (String.ofList cs)).read none rest
    | none, _ => .ok { s with operands := arg :: rest }

def helpText : String :=
  String.join ([
    "Usage: mawk [Options] [Program] [file ...]",
    "",
    "Program:",
    "    The -f option value is the name of a file containing program text.",
    "    If no -f option is given, a \"--\" ends option processing; the following",
    "    parameters are the program text.",
    "",
    "Options:",
    "    -f program-file  Program  text is read from file instead of from the",
    "                     command-line.  Multiple -f options are accepted.",
    "    -F value         sets the field separator, FS, to value.",
    "    -v var=value     assigns value to program variable var.",
    "    --               unambiguous end of options.",
    "",
    "    Implementation-specific options are prefixed with \"-W\".  They can be",
    "    abbreviated:",
    "",
    "    -W version       show version information and exit.",
    "    -W compat        pre-POSIX 2001.",
    "    -W dump          show assembler-like listing of program and exit.",
    "    -W help          show this message and exit.",
    "    -W interactive   set unbuffered output, line-buffered input.",
    "    -W exec file     use file as program as well as last option.",
    "    -W posix         stricter POSIX checking.",
    "    -W random=number set initial random seed.",
    "    -W sprintf=number adjust size of sprintf buffer.",
    "    -W usage         show this message and exit."].map (· ++ "\n"))

def prepare (s : Start) (operands : List String) : Act Unit := do
  let request := (← read).request
  [("FS", " "), ("OFS", " "), ("ORS", "\n"), ("RS", "\n"), ("SUBSEP", "\x1C"),
    ("CONVFMT", "%.6g"), ("OFMT", "%.6g"), ("FILENAME", "")].forM fun (n, v) => setName n (.text v)
  ["NR", "FNR"].forM fun n => setName n (.number 0)
  let args := request.called :: operands
  setName "ARGC" (.number (Float.ofNat args.length))
  setTable (← tableOf "ARGV") ((args.zipIdx).foldl (fun (t : Table) (a, n) =>
    t.set (toString n) (some n) (.ofOutside a)) {})
  setTable (← tableOf "ENVIRON") (request.machine.environment.foldl (fun (t : Table) (n, v) =>
    t.set n none (.ofOutside v)) {})
  match s.separator with
  | some v =>
    let v := unescape v
    match v.toList, Pattern.ofText v.toList with
    | _ :: _ :: _, .error reason => give ("line 0: " ++ Pattern.complaint reason v.toList)
    | _, _ => setName "FS" (.text v)
  | none => pure ()
  s.assignments.forM fun (n, v) => assignOperand n (unescape v)

end Awk

open Awk in
def awk : Work Unit := do
  let request ← read
  match Start.read {} none request.args with
  | .error message => fail message 2
  | .ok s =>
    if s.version then outText "mawk 1.3.4 20240123\n"
    else if s.help || (s.operands.isEmpty && s.programs.isEmpty) then
      outText helpText
    else
      let texts ← s.programs.mapM fun path => do
        match ← contentOrInput path with
        | .ok cs => pure (String.ofList cs)
        | .error e => fail ("cannot open \"" ++ path ++ "\" (" ++ e.text ++ ")") 2
      let (source, operands) := match texts, s.operands with
        | [], p :: rest => (p, rest)
        | texts, rest => (String.intercalate "\n" texts, rest)
      let file := match s.programs with
        | path :: _ => path ++ ": "
        | [] => ""
      match Program.ofText source with
      | .error complaints =>
        complaints.forM fun (line, message) =>
          warn (file ++ (if message.startsWith "unexpected character" then "" else "line ") ++
            toString line ++ ": " ++ message)
        setStatus 2
      | .ok p =>
        let store : Store := { progress := ← get }
        let whole : Act Unit := do
          prepare s operands
          runProgram p
        let (_, store) := (whole.run.run ⟨p, request⟩).run store
        let (_, store) := (closeAll.run.run ⟨p, request⟩).run store
        set store.progress
        setStatus store.status

end Disasm.Host.Utility
