import Disasm.CommandLine.Grammar
import Disasm.Text.Search

namespace Disasm.CommandLine

/-- How an argument reads, before `--`. -/
inductive Shape where
  /-- The argument `--`, after which all are operands. -/
  | divider
  | long (name : String) (value : Option String)
  | letters (cluster : List Char)
  | plain
  deriving DecidableEq, Repr

/-- A long option is cut at its first equals sign. A single dash is a plain argument. -/
def shape (argument : String) : Shape :=
  match argument.toList with
  | ['-', '-'] => .divider
  | '-' :: '-' :: rest =>
    let name := rest.takeWhile (· != '=')
    match rest.dropWhile (· != '=') with
    | [] => .long (String.ofList name) none
    | _ :: value => .long (String.ofList name) (some (String.ofList value))
  | '-' :: c :: rest => .letters (c :: rest)
  | _ => .plain

inductive Stop where
  | misuse (e : UsageError)
  /-- Help was asked for, in the long form or the short one. -/
  | help (long : Bool)
  deriving DecidableEq, Repr

/-- A value that has not been looked at yet, or an option that still waits for its value. -/
structure Pending (α : Type) where
  place : String
  slot : Slot α
  value : Option String

structure Given (α : Type) where
  place : String
  setting : α

/-- A command line that is read up to some point. -/
structure Progress (α : Type) where
  given : List (Given α) := []
  pending : Option (Pending α) := none
  operandMet : Bool := false

namespace Progress

variable {α : Type}

def has (p : Progress α) (place : String) : Bool :=
  p.given.any fun g => g.place == place

def add (p : Progress α) (place : String) (setting : α) : Progress α :=
  { p with given := p.given ++ [⟨place, setting⟩] }

/-- Takes a value: it has to be there, the place must not have given a setting before, and it has
to be a good one. -/
def take (p : Progress α) (v : Pending α) : Except UsageError (Progress α) :=
  match v.value with
  | none => .error (.valueMissing v.place v.slot.choiceValues)
  | some value =>
    if p.has v.place then .error (.repeated v.place)
    else match v.slot.read value with
      | .ok setting => .ok (p.add v.place setting)
      | .error .empty => .error (.valueMissing v.place v.slot.choiceValues)
      | .error .notAmong => .error (.notAmong value v.place v.slot.choiceValues)
      | .error (.refused cause) => .error (.refused value v.place cause)

/-- Looks at the value that is pending. -/
def flush (p : Progress α) : Except UsageError (Progress α) :=
  match p.pending with
  | none => .ok p
  | some v => { p with pending := none }.take v

def mark (p : Progress α) (place : String) (once : Bool) (setting : α) :
    Except UsageError (Progress α) :=
  match p.flush with
  | .error e => .error e
  | .ok p => if once && p.has place then .error (.repeated place) else .ok (p.add place setting)

/-- Meets an option that takes a value, which may stand in the same argument. -/
def expect (p : Progress α) (place : String) (slot : Slot α) (attached : Option String) :
    Except UsageError (Progress α) :=
  match p.flush with
  | .error e => .error e
  | .ok p =>
    match attached with
    | none => .ok { p with pending := some ⟨place, slot, none⟩ }
    | some value => p.take ⟨place, slot, some value⟩

def askHelp (p : Progress α) (long : Bool) : Stop :=
  match p.flush with
  | .error e => .misuse e
  | .ok _ => .help long

def stopOn {β : Type} : Except UsageError β → Except Stop β
  | .ok b => .ok b
  | .error e => .error (.misuse e)

def long (g : Grammar α) (p : Progress α) (name : String) (attached : Option String) :
    Except Stop (Progress α) :=
  match g.byLong? name with
  | none => .error (.misuse (.unexpected ("--" ++ name)))
  | some o =>
    match o.takes, attached with
    | .value slot, attached => stopOn (p.expect o.usage slot attached)
    | _, some value => .error (.misuse (.surplus value o.usage))
    | .nothing setting, none => stopOn (p.mark o.usage true setting)
    | .tally setting, none => stopOn (p.mark o.usage false setting)
    | .help, none => .error (p.askHelp true)

/-- The value behind a letter in the same argument; an equals sign in front is not part of it. -/
def behindLetter : List Char → Option String
  | [] => none
  | '=' :: value => some (String.ofList value)
  | value => some (String.ofList value)

/-- Meets a cluster of letters; one that takes a value ends it. -/
def letters (g : Grammar α) (p : Progress α) : List Char → Except Stop (Progress α)
  | [] => .ok p
  | c :: rest =>
    match g.byLetter? c with
    | none => .error (.misuse (.unexpected (String.ofList ['-', c])))
    | some o =>
      match o.takes with
      | .value slot => stopOn (p.expect o.usage slot (behindLetter rest))
      | .help => .error (p.askHelp false)
      | .nothing setting =>
        match p.mark o.usage true setting with
        | .error e => .error (.misuse e)
        | .ok p => letters g p rest
      | .tally setting =>
        match p.mark o.usage false setting with
        | .error e => .error (.misuse e)
        | .ok p => letters g p rest

/-- Meets an operand; there is one only. -/
def operand (g : Grammar α) (p : Progress α) (argument : String) : Except Stop (Progress α) :=
  if p.operandMet then .error (.misuse (.unexpected argument))
  else match p.flush with
    | .error e => .error (.misuse e)
    | .ok p =>
      .ok { p with
        pending := some ⟨g.operand.usage, g.operand, some argument⟩
        operandMet := true }

/-- Meets a plain argument: the value of an option that waits for one, or an operand. -/
def plain (g : Grammar α) (p : Progress α) (argument : String) : Except Stop (Progress α) :=
  match p.pending with
  | some ⟨place, slot, none⟩ => .ok { p with pending := some ⟨place, slot, some argument⟩ }
  | _ => p.operand g argument

def operands (g : Grammar α) (p : Progress α) : List String → Except Stop (Progress α)
  | [] => stopOn p.flush
  | argument :: rest =>
    match p.operand g argument with
    | .error stop => .error stop
    | .ok p => operands g p rest

def arguments (g : Grammar α) (p : Progress α) : List String → Except Stop (Progress α)
  | [] => stopOn p.flush
  | argument :: rest =>
    match shape argument with
    | .divider => operands g p rest
    | .long name attached =>
      match p.long g name attached with
      | .error stop => .error stop
      | .ok p => arguments g p rest
    | .letters cluster =>
      match p.letters g cluster with
      | .error stop => .error stop
      | .ok p => arguments g p rest
    | .plain =>
      match p.plain g argument with
      | .error stop => .error stop
      | .ok p => arguments g p rest

end Progress

namespace Grammar

variable {α : Type}

/-- The required options and the operand, as far as they are missing. -/
def missing (g : Grammar α) (p : Progress α) : List String :=
  ((g.options.filter (·.required)).map Opt.usage ++ [g.operand.usage]).filter
    fun place => !p.has place

def parse (g : Grammar α) (args : List String) : Except Stop (List α) :=
  match Progress.arguments g {} args with
  | .error stop => .error stop
  | .ok p =>
    if (g.missing p).isEmpty then .ok (p.given.map Given.setting)
    else .error (.misuse (.required (g.missing p)))

end Grammar

end Disasm.CommandLine
