import Disasm.Error
import Disasm.Text.Styled

namespace Disasm.CommandLine

/-- Why a value is turned down. -/
inductive Fault where
  /-- Nothing is no value here. -/
  | empty
  /-- The value is none of those that can be chosen. -/
  | notAmong
  | refused (cause : Error)

structure Choice where
  value : String
  about : String

structure Slot (α : Type) where
  /-- The name of the value, in capitals. -/
  valueName : String
  read : String → Except Fault α
  /-- The values that can be chosen, if they are few. -/
  choices : List Choice := []

inductive Takes (α : Type) where
  /-- Nothing, and the option is given once. -/
  | nothing (setting : α)
  /-- Nothing, and the option counts each time. -/
  | tally (setting : α)
  /-- A value, once. -/
  | value (slot : Slot α)
  /-- Nothing; it asks for help. -/
  | help

structure Opt (α : Type) where
  long : String
  letter : Option Char := none
  takes : Takes α
  about : String
  /-- The environment variable that gives the value if the command line does not. -/
  variableName : Option String := none
  /-- The value if nothing else gives one. -/
  byDefault : Option String := none
  required : Bool := false

def Opt.suffix {α : Type} (o : Opt α) : String :=
  match o.takes with
  | .nothing _ | .help => ""
  | .tally _ => "..."
  | .value slot => " <" ++ slot.valueName ++ ">"

/-- The option as messages write it. -/
def Opt.usage {α : Type} (o : Opt α) : String :=
  "--" ++ o.long ++ o.suffix

/-- The operand as messages and help texts write it. -/
def Slot.usage {α : Type} (s : Slot α) : String :=
  "<" ++ s.valueName ++ ">"

def Slot.choiceValues {α : Type} (s : Slot α) : List String :=
  s.choices.map Choice.value

structure Grammar (α : Type) where
  command : String
  about : String
  options : List (Opt α)
  operand : Slot α
  operandAbout : String

namespace Grammar

variable {α : Type}

def byLong? (g : Grammar α) (name : String) : Option (Opt α) :=
  g.options.find? fun o => o.long == name

def byLetter? (g : Grammar α) (letter : Char) : Option (Opt α) :=
  g.options.find? fun o => o.letter == some letter

end Grammar

/-- What is wrong with a command line. Options and the operand are named as in `usage`. -/
inductive UsageError where
  | unexpected (argument : String)
  | valueMissing (place : String) (choices : List String)
  | notAmong (value place : String) (choices : List String)
  | refused (value place : String) (cause : Error)
  | repeated (place : String)
  /-- A value for an option that takes none. -/
  | surplus (value place : String)
  | required (places : List String)
  deriving DecidableEq, Repr

namespace UsageError

open Text

/-- The line that lists the values to choose from, if there are any. -/
def choiceLine (choices : List String) : Styled :=
  if choices.isEmpty then []
  else .join [["\n  [possible values: "],
    List.intercalate [", "] (choices.map fun c => [⟨.valid, c⟩]), ["]"]]

def content : UsageError → Styled
  | .unexpected argument => ["unexpected argument '", ⟨.invalid, argument⟩, "' found"]
  | .valueMissing place choices =>
    "a value is required for '" :: ⟨.invalid, place⟩ :: "' but none was supplied" ::
      choiceLine choices
  | .notAmong value place choices =>
    "invalid value '" :: ⟨.invalid, value⟩ :: "' for '" :: ⟨.literal, place⟩ :: "'" ::
      choiceLine choices
  | .refused value place cause =>
    ["invalid value '", ⟨.invalid, value⟩, "' for '", ⟨.literal, place⟩, "': ", cause.message]
  | .repeated place => ["the argument '", ⟨.invalid, place⟩, "' cannot be used multiple times"]
  | .surplus value place =>
    ["unexpected value '", ⟨.invalid, value⟩, "' for '", ⟨.literal, place⟩,
      "' found; no more were expected"]
  | .required places =>
    "the following required arguments were not provided:" ::
      places.flatMap fun p => ["\n  ", ⟨.valid, p⟩]

def message (e : UsageError) : Styled :=
  .join [[⟨.error, "error:"⟩, " "], e.content,
    ["\n\nFor more information, try '", ⟨.literal, "--help"⟩, "'.\n"]]

end UsageError

end Disasm.CommandLine
