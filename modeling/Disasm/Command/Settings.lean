import Disasm.CommandLine.Help
import Disasm.CommandLine.Parse
import Disasm.Inspection

namespace Disasm.Command

open CommandLine

def anyText {α : Type} (valueName : String) (setting : String → α) : Slot α where
  valueName := valueName
  read := fun s => .ok (setting s)

def objdumpVariable : String := "LLVM_OBJDUMP"
def mcaVariable : String := "LLVM_MCA"

def usualTools : Toolset := {}

def toolOption {α : Type} (long valueName about variableName usual : String)
    (setting : String → α) : Opt α where
  long := long
  takes := .value (anyText valueName setting)
  about := about
  variableName := some variableName
  byDefault := some usual

def objdumpOption {α : Type} (setting : String → α) : Opt α :=
  toolOption "objdump" "OBJDUMP" "llvm-objdump executable" objdumpVariable usualTools.objdump
    setting

def mcaOption {α : Type} (setting : String → α) : Opt α :=
  toolOption "mca" "MCA" "llvm-mca executable" mcaVariable usualTools.mca setting

def verboseOption {α : Type} (setting : α) : Opt α where
  long := "verbose"
  letter := some 'v'
  takes := .tally setting
  about := "Log to stderr (-v info, -vv debug)"

def helpOption {α : Type} : Opt α where
  long := "help"
  letter := some 'h'
  takes := .help
  about := "Print help"

/-- The name of a tool: what the command line says, else the environment, else the usual name. -/
def toolName (given : Option String) (env : Environment) (variableName usual : String) : String :=
  given.getD ((env variableName).getD usual)

/-- The largest verbosity that is told apart. -/
def verbosityLimit : Nat := 255

end Disasm.Command
