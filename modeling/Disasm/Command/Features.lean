import Disasm.Command.Settings
import Disasm.Path
import Disasm.Report.Render

namespace Disasm.Command.Features

open CommandLine

inductive Setting where
  | file (path : String)
  | symbol (name : String)
  | cpu (name : String)
  | format (f : Report.Format)
  | objdump (program : String)
  | verbose
  deriving DecidableEq, Repr

/-- The path of a file that exists. -/
def fileSlot (isFile : String → Bool) : Slot Setting where
  valueName := "FILE"
  read := fun path =>
    match Path.accept isFile path with
    | .ok path => .ok (.file path)
    | .error e => .error (.refused e)

def formatSlot : Slot Setting where
  valueName := "FORMAT"
  choices := Report.Format.all.map fun f => ⟨f.name, f.about⟩
  read := fun name =>
    match Report.Format.ofName? name with
    | some f => .ok (.format f)
    | none => .error (if name.isEmpty then .empty else .notAmong)

def grammar (isFile : String → Bool) : Grammar Setting where
  command := "view-cpu-features"
  about := "Finds out what CPU features uses a particular function by searching " ++
    "instructions mnemonics"
  operand := fileSlot isFile
  operandAbout := "File to disassemble"
  options := [
    { long := "symbol", letter := some 's', takes := .value (anyText "SYMBOL" .symbol)
      about := "A function for disassembling and viewing processor instructions"
      required := true },
    { long := "cpu", takes := .value (anyText "CPU" .cpu)
      about := "Specify the processor for which to disassemble the code" },
    { long := "format", takes := .value formatSlot, about := "Output format"
      byDefault := some Report.Format.default.name },
    objdumpOption .objdump,
    verboseOption .verbose,
    helpOption]

structure Options where
  file : String
  symbol : String
  cpu : Option String
  format : Report.Format
  objdump : String
  verbosity : Nat
  deriving DecidableEq, Repr

namespace Options

def ofSettings (env : Environment) (settings : List Setting) : Options where
  file := (settings.findSome? fun | .file path => some path | _ => none).getD ""
  symbol := (settings.findSome? fun | .symbol name => some name | _ => none).getD ""
  cpu := settings.findSome? fun | .cpu name => some name | _ => none
  format := (settings.findSome? fun | .format f => some f | _ => none).getD .default
  objdump := toolName (settings.findSome? fun | .objdump p => some p | _ => none) env
    objdumpVariable usualTools.objdump
  verbosity := min verbosityLimit (settings.count .verbose)

def parse (isFile : String → Bool) (env : Environment) (args : List String) :
    Except Stop Options :=
  match (grammar isFile).parse args with
  | .error stop => .error stop
  | .ok settings => .ok (ofSettings env settings)

/-- The analyzer is not asked, so its name stays the usual one. -/
def tools (o : Options) : Toolset :=
  { usualTools with objdump := o.objdump }

def session {σ : Type} (runner : Tool.Runner σ) (o : Options) : Tool.Session σ String := do
  let found ← Inspection.detect runner o.tools .builtin o.file o.symbol o.cpu
  pure (Report.render found o.format)

end Options

end Disasm.Command.Features
