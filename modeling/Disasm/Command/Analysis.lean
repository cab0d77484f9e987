import Disasm.Command.Settings

namespace Disasm.Command.Analysis

open CommandLine

inductive Setting where
  | file (path : String)
  | symbols (list : String)
  | order (o : OperandOrder)
  | allStats
  | allViews
  | cpu (name : String)
  | objdump (program : String)
  | mca (program : String)
  | verbose
  deriving DecidableEq, Repr

/-- Any path but the empty one. It is not looked at before the tool does. -/
def fileSlot : Slot Setting where
  valueName := "FILE"
  read := fun path => if path.isEmpty then .error .empty else .ok (.file path)

def orderSlot : Slot Setting where
  valueName := "SYNTAX"
  read := fun name =>
    match OperandOrder.ofName name with
    | .ok o => .ok (.order o)
    | .error e => .error (.refused e)

def grammar : Grammar Setting where
  command := "run-llvm-mca"
  about := "Runs 'llvm-mca' over compiled binary file."
  operand := fileSlot
  operandAbout := "Binary file to disassemble"
  options := [
    { long := "symbols", letter := some 's', takes := .value (anyText "SYMBOLS" .symbols)
      about := "Comma-separated symbols to analyze (default: the whole binary)" },
    { long := "syntax", takes := .value orderSlot
      about := "Operand order of the report: intel or at&t"
      byDefault := some OperandOrder.default.name },
    { long := "all-stats", takes := .nothing .allStats, about := "Print all statistics" },
    { long := "all-views", takes := .nothing .allViews, about := "Print all views" },
    { long := "cpu", takes := .value (anyText "CPU" .cpu)
      about := "Target CPU for the llvm-mca scheduling model" },
    objdumpOption .objdump,
    mcaOption .mca,
    verboseOption .verbose,
    helpOption]

structure Options where
  file : String
  /-- The list of symbols as it was given. -/
  symbolList : Option String
  order : OperandOrder
  allStats : Bool
  allViews : Bool
  cpu : Option String
  objdump : String
  mca : String
  verbosity : Nat
  deriving DecidableEq, Repr

namespace Options

def ofSettings (env : Environment) (settings : List Setting) : Options where
  file := (settings.findSome? fun | .file path => some path | _ => none).getD ""
  symbolList := settings.findSome? fun | .symbols list => some list | _ => none
  order := (settings.findSome? fun | .order o => some o | _ => none).getD .default
  allStats := settings.contains .allStats
  allViews := settings.contains .allViews
  cpu := settings.findSome? fun | .cpu name => some name | _ => none
  objdump := toolName (settings.findSome? fun | .objdump p => some p | _ => none) env
    objdumpVariable usualTools.objdump
  mca := toolName (settings.findSome? fun | .mca p => some p | _ => none) env
    mcaVariable usualTools.mca
  verbosity := min verbosityLimit (settings.count .verbose)

def parse (env : Environment) (args : List String) : Except Stop Options :=
  match grammar.parse args with
  | .error stop => .error stop
  | .ok settings => .ok (ofSettings env settings)

/-- The symbols to analyze; none stand for the whole file. -/
def symbols (o : Options) : List String :=
  match o.symbolList with
  | none => []
  | some list => Symbols.split list

def request (o : Options) : AnalysisRequest where
  order := o.order
  allStats := o.allStats
  allViews := o.allViews
  cpu := o.cpu

def tools (o : Options) : Toolset where
  objdump := o.objdump
  mca := o.mca

def session {σ : Type} (runner : Tool.Runner σ) (o : Options) : Tool.Session σ String :=
  Inspection.analyze runner o.tools o.file o.symbols o.request

end Options

end Disasm.Command.Analysis
