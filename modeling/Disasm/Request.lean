import Disasm.Error
import Disasm.Symbols
import Disasm.Text.Lowercase

namespace Disasm

inductive Selection where
  | whole
  | only (symbols : List String)
  deriving DecidableEq, Repr

structure DisassemblyRequest where
  file : String
  selection : Selection
  cpu : Option String := none
  /-- Operands in Intel order and no colours, for reading mnemonics. -/
  intel : Bool
  /-- Branch targets as labels, for assembling the text again. -/
  symbolicTargets : Bool
  deriving DecidableEq, Repr

namespace DisassemblyRequest

/-- Text that the analyzer can read. No symbols stand for the whole file. -/
def forAnalysis (file : String) (symbols : List String) : DisassemblyRequest where
  file := file
  selection := if symbols.isEmpty then .whole else .only symbols
  intel := false
  symbolicTargets := true

/-- The instructions of one function. -/
def forFeatures (file symbol : String) (cpu : Option String) : DisassemblyRequest where
  file := file
  selection := .only [symbol]
  cpu := cpu.map Text.lowercase
  intel := true
  symbolicTargets := false

def styleArgs (r : DisassemblyRequest) : List String :=
  if r.intel then
    ["--disassemble", "--no-addresses", "--no-show-raw-insn", "--disassembler-color=off",
      "--disassembler-options=intel"]
  else ["-d", "--no-addresses", "--no-show-raw-insn"]

/-- The argument that limits the text to some symbols. -/
def selectionArgs (r : DisassemblyRequest) : List String :=
  match r.selection with
  | .whole => []
  | .only symbols => ["--disassemble-symbols=" ++ Symbols.join symbols]

def cpuArgs (r : DisassemblyRequest) : List String :=
  match r.cpu with
  | none => []
  | some cpu => ["--mcpu=" ++ cpu]

def args (r : DisassemblyRequest) : List String :=
  r.styleArgs ++ (if r.symbolicTargets then ["--symbolize-operands"] else []) ++ [r.file] ++
    r.selectionArgs ++ r.cpuArgs

end DisassemblyRequest

inductive OperandOrder where
  | intel
  | att
  deriving DecidableEq, Repr

namespace OperandOrder

def name : OperandOrder → String
  | .intel => "intel"
  | .att => "at&t"

/-- The number by which the analyzer knows the order. -/
def variantCode : OperandOrder → Nat
  | .intel => 1
  | .att => 0

def default : OperandOrder := .intel

def ofName (name : String) : Except Error OperandOrder :=
  if name = "intel" then .ok .intel
  else if name = "at&t" then .ok .att
  else .error (.invalidArgument ("syntax '" ++ name ++ "' is not 'intel' or 'at&t'"))

end OperandOrder

structure AnalysisRequest where
  order : OperandOrder := .default
  allStats : Bool := false
  allViews : Bool := false
  /-- The processor to model; the one at hand if none is named. -/
  cpu : Option String := none
  deriving DecidableEq, Repr

def AnalysisRequest.args (r : AnalysisRequest) : List String :=
  ["-output-asm-variant=" ++ toString r.order.variantCode] ++
    (if r.allStats then ["-all-stats"] else []) ++
    (if r.allViews then ["-all-views"] else []) ++
    match r.cpu with
    | none => []
    | some cpu => ["-mcpu=" ++ Text.lowercase cpu]

end Disasm
