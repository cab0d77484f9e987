import Disasm.Feature.Builtin
import Disasm.Listing.Clean
import Disasm.Request
import Disasm.Tool.Session

namespace Disasm

structure Toolset where
  objdump : String := "llvm-objdump"
  mca : String := "llvm-mca"
  deriving DecidableEq, Repr

namespace Inspection

open Tool

variable {σ : Type}

/-- What a tool that went well still complained about. -/
def complaints (tool : String) (o : Output) : List Log.Event :=
  if o.success && !o.stderr.isEmpty then [⟨.warn, tool ++ ": " ++ Text.trimEnd o.stderr⟩] else []

def disassemble (runner : Runner σ) (tools : Toolset) (request : DisassemblyRequest) :
    Session σ String := do
  Session.note [⟨.info, "Disassembling with " ++ tools.objdump⟩]
  let output ← Session.call runner ⟨tools.objdump, request.args, none⟩
  Session.note (complaints tools.objdump output)
  Session.settle (output.result tools.objdump)

def isAscii (s : String) : Bool :=
  s.toList.all fun c => c.toNat < 0x80

def notAscii (tools : Toolset) (file : String) : Error :=
  .invalidArgument ("disassembly of '" ++ file ++
    "' is not plain ASCII and cannot be passed to " ++ tools.mca)

def report (runner : Runner σ) (tools : Toolset) (request : AnalysisRequest) (assembly : String) :
    Session σ String := do
  Session.note [⟨.info, "Analyzing " ++ toString assembly.utf8ByteSize ++
    " bytes of assembly with " ++ tools.mca⟩]
  let output ← Session.call runner ⟨tools.mca, request.args, some assembly⟩
  Session.settle (output.result tools.mca)

/-- Disassembles a file and gives the analyzer's report on it. The analyzer reads neither angle
brackets nor anything beyond ASCII. -/
def analyze (runner : Runner σ) (tools : Toolset) (file : String) (symbols : List String)
    (request : AnalysisRequest) : Session σ String := do
  let raw ← disassemble runner tools (.forAnalysis file symbols)
  let assembly := Listing.stripAngleBrackets raw
  if isAscii assembly then report runner tools request assembly
  else Session.settle (.error (notAscii tools file))

/-- Searches a cleaned listing for features, with what the log says about it. -/
def search (catalogue : Catalogue) (symbol : String) (cleaned : Listing.Cleaned) :
    Session σ Findings := do
  Session.note [⟨.info, "Matching '" ++ symbol ++ "' against " ++ toString catalogue.size ++
    " feature sets"⟩]
  let set := Listing.mnemonics cleaned.text
  Session.note (catalogue.events set)
  pure (catalogue.findings set)

/-- Finds the features that one function uses. A function that the disassembly does not show is an
error, a function without features is not. -/
def detect (runner : Runner σ) (tools : Toolset) (catalogue : Catalogue) (file symbol : String)
    (cpu : Option String) : Session σ Findings := do
  let raw ← disassemble runner tools (.forFeatures file symbol cpu)
  let cleaned := Listing.clean raw
  Session.note cleaned.events
  if cleaned.mentions symbol then search catalogue symbol cleaned
  else Session.settle (.error (.symbolMissing symbol file))

end Inspection

end Disasm
