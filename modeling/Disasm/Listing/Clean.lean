import Disasm.Listing.Noise
import Disasm.Log
import Disasm.Text.Lines
import Disasm.Text.Quoted
import Disasm.Text.Search

namespace Disasm.Listing

/-- A dropped line, without its end, and why it was dropped. -/
structure Drop where
  kind : Noise
  body : String
  deriving DecidableEq, Repr

structure Cleaned where
  /-- The lines that stay, each with its end. -/
  kept : List String := []
  /-- The names of the label lines. -/
  labels : List String := []
  drops : List Drop := []
  deriving DecidableEq, Repr

namespace Cleaned

def text (c : Cleaned) : String :=
  String.join c.kept

/-- What a line in front adds to what was made of the lines after it. -/
def addLine (kinds : List Noise) (line : String) (after : Cleaned) : Cleaned :=
  let body := Text.body line
  match Noise.first? kinds body with
  | none => { after with kept := line :: after.kept }
  | some kind =>
    { after with
      labels := (labelName? body).toList ++ after.labels
      drops := ⟨kind, body⟩ :: after.drops }

/-- Whether a symbol was disassembled: the text names it, or it is a label. -/
def mentions (c : Cleaned) (symbol : String) : Bool :=
  Text.contains c.text symbol || c.labels.contains symbol

/-- The log of a cleaning: each dropped line, then the totals. -/
def events (c : Cleaned) : List Log.Event :=
  c.drops.map (fun d => ⟨.trace, "drop " ++ d.kind.name ++ ": " ++ Text.quoted d.body⟩) ++
    [⟨.debug, "cleanup dropped " ++ toString c.drops.length ++ " lines, kept " ++
      toString c.text.utf8ByteSize ++ " bytes"⟩]

end Cleaned

/-- A listing without the noise of some kinds, which are tried in turn. -/
def cleanOf (kinds : List Noise) (raw : String) : Cleaned :=
  (Text.lines raw).foldr (Cleaned.addLine kinds) {}

def clean (raw : String) : Cleaned :=
  cleanOf Noise.all raw

/-- A listing without angle brackets, which mark symbols and are not part of the assembly. -/
def stripAngleBrackets (raw : String) : String :=
  String.ofList (raw.toList.filter fun c => c != '<' && c != '>')

end Disasm.Listing
