import Disasm.Report.Json

namespace Disasm.Report

inductive Format where
  /-- Each feature with its mnemonics. -/
  | text
  /-- The names of the features. -/
  | list
  | json
  deriving DecidableEq, Repr

namespace Format

def all : List Format := [.text, .list, .json]

def name : Format → String
  | .text => "text"
  | .list => "list"
  | .json => "json"

def about : Format → String
  | .text => "Feature names with the mnemonics that matched them"
  | .list => "Feature names only"
  | .json => "JSON object, feature name to matched mnemonics"

def ofName? (name : String) : Option Format :=
  all.find? fun f => f.name == name

def default : Format := .text

end Format

def noneFound : String := "None of the known instruction sets were found"

def header : String := "Found these CPU features:"

/-- A feature on a line: its name and its mnemonics. -/
def findingLine (f : Finding) : String :=
  f.feature ++ ": " ++ String.intercalate ", " f.mnemonics

/-- The header and a line for every finding. -/
def listing (line : Finding → String) (found : Findings) : String :=
  if found.isEmpty then noneFound
  else String.intercalate "\n" (header :: found.entries.map line)

def render (found : Findings) : Format → String
  | .json => Json.object found
  | .text => listing findingLine found
  | .list => listing Finding.feature found

end Disasm.Report
