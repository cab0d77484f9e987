import Disasm.Text.Blank
import Disasm.Text.Search

namespace Disasm.Symbols

/-- The names between commas. Blanks around a name and empty names are dropped. -/
def split (s : String) : List String :=
  ((Text.fields ',' s).map Text.trim).filter fun name => !name.isEmpty

def join (names : List String) : String :=
  String.intercalate "," names

end Disasm.Symbols
