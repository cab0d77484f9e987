import Disasm.Error
import Disasm.Text.Search

namespace Disasm.Path

def isAbsolute (path : String) : Bool :=
  path.toList.head? = some '/'

/-- The components of a path, without those that lead nowhere. -/
def components (path : String) : List String :=
  (Text.fields '/' path).filter fun c => c != "" && c != "."

/-- The path in normal form. Steps to the parent directory stay, for what they lead to is not
known without looking. -/
def normalize (path : String) : String :=
  (if isAbsolute path then "/" else "") ++ String.intercalate "/" (components path)

/-- Takes the path of a file that exists, in normal form. -/
def accept (isFile : String → Bool) (path : String) : Except Error String :=
  if isFile path then .ok (normalize path) else .error (.invalidPath path)

end Disasm.Path
