namespace Disasm.Host

def isSpaceByte (c : Char) : Bool :=
  c = ' ' || (9 ≤ c.toNat && c.toNat ≤ 13)

/-- Whether a character is one that can be seen, or a space. -/
def isPrintable (c : Char) : Bool :=
  0x20 ≤ c.toNat && c.toNat < 0x7F

def charClasses : List (String × (Char → Bool)) := [
  ("alpha", Char.isAlpha), ("digit", Char.isDigit), ("alnum", Char.isAlphanum),
  ("upper", Char.isUpper), ("lower", Char.isLower), ("space", isSpaceByte),
  ("blank", fun c => c = ' ' || c = '\t'),
  ("punct", fun c => isPrintable c && c != ' ' && !c.isAlphanum),
  ("print", isPrintable), ("graph", fun c => isPrintable c && c != ' '),
  ("cntrl", fun c => c.toNat < 0x20 || c.toNat = 0x7F),
  ("xdigit", fun c => c.isDigit || ('a' ≤ c && c ≤ 'f') || ('A' ≤ c && c ≤ 'F'))]

/-- Whether a character is of the class of a name. -/
def isOfClass (name : String) (c : Char) : Bool :=
  match charClasses.lookup name with
  | some p => p c
  | none => false

inductive SetItem where
  | range (first last : Char)
  | named (className : String)
  deriving DecidableEq

def SetItem.covers (c : Char) : SetItem → Bool
  | .range first last => first ≤ c && c ≤ last
  | .named name => isOfClass name c

end Disasm.Host
