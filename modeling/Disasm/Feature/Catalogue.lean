import Disasm.Log
import Disasm.Mnemonics

namespace Disasm

/-- An extension of the instruction set and the mnemonics that belong to it, in any case. -/
structure Feature where
  name : String
  mnemonics : List String
  deriving DecidableEq, Repr

/-- Features in the order in which they are reported. -/
structure Catalogue where
  features : List Feature
  deriving DecidableEq, Repr

structure Finding where
  feature : String
  mnemonics : List String
  deriving DecidableEq, Repr

/-- Findings in the order in which their features came up. -/
structure Findings where
  entries : List Finding := []
  deriving DecidableEq, Repr

namespace Findings

/-- Adds a mnemonic to a finding, at the end and at most once. -/
def addTo (mnemonic : String) (f : Finding) : Finding :=
  if mnemonic ∈ f.mnemonics then f else { f with mnemonics := f.mnemonics ++ [mnemonic] }

/-- Records that a mnemonic was found under a feature; a new feature comes last. -/
def recordIn (feature mnemonic : String) : List Finding → List Finding
  | [] => [⟨feature, [mnemonic]⟩]
  | f :: rest =>
    if f.feature = feature then addTo mnemonic f :: rest
    else f :: recordIn feature mnemonic rest

def record (feature mnemonic : String) (found : Findings) : Findings :=
  ⟨recordIn feature mnemonic found.entries⟩

def names (found : Findings) : List String :=
  found.entries.map Finding.feature

def size (found : Findings) : Nat :=
  found.entries.length

def isEmpty (found : Findings) : Bool :=
  found.entries.isEmpty

def get? (found : Findings) (feature : String) : Option (List String) :=
  (found.entries.find? fun f => f.feature == feature).map Finding.mnemonics

end Findings

namespace Catalogue

def size (c : Catalogue) : Nat :=
  c.features.length

def isEmpty (c : Catalogue) : Bool :=
  c.features.isEmpty

/-- Records a mnemonic of a feature if it is in the set. -/
def matchMnemonic (set : Mnemonics) (feature : String) (found : Findings) (mnemonic : String) :
    Findings :=
  let small := Text.lowercase mnemonic
  if set.contains small then found.record feature small else found

def matchFeature (set : Mnemonics) (found : Findings) (f : Feature) : Findings :=
  f.mnemonics.foldl (matchMnemonic set f.name) found

def findings (c : Catalogue) (set : Mnemonics) : Findings :=
  c.features.foldl (matchFeature set) {}

def detect (c : Catalogue) (text : String) : Findings :=
  c.findings (Listing.mnemonics text)

/-- The log of a search: how many features a set of mnemonics showed. -/
def events (c : Catalogue) (set : Mnemonics) : List Log.Event :=
  [⟨.debug, toString (c.findings set).size ++ " of " ++ toString c.size ++
    " feature sets matched " ++ toString set.size ++ " distinct mnemonics"⟩]

end Catalogue

end Disasm
