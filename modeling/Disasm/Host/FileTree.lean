import Disasm.Text.Search
import Disasm.Tool.Launch

namespace Disasm.Host

open Tool

/-- What stands in a place of the tree. The content of a file is bytes, as characters. -/
inductive Entry where
  | directory
  | file (content : List Char) (executable : Bool)
  /-- A sink that is always empty. -/
  | void
  /-- A sink in which there are zeros without end. -/
  | zeros
  /-- What a descriptor of the process that opens it is joined to. -/
  | descriptor (n : Nat)
  /-- A program of the system. -/
  | utility (name : String)
  deriving DecidableEq

/-- So many zeros as are read at most where they have no end. -/
def manyZeros : List Char := List.replicate (Nat.pow 2 20) '\x00'

/-- A place: the components of its path from the root. -/
abbrev Place := List String

structure FileTree where
  entries : List (Place × Entry) := []

/-- The longest name of a component, and of a path, in bytes. -/
def nameLimit : Nat := 255
def pathLimit : Nat := 4095

namespace FileTree

/-- What stands in a place. The root is a directory. -/
def entry? (t : FileTree) (place : Place) : Option Entry :=
  if place.isEmpty then some .directory else t.entries.lookup place

def put (t : FileTree) (place : Place) (e : Entry) : FileTree :=
  ⟨(place, e) :: t.entries.filter fun x => x.1 != place⟩

def remove (t : FileTree) (place : Place) : FileTree :=
  ⟨t.entries.filter fun x => x.1 != place⟩

def names (t : FileTree) (place : Place) : List String :=
  let below := (t.entries.map Prod.fst).filter fun p =>
    p.length = place.length + 1 ∧ p.take place.length = place
  (below.filterMap List.getLast?).mergeSort fun a b => !(b < a)

def putDirectory (t : FileTree) (place : Place) : FileTree :=
  if (t.entry? place).isSome then t else t.put place .directory

/-- Makes a directory and those that it stands in. -/
def makeDirectories (t : FileTree) (place : Place) : FileTree :=
  (List.range (place.length + 1)).foldl (fun t n => t.putDirectory (place.take n)) t

/-- Puts something into a place, and makes the directories that it stands in. -/
def make (t : FileTree) (place : Place) (e : Entry) : FileTree :=
  (t.makeDirectories place.dropLast).put place e

def follow (t : FileTree) (place : Place) : List String → Except SystemError Place
  | [] => .ok place
  | c :: rest =>
    match t.entry? place with
    | some .directory =>
      if c = "" ∨ c = "." then follow t place rest
      else if c = ".." then follow t place.dropLast rest
      else if nameLimit < c.length then .error .nameTooLong
      else if rest.isEmpty ∨ (t.entry? (place ++ [c])).isSome then follow t (place ++ [c]) rest
      else .error .noEntry
    | some _ => .error .notDirectory
    | none => .error .noEntry

/-- The place that a path leads to, seen from a directory. Nothing may stand there yet. -/
def locate (t : FileTree) (directory : Place) (path : String) : Except SystemError Place :=
  if path.isEmpty then .error .noEntry
  else if pathLimit < path.length then .error .nameTooLong
  else
    match Text.fields '/' path with
    | "" :: components => t.follow [] components
    | components => t.follow directory components

/-- What a path leads to, seen from a directory. -/
def find (t : FileTree) (directory : Place) (path : String) : Except SystemError Entry :=
  match t.locate directory path with
  | .error e => .error e
  | .ok place =>
    match t.entry? place with
    | some e => .ok e
    | none => .error .noEntry

/-- Whether a path leads to a file with content of its own. -/
def isFile (t : FileTree) (directory : Place) (path : String) : Bool :=
  !path.toList.contains '\x00' &&
    match t.find directory path with
    | .ok (.file ..) | .ok (.utility _) => true
    | _ => false

end FileTree

end Disasm.Host
