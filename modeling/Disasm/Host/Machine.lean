import Disasm.Host.FileTree
import Disasm.Host.Octets
import Disasm.Path

namespace Disasm.Host

open Tool

structure Machine where
  tree : FileTree
  directory : Place
  environment : List (String × String) := []

/-- A program that can run: a utility and its arguments, the name it was called by first. -/
structure Program where
  utility : String
  args : List String

def utilities : List String :=
  ["[", "awk", "base64", "basename", "bash", "cat", "chmod", "cp", "cut", "dash", "dd", "dirname",
    "echo", "egrep", "env", "expr", "false", "fgrep", "fold", "grep", "head", "ls", "mawk",
    "mkdir", "mv", "nawk", "nl", "od", "paste", "printenv", "printf", "pwd", "rev", "rm", "rmdir",
    "sed", "seq", "sh", "sleep", "sort", "tac", "tail", "tee", "test", "touch", "tr", "true",
    "uniq", "wc", "xargs", "yes"]

def workPlace : Place := ["tmp", "work"]

/-- The tree of a system on which nothing else is installed. -/
def systemTree : FileTree :=
  let files : List (Place × Entry) :=
    [(["dev", "null"], .void), (["dev", "zero"], .zeros), (["dev", "stdin"], .descriptor 0),
      (["dev", "stdout"], .descriptor 1), (["dev", "stderr"], .descriptor 2),
      (["etc", "passwd"], .file [] false)] ++
      utilities.flatMap fun name =>
        [(["bin", name], .utility name), (["usr", "bin", name], .utility name)]
  files.foldl (fun t f => t.make f.1 f.2) {}

/-- A machine that has the utilities and an empty directory to work in. -/
def Machine.fresh (environment : List (String × String)) : Machine where
  tree := systemTree.makeDirectories workPlace
  directory := workPlace
  environment := environment.map fun (name, value) => (octets name, octets value)

namespace Machine

/-- The directories in which programs are looked for, between colons. -/
def searchPath (m : Machine) : String :=
  (m.environment.lookup "PATH").getD "/bin:/usr/bin"

/-- The place of a path, seen from the directory of work, without looking at what is there. -/
def placeOf (m : Machine) (path : String) : Place :=
  (Path.components (octets path)).foldl
    (fun place c => if c = ".." then place.dropLast else place ++ [c])
    (if Path.isAbsolute path then [] else m.directory)

def addDirectory (m : Machine) (path : String) : Machine :=
  { m with tree := m.tree.makeDirectories (m.placeOf path) }

def addFile (m : Machine) (path : String) (content : List UInt8) (executable : Bool) : Machine :=
  { m with tree := m.tree.make (m.placeOf path) (.file (ofBytes content) executable) }

def isFile (m : Machine) (path : String) : Bool :=
  m.tree.isFile m.directory (octets path)

def isGap (c : Char) : Bool :=
  c = ' ' || c = '\t'

/-- How much of a file the system looks at to find its interpreter. -/
def firstLineLimit : Nat := 256

/-- The first line of a script, without its end, if it is not cut off in the middle of the name of
an interpreter. Behind the end of a file stand zeros. -/
def firstLine? (content : List Char) : Option (List Char) :=
  let start := content.take firstLineLimit
  if start.contains '\n' then some (start.takeWhile (· != '\n'))
  else
    let padded := (start ++ List.replicate firstLineLimit '\x00').take (firstLineLimit - 1)
    match (padded.drop 2).dropWhile isGap with
    | [] => none
    | name => if name.any fun c => isGap c || c = '\x00' then some padded else none

/-- The interpreter named in the first line of a script, and an argument for it. -/
def interpreter? (content : List Char) : Option (String × List String) :=
  match firstLine? content with
  | some ('#' :: '!' :: line) =>
    let line := (line.reverse.dropWhile isGap).reverse.dropWhile isGap
    if line.isEmpty then none
    else
      let name := line.takeWhile fun c => !isGap c && c != '\x00'
      let argument := match line.drop name.length with
        | '\x00' :: _ | [] => []
        | rest => (rest.dropWhile isGap).takeWhile (· != '\x00')
      some (String.ofList name, if argument.isEmpty then [] else [String.ofList argument])
  | _ => none

/-- How many interpreters may stand behind each other. -/
def interpreterDepth : Nat := 5

/-- The program that a path leads to. `called` is the name that it is given, or none if it is
called by its path. -/
def program (m : Machine) (path called : String) (args : List String) :
    Nat → Except SystemError Program
  | 0 => .error .tooManyLinks
  | depth + 1 =>
    match m.tree.find m.directory path with
    | .error e => .error e
    | .ok .directory | .ok .void | .ok .zeros | .ok (.descriptor _) => .error .denied
    | .ok (.utility name) => .ok ⟨name, called :: args⟩
    | .ok (.file content executable) =>
      if !executable then .error .denied
      else match interpreter? content with
        | none => .error .badFormat
        | some (name, argument) => m.program name name (argument ++ path :: args) depth

/-- The path of a program in a directory; the empty name is the directory of work. -/
def inDirectory (directory name : String) : String :=
  if directory.isEmpty then name else directory ++ "/" ++ name

/-- Looks for a program in some directories. A program that may not be run does not end the search,
but is the reason given if there is no other. -/
def search (m : Machine) (name : String) (args : List String) (denied : Bool)
    (last : SystemError) : List String → Except SystemError Program
  | [] => .error (if denied then .denied else last)
  | directory :: rest =>
    match m.program (inDirectory directory name) name args interpreterDepth with
    | .error .denied => m.search name args true .denied rest
    | .error .noEntry => m.search name args denied .noEntry rest
    | .error .notDirectory => m.search name args denied .notDirectory rest
    | result => result

/-- The program of a name. A name with a slash is a path; any other is looked for. -/
def resolve (m : Machine) (name : String) (args : List String) : Except SystemError Program :=
  if name.isEmpty then .error .noEntry
  else if name.toList.contains '/' then m.program name name args interpreterDepth
  else m.search name args false .noEntry (Text.fields ':' m.searchPath)

end Machine

end Disasm.Host
