import Disasm.Host.Launch
import Disasm.Program

namespace Disasm.Main

open Host

def variableNames : List String :=
  ["PATH", Command.objdumpVariable, Command.mcaVariable]

/-- The value in an argument, behind its first equals sign. -/
def attached (argument : String) : List String :=
  match argument.toList.dropWhile (· != '=') with
  | [] => []
  | _ :: value => [String.ofList value]

/-- The paths that a command line may lead to: files that it names, and tools, wherever programs
are looked for. -/
def paths (m : Machine) (args : List String) : List String :=
  let names := args ++ args.flatMap attached ++ m.environment.map Prod.snd ++
    [Command.usualTools.objdump, Command.usualTools.mca]
  names ++ (Text.fields ':' m.searchPath).flatMap fun directory =>
    names.map (Machine.inDirectory directory)

/-- Whether a file is a script; only scripts can be run. -/
def isScript (content : List UInt8) : Bool :=
  (Machine.interpreter? (ofBytes content)).isSome

/-- Puts a file of the system into the machine, if there is one. -/
def load (m : Machine) (path : String) : IO Machine := do
  try
    let content := (← IO.FS.readBinFile path).toList
    return m.addFile path content (isScript content)
  catch _ => return m

def environment : IO (List (String × String)) := do
  let values ← variableNames.mapM fun name => return (name, ← IO.getEnv name)
  return values.filterMap fun (name, value) => value.map (name, ·)

def run (command : Command) (args : List String) : IO UInt32 := do
  let given ← environment
  let fresh := Machine.fresh given
  let m ← (paths fresh args).foldlM load fresh
  let runner := Tool.Launcher.runner launch
  let exit := (Program.run command m.isFile (fun name => given.lookup name) runner args m).exit
  IO.print exit.stdout
  IO.eprint exit.stderr
  return exit.status.toUInt32

end Disasm.Main

/-- Without the name of a command there is nothing to do. -/
def main (args : List String) : IO UInt32 := do
  match args with
  | name :: rest =>
    match Disasm.Command.ofName? name with
    | some command => Disasm.Main.run command rest
    | none => return 2
  | [] => return 2
