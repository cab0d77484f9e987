namespace Disasm

inductive Error where
  /-- No program of this name is installed. -/
  | toolMissing (tool : String)
  /-- The program ran and reported failure; `stderr` is what it wrote about it. -/
  | toolFailed (tool stderr : String)
  /-- The program is there and could not be started. -/
  | toolNotStarted (tool cause : String)
  /-- The disassembly does not show the function that was asked for. -/
  | symbolMissing (symbol file : String)
  /-- The path does not lead to a file. -/
  | invalidPath (path : String)
  | invalidArgument (reason : String)
  /-- Input or output broke down while a program was running. -/
  | io (cause : String)
  deriving DecidableEq, Repr

def Error.message : Error → String
  | .toolMissing tool => "Tool '" ++ tool ++ "' not found"
  | .toolFailed tool stderr => "Failed to run '" ++ tool ++ "': " ++ stderr
  | .toolNotStarted tool cause => "Failed to start '" ++ tool ++ "': " ++ cause
  | .symbolMissing symbol file =>
    "Can't find the '" ++ symbol ++ "' symbol in the file '" ++ file ++ "'."
  | .invalidPath path => "'" ++ path ++ "' is not a valid path to the file"
  | .invalidArgument reason => "invalid argument: " ++ reason
  | .io cause => cause

end Disasm
