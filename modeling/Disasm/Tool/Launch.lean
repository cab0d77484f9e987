import Disasm.Text.Utf8
import Disasm.Tool.Session

namespace Disasm.Tool

inductive ExitStatus where
  | code (n : Nat)
  | signal (n : Nat)
  deriving DecidableEq, Repr

namespace ExitStatus

def success (s : ExitStatus) : Bool :=
  s = .code 0

def signalNames : List (Nat × String) := [
  (1, "SIGHUP"), (2, "SIGINT"), (3, "SIGQUIT"), (4, "SIGILL"), (5, "SIGTRAP"), (6, "SIGABRT"),
  (7, "SIGBUS"), (8, "SIGFPE"), (9, "SIGKILL"), (10, "SIGUSR1"), (11, "SIGSEGV"),
  (12, "SIGUSR2"), (13, "SIGPIPE"), (14, "SIGALRM"), (15, "SIGTERM"), (16, "SIGSTKFLT"),
  (17, "SIGCHLD"), (18, "SIGCONT"), (19, "SIGSTOP"), (20, "SIGTSTP"), (21, "SIGTTIN"),
  (22, "SIGTTOU"), (23, "SIGURG"), (24, "SIGXCPU"), (25, "SIGXFSZ"), (26, "SIGVTALRM"),
  (27, "SIGPROF"), (28, "SIGWINCH"), (29, "SIGIO"), (30, "SIGPWR"), (31, "SIGSYS")]

def describe : ExitStatus → String
  | .code n => "exit status: " ++ toString n
  | .signal n =>
    "signal: " ++ toString n ++
      match signalNames.lookup n with
      | some name => " (" ++ name ++ ")"
      | none => ""

end ExitStatus

inductive SystemError where
  | noEntry
  | inputOutput
  | argumentsTooLong
  | badFormat
  | denied
  | notDirectory
  | nameTooLong
  | tooManyLinks
  deriving DecidableEq, Repr

namespace SystemError

def number : SystemError → Nat
  | .noEntry => 2
  | .inputOutput => 5
  | .argumentsTooLong => 7
  | .badFormat => 8
  | .denied => 13
  | .notDirectory => 20
  | .nameTooLong => 36
  | .tooManyLinks => 40

def text : SystemError → String
  | .noEntry => "No such file or directory"
  | .inputOutput => "Input/output error"
  | .argumentsTooLong => "Argument list too long"
  | .badFormat => "Exec format error"
  | .denied => "Permission denied"
  | .notDirectory => "Not a directory"
  | .nameTooLong => "File name too long"
  | .tooManyLinks => "Too many levels of symbolic links"

def message (e : SystemError) : String :=
  e.text ++ " (os error " ++ toString e.number ++ ")"

end SystemError

/-- Why there is no program that has ended. -/
inductive LaunchFault where
  /-- A name or an argument holds a character that ends a name for the system. -/
  | zeroCharacter
  /-- The program was not started. -/
  | system (e : SystemError)
  /-- The program was started, and then its input or its output broke down; `leftInput` is as in a
  program that has ended. -/
  | broken (e : SystemError) (leftInput : Bool)
  deriving DecidableEq, Repr

/-- A fault as an error about a tool. A program that is not there is told apart from one that
cannot be started. -/
def LaunchFault.error (tool : String) : LaunchFault → Error
  | .zeroCharacter => .toolNotStarted tool "nul byte found in provided data"
  | .system .noEntry => .toolMissing tool
  | .system e => .toolNotStarted tool e.message
  | .broken e _ => .io e.message

structure Finished where
  status : ExitStatus
  stdout : List UInt8
  stderr : List UInt8
  /-- Whether it ended or closed its input before all of it could be handed over. -/
  leftInput : Bool := false
  deriving DecidableEq, Repr

def Finished.output (f : Finished) : Output where
  success := f.status.success
  stdout := Text.Utf8.decode f.stdout
  stderr := Text.Utf8.decode f.stderr

abbrev Launcher (σ : Type) := Call → σ → Except LaunchFault Finished × σ

def startEvent (c : Call) : Log.Event :=
  ⟨.debug, "exec: " ++ c.program ++ " " ++ String.intercalate " " c.args⟩

/-- The log entry about input that a program did not read. -/
def inputEvents (c : Call) (leftInput : Bool) : List Log.Event :=
  if leftInput then [⟨.debug, c.program ++ " closed stdin early"⟩] else []

def endEvents (c : Call) (f : Finished) : List Log.Event :=
  inputEvents c f.leftInput ++
    [⟨.debug, c.program ++ " exited with " ++ f.status.describe ++ " (" ++
      toString f.output.stdout.utf8ByteSize ++ " bytes stdout, " ++
      toString f.output.stderr.utf8ByteSize ++ " bytes stderr)"⟩]

def LaunchFault.events (c : Call) : LaunchFault → List Log.Event
  | .zeroCharacter | .system _ => []
  | .broken _ leftInput => inputEvents c leftInput

/-- The runner over a launcher. -/
def Launcher.runner {σ : Type} (launch : Launcher σ) : Runner σ := fun c s =>
  match launch c s with
  | (.error fault, s) => ⟨.error (fault.error c.program), startEvent c :: fault.events c, s⟩
  | (.ok f, s) => ⟨.ok f.output, startEvent c :: endEvents c f, s⟩

end Disasm.Tool
