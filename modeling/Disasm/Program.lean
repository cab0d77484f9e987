import Disasm.Command.Analysis
import Disasm.Command.Features

namespace Disasm

inductive Command where
  | analysis
  | features
  deriving DecidableEq, Repr

namespace Command

def all : List Command := [.analysis, .features]

def name : Command → String
  | .analysis => Analysis.grammar.command
  | .features => (Features.grammar fun _ => false).command

def ofName? (name : String) : Option Command :=
  all.find? fun c => c.name == name

end Command

structure Exit where
  status : Nat
  stdout : String := ""
  stderr : String := ""
  deriving DecidableEq, Repr

/-- A program that has ended: its exit and the trace of its work. -/
structure ProgramRun (σ : Type) where
  exit : Exit
  trace : List Tool.Step
  state : σ

namespace Program

open CommandLine Tool

variable {σ : Type}

/-- Ends without any work: help, or an error in the command line. -/
def stopped (help : Bool → Text.Styled) (stop : Stop) (s : σ) : ProgramRun σ :=
  match stop with
  | .help long => ⟨{ status := 0, stdout := (help long).written }, [], s⟩
  | .misuse e => ⟨{ status := 2, stderr := e.message.written }, [], s⟩

def finish (clock : Log.Clock) (verbosity : Nat) (work : Session σ String) (s : σ) :
    ProgramRun σ :=
  let run := work s
  let log := Log.renderText clock (Log.shown (.ofVerbosity verbosity) (events run.trace))
  match run.result with
  | .ok report => ⟨⟨0, report ++ "\n", log⟩, run.trace, run.state⟩
  | .error e => ⟨⟨1, "", log ++ e.message ++ "\n"⟩, run.trace, run.state⟩

def run (command : Command) (isFile : String → Bool) (env : Environment) (runner : Runner σ)
    (args : List String) (s : σ) (clock : Log.Clock := Log.untimed) : ProgramRun σ :=
  match command with
  | .analysis =>
    match Command.Analysis.Options.parse env args with
    | .error stop => stopped (Command.Analysis.grammar.help env) stop s
    | .ok o => finish clock o.verbosity (o.session runner) s
  | .features =>
    match Command.Features.Options.parse isFile env args with
    | .error stop => stopped ((Command.Features.grammar isFile).help env) stop s
    | .ok o => finish clock o.verbosity (o.session runner) s

end Program

end Disasm
