import Disasm.Error
import Disasm.Log
import Disasm.Text.Blank

namespace Disasm.Tool

/-- One call of a tool. Without `stdin` the tool has nothing to read. -/
structure Call where
  program : String
  args : List String
  stdin : Option String := none
  deriving DecidableEq, Repr

/-- What a tool that ran has left. -/
structure Output where
  success : Bool := true
  stdout : String := ""
  stderr : String := ""
  deriving DecidableEq, Repr

/-- The output of a tool that succeeded; a failure is described by what the tool wrote about it,
without trailing blanks. -/
def Output.result (o : Output) (tool : String) : Except Error String :=
  if o.success then .ok o.stdout else .error (.toolFailed tool (Text.trimEnd o.stderr))

structure Reply (σ : Type) where
  result : Except Error Output
  /-- What the runner has to say in the log. -/
  events : List Log.Event := []
  /-- The runner for the next call. -/
  state : σ

/-- An answerer of calls. -/
abbrev Runner (σ : Type) := Call → σ → Reply σ

inductive Step where
  | call (c : Call)
  | event (e : Log.Event)
  deriving DecidableEq, Repr

def calls (trace : List Step) : List Call :=
  trace.filterMap fun
    | .call c => some c
    | .event _ => none

def events (trace : List Step) : List Log.Event :=
  trace.filterMap fun
    | .call _ => none
    | .event e => some e

@[simp] theorem calls_append (s t : List Step) : calls (s ++ t) = calls s ++ calls t :=
  List.filterMap_append

@[simp] theorem events_append (s t : List Step) : events (s ++ t) = events s ++ events t :=
  List.filterMap_append

structure Run (σ α : Type) where
  result : Except Error α
  trace : List Step
  state : σ

/-- Work that ends with a value or with an error. -/
def Session (σ α : Type) : Type := σ → Run σ α

namespace Session

variable {σ α β : Type}

def done (a : α) : Session σ α := fun s => ⟨.ok a, [], s⟩

/-- First one piece of work and then, if it went well, another. -/
def andThen (m : Session σ α) (f : α → Session σ β) : Session σ β := fun s =>
  match m s with
  | ⟨.ok a, trace, s⟩ =>
    let next := f a s
    ⟨next.result, trace ++ next.trace, next.state⟩
  | ⟨.error e, trace, s⟩ => ⟨.error e, trace, s⟩

instance : Monad (Session σ) where
  pure := done
  bind := andThen

def settle (r : Except Error α) : Session σ α := fun s => ⟨r, [], s⟩

def note (events : List Log.Event) : Session σ Unit := fun s => ⟨.ok (), events.map .event, s⟩

def call (runner : Runner σ) (c : Call) : Session σ Output := fun s =>
  let reply := runner c s
  ⟨reply.result, .call c :: reply.events.map .event, reply.state⟩

end Session

end Disasm.Tool
