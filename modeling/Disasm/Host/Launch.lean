import Disasm.Host.Shell.Run

namespace Disasm.Host

open Tool

def argumentLimit : Nat := 131071

/-- How much of its input a program may leave unread without the giver noticing. -/
def pipeCapacity : Nat := 65536

def stepLimit : Nat := 100000

/-- The number of the process of a program that is started. -/
def firstProcess : Nat := 1000

/-- The system and the process as they are when a program starts: what is read, and two places for
what is written. -/
def startState (m : Machine) (input : Option String) : Shell.State where
  system := {
    tree := m.tree
    streams := #[match input with
      | none => .void
      | some text => .source (octets text).toList false, .sink [], .sink []]
    next := firstProcess + 1
    alive := [firstProcess] }
  process := {
    name := "sh", number := firstProcess, shell := firstProcess, parent := firstProcess - 1
    descriptors := [(0, 0), (1, 1), (2, 2)]
    directory := m.directory
    bindings := m.environment.reverse.map fun (name, value) =>
      (name, { value := some value, exported := true }) }

/-- Runs a program to its end and, behind it, what it has left in the background. -/
def runToEnd (p : Program) : Shell.Act ExitStatus := do
  let status ← Shell.Act.endOf (← Shell.Act.observe (Shell.program p stepLimit))
  let _ ← Shell.Act.observe (Shell.runWaiting stepLimit)
  return status

/-- What was written to one of the places for it. -/
def collected (s : Shell.State) (n : Nat) : List UInt8 :=
  match s.system.streams.getD n .void with
  | .sink written => toBytes written.reverse.flatten
  | _ => []

/-- Whether more was left unread than fits into a pipe. -/
def leftInput (s : Shell.State) : Bool :=
  match s.system.streams.getD 0 .void with
  | .source rest _ => pipeCapacity < rest.length
  | _ => false

def finished (status : ExitStatus) (s : Shell.State) : Finished where
  status := status
  stdout := collected s 1
  stderr := collected s 2
  leftInput := leftInput s

def launch : Launcher Machine := fun c m =>
  if (c.program :: c.args).any fun s => s.toList.contains '\x00' then
    (.error .zeroCharacter, m)
  else match m.resolve (octets c.program) (c.args.map octets) with
    | .error e => (.error (.system e), m)
    | .ok p =>
      if c.args.any fun a => argumentLimit < a.utf8ByteSize then
        (.error (.system .argumentsTooLong), m)
      else
        match (runToEnd p).run.run (startState m c.stdin) with
        | (.ok status, s) => (.ok (finished status s), { m with tree := s.system.tree })
        | (.error _, s) => (.ok (finished (.code 0) s), { m with tree := s.system.tree })

end Disasm.Host
