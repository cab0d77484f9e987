import Disasm.Text.Lines

namespace Disasm.Log

/-- How much an event matters, the most important first. -/
inductive Level where
  | warn
  | info
  | debug
  | trace
  deriving DecidableEq, Repr

def Level.rank : Level → Nat
  | .warn => 0
  | .info => 1
  | .debug => 2
  | .trace => 3

/-- The least important level that is shown, by the number of times the user asked for more. -/
def Level.ofVerbosity : Nat → Level
  | 0 => .warn
  | 1 => .info
  | 2 => .debug
  | _ => .trace

def Level.name : Level → String
  | .warn => "WARN"
  | .info => "INFO"
  | .debug => "DEBUG"
  | .trace => "TRACE"

/-- The name in five columns, flush right. -/
def Level.column : Level → String
  | .warn => " WARN"
  | .info => " INFO"
  | .debug => "DEBUG"
  | .trace => "TRACE"

structure Event where
  level : Level
  message : String
  deriving DecidableEq, Repr

/-- Whether an event is shown when `limit` is the least important level shown. -/
def Event.shownAt (limit : Level) (e : Event) : Bool :=
  e.level.rank ≤ limit.rank

def shown (limit : Level) (events : List Event) : List Event :=
  events.filter (·.shownAt limit)

/-- A character as it is printed: those that steer a terminal are spelled out. -/
def escape (c : Char) : List Char :=
  if c = '\x1b' then ['\\', 'x', '1', 'b']
  else if c = '\x07' then ['\\', 'x', '0', '7']
  else if c = '\x08' then ['\\', 'x', '0', '8']
  else if c = '\x0c' then ['\\', 'x', '0', 'c']
  else if c = '\x7f' then ['\\', 'x', '7', 'f']
  else if 0x80 ≤ c.toNat ∧ c.toNat ≤ 0x9F then
    ['\\', 'u', '\x7b'] ++ Nat.toDigits 16 c.toNat ++ ['\x7d']
  else [c]

/-- The printed line of an event; a message of several lines gives several lines. -/
def Event.line (e : Event) : String :=
  e.level.column ++ " " ++ String.ofList (e.message.toList.flatMap escape)

/-- What the clock writes in front of the events as they are printed, the time and a blank. -/
abbrev Clock := Nat → String

def untimed : Clock := fun _ => ""

def renderText (clock : Clock) (events : List Event) : String :=
  String.join (events.mapIdx fun i e => clock i ++ e.line ++ "\n")

/-- The printed lines of some events, without the time. -/
def renderLines (events : List Event) : List String :=
  Text.contents (renderText untimed events)

end Disasm.Log
