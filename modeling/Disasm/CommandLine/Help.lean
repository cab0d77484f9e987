import Disasm.CommandLine.Grammar
import Disasm.Text.Search

namespace Disasm.CommandLine

open Text

def spaces (n : Nat) : String :=
  String.ofList (List.replicate n ' ')

/-- An environment, as far as a name has a value in it. -/
abbrev Environment := String → Option String

/-- A text of which all lines but the first are moved to the right. -/
def indented (n : Nat) (s : String) : String :=
  String.intercalate ("\n" ++ spaces n) (fields '\n' s)

namespace Opt

variable {α : Type}

/-- The letter and the name of an option, as they stand in front of its line. -/
def label (o : Opt α) : Styled :=
  match o.letter with
  | some c => [⟨.literal, String.ofList ['-', c]⟩, ", ", ⟨.literal, "--" ++ o.long⟩, o.suffix]
  | none => ["    ", ⟨.literal, "--" ++ o.long⟩, o.suffix]

def choices (o : Opt α) : List Choice :=
  match o.takes with
  | .value slot => slot.choices
  | _ => []

/-- Where the value comes from if the option is not given. -/
def origins (env : Environment) (o : Opt α) : List String :=
  (match o.variableName with
    | some name => ["[env: " ++ name ++ "=" ++ (env name).getD "" ++ "]"]
    | none => []) ++
  match o.byDefault with
    | some value => ["[default: " ++ value ++ "]"]
    | none => []

def summary (env : Environment) (o : Opt α) : String :=
  String.intercalate " " (o.about :: o.origins env ++
    if o.choices.isEmpty then []
    else ["[possible values: " ++ String.intercalate ", " (o.choices.map Choice.value) ++ "]"])

end Opt

def width (s : Styled) : Nat :=
  s.foldl (fun n span => n + span.text.length) 0

/-- Lines of a label and a text each, the texts in one column. -/
def table (rows : List (Styled × String)) : Styled :=
  let longest := rows.foldl (fun w r => max w (width r.1)) 0
  rows.flatMap fun r => Styled.join [["  "], r.1,
    [spaces (longest - width r.1), "  ", indented (longest + 4) r.2, "\n"]]

def margin : String := spaces 10

/-- A line behind the margin; the lines of a text of several stand below each other. -/
def marginLine (s : String) : Styled :=
  [margin, indented 10 s, "\n"]

def Opt.details {α : Type} (env : Environment) (o : Opt α) : Styled :=
  .join [marginLine o.about,
    if o.choices.isEmpty then [] else "\n" :: marginLine "Possible values:",
    o.choices.flatMap fun c => [margin, "- ", ⟨.literal, c.value⟩, ": ", c.about, "\n"],
    if (o.origins env).isEmpty then [] else marginLine "",
    (o.origins env).flatMap marginLine]

namespace Grammar

variable {α : Type}

def usageLine (g : Grammar α) : Styled :=
  .join [[⟨.heading, "Usage:"⟩, " ", ⟨.literal, g.command⟩, " [OPTIONS]"],
    (g.options.filter (·.required)).flatMap fun o => [" ", ⟨.literal, "--" ++ o.long⟩, o.suffix],
    [" ", g.operand.usage]]

def hasDetails (g : Grammar α) : Bool :=
  g.options.any fun o => !o.choices.isEmpty

/-- The options, with what each form says about the wish for help. -/
def helpOptions (g : Grammar α) (long : Bool) : List (Opt α) :=
  g.options.map fun o =>
    match o.takes with
    | .help =>
      if g.hasDetails then
        { o with about := o.about ++
            if long then " (see a summary with '-h')" else " (see more with '--help')" }
      else o
    | _ => o

/-- What both forms start with. -/
def opening (g : Grammar α) : Styled :=
  .join [[g.about, "\n\n"], g.usageLine, ["\n\n", ⟨.heading, "Arguments:"⟩, "\n"]]

def shortHelp (g : Grammar α) (env : Environment) : Styled :=
  .join [g.opening, table [([g.operand.usage], g.operandAbout)],
    ["\n", ⟨.heading, "Options:"⟩, "\n"],
    table ((g.helpOptions false).map fun o => (o.label, o.summary env))]

def longHelp (g : Grammar α) (env : Environment) : Styled :=
  .join [g.opening, ["  ", g.operand.usage, "\n"], marginLine g.operandAbout,
    ["\n", ⟨.heading, "Options:"⟩, "\n"],
    List.intercalate ["\n"]
      ((g.helpOptions true).map fun o => Styled.join [["  "], o.label, ["\n"], o.details env])]

def help (g : Grammar α) (env : Environment) (long : Bool) : Styled :=
  if long && g.hasDetails then g.longHelp env else g.shortHelp env

end Grammar

end Disasm.CommandLine
