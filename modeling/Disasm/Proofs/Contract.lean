import Disasm.Program
import Disasm.Proofs.CountedFlags
import Disasm.Proofs.Sessions

namespace Disasm

namespace Log

theorem rank_ofVerbosity (n : Nat) : (Level.ofVerbosity n).rank = min n 3 := by
  match n with
  | 0 | 1 | 2 => rfl
  | n + 3 => simp [Level.ofVerbosity, Level.rank]

/-- Of what a louder log shows, a quieter one shows what it would show of everything. -/
theorem shown_of_le {n m : Nat} (h : n ≤ m) (events : List Event) :
    shown (.ofVerbosity n) events =
      (shown (.ofVerbosity m) events).filter (·.shownAt (.ofVerbosity n)) := by
  rw [shown, shown, List.filter_filter]
  refine List.filter_congr fun e _ => ?_
  simp only [Event.shownAt, rank_ofVerbosity]
  rw [Bool.eq_iff_iff]
  simp only [decide_eq_true_eq, Bool.and_eq_true]
  omega

end Log

namespace Command

open CommandLine

section

variable {α β : Type} [DecidableEq α] {t : α} {l l' : List α}

theorem findSome?_of_filter (h : l.filter (· ≠ t) = l'.filter (· ≠ t)) {f : α → Option β}
    (hf : f t = none) : l.findSome? f = l'.findSome? f := by
  have hfilter : ∀ k : List α, (k.filter (· ≠ t)).findSome? f = k.findSome? f := by
    intro k
    rw [← List.head?_filterMap, ← List.head?_filterMap, List.filterMap_filter]
    refine congrArg List.head? (List.filterMap_congr fun a _ => ?_)
    by_cases ha : a = t <;> simp [ha, hf]
  rw [← hfilter l, h, hfilter]

theorem contains_of_filter (h : l.filter (· ≠ t) = l'.filter (· ≠ t)) {a : α} (ha : a ≠ t) :
    l.contains a = l'.contains a := by
  have hfilter : ∀ k : List α, (k.filter (· ≠ t)).contains a = k.contains a := by
    intro k
    simp [ha]
  rw [← hfilter l, h, hfilter]

end

section

variable {α β : Type} [DecidableEq α] {g : Grammar α} {t : α} {f : List α → β}
  {parse : List String → Except Stop β} {R : β → β → Prop} {args args' : List String}

/-- A command that makes the same of settings that are the same but for those of the flags that
count reads command lines alike that are the same but for such flags. -/
theorem akin_of_sameButFlags (hg : g.Tallies t)
    (hparse : ∀ args, parse args = (g.parse args).map f)
    (hf : ∀ l l', l.filter (· ≠ t) = l'.filter (· ≠ t) → R (f l) (f l'))
    (h : SameButFlags g false args args') : Akin R (parse args) (parse args') := by
  rw [hparse, hparse]
  exact (Grammar.parse_akin hg h).map hf

end

variable {env : Environment} {args args' : List String}

/-- Flags that count change the verbosity and nothing else. -/
theorem Analysis.parse_of_sameButFlags (h : SameButFlags Analysis.grammar false args args') :
    Akin (fun o o' => o' = { o with verbosity := o'.verbosity })
      (Analysis.Options.parse env args) (Analysis.Options.parse env args') := by
  refine akin_of_sameButFlags (t := .verbose) (f := Analysis.Options.ofSettings env)
    (Grammar.tallies_of_all (by decide) (by decide)) ?_ ?_ h
  · intro args
    unfold Analysis.Options.parse
    cases Analysis.grammar.parse args <;> rfl
  · intro l l' hl
    have hstats : l'.contains .allStats = l.contains .allStats :=
      (contains_of_filter hl (by decide)).symm
    have hviews : l'.contains .allViews = l.contains .allViews :=
      (contains_of_filter hl (by decide)).symm
    simp only [Analysis.Options.ofSettings, hstats, hviews, findSome?_of_filter hl.symm]

theorem Features.parse_of_sameButFlags {isFile : String → Bool}
    (h : SameButFlags (Features.grammar isFile) false args args') :
    Akin (fun o o' => o' = { o with verbosity := o'.verbosity })
      (Features.Options.parse isFile env args) (Features.Options.parse isFile env args') := by
  have husage : (Features.grammar isFile).options.map Opt.usage = ["--symbol <SYMBOL>",
    "--cpu <CPU>", "--format <FORMAT>", "--objdump <OBJDUMP>", "--verbose...", "--help"] := rfl
  refine akin_of_sameButFlags (t := .verbose) (f := Features.Options.ofSettings env)
    (Grammar.tallies_of_all (by rw [husage]; decide) rfl) ?_ ?_ h
  · intro args
    unfold Features.Options.parse
    cases (Features.grammar isFile).parse args <;> rfl
  · intro l l' hl
    simp only [Features.Options.ofSettings, findSome?_of_filter hl.symm]

/-- Command lines of a command that are the same but for the number of flags for a louder log. -/
def SameButFlags (isFile : String → Bool) : Command → List String → List String → Prop
  | .analysis => CommandLine.SameButFlags Analysis.grammar false
  | .features => CommandLine.SameButFlags (Features.grammar isFile) false

end Command

namespace Program

open CommandLine Tool

variable {σ : Type}

structure Work (σ : Type) where
  verbosity : Nat
  session : Session σ String

def Work.logged (w : Work σ) (s : σ) : List Log.Event :=
  Log.shown (.ofVerbosity w.verbosity) (events (w.session.run s).trace)

section

variable (command : Command) (isFile : String → Bool) (env : Environment) (runner : Runner σ)
  (args : List String) (s : σ) (clock : Log.Clock)

/-- The inspection that a command line asks for, with its report as a text, or why there is none. -/
def asked : Except Stop (Work σ) :=
  match command with
  | .analysis => (Command.Analysis.Options.parse env args).map fun o =>
    ⟨o.verbosity, Inspection.analyze runner o.tools o.file o.symbols o.request⟩
  | .features => (Command.Features.Options.parse isFile env args).map fun o =>
    ⟨o.verbosity, do
      let found ← Inspection.detect runner o.tools .builtin o.file o.symbol o.cpu
      pure (Report.render found o.format)⟩

def help : Bool → Text.Styled :=
  match command with
  | .analysis => Command.Analysis.grammar.help env
  | .features => (Command.Features.grammar isFile).help env

/-- How a program ends, and what it leaves. -/
inductive Ends : ProgramRun σ → Prop
  /-- The command line is wrong. No tool has been called. -/
  | misused {e : UsageError} (h : asked command isFile env runner args = .error (.misuse e)) :
      Ends ⟨⟨2, "", e.message.written⟩, [], s⟩
  | helped {long : Bool} (h : asked command isFile env runner args = .error (.help long)) :
      Ends ⟨⟨0, (help command isFile env long).written, ""⟩, [], s⟩
  /-- There is a report, and nothing else beside the log. -/
  | reported {w : Work σ} {report : String} (h : asked command isFile env runner args = .ok w)
      (hr : (w.session.run s).result = .ok report) :
      Ends ⟨⟨0, report ++ "\n", Log.renderText clock (w.logged s)⟩, (w.session.run s).trace,
        (w.session.run s).state⟩
  /-- There is an error, and no part of a report. -/
  | failed {w : Work σ} {e : Error} (h : asked command isFile env runner args = .ok w)
      (hr : (w.session.run s).result = .error e) :
      Ends ⟨⟨1, "", Log.renderText clock (w.logged s) ++ e.message ++ "\n"⟩,
        (w.session.run s).trace, (w.session.run s).state⟩

end

variable {command : Command} {isFile : String → Bool} {env : Environment} {runner : Runner σ}
  {args args' : List String} {s : σ} {clock clock' : Log.Clock}

theorem run_eq : run command isFile env runner args s clock =
    match asked command isFile env runner args with
    | .error stop => stopped (help command isFile env) stop s
    | .ok w => finish clock w.verbosity w.session s := by
  cases command with
  | analysis =>
    simp only [run, asked, help]
    cases Command.Analysis.Options.parse env args <;> rfl
  | features =>
    simp only [run, asked, help]
    cases Command.Features.Options.parse isFile env args <;> rfl

theorem ends_run :
    Ends command isFile env runner args s clock
      (run command isFile env runner args s clock) := by
  rw [run_eq]
  match h : asked command isFile env runner args with
  | .error (.misuse e) => exact .misused h
  | .error (.help long) => exact .helped h
  | .ok w =>
    dsimp only [finish]
    cases hr : (w.session s).result with
    | ok report => exact .reported h hr
    | error e => exact .failed h hr

/-- Command lines that are the same but for flags ask for the same inspection. -/
theorem asked_akin (env : Environment) (runner : Runner σ)
    (h : command.SameButFlags isFile args args') :
    Akin (fun w w' : Work σ => w.session = w'.session)
      (asked command isFile env runner args) (asked command isFile env runner args') := by
  cases command with
  | analysis =>
    refine (Command.Analysis.parse_of_sameButFlags h).map fun o o' ho => ?_
    rw [ho]
    rfl
  | features =>
    refine (Command.Features.parse_of_sameButFlags h).map fun o o' ho => ?_
    rw [ho]
    rfl

/-- Two runs that differ at most in what they wrote beside the report. -/
structure SameButLog (r r' : ProgramRun σ) : Prop where
  status : r.exit.status = r'.exit.status
  stdout : r.exit.stdout = r'.exit.stdout
  /-- The same calls and the same events, in the same order, shown or not. -/
  trace : r.trace = r'.trace
  state : r.state = r'.state

theorem SameButLog.of_stderr {status : Nat} {stdout : String} {trace : List Step}
    (stderr stderr' : String) :
    SameButLog ⟨⟨status, stdout, stderr⟩, trace, s⟩ ⟨⟨status, stdout, stderr'⟩, trace, s⟩ :=
  ⟨rfl, rfl, rfl, rfl⟩

theorem finish_sameButLog (clock clock' : Log.Clock) (n m : Nat) (work : Session σ String) (s : σ) :
    SameButLog (finish clock n work s) (finish clock' m work s) := by
  unfold finish
  dsimp only
  cases (work s).result with
  | ok report => exact SameButLog.of_stderr _ _
  | error e => exact SameButLog.of_stderr _ _

theorem run_sameButLog (h : command.SameButFlags isFile args args') :
    SameButLog (run command isFile env runner args s clock)
      (run command isFile env runner args' s clock') := by
  have hasked := asked_akin env runner h
  rw [run_eq, run_eq]
  generalize asked command isFile env runner args = r at hasked ⊢
  generalize asked command isFile env runner args' = r' at hasked ⊢
  cases hasked with
  | @ok w w' hw =>
    dsimp only
    rw [hw]
    exact finish_sameButLog _ _ _ _ _ _
  | misuse e e' => exact ⟨rfl, rfl, rfl, rfl⟩
  | help long => exact ⟨rfl, rfl, rfl, rfl⟩

theorem logged_of_le (h : command.SameButFlags isFile args args') {w w' : Work σ}
    (hw : asked command isFile env runner args = .ok w)
    (hw' : asked command isFile env runner args' = .ok w') (hle : w.verbosity ≤ w'.verbosity) :
    w.logged s = (w'.logged s).filter (·.shownAt (.ofVerbosity w.verbosity)) := by
  have hasked := asked_akin env runner h
  rw [hw, hw'] at hasked
  cases hasked with
  | ok hsession =>
    rw [Work.logged, Work.logged, hsession]
    exact Log.shown_of_le hle _

/-- What the programs promise of any run: a report is all that is printed and means status 0, an
error means status 1, a misused command line means status 2 and no call. Runs whose command lines
are the same but for the number of flags for a louder log differ at most in their log, and there the
quieter one has left out just the events that its level does not show. -/
theorem run_contract (command : Command) (isFile : String → Bool) (env : Environment)
    (runner : Runner σ) (s : σ) (clock clock' : Log.Clock) :
    (∀ args, Ends command isFile env runner args s clock
        (run command isFile env runner args s clock)) ∧
      ∀ args args', command.SameButFlags isFile args args' →
        SameButLog (run command isFile env runner args s clock)
            (run command isFile env runner args' s clock') ∧
          ∀ w w', asked command isFile env runner args = .ok w →
            asked command isFile env runner args' = .ok w' → w.verbosity ≤ w'.verbosity →
              w.logged s = (w'.logged s).filter (·.shownAt (.ofVerbosity w.verbosity)) := by
  refine ⟨fun args => ends_run, fun args args' h => ⟨run_sameButLog h, ?_⟩⟩
  intro w w' hw hw' hle
  exact logged_of_le h hw hw' hle

/-- The analyzer fails after the disassembler did well; the louder run has its flags in front of an
option, in one argument with it, and behind the operand. -/
theorem run_contract_late_failure :
    let runner : Runner Nat := fun c n =>
      if n = 0 then ⟨.ok { stdout := "\tnop\n" }, [⟨.debug, "exec: " ++ c.program⟩], 1⟩
      else ⟨.ok { success := false, stderr := "error: unknown CPU\n" }, [], 2⟩
    let clock : Log.Clock := fun i => "00:00:0" ++ toString i ++ "Z "
    let go := fun args => run .analysis (fun _ => true) (fun _ => none) runner args 0 clock
    let asks := fun args => asked .analysis (fun _ => true) (fun _ => none) runner args
    let args := ["-s", "f", "a.o"]
    let args' := ["--verbose", "-vs", "f", "a.o", "-v"]
    let o : Command.Analysis.Options :=
      ⟨"a.o", some "f", .intel, false, false, none, "llvm-objdump", "llvm-mca", 0⟩
    let quiet : Work Nat := ⟨0, o.session runner⟩
    let loud : Work Nat := ⟨3, o.session runner⟩
    Command.analysis.SameButFlags (fun _ => true) args args' ∧ asks args = .ok quiet ∧
      asks args' = .ok loud ∧ SameButLog (go args) (go args') ∧
      quiet.logged 0 = (loud.logged 0).filter (·.shownAt .warn) ∧
      (go args).exit = ⟨1, "", "Failed to run 'llvm-mca': error: unknown CPU\n"⟩ ∧
      (go args').exit.stderr = "00:00:00Z  INFO Disassembling with llvm-objdump\n" ++
        "00:00:01Z DEBUG exec: llvm-objdump\n" ++
        "00:00:02Z  INFO Analyzing 5 bytes of assembly with llvm-mca\n" ++
        "Failed to run 'llvm-mca': error: unknown CPU\n" := by
  intro runner clock go asks args args' o quiet loud
  have hletters : CommandLine.SameButLetters Command.Analysis.grammar ['s'] ['v', 's'] :=
    .right (by decide) (.value (by decide) [])
  have hopen : ∀ rest : List String, false = true → startsPlain rest = false :=
    fun _ hw => absurd hw Bool.false_ne_true
  have h : Command.analysis.SameButFlags (fun _ => true) args args' :=
    .right (by decide) (hopen _) (.letters (by decide) (by decide) hletters
      (.both (by decide) (.both (by decide) (.right (by decide) (hopen _) .nil))))
  have ho : Command.Analysis.Options.parse (fun _ => none) args = .ok o := by decide +kernel
  have ho' : Command.Analysis.Options.parse (fun _ => none) args' =
      .ok { o with verbosity := 3 } := by decide +kernel
  have hquiet : asks args = .ok quiet := by
    simp only [asks, asked, ho]
    rfl
  have hloud : asks args' = .ok loud := by
    simp only [asks, asked, ho']
    rfl
  obtain ⟨hlog, hlogged⟩ :=
    (run_contract .analysis (fun _ => true) (fun _ => none) runner 0 clock clock).2 args args' h
  exact ⟨h, hquiet, hloud, hlog, hlogged quiet loud hquiet hloud (by decide),
    by decide +kernel, by decide +kernel⟩

/-- A flag between an option and its value is met where the value should be. -/
example :
    let go := fun args => run .analysis (fun _ => true) (fun _ => none)
      (fun _ _ => ⟨.ok { stdout := "" }, [], ()⟩) args ()
    (go ["-s", "f", "a.o"]).exit.status = 0 ∧ (go ["-s", "-v", "f", "a.o"]).exit.status = 2 := by
  decide +kernel

end Program

end Disasm
