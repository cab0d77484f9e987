import Disasm.Command.Analysis
import Disasm.Proofs.SpelledOptions

namespace Disasm.Command.Analysis

open CommandLine

/-- The flag for a louder log, by its name, or by its letter as often as one likes. -/
inductive Flag where
  | name
  | letters (more : Nat)
  deriving DecidableEq, Repr

def Flag.times : Flag → Nat
  | .name => 1
  | .letters more => more + 1

def Flag.total : List Flag → Nat
  | [] => 0
  | f :: flags => f.times + total flags

/-- An argument that is an option. -/
inductive Word where
  | symbols (list : String)
  | order (o : OperandOrder)
  | allStats
  | allViews
  | cpu (name : String)
  | objdump (program : String)
  | mca (program : String)
  | flag (f : Flag)
  deriving DecidableEq, Repr

namespace Word

def written : Word → String
  | symbols list => "--symbols=" ++ list
  | order o => "--syntax=" ++ o.name
  | allStats => "--all-stats"
  | allViews => "--all-views"
  | cpu name => "--cpu=" ++ name
  | objdump program => "--objdump=" ++ program
  | mca program => "--mca=" ++ program
  | flag .name => "--verbose"
  | flag (.letters more) => String.ofList ('-' :: List.replicate (more + 1) 'v')

def place : Word → String
  | symbols _ => "--symbols <SYMBOLS>"
  | order _ => "--syntax <SYNTAX>"
  | allStats => "--all-stats"
  | allViews => "--all-views"
  | cpu _ => "--cpu <CPU>"
  | objdump _ => "--objdump <OBJDUMP>"
  | mca _ => "--mca <MCA>"
  | flag _ => "--verbose..."

def settings : Word → List Setting
  | symbols list => [.symbols list]
  | order o => [.order o]
  | allStats => [.allStats]
  | allViews => [.allViews]
  | cpu name => [.cpu name]
  | objdump program => [.objdump program]
  | mca program => [.mca program]
  | flag f => List.replicate f.times .verbose

def once : Word → Bool
  | flag _ => false
  | _ => true

def given (w : Word) : List (Given Setting) :=
  w.settings.map (⟨w.place, ·⟩)

theorem read_orderSlot (o : OperandOrder) : orderSlot.read o.name = .ok (.order o) := by
  cases o <;> rfl

/-- Every word is read as what it asks for. -/
theorem spells (w : Word) : Spells grammar w.written w.once w.given := by
  cases w with
  | symbols list =>
    have ho : grammar.byLong? "symbols" = some _ := rfl
    exact .value (by decide) ho rfl list rfl
  | order o =>
    have ho : grammar.byLong? "syntax" = some _ := rfl
    exact .value (by decide) ho rfl o.name (read_orderSlot o)
  | allStats =>
    have ho : grammar.byLong? "all-stats" = some _ := rfl
    exact .flag (by decide) ho rfl
  | allViews =>
    have ho : grammar.byLong? "all-views" = some _ := rfl
    exact .flag (by decide) ho rfl
  | cpu name =>
    have ho : grammar.byLong? "cpu" = some _ := rfl
    exact .value (by decide) ho rfl name rfl
  | objdump program =>
    have ho : grammar.byLong? "objdump" = some _ := rfl
    exact .value (by decide) ho rfl program rfl
  | mca program =>
    have ho : grammar.byLong? "mca" = some _ := rfl
    exact .value (by decide) ho rfl program rfl
  | flag f =>
    cases f with
    | name =>
      have ho : grammar.byLong? "verbose" = some _ := rfl
      exact .tally (by decide) ho rfl
    | letters more =>
      have ho : grammar.byLetter? 'v' = some _ := rfl
      rw [given, settings, List.map_replicate]
      exact .letters (by decide) ho rfl more

theorem place_ne_operand (w : Word) : w.place ≠ grammar.operand.usage := by
  cases w <;> (simp only [place]; decide)

theorem map_setting_given (ws : List Word) :
    (ws.flatMap given).map Given.setting = ws.flatMap settings := by
  simp [List.map_flatMap, given, Function.comp_def]

/-- Words that may stand on one command line together. -/
def Apart (v w : Word) : Prop :=
  v.once = true ∨ w.once = true → v.place ≠ w.place

theorem Apart.symm {v w : Word} (h : v.Apart w) : w.Apart v :=
  fun ho => (h ho.symm).symm

theorem place_of_mem_given {w : Word} {x : Given Setting} (h : x ∈ w.given) :
    x.place = w.place := by
  obtain ⟨s, -, rfl⟩ := List.mem_map.mp h
  rfl

theorem has_give_given (p : Progress Setting) (w : Word) {place : String} (h : w.place ≠ place) :
    (p.give w.given).has place = p.has place := by
  have hno : (w.given.any fun x => x.place == place) = false := by
    refine List.any_eq_false.mpr fun x hx => ?_
    rw [place_of_mem_given hx]
    simpa using h
  rw [Progress.has, Progress.give, List.any_append, hno, Bool.or_false]
  rfl

/-- Words that may stand together are read one after the other. -/
theorem arguments_words {p : Progress Setting} {ws : List Word} (hp : p.pending = none)
    (hfresh : ∀ w ∈ ws, w.once = true → p.has w.place = false) (hws : ws.Pairwise Apart)
    (rest : List String) :
    p.arguments grammar (ws.map written ++ rest) =
      (p.give (ws.flatMap given)).arguments grammar rest := by
  induction ws generalizing p with
  | nil => simp [Progress.give]
  | cons w ws ih =>
    obtain ⟨hw, hws⟩ := List.pairwise_cons.mp hws
    have hfirst : w.once = true → ∀ x ∈ w.given, p.has x.place = false := by
      intro ho x hx
      rw [place_of_mem_given hx]
      exact hfresh w List.mem_cons_self ho
    have hlater : ∀ v ∈ ws, v.once = true → (p.give w.given).has v.place = false := by
      intro v hv ho
      rw [has_give_given p w (hw v hv (.inr ho))]
      exact hfresh v (List.mem_cons_of_mem w hv) ho
    rw [List.map_cons, List.cons_append, Progress.arguments_of_spells w.spells hp hfirst,
      ih (p := p.give w.given) hp hlater hws, Progress.give_give, List.flatMap_cons]

end Word

/-- Which options are given, and their values. -/
structure Chosen where
  symbols : Option String := none
  order : Option OperandOrder := none
  allStats : Bool := false
  allViews : Bool := false
  cpu : Option String := none
  objdump : Option String := none
  mca : Option String := none

namespace Chosen

def words (c : Chosen) : List Word :=
  c.symbols.toList.map .symbols ++ c.order.toList.map .order ++
    (if c.allStats then [.allStats] else []) ++ (if c.allViews then [.allViews] else []) ++
    c.cpu.toList.map .cpu ++ c.objdump.toList.map .objdump ++ c.mca.toList.map .mca

def places : List String :=
  ["--symbols <SYMBOLS>", "--syntax <SYNTAX>", "--all-stats", "--all-views", "--cpu <CPU>",
    "--objdump <OBJDUMP>", "--mca <MCA>"]

theorem places_words (c : Chosen) : (c.words.map Word.place).Sublist places := by
  have hvalue : ∀ {α : Type} (word : α → Word) (place : String) (x : Option α),
      (∀ a, (word a).place = place) → ((x.toList.map word).map Word.place).Sublist [place] := by
    intro α word place x h
    cases x <;> simp [h]
  have hflag : ∀ (word : Word) (b : Bool),
      ((if b then [word] else []).map Word.place).Sublist [word.place] := by
    intro word b
    cases b <;> simp
  simp only [words, List.map_append]
  exact (hvalue .symbols _ _ fun _ => rfl).append (hvalue .order _ _ fun _ => rfl)
    |>.append (hflag .allStats _) |>.append (hflag .allViews _)
    |>.append (hvalue .cpu _ _ fun _ => rfl) |>.append (hvalue .objdump _ _ fun _ => rfl)
    |>.append (hvalue .mca _ _ fun _ => rfl)

/-- The words for the chosen options and any flags may stand together. -/
theorem pairwise_apart (c : Chosen) (flags : List Flag) :
    (c.words ++ flags.map Word.flag).Pairwise Word.Apart := by
  refine List.pairwise_append.mpr ⟨?_, ?_, ?_⟩
  · have hnodup : (c.words.map Word.place).Nodup :=
      c.places_words.nodup (by decide)
    refine (List.pairwise_map.mp hnodup).imp ?_
    intro v w hne _
    exact hne
  · refine List.pairwise_map.mpr (List.pairwise_of_forall fun f g ho => ?_)
    simp [Word.once] at ho
  · intro w hw v hv _ he
    obtain ⟨f, -, rfl⟩ := List.mem_map.mp hv
    have hplace : w.place ∈ places := c.places_words.subset (List.mem_map_of_mem hw)
    rw [he, Word.place] at hplace
    exact absurd hplace (by decide)

def asked (c : Chosen) : List Setting :=
  c.symbols.toList.map .symbols ++ c.order.toList.map .order ++
    (if c.allStats then [.allStats] else []) ++ (if c.allViews then [.allViews] else []) ++
    c.cpu.toList.map .cpu ++ c.objdump.toList.map .objdump ++ c.mca.toList.map .mca

/-- The settings of a command line with the options, some flags and a file. -/
def settings (c : Chosen) (times : Nat) (file : String) : List Setting :=
  c.asked ++ List.replicate times .verbose ++ [.file file]

theorem verbose_not_mem_asked (c : Chosen) : Setting.verbose ∉ c.asked := by
  simp [asked]

theorem flatMap_settings_flags (flags : List Flag) :
    (flags.map Word.flag).flatMap Word.settings =
      List.replicate (Flag.total flags) .verbose := by
  induction flags with
  | nil => rfl
  | cons f flags ih =>
    rw [List.map_cons, List.flatMap_cons, ih, Flag.total, Word.settings,
      List.replicate_append_replicate]

theorem settings_eq (c : Chosen) (flags : List Flag) (file : String) :
    (c.words ++ flags.map Word.flag).flatMap Word.settings ++ [.file file] =
      c.settings (Flag.total flags) file := by
  have hvalue : ∀ {α : Type} (word : α → Word) (setting : α → Setting) (x : Option α),
      (∀ a, (word a).settings = [setting a]) →
        (x.toList.map word).flatMap Word.settings = x.toList.map setting := by
    intro α word setting x h
    cases x <;> simp [h]
  have hflag : ∀ (word : Word) (setting : Setting) (b : Bool), word.settings = [setting] →
      (if b then [word] else []).flatMap Word.settings = if b then [setting] else [] := by
    intro word setting b h
    cases b <;> simp [h]
  simp only [words, settings, asked, List.flatMap_append, flatMap_settings_flags,
    hvalue .symbols .symbols _ fun _ => rfl, hvalue .order .order _ fun _ => rfl,
    hflag .allStats .allStats _ rfl, hflag .allViews .allViews _ rfl,
    hvalue .cpu .cpu _ fun _ => rfl, hvalue .objdump .objdump _ fun _ => rfl,
    hvalue .mca .mca _ fun _ => rfl]

end Chosen

/-- One value at most is found, wherever it stands. -/
theorem findSome?_of_perm {α β : Type} {f : α → Option β} {xs : List α} {y : Option β}
    (h : (xs.filterMap f).Perm y.toList) : xs.findSome? f = y := by
  rw [← List.head?_filterMap]
  cases y with
  | none => rw [List.perm_nil.mp h]; rfl
  | some b => rw [List.perm_singleton.mp h]; rfl

/-- What is found among the settings of the chosen options. -/
theorem filterMap_settings {β : Type} (f : Setting → Option β) (hf : f .verbose = none)
    (c : Chosen) (times : Nat) (file : String) :
    (c.settings times file).filterMap f =
      (c.symbols.bind fun a => f (.symbols a)).toList ++
        (c.order.bind fun a => f (.order a)).toList ++
        (if c.allStats then (f .allStats).toList else []) ++
        (if c.allViews then (f .allViews).toList else []) ++
        (c.cpu.bind fun a => f (.cpu a)).toList ++
        (c.objdump.bind fun a => f (.objdump a)).toList ++
        (c.mca.bind fun a => f (.mca a)).toList ++ (f (.file file)).toList := by
  have hone : ∀ s : Setting, [s].filterMap f = (f s).toList := by
    intro s
    cases h : f s <;> simp [h]
  have hvalue : ∀ {α : Type} (setting : α → Setting) (x : Option α),
      (x.toList.map setting).filterMap f = (x.bind fun a => f (setting a)).toList := by
    intro α setting x
    cases x with
    | none => rfl
    | some a => exact hone (setting a)
  have hflag : ∀ (b : Bool) (s : Setting),
      (if b then [s] else []).filterMap f = if b then (f s).toList else [] := by
    intro b s
    cases b with
    | false => rfl
    | true => exact hone s
  simp only [Chosen.settings, Chosen.asked, List.filterMap_append, hvalue, hflag, hone,
    List.filterMap_replicate_of_none hf, List.append_nil]

/-- In whatever order they stand, the settings of the chosen options make up the same options. -/
theorem ofSettings_of_perm {c : Chosen} {times : Nat} {file : String} {settings : List Setting}
    (h : settings.Perm (c.settings times file)) (env : Environment) :
    Options.ofSettings env settings = {
      file := file
      symbolList := c.symbols
      order := c.order.getD .intel
      allStats := c.allStats
      allViews := c.allViews
      cpu := c.cpu
      objdump := c.objdump.getD ((env "LLVM_OBJDUMP").getD "llvm-objdump")
      mca := c.mca.getD ((env "LLVM_MCA").getD "llvm-mca")
      verbosity := min 255 times } := by
  have hfind : ∀ {β : Type} {f : Setting → Option β} (y : Option β), f .verbose = none →
      (c.settings times file).filterMap f = y.toList → settings.findSome? f = y := by
    intro β f y hf hy
    exact findSome?_of_perm (hy ▸ h.filterMap f)
  have hstats : settings.contains .allStats = c.allStats := by
    rw [h.contains_eq]
    simp [Chosen.settings, Chosen.asked]
  have hviews : settings.contains .allViews = c.allViews := by
    rw [h.contains_eq]
    simp [Chosen.settings, Chosen.asked]
  have hcount : settings.count .verbose = times := by
    rw [h.count_eq]
    simp [Chosen.settings, List.count_eq_zero.mpr c.verbose_not_mem_asked]
  simp only [Options.ofSettings, Options.mk.injEq, hstats, hviews, hcount, toolName, true_and]
  refine ⟨congrArg (·.getD "") (hfind (some file) rfl ?_), hfind c.symbols rfl ?_,
    congrArg (·.getD .intel) (hfind c.order rfl ?_), hfind c.cpu rfl ?_,
    congrArg (·.getD ((env "LLVM_OBJDUMP").getD "llvm-objdump")) (hfind c.objdump rfl ?_),
    congrArg (·.getD ((env "LLVM_MCA").getD "llvm-mca")) (hfind c.mca rfl ?_), rfl⟩
  all_goals simp [filterMap_settings]

/-- The words for the chosen options and some flags are read in whatever order they stand. -/
theorem parse_words {c : Chosen} {flags : List Flag} {ws : List Word}
    (h : ws.Perm (c.words ++ flags.map .flag)) {file : String} (hf : file ≠ "") :
    grammar.parse (ws.map Word.written ++ ["--", file]) =
      .ok (ws.flatMap Word.settings ++ [.file file]) := by
  have hws : ws.Pairwise Word.Apart :=
    (h.pairwise_iff Word.Apart.symm).mpr (c.pairwise_apart flags)
  have hread : fileSlot.read file = .ok (.file file) := by simp [fileSlot, hf]
  have hfresh : (({} : Progress Setting).give (ws.flatMap Word.given)).has
      grammar.operand.usage = false := by
    refine List.any_eq_false.mpr fun x hx => ?_
    obtain ⟨w, -, hx⟩ := List.mem_flatMap.mp hx
    rw [Word.place_of_mem_given hx]
    simpa using w.place_ne_operand
  have hargs := Word.arguments_words (p := {}) rfl (fun _ _ _ => rfl) hws ["--", file]
  rw [Progress.arguments_divider (g := grammar) rfl rfl hfresh hread] at hargs
  have hmissing : grammar.missing { ({} : Progress Setting).give (ws.flatMap Word.given) |>.give
      [⟨grammar.operand.usage, .file file⟩] with operandMet := true } = [] := by
    have hnone : grammar.options.filter (·.required) = [] := rfl
    simp [Grammar.missing, hnone, Progress.has, Progress.give]
  simp only [Grammar.parse, hargs, hmissing, List.isEmpty_nil, ↓reduceIte]
  simp [Progress.give, Word.map_setting_given]

/-- An analysis is read off its command line as it was written there: the options in any order, each
once at most and with any value, the flags for a louder log in any form, and at the end the file. -/
theorem parse_written {c : Chosen} {flags : List Flag} {ws : List Word}
    (h : ws.Perm (c.words ++ flags.map .flag)) {file : String} (hf : file ≠ "")
    (env : Environment) :
    let o : Options := {
      file := file
      symbolList := c.symbols
      order := c.order.getD .intel
      allStats := c.allStats
      allViews := c.allViews
      cpu := c.cpu
      objdump := c.objdump.getD ((env "LLVM_OBJDUMP").getD "llvm-objdump")
      mca := c.mca.getD ((env "LLVM_MCA").getD "llvm-mca")
      verbosity := min 255 (Flag.total flags) }
    Options.parse env (ws.map Word.written ++ ["--", file]) = .ok o ∧
      o.symbols = (c.symbols.map Symbols.split).getD [] ∧
      o.request = ⟨c.order.getD .intel, c.allStats, c.allViews, c.cpu⟩ ∧
      o.tools = ⟨o.objdump, o.mca⟩ := by
  intro o
  have hsettings : (ws.flatMap Word.settings ++ [Setting.file file]).Perm
      (c.settings (Flag.total flags) file) := by
    rw [← c.settings_eq]
    exact (h.flatMap_right Word.settings).append_right _
  refine ⟨?_, ?_, rfl, rfl⟩
  · rw [Options.parse, parse_words h hf]
    exact congrArg Except.ok (ofSettings_of_perm hsettings env)
  · simp only [Options.symbols, o]
    cases c.symbols <;> rfl

/-- Values that look like options, hold equals signs or nothing at all, and the letter `v` three
times behind one dash. -/
theorem parse_written_hard :
    let c : Chosen := { symbols := some "-f, g=,,", cpu := some "", mca := some "--all-stats" }
    let ws : List Word :=
      [.flag (.letters 2), .mca "--all-stats", .cpu "", .flag .name, .symbols "-f, g=,,"]
    let env : Environment := fun name => if name = "LLVM_OBJDUMP" then some "" else none
    ws.Perm (c.words ++ [Flag.name, .letters 2].map .flag) ∧ "--mca" ≠ "" ∧
      ws.map Word.written ++ ["--", "--mca"] =
        ["-vvv", "--mca=--all-stats", "--cpu=", "--verbose", "--symbols=-f, g=,,", "--", "--mca"] ∧
      Options.parse env (ws.map Word.written ++ ["--", "--mca"]) =
        .ok ⟨"--mca", some "-f, g=,,", .intel, false, false, some "", "", "--all-stats", 4⟩ := by
  intro c ws env
  have h : ws.Perm (c.words ++ [Flag.name, .letters 2].map .flag) := by decide
  have hf : "--mca" ≠ "" := by decide
  exact ⟨h, hf, by decide, (parse_written h hf env).1⟩

end Disasm.Command.Analysis
