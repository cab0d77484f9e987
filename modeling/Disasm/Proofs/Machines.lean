import Disasm.Host.Launch
import Disasm.Program
import Disasm.Proofs.FileTrees
import Disasm.Proofs.Sessions

namespace Disasm

namespace Host

open Tool

namespace Machine

variable {m : Machine} {path called name : String} {args : List String} {p : Program}

/-- A character beyond ASCII begins with a byte beyond ASCII. -/
theorem exists_utf8EncodeChar (c : Char) :
    ∃ b bytes, String.utf8EncodeChar c = b :: bytes ∧
      (b.toNat = c.toNat ∨ (0x80 ≤ c.toNat ∧ 0x80 ≤ b.toNat)) := by
  have hv : c.val.toNat = c.toNat := rfl
  have hmod : ∀ n, n < 256 → (UInt8.ofNat n).toNat = n := by
    intro n hn
    rw [UInt8.toNat_ofNat', Nat.mod_eq_of_lt hn]
  unfold String.utf8EncodeChar
  dsimp only
  rw [hv]
  split
  · exact ⟨_, _, rfl, .inl (hmod _ (by omega))⟩
  · split
    · exact ⟨_, _, rfl, .inr ⟨by omega, by rw [hmod _ (by omega)]; omega⟩⟩
    · split
      · exact ⟨_, _, rfl, .inr ⟨by omega, by rw [hmod _ (by omega)]; omega⟩⟩
      · exact ⟨_, _, rfl, .inr ⟨by omega, by rw [hmod _ (by omega)]; omega⟩⟩

theorem isAbsolute_octets (path : String) :
    Path.isAbsolute (octets path) = Path.isAbsolute path := by
  unfold octets
  split
  · rfl
  · rw [Path.isAbsolute, Path.isAbsolute, String.toList_ofList, ofBytes, Text.Utf8.encode]
    cases path.toList with
    | nil => rfl
    | cons c cs =>
      obtain ⟨b, bytes, he, hb⟩ := exists_utf8EncodeChar c
      have hbyte : (ofByte b).toNat = b.toNat := Text.Utf8.toNat_ofByte b
      have hslash : ∀ d : Char, d = '/' ↔ d.toNat = 0x2F := fun d => Char.toNat_inj.symm
      rw [List.flatMap_cons, he, List.cons_append, List.map_cons, List.head?_cons, List.head?_cons]
      refine decide_eq_decide.mpr ?_
      rw [Option.some_inj, Option.some_inj, hslash, hslash, hbyte]
      omega

theorem placeOf_eq_steps (h : ".." ∉ Text.fields '/' (octets path)) :
    m.placeOf path = (if Path.isAbsolute path then [] else m.directory) ++
      FileTree.steps (Text.fields '/' (octets path)) := by
  have hfold : ∀ (cs : List String) (place : Place), ".." ∉ cs →
      cs.foldl (fun place c => if c = ".." then place.dropLast else place ++ [c]) place =
        place ++ cs := by
    intro cs
    induction cs with
    | nil => exact fun place _ => (List.append_nil place).symm
    | cons c cs ih =>
      intro place hc
      rw [List.foldl_cons, if_neg (List.ne_of_not_mem_cons hc).symm,
        ih _ (List.not_mem_of_not_mem_cons hc), List.append_assoc, List.singleton_append]
  rw [placeOf, Path.components_eq_filter, ← FileTree.steps]
  exact hfold _ _ fun hm => h (List.mem_of_mem_filter hm)

/-- A path that leads straight to a place, where a file can be put. -/
structure Straight (m : Machine) (path : String) : Prop where
  noZero : '\x00' ∉ (octets path).toList
  short : (octets path).length ≤ pathLimit
  names : ∀ c ∈ Text.fields '/' (octets path), c ≠ ".." ∧ c.length ≤ nameLimit
  /-- No slash stands at the end. -/
  last : ∀ c ∈ (Text.fields '/' (octets path)).getLast?, c ≠ "" ∧ c ≠ "."
  /-- On the way there are directories, or nothing yet. -/
  way : ∀ place e, place <+: (m.placeOf path).dropLast → m.tree.entry? place = some e →
    e = .directory

section

variable (h : m.Straight path)

include h

theorem Straight.placeOf_eq :
    m.placeOf path = (if Path.isAbsolute (octets path) then [] else m.directory) ++
      FileTree.steps (Text.fields '/' (octets path)) := by
  rw [isAbsolute_octets]
  exact placeOf_eq_steps fun hup => (h.names _ hup).1 rfl

theorem Straight.octets_ne_empty : octets path ≠ "" := by
  intro he
  have hlast := h.last "" (by rw [he]; rfl)
  exact hlast.1 rfl

/-- Something that leads somewhere is left of the path until its end. -/
theorem Straight.steps_ne_nil {before after : List String}
    (he : Text.fields '/' (octets path) = before ++ after) (hne : after ≠ []) :
    FileTree.steps after ≠ [] := by
  refine FileTree.steps_ne_nil hne fun c hc => h.last c ?_
  rw [he, List.getLast?_append, hc]
  rfl

theorem Straight.placeOf_ne_nil : m.placeOf path ≠ [] := by
  rw [h.placeOf_eq]
  refine List.append_ne_nil_of_right_ne_nil _ (h.steps_ne_nil (List.nil_append _).symm ?_)
  simp [Text.fields]

/-- When something is made at its end, all that comes before on a straight path is directories. -/
theorem Straight.entry?_make {before after : List String} (e : Entry)
    (he : Text.fields '/' (octets path) = before ++ after) (hne : after ≠ []) :
    FileTree.entry? (m.tree.make (m.placeOf path) e)
      ((if Path.isAbsolute (octets path) then [] else m.directory) ++ FileTree.steps before) =
        some .directory := by
  set place := (if Path.isAbsolute (octets path) then [] else m.directory) ++
    FileTree.steps before with hplace
  have hbehind := h.steps_ne_nil he hne
  have hsplit : m.placeOf path = place ++ FileTree.steps after := by
    rw [h.placeOf_eq, he, FileTree.steps_append, ← List.append_assoc]
  have hprefix : place <+: (m.placeOf path).dropLast := by
    rw [hsplit, List.dropLast_append_of_ne_nil hbehind]
    exact List.prefix_append _ _
  have hother : place ≠ m.placeOf path := by
    rw [hsplit]
    exact fun hsame => hbehind (List.self_eq_append_right.mp hsame)
  rw [FileTree.entry?_make h.placeOf_ne_nil, if_neg hother, if_pos hprefix]
  cases hentry : m.tree.entry? place with
  | none => rfl
  | some e => rw [h.way _ e hprefix hentry, Option.some_or]

/-- A file that is put into a machine is found by its path. -/
theorem Straight.find_addFile (content : List UInt8) (executable : Bool) :
    (m.addFile path content executable).tree.find m.directory (octets path) =
      .ok (.file (ofBytes content) executable) := by
  refine FileTree.find_eq_ok_iff.mpr ⟨m.placeOf path, ?_, ?_⟩
  · rw [FileTree.locate_eq_ok_iff h.octets_ne_empty h.short, h.placeOf_eq]
    refine FileTree.follows_steps h.names fun before after he hne => ?_
    exact h.entry?_make _ he hne
  · exact (FileTree.entry?_make h.placeOf_ne_nil).trans (if_pos rfl)

end

theorem Straight.isFile_addFile (h : m.Straight path) (content : List UInt8) (executable : Bool) :
    (m.addFile path content executable).isFile path = true := by
  have hzero : (octets path).toList.contains '\x00' = false := by
    simpa using h.noZero
  have hfind := h.find_addFile content executable
  rw [isFile, FileTree.isFile, hzero, show (m.addFile path content executable).directory =
    m.directory from rfl, hfind]
  rfl

/-- A file that is put where nothing was hides nothing. -/
theorem find_addFile {other : String} {e : Entry} (content : List UInt8) (executable : Bool)
    (hn : m.tree.entry? (m.placeOf other) = none) (h : m.tree.find m.directory path = .ok e) :
    (m.addFile other content executable).tree.find m.directory path = .ok e :=
  FileTree.find_grow (FileTree.grows_make hn _) h

/-- What runs for a path: a utility, or the interpreter of a script, behind so many scripts. -/
inductive Runs (m : Machine) : Nat → String → String → List String → Program → Prop
  | utility {path called name : String} {args : List String}
      (h : m.tree.find m.directory path = .ok (.utility name)) :
      Runs m 0 path called args ⟨name, called :: args⟩
  | script {n : Nat} {path called name : String} {args argument : List String}
      {content : List Char} {p : Program}
      (h : m.tree.find m.directory path = .ok (.file content true))
      (hi : interpreter? content = some (name, argument))
      (hr : Runs m n name name (argument ++ path :: args) p) : Runs m (n + 1) path called args p

theorem program_eq_ok_iff {depth : Nat} :
    m.program path called args depth = .ok p ↔ ∃ n < depth, m.Runs n path called args p := by
  induction depth generalizing path called args with
  | zero =>
    constructor
    · intro h
      cases h
    · rintro ⟨n, hn, -⟩
      exact absurd hn (Nat.not_lt_zero n)
  | succ depth ih =>
    constructor
    · intro h
      unfold program at h
      split at h
      · cases h
      · cases h
      · cases h
      · cases h
      · cases h
      · next name hf =>
        cases h
        exact ⟨0, Nat.succ_pos depth, .utility hf⟩
      · next content executable hf =>
        cases executable with
        | false => cases h
        | true =>
          split at h
          · cases h
          · split at h
            · cases h
            · next name argument hi =>
              obtain ⟨n, hn, hr⟩ := ih.mp h
              exact ⟨n + 1, Nat.succ_lt_succ hn, .script hf hi hr⟩
    · rintro ⟨n, hn, hr⟩
      cases hr with
      | utility hf => rw [program, hf]
      | script hf hi hr =>
        rw [program, hf]
        dsimp only
        rw [hi]
        exact ih.mpr ⟨_, Nat.lt_of_succ_lt_succ hn, hr⟩

/-- Only utilities that stand in the tree run. -/
theorem Runs.stands {n : Nat} (h : m.Runs n path called args p) :
    ∃ place, m.tree.entry? place = some (.utility p.utility) := by
  induction h with
  | utility h =>
    obtain ⟨place, -, he⟩ := FileTree.find_eq_ok_iff.mp h
    exact ⟨place, he⟩
  | script _ _ _ ih => exact ih

/-- Whatever interpreters are found on the way, the arguments come last and as they are. -/
theorem Runs.args_suffix {n : Nat} (h : m.Runs n path called args p) : args <:+ p.args := by
  induction h with
  | utility => exact List.suffix_cons _ _
  | script _ _ _ ih => exact ((List.suffix_cons _ _).trans (List.suffix_append _ _)).trans ih

theorem Runs.unique {n k : Nat} {q : Program} (h : m.Runs n path called args p)
    (h' : m.Runs k path called args q) : p = q := by
  have hp := program_eq_ok_iff.mpr ⟨n, Nat.lt_succ_of_le (Nat.le_max_left n k), h⟩
  have hq := program_eq_ok_iff.mpr ⟨k, Nat.lt_succ_of_le (Nat.le_max_right n k), h'⟩
  exact Except.ok.inj (hp.symm.trans hq)

/-- Reasons for which the search for a program goes on. -/
def Passes (e : SystemError) : Prop :=
  e = .denied ∨ e = .noEntry ∨ e = .notDirectory

section

variable {denied : Bool} {last e : SystemError} {directory : String} {directories : List String}

theorem search_of_passes (he : Passes e)
    (h : m.program (inDirectory directory name) name args interpreterDepth = .error e) :
    ∃ denied' last', m.search name args denied last (directory :: directories) =
      m.search name args denied' last' directories := by
  rw [search, h]
  rcases he with rfl | rfl | rfl
  · exact ⟨true, .denied, rfl⟩
  · exact ⟨denied, .noEntry, rfl⟩
  · exact ⟨denied, .notDirectory, rfl⟩

theorem search_of_not_passes (he : ¬ Passes e)
    (h : m.program (inDirectory directory name) name args interpreterDepth = .error e) :
    m.search name args denied last (directory :: directories) = .error e := by
  rw [search, h]
  cases e with
  | denied => exact absurd (.inl rfl) he
  | noEntry => exact absurd (.inr (.inl rfl)) he
  | notDirectory => exact absurd (.inr (.inr rfl)) he
  | _ => rfl

/-- What runs is in the first directory that does not let the search go on. -/
theorem search_eq_ok_iff :
    m.search name args denied last directories = .ok p ↔
      ∃ before directory after, directories = before ++ directory :: after ∧
        (∀ d ∈ before, ∃ e, Passes e ∧
          m.program (inDirectory d name) name args interpreterDepth = .error e) ∧
        m.program (inDirectory directory name) name args interpreterDepth = .ok p := by
  constructor
  · intro h
    induction directories generalizing denied last with
    | nil => cases h
    | cons first rest ih =>
      cases hr : m.program (inDirectory first name) name args interpreterDepth with
      | ok q =>
        rw [search, hr] at h
        exact ⟨[], first, rest, rfl, fun _ hd => absurd hd List.not_mem_nil, hr.trans h⟩
      | error e =>
        by_cases he : Passes e
        · obtain ⟨denied', last', hs⟩ : ∃ denied' last',
              m.search name args denied last (first :: rest) =
                m.search name args denied' last' rest := search_of_passes he hr
          rw [hs] at h
          obtain ⟨before, directory, after, rfl, hb, hd⟩ := ih h
          exact ⟨first :: before, directory, after, rfl,
            List.forall_mem_cons.mpr ⟨⟨e, he, hr⟩, hb⟩, hd⟩
        · rw [search_of_not_passes he hr] at h
          cases h
  · rintro ⟨before, directory, after, rfl, hb, hd⟩
    induction before generalizing denied last with
    | nil => rw [List.nil_append, search, hd]
    | cons first before ih =>
      obtain ⟨⟨e, he, hr⟩, hrest⟩ := List.forall_mem_cons.mp hb
      obtain ⟨denied', last', hs⟩ := search_of_passes he hr
      rw [List.cons_append, hs, ih hrest]

end

theorem resolve_runs (h : m.resolve name args = .ok p) :
    ∃ path, ∃ n < interpreterDepth, m.Runs n path name args p := by
  unfold resolve at h
  split at h
  · cases h
  · split at h
    · exact ⟨name, program_eq_ok_iff.mp h⟩
    · obtain ⟨_, directory, _, -, -, hr⟩ := search_eq_ok_iff.mp h
      exact ⟨inDirectory directory name, program_eq_ok_iff.mp hr⟩

end Machine

/-- What becomes of a call on a machine, and of the machine. -/
inductive Launches (m : Machine) (c : Call) : Except LaunchFault Finished × Machine → Prop
  | zeroCharacter {s : String} (hs : s ∈ c.program :: c.args) (hz : '\x00' ∈ s.toList) :
      Launches m c (.error .zeroCharacter, m)
  | unresolved {e : SystemError} (hz : ∀ s ∈ c.program :: c.args, '\x00' ∉ s.toList)
      (hr : m.resolve (octets c.program) (c.args.map octets) = .error e) :
      Launches m c (.error (.system e), m)
  | tooLong {p : Program} {a : String} (hz : ∀ s ∈ c.program :: c.args, '\x00' ∉ s.toList)
      (hr : m.resolve (octets c.program) (c.args.map octets) = .ok p) (ha : a ∈ c.args)
      (hl : argumentLimit < a.utf8ByteSize) :
      Launches m c (.error (.system .argumentsTooLong), m)
  | ended {p : Program} (f : Finished) (tree : FileTree)
      (hz : ∀ s ∈ c.program :: c.args, '\x00' ∉ s.toList)
      (hr : m.resolve (octets c.program) (c.args.map octets) = .ok p)
      (hl : ∀ a ∈ c.args, a.utf8ByteSize ≤ argumentLimit) :
      Launches m c (.ok f, { m with tree := tree })

theorem launch_launches (c : Call) (m : Machine) : Launches m c (launch c m) := by
  unfold launch
  split
  · next hany =>
    obtain ⟨s, hs, hz⟩ := List.any_eq_true.mp hany
    exact .zeroCharacter hs (List.contains_iff_mem.mp hz)
  · next hany =>
    have hz : ∀ s ∈ c.program :: c.args, '\x00' ∉ s.toList := by
      intro s hs hmem
      exact hany (List.any_eq_true.mpr ⟨s, hs, List.contains_iff_mem.mpr hmem⟩)
    split
    · next e hr => exact .unresolved hz hr
    · next p hr =>
      split
      · next hlong =>
        obtain ⟨a, ha, hl⟩ := List.any_eq_true.mp hlong
        exact .tooLong hz hr ha (of_decide_eq_true hl)
      · next hlong =>
        have hl : ∀ a ∈ c.args, a.utf8ByteSize ≤ argumentLimit := by
          intro a ha
          by_contra hl
          exact hlong (List.any_eq_true.mpr ⟨a, ha, decide_eq_true (Nat.lt_of_not_le hl)⟩)
        split
        · exact .ended _ _ hz hr hl
        · exact .ended _ _ hz hr hl

section

variable {m m' : Machine} {c : Call} {fault : LaunchFault} {f : Finished}

/-- A call that comes to nothing leaves the machine as it was. -/
theorem Launches.of_fault (h : Launches m c (.error fault, m')) : m' = m := by
  cases h with
  | zeroCharacter => rfl
  | unresolved => rfl
  | tooLong => rfl

/-- A program that has ended has changed nothing but files. -/
theorem Launches.place_eq {r : Except LaunchFault Finished} (h : Launches m c (r, m')) :
    m'.directory = m.directory ∧ m'.environment = m.environment := by
  cases h with
  | zeroCharacter => exact ⟨rfl, rfl⟩
  | unresolved => exact ⟨rfl, rfl⟩
  | tooLong => exact ⟨rfl, rfl⟩
  | ended => exact ⟨rfl, rfl⟩

/-- What has ended is a utility that stands in the tree, which was given the arguments of the call
as bytes, behind those that scripts have put in front of them. -/
theorem Launches.of_finished (h : Launches m c (.ok f, m')) :
    ∃ p, m.resolve (octets c.program) (c.args.map octets) = .ok p ∧
      (∃ place, m.tree.entry? place = some (.utility p.utility)) ∧
      c.args.map octets <:+ p.args := by
  cases h with
  | @ended p _ _ _ hr =>
    obtain ⟨path, n, -, hruns⟩ := Machine.resolve_runs hr
    exact ⟨p, hr, hruns.stands, hruns.args_suffix⟩

end

end Host

namespace Tool

variable {σ α β : Type}

/-- Work that keeps what holds of the runner. -/
def Session.Keeps (I : σ → Prop) (work : Session σ α) : Prop :=
  ∀ s, I s → I (work.run s).state

def Runner.Keeps (I : σ → Prop) (runner : Runner σ) : Prop :=
  ∀ c s, I s → I (runner c s).state

end Tool

namespace Program

open Tool Command

variable {σ : Type} {I : σ → Prop} {runner : Runner σ}

theorem keeps_disassemble (h : runner.Keeps I) (tools : Toolset) (request : DisassemblyRequest) :
    (Inspection.disassemble runner tools request).Keeps I := by
  intro s hs
  rw [Inspection.state_disassemble]
  exact h _ s hs

theorem keeps_analyze (h : runner.Keeps I) (tools : Toolset) (file : String)
    (symbols : List String) (request : AnalysisRequest) :
    (Inspection.analyze runner tools file symbols request).Keeps I := by
  intro s hs
  have hopening := keeps_disassemble h tools (.forAnalysis file symbols) s hs
  rw [Inspection.run_analyze]
  dsimp only
  split
  · exact hopening
  · split
    · rw [Inspection.run_report]
      exact h _ _ hopening
    · exact hopening

theorem keeps_detect (h : runner.Keeps I) (tools : Toolset) (catalogue : Catalogue)
    (file symbol : String) (cpu : Option String) :
    (Inspection.detect runner tools catalogue file symbol cpu).Keeps I := by
  intro s hs
  have hopening := keeps_disassemble h tools (.forFeatures file symbol cpu) s hs
  rw [Inspection.run_detect]
  dsimp only
  split
  · exact hopening
  · split
    · exact hopening
    · exact hopening

/-- Whatever the command line, a program keeps what its runner keeps. -/
theorem run_keeps (h : runner.Keeps I) (command : Command) (isFile : String → Bool)
    (env : CommandLine.Environment) (args : List String) (clock : Log.Clock) {s : σ} (hs : I s) :
    I (run command isFile env runner args s clock).state := by
  have hstopped : ∀ help stop, I (stopped help stop s).state := by
    intro help stop
    cases stop with
    | help => exact hs
    | misuse => exact hs
  have hfinish : ∀ verbosity (work : Session σ String), work.Keeps I →
      I (finish clock verbosity work s).state := by
    intro verbosity work hwork
    have hstate : (finish clock verbosity work s).state = (work.run s).state := by
      unfold finish Session.run
      dsimp only
      split
      · rfl
      · rfl
    rw [hstate]
    exact hwork s hs
  cases command with
  | analysis =>
    unfold run
    dsimp only
    split
    · exact hstopped _ _
    · next o _ => exact hfinish _ _ (keeps_analyze h o.tools o.file o.symbols o.request)
  | features =>
    unfold run
    dsimp only
    split
    · exact hstopped _ _
    · next o _ =>
      refine hfinish _ _ fun t ht => ?_
      have hdetect := keeps_detect h o.tools .builtin o.file o.symbol o.cpu t ht
      rw [Features.Options.session, Session.run_bind]
      split
      · exact hdetect
      · exact hdetect

end Program

namespace Host

open Tool

theorem runner_launch_keeps (m : Machine) :
    (Launcher.runner launch).Keeps fun m' =>
      m'.directory = m.directory ∧ m'.environment = m.environment := by
  intro c s hs
  have hstate : (Launcher.runner launch c s).state = (launch c s).2 := by
    unfold Launcher.runner
    split
    · next h => rw [h]
    · next h => rw [h]
  have hplace := Launches.place_eq (r := (launch c s).1) (launch_launches c s)
  rw [hstate]
  exact ⟨hplace.1.trans hs.1, hplace.2.trans hs.2⟩

/-- Tools may write files, but they cannot move a program to another directory or give it another
environment. -/
theorem run_keeps_place (command : Command) (isFile : String → Bool)
    (env : CommandLine.Environment) (args : List String) (clock : Log.Clock) (m : Machine) :
    let after := (Disasm.Program.run command isFile env (Launcher.runner launch) args m clock).state
    after.directory = m.directory ∧ after.environment = m.environment :=
  Disasm.Program.run_keeps (runner_launch_keeps m) command isFile env args clock ⟨rfl, rfl⟩

end Host

end Disasm
