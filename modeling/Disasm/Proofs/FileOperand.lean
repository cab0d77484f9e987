import Disasm.Program
import Disasm.Proofs.CommandLines
import Disasm.Proofs.FeatureSearch
import Disasm.Proofs.NormalPaths

namespace Disasm

/-- An argument that a tool takes for an option. -/
def Dashed (argument : String) : Prop :=
  argument.toList.head? = some '-'

instance : DecidablePred Dashed := fun argument =>
  inferInstanceAs (Decidable (argument.toList.head? = some '-'))

theorem Dashed.append {s : String} (h : Dashed s) (t : String) : Dashed (s ++ t) := by
  rw [Dashed, String.toList_append, List.head?_append, h]
  rfl

namespace Path

theorem head?_intercalate {sep first : List Char} {rest : List (List Char)} (h : first ≠ []) :
    (sep.intercalate (first :: rest)).head? = first.head? := by
  obtain ⟨c, cs, rfl⟩ := List.exists_cons_of_ne_nil h
  cases rest with
  | nil => simp
  | cons second rest => simp [List.intercalate_cons_cons]

/-- A path in normal form begins with its first component, if it does not begin at the root. -/
theorem dashed_normalize_iff {path : String} :
    Dashed (normalize path) ↔
      isAbsolute path = false ∧ ∃ c, (components path).head? = some c ∧ Dashed c := by
  unfold normalize
  cases isAbsolute path with
  | true => simp [Dashed]
  | false =>
    cases hc : components path with
    | nil => simp [Dashed]
    | cons c rest =>
      have hne : c.toList ≠ [] := by
        have hmem : c ∈ components path := hc ▸ List.mem_cons_self
        exact mt String.toList_eq_nil_iff.mp (mem_components_iff.mp hmem).2.1
      simp [Dashed, String.toList_intercalate, head?_intercalate hne]

end Path

namespace DisassemblyRequest

variable (r : DisassemblyRequest)

theorem dashed_of_mem_styleArgs : ∀ a ∈ r.styleArgs, Dashed a := by
  unfold styleArgs
  split <;> decide

theorem dashed_of_mem_selectionArgs : ∀ a ∈ r.selectionArgs, Dashed a := by
  unfold selectionArgs
  split
  · exact fun a ha => absurd ha List.not_mem_nil
  · intro a ha
    rw [List.mem_singleton.mp ha]
    exact Dashed.append (by decide) _

theorem dashed_of_mem_cpuArgs : ∀ a ∈ r.cpuArgs, Dashed a := by
  unfold cpuArgs
  split
  · exact fun a ha => absurd ha List.not_mem_nil
  · intro a ha
    rw [List.mem_singleton.mp ha]
    exact Dashed.append (by decide) _

/-- Besides the file, all arguments of the disassembler are options. -/
theorem filter_args :
    (r.args.filter fun a => ¬ Dashed a) = if Dashed r.file then [] else [r.file] := by
  have hnone : ∀ as : List String, (∀ a ∈ as, Dashed a) →
      (as.filter fun a => ¬ Dashed a) = [] := by
    intro as h
    exact List.filter_eq_nil_iff.mpr fun a ha => by simpa using h a ha
  have htargets : ∀ a ∈ if r.symbolicTargets then ["--symbolize-operands"] else [], Dashed a := by
    split <;> decide
  simp only [args, List.filter_append, hnone _ r.dashed_of_mem_styleArgs, hnone _ htargets,
    hnone _ r.dashed_of_mem_selectionArgs, hnone _ r.dashed_of_mem_cpuArgs, List.nil_append,
    List.append_nil]
  by_cases h : Dashed r.file <;> simp [h]

end DisassemblyRequest

namespace Command.Features

open CommandLine

variable {isFile : String → Bool} {env : Environment} {args : List String} {o : Options}

theorem read_fileSlot_eq_ok_iff {value : String} {setting : Setting} :
    (fileSlot isFile).read value = .ok setting ↔
      isFile value = true ∧ setting = .file (Path.normalize value) := by
  simp only [fileSlot, Path.accept]
  cases isFile value with
  | true => simp [eq_comm]
  | false => simp

/-- A file that is given is one of the arguments and exists. -/
theorem file_of_gives {place path : String}
    (h : Gives (grammar isFile) args ⟨place, .file path⟩) :
    ∃ value ∈ args, isFile value = true ∧ path = Path.normalize value := by
  generalize hx : (⟨place, .file path⟩ : Given Setting) = x at h
  cases h with
  | @operand value setting hv hr =>
    obtain ⟨-, rfl⟩ := Given.mk.inj hx
    obtain ⟨hfile, he⟩ := read_fileSlot_eq_ok_iff.mp hr
    exact ⟨value, hv, hfile, Setting.file.inj he⟩
  -- no option gives a file
  | @value o slot value setting ho ht hr =>
    obtain ⟨-, rfl⟩ := Given.mk.inj hx
    simp only [grammar, List.mem_cons, List.not_mem_nil, or_false] at ho
    rcases ho with rfl | rfl | rfl | rfl | rfl | rfl
    · cases ht
      cases hr
    · cases ht
      cases hr
    · cases ht
      simp only [formatSlot] at hr
      split at hr <;> cases hr
    · cases ht
      cases hr
    · cases ht
    · cases ht
  | @flag o setting ho ht =>
    obtain ⟨-, rfl⟩ := Given.mk.inj hx
    simp only [grammar, List.mem_cons, List.not_mem_nil, or_false] at ho
    rcases ho with rfl | rfl | rfl | rfl | rfl | rfl
    all_goals rcases ht with ht | ht <;> cases ht

/-- The file of an accepted command line is one of its arguments in normal form. -/
theorem file_of_parse (h : Options.parse isFile env args = .ok o) :
    ∃ path ∈ args, isFile path = true ∧ o.file = Path.normalize path := by
  unfold Options.parse at h
  split at h
  · cases h
  · next settings hp =>
    cases h
    simp only [Options.ofSettings, Option.getD]
    split
    · next path hfile =>
      obtain ⟨setting, hs, he⟩ := List.exists_of_findSome?_eq_some hfile
      split at he
      · next path' =>
        cases he
        obtain ⟨place, hg⟩ := Grammar.gives_setting hp hs
        exact file_of_gives hg
      · cases he
    · next hfile =>
      obtain ⟨value, -, setting, hs, hr⟩ := Grammar.operand_of_parse hp
      obtain ⟨-, rfl⟩ := read_fileSlot_eq_ok_iff.mp hr
      cases List.findSome?_eq_none_iff.mp hfile _ hs

section

open Tool

variable {σ : Type} (runner : Runner σ) (s : σ)

theorem calls_session (o : Options) :
    calls ((o.session runner).run s).trace =
      [Inspection.featuresCall o.tools o.file o.symbol o.cpu] := by
  rw [Options.session, Session.run_bind]
  split
  · simp only [Session.run_pure, Run.after, List.append_nil, Inspection.calls_detect]
  · exact Inspection.calls_detect

/-- An accepted command line leads to one call, that of its session. -/
theorem calls_run (h : Options.parse isFile env args = .ok o) :
    calls (Program.run .features isFile env runner args s).trace =
      [Inspection.featuresCall o.tools o.file o.symbol o.cpu] := by
  simp only [Program.run, h, Program.finish]
  split
  · exact calls_session runner s o
  · exact calls_session runner s o

/-- The disassembler gets the file of an accepted command line, as the one argument that is not an
option if its path in normal form does not begin with a component that looks like one. -/
theorem run_passes_file (h : Options.parse isFile env args = .ok o) :
    ∃ call, calls (Program.run .features isFile env runner args s).trace = [call] ∧
      o.file ∈ call.args ∧
      (call.args.filter fun a => ¬ Dashed a) = (if Dashed o.file then [] else [o.file]) ∧
      ∃ path ∈ args, isFile path = true ∧ o.file = Path.normalize path ∧
        (Dashed o.file ↔ Path.isAbsolute path = false ∧
          ∃ c, (Path.components path).head? = some c ∧ Dashed c) := by
  obtain ⟨path, hpath, hfile, hnormal⟩ := file_of_parse h
  refine ⟨_, calls_run runner s h, ?_, DisassemblyRequest.filter_args _, path, hpath, hfile,
    hnormal, ?_⟩
  · simp [Inspection.featuresCall, DisassemblyRequest.args, DisassemblyRequest.forFeatures]
  · rw [hnormal]
    exact Path.dashed_normalize_iff

end

/-- A directory in front of its name keeps a file an operand, and values with dashes stay with
their options. -/
theorem run_passes_file_in_directory :
    let args := ["--cpu=-X", "./lib//-f.o", "-vs-main"]
    let isFile := fun path => path == "./lib//-f.o"
    let runner : Tool.Runner Unit := fun c _ => ⟨.error (.toolMissing c.program), [], ()⟩
    Options.parse isFile (fun _ => none) args =
        .ok ⟨"lib/-f.o", "-main", some "-X", .text, "llvm-objdump", 1⟩ ∧
      ∃ call, Tool.calls (Program.run .features isFile (fun _ => none) runner args ()).trace =
          [call] ∧
        (call.args.filter fun a => ¬ Dashed a) = ["lib/-f.o"] := by
  intro args isFile runner
  have h : Options.parse isFile (fun _ => none) args =
      .ok ⟨"lib/-f.o", "-main", some "-X", .text, "llvm-objdump", 1⟩ := by decide +kernel
  obtain ⟨call, hcalls, -, hoperands, -⟩ := run_passes_file runner () h
  exact ⟨h, call, hcalls, hoperands.trans (if_neg (by decide))⟩

/-- The file `-s` of the directory at hand is accepted with a dot and a slash in front, and without
them nothing that the disassembler gets is an operand. -/
theorem run_passes_no_operand :
    let args := ["./-s", "-s", "main"]
    let isFile := fun path => path == "./-s"
    let runner : Tool.Runner Unit := fun c _ => ⟨.error (.toolMissing c.program), [], ()⟩
    let call : Tool.Call := ⟨"llvm-objdump", ["--disassemble", "--no-addresses",
      "--no-show-raw-insn", "--disassembler-color=off", "--disassembler-options=intel", "-s",
      "--disassemble-symbols=main"], none⟩
    Options.parse isFile (fun _ => none) args =
        .ok ⟨"-s", "main", none, .text, "llvm-objdump", 0⟩ ∧
      Tool.calls (Program.run .features isFile (fun _ => none) runner args ()).trace = [call] ∧
      (call.args.filter fun a => ¬ Dashed a) = [] := by
  decide +kernel

end Command.Features

end Disasm
