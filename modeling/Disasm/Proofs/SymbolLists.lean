import Disasm.Proofs.Separators
import Disasm.Request

namespace Disasm

namespace Text

/-- A text without blanks at either end. -/
structure Trimmed (s : String) : Prop where
  head : ∀ c ∈ s.toList.head?, isBlank c = false
  last : ∀ c ∈ s.toList.getLast?, isBlank c = false

-- by looking at the two characters, not at all characters that there are
instance : DecidablePred Trimmed := fun s =>
  decidable_of_iff (s.toList.head?.all (!isBlank ·) = true ∧
      s.toList.getLast?.all (!isBlank ·) = true) <| by
    simp only [Option.all_eq_true, Bool.not_eq_true']
    exact ⟨fun h => ⟨h.1, h.2⟩, fun h => ⟨h.1, h.2⟩⟩

theorem trim_of_trimmed {s : String} (h : Trimmed s) : trim s = s := by
  rw [trim, dropBlanks_of_head? h.head, dropBlanksEnd_of_getLast? h.last, String.ofList_toList]

/-- What is trimmed off at the end stands behind the result. -/
theorem prefix_dropBlanks (s : String) : (trim s).toList <+: dropBlanks s.toList := by
  rw [trim, String.toList_ofList, dropBlanksEnd, ← List.reverse_suffix, List.reverse_reverse]
  exact List.dropWhile_suffix isBlank

theorem trimmed_trim (s : String) : Trimmed (trim s) := by
  constructor
  · intro c hc
    obtain ⟨blanks, hs⟩ := prefix_dropBlanks s
    refine isBlank_of_head?_dropBlanks s.toList c ?_
    rw [← hs, List.head?_append, Option.mem_def.mp hc]
    rfl
  · rw [trim, String.toList_ofList]
    exact isBlank_of_getLast?_dropBlanksEnd _

theorem mem_of_mem_trim {s : String} {c : Char} (h : c ∈ (trim s).toList) : c ∈ s.toList :=
  (List.dropWhile_suffix isBlank).subset ((prefix_dropBlanks s).subset h)

end Text

namespace Symbols

/-- A name as it stands between the commas of a list. -/
structure IsName (name : String) : Prop where
  ne_empty : name ≠ ""
  no_comma : ',' ∉ name.toList
  trimmed : Text.Trimmed name

instance : DecidablePred IsName := fun name =>
  decidable_of_iff (name ≠ "" ∧ ',' ∉ name.toList ∧ Text.Trimmed name)
    ⟨fun h => ⟨h.1, h.2.1, h.2.2⟩, fun h => ⟨h.1, h.2, h.3⟩⟩

theorem isName_of_mem_split {list name : String} (h : name ∈ split list) : IsName name := by
  obtain ⟨hm, hne⟩ := List.mem_filter.mp h
  obtain ⟨field, hf, rfl⟩ := List.mem_map.mp hm
  refine ⟨by simpa using hne, ?_, Text.trimmed_trim field⟩
  intro hc
  exact Text.not_mem_of_mem_fields hf (Text.mem_of_mem_trim hc)

/-- Names are split as they were joined. -/
theorem split_join_of_isName {names : List String} (h : ∀ name ∈ names, IsName name) :
    split (join names) = names := by
  cases names with
  | nil => decide
  | cons first rest =>
    have hfields : Text.fields ',' (join (first :: rest)) = first :: rest :=
      Text.fields_intercalate (List.cons_ne_nil first rest) fun name hn => (h name hn).no_comma
    have htrim : (first :: rest).map Text.trim = (first :: rest).map id :=
      List.map_congr_left fun name hn => Text.trim_of_trimmed (h name hn).trimmed
    rw [split, hfields, htrim, List.map_id, List.filter_eq_self]
    intro name hn
    simpa using (h name hn).ne_empty

end Symbols

namespace DisassemblyRequest

open Symbols (IsName join split)

variable {file other : String} {names more : List String}

theorem args_forAnalysis (file : String) (names : List String) :
    (forAnalysis file names).args =
      ["-d", "--no-addresses", "--no-show-raw-insn", "--symbolize-operands"] ++
        file :: if names = [] then [] else ["--disassemble-symbols=" ++ join names] := by
  cases names <;> rfl

/-- The file stands at its place, and the names can be read off the argument behind it. -/
theorem args_forAnalysis_inj (hx : ∀ name ∈ names, IsName name) (hy : ∀ name ∈ more, IsName name) :
    (forAnalysis file names).args = (forAnalysis other more).args ↔
      file = other ∧ names = more := by
  constructor
  · intro h
    simp only [args_forAnalysis, List.cons_append, List.nil_append, List.cons.injEq, true_and] at h
    obtain ⟨hfile, hselection⟩ := h
    refine ⟨hfile, ?_⟩
    by_cases hn : names = []
    · by_cases hm : more = []
      · rw [hn, hm]
      · simp [hn, hm] at hselection
    · by_cases hm : more = []
      · simp [hn, hm] at hselection
      · rw [if_neg hn, if_neg hm, List.singleton_inj, String.append_right_inj] at hselection
        rw [← Symbols.split_join_of_isName hx, hselection, Symbols.split_join_of_isName hy]
  · rintro ⟨rfl, rfl⟩
    rfl

/-- An argument that limits the disassembly to some symbols. -/
def Selects (argument : String) : Prop :=
  "--disassemble-symbols=".toList <+: argument.toList

instance : DecidablePred Selects := fun argument =>
  inferInstanceAs (Decidable ("--disassemble-symbols=".toList <+: argument.toList))

theorem selects_append (symbols : String) : Selects ("--disassemble-symbols=" ++ symbols) := by
  rw [Selects, String.toList_append]
  exact List.prefix_append _ _

/-- A file may be spelled like any argument; besides it, only the argument with the names limits
the disassembly. -/
theorem mem_erase_selects_iff {a : String} :
    a ∈ (forAnalysis file names).args.erase file ∧ Selects a ↔
      names ≠ [] ∧ a = "--disassemble-symbols=" ++ join names := by
  have hperm : (forAnalysis file names).args.Perm
      (file :: (["-d", "--no-addresses", "--no-show-raw-insn", "--symbolize-operands"] ++
        if names = [] then [] else ["--disassemble-symbols=" ++ join names])) := by
    rw [args_forAnalysis]
    exact List.perm_middle
  have hrest := hperm.erase file
  rw [List.erase_cons_head] at hrest
  rw [hrest.mem_iff, List.mem_append]
  constructor
  · rintro ⟨hstyle | hselection, ha⟩
    · have hnone : ∀ b ∈ ["-d", "--no-addresses", "--no-show-raw-insn", "--symbolize-operands"],
          ¬ Selects b := by decide
      exact absurd ha (hnone a hstyle)
    · split_ifs at hselection with hn
      · exact absurd hselection List.not_mem_nil
      · exact ⟨hn, List.mem_singleton.mp hselection⟩
  · rintro ⟨hn, rfl⟩
    refine ⟨.inr ?_, selects_append _⟩
    rw [if_neg hn]
    exact List.mem_singleton_self _

theorem selects_none_iff :
    (∀ a ∈ (forAnalysis file names).args.erase file, ¬ Selects a) ↔ names = [] := by
  constructor
  · intro h
    by_contra hn
    obtain ⟨hmem, hselects⟩ := mem_erase_selects_iff.mpr ⟨hn, rfl⟩
    exact h _ hmem hselects
  · intro hn a hmem hselects
    exact (mem_erase_selects_iff.mp ⟨hmem, hselects⟩).1 hn

/-- What a list is split into are names, and any names come out of their list as they were; so the
arguments of a request tell the file and the names. An argument besides the file limits the
disassembly unless the list has no names. -/
theorem split_reaches_disassembler :
    (∀ list, ∀ name ∈ split list, IsName name) ∧
      (∀ names, (∀ name ∈ names, IsName name) → split (join names) = names) ∧
      (∀ list, split (join (split list)) = split list) ∧
      (∀ file other list more,
        (forAnalysis file (split list)).args = (forAnalysis other (split more)).args ↔
          file = other ∧ split list = split more) ∧
      ∀ file list,
        (∀ a ∈ (forAnalysis file (split list)).args.erase file, ¬ Selects a) ↔ split list = [] := by
  have hnames : ∀ list, ∀ name ∈ split list, IsName name :=
    fun list name hn => Symbols.isName_of_mem_split hn
  refine ⟨hnames, fun names => Symbols.split_join_of_isName, ?_, ?_, fun _ _ => selects_none_iff⟩
  · intro list
    exact Symbols.split_join_of_isName (hnames list)
  · intro file other list more
    exact args_forAnalysis_inj (hnames list) (hnames more)

/-- Blanks and brackets inside a name, a line feed among them, and a name that comes twice. -/
theorem split_reaches_disassembler_blanks :
    let names := ["operator new\n[]", "f", "-[NSString length]", "f"]
    (∀ name ∈ names, IsName name) ∧ split (join names) = names := by
  intro names
  have h : ∀ name ∈ names, IsName name := by decide +kernel
  exact ⟨h, split_reaches_disassembler.2.1 names h⟩

end DisassemblyRequest

end Disasm
