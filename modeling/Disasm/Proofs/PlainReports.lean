import Disasm.Proofs.Detection
import Disasm.Proofs.Presence
import Disasm.Proofs.Separators
import Disasm.Proofs.SmallLetters
import Disasm.Report.Render

namespace Disasm

/-- A name that stays on its line and does not go on like the colon behind it. -/
def Report.Legible (name : String) : Prop :=
  '\n' ∉ name.toList ∧ ¬ Text.Within ": " name

instance : DecidablePred Report.Legible := fun name =>
  inferInstanceAs (Decidable ('\n' ∉ name.toList ∧ ¬ Text.Within ": " name))

/-- A finding as it can be told from its line. -/
structure Finding.Plain (f : Finding) : Prop where
  legible : Report.Legible f.feature
  ne_nil : f.mnemonics ≠ []
  unblank : ∀ m ∈ f.mnemonics, ∀ c ∈ m.toList, Text.isBlank c = false

namespace Catalogue

variable {c : Catalogue} {text m : String} {f : Finding}

/-- What a listing uses has no blanks. -/
theorem isBlank_of_uses (h : Listing.Uses text m) : ∀ c ∈ m.toList, Text.isBlank c = false := by
  obtain ⟨line, -, -, word, ⟨indent, rest, -, -, -, hword, -⟩, rfl⟩ := h
  intro c hc
  exact Text.isBlank_of_mem_lowercase hword hc

/-- Findings can be told from their lines if the names of the features allow it. -/
theorem plain_of_mem_detect (h : ∀ g ∈ c.features, Report.Legible g.name)
    (hf : f ∈ (c.detect text).entries) : f.Plain := by
  have hreports := c.findings_reports (Listing.mnemonics text)
  have hshows : ∀ m ∈ f.mnemonics, (∃ g ∈ c.features, g.name = f.feature ∧ g.Lists m) ∧
      m ∈ Listing.mnemonics text := by
    intro m hm
    exact (hreports.shows_iff f.feature m).mp ⟨f, hf, rfl, hm⟩
  have hne := hreports.ne_nil f hf
  refine ⟨?_, hne, ?_⟩
  · obtain ⟨m, hm⟩ := List.exists_mem_of_ne_nil _ hne
    obtain ⟨⟨g, hg, hname, -⟩, -⟩ := hshows m hm
    exact hname ▸ h g hg
  · intro m hm
    exact isBlank_of_uses (Listing.mem_mnemonics_iff.mp (hshows m hm).2)

end Catalogue

namespace Report

open Text (cut? pieces fields)

/-- The finding on a line: the name stands before the first colon with a blank, and the mnemonics
stand behind it, between commas with blanks. -/
def readFinding? (line : String) : Option Finding :=
  (cut? ": ".toList line.toList).map fun p =>
    ⟨String.ofList p.1, (pieces ", ".toList p.2).map String.ofList⟩

variable {found : Findings} {f : Finding}

theorem not_infix_append_colon {name : List Char} (h : ¬ [':', ' '] <:+: name) :
    ¬ [':', ' '] <:+: name ++ [':'] := by
  intro hi
  rcases List.infix_concat_iff.mp hi with ⟨start, hend⟩ | hi
  · -- the last character would have to be a blank and a colon
    have hlast := congrArg List.getLast? hend
    simp at hlast
  · exact h hi

theorem not_infix_append_comma {m : List Char} (h : ∀ c ∈ m, Text.isBlank c = false) :
    ¬ [',', ' '] <:+: m ++ [','] := by
  intro hi
  have hblank : ' ' ∈ m ++ [','] := hi.subset (by simp)
  rcases List.mem_append.mp hblank with hm | hcomma
  · cases h ' ' hm
  · simp at hcomma

theorem readFinding?_findingLine (h : f.Plain) : readFinding? (findingLine f) = some f := by
  have hline : (findingLine f).toList = f.feature.toList ++
      (": ".toList ++ ", ".toList.intercalate (f.mnemonics.map String.toList)) := by
    rw [findingLine, String.toList_append, String.toList_append, String.toList_intercalate,
      List.append_assoc]
  have hcut : cut? ": ".toList (f.feature.toList ++
      (": ".toList ++ ", ".toList.intercalate (f.mnemonics.map String.toList))) = some _ :=
    Text.cut?_append (not_infix_append_colon h.legible.2) _
  have hpieces : pieces ", ".toList (", ".toList.intercalate (f.mnemonics.map String.toList)) =
      f.mnemonics.map String.toList := by
    refine Text.pieces_intercalate (by simpa using h.ne_nil) ?_
    intro p hp
    obtain ⟨m, hm, rfl⟩ := List.mem_map.mp hp
    exact not_infix_append_comma (h.unblank m hm)
  rw [readFinding?, hline, hcut, Option.map_some, hpieces]
  simp [Function.comp_def]

theorem feed_not_mem_findingLine (h : f.Plain) : '\n' ∉ (findingLine f).toList := by
  intro hmem
  rw [findingLine, String.toList_append, String.toList_append, String.toList_intercalate,
    List.mem_append, List.mem_append] at hmem
  rcases hmem with (hname | hcolon) | hrest
  · exact h.legible.1 hname
  · revert hcolon
    decide
  · rcases Text.mem_intercalate hrest with hcomma | ⟨p, hp, hc⟩
    · revert hcomma
      decide
    · obtain ⟨m, hm, rfl⟩ := List.mem_map.mp hp
      cases h.unblank m hm '\n' hc

/-- A report with findings has a line for each, behind its header. -/
theorem fields_listing {line : Finding → String} (hne : ¬ found.isEmpty)
    (h : ∀ f ∈ found.entries, '\n' ∉ (line f).toList) :
    fields '\n' (listing line found) = header :: found.entries.map line := by
  rw [listing, if_neg hne]
  refine Text.fields_intercalate (List.cons_ne_nil _ _) ?_
  intro t ht
  rcases List.mem_cons.mp ht with rfl | ht
  · decide
  · obtain ⟨f, hf, rfl⟩ := List.mem_map.mp ht
    exact h f hf

theorem head?_intercalate_header (rows : List String) :
    (String.intercalate "\n" (header :: rows)).toList.head? = some 'F' := by
  rw [String.toList_intercalate]
  cases rows with
  | nil => rfl
  | cons row rows =>
    rw [List.map_cons, List.map_cons, List.intercalate_cons_cons]
    rfl

/-- The header does not begin like what is said when nothing was found. -/
theorem listing_eq_noneFound_iff {line : Finding → String} :
    listing line found = noneFound ↔ found.isEmpty := by
  unfold listing
  split_ifs with hempty
  · exact iff_of_true rfl hempty
  · refine iff_of_false (fun he => ?_) hempty
    have hhead := head?_intercalate_header (found.entries.map line)
    rw [he] at hhead
    revert hhead
    decide

def readText (report : String) : List (Option Finding) :=
  (fields '\n' report).tail.map readFinding?

theorem readText_render (h : ∀ f ∈ found.entries, f.Plain) :
    readText (render found .text) = found.entries.map some := by
  by_cases hempty : found.isEmpty
  · have hnone : fields '\n' noneFound = [noneFound] := by decide +kernel
    have hentries : found.entries = [] := List.isEmpty_iff.mp hempty
    rw [readText, render, listing, if_pos hempty, hnone, hentries]
    rfl
  · rw [readText, render, fields_listing hempty fun f hf => feed_not_mem_findingLine (h f hf),
      List.tail_cons, List.map_map]
    exact List.map_congr_left fun f hf => readFinding?_findingLine (h f hf)

end Report

namespace Catalogue

open Report
open Text (fields)

/-- If no name of a feature has a line feed, or a colon with a blank behind it, nothing is lost in
the reports for reading: the lines behind the header give the features with their mnemonics, or
their names, in order. Only a report without findings says that there are none. -/
theorem detect_render_reads (c : Catalogue) (h : ∀ f ∈ c.features, Legible f.name)
    (text : String) :
    let found := c.detect text
    (¬ found.isEmpty →
      (∃ rows, fields '\n' (render found .text) = header :: rows ∧
        rows.map readFinding? = found.entries.map some) ∧
      fields '\n' (render found .list) = header :: found.names) ∧
    (render found .text = noneFound ↔ found.isEmpty) ∧
    (render found .list = noneFound ↔ found.isEmpty) ∧
    ∀ other, render (c.detect other) .text = render found .text → c.detect other = found := by
  intro found
  have hplain : ∀ text, ∀ f ∈ (c.detect text).entries, f.Plain :=
    fun text f hf => plain_of_mem_detect h hf
  refine ⟨fun hne => ⟨⟨found.entries.map findingLine, ?_, ?_⟩, ?_⟩, listing_eq_noneFound_iff,
    listing_eq_noneFound_iff, ?_⟩
  · exact fields_listing hne fun f hf => feed_not_mem_findingLine (hplain text f hf)
  · rw [List.map_map]
    exact List.map_congr_left fun f hf => readFinding?_findingLine (hplain text f hf)
  · exact fields_listing hne fun f hf => (hplain text f hf).legible.1
  · intro other he
    have hentries : (c.detect other).entries.map some = found.entries.map some := by
      rw [← readText_render (hplain other), he, readText_render (hplain text)]
    have hsame := List.map_injective_iff.mpr (fun _ _ => Option.some.inj) hentries
    exact congrArg Findings.mk hsame

/-- A name may end in a colon, and mnemonics in colons and commas. -/
theorem detect_render_reads_marks :
    let c : Catalogue := ⟨[⟨"A:", ["X,", "Y:"]⟩, ⟨"B,", ["y:"]⟩]⟩
    let found := c.detect "\tx, a\n y: b\n"
    (∀ f ∈ c.features, Legible f.name) ∧ ¬ found.isEmpty ∧
      render found .text = "Found these CPU features:\nA:: x,, y:\nB,: y:" ∧
      (∃ rows, fields '\n' (render found .text) = header :: rows ∧
        rows.map readFinding? = [some ⟨"A:", ["x,", "y:"]⟩, some ⟨"B,", ["y:"]⟩]) ∧
      fields '\n' (render found .list) = [header, "A:", "B,"] := by
  intro c found
  have h : ∀ f ∈ c.features, Legible f.name := by decide +kernel
  have hne : ¬ found.isEmpty := by decide +kernel
  have hentries : found.entries.map some = [some ⟨"A:", ["x,", "y:"]⟩, some ⟨"B,", ["y:"]⟩] := by
    decide +kernel
  obtain ⟨⟨rows, hlines, hrows⟩, hlist⟩ :=
    (detect_render_reads c h "\tx, a\n y: b\n").1 hne
  refine ⟨h, hne, by decide +kernel, ⟨rows, hlines, hrows.trans hentries⟩, hlist.trans ?_⟩
  decide +kernel

end Catalogue

end Disasm
