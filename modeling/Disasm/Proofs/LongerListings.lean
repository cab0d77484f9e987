import Disasm.Feature.Builtin
import Disasm.Proofs.Cleaning
import Disasm.Proofs.Detection

namespace Disasm

namespace Text

/-- A text whose last line, if there is one, has its line feed. -/
def Ended (s : String) : Prop :=
  s = "" ∨ s.toList.getLast? = some '\n'

instance : DecidablePred Ended := fun s =>
  inferInstanceAs (Decidable (s = "" ∨ s.toList.getLast? = some '\n'))

theorem Lined.getLast?_of_ended {ls : List (List Char)} (h : Lined ls)
    (he : ∀ c ∈ ls.flatten.getLast?, c = '\n') : ∀ line ∈ ls, line.getLast? = some '\n' := by
  induction h with
  | nil => simp
  | @last line hne hn =>
    obtain ⟨c, hc⟩ := Option.isSome_iff_exists.mp (List.getLast?_isSome.mpr hne)
    have hfeed := he c (by simpa using hc)
    exact absurd (List.mem_of_getLast? (hfeed ▸ hc)) hn
  | @cons body rest _ _ ih =>
    intro line hl
    rcases List.mem_cons.mp hl with rfl | hl
    · simp
    · refine ih ?_ line hl
      intro c hc
      refine he c ?_
      rw [List.flatten_cons, List.getLast?_append, Option.mem_def.mp hc]
      rfl

/-- Lines that all have their line feed may stand before any lines. -/
theorem Lined.append {ks ls : List (List Char)} (hk : Lined ks)
    (he : ∀ line ∈ ks, line.getLast? = some '\n') (hl : Lined ls) : Lined (ks ++ ls) := by
  induction hk with
  | nil => exact hl
  | last _ hn => exact absurd (List.mem_of_getLast? (he _ List.mem_cons_self)) hn
  | cons hn _ ih => exact .cons hn (ih fun line hm => he line (List.mem_cons_of_mem _ hm))

variable {a : String}

theorem Ended.getLast?_of_mem_lines (h : Ended a) :
    ∀ line ∈ lines a, line.toList.getLast? = some '\n' := by
  intro line hm
  refine (lined_lines a).getLast?_of_ended ?_ line.toList (List.mem_map_of_mem hm)
  intro c hc
  rw [flatten_lines] at hc
  rcases h with rfl | h
  · cases hc
  · rw [h] at hc
    exact (Option.some.inj hc).symm

theorem lines_append (h : Ended a) (b : String) : lines (a ++ b) = lines a ++ lines b := by
  refine lines_eq_iff.mpr ⟨?_, by rw [String.join_append, join_lines, join_lines]⟩
  rw [List.map_append]
  refine (lined_lines a).append ?_ (lined_lines b)
  intro chars hm
  obtain ⟨line, hline, rfl⟩ := List.mem_map.mp hm
  exact h.getLast?_of_mem_lines line hline

theorem ended_join {ls : List String} (h : ∀ line ∈ ls, line.toList.getLast? = some '\n') :
    Ended (String.join ls) := by
  rcases List.eq_nil_or_concat ls with rfl | ⟨ls, line, rfl⟩
  · exact .inl rfl
  · refine .inr ?_
    rw [List.concat_eq_append, String.join_append, String.toList_append, List.getLast?_append]
    simp [h line (by simp)]

end Text

namespace Listing

open Text (Ended)

variable {a : String}

theorem text_clean_append (h : Ended a) (b : String) :
    (clean (a ++ b)).text = (clean a).text ++ (clean b).text := by
  simp only [Cleaned.text, kept_clean, Text.lines_append h, List.filter_append, String.join_append]

theorem labels_clean_append (h : Ended a) (b : String) :
    (clean (a ++ b)).labels = (clean a).labels ++ (clean b).labels := by
  simp only [labels_clean, Text.lines_append h, List.filterMap_append]

/-- Lines that stay keep their line feeds. -/
theorem ended_text_clean (h : Ended a) : Ended (clean a).text := by
  rw [Cleaned.text, kept_clean]
  refine Text.ended_join ?_
  intro line hm
  exact h.getLast?_of_mem_lines line (List.mem_filter.mp hm).1

theorem mem_mnemonics_append (h : Ended a) {b m : String} :
    m ∈ mnemonics (a ++ b) ↔ m ∈ mnemonics a ∨ m ∈ mnemonics b := by
  simp only [mnemonics, Mnemonics.mem_ofList, Text.contents, Text.lines_append h, List.map_append,
    List.filterMap_append, List.mem_append]

end Listing

namespace Catalogue

open Listing (clean mnemonics)
open Text (Ended)

/-- What is found in a whole, beside what is found in two parts of it. -/
structure Extends (c : Catalogue) (first second whole : Findings) : Prop where
  shows_iff : ∀ name m, whole.Shows name m ↔ first.Shows name m ∨ second.Shows name m
  /-- Of two features of one name the second part may show the earlier one. -/
  names_sublist : (c.features.map Feature.name).Nodup → first.names.Sublist whole.names
  under_sublist : ∀ name, (first.under name).Sublist (whole.under name)

variable {c : Catalogue} {set more : Mnemonics}

theorem names_findings_sublist (hn : (c.features.map Feature.name).Nodup)
    (h : ∀ m, m ∈ set → m ∈ more) :
    (c.findings set).names.Sublist (c.findings more).names := by
  have honce : ∀ p : Feature → Bool, ((c.features.filter p).map Feature.name).eraseDups =
      (c.features.filter p).map Feature.name :=
    fun p => eraseDups_of_nodup (hn.sublist (List.filter_sublist.map Feature.name))
  rw [names_findings, names_findings, honce, honce]
  refine (List.monotone_filter_right c.features ?_).map Feature.name
  intro f hf
  obtain ⟨m, hlists, hm⟩ := isEmpty_shown_iff.mp hf
  exact isEmpty_shown_iff.mpr ⟨m, hlists, h m hm⟩

theorem under_findings_sublist (h : ∀ m, m ∈ set → m ∈ more) (name : String) :
    ((c.findings set).under name).Sublist ((c.findings more).under name) := by
  rw [under_findings, under_findings]
  refine List.monotone_filter_right _ ?_
  intro m hm
  exact Mnemonics.contains_iff.mpr (h m (Mnemonics.contains_iff.mp hm))

theorem extends_findings {first second whole : Mnemonics}
    (h : ∀ m, m ∈ whole ↔ m ∈ first ∨ m ∈ second) :
    c.Extends (c.findings first) (c.findings second) (c.findings whole) := by
  have hpart : ∀ m, m ∈ first → m ∈ whole := fun m hm => (h m).mpr (.inl hm)
  refine ⟨?_, fun hn => names_findings_sublist hn hpart, under_findings_sublist hpart⟩
  intro name m
  rw [(c.findings_reports whole).shows_iff, (c.findings_reports first).shows_iff,
    (c.findings_reports second).shows_iff, h, and_or_left]

theorem extends_detect {a : String} (h : Ended a) (c : Catalogue) (b : String) :
    c.Extends (c.detect a) (c.detect b) (c.detect (a ++ b)) :=
  extends_findings fun _ => Listing.mem_mnemonics_append h

theorem nodup_names_builtin : (builtin.features.map Feature.name).Nodup := by
  decide +kernel

/-- What is made of whole lines and of what follows them, put together, is what is made of both. So
the whole shows what its parts show; where the names of the features differ, as those known by
default do, all that the first part shows stays in its order. -/
theorem detect_append {a : String} (ha : Ended a) (b : String) :
    (clean (a ++ b)).text = (clean a).text ++ (clean b).text ∧
      (clean (a ++ b)).labels = (clean a).labels ++ (clean b).labels ∧
      (∀ m, m ∈ mnemonics (a ++ b) ↔ m ∈ mnemonics a ∨ m ∈ mnemonics b) ∧
      (∀ c : Catalogue, c.Extends (c.detect a) (c.detect b) (c.detect (a ++ b)) ∧
        c.Extends (c.detect (clean a).text) (c.detect (clean b).text)
          (c.detect (clean (a ++ b)).text)) ∧
      (builtin.features.map Feature.name).Nodup := by
  refine ⟨Listing.text_clean_append ha b, Listing.labels_clean_append ha b,
    fun _ => Listing.mem_mnemonics_append ha, fun c => ⟨extends_detect ha c b, ?_⟩,
    nodup_names_builtin⟩
  rw [Listing.text_clean_append ha b]
  exact extends_detect (Listing.ended_text_clean ha) c (clean b).text

/-- The first part ends with a carriage return and a line feed, and the second shows a feature that
stands between those of the first. -/
theorem detect_append_between :
    let a := "<f>:\n\ttzcnt\teax\n\tpaddw\r\n"
    let b := "\n\tPOPCNT\tecx"
    let c : Catalogue := ⟨[⟨"BMI1", ["TZCNT"]⟩, ⟨"POPCNT", ["POPCNT"]⟩, ⟨"MMX", ["paddw"]⟩]⟩
    Ended a ∧ (clean (a ++ b)).text = "\ttzcnt\teax\n\tpaddw\r\n\tPOPCNT\tecx" ∧
      (c.features.map Feature.name).Nodup ∧
      (c.detect a).names = ["BMI1", "MMX"] ∧
      (c.detect (a ++ b)).names = ["BMI1", "POPCNT", "MMX"] ∧
      (c.detect a).names.Sublist (c.detect (a ++ b)).names := by
  intro a b c
  have ha : Ended a := by decide +kernel
  have hn : (c.features.map Feature.name).Nodup := by decide +kernel
  obtain ⟨htext, -, -, hextends, -⟩ := detect_append ha b
  refine ⟨ha, htext.trans (by decide +kernel), hn, by decide +kernel, by decide +kernel, ?_⟩
  exact (hextends c).1.names_sublist hn

/-- Of two features of one name the later one shows first, and the earlier one afterwards. -/
example :
    let c : Catalogue := ⟨[⟨"SSE", ["addps"]⟩, ⟨"MMX", ["emms"]⟩, ⟨"SSE", ["mulps"]⟩]⟩
    (c.detect "\tmulps\n\temms\n").names = ["MMX", "SSE"] ∧
      (c.detect "\tmulps\n\temms\n\taddps\n").names = ["SSE", "MMX"] := by
  decide +kernel

end Catalogue

end Disasm
