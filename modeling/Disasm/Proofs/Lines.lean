import Mathlib.Data.List.Basic
import Disasm.Text.Lines

namespace Disasm.Text

/-- Lines as they stand in a text: each ends in its only line feed, and the last may have none. -/
inductive Lined : List (List Char) → Prop
  | nil : Lined []
  | last {line : List Char} (hne : line ≠ []) (hn : '\n' ∉ line) : Lined [line]
  | cons {body : List Char} {rest : List (List Char)} (hn : '\n' ∉ body) (h : Lined rest) :
      Lined ((body ++ ['\n']) :: rest)

theorem splitLines_cons (c : Char) (cs : List Char) :
    splitLines (c :: cs) = extendLines c (splitLines cs) := rfl

theorem splitLines_of_not_mem {line : List Char} (hne : line ≠ []) (hn : '\n' ∉ line) :
    splitLines line = [line] := by
  induction line with
  | nil => exact absurd rfl hne
  | cons c cs ih =>
    obtain ⟨hc, hcs⟩ := not_or.mp (mt List.mem_cons.mpr hn)
    rw [splitLines_cons]
    cases cs with
    | nil => exact if_neg (Ne.symm hc)
    | cons d ds =>
      rw [ih (List.cons_ne_nil d ds) hcs]
      exact if_neg (Ne.symm hc)

/-- The first line feed ends the first line. -/
theorem splitLines_append_feed {body : List Char} (hn : '\n' ∉ body) (rest : List Char) :
    splitLines (body ++ '\n' :: rest) = (body ++ ['\n']) :: splitLines rest := by
  induction body with
  | nil => rfl
  | cons c cs ih =>
    obtain ⟨hc, hcs⟩ := not_or.mp (mt List.mem_cons.mpr hn)
    rw [List.cons_append, splitLines_cons, ih hcs]
    exact if_neg (Ne.symm hc)

theorem Lined.split {ls : List (List Char)} (h : Lined ls) : splitLines ls.flatten = ls := by
  induction h with
  | nil => rfl
  | last hne hn => simpa using splitLines_of_not_mem hne hn
  | cons hn _ ih =>
    rw [List.flatten_cons, List.append_assoc, List.singleton_append, splitLines_append_feed hn, ih]

theorem Lined.extend {ls : List (List Char)} (c : Char) (h : Lined ls) :
    Lined (extendLines c ls) := by
  unfold extendLines
  split
  · next hc =>
    subst hc
    exact @Lined.cons [] ls List.not_mem_nil h
  · next hc =>
    cases h with
    | nil => exact .last (List.cons_ne_nil c []) (by simpa using Ne.symm hc)
    | last hne hn => exact .last (List.cons_ne_nil c _) (by simpa [hn] using Ne.symm hc)
    | @cons body rest hn h => exact @Lined.cons (c :: body) rest (by simpa [hn] using Ne.symm hc) h

theorem lined_splitLines (cs : List Char) : Lined (splitLines cs) := by
  induction cs with
  | nil => exact .nil
  | cons c cs ih => exact ih.extend c

theorem flatten_extendLines (c : Char) (ls : List (List Char)) :
    (extendLines c ls).flatten = c :: ls.flatten := by
  unfold extendLines
  split
  · rfl
  · cases ls <;> rfl

theorem flatten_splitLines (cs : List Char) : (splitLines cs).flatten = cs := by
  induction cs with
  | nil => rfl
  | cons c cs ih => rw [splitLines_cons, flatten_extendLines, ih]

/-- Leaving lines out leaves lines; only the last one was ever without its line feed. -/
theorem Lined.sublist {ks ls : List (List Char)} (h : Lined ls) (hs : ks.Sublist ls) :
    Lined ks := by
  induction h generalizing ks with
  | nil =>
    rw [List.sublist_nil.mp hs]
    exact .nil
  | last hne hn =>
    rcases List.sublist_singleton.mp hs with rfl | rfl
    · exact .nil
    · exact .last hne hn
  | cons hn _ ih =>
    cases hs with
    | cons _ hs => exact ih hs
    | cons_cons _ hs => exact .cons hn (ih hs)

theorem toList_lines (s : String) : (lines s).map String.toList = splitLines s.toList := by
  simp [lines, Function.comp_def]

theorem flatten_lines (s : String) : ((lines s).map String.toList).flatten = s.toList := by
  rw [toList_lines, flatten_splitLines]

/-- The lines of a text are the only ones that make it up. -/
theorem lines_eq_iff {s : String} {ls : List String} :
    lines s = ls ↔ Lined (ls.map String.toList) ∧ String.join ls = s := by
  constructor
  · rintro rfl
    rw [toList_lines]
    refine ⟨lined_splitLines _, String.toList_inj.mp ?_⟩
    rw [String.toList_join, List.flatMap_def, flatten_lines]
  · rintro ⟨hl, rfl⟩
    rw [lines, String.toList_join, List.flatMap_def, hl.split]
    simp [Function.comp_def]

theorem lined_lines (s : String) : Lined ((lines s).map String.toList) :=
  (lines_eq_iff.mp rfl).1

theorem join_lines (s : String) : String.join (lines s) = s :=
  (lines_eq_iff.mp rfl).2

/-- Some of the lines of a text are the lines of what they make up. -/
theorem lines_join_of_sublist {s : String} {ks : List String} (h : ks.Sublist (lines s)) :
    lines (String.join ks) = ks :=
  lines_eq_iff.mpr ⟨(lined_lines s).sublist (h.map String.toList), rfl⟩

theorem dropLastIf_append (c : Char) (cs : List Char) : dropLastIf c (cs ++ [c]) = cs := by
  simp [dropLastIf]

theorem eq_dropLastIf_append {c : Char} {cs : List Char} (h : cs.getLast? = some c) :
    cs = dropLastIf c cs ++ [c] := by
  obtain ⟨ds, rfl⟩ := List.getLast?_eq_some_iff.mp h
  rw [dropLastIf_append]

/-- The two readings of a line differ in a last carriage return at most. -/
theorem content_eq (line : String) : content line = body line ∨ content line = body line ++ "\r" := by
  unfold content
  split
  · exact .inl rfl
  · next hn =>
    have hfeed : dropLastIf '\n' line.toList = line.toList := if_neg hn
    rw [body, hfeed]
    by_cases hr : line.toList.getLast? = some '\r'
    · refine .inr (String.toList_inj.mp ?_)
      simpa using eq_dropLastIf_append hr
    · refine .inl (String.toList_inj.mp ?_)
      simp [dropLastIf, hr]

end Disasm.Text
