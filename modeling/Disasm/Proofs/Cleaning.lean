import Disasm.Listing.Clean
import Disasm.Proofs.Lines
import Disasm.Proofs.Noise

namespace Disasm.Listing

open Text (body lines)

variable {kinds : List Noise}

/-- A label is noise, so a line that stays is not the label of anything. -/
theorem labelName?_eq_none_of_not_isNoise {b : String} (h : ¬ IsNoise b) : labelName? b = none := by
  cases hn : labelName? b with
  | none => rfl
  | some name =>
    obtain ⟨hne, rfl⟩ := labelName?_eq_some_iff.mp hn
    exact absurd ⟨.symbolLabel, .symbolLabel hne⟩ h

/-- A line of noise adds its name, if it is a label; any other line is put in front. -/
theorem addLine_cases (hk : ∀ kind, kind ∈ kinds) (line : String) (after : Cleaned) :
    (IsNoise (body line) ∧ (Cleaned.addLine kinds line after).kept = after.kept ∧
      (Cleaned.addLine kinds line after).labels =
        (labelName? (body line)).toList ++ after.labels) ∨
    (¬ IsNoise (body line) ∧ (Cleaned.addLine kinds line after).kept = line :: after.kept ∧
      (Cleaned.addLine kinds line after).labels = after.labels) := by
  have hnoise : Noise.first? kinds (body line) = none ↔ ¬ IsNoise (body line) :=
    Noise.first?_eq_none_iff hk
  unfold Cleaned.addLine
  cases hf : Noise.first? kinds (body line) with
  | none => exact .inr ⟨hnoise.mp hf, by simp only [hf], by simp only [hf]⟩
  | some kind =>
    have hn : IsNoise (body line) := by
      refine Classical.not_not.mp (mt hnoise.mpr ?_)
      rw [hf]
      exact Option.some_ne_none kind
    exact .inl ⟨hn, by simp only [hf], by simp only [hf]⟩

theorem kept_cleanOf (hk : ∀ kind, kind ∈ kinds) (raw : String) :
    (cleanOf kinds raw).kept = (lines raw).filter fun line => ¬ IsNoise (body line) := by
  unfold cleanOf
  induction lines raw with
  | nil => rfl
  | cons line ls ih =>
    rw [List.foldr_cons, List.filter_cons]
    rcases addLine_cases hk line (ls.foldr (Cleaned.addLine kinds) {}) with
      ⟨hn, hkept, _⟩ | ⟨hn, hkept, _⟩ <;> simp [hn, hkept, ih]

theorem labels_cleanOf (hk : ∀ kind, kind ∈ kinds) (raw : String) :
    (cleanOf kinds raw).labels = (lines raw).filterMap fun line => labelName? (body line) := by
  unfold cleanOf
  induction lines raw with
  | nil => rfl
  | cons line ls ih =>
    rw [List.foldr_cons]
    rcases addLine_cases hk line (ls.foldr (Cleaned.addLine kinds) {}) with
      ⟨_, _, hlabels⟩ | ⟨hn, _, hlabels⟩
    · rw [hlabels, ih]
      cases hl : labelName? (body line) <;> simp [hl]
    · have hnone := labelName?_eq_none_of_not_isNoise hn
      rw [hlabels, ih]
      simp [hnone]

theorem kept_clean (raw : String) :
    (clean raw).kept = (lines raw).filter fun line => ¬ IsNoise (body line) :=
  kept_cleanOf Noise.mem_all raw

theorem labels_clean (raw : String) :
    (clean raw).labels = (lines raw).filterMap fun line => labelName? (body line) :=
  labels_cleanOf Noise.mem_all raw

/-- The lines that stay are the lines of the cleaned text. -/
theorem lines_text_clean (raw : String) :
    lines (clean raw).text = (lines raw).filter fun line => ¬ IsNoise (body line) := by
  rw [Cleaned.text, kept_clean]
  exact Text.lines_join_of_sublist List.filter_sublist

/-- Names of labels, put back into their lines, are the label lines. -/
theorem map_label_filterMap (bodies : List String) :
    (bodies.filterMap labelName?).map label = bodies.filter fun b => IsLabel b := by
  induction bodies with
  | nil => rfl
  | cons b bodies ih =>
    cases hb : labelName? b with
    | none =>
      have hn : ¬ IsLabel b := by
        intro h
        have hsome := isSome_labelName?_iff.mpr h
        rw [hb] at hsome
        cases hsome
      rw [List.filterMap_cons_none hb, ih, List.filter_cons_of_neg (by simpa using hn)]
    | some name =>
      have hl : IsLabel b := isSome_labelName?_iff.mp (by rw [hb]; rfl)
      obtain ⟨_, rfl⟩ := labelName?_eq_some_iff.mp hb
      rw [List.filterMap_cons_some hb, List.map_cons, ih,
        List.filter_cons_of_pos (by simpa using hl)]

/-- The names kept aside are the only ones whose label lines are those of the listing. -/
theorem eq_labels_clean_iff {raw : String} {names : List String} :
    names = (clean raw).labels ↔
      names.map label = ((lines raw).map body).filter fun b => IsLabel b := by
  have hlabels : (clean raw).labels.map label =
      ((lines raw).map body).filter fun b => IsLabel b := by
    rw [labels_clean, ← map_label_filterMap, List.filterMap_map]
    rfl
  rw [← hlabels]
  exact (List.map_inj_right fun a b => @label_injective a b).symm

end Disasm.Listing
