import Disasm.Proofs.Cleaning
import Disasm.Proofs.Detection

namespace Disasm

namespace Text

theorem FirstWord.append_return {line word : String} (h : FirstWord line word) :
    FirstWord (line ++ "\r") word := by
  obtain ⟨indent, rest, hl, hi, hne, hw, hr⟩ := h
  refine ⟨indent, rest ++ ['\r'], by simp [hl], hi, hne, hw, ?_⟩
  intro c hc
  cases rest with
  | nil =>
    cases hc
    decide
  | cons d rest => exact hr c hc

theorem FirstWord.of_append_return {line word : String} (h : FirstWord (line ++ "\r") word) :
    FirstWord line word := by
  obtain ⟨indent, rest, hl, hi, hne, hw, hr⟩ := h
  rw [String.toList_append] at hl
  -- the carriage return is a blank, so it belongs to what follows the word
  rcases List.eq_nil_or_concat rest with rfl | ⟨rest, c, rfl⟩
  · rcases List.eq_nil_or_concat word.toList with hnil | ⟨ws, c, hword⟩
    · exact absurd (String.toList_eq_nil_iff.mp hnil) hne
    · rw [List.append_nil, hword, List.concat_eq_append, ← List.append_assoc] at hl
      have hc : '\r' = c := by simpa using (List.append_inj' hl rfl).2
      have hblank := hw c (by simp [hword])
      rw [← hc] at hblank
      exact absurd hblank (by decide)
  · rw [List.concat_eq_append, ← List.append_assoc, ← List.append_assoc] at hl
    refine ⟨indent, rest, ?_, hi, hne, hw, ?_⟩
    · rw [(List.append_inj' hl rfl).1, List.append_assoc]
    · intro d hd
      cases rest with
      | nil => cases hd
      | cons e rest => exact hr d hd

theorem FirstWord.indented_append_iff {line word tail : String} (h : FirstWord line word) :
    Indented (line ++ tail) ↔ Indented line := by
  obtain ⟨indent, rest, hl, -, hne, -, -⟩ := h
  unfold Indented
  cases hc : line.toList with
  | nil => exact absurd (by simpa using (hl.symm.trans hc)) (by simp [hne])
  | cons c cs => simp [hc]

/-- Whether a last carriage return is taken off does not matter to the first word. -/
theorem indented_firstWord_content_iff {line word : String} :
    (Indented (content line) ∧ FirstWord (content line) word) ↔
      (Indented (body line) ∧ FirstWord (body line) word) := by
  rcases content_eq line with he | he
  · rw [he]
  · rw [he]
    constructor
    · rintro ⟨hi, hw⟩
      have hw := hw.of_append_return
      exact ⟨hw.indented_append_iff.mp hi, hw⟩
    · rintro ⟨hi, hw⟩
      exact ⟨hw.indented_append_iff.mpr hi, hw.append_return⟩

end Text

namespace Listing

open Text (body lines)

theorem uses_iff_body {text m : String} :
    Uses text m ↔ ∃ line ∈ lines text, Text.Indented (body line) ∧
      ∃ word, Text.FirstWord (body line) word ∧ Text.lowercase word = m := by
  constructor
  · rintro ⟨_, hc, hi, word, hw, rfl⟩
    obtain ⟨line, hl, rfl⟩ := List.mem_map.mp hc
    obtain ⟨hi, hw⟩ := Text.indented_firstWord_content_iff.mp ⟨hi, hw⟩
    exact ⟨line, hl, hi, word, hw, rfl⟩
  · rintro ⟨line, hl, hi, word, hw, rfl⟩
    obtain ⟨hi, hw⟩ := Text.indented_firstWord_content_iff.mpr ⟨hi, hw⟩
    exact ⟨_, List.mem_map_of_mem hl, hi, word, hw, rfl⟩

/-- An indented line is noise only as the header of an archive member. -/
theorem isNoise_iff_of_indented {b : String} (h : Text.Indented b) :
    IsNoise b ↔ isArchiveMember b = true := by
  rw [isArchiveMember_iff]
  constructor
  · rintro ⟨kind, hk⟩
    -- banners and labels start with a character that is no blank
    obtain ⟨c, rest, hb, hc⟩ := h
    cases hk with
    | archiveMember ha hm hw hr => exact .archiveMember ha hm hw hr
    | blank => cases hb
    | sectionBanner hne =>
      rw [String.toList_append] at hb
      obtain ⟨rfl, -⟩ := List.cons.inj hb
      exact absurd hc (by decide)
    | symbolLabel hne =>
      rw [toList_label] at hb
      obtain ⟨rfl, -⟩ := List.cons.inj hb
      exact absurd hc (by decide)
  · intro ha
    exact ⟨.archiveMember, ha⟩

theorem uses_clean_iff {raw m : String} :
    Uses (clean raw).text m ↔ ∃ line ∈ lines raw, Text.Indented (body line) ∧
      isArchiveMember (body line) = false ∧
      ∃ word, Text.FirstWord (body line) word ∧ Text.lowercase word = m := by
  rw [uses_iff_body, lines_text_clean]
  constructor
  · rintro ⟨line, hl, hi, hw⟩
    obtain ⟨hl, hn⟩ := List.mem_filter.mp hl
    have hn : ¬ IsNoise (body line) := by simpa using hn
    rw [isNoise_iff_of_indented hi, Bool.not_eq_true] at hn
    exact ⟨line, hl, hi, hn, hw⟩
  · rintro ⟨line, hl, hi, hn, hw⟩
    rw [← Bool.not_eq_true, ← isNoise_iff_of_indented hi] at hn
    exact ⟨line, List.mem_filter.mpr ⟨hl, by simpa using hn⟩, hi, hw⟩

end Listing

end Disasm
