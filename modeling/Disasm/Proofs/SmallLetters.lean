import Mathlib.Data.List.Basic
import Disasm.Text.Blank
import Disasm.Text.Lowercase

namespace Disasm.Text

def blankRanges : List (Nat × Nat) := [
  (0x09, 0x0D), (0x20, 0x20), (0x85, 0x85), (0xA0, 0xA0), (0x1680, 0x1680), (0x2000, 0x200A),
  (0x2028, 0x2029), (0x202F, 0x202F), (0x205F, 0x205F), (0x3000, 0x3000)]

theorem exists_range_of_isBlank {c : Char} (h : isBlank c = true) :
    ∃ r ∈ blankRanges, r.1 ≤ c.toNat ∧ c.toNat ≤ r.2 := by
  simp only [isBlank, Bool.or_eq_true, Bool.and_eq_true, decide_eq_true_eq, beq_iff_eq] at h
  simp only [blankRanges, List.exists_mem_cons_iff, List.not_mem_nil, false_and, exists_false]
  omega

/-- The small forms that a range gives lie apart from all blanks. -/
theorem caseRanges_apart : ∀ r ∈ caseRanges, ∀ b ∈ blankRanges,
    b.2 < r.small ∨ r.small + (r.last - r.first) < b.1 := by
  decide +kernel

theorem isBlank_ofNat {n : Nat} (h : ∀ b ∈ blankRanges, b.2 < n ∨ n < b.1) :
    isBlank (Char.ofNat n) = false := by
  by_cases hn : n.isValidChar
  · have hnumber : (Char.ofNat n).toNat = n := by
      rw [Char.ofNat, dif_pos hn]
      rfl
    refine Bool.eq_false_iff.mpr fun hblank => ?_
    obtain ⟨b, hb, hlow, hhigh⟩ := exists_range_of_isBlank hblank
    rw [hnumber] at hlow hhigh
    have hapart := h b hb
    omega
  · rw [Char.ofNat, dif_neg hn]
    decide

theorem isBlank_toLower_ofNat : ∀ n < 0x80,
    isBlank (Char.ofNat n) = false → isBlank (Char.ofNat n).toLower = false := by
  decide

theorem isBlank_of_mem_lowerChar {c d : Char} (h : isBlank c = false) (hd : d ∈ lowerChar c) :
    isBlank d = false := by
  unfold lowerChar at hd
  split_ifs at hd with hascii hdot
  · rw [List.mem_singleton.mp hd, ← Char.ofNat_toNat c]
    exact isBlank_toLower_ofNat c.toNat hascii (by rwa [Char.ofNat_toNat])
  · simp only [List.mem_cons, List.not_mem_nil, or_false] at hd
    rcases hd with rfl | rfl <;> decide
  · split at hd
    · next r hr =>
      have hfits := List.find?_some hr
      simp only [Bool.and_eq_true, decide_eq_true_eq] at hfits
      rw [List.mem_singleton.mp hd]
      refine isBlank_ofNat fun b hb => ?_
      have hapart := caseRanges_apart r (List.mem_of_find?_eq_some hr) b hb
      omega
    · rwa [List.mem_singleton.mp hd]

theorem isBlank_of_mem_lowerIn {casedBefore : Bool} {c d : Char} {rest : List Char}
    (h : isBlank c = false) (hd : d ∈ lowerIn casedBefore c rest) : isBlank d = false := by
  unfold lowerIn at hd
  split_ifs at hd
  · rw [List.mem_singleton.mp hd]
    decide
  · rw [List.mem_singleton.mp hd]
    decide
  · exact isBlank_of_mem_lowerChar h hd

theorem isBlank_of_mem_lowerFrom {done cs : List Char} {casedBefore : Bool} {d : Char}
    (hdone : ∀ c ∈ done, isBlank c = false) (h : ∀ c ∈ cs, isBlank c = false)
    (hd : d ∈ lowerFrom done casedBefore cs) : isBlank d = false := by
  induction cs generalizing done casedBefore with
  | nil => exact hdone d (List.mem_reverse.mp hd)
  | cons c rest ih =>
    refine ih ?_ (fun e he => h e (List.mem_cons_of_mem c he)) hd
    intro e he
    rcases List.mem_append.mp he with he | he
    · exact isBlank_of_mem_lowerIn (h c List.mem_cons_self) (List.mem_reverse.mp he)
    · exact hdone e he

/-- A text without blanks has none in small letters. -/
theorem isBlank_of_mem_lowercase {s : String} {d : Char} (h : ∀ c ∈ s.toList, isBlank c = false)
    (hd : d ∈ (lowercase s).toList) : isBlank d = false := by
  rw [lowercase, String.toList_ofList] at hd
  exact isBlank_of_mem_lowerFrom (fun c hc => absurd hc List.not_mem_nil) h hd

end Disasm.Text
