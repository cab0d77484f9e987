import Disasm.Mnemonics

namespace Disasm

namespace Text

/-- A line that starts with a blank. -/
def Indented (line : String) : Prop :=
  ∃ c rest, line.toList = c :: rest ∧ isBlank c = true

instance : DecidablePred Indented := fun line =>
  decidable_of_iff (line.toList.head?.any isBlank = true) <| by
    unfold Indented
    cases line.toList <;> simp

/-- The first word of a line, with what stands before and after it. -/
def FirstWord (line word : String) : Prop :=
  ∃ indent rest : List Char, line.toList = indent ++ (word.toList ++ rest) ∧
    (∀ c ∈ indent, isBlank c = true) ∧
    word ≠ "" ∧ (∀ c ∈ word.toList, isBlank c = false) ∧
    ∀ c ∈ rest.head?, isBlank c = true

theorem firstToken?_of_firstWord {line word : String} (h : FirstWord line word) :
    firstToken? line = some word := by
  obtain ⟨indent, rest, hl, hi, hne, hw, hr⟩ := h
  have hcons : ∃ w ws, word.toList = w :: ws := by
    cases hc : word.toList with
    | nil => exact absurd (String.toList_eq_nil_iff.mp hc) hne
    | cons w ws => exact ⟨w, ws, rfl⟩
  obtain ⟨w, ws, he⟩ := hcons
  have hstart : dropBlanks line.toList = word.toList ++ rest := by
    rw [hl, dropBlanks_append hi, he, List.cons_append, dropBlanks,
      List.dropWhile_cons_of_neg (by simp [hw w (by simp [he])])]
  have hend : rest.takeWhile (!isBlank ·) = [] := by
    cases rest with
    | nil => rfl
    | cons c rest => simp [hr c rfl]
  have htoken : (dropBlanks line.toList).takeWhile (!isBlank ·) = w :: ws := by
    rw [hstart, List.takeWhile_append_of_pos (fun c hc => by simp [hw c hc]), hend,
      List.append_nil, he]
  simp only [firstToken?, htoken]
  rw [← he, String.ofList_toList]

theorem firstWord_of_firstToken? {line word : String} (h : firstToken? line = some word) :
    FirstWord line word := by
  unfold firstToken? at h
  split at h
  · cases h
  · next hne =>
    cases h
    refine ⟨line.toList.takeWhile isBlank, (dropBlanks line.toList).dropWhile (!isBlank ·),
      ?_, ?_, ?_, ?_, ?_⟩
    · rw [String.toList_ofList, List.takeWhile_append_dropWhile, dropBlanks,
        List.takeWhile_append_dropWhile]
    · intro c hc
      exact List.all_eq_true.mp List.all_takeWhile c hc
    · intro he
      exact hne (by simpa using congrArg String.toList he)
    · intro c hc
      rw [String.toList_ofList] at hc
      simpa using List.all_eq_true.mp List.all_takeWhile c hc
    · intro c hc
      have h := List.head?_dropWhile_not (!isBlank ·) (dropBlanks line.toList)
      rw [Option.mem_def.mp hc] at h
      simpa using h

theorem firstToken?_eq_some_iff {line word : String} :
    firstToken? line = some word ↔ FirstWord line word :=
  ⟨firstWord_of_firstToken?, firstToken?_of_firstWord⟩

end Text

namespace Listing

theorem mnemonic?_eq_some_iff {line m : String} :
    mnemonic? line = some m ↔
      Text.Indented line ∧ ∃ word, Text.FirstWord line word ∧ Text.lowercase word = m := by
  simp only [← Text.firstToken?_eq_some_iff]
  unfold mnemonic? Text.Indented
  cases hl : line.toList with
  | nil => simp
  | cons c rest => by_cases hc : Text.isBlank c = true <;> simp [hc]

/-- A listing uses the first words of its indented lines, in small letters. -/
def Uses (text m : String) : Prop :=
  ∃ line ∈ Text.contents text,
    Text.Indented line ∧ ∃ word, Text.FirstWord line word ∧ Text.lowercase word = m

theorem mem_mnemonics_iff {text m : String} : m ∈ mnemonics text ↔ Uses text m := by
  simp only [mnemonics, Mnemonics.mem_ofList, List.mem_filterMap, mnemonic?_eq_some_iff, Uses]

/-- Listings that use the same words have the same mnemonics. -/
theorem mnemonics_eq_of_uses_iff {text other : String} (h : ∀ m, Uses text m ↔ Uses other m) :
    mnemonics text = mnemonics other := by
  apply Mnemonics.eq_of_mem_iff
  intro m
  rw [mem_mnemonics_iff, mem_mnemonics_iff]
  exact h m

end Listing

end Disasm
