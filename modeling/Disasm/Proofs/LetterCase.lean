import Mathlib.Data.List.Forall2
import Disasm.Proofs.Detection
import Disasm.Proofs.Lines

namespace Disasm

namespace Text

/-- The same character, or an ASCII letter in its two forms. -/
inductive SameLetter : Char → Char → Prop
  | refl (c : Char) : SameLetter c c
  | small {n : Nat} (h : n < 26) : SameLetter (Char.ofNat (0x41 + n)) (Char.ofNat (0x61 + n))
  | capital {n : Nat} (h : n < 26) : SameLetter (Char.ofNat (0x61 + n)) (Char.ofNat (0x41 + n))

/-- Texts that differ in nothing but the case of ASCII letters. -/
def SameLetters (s t : String) : Prop :=
  List.Forall₂ SameLetter s.toList t.toList

theorem toLower_capital : ∀ n < 26, (Char.ofNat (0x41 + n)).toLower = Char.ofNat (0x61 + n) := by
  decide

theorem toLower_small : ∀ n < 26, (Char.ofNat (0x61 + n)).toLower = Char.ofNat (0x61 + n) := by
  decide

theorem eq_of_small_eq : ∀ n < 26, ∀ m < 26,
    Char.ofNat (0x61 + n) = Char.ofNat (0x61 + m) → n = m := by
  decide

/-- Only the capitals of ASCII are changed. -/
theorem toLower_cases (c : Char) : (∃ n < 26, c = Char.ofNat (0x41 + n)) ∨ c.toLower = c := by
  unfold Char.toLower
  split
  · next h =>
    have hlow : 0x41 ≤ c.toNat := h.1
    have hhigh : c.toNat ≤ 0x5A := h.2
    refine .inl ⟨c.toNat - 0x41, by omega, ?_⟩
    rw [Nat.add_sub_cancel' hlow, Char.ofNat_toNat]
  · exact .inr rfl

/-- What does not tell the two forms of a letter apart does not change with the case. -/
theorem apply_toLower {α : Type} {f : Char → α}
    (h : ∀ n < 26, f (Char.ofNat (0x61 + n)) = f (Char.ofNat (0x41 + n))) (c : Char) :
    f c.toLower = f c := by
  rcases toLower_cases c with ⟨n, hn, rfl⟩ | hc
  · rw [toLower_capital n hn, h n hn]
  · rw [hc]

theorem sameLetter_iff {c d : Char} : SameLetter c d ↔ c.toLower = d.toLower := by
  constructor
  · intro h
    cases h with
    | refl => rfl
    | small hn => rw [toLower_capital _ hn, toLower_small _ hn]
    | capital hn => rw [toLower_capital _ hn, toLower_small _ hn]
  · intro h
    rcases toLower_cases c with ⟨n, hn, rfl⟩ | hc <;> rcases toLower_cases d with ⟨m, hm, rfl⟩ | hd
    · rw [toLower_capital n hn, toLower_capital m hm] at h
      cases eq_of_small_eq n hn m hm h
      exact .refl _
    · rw [toLower_capital n hn, hd] at h
      exact h ▸ .small hn
    · rw [toLower_capital m hm, hc] at h
      exact h ▸ .capital hm
    · rw [hc, hd] at h
      exact h ▸ .refl c

theorem toList_toLower (s : String) : s.toLower.toList = s.toList.map Char.toLower :=
  String.toList_map

theorem toLower_ofList (cs : List Char) :
    (String.ofList cs).toLower = String.ofList (cs.map Char.toLower) := by
  rw [← String.toList_inj, toList_toLower, String.toList_ofList, String.toList_ofList]

theorem sameLetters_iff {s t : String} :
    SameLetters s t ↔ s.toList.map Char.toLower = t.toList.map Char.toLower := by
  have hsame : SameLetter = fun c d => c.toLower = d.toLower := by
    funext c d
    exact propext sameLetter_iff
  rw [← List.forall₂_eq_eq_eq, List.forall₂_map_left_iff, List.forall₂_map_right_iff, SameLetters,
    hsame]

theorem SameLetters.toLower_eq {s t : String} (h : SameLetters s t) : s.toLower = t.toLower := by
  rw [← String.toList_inj, toList_toLower, toList_toLower, sameLetters_iff.mp h]

instance : DecidableRel SameLetters := fun _ _ =>
  decidable_of_iff _ sameLetters_iff.symm

theorem isBlank_toLower (c : Char) : isBlank c.toLower = isBlank c :=
  apply_toLower (by decide) c

theorem isPassedOver_toLower (c : Char) : isPassedOver c.toLower = isPassedOver c :=
  apply_toLower (by decide) c

theorem isCased_toLower (c : Char) : isCased c.toLower = isCased c :=
  apply_toLower (by decide) c

theorem lowerChar_toLower (c : Char) : lowerChar c.toLower = lowerChar c :=
  apply_toLower (by decide) c

/-- What is no ASCII letter comes from itself only. -/
theorem toLower_eq_iff {c e : Char}
    (h : ∀ n < 26, Char.ofNat (0x61 + n) ≠ e ∧ Char.ofNat (0x41 + n) ≠ e) :
    c.toLower = e ↔ c = e := by
  have hsame : ∀ n < 26, (Char.ofNat (0x61 + n) = e) = (Char.ofNat (0x41 + n) = e) := by
    intro n hn
    rw [eq_false (h n hn).1, eq_false (h n hn).2]
  exact iff_of_eq (apply_toLower (f := (· = e)) hsame c)

theorem casedNext_toLower (cs : List Char) : casedNext (cs.map Char.toLower) = casedNext cs := by
  induction cs with
  | nil => rfl
  | cons c cs ih => simp only [List.map_cons, casedNext, isPassedOver_toLower, isCased_toLower, ih]

/-- The sigma is no ASCII letter, and whether letters stand around it is the same in both cases. -/
theorem lowerIn_toLower (casedBefore : Bool) (c : Char) (rest : List Char) :
    lowerIn casedBefore c.toLower (rest.map Char.toLower) = lowerIn casedBefore c rest := by
  have hsigma : c.toLower = capitalSigma ↔ c = capitalSigma := toLower_eq_iff (by decide)
  simp only [lowerIn, hsigma, casedNext_toLower, lowerChar_toLower]

theorem lowerFrom_toLower (done : List Char) (casedBefore : Bool) (cs : List Char) :
    lowerFrom done casedBefore (cs.map Char.toLower) = lowerFrom done casedBefore cs := by
  induction cs generalizing done casedBefore with
  | nil => rfl
  | cons c cs ih =>
    simp only [List.map_cons, lowerFrom, lowerIn_toLower, casedAfter, isPassedOver_toLower,
      isCased_toLower, ih]

/-- Texts have the same small form in whatever case their ASCII letters are. -/
theorem lowercase_toLower (s : String) : lowercase s.toLower = lowercase s := by
  rw [lowercase, toList_toLower, lowerFrom_toLower, lowercase]

theorem lowercase_eq_of_sameLetters {s t : String} (h : SameLetters s t) :
    lowercase s = lowercase t := by
  rw [← lowercase_toLower s, h.toLower_eq, lowercase_toLower]

section Lines

variable {f : Char → Char}

theorem extendLines_map (hf : ∀ c, f c = '\n' ↔ c = '\n') (c : Char) (ls : List (List Char)) :
    extendLines (f c) (ls.map (List.map f)) = (extendLines c ls).map (List.map f) := by
  by_cases hc : c = '\n'
  · simp [extendLines, hc, (hf '\n').mpr rfl]
  · cases ls <;> simp [extendLines, hc, hf c]

/-- A change that neither makes nor takes away line feeds leaves the lines where they are. -/
theorem splitLines_map (hf : ∀ c, f c = '\n' ↔ c = '\n') (cs : List Char) :
    splitLines (cs.map f) = (splitLines cs).map (List.map f) := by
  induction cs with
  | nil => rfl
  | cons c cs ih => rw [List.map_cons, splitLines_cons, ih, extendLines_map hf, splitLines_cons]

theorem getLast?_map_eq_some_iff {e : Char} (hf : ∀ c, f c = e ↔ c = e) (cs : List Char) :
    (cs.map f).getLast? = some e ↔ cs.getLast? = some e := by
  rw [List.getLast?_map]
  cases cs.getLast? with
  | none => simp
  | some c => simp [hf c]

theorem dropLastIf_map {e : Char} (hf : ∀ c, f c = e ↔ c = e) (cs : List Char) :
    dropLastIf e (cs.map f) = (dropLastIf e cs).map f := by
  by_cases hlast : cs.getLast? = some e
  · rw [dropLastIf, if_pos ((getLast?_map_eq_some_iff hf cs).mpr hlast), dropLastIf, if_pos hlast,
      List.map_dropLast]
  · rw [dropLastIf, if_neg (mt (getLast?_map_eq_some_iff hf cs).mp hlast), dropLastIf,
      if_neg hlast]

end Lines

theorem toLower_eq_feed_iff (c : Char) : c.toLower = '\n' ↔ c = '\n' :=
  toLower_eq_iff (by decide)

theorem toLower_eq_return_iff (c : Char) : c.toLower = '\r' ↔ c = '\r' :=
  toLower_eq_iff (by decide)

theorem body_toLower (line : String) : body line.toLower = (body line).toLower := by
  apply String.toList_inj.mp
  simp only [body, toList_toLower, String.toList_ofList,
    dropLastIf_map toLower_eq_feed_iff, dropLastIf_map toLower_eq_return_iff]

theorem content_toLower (line : String) : content line.toLower = (content line).toLower := by
  have hend : line.toLower.toList.getLast? = some '\n' ↔ line.toList.getLast? = some '\n' := by
    rw [toList_toLower, getLast?_map_eq_some_iff toLower_eq_feed_iff]
  simp only [content, hend, body_toLower, apply_ite String.toLower]

theorem contents_toLower (s : String) : contents s.toLower = (contents s).map String.toLower := by
  have hlines : lines s.toLower = (lines s).map String.toLower := by
    simp only [lines, toList_toLower, splitLines_map toLower_eq_feed_iff, List.map_map,
      Function.comp_def, toLower_ofList]
  simp only [contents, hlines, List.map_map, Function.comp_def, content_toLower]

/-- Words are cut at blanks, which are no letters. -/
theorem firstToken?_toLower (s : String) :
    firstToken? s.toLower = (firstToken? s).map String.toLower := by
  have hblank : isBlank ∘ Char.toLower = isBlank := funext isBlank_toLower
  have hword : (!isBlank ·) ∘ Char.toLower = (!isBlank ·) := by
    funext c
    simp [isBlank_toLower]
  have htoken : (dropBlanks s.toLower.toList).takeWhile (!isBlank ·) =
      ((dropBlanks s.toList).takeWhile (!isBlank ·)).map Char.toLower := by
    rw [toList_toLower, dropBlanks, List.dropWhile_map, hblank,
      List.takeWhile_map, hword, dropBlanks]
  simp only [firstToken?, htoken]
  cases (dropBlanks s.toList).takeWhile (!isBlank ·) with
  | nil => rfl
  | cons c cs => simp only [List.map_cons, Option.map_some, toLower_ofList]

end Text

namespace Listing

open Text (SameLetters)

theorem mnemonic?_toLower (line : String) : mnemonic? line.toLower = mnemonic? line := by
  have htoken : (Text.firstToken? line.toLower).map Text.lowercase =
      (Text.firstToken? line).map Text.lowercase := by
    rw [Text.firstToken?_toLower, Option.map_map]
    congr 1
    exact funext Text.lowercase_toLower
  simp only [mnemonic?, htoken]
  rw [Text.toList_toLower]
  cases line.toList with
  | nil => rfl
  | cons c cs => simp only [List.map_cons, Text.isBlank_toLower]

/-- Listings that differ in the case of letters only use the same mnemonics. -/
theorem mnemonics_eq_of_sameLetters {text other : String} (h : SameLetters text other) :
    mnemonics text = mnemonics other := by
  have hlower : ∀ s : String, mnemonics s.toLower = mnemonics s := by
    intro s
    rw [mnemonics, Text.contents_toLower, List.filterMap_map, mnemonics]
    congr 2
    exact funext mnemonic?_toLower
  rw [← hlower text, h.toLower_eq, hlower]

end Listing

/-- Features of one name whose members are the same but for the case of letters. -/
def Feature.SameLetters (f g : Feature) : Prop :=
  f.name = g.name ∧ List.Forall₂ Text.SameLetters f.mnemonics g.mnemonics

theorem Feature.shown_eq_of_sameLetters {f g : Feature} (h : f.SameLetters g) (set : Mnemonics) :
    f.shown set = g.shown set := by
  have hsmall : f.mnemonics.map Text.lowercase = g.mnemonics.map Text.lowercase := by
    rw [← List.forall₂_eq_eq_eq, List.forall₂_map_left_iff, List.forall₂_map_right_iff]
    exact h.2.imp fun _ _ => Text.lowercase_eq_of_sameLetters
  rw [Feature.shown, hsmall, Feature.shown]

namespace Catalogue

def SameLetters (c d : Catalogue) : Prop :=
  List.Forall₂ Feature.SameLetters c.features d.features

theorem hits_eq_of_sameLetters {c d : Catalogue} (h : c.SameLetters d) (set : Mnemonics) :
    c.hits set = d.hits set := by
  obtain ⟨fs⟩ := c
  obtain ⟨gs⟩ := d
  simp only [SameLetters, hits] at h ⊢
  induction h with
  | nil => rfl
  | cons hfg _ ih =>
    rw [List.flatMap_cons, List.flatMap_cons, ih, Feature.shown_eq_of_sameLetters hfg, hfg.1]

theorem findings_eq_of_sameLetters {c d : Catalogue} (h : c.SameLetters d) (set : Mnemonics) :
    c.findings set = d.findings set := by
  rw [findings_eq, hits_eq_of_sameLetters h, ← findings_eq]

/-- The case of ASCII letters counts neither in a listing nor in a catalogue: a listing uses the
same mnemonics, a catalogue finds the same under the same names, and so does a search that is
given both in another case. -/
theorem detect_ignores_case :
    (∀ {text other : String}, Text.SameLetters text other →
      Listing.mnemonics text = Listing.mnemonics other) ∧
    (∀ {c d : Catalogue}, c.SameLetters d → ∀ set, c.findings set = d.findings set) ∧
    ∀ {c d : Catalogue} {text other : String}, c.SameLetters d → Text.SameLetters text other →
      c.detect text = d.detect other := by
  refine ⟨Listing.mnemonics_eq_of_sameLetters, findings_eq_of_sameLetters, ?_⟩
  intro c d text other hc ht
  rw [detect, Listing.mnemonics_eq_of_sameLetters ht, findings_eq_of_sameLetters hc, detect]

/-- The letter that decides the form of the first sigma stands behind a point, and the second sigma
is at the end of its word. -/
theorem detect_ignores_case_beside_sigma :
    let text := "\tAΣ.b x\r\n\tXΣ\n"
    let other := "\taΣ.B X\r\n\txΣ\n"
    let c : Catalogue := ⟨[⟨"F", ["aΣ.B", "XΣ"]⟩]⟩
    let d : Catalogue := ⟨[⟨"F", ["AΣ.b", "xΣ"]⟩]⟩
    Text.SameLetters text other ∧ c.SameLetters d ∧
      d.detect other = ⟨[⟨"F", ["aσ.b", "xς"]⟩]⟩ ∧ c.detect text = d.detect other := by
  intro text other c d
  have ht : Text.SameLetters text other := by decide +kernel
  have hc : c.SameLetters d :=
    .cons ⟨rfl, .cons (by decide +kernel) (.cons (by decide +kernel) .nil)⟩ .nil
  exact ⟨ht, hc, by decide +kernel, detect_ignores_case.2.2 hc ht⟩

end Catalogue

end Disasm
