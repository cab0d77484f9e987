import Disasm.Proofs.Findings

namespace Disasm

namespace Findings

variable {found : Findings}

/-- Findings with later ones behind them: names come at the end if they are new, and so do the
mnemonics under a name. -/
def followedBy (found later : Findings) : Findings :=
  ⟨(found.names ++ later.names.filter fun name => name ∉ found.names).map fun name =>
    ⟨name, found.under name ++ (later.under name).filter fun m => m ∉ found.under name⟩⟩

theorem names_recordAll_eq (found : Findings) (hits : List (String × String)) :
    (found.recordAll hits).names = found.names ++
      (recordAll {} hits).names.filter fun name => name ∉ found.names := by
  rw [names_recordAll, foldl_addOnce, eraseDups_filter, names_recordAll_empty]

theorem under_recordAll_eq (found : Findings) (hits : List (String × String)) (name : String) :
    (found.recordAll hits).under name = found.under name ++
      ((recordAll {} hits).under name).filter fun m => m ∉ found.under name := by
  rw [under_recordAll, foldl_addOnce, eraseDups_filter, under_recordAll_empty]

theorem nodup_names_recordAll (h : found.names.Nodup) (hits : List (String × String)) :
    (found.recordAll hits).names.Nodup := by
  rw [names_recordAll_eq, names_recordAll_empty]
  refine List.nodup_append.mpr ⟨h, (nodup_eraseDups _).filter _, ?_⟩
  rintro name hn _ hnew rfl
  simpa [hn] using (List.mem_filter.mp hnew).2

/-- What is recorded on top of findings stands behind them. -/
theorem recordAll_eq_followedBy (h : found.names.Nodup) (hits : List (String × String)) :
    found.recordAll hits = found.followedBy (recordAll {} hits) := by
  have hentries := entries_eq_map (nodup_names_recordAll h hits)
  simp only [names_recordAll_eq found, under_recordAll_eq found] at hentries
  exact congrArg Findings.mk hentries

/-- The findings under some names. -/
def restrict (p : String → Bool) (found : Findings) : Findings :=
  ⟨found.entries.filter fun f => p f.feature⟩

/-- Recording under one name leaves the findings of all others where they are. -/
theorem filter_recordIn (p : String → Bool) (name m : String) (fs : List Finding) :
    (recordIn name m fs).filter (fun f => p f.feature) =
      if p name then recordIn name m (fs.filter fun f => p f.feature)
      else fs.filter fun f => p f.feature := by
  induction fs with
  | nil => cases hp : p name <;> simp [recordIn, hp]
  | cons f fs ih =>
    by_cases hf : f.feature = name
    · cases hp : p name <;> simp [recordIn, addTo_feature, hf, hp]
    · cases hp : p f.feature with
      | false => simp only [recordIn, hf, ↓reduceIte, List.filter_cons, hp, Bool.false_eq_true, ih]
      | true =>
        simp only [recordIn, hf, ↓reduceIte, List.filter_cons, hp, ih]
        split <;> rfl

theorem restrict_record (p : String → Bool) (name m : String) (found : Findings) :
    (found.record name m).restrict p =
      if p name then (found.restrict p).record name m else found.restrict p := by
  simp only [restrict, record, filter_recordIn]
  split <;> rfl

theorem restrict_recordAll (p : String → Bool) (found : Findings) (hits : List (String × String)) :
    (found.recordAll hits).restrict p =
      (found.restrict p).recordAll (hits.filter fun hit => p hit.1) := by
  induction hits generalizing found with
  | nil => rfl
  | cons hit hits ih =>
    rw [recordAll_cons, ih, restrict_record, List.filter_cons]
    cases p hit.1 <;> rfl

end Findings

namespace Catalogue

instance : Append Catalogue := ⟨fun c d => ⟨c.features ++ d.features⟩⟩

def restrict (p : String → Bool) (c : Catalogue) : Catalogue :=
  ⟨c.features.filter fun f => p f.name⟩

theorem hits_append (c d : Catalogue) (set : Mnemonics) :
    (c ++ d).hits set = c.hits set ++ d.hits set :=
  List.flatMap_append

theorem hits_restrict (p : String → Bool) (c : Catalogue) (set : Mnemonics) :
    (c.restrict p).hits set = (c.hits set).filter fun hit => p hit.1 := by
  obtain ⟨fs⟩ := c
  simp only [hits, restrict]
  induction fs with
  | nil => rfl
  | cons f fs ih =>
    rw [List.flatMap_cons, List.filter_append, ← ih, List.filter_map]
    cases hp : p f.name <;> simp [hp, Function.comp_def]

/-- Matching the features of two catalogues, one after the other, finds what the first shows and
then what the second shows and the first does not. Leaving out all features of some names leaves
out their findings and nothing else, so features of new names, wherever they are put in, leave what
is found under all other names as it is. -/
theorem findings_append (c d : Catalogue) (set : Mnemonics) :
    (c ++ d).findings set = (c.findings set).followedBy (d.findings set) ∧
      ∀ (larger : Catalogue) (p : String → Bool),
        (larger.restrict p).findings set = (larger.findings set).restrict p := by
  constructor
  · have hall : (c ++ d).findings set = (c.findings set).recordAll (d.hits set) := by
      rw [findings_eq, hits_append, Findings.recordAll_append, ← findings_eq]
    rw [hall, Findings.recordAll_eq_followedBy (c.nodup_names_findings set), ← findings_eq]
  · intro larger p
    rw [findings_eq, findings_eq, hits_restrict, Findings.restrict_recordAll]
    rfl

/-- A name of both catalogues keeps its place, and a mnemonic that is found again does not come
twice. -/
example :
    let c : Catalogue := ⟨[⟨"MMX", ["emms", "paddw"]⟩, ⟨"POPCNT", ["popcnt"]⟩]⟩
    let d : Catalogue := ⟨[⟨"SSE2", ["paddw"]⟩, ⟨"MMX", ["PADDW", "pxor"]⟩]⟩
    (c ++ d).findings (Mnemonics.ofList ["paddw", "popcnt", "pxor"]) =
      ⟨[⟨"MMX", ["paddw", "pxor"]⟩, ⟨"POPCNT", ["popcnt"]⟩, ⟨"SSE2", ["paddw"]⟩]⟩ := by
  decide +kernel

end Catalogue

end Disasm
