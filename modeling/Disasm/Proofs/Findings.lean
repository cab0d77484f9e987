import Disasm.Feature.Catalogue
import Disasm.Proofs.FirstSeen

namespace Disasm

namespace Findings

/-- The mnemonics found under a feature; none if it was not found. -/
def under (found : Findings) (name : String) : List String :=
  (found.get? name).getD []

theorem addTo_mnemonics (m : String) (f : Finding) :
    (addTo m f).mnemonics = addOnce f.mnemonics m := by
  unfold addTo addOnce
  split <;> rfl

theorem addTo_feature (m : String) (f : Finding) : (addTo m f).feature = f.feature := by
  unfold addTo
  split <;> rfl

theorem names_recordIn (name m : String) (fs : List Finding) :
    (recordIn name m fs).map Finding.feature = addOnce (fs.map Finding.feature) name := by
  induction fs with
  | nil => rfl
  | cons f fs ih =>
    by_cases hf : f.feature = name
    · simp [recordIn, addOnce, hf, addTo_feature]
    · have hf' : name ≠ f.feature := Ne.symm hf
      simp only [recordIn, hf, ↓reduceIte, List.map_cons, ih, addOnce, List.mem_cons, hf', false_or]
      split <;> rfl

@[simp] theorem names_record (name m : String) (found : Findings) :
    (found.record name m).names = addOnce found.names name :=
  names_recordIn name m found.entries

/-- Recording under one name leaves all other names as they are. -/
@[simp] theorem under_record (name m : String) (found : Findings) (other : String) :
    (found.record name m).under other =
      if name = other then addOnce (found.under other) m else found.under other := by
  obtain ⟨fs⟩ := found
  simp only [under, get?, record]
  induction fs with
  | nil => by_cases h : name = other <;> simp [recordIn, addOnce, h]
  | cons f fs ih =>
    by_cases hf : f.feature = name
    · subst hf
      by_cases h : f.feature = other <;>
        simp [recordIn, addTo_feature, addTo_mnemonics, h]
    · simp only [recordIn, hf, ↓reduceIte]
      by_cases ho : f.feature = other
      · have hne : name ≠ other := fun h => hf (ho.trans h.symm)
        simp [ho, hne]
      · simpa [ho] using ih

def recordAll (found : Findings) (hits : List (String × String)) : Findings :=
  hits.foldl (fun found hit => found.record hit.1 hit.2) found

theorem recordAll_cons (found : Findings) (hit : String × String) (hits : List (String × String)) :
    found.recordAll (hit :: hits) = (found.record hit.1 hit.2).recordAll hits := rfl

theorem recordAll_append (found : Findings) (hits more : List (String × String)) :
    found.recordAll (hits ++ more) = (found.recordAll hits).recordAll more :=
  List.foldl_append

theorem names_recordAll (found : Findings) (hits : List (String × String)) :
    (found.recordAll hits).names = (hits.map Prod.fst).foldl addOnce found.names := by
  induction hits generalizing found with
  | nil => rfl
  | cons hit hits ih =>
    rw [recordAll_cons, ih, names_record]
    rfl

theorem under_recordAll (found : Findings) (hits : List (String × String)) (name : String) :
    (found.recordAll hits).under name =
      ((hits.filter fun hit => hit.1 = name).map Prod.snd).foldl addOnce (found.under name) := by
  induction hits generalizing found with
  | nil => rfl
  | cons hit hits ih =>
    rw [recordAll_cons, ih, under_record]
    by_cases h : hit.1 = name <;> simp [h]

theorem names_recordAll_empty (hits : List (String × String)) :
    (recordAll {} hits).names = (hits.map Prod.fst).eraseDups := by
  rw [names_recordAll, foldl_addOnce]
  simp [names]

theorem under_recordAll_empty (hits : List (String × String)) (name : String) :
    (recordAll {} hits).under name =
      ((hits.filter fun hit => hit.1 = name).map Prod.snd).eraseDups := by
  rw [under_recordAll, foldl_addOnce]
  simp [under, get?]

/-- With one entry for each name, what stands under the name of an entry is that entry's list. -/
theorem under_of_mem {found : Findings} {f : Finding} (h : found.names.Nodup)
    (hf : f ∈ found.entries) : found.under f.feature = f.mnemonics := by
  obtain ⟨fs⟩ := found
  simp only [names, under, get?] at h hf ⊢
  induction fs with
  | nil => cases hf
  | cons g fs ih =>
    obtain ⟨hg, hfs⟩ := List.nodup_cons.mp h
    rcases List.mem_cons.mp hf with rfl | hf
    · simp
    · have hne : g.feature ≠ f.feature := by
        intro he
        exact hg (he ▸ List.mem_map_of_mem hf)
      simpa [hne] using ih hfs hf

theorem mem_entries_iff {found : Findings} {f : Finding} (h : found.names.Nodup) :
    f ∈ found.entries ↔ f.feature ∈ found.names ∧ f.mnemonics = found.under f.feature := by
  constructor
  · intro hf
    exact ⟨List.mem_map_of_mem hf, (under_of_mem h hf).symm⟩
  · rintro ⟨hn, hm⟩
    obtain ⟨g, hg, he⟩ := List.mem_map.mp hn
    have hgm : g.mnemonics = f.mnemonics := by rw [← under_of_mem h hg, he, hm]
    cases f
    cases g
    simp_all

/-- Findings are determined by their names and what stands under each. -/
theorem entries_eq_map {found : Findings} (h : found.names.Nodup) :
    found.entries = found.names.map fun name => ⟨name, found.under name⟩ := by
  have hself : ∀ f ∈ found.entries, Finding.mk f.feature (found.under f.feature) = f := by
    intro f hf
    rw [under_of_mem h hf]
  rw [names, List.map_map]
  exact ((List.map_congr_left hself).trans (List.map_id _)).symm

end Findings

/-- The mnemonics of a feature that are in a set, in small letters and in the feature's order. -/
def Feature.shown (set : Mnemonics) (f : Feature) : List String :=
  (f.mnemonics.map Text.lowercase).filter set.contains

namespace Catalogue

/-- What a set of mnemonics shows of a catalogue, in order: names and mnemonics, with all
repetitions. -/
def hits (c : Catalogue) (set : Mnemonics) : List (String × String) :=
  c.features.flatMap fun f => (f.shown set).map fun m => (f.name, m)

/-- All that a catalogue lists under a name, in order and in small letters. -/
def listing (c : Catalogue) (name : String) : List String :=
  (c.features.filter fun f => f.name = name).flatMap fun f => f.mnemonics.map Text.lowercase

theorem matchFeature_eq (set : Mnemonics) (found : Findings) (f : Feature) :
    matchFeature set found f = found.recordAll ((f.shown set).map fun m => (f.name, m)) := by
  rw [Findings.recordAll, List.foldl_map, Feature.shown, List.foldl_filter, List.foldl_map]
  rfl

/-- Matching records the hits in turn. -/
theorem findings_eq (c : Catalogue) (set : Mnemonics) :
    c.findings set = Findings.recordAll {} (c.hits set) := by
  have hstep : matchFeature set =
      fun found f => found.recordAll ((f.shown set).map fun m => (f.name, m)) := by
    funext found f
    exact matchFeature_eq set found f
  rw [findings, hstep, hits, Findings.recordAll, List.foldl_flatMap]
  rfl

/-- The hits under a name are what is listed under it and in the set. -/
theorem hits_under (c : Catalogue) (set : Mnemonics) (name : String) :
    ((c.hits set).filter fun hit => hit.1 = name).map Prod.snd =
      (c.listing name).filter set.contains := by
  obtain ⟨fs⟩ := c
  simp only [hits, listing]
  induction fs with
  | nil => rfl
  | cons f fs ih =>
    rw [List.flatMap_cons, List.filter_append, List.map_append, ih]
    by_cases hf : f.name = name
    · have hall : ((f.shown set).map fun m => (f.name, m)).filter (fun hit => hit.1 = name) =
          (f.shown set).map fun m => (f.name, m) := by
        simp [List.filter_eq_self, hf]
      rw [hall, List.filter_cons_of_pos (by simpa using hf), List.flatMap_cons, List.filter_append]
      simp [Feature.shown, Function.comp_def]
    · have hnone : ((f.shown set).map fun m => (f.name, m)).filter (fun hit => hit.1 = name) =
          [] := by
        simp [List.filter_eq_nil_iff, hf]
      rw [hnone, List.filter_cons_of_neg (by simpa using hf)]
      rfl

theorem under_findings (c : Catalogue) (set : Mnemonics) (name : String) :
    (c.findings set).under name = (c.listing name).eraseDups.filter set.contains := by
  rw [findings_eq, Findings.under_recordAll_empty, hits_under, eraseDups_filter]

/-- The names are those of the features that show, each where it came first. -/
theorem names_findings (c : Catalogue) (set : Mnemonics) :
    (c.findings set).names =
      ((c.features.filter fun f => !(f.shown set).isEmpty).map Feature.name).eraseDups := by
  rw [findings_eq, Findings.names_recordAll_empty, ← eraseDups_flatMap_const]
  simp [hits, List.map_flatMap, Function.comp_def]

theorem nodup_names_findings (c : Catalogue) (set : Mnemonics) : (c.findings set).names.Nodup := by
  rw [names_findings]
  exact nodup_eraseDups _

end Catalogue

end Disasm
