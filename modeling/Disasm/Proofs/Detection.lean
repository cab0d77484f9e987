import Disasm.Proofs.Findings
import Disasm.Proofs.Words

namespace Disasm

def Findings.Shows (found : Findings) (name m : String) : Prop :=
  ∃ f ∈ found.entries, f.feature = name ∧ m ∈ f.mnemonics

/-- A feature lists a mnemonic, whatever letters it is spelled in. -/
def Feature.Lists (f : Feature) (m : String) : Prop :=
  ∃ member ∈ f.mnemonics, Text.lowercase member = m

/-- One of the words that are used is listed by the feature. -/
def Feature.Occurs (used : String → Prop) (f : Feature) : Prop :=
  ∃ m, f.Lists m ∧ used m

namespace Catalogue

/-- What findings have to be when some words are used. -/
structure Reports (c : Catalogue) (used : String → Prop) (found : Findings) : Prop where
  /-- A mnemonic stands under every name that lists it, if it is used, and under no other. -/
  shows_iff : ∀ name m,
    found.Shows name m ↔ (∃ f ∈ c.features, f.name = name ∧ f.Lists m) ∧ used m
  nodup_names : found.names.Nodup
  ne_nil : ∀ f ∈ found.entries, f.mnemonics ≠ []
  nodup : ∀ f ∈ found.entries, f.mnemonics.Nodup
  /-- Names are in the order of the first features of these names that occur. -/
  ordered_names : found.names.Pairwise fun a b =>
    Leads (fun f => f.name = a ∧ f.Occurs used) (fun f => f.name = b ∧ f.Occurs used) c.features
  /-- The mnemonics under a name are in the order in which they are first listed under it. -/
  ordered : ∀ f ∈ found.entries, f.mnemonics.Pairwise fun m n =>
    Leads (· = m) (· = n) (c.listing f.feature)

theorem mem_listing_iff {c : Catalogue} {name m : String} :
    m ∈ c.listing name ↔ ∃ f ∈ c.features, f.name = name ∧ f.Lists m := by
  simp only [listing, List.mem_flatMap, List.mem_filter, List.mem_map, decide_eq_true_eq,
    Feature.Lists, and_assoc]

theorem mem_shown_iff {set : Mnemonics} {f : Feature} {m : String} :
    m ∈ f.shown set ↔ f.Lists m ∧ m ∈ set := by
  simp only [Feature.shown, List.mem_filter, List.mem_map, Mnemonics.contains_iff, Feature.Lists]

theorem isEmpty_shown_iff {set : Mnemonics} {f : Feature} :
    (!(f.shown set).isEmpty) = true ↔ f.Occurs (· ∈ set) := by
  simp only [Bool.not_eq_true', List.isEmpty_eq_false_iff_exists_mem, mem_shown_iff,
    Feature.Occurs]

end Catalogue

namespace Findings

theorem shows_iff_mem_under {found : Findings} {name m : String} (h : found.names.Nodup) :
    found.Shows name m ↔ m ∈ found.under name := by
  constructor
  · rintro ⟨f, hf, rfl, hm⟩
    rwa [under_of_mem h hf]
  · intro hm
    unfold under get? at hm
    cases hfind : found.entries.find? fun f => f.feature == name with
    | none => simp [hfind] at hm
    | some f =>
      refine ⟨f, List.mem_of_find?_eq_some hfind, ?_, by simpa [hfind] using hm⟩
      simpa using List.find?_some hfind

end Findings

namespace Catalogue

theorem mem_under_findings {c : Catalogue} {set : Mnemonics} {name m : String} :
    m ∈ (c.findings set).under name ↔
      (∃ f ∈ c.features, f.name = name ∧ f.Lists m) ∧ m ∈ set := by
  rw [under_findings, List.mem_filter, List.mem_eraseDups, Mnemonics.contains_iff, mem_listing_iff]

/-- Matching a set of mnemonics reports on it. -/
theorem findings_reports (c : Catalogue) (set : Mnemonics) :
    c.Reports (· ∈ set) (c.findings set) := by
  have hn := c.nodup_names_findings set
  have hlist : ∀ f ∈ (c.findings set).entries,
      f.mnemonics = (c.listing f.feature).eraseDups.filter set.contains := by
    intro f hf
    rw [((Findings.mem_entries_iff hn).mp hf).2, under_findings]
  refine ⟨?_, hn, ?_, ?_, ?_, ?_⟩
  · intro name m
    rw [Findings.shows_iff_mem_under hn, mem_under_findings]
  · intro f hf
    obtain ⟨hname, hm⟩ := (Findings.mem_entries_iff hn).mp hf
    rw [names_findings, List.mem_eraseDups] at hname
    obtain ⟨g, hg, hgf⟩ := List.mem_map.mp hname
    obtain ⟨hgc, hshown⟩ := List.mem_filter.mp hg
    obtain ⟨m, hlists, hset⟩ := isEmpty_shown_iff.mp hshown
    rw [hm]
    exact List.ne_nil_of_mem (mem_under_findings.mpr ⟨⟨g, hgc, hgf, hlists⟩, hset⟩)
  · intro f hf
    rw [hlist f hf]
    exact (nodup_eraseDups _).filter _
  · rw [names_findings]
    refine (pairwise_eraseDups _ Feature.name c.features).imp ?_
    intro a b h
    refine h.imp ?_ ?_
    · rintro f ⟨hshown, rfl⟩
      exact ⟨rfl, isEmpty_shown_iff.mp hshown⟩
    · rintro f ⟨rfl, hoccurs⟩
      exact ⟨isEmpty_shown_iff.mpr hoccurs, rfl⟩
  · intro f hf
    rw [hlist f hf]
    exact (pairwise_leads_eraseDups _).filter _

namespace Reports

variable {c : Catalogue} {used : String → Prop} {found other : Findings}

theorem mem_names_iff (h : c.Reports used found) {name : String} :
    name ∈ found.names ↔ ∃ m, found.Shows name m := by
  constructor
  · intro hn
    obtain ⟨f, hf, rfl⟩ := List.mem_map.mp hn
    obtain ⟨m, hm⟩ := List.exists_mem_of_ne_nil _ (h.ne_nil f hf)
    exact ⟨m, f, hf, rfl, hm⟩
  · rintro ⟨m, f, hf, rfl, _⟩
    exact List.mem_map_of_mem hf

theorem ordered_under (h : c.Reports used found) (name : String) :
    (found.under name).Pairwise fun m n => Leads (· = m) (· = n) (c.listing name) := by
  by_cases hn : name ∈ found.names
  · obtain ⟨f, hf, rfl⟩ := List.mem_map.mp hn
    rw [Findings.under_of_mem h.nodup_names hf]
    exact h.ordered f hf
  · have hnone : found.under name = [] := by
      apply List.eq_nil_iff_forall_not_mem.mpr
      intro m hm
      exact hn (h.mem_names_iff.mpr ⟨m, (Findings.shows_iff_mem_under h.nodup_names).mpr hm⟩)
    rw [hnone]
    exact .nil

/-- There is one report only. -/
theorem unique (h : c.Reports used found) (h' : c.Reports used other) : found = other := by
  have hshows : ∀ name m, found.Shows name m ↔ other.Shows name m := by
    intro name m
    rw [h.shows_iff, h'.shows_iff]
  have hnames : found.names = other.names := by
    refine eq_of_pairwise_of_mem_iff (fun a b => Leads.asymm) h.ordered_names h'.ordered_names ?_
    intro name
    simp only [h.mem_names_iff, h'.mem_names_iff, hshows]
  have hunder : found.under = other.under := by
    funext name
    refine eq_of_pairwise_of_mem_iff (fun m n => Leads.asymm) (h.ordered_under name)
      (h'.ordered_under name) ?_
    intro m
    rw [← Findings.shows_iff_mem_under h.nodup_names, hshows,
      Findings.shows_iff_mem_under h'.nodup_names]
  have hentries : found.entries = other.entries := by
    rw [Findings.entries_eq_map h.nodup_names, Findings.entries_eq_map h'.nodup_names, hnames,
      hunder]
  cases found
  cases other
  exact congrArg Findings.mk hentries

end Reports

/-- Listings that use the same words show the same. -/
theorem detect_eq_of_uses_iff (c : Catalogue) {text other : String}
    (h : ∀ m, Listing.Uses text m ↔ Listing.Uses other m) : c.detect text = c.detect other := by
  rw [detect, detect, Listing.mnemonics_eq_of_uses_iff h]

/-- Detection reports on the words that a listing uses, that report is the only one, and lines in
another order give the same. -/
theorem detect_reports (c : Catalogue) (text : String) :
    c.Reports (Listing.Uses text) (c.detect text) ∧
      (∀ found, c.Reports (Listing.Uses text) found → found = c.detect text) ∧
      ∀ other, (Text.contents other).Perm (Text.contents text) →
        c.detect other = c.detect text := by
  have hused : (· ∈ Listing.mnemonics text) = Listing.Uses text := by
    funext m
    exact propext Listing.mem_mnemonics_iff
  have h : c.Reports (Listing.Uses text) (c.detect text) := by
    rw [← hused]
    exact c.findings_reports _
  refine ⟨h, fun found h' => h'.unique h, ?_⟩
  intro other hp
  apply c.detect_eq_of_uses_iff
  intro m
  simp only [Listing.Uses, hp.mem_iff]

end Catalogue

end Disasm
