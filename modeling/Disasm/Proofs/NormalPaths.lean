import Disasm.Path
import Disasm.Proofs.Separators

namespace Disasm.Path

open Text (fields)

variable {path normal other c : String}

/-- A path in normal form that leads where the given one leads. -/
structure NormalForm (path normal : String) : Prop where
  ne_empty : normal ≠ ""
  absolute_iff : isAbsolute normal = true ↔ isAbsolute path = true
  /-- Before the slash that begins an absolute path stands an empty field. -/
  fields_eq : fields '/' normal = (if isAbsolute path then [""] else []) ++
    (fields '/' path).filter fun c => c ≠ "" ∧ c ≠ "."
  no_double : ¬ ['/', '/'] <:+: normal.toList
  no_trailing : normal.toList.getLast? ≠ some '/'

theorem components_eq_filter (path : String) :
    components path = (fields '/' path).filter fun c => c ≠ "" ∧ c ≠ "." := by
  apply List.filter_congr
  intro c _
  rw [Bool.eq_iff_iff]
  simp

theorem mem_components_iff : c ∈ components path ↔ c ∈ fields '/' path ∧ c ≠ "" ∧ c ≠ "." := by
  simp [components_eq_filter]

theorem empty_not_mem_components (path : String) : "" ∉ components path :=
  fun h => (mem_components_iff.mp h).2.1 rfl

theorem fields_slash_append (path : String) : fields '/' ("/" ++ path) = "" :: fields '/' path := by
  simp [fields, List.splitOn_cons_eq_if_modifyHead]

theorem exists_slash_append (h : isAbsolute path = true) : ∃ rest, path = "/" ++ rest := by
  obtain ⟨rest, hr⟩ := List.head?_eq_some_iff.mp (of_decide_eq_true h)
  refine ⟨String.ofList rest, String.toList_inj.mp ?_⟩
  simp [hr]

/-- Nothing but a slash, or the end, behind a slash leaves a field empty. -/
theorem empty_mem_tail_fields {before after : List Char} (hp : path.toList = before ++ '/' :: after)
    (ha : ∀ c ∈ after.head?, c = '/') : "" ∈ (fields '/' path).tail := by
  have hafter : [] ∈ after.splitOn '/' := by
    cases after with
    | nil => simp [List.splitOn_nil]
    | cons c rest =>
      rw [ha c rfl, List.splitOn_cons_eq_if_modifyHead]
      simp
  obtain ⟨first, rest, he⟩ := List.exists_cons_of_ne_nil (List.splitOn_ne_nil '/' before)
  rw [fields, hp, List.splitOn_append_cons_self, he, List.map_append, List.map_cons,
    List.cons_append, List.tail_cons]
  exact List.mem_append_right _ (List.mem_map_of_mem hafter)

theorem fields_normalize (h : components path ≠ []) :
    fields '/' (normalize path) = (if isAbsolute path then [""] else []) ++ components path := by
  have hfields : fields '/' (String.intercalate "/" (components path)) = components path :=
    Text.fields_intercalate h fun c hc => Text.not_mem_of_mem_fields (mem_components_iff.mp hc).1
  unfold normalize
  cases isAbsolute path with
  | true => simp [fields_slash_append, hfields]
  | false => simp [hfields]

theorem isAbsolute_normalize (h : components path ≠ []) :
    isAbsolute (normalize path) = isAbsolute path := by
  cases hp : isAbsolute path with
  | true =>
    rw [normalize, hp]
    simp [isAbsolute]
  | false =>
    -- a slash in front would leave the first field empty, and it is a component
    by_contra ha
    obtain ⟨rest, he⟩ := exists_slash_append (by simpa using ha)
    have hfields := fields_normalize h
    simp only [he, hp, fields_slash_append, Bool.false_eq_true, ↓reduceIte, List.nil_append]
      at hfields
    refine empty_not_mem_components path ?_
    rw [← hfields]
    exact List.mem_cons_self

theorem components_normalize (h : components path ≠ []) :
    components (normalize path) = components path := by
  have hkept : (components path).filter (fun c => c ≠ "" ∧ c ≠ ".") = components path := by
    rw [List.filter_eq_self]
    intro c hc
    exact decide_eq_true (mem_components_iff.mp hc).2
  rw [components_eq_filter, fields_normalize h, List.filter_append, hkept]
  cases isAbsolute path <;> rfl

/-- Only the first field of a path in normal form may be empty. -/
theorem empty_not_mem_tail_fields (h : components path ≠ []) :
    "" ∉ (fields '/' (normalize path)).tail := by
  rw [fields_normalize h]
  cases isAbsolute path with
  | true => exact empty_not_mem_components path
  | false => exact fun hmem => empty_not_mem_components path (List.mem_of_mem_tail hmem)

theorem normalForm_normalize (h : components path ≠ []) : NormalForm path (normalize path) := by
  have hfields := fields_normalize h
  rw [components_eq_filter] at hfields
  have htail := empty_not_mem_tail_fields h
  refine ⟨?_, by rw [isAbsolute_normalize h], hfields, ?_, ?_⟩
  · intro he
    have hnil : components (normalize path) = [] := by
      rw [he]
      decide
    exact h (components_normalize h ▸ hnil)
  · rintro ⟨before, after, hp⟩
    have hslash : (normalize path).toList = before ++ '/' :: '/' :: after := by
      rw [← hp]
      simp
    exact htail (empty_mem_tail_fields hslash (by simp))
  · intro hlast
    obtain ⟨before, hp⟩ := List.getLast?_eq_some_iff.mp hlast
    exact htail (empty_mem_tail_fields hp (by simp))

/-- A path has one normal form. -/
theorem NormalForm.unique (h : NormalForm path normal) (h' : NormalForm path other) :
    normal = other :=
  Text.fields_injective (h.fields_eq.trans h'.fields_eq.symm)

theorem normalize_normalize (h : components path ≠ []) :
    normalize (normalize path) = normalize path := by
  rw [normalize, isAbsolute_normalize h, components_normalize h, ← normalize]

/-- Where no path without a component leads to a file, the path of a file is accepted in the one
normal form that it has, and accepted as it is from then on; any other path is handed back in the
error. -/
theorem accept_normalizes {isFile : String → Bool}
    (hfile : ∀ path, (∀ c ∈ fields '/' path, c = "" ∨ c = ".") → isFile path = false)
    (path : String) :
    (isFile path = false → accept isFile path = .error (.invalidPath path)) ∧
      (isFile path = true → ∃ normal, accept isFile path = .ok normal ∧ NormalForm path normal ∧
        (∀ other, NormalForm path other → other = normal) ∧
        (isFile normal = true → accept isFile normal = .ok normal)) := by
  refine ⟨fun hp => by simp [accept, hp], fun hp => ?_⟩
  have hne : components path ≠ [] := by
    intro hnil
    have hnowhere : ∀ c ∈ fields '/' path, c = "" ∨ c = "." := by
      intro c hc
      by_contra hno
      have hmem : c ∈ components path := mem_components_iff.mpr ⟨hc, not_or.mp hno⟩
      simp [hnil] at hmem
    rw [hfile path hnowhere] at hp
    cases hp
  have hnormal := normalForm_normalize hne
  refine ⟨normalize path, by simp [accept, hp], hnormal, fun _ h => h.unique hnormal, ?_⟩
  intro hagain
  rw [accept, if_pos hagain, normalize_normalize hne]

/-- Of a path with doubled slashes and dots the steps to the parent directory and the root stay; a
directory is no file. -/
theorem accept_normalizes_parent :
    let isFile := fun path => path == "/..//./lib/.//a.o" || path == "/../lib/a.o"
    (∀ path, (∀ c ∈ fields '/' path, c = "" ∨ c = ".") → isFile path = false) ∧
      isFile "/..//./lib/.//a.o" = true ∧
      accept isFile "/..//./lib/.//a.o" = .ok "/../lib/a.o" ∧
      accept isFile "/../lib/a.o" = .ok "/../lib/a.o" ∧
      isFile "/../lib/" = false ∧ accept isFile "/../lib/" = .error (.invalidPath "/../lib/") := by
  intro isFile
  have hfile : ∀ path, (∀ c ∈ fields '/' path, c = "" ∨ c = ".") → isFile path = false := by
    intro path h
    by_contra hp
    simp only [isFile, Bool.not_eq_false, Bool.or_eq_true, beq_iff_eq] at hp
    have hparent := h ".."
    rcases hp with rfl | rfl
    · exact absurd (hparent (by decide +kernel)) (by decide)
    · exact absurd (hparent (by decide +kernel)) (by decide)
  have hgiven : isFile "/..//./lib/.//a.o" = true := by decide +kernel
  have hdirectory : isFile "/../lib/" = false := by decide +kernel
  have hresult : accept isFile "/..//./lib/.//a.o" = .ok "/../lib/a.o" := by decide +kernel
  obtain ⟨normal, haccept, -, -, hagain⟩ := (accept_normalizes hfile _).2 hgiven
  obtain rfl := Except.ok.inj (haccept.symm.trans hresult)
  exact ⟨hfile, hgiven, haccept, hagain (by decide +kernel), hdirectory,
    (accept_normalizes hfile _).1 hdirectory⟩

end Disasm.Path
