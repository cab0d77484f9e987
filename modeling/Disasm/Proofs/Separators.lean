import Mathlib.Data.List.Basic
import Disasm.Text.Search

namespace Disasm.Text

/-- What stands before and behind the first place where a separator stands. The empty separator
stands nowhere. -/
def cut? (sep : List Char) : List Char → Option (List Char × List Char)
  | [] => none
  | c :: cs =>
    if sep ≠ [] ∧ sep <+: c :: cs then some ([], (c :: cs).drop sep.length)
    else (cut? sep cs).map fun p => (c :: p.1, p.2)

variable {sep cs before after : List Char}

theorem length_lt_of_cut? (h : cut? sep cs = some (before, after)) : after.length < cs.length := by
  induction cs generalizing before with
  | nil => cases h
  | cons c cs ih =>
    unfold cut? at h
    split_ifs at h with hsep
    · obtain ⟨-, rfl⟩ := Prod.mk.inj (Option.some.inj h)
      have hpos := List.length_pos_of_ne_nil hsep.1
      rw [List.length_drop, List.length_cons]
      omega
    · obtain ⟨⟨b, a⟩, hcut, he⟩ := Option.map_eq_some_iff.mp h
      obtain ⟨-, rfl⟩ := Prod.mk.inj he
      exact Nat.lt_succ_of_lt (ih hcut)

/-- The texts between the places where a separator stands, from the left. -/
def pieces (sep cs : List Char) : List (List Char) :=
  match _ : cut? sep cs with
  | none => [cs]
  | some (before, after) => before :: pieces sep after
termination_by cs.length
decreasing_by exact length_lt_of_cut? ‹_›

theorem pieces_of_cut?_eq_none (h : cut? sep cs = none) : pieces sep cs = [cs] := by
  rw [pieces]
  split
  · rfl
  · next h' => rw [h] at h'; cases h'

theorem pieces_of_cut?_eq_some (h : cut? sep cs = some (before, after)) :
    pieces sep cs = before :: pieces sep after := by
  rw [pieces]
  split
  · next h' => rw [h] at h'; cases h'
  · next h' => rw [h] at h'; cases h'; rfl

theorem cut?_eq_none (h : ¬ sep <:+: cs) : cut? sep cs = none := by
  induction cs with
  | nil => rfl
  | cons c cs ih =>
    have hprefix : ¬ sep <+: c :: cs := fun hp => h hp.isInfix
    have hrest : ¬ sep <:+: cs := fun hi => h (List.infix_cons hi)
    rw [cut?, if_neg fun hs => hprefix hs.2, ih hrest]
    rfl

/-- A separator is found where it was put, if what stands before it and all of the separator but its
end make no separator up. -/
theorem cut?_append (h : ¬ sep <:+: before ++ sep.dropLast) (after : List Char) :
    cut? sep (before ++ (sep ++ after)) = some (before, after) := by
  have hne : sep ≠ [] := by
    rintro rfl
    exact h List.nil_infix
  induction before with
  | nil =>
    obtain ⟨d, ds, rfl⟩ := List.exists_cons_of_ne_nil hne
    rw [List.nil_append, List.cons_append, cut?,
      if_pos ⟨hne, by rw [← List.cons_append]; exact List.prefix_append _ _⟩, ← List.cons_append,
      List.drop_left]
  | cons c cs ih =>
    have hprefix : ¬ sep <+: c :: (cs ++ (sep ++ after)) := by
      intro hp
      have hpart : c :: cs ++ sep.dropLast <+: c :: (cs ++ (sep ++ after)) := by
        rw [← List.cons_append, List.prefix_append_right_inj]
        exact (List.dropLast_prefix sep).trans (List.prefix_append sep after)
      refine h (List.prefix_of_prefix_length_le hp hpart ?_).isInfix
      rw [List.length_append, List.length_cons, List.length_dropLast]
      omega
    have hrest : ¬ sep <:+: cs ++ sep.dropLast := fun hi => h (List.infix_cons hi)
    rw [List.cons_append, cut?, if_neg fun hs => hprefix hs.2, ih hrest]
    rfl

/-- Texts are told apart again. -/
theorem pieces_intercalate {ps : List (List Char)} (hne : ps ≠ [])
    (h : ∀ p ∈ ps, ¬ sep <:+: p ++ sep.dropLast) : pieces sep (sep.intercalate ps) = ps := by
  induction ps with
  | nil => exact absurd rfl hne
  | cons p ps ih =>
    have hp := h p List.mem_cons_self
    cases ps with
    | nil =>
      rw [List.intercalate_singleton]
      exact pieces_of_cut?_eq_none (cut?_eq_none fun hi => hp (hi.trans List.infix_append_left))
    | cons q qs =>
      have hrest := ih (List.cons_ne_nil q qs) fun r hr => h r (List.mem_cons_of_mem p hr)
      rw [List.intercalate_cons_cons, List.append_assoc,
        pieces_of_cut?_eq_some (cut?_append hp _), hrest]

theorem mem_intercalate {α : Type} {sep : List α} {ps : List (List α)} {a : α}
    (h : a ∈ sep.intercalate ps) : a ∈ sep ∨ ∃ p ∈ ps, a ∈ p := by
  induction ps with
  | nil => cases h
  | cons p ps ih =>
    cases ps with
    | nil =>
      rw [List.intercalate_singleton] at h
      exact .inr ⟨p, List.mem_cons_self, h⟩
    | cons q qs =>
      rw [List.intercalate_cons_cons, List.mem_append, List.mem_append] at h
      rcases h with (hp | hsep) | hrest
      · exact .inr ⟨p, List.mem_cons_self, hp⟩
      · exact .inl hsep
      · rcases ih hrest with hsep | ⟨r, hr, hc⟩
        · exact .inl hsep
        · exact .inr ⟨r, List.mem_cons_of_mem p hr, hc⟩

theorem not_mem_of_mem_splitOn {mark : Char} {field : List Char} (h : field ∈ cs.splitOn mark) :
    mark ∉ field := by
  induction cs generalizing field with
  | nil => simp_all [List.splitOn_nil]
  | cons c cs ih =>
    rw [List.splitOn_cons_eq_if_modifyHead] at h
    split at h
    · rcases List.mem_cons.mp h with rfl | h
      · exact List.not_mem_nil
      · exact ih h
    · next hc =>
      obtain ⟨first, rest, he⟩ := List.exists_cons_of_ne_nil (List.splitOn_ne_nil mark cs)
      rw [he, List.modifyHead_cons] at h
      rw [he] at ih
      rcases List.mem_cons.mp h with rfl | h
      · have hne : mark ≠ c := fun hm => hc (by simp [hm])
        simpa [hne] using ih List.mem_cons_self
      · exact ih (List.mem_cons_of_mem first h)

theorem not_mem_of_mem_fields {mark : Char} {s t : String} (h : t ∈ fields mark s) :
    mark ∉ t.toList := by
  obtain ⟨field, hf, rfl⟩ := List.mem_map.mp h
  rw [String.toList_ofList]
  exact not_mem_of_mem_splitOn hf

/-- Fields without the separator are those of the text that they make up. -/
theorem fields_intercalate {mark : Char} {ts : List String} (hne : ts ≠ [])
    (h : ∀ t ∈ ts, mark ∉ t.toList) :
    fields mark (String.intercalate (String.singleton mark) ts) = ts := by
  have hsep : (String.singleton mark).toList = [mark] := by simp
  rw [fields, String.toList_intercalate, hsep, List.splitOn_intercalate mark]
  · simp [Function.comp_def]
  · intro cs hcs
    obtain ⟨t, ht, rfl⟩ := List.mem_map.mp hcs
    exact h t ht
  · simpa using hne

/-- A text is made up of its fields in one way. -/
theorem fields_injective {mark : Char} : Function.Injective (fields mark) := by
  have hjoin : ∀ s : String, [mark].intercalate ((fields mark s).map String.toList) = s.toList := by
    intro s
    simp only [fields, List.map_map, Function.comp_def, String.toList_ofList, List.map_id']
    exact List.intercalate_splitOn mark
  intro s t h
  apply String.toList_inj.mp
  rw [← hjoin s, h, hjoin t]

end Disasm.Text
