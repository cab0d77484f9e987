import Mathlib.Data.List.Basic

namespace Disasm

section Order

variable {α : Type} {p q : α → Prop} {x : α} {xs ys : List α}

/-- In a list, an element with `p` stands at a place before and at which none has `q`. -/
def Leads (p q : α → Prop) (xs : List α) : Prop :=
  ∃ before x after, xs = before ++ x :: after ∧ p x ∧ ∀ y ∈ before ++ [x], ¬ q y

theorem Leads.here (hp : p x) (hq : ¬ q x) : Leads p q (x :: xs) :=
  ⟨[], x, xs, rfl, hp, by simpa using hq⟩

theorem Leads.later (hq : ¬ q x) (h : Leads p q xs) : Leads p q (x :: xs) := by
  obtain ⟨before, y, after, rfl, hp, hn⟩ := h
  refine ⟨x :: before, y, after, rfl, hp, ?_⟩
  intro z hz
  rcases List.mem_cons.mp hz with rfl | hz
  · exact hq
  · exact hn z hz

theorem Leads.imp {p' q' : α → Prop} (hp : ∀ x, p x → p' x) (hq : ∀ x, q' x → q x)
    (h : Leads p q xs) : Leads p' q' xs := by
  obtain ⟨before, x, after, he, hx, hn⟩ := h
  exact ⟨before, x, after, he, hp x hx, fun y hy hy' => hn y hy (hq y hy')⟩

theorem mem_append_of_cons_eq {y : α} {mid rest : List α} (h : x :: xs = mid ++ y :: rest) :
    x ∈ mid ++ [y] := by
  cases mid with
  | nil => simp [(List.cons.inj h).1]
  | cons z mid => simp [(List.cons.inj h).1]

/-- Two properties do not both lead. -/
theorem Leads.asymm (h : Leads p q xs) : ¬ Leads q p xs := by
  obtain ⟨before, x, after, rfl, hp, hn⟩ := h
  rintro ⟨before', x', after', he, hq, hn'⟩
  -- whichever of the two places comes first, the other condition excludes its element
  rcases List.append_eq_append_iff.mp he with ⟨mid, rfl, hx⟩ | ⟨mid, rfl, hx⟩
  · refine hn' x ?_ hp
    rw [List.append_assoc]
    exact List.mem_append_right before (mem_append_of_cons_eq hx)
  · refine hn x' ?_ hq
    rw [List.append_assoc]
    exact List.mem_append_right before' (mem_append_of_cons_eq hx)

/-- Lists with the same elements and in the same strict order are equal. -/
theorem eq_of_pairwise_of_mem_iff {r : α → α → Prop} (hr : ∀ a b, r a b → ¬ r b a)
    (hx : xs.Pairwise r) (hy : ys.Pairwise r) (hm : ∀ a, a ∈ xs ↔ a ∈ ys) : xs = ys := by
  have hne : ∀ a b, r a b → a ≠ b := by
    rintro a b h rfl
    exact hr a a h h
  have hperm : xs.Perm ys :=
    (List.perm_ext_iff_of_nodup (hx.imp (hne _ _)) (hy.imp (hne _ _))).mpr hm
  exact hperm.eq_of_pairwise (fun a b _ _ hab hba => absurd hba (hr a b hab)) hx hy

end Order

variable {α : Type} [DecidableEq α]

/-- Choosing elements commutes with dropping repetitions. -/
theorem eraseDups_filter (p : α → Bool) (xs : List α) :
    (xs.filter p).eraseDups = xs.eraseDups.filter p := by
  match xs with
  | [] => rfl
  | x :: xs =>
    rw [List.eraseDups_cons, List.filter_cons, List.filter_cons]
    split
    · have hcomm : (xs.filter p).filter (fun y => !y == x) =
          (xs.filter fun y => !y == x).filter p := by
        simp only [List.filter_filter, Bool.and_comm]
      rw [List.eraseDups_cons, hcomm, eraseDups_filter p _]
    · next hp =>
      have hsame : (xs.filter fun y => !y == x).filter p = xs.filter p := by
        rw [List.filter_filter]
        apply List.filter_congr
        intro y _
        by_cases hy : y = x
        · subst hy
          simp [hp]
        · simp [hy]
      rw [← eraseDups_filter p _, hsame]
termination_by xs.length
decreasing_by all_goals exact Nat.lt_succ_of_le (List.length_filter_le _ _)

/-- Without repetitions, the values of the chosen elements stand in the order in which they are
first seen. -/
theorem pairwise_eraseDups {β : Type} (p : β → Bool) (f : β → α) (xs : List β) :
    ((xs.filter p).map f).eraseDups.Pairwise fun a b =>
      Leads (fun x => p x = true ∧ f x = a) (fun x => p x = true ∧ f x = b) xs := by
  induction xs with
  | nil => exact .nil
  | cons x xs ih =>
    by_cases hp : p x = true
    · rw [List.filter_cons_of_pos hp, List.map_cons, List.eraseDups_cons, eraseDups_filter,
        List.pairwise_cons]
      constructor
      · intro b hb
        have hne : b ≠ f x := by simpa using (List.mem_filter.mp hb).2
        exact .here ⟨hp, rfl⟩ fun h => hne h.2.symm
      · refine (List.Pairwise.filter _ ih).imp_of_mem ?_
        intro a b _ hb h
        have hne : b ≠ f x := by simpa using (List.mem_filter.mp hb).2
        exact h.later fun h => hne h.2.symm
    · rw [List.filter_cons_of_neg hp]
      exact ih.imp fun h => h.later fun h => hp h.1

/-- Without repetitions, elements stand in the order in which they are first seen. -/
theorem pairwise_leads_eraseDups (xs : List α) :
    xs.eraseDups.Pairwise fun a b => Leads (· = a) (· = b) xs := by
  have h := pairwise_eraseDups (fun _ => true) id xs
  rw [List.filter_true, List.map_id] at h
  exact h.imp fun h => h.imp (fun x hx => hx.2) (fun x hx => ⟨rfl, hx⟩)

theorem nodup_eraseDups (xs : List α) : xs.eraseDups.Nodup := by
  refine (pairwise_leads_eraseDups xs).imp ?_
  rintro a b hab rfl
  exact hab.asymm hab

theorem eraseDups_of_nodup {xs : List α} (h : xs.Nodup) : xs.eraseDups = xs := by
  induction xs with
  | nil => rfl
  | cons x xs ih =>
    obtain ⟨hx, hxs⟩ := List.nodup_cons.mp h
    have hstay : xs.filter (fun y => !y == x) = xs := by
      rw [List.filter_eq_self]
      intro y hy
      have hne : y ≠ x := fun he => hx (he ▸ hy)
      simpa using hne
    rw [List.eraseDups_cons, hstay, ih hxs]

/-- Elements that all look alike count as one. -/
theorem eraseDups_map_const {β : Type} (xs : List β) (a : α) :
    (xs.map fun _ => a).eraseDups = if xs = [] then [] else [a] := by
  cases xs with
  | nil => rfl
  | cons x xs => simp [List.eraseDups_cons]

/-- Of values that come in runs of equals only the runs that are not empty count. -/
theorem eraseDups_flatMap_const {β γ : Type} (f : β → α) (run : β → List γ) (xs : List β) :
    (xs.flatMap fun x => (run x).map fun _ => f x).eraseDups =
      ((xs.filter fun x => !(run x).isEmpty).map f).eraseDups := by
  induction xs with
  | nil => rfl
  | cons x xs ih =>
    rw [List.flatMap_cons, List.eraseDups_append, eraseDups_map_const, List.removeAll,
      eraseDups_filter, ih, List.filter_cons]
    cases hr : run x with
    | nil => simp
    | cons y ys =>
      rw [if_neg (List.cons_ne_nil y ys), if_pos (by rfl), List.map_cons (f := f),
        List.eraseDups_cons, eraseDups_filter, List.singleton_append]
      congr 1
      apply List.filter_congr
      intro z _
      by_cases hz : z = f x <;> simp [hz]

/-- A list with `x` at its end, unless it holds `x` already. -/
def addOnce (xs : List α) (x : α) : List α :=
  if x ∈ xs then xs else xs ++ [x]

/-- Adding elements one after the other, each once, appends those that are new. -/
theorem foldl_addOnce (xs seen : List α) :
    xs.foldl addOnce seen = seen ++ (xs.filter fun x => x ∉ seen).eraseDups := by
  induction xs generalizing seen with
  | nil => simp
  | cons x xs ih =>
    rw [List.foldl_cons, ih]
    by_cases hx : x ∈ seen
    · simp [addOnce, hx]
    · have hrest : (xs.filter fun y => y ∉ seen ++ [x]) =
          (xs.filter fun y => y ∉ seen).filter (fun y => !y == x) := by
        rw [List.filter_filter]
        apply List.filter_congr
        intro y _
        by_cases hy : y = x <;> simp [hy]
      simp only [addOnce, hx, ↓reduceIte, not_false_eq_true, decide_true, List.filter_cons_of_pos,
        List.eraseDups_cons, hrest, List.append_assoc, List.cons_append, List.nil_append]

end Disasm
