import Disasm.Host.Regex
import Mathlib.Data.List.Basic

namespace Disasm.Host.Regex

section Ascending

variable {ps qs : List Nat} {n p q : Nat}

/-- A list of positions, each once and in order. -/
def Ascending (ps : List Nat) : Prop :=
  ps.Pairwise (· < ·)

theorem mem_union : n ∈ union ps qs ↔ n ∈ ps ∨ n ∈ qs := by
  fun_induction union ps qs with
  | case1 => simp
  | case2 => simp
  | case3 p ps q qs h ih =>
    rw [List.mem_cons, ih, List.mem_cons (l := ps), or_assoc]
  | case4 p ps q qs h h' ih =>
    rw [List.mem_cons, ih, List.mem_cons (l := qs)]
    tauto
  | case5 p ps q qs h h' ih =>
    have he : p = q := Nat.le_antisymm (Nat.le_of_not_lt h') (Nat.le_of_not_lt h)
    rw [List.mem_cons, ih, List.mem_cons, List.mem_cons, he]
    tauto

theorem lt_of_ascending_cons (h : Ascending (p :: ps)) (hq : q ∈ ps) : p < q :=
  (List.pairwise_cons.mp h).1 q hq

theorem ascending_union (hp : Ascending ps) (hq : Ascending qs) : Ascending (union ps qs) := by
  fun_induction union ps qs with
  | case1 => exact hq
  | case2 => exact hp
  | case3 p ps q qs h ih =>
    refine List.pairwise_cons.mpr ⟨fun r hr => ?_, ih (List.pairwise_cons.mp hp).2 hq⟩
    rcases mem_union.mp hr with hr | hr
    · exact lt_of_ascending_cons hp hr
    · rcases List.mem_cons.mp hr with rfl | hr
      · exact h
      · exact Nat.lt_trans h (lt_of_ascending_cons hq hr)
  | case4 p ps q qs h h' ih =>
    refine List.pairwise_cons.mpr ⟨fun r hr => ?_, ih hp (List.pairwise_cons.mp hq).2⟩
    rcases mem_union.mp hr with hr | hr
    · rcases List.mem_cons.mp hr with rfl | hr
      · exact h'
      · exact Nat.lt_trans h' (lt_of_ascending_cons hp hr)
    · exact lt_of_ascending_cons hq hr
  | case5 p ps q qs h h' ih =>
    have he : p = q := Nat.le_antisymm (Nat.le_of_not_lt h') (Nat.le_of_not_lt h)
    refine List.pairwise_cons.mpr
      ⟨fun r hr => ?_, ih (List.pairwise_cons.mp hp).2 (List.pairwise_cons.mp hq).2⟩
    rcases mem_union.mp hr with hr | hr
    · exact lt_of_ascending_cons hp hr
    · exact he ▸ lt_of_ascending_cons hq hr

theorem mem_without (hp : Ascending ps) (hq : Ascending qs) :
    n ∈ without ps qs ↔ n ∈ ps ∧ n ∉ qs := by
  fun_induction without ps qs with
  | case1 => simp
  | case2 => simp
  | case3 p ps q qs h ih =>
    have hnot : p ∉ q :: qs := by
      intro hm
      rcases List.mem_cons.mp hm with rfl | hm
      · exact Nat.lt_irrefl p h
      · exact Nat.lt_asymm h (lt_of_ascending_cons hq hm)
    rw [List.mem_cons, ih (List.pairwise_cons.mp hp).2 hq, List.mem_cons (l := ps)]
    constructor
    · rintro (rfl | ⟨hn, hne⟩)
      · exact ⟨.inl rfl, hnot⟩
      · exact ⟨.inr hn, hne⟩
    · rintro ⟨rfl | hn, hne⟩
      · exact .inl rfl
      · exact .inr ⟨hn, hne⟩
  | case4 p ps q qs h h' ih =>
    have hless : ∀ r ∈ p :: ps, r ≠ q := by
      rintro r hr rfl
      rcases List.mem_cons.mp hr with rfl | hr
      · exact Nat.lt_irrefl r h'
      · exact Nat.lt_asymm h' (lt_of_ascending_cons hp hr)
    rw [ih hp (List.pairwise_cons.mp hq).2, List.mem_cons (l := qs), not_or]
    exact and_congr_right fun hn => (and_iff_right (hless n hn)).symm
  | case5 p ps q qs h h' ih =>
    have he : p = q := Nat.le_antisymm (Nat.le_of_not_lt h') (Nat.le_of_not_lt h)
    have hless : ∀ r ∈ ps, r ≠ q := fun r hr => by
      have hlt := lt_of_ascending_cons hp hr
      omega
    rw [ih (List.pairwise_cons.mp hp).2 (List.pairwise_cons.mp hq).2, List.mem_cons, List.mem_cons,
      not_or]
    constructor
    · exact fun ⟨hn, hne⟩ => ⟨.inr hn, hless n hn, hne⟩
    · rintro ⟨rfl | hn, hne, hnot⟩
      · exact absurd he hne
      · exact ⟨hn, hnot⟩

theorem without_sublist (ps qs : List Nat) : (without ps qs).Sublist ps := by
  fun_induction without ps qs with
  | case1 => exact List.Sublist.slnil
  | case2 => exact List.Sublist.refl _
  | case3 p ps q qs h ih => exact ih.cons_cons p
  | case4 p ps q qs h h' ih => exact ih
  | case5 p ps q qs h h' ih => exact ih.cons p

end Ascending

/-- So many steps of a relation, one after the other. -/
def Times (R : Nat → Nat → Prop) : Nat → Nat → Nat → Prop
  | 0, p, q => p = q
  | n + 1, p, q => ∃ r, R p r ∧ Times R n r q

section Steps

variable {R : Nat → Nat → Prop} {step : List Nat → List Nat} {ps reached frontier : List Nat}
  {n k p q r : Nat}

theorem Times.add (h : Times R n p q) (h' : Times R k q r) : Times R (n + k) p r := by
  induction n generalizing p with
  | zero =>
    cases h
    rwa [Nat.zero_add]
  | succ n ih =>
    obtain ⟨t, ht, hq⟩ := h
    rw [Nat.succ_add]
    exact ⟨t, ht, ih hq⟩

theorem Times.split (h : Times R (n + k) p r) : ∃ q, Times R n p q ∧ Times R k q r := by
  induction n generalizing p with
  | zero =>
    rw [Nat.zero_add] at h
    exact ⟨p, rfl, h⟩
  | succ n ih =>
    rw [Nat.succ_add] at h
    obtain ⟨t, ht, hr⟩ := h
    obtain ⟨q, hq, hr⟩ := ih hr
    exact ⟨q, ⟨t, ht, hq⟩, hr⟩

/-- Steps that never go back, and go nowhere beyond a limit. -/
structure Forward (R : Nat → Nat → Prop) (limit : Nat) : Prop where
  le : ∀ {p q}, R p q → p ≤ q
  bound : ∀ {p q}, R p q → q = p ∨ q ≤ limit

theorem Times.forward {limit : Nat} (hf : Forward R limit) (h : Times R n p q) :
    p ≤ q ∧ (q = p ∨ q ≤ limit) := by
  induction n generalizing p with
  | zero =>
    cases h
    exact ⟨Nat.le_refl _, .inl rfl⟩
  | succ n ih =>
    obtain ⟨r, hr, hq⟩ := h
    obtain ⟨hle, hbound⟩ := ih hq
    refine ⟨Nat.le_trans (hf.le hr) hle, ?_⟩
    rcases hbound with rfl | hbound
    · exact hf.bound hr
    · exact .inr hbound

theorem Times.imp {R' : Nat → Nat → Prop} (hR : ∀ p q, R p q → R' p q) (h : Times R n p q) :
    Times R' n p q := by
  induction n generalizing p with
  | zero => exact h
  | succ n ih =>
    obtain ⟨r, hr, hq⟩ := h
    exact ⟨r, hR p r hr, ih hq⟩

/-- A step that is not on the spot. -/
def Moves (R : Nat → Nat → Prop) (p q : Nat) : Prop :=
  R p q ∧ q ≠ p

/-- Steps on the spot can be left out. -/
theorem Times.shorten {limit : Nat} (hf : Forward R limit) (h : Times R n p q) :
    ∃ k ≤ n, k ≤ q - p ∧ Times (Moves R) k p q := by
  induction n generalizing p with
  | zero => exact ⟨0, Nat.le_refl 0, Nat.zero_le _, h⟩
  | succ n ih =>
    obtain ⟨r, hr, hq⟩ := h
    obtain ⟨k, hk, hlen, hmoves⟩ := ih hq
    have hle := (hq.forward hf).1
    by_cases hsame : r = p
    · subst hsame
      exact ⟨k, Nat.le_succ_of_le hk, hlen, hmoves⟩
    · have hlt := Nat.lt_of_le_of_ne (hf.le hr) (Ne.symm hsame)
      exact ⟨k + 1, Nat.succ_le_succ hk, by omega, r, ⟨hr, hsame⟩, hmoves⟩

/-- A function on lists of positions that makes one step of a relation from each. -/
structure Steps (R : Nat → Nat → Prop) (step : List Nat → List Nat) : Prop where
  ascending : ∀ {ps}, Ascending ps → Ascending (step ps)
  mem_iff : ∀ {ps q}, Ascending ps → (q ∈ step ps ↔ ∃ p ∈ ps, R p q)

/-- So many steps from some positions. -/
def stepped (step : List Nat → List Nat) (n : Nat) (ps : List Nat) : List Nat :=
  (List.range n).foldl (fun ps _ => step ps) ps

theorem stepped_succ : stepped step (n + 1) ps = step (stepped step n ps) := by
  rw [stepped, List.range_succ, List.foldl_append]
  rfl

theorem Steps.repeated (hs : Steps R step) (n : Nat) : Steps (Times R n) (stepped step n) := by
  induction n with
  | zero =>
    refine ⟨fun h => h, fun _ => ?_⟩
    simp [Times, stepped]
  | succ n ih =>
    refine ⟨fun h => ?_, fun h => ?_⟩
    · rw [stepped_succ]
      exact hs.ascending (ih.ascending h)
    · rw [stepped_succ, hs.mem_iff (ih.ascending h)]
      simp only [ih.mem_iff h]
      constructor
      · rintro ⟨r, ⟨p, hp, hr⟩, hq⟩
        exact ⟨p, hp, hr.add ⟨_, hq, rfl⟩⟩
      · rintro ⟨p, hp, ht⟩
        obtain ⟨r, hr, _, hq, rfl⟩ := ht.split
        exact ⟨r, ⟨p, hp, hr⟩, hq⟩

/-- The search for all that can be reached: what has been reached and is not new has been stepped
from. -/
structure Searching (R : Nat → Nat → Prop) (reached frontier : List Nat) : Prop where
  reached_ascending : Ascending reached
  frontier_ascending : Ascending frontier
  subset : ∀ p ∈ frontier, p ∈ reached
  closed : ∀ p ∈ reached, p ∉ frontier → ∀ q, R p q → q ∈ reached

theorem Searching.next (hs : Steps R step) (h : Searching R reached frontier) :
    Searching R (union reached (without (step frontier) reached))
      (without (step frontier) reached) := by
  have hstep := hs.ascending h.frontier_ascending
  have hnew : Ascending (without (step frontier) reached) := hstep.sublist (without_sublist _ _)
  refine ⟨ascending_union h.reached_ascending hnew, hnew, fun p hp => mem_union.mpr (.inr hp), ?_⟩
  intro p hp hnot q hq
  have hreached : p ∈ reached := (mem_union.mp hp).resolve_right hnot
  by_cases hmem : q ∈ reached
  · exact mem_union.mpr (.inl hmem)
  · by_cases hf : p ∈ frontier
    · have hstepped := (hs.mem_iff h.frontier_ascending).mpr ⟨p, hf, hq⟩
      exact mem_union.mpr (.inr ((mem_without hstep h.reached_ascending).mpr ⟨hstepped, hmem⟩))
    · exact absurd (h.closed p hreached hf q hq) hmem

/-- What can be reached from some positions in at most so many steps. -/
def Within (R : Nat → Nat → Prop) (n : Nat) (ps : List Nat) (q : Nat) : Prop :=
  ∃ k ≤ n, ∃ p ∈ ps, Times R k p q

theorem within_zero_iff : Within R 0 ps q ↔ q ∈ ps := by
  constructor
  · rintro ⟨k, hk, p, hp, ht⟩
    cases Nat.le_zero.mp hk
    cases ht
    exact hp
  · exact fun hq => ⟨0, Nat.le_refl 0, q, hq, rfl⟩

theorem Searching.mem_of_done (h : Searching R reached []) (hp : p ∈ reached)
    (ht : Times R n p q) : q ∈ reached := by
  induction n generalizing p with
  | zero =>
    cases ht
    exact hp
  | succ n ih =>
    obtain ⟨r, hr, hq⟩ := ht
    exact ih (h.closed p hp List.not_mem_nil r hr) hq

/-- A round makes one step more. -/
theorem Searching.within_next (hs : Steps R step) (h : Searching R reached frontier) :
    Within R n (union reached (without (step frontier) reached)) q ↔
      Within R (n + 1) reached q := by
  have hstep := hs.ascending h.frontier_ascending
  have hnext := h.next hs
  constructor
  · rintro ⟨k, hk, p, hp, ht⟩
    rcases mem_union.mp hp with hp | hp
    · exact ⟨k, Nat.le_succ_of_le hk, p, hp, ht⟩
    · have hstepped := ((mem_without hstep h.reached_ascending).mp hp).1
      obtain ⟨r, hr, hrp⟩ := (hs.mem_iff h.frontier_ascending).mp hstepped
      exact ⟨k + 1, Nat.succ_le_succ hk, r, h.subset r hr, p, hrp, ht⟩
  · rintro ⟨k, hk, p, hp, ht⟩
    cases k with
    | zero => exact ⟨0, Nat.zero_le n, p, mem_union.mpr (.inl hp), ht⟩
    | succ k =>
      obtain ⟨r, hr, ht⟩ := ht
      refine ⟨k, Nat.le_of_succ_le_succ hk, r, ?_, ht⟩
      by_cases hnew : p ∈ without (step frontier) reached
      · exact absurd hp ((mem_without hstep h.reached_ascending).mp hnew).2
      · exact hnext.closed p (mem_union.mpr (.inl hp)) hnew r hr

/-- After so many rounds all is found that can be reached in as many steps. -/
theorem mem_closure (hs : Steps R step) (h : Searching R reached frontier) :
    Ascending (closure step reached n frontier) ∧
      (q ∈ closure step reached n frontier ↔ Within R n reached q) := by
  induction n generalizing reached frontier with
  | zero =>
    rw [closure, within_zero_iff]
    exact ⟨h.reached_ascending, Iff.rfl⟩
  | succ n ih =>
    cases frontier with
    | nil =>
      refine ⟨h.reached_ascending, fun hq => ⟨0, Nat.zero_le _, q, hq, rfl⟩, ?_⟩
      rintro ⟨k, -, p, hp, ht⟩
      exact h.mem_of_done hp ht
    | cons first rest =>
      rw [closure, ← h.within_next hs]
      · exact ih (h.next hs)
      · exact List.cons_ne_nil first rest

end Steps

end Disasm.Host.Regex
