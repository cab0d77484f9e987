import Disasm.Proofs.Reachable

namespace Disasm.Host.Regex

/-- An expression without parts covers one character, or holds between two. -/
def Touches (s : Subject) (e : Regex) (p q : Nat) : Prop :=
  (∃ c, s.text[p]? = some c ∧ coversChar s e c = true ∧ q = p + 1) ∨
    (holdsAt s p e = true ∧ q = p)

/-- An expression covers what stands between two positions of a text. A greatest number of
repetitions that is below the least one counts as the least one. -/
def Matches (s : Subject) : Regex → Nat → Nat → Prop
  | .seq a b, p, q => ∃ r, a.Matches s p r ∧ b.Matches s r q
  | .alt a b, p, q => a.Matches s p q ∨ b.Matches s p q
  | .group _ e, p, q => e.Matches s p q
  | .many e least most, p, q =>
    ∃ n, least ≤ n ∧ (∀ m ∈ most, n ≤ max least m) ∧ Times (e.Matches s) n p q
  | .back _, _, _ => False
  | e, p, q => Touches s e p q

section

variable {s : Subject} {e : Regex} {ps : List Nat} {p q : Nat}

theorem forward_touches : Forward (Touches s e) s.text.size := by
  constructor
  · rintro p q (⟨_, -, -, rfl⟩ | ⟨-, rfl⟩)
    · exact Nat.le_succ p
    · exact Nat.le_refl q
  · rintro p q (⟨_, hc, -, rfl⟩ | ⟨-, rfl⟩)
    · exact .inr (Array.getElem?_eq_some_iff.mp hc).1
    · exact .inl rfl

theorem forward_matches (e : Regex) : Forward (e.Matches s) s.text.size := by
  induction e with
  | seq a b iha ihb =>
    constructor
    · rintro p q ⟨r, ha, hb⟩
      exact Nat.le_trans (iha.le ha) (ihb.le hb)
    · rintro p q ⟨r, ha, hb⟩
      rcases ihb.bound hb with rfl | hbound
      · exact iha.bound ha
      · exact .inr hbound
  | alt a b iha ihb =>
    constructor
    · rintro p q (h | h)
      · exact iha.le h
      · exact ihb.le h
    · rintro p q (h | h)
      · exact iha.bound h
      · exact ihb.bound h
  | group n e ih => exact ⟨ih.le, ih.bound⟩
  | many e least most ih =>
    constructor
    · rintro p q ⟨n, -, -, h⟩
      exact (h.forward ih).1
    · rintro p q ⟨n, -, -, h⟩
      exact (h.forward ih).2
  | back n => exact ⟨False.elim, False.elim⟩
  | _ => exact ⟨forward_touches.le, forward_touches.bound⟩

end

section Ends

variable {R R' : Nat → Nat → Prop} {step : List Nat → List Nat} {ps : List Nat} {p q n k : Nat}

theorem Steps.congr (h : Steps R step) (hR : ∀ p q, R p q ↔ R' p q) : Steps R' step := by
  have heq : R = R' := funext fun p => funext fun q => propext (hR p q)
  exact heq ▸ h

theorem steps_filter (test : Nat → Bool) :
    Steps (fun p q => test p = true ∧ q = p) fun ps => ps.filter test := by
  refine ⟨fun h => h.filter test, fun _ => ?_⟩
  rw [List.mem_filter]
  constructor
  · exact fun ⟨hq, ht⟩ => ⟨_, hq, ht, rfl⟩
  · rintro ⟨p, hp, ht, rfl⟩
    exact ⟨hp, ht⟩

theorem steps_filter_map (test : Nat → Bool) :
    Steps (fun p q => test p = true ∧ q = p + 1) fun ps => (ps.filter test).map (· + 1) := by
  constructor
  · intro ps h
    exact (h.filter test).map _ fun a b hab => Nat.succ_lt_succ hab
  · intro ps q _
    simp only [List.mem_map, List.mem_filter]
    constructor
    · rintro ⟨p, ⟨hp, ht⟩, rfl⟩
      exact ⟨p, hp, ht, rfl⟩
    · rintro ⟨p, hp, ht, rfl⟩
      exact ⟨p, ⟨hp, ht⟩, rfl⟩

/-- What holds of some positions in a row holds of the first one and of those behind it. -/
theorem forall_offset_succ {P : Nat → Prop} :
    (∀ i < n + 1, P (p + i)) ↔ P p ∧ ∀ i < n, P (p + 1 + i) := by
  rw [Nat.forall_lt_succ_left]
  simp only [Nat.add_zero, Nat.add_assoc, Nat.add_comm 1]

theorem times_one_iff {test : Nat → Bool} :
    Times (fun p q => test p = true ∧ q = p + 1) n p q ↔
      q = p + n ∧ ∀ i < n, test (p + i) = true := by
  induction n generalizing p with
  | zero =>
    simp only [Times, Nat.add_zero, Nat.not_lt_zero, false_implies, implies_true, and_true]
    exact eq_comm
  | succ n ih =>
    rw [forall_offset_succ (P := fun p => test p = true)]
    simp only [Times, ih]
    constructor
    · rintro ⟨_, ⟨ht, rfl⟩, rfl, hall⟩
      exact ⟨by omega, ht, hall⟩
    · rintro ⟨rfl, ht, hall⟩
      exact ⟨p + 1, ⟨ht, rfl⟩, by omega, hall⟩

section Runs

variable {text : Array Char} {test : Char → Bool} {least covered : Nat}

theorem le_runLength_iff :
    k ≤ runs.runLength text test p n ↔ k ≤ n ∧ ∀ i < k, (text[p + i]?).any test = true := by
  induction n generalizing p k with
  | zero =>
    rw [runs.runLength]
    constructor
    · intro h
      cases Nat.le_zero.mp h
      exact ⟨Nat.le_refl 0, fun i hi => absurd hi (Nat.not_lt_zero i)⟩
    · exact And.left
  | succ n ih =>
    rw [runs.runLength]
    cases k with
    | zero => exact iff_of_true (Nat.zero_le _) ⟨Nat.zero_le _, fun i hi => absurd hi (by omega)⟩
    | succ k =>
      rw [forall_offset_succ (P := fun p => (text[p]?).any test = true)]
      split
      · next ht =>
        rw [Nat.succ_le_succ_iff, Nat.succ_le_succ_iff, ih]
        exact and_congr_right fun _ => (and_iff_right ht).symm
      · next ht => exact iff_of_false (Nat.not_succ_le_zero k) fun h => ht h.2.1

/-- What a list of positions is extended by: all from one on to another. -/
theorem mem_range_map {first last : Nat} (h : first ≤ last) :
    q ∈ (List.range (last + 1 - first)).map (first + ·) ↔ first ≤ q ∧ q ≤ last := by
  simp only [List.mem_map, List.mem_range]
  constructor
  · rintro ⟨i, hi, rfl⟩
    omega
  · exact fun ⟨hl, hh⟩ => ⟨q - first, by omega, by omega⟩

/-- From `covered` on, all positions are given that a run leads to, from one of the positions or
from an earlier one. -/
theorem mem_runs (hp : Ascending ps) :
    q ∈ runs text test least covered ps ↔ covered ≤ q ∧
      ∃ p ∈ ps, p + least ≤ q ∧ q ≤ p + runs.runLength text test p (text.size - p) := by
  induction ps generalizing covered with
  | nil => simp [runs]
  | cons first rest ih =>
    obtain ⟨hfirst, hrest⟩ := List.pairwise_cons.mp hp
    rw [runs]
    generalize hlength : runs.runLength text test first (text.size - first) = length
    split
    · next hle =>
      rw [List.mem_append, mem_range_map hle, ih hrest, List.exists_mem_cons_iff, hlength]
      constructor
      · rintro (⟨hl, hh⟩ | ⟨hc, p, hp, hl, hh⟩)
        · exact ⟨by omega, .inl ⟨by omega, hh⟩⟩
        · exact ⟨by omega, .inr ⟨p, hp, hl, hh⟩⟩
      · rintro ⟨hc, ⟨hl, hh⟩ | ⟨p, hp, hl, hh⟩⟩
        · exact .inl ⟨by omega, hh⟩
        · have hlt := hfirst p hp
          by_cases hq : q ≤ first + length
          · exact .inl ⟨by omega, hq⟩
          · exact .inr ⟨by omega, p, hp, hl, hh⟩
    · next hgt =>
      rw [ih hrest, List.exists_mem_cons_iff, hlength]
      refine and_congr_right fun hc => ⟨.inr, ?_⟩
      rintro (⟨hl, hh⟩ | h)
      · omega
      · exact h

theorem ascending_runs (hp : Ascending ps) : Ascending (runs text test least covered ps) := by
  induction ps generalizing covered with
  | nil => exact List.Pairwise.nil
  | cons first rest ih =>
    have hrest := (List.pairwise_cons.mp hp).2
    rw [runs]
    split
    · next hle =>
      refine List.pairwise_append.mpr ⟨?_, ih hrest, fun a ha b hb => ?_⟩
      · exact List.pairwise_lt_range.map _ fun a b hab => Nat.add_lt_add_left hab _
      · have hlast := ((mem_range_map hle).mp ha).2
        have hcovered := ((mem_runs hrest).mp hb).1
        omega
    · exact ih hrest

theorem steps_runs (text : Array Char) (test : Char → Bool) (least : Nat) :
    Steps (fun p q => ∃ n, least ≤ n ∧
        Times (fun p q => (text[p]?).any test = true ∧ q = p + 1) n p q)
      (runs text test least 0) := by
  refine ⟨ascending_runs, fun h => ?_⟩
  simp only [mem_runs h, Nat.zero_le, true_and, times_one_iff]
  refine exists_congr fun p => and_congr_right fun _ => ?_
  constructor
  · rintro ⟨hl, hh⟩
    have hrun := (le_runLength_iff (k := _)).mp (Nat.sub_le_iff_le_add'.mpr hh)
    exact ⟨_, by omega, by omega, hrun.2⟩
  · rintro ⟨n, hl, rfl, hall⟩
    refine ⟨by omega, Nat.add_le_add_left (le_runLength_iff.mpr ⟨?_, hall⟩) p⟩
    cases n with
    | zero => exact Nat.zero_le _
    | succ n =>
      have hlast := hall n (Nat.lt_succ_self n)
      rw [Option.any_eq_true] at hlast
      obtain ⟨c, hc, -⟩ := hlast
      have hbound := (Array.getElem?_eq_some_iff.mp hc).1
      omega

end Runs

/-- How many rounds a search for repetitions takes behind the least number of them. -/
def rounds (limit least : Nat) (most : Option Nat) : Nat :=
  match most with
  | some m => m - least
  | none => limit + 1

/-- Repetitions are found from the least number of them on, round by round. -/
theorem steps_closure {limit least : Nat} (most : Option Nat) (hs : Steps R step)
    (hf : Forward R limit) :
    Steps (fun p q => ∃ n, least ≤ n ∧ (∀ m ∈ most, n ≤ max least m) ∧ Times R n p q)
      fun ps => closure step (stepped step least ps) (rounds limit least most)
        (stepped step least ps) := by
  have hrepeated := hs.repeated least
  have hsearching : ∀ {ps}, Ascending ps →
      Searching R (stepped step least ps) (stepped step least ps) := fun h =>
    ⟨hrepeated.ascending h, hrepeated.ascending h, fun _ hp => hp, fun _ hp hn => absurd hp hn⟩
  refine ⟨fun h => (mem_closure (q := 0) hs (hsearching h)).1, fun h => ?_⟩
  refine (mem_closure hs (hsearching h)).2.trans ?_
  simp only [Within, hrepeated.mem_iff h]
  constructor
  · rintro ⟨k, hk, r, ⟨p, hp, hr⟩, hq⟩
    refine ⟨p, hp, least + k, Nat.le_add_right least k, fun m hm => ?_, hr.add hq⟩
    cases hm
    change k ≤ m - least at hk
    omega
  · rintro ⟨p, hp, n, hl, hm, ht⟩
    obtain ⟨k, rfl⟩ := Nat.exists_eq_add_of_le hl
    obtain ⟨r, hr, hq⟩ := ht.split
    cases most with
    | some m =>
      have hbound := hm m rfl
      exact ⟨k, show k ≤ m - least by omega, r, ⟨p, hp, hr⟩, hq⟩
    | none =>
      obtain ⟨j, -, hj, hmoves⟩ := hq.shorten hf
      have hlimit := (hq.forward hf).2
      exact ⟨j, show j ≤ limit + 1 by omega, r, ⟨p, hp, hr⟩, hmoves.imp fun _ _ => And.left⟩

variable {s : Subject} {e : Regex} {least : Nat} {most : Option Nat}

/-- Whether an expression covers one character each time. -/
def single : Regex → Bool
  | .char _ | .any | .oneOf _ _ => true
  | _ => false

theorem touches_of_single (h : e.single = true) :
    Touches s e p q ↔ (s.text[p]?).any (coversChar s e) = true ∧ q = p + 1 := by
  have hholds : holdsAt s p e = false := by
    cases e <;> first | rfl | cases h
  simp only [Touches, hholds, Option.any_eq_true, Bool.false_eq_true, false_and, or_false,
    exists_and_right, ← and_assoc]

theorem touches_of_not_single (h : e.single = false) :
    Touches s e p q ↔ holdsAt s p e = true ∧ q = p := by
  have hcovers : ∀ c, coversChar s e c = false := by
    cases e <;> first | exact fun _ => rfl | cases h
  simp [Touches, hcovers]

theorem any_covers : (s.text[p]?).any (coversChar s .any) = true ↔ p < s.text.size := by
  rw [Option.any_eq_true]
  constructor
  · rintro ⟨c, hc, -⟩
    exact (Array.getElem?_eq_some_iff.mp hc).1
  · exact fun h => ⟨_, Array.getElem?_eq_getElem h, rfl⟩

theorem ends_of_single (h : e.single = true) (ps : List Nat) :
    ends s e ps = (ps.filter fun p => (s.text[p]?).any (coversChar s e)).map (· + 1) := by
  cases e with
  | char c => rfl
  | oneOf inverted items => rfl
  | any =>
    rw [ends]
    congr 1
    exact List.filter_congr fun p _ => Bool.eq_iff_iff.mpr (by rw [decide_eq_true_iff, any_covers])
  | _ => cases h

theorem ends_many_of_single (h : e.single = true) (ps : List Nat) :
    ends s (.many e least none) ps = runs s.text (coversChar s e) least 0 ps := by
  cases e <;> first | rfl | cases h

/-- Only repetitions of one character without a greatest number take the short way. -/
theorem ends_many (h : e.single = false ∨ most ≠ none) (ps : List Nat) :
    ends s (.many e least most) ps =
      closure (ends s e) (stepped (ends s e) least ps) (rounds s.text.size least most)
        (stepped (ends s e) least ps) := by
  cases most with
  | some m => cases e <;> rfl
  | none =>
    have hsingle := h.resolve_right fun hne => hne rfl
    cases e <;> first | rfl | cases hsingle

theorem steps_touches_of_single (h : e.single = true) : Steps (Touches s e) (ends s e) := by
  rw [funext (ends_of_single h)]
  exact (steps_filter_map _).congr fun p q => (touches_of_single h).symm

theorem steps_touches_of_not_single (h : e.single = false)
    (he : ∀ ps, ends s e ps = ps.filter fun p => holdsAt s p e) :
    Steps (Touches s e) (ends s e) := by
  rw [funext he]
  exact (steps_filter _).congr fun p q => (touches_of_not_single h).symm

theorem steps_many (ih : Steps (e.Matches s) (ends s e)) :
    Steps ((many e least most).Matches s) (ends s (.many e least most)) := by
  by_cases h : e.single = false ∨ most ≠ none
  · rw [funext (ends_many h)]
    exact steps_closure most ih (forward_matches e)
  · rw [not_or, Bool.not_eq_false, not_not] at h
    obtain ⟨hsingle, rfl⟩ := h
    have hone : e.Matches s =
        fun p q => (s.text[p]?).any (coversChar s e) = true ∧ q = p + 1 := by
      funext p q
      refine propext (Iff.trans ?_ (touches_of_single hsingle))
      cases e <;> first | exact Iff.rfl | cases hsingle
    rw [funext (ends_many_of_single hsingle)]
    refine (steps_runs s.text (coversChar s e) least).congr fun p q => ?_
    rw [← hone]
    exact exists_congr fun n => and_congr_right fun _ =>
      (and_iff_right fun m hm => absurd hm (by simp)).symm

/-- Without references back, the ends that are put together from the parts are those of all
matches. -/
theorem steps_ends (h : e.refersBack = false) : Steps (e.Matches s) (ends s e) := by
  induction e with
  | seq a b iha ihb =>
    obtain ⟨ha, hb⟩ := Bool.or_eq_false_iff.mp h
    refine ⟨fun hp => (ihb hb).ascending ((iha ha).ascending hp), fun hp => ?_⟩
    rw [ends, (ihb hb).mem_iff ((iha ha).ascending hp)]
    simp only [(iha ha).mem_iff hp]
    constructor
    · rintro ⟨r, ⟨p, hp, hr⟩, hq⟩
      exact ⟨p, hp, r, hr, hq⟩
    · rintro ⟨p, hp, r, hr, hq⟩
      exact ⟨r, ⟨p, hp, hr⟩, hq⟩
  | alt a b iha ihb =>
    obtain ⟨ha, hb⟩ := Bool.or_eq_false_iff.mp h
    refine ⟨fun hp => ascending_union ((iha ha).ascending hp) ((ihb hb).ascending hp),
      fun hp => ?_⟩
    rw [ends, mem_union, (iha ha).mem_iff hp, (ihb hb).mem_iff hp, ← exists_or]
    exact exists_congr fun p => and_or_left.symm
  | group n e ih => exact ⟨(ih h).ascending, (ih h).mem_iff⟩
  | many e least most ih => exact steps_many (ih h)
  | back n => cases h
  | char c => exact steps_touches_of_single rfl
  | any => exact steps_touches_of_single rfl
  | oneOf inverted items => exact steps_touches_of_single rfl
  | _ => exact steps_touches_of_not_single rfl fun _ => rfl

end Ends

section Search

variable {s : Subject} {e : Regex} {p q start : Nat}

theorem last_of_getLast? {ps : List Nat} (h : Ascending ps) (hq : ps.getLast? = some q) :
    q ∈ ps ∧ ∀ r ∈ ps, r ≤ q := by
  obtain ⟨front, rfl⟩ := List.getLast?_eq_some_iff.mp hq
  refine ⟨List.mem_append_right front (List.mem_singleton_self q), fun r hr => ?_⟩
  rcases List.mem_append.mp hr with hr | hr
  · exact Nat.le_of_lt ((List.pairwise_append.mp h).2.2 r hr q (List.mem_singleton_self q))
  · exact Nat.le_of_eq (List.mem_singleton.mp hr)

theorem getLast?_eq_some_iff {ps : List Nat} (h : Ascending ps) :
    ps.getLast? = some q ↔ q ∈ ps ∧ ∀ r ∈ ps, r ≤ q := by
  refine ⟨last_of_getLast? h, fun ⟨hq, hmost⟩ => ?_⟩
  have hlast := List.getLast?_eq_some_getLast (List.ne_nil_of_mem hq)
  obtain ⟨hmem, hle⟩ := last_of_getLast? h hlast
  rw [hlast, Nat.le_antisymm (hmost _ hmem) (hle q hq)]

/-- The longest match is the one of the greatest end. -/
theorem longest?_eq_some_iff (h : e.refersBack = false) :
    longest? s e p = some q ↔ e.Matches s p q ∧ ∀ r, e.Matches s p r → r ≤ q := by
  have hsteps := steps_ends (s := s) h
  have hone : Ascending [p] := List.pairwise_singleton _ p
  rw [longest?, h, if_neg Bool.false_ne_true, getLast?_eq_some_iff (hsteps.ascending hone)]
  simp only [hsteps.mem_iff hone, List.mem_singleton, exists_eq_left]

theorem longest?_eq_none_iff (h : e.refersBack = false) :
    longest? s e p = none ↔ ∀ q, ¬ e.Matches s p q := by
  have hsteps := steps_ends (s := s) h
  have hone : Ascending [p] := List.pairwise_singleton _ p
  rw [longest?, h, if_neg Bool.false_ne_true, List.getLast?_eq_none_iff, List.eq_nil_iff_forall_not_mem]
  simp only [hsteps.mem_iff hone, List.mem_singleton, exists_eq_left]

/-- The first match from a position on, and of those that start where it does the longest. -/
structure Finds (s : Subject) (e : Regex) (start : Nat) (f : Found) : Prop where
  from_start : start ≤ f.first
  covered : e.Matches s f.first f.last
  longest : ∀ q, e.Matches s f.first q → q ≤ f.last
  first : ∀ p q, start ≤ p → e.Matches s p q → f.first ≤ p

theorem find?_eq_none_iff {withGroups : Bool} {fuel : Nat} :
    find? s e withGroups fuel p = none ↔ ∀ i < fuel, longest? s e (p + i) = none := by
  induction fuel generalizing p with
  | zero => exact iff_of_true rfl fun i hi => absurd hi (Nat.not_lt_zero i)
  | succ fuel ih =>
    rw [forall_offset_succ (P := fun p => longest? s e p = none), find?]
    cases hl : longest? s e p with
    | some q => simp
    | none => exact ih.trans (and_iff_right rfl).symm

theorem find?_eq_some {withGroups : Bool} {fuel : Nat} {f : Found}
    (h : find? s e withGroups fuel p = some f) :
    p ≤ f.first ∧ longest? s e f.first = some f.last ∧
      (∀ q, p ≤ q → q < f.first → longest? s e q = none) ∧
      f.groups = if withGroups then
        (attempt s e (fun r groups => if r = f.last then some groups else none) f.first []).getD []
        else [] := by
  induction fuel generalizing p with
  | zero => cases h
  | succ fuel ih =>
    rw [find?] at h
    cases hl : longest? s e p with
    | some q =>
      rw [hl] at h
      cases h
      exact ⟨Nat.le_refl p, hl, fun r hle hlt => absurd hlt (Nat.not_lt_of_le hle), rfl⟩
    | none =>
      rw [hl] at h
      obtain ⟨hle, hlast, hbefore, hgroups⟩ := ih h
      refine ⟨Nat.le_of_succ_le hle, hlast, fun q hq hlt => ?_, hgroups⟩
      rcases Nat.eq_or_lt_of_le hq with rfl | hq
      · exact hl
      · exact hbefore q hq hlt

theorem search_finds {withGroups : Bool} {f : Found} (h : e.refersBack = false)
    (hf : search s e start withGroups = some f) : Finds s e start f := by
  obtain ⟨hstart, hlast, hbefore, -⟩ := find?_eq_some hf
  obtain ⟨hcovered, hlongest⟩ := (longest?_eq_some_iff h).mp hlast
  refine ⟨hstart, hcovered, hlongest, fun p q hp hm => ?_⟩
  by_contra hlt
  exact (longest?_eq_none_iff h).mp (hbefore p hp (Nat.lt_of_not_le hlt)) q hm

/-- A search fails only where there is no match to be found. -/
theorem search_eq_none_iff {withGroups : Bool} (h : e.refersBack = false) :
    search s e start withGroups = none ↔
      ∀ p, start ≤ p → p ≤ s.text.size → ∀ q, ¬ e.Matches s p q := by
  rw [search, find?_eq_none_iff]
  constructor
  · intro hall p hl hh
    have hnone := hall (p - start) (by omega)
    rw [Nat.add_sub_cancel' hl] at hnone
    exact (longest?_eq_none_iff h).mp hnone
  · intro hall i hi
    exact (longest?_eq_none_iff h).mpr (hall (start + i) (by omega) (by omega))

theorem isIn_iff {cs : List Char} {ignoreCase : Bool} (h : e.refersBack = false) :
    isIn e cs ignoreCase = true ↔
      ∃ p ≤ cs.length, ∃ q,
        e.Matches { text := cs.toArray, ignoreCase := ignoreCase } p q := by
  rw [isIn, ← not_iff_not, Bool.not_eq_true, Option.isSome_eq_false_iff, Option.isNone_iff_eq_none,
    search_eq_none_iff h]
  simp

end Search

end Disasm.Host.Regex
