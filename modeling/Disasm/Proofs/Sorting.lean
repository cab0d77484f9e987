import Disasm.Host.Utility.Sorting
import Mathlib.Data.List.Basic

namespace Disasm.Host.Utility

open Std (TransCmp OrientedCmp)

section Measures

variable {α β : Type} {cmp other : α → α → Ordering}

/-- A way of comparing is an order if any three things can be measured so that it compares what is
measured. -/
theorem transCmp_of_measures [Ord β] [Std.TransOrd β]
    (h : ∀ a b c, ∃ f : α → β, ∀ x ∈ [a, b, c], ∀ y ∈ [a, b, c], cmp x y = compare (f x) (f y)) :
    TransCmp cmp := by
  have horiented : OrientedCmp cmp := by
    refine ⟨fun {a b} => ?_⟩
    obtain ⟨f, hf⟩ := h a b b
    rw [hf a (by simp) b (by simp), hf b (by simp) a (by simp)]
    exact OrientedCmp.eq_swap
  refine ⟨fun {a b c} hab hbc => ?_⟩
  obtain ⟨f, hf⟩ := h a b c
  rw [hf a (by simp) b (by simp)] at hab
  rw [hf b (by simp) c (by simp)] at hbc
  rw [hf a (by simp) c (by simp)]
  exact TransCmp.isLE_trans hab hbc

theorem transCmp_swap (h : TransCmp cmp) : TransCmp fun a b => (cmp a b).swap := by
  have hflip : (fun a b => (cmp a b).swap) = fun a b => cmp b a := by
    funext a b
    exact OrientedCmp.eq_swap.symm
  rw [hflip]
  exact TransCmp.opposite

theorem transCmp_on (h : TransCmp cmp) (f : β → α) : TransCmp fun a b => cmp (f a) (f b) :=
  { eq_swap := h.eq_swap, isLE_trans := h.isLE_trans }

theorem transCmp_then (h : TransCmp cmp) (h' : TransCmp other) :
    TransCmp fun a b => (cmp a b).then (other a b) :=
  inferInstanceAs (TransCmp (compareLex cmp other))

/-- What is compared part by part, the first difference being the one that counts. -/
theorem transCmp_foldl {γ : Type} {part : γ → α → α → Ordering} (hp : ∀ k, TransCmp (part k))
    (h : TransCmp cmp) (ks : List γ) :
    TransCmp fun a b => ks.foldl (fun result k => result.then (part k a b)) (cmp a b) := by
  induction ks generalizing cmp with
  | nil => exact h
  | cons k ks ih => exact ih (transCmp_then h (hp k))

theorem transCmp_equal : TransCmp fun _ _ : α => Ordering.eq :=
  transCmp_of_measures fun _ _ _ => ⟨fun _ => (0 : Nat), fun _ _ _ _ => rfl⟩

theorem compare_mul_right {k : Int} (hk : 0 < k) (x y : Int) :
    compare (x * k) (y * k) = compare x y := by
  rcases Int.lt_trichotomy x y with h | rfl | h
  · rw [Int.compare_eq_lt.mpr h, Int.compare_eq_lt]
    exact Int.mul_lt_mul_of_pos_right h hk
  · rw [Int.compare_eq_eq.mpr rfl, Int.compare_eq_eq.mpr rfl]
  · rw [Int.compare_eq_gt.mpr h, Int.compare_eq_gt]
    exact Int.mul_lt_mul_of_pos_right h hk

end Measures

section Characters

theorem compareChars_eq (a b : List Char) : compareChars a b = List.compareLex compare a b := by
  have hcompare : ∀ a b : Char, compare a b = if a < b then .lt else if a = b then .eq else .gt :=
    fun _ _ => rfl
  fun_induction compareChars a b with
  | case1 => rfl
  | case2 bs h =>
    cases bs with
    | nil => exact absurd rfl h
    | cons b bs => rfl
  | case3 as h =>
    cases as with
    | nil => exact absurd rfl h
    | cons a as => rfl
  | case4 a as b bs h =>
    rw [List.compareLex_cons_cons, hcompare, if_pos h]
    rfl
  | case5 a as b bs h h' =>
    have hne : a ≠ b := fun he => h (he ▸ h')
    rw [List.compareLex_cons_cons, hcompare, if_neg h, if_neg hne]
    rfl
  | case6 a as b bs h h' ih =>
    have he : a = b := Char.le_antisymm (Char.not_lt.mp h') (Char.not_lt.mp h)
    rw [List.compareLex_cons_cons, hcompare, if_neg h, if_pos he, ih]
    rfl

theorem transCmp_compareChars : TransCmp compareChars := by
  have heq : compareChars = List.compareLex compare := by
    funext a b
    exact compareChars_eq a b
  rw [heq]
  infer_instance

/-- Only a text is equal to itself. -/
theorem compareChars_eq_eq_iff {a b : List Char} : compareChars a b = .eq ↔ a = b := by
  rw [compareChars_eq]
  exact Std.LawfulEqCmp.compare_eq_iff_eq

end Characters

section Numbers

/-- A number in units of a power of ten. -/
def amount (low : Int) (x : Bool × Nat × Int) : Int :=
  let v : Int := x.2.1 * Nat.pow 10 (x.2.2 - low).toNat
  if x.1 then -v else v

theorem amount_lower {low base : Int} {x : Bool × Nat × Int} (hb : base ≤ low)
    (hx : low ≤ x.2.2) : amount base x = amount low x * Nat.pow 10 (low - base).toNat := by
  have he : (x.2.2 - base).toNat = (x.2.2 - low).toNat + (low - base).toNat := by omega
  simp only [amount, he, Nat.pow_eq, Nat.pow_add, Int.natCast_mul]
  split
  · rw [Int.neg_mul, Int.mul_assoc]
  · rw [Int.mul_assoc]

/-- Numbers can be compared in any units that are small enough. -/
theorem compareGeneral_eq {low : Int} {a b : Option (Bool × Nat × Int)}
    (ha : ∀ x ∈ a, low ≤ x.2.2) (hb : ∀ x ∈ b, low ≤ x.2.2) :
    compareGeneral a b = compare (a.map (amount low)) (b.map (amount low)) := by
  cases a with
  | none => cases b <;> rfl
  | some x =>
    cases b with
    | none => rfl
    | some y =>
      have hx := ha x rfl
      have hy := hb y rfl
      have hlow : low ≤ min x.2.2 y.2.2 := by omega
      have hpow : (0 : Int) < Nat.pow 10 (min x.2.2 y.2.2 - low).toNat :=
        Int.natCast_pos.mpr (Nat.pow_pos (by decide))
      change compare (amount (min x.2.2 y.2.2) x) (amount (min x.2.2 y.2.2) y) =
        compare (amount low x) (amount low y)
      rw [amount_lower hlow (by omega), amount_lower hlow (by omega), compare_mul_right hpow]

theorem transCmp_compareGeneral : TransCmp compareGeneral := by
  refine @transCmp_of_measures _ (Option Int) _ _ _ fun a b c => ?_
  let exponent (x : Option (Bool × Nat × Int)) : Int := (x.map fun x => x.2.2).getD 0
  let low : Int := min (exponent a) (min (exponent b) (exponent c))
  have hlow : ∀ x ∈ [a, b, c], ∀ n ∈ x, low ≤ n.2.2 := by
    intro x hx n hn
    have he : exponent x = n.2.2 := by
      cases hn
      rfl
    simp only [List.mem_cons, List.not_mem_nil, or_false] at hx
    rcases hx with rfl | rfl | rfl <;> omega
  exact ⟨Option.map (amount low), fun x hx y hy => compareGeneral_eq (hlow x hx) (hlow y hy)⟩

theorem digitsValue_append_zeros (ds : List Char) (k : Nat) :
    digitsValue (ds ++ List.replicate k '0') = digitsValue ds * Nat.pow 10 k := by
  induction k with
  | zero => simp
  | succ k ih =>
    rw [List.replicate_succ', ← List.append_assoc, digitsValue, List.foldl_append, ← digitsValue,
      ih]
    simp [Nat.pow_succ, Nat.mul_assoc]

namespace Numeral

/-- A number by its digits and the exponent of the last one. -/
def decimal (n : Numeral) : Bool × Nat × Int :=
  (n.negative, n.whole * Nat.pow 10 n.fraction.length + digitsValue n.fraction, -n.fraction.length)

/-- A number in units of the last of some places. -/
def units (n : Numeral) (places : Nat) : Int :=
  let ds := n.fraction ++ List.replicate (places - n.fraction.length) '0'
  let v : Int := n.whole * Nat.pow 10 places + digitsValue ds
  if n.negative then -v else v

theorem units_eq {n : Numeral} {places : Nat} (h : n.fraction.length ≤ places) :
    n.units places = amount (-places) n.decimal := by
  obtain ⟨k, rfl⟩ := Nat.exists_eq_add_of_le h
  have he : (-(n.fraction.length : Int) - -((n.fraction.length + k : Nat) : Int)).toNat = k := by
    omega
  simp only [units, amount, decimal, digitsValue_append_zeros, he, Nat.add_sub_cancel_left,
    Nat.pow_eq, Nat.pow_add]
  push_cast
  simp only [Int.add_mul, Int.mul_assoc]

/-- Numbers without exponents are compared as those with exponents are. -/
theorem compare_eq (a b : Numeral) :
    a.compare b = compareGeneral (some a.decimal) (some b.decimal) := by
  have hlow : min (-(a.fraction.length : Int)) (-(b.fraction.length : Int)) =
      -((max a.fraction.length b.fraction.length : Nat) : Int) := by omega
  change Ord.compare (a.units (max _ _)) (b.units (max _ _)) =
    Ord.compare (amount (min _ _) a.decimal) (amount (min _ _) b.decimal)
  rw [hlow, units_eq (Nat.le_max_left _ _), units_eq (Nat.le_max_right _ _)]

theorem transCmp_compare : TransCmp Numeral.compare := by
  have heq : Numeral.compare = fun a b => compareGeneral (some a.decimal) (some b.decimal) := by
    funext a b
    exact compare_eq a b
  rw [heq]
  exact transCmp_on transCmp_compareGeneral fun n : Numeral => some n.decimal

end Numeral

end Numbers

theorem transCmp_lineOrder (o : LineOrder) : TransCmp o.compare := by
  have hplain : TransCmp fun a b => { o with reversed := false }.compare a b := by
    unfold LineOrder.compare
    simp only [Bool.false_eq_true, if_false]
    split
    · exact transCmp_on Numeral.transCmp_compare fun cs => (Numeral.read cs).1
    · exact transCmp_on transCmp_compareGeneral generalValue
    · exact transCmp_then (transCmp_on (inferInstanceAs (Std.TransOrd Int)) _)
        (transCmp_on Numeral.transCmp_compare fun cs => (Numeral.read cs).1)
    · exact transCmp_on (inferInstanceAs (Std.TransOrd Nat)) monthRank
    · exact transCmp_on transCmp_compareChars _
  have heq : o.compare = fun a b =>
      if o.reversed then ({ o with reversed := false }.compare a b).swap
      else { o with reversed := false }.compare a b := rfl
  rw [heq]
  split
  · exact transCmp_swap hplain
  · exact hplain

namespace Sorting

variable {s : Sorting} {a b c : List Char} {ls ms : List (List Char)}

theorem transCmp_byKeys (s : Sorting) : TransCmp s.byKeys := by
  unfold byKeys
  split
  · exact transCmp_lineOrder s.order
  · exact transCmp_foldl (fun k => transCmp_on (transCmp_lineOrder _) _) transCmp_equal s.keys

theorem transCmp_compare (s : Sorting) : TransCmp s.compare := by
  refine transCmp_then (transCmp_byKeys s) ?_
  split
  · exact transCmp_equal
  · split
    · exact transCmp_swap transCmp_compareChars
    · exact transCmp_compareChars

theorem compare_trans (h : s.compare a b ≠ .gt) (h' : s.compare b c ≠ .gt) :
    s.compare a c ≠ .gt := by
  have hlines := transCmp_compare s
  exact Ordering.isLE_iff_ne_gt.mp
    (TransCmp.isLE_trans (Ordering.isLE_iff_ne_gt.mpr h) (Ordering.isLE_iff_ne_gt.mpr h'))

theorem compare_of_unique (h : s.unique = true) (a b : List Char) :
    s.compare a b = s.byKeys a b := by
  rw [compare, h, Bool.or_true, if_pos rfl, Ordering.then_eq]

/-- Which lines may stand behind which. Where lines with the same keys are left out, there are none
to stand beside each other. -/
def Precedes (s : Sorting) (a b : List Char) : Prop :=
  if s.unique then s.byKeys a b = .lt else s.compare a b ≠ .gt

theorem precedes_of_unique (h : s.unique = true) : s.Precedes a b ↔ s.byKeys a b = .lt := by
  rw [Precedes, if_pos h]

theorem precedes_of_not_unique (h : s.unique = false) :
    s.Precedes a b ↔ s.compare a b ≠ .gt := by
  rw [Precedes, if_neg (by rw [h]; exact Bool.false_ne_true)]

theorem Precedes.trans (h : s.Precedes a b) (h' : s.Precedes b c) : s.Precedes a c := by
  have hkeys := transCmp_byKeys s
  cases hu : s.unique with
  | true =>
    rw [precedes_of_unique hu] at h h' ⊢
    exact TransCmp.lt_trans h h'
  | false =>
    rw [precedes_of_not_unique hu] at h h' ⊢
    exact compare_trans h h'

theorem Precedes.compare_ne_gt (h : s.Precedes a b) : s.compare a b ≠ .gt := by
  cases hu : s.unique with
  | true =>
    rw [compare_of_unique hu, (precedes_of_unique hu).mp h]
    exact fun he => nomatch he
  | false => exact (precedes_of_not_unique hu).mp h

theorem pairwise_merged (s : Sorting) (ls : List (List Char)) :
    (ls.mergeSort fun a b => s.compare a b != .gt).Pairwise fun a b => s.compare a b ≠ .gt := by
  have hlines := transCmp_compare s
  have htrans : ∀ a b c, (s.compare a b != .gt) = true → (s.compare b c != .gt) = true →
      (s.compare a c != .gt) = true :=
    fun a b c h h' => bne_iff_ne.mpr (compare_trans (bne_iff_ne.mp h) (bne_iff_ne.mp h'))
  have htotal : ∀ a b, (s.compare a b != .gt || s.compare b a != .gt) = true := by
    intro a b
    rw [hlines.eq_swap (a := b)]
    cases s.compare a b <;> rfl
  exact (List.pairwise_mergeSort htrans htotal ls).imp bne_iff_ne.mp

theorem distinct_sublist (s : Sorting) (ls : List (List Char)) : (s.distinct ls).Sublist ls := by
  induction ls with
  | nil => exact .slnil
  | cons l rest ih =>
    rw [distinct]
    split
    · exact List.Sublist.cons_cons l (List.nil_sublist rest)
    · next m more hm =>
      rw [hm] at ih
      split
      · exact ((List.sublist_cons_self m more).trans ih).cons_cons l
      · exact ih.cons_cons l

theorem exists_mem_distinct (s : Sorting) {l : List Char} (h : l ∈ ls) :
    ∃ m ∈ s.distinct ls, s.byKeys l m = .eq := by
  have hkeys := transCmp_byKeys s
  induction ls with
  | nil => cases h
  | cons first rest ih =>
    have hfirst : first ∈ s.distinct (first :: rest) := by
      rw [distinct]
      split
      · exact List.mem_cons_self
      · split <;> exact List.mem_cons_self
    rcases List.mem_cons.mp h with rfl | h
    · exact ⟨l, hfirst, Std.ReflCmp.compare_self⟩
    · obtain ⟨x, hx, he⟩ := ih h
      by_cases hsame : s.byKeys first x = .eq
      · exact ⟨first, hfirst, TransCmp.eq_trans he (OrientedCmp.eq_comm.mp hsame)⟩
      · refine ⟨x, ?_, he⟩
        rw [distinct]
        split
        · next hnil =>
          rw [hnil] at hx
          cases hx
        · next m more hm =>
          rw [hm] at hx
          split
          · next hsame' =>
            rcases List.mem_cons.mp hx with rfl | hx
            · exact absurd hsame' hsame
            · exact List.mem_cons_of_mem first hx
          · exact List.mem_cons_of_mem first hx

theorem pairwise_distinct (h : ls.Pairwise fun a b => s.byKeys a b ≠ .gt) :
    (s.distinct ls).Pairwise fun a b => s.byKeys a b = .lt := by
  have hkeys := transCmp_byKeys s
  induction ls with
  | nil => exact .nil
  | cons first rest ih =>
    obtain ⟨hfirst, hrest⟩ := List.pairwise_cons.mp h
    have hsub := distinct_sublist s rest
    have hlater := ih hrest
    rw [distinct]
    split
    · exact List.pairwise_singleton _ first
    · next m more hm =>
      rw [hm] at hsub hlater
      obtain ⟨hm, hmore⟩ := List.pairwise_cons.mp hlater
      split
      · next hsame =>
        refine List.pairwise_cons.mpr ⟨fun x hx => ?_, hmore⟩
        exact TransCmp.lt_of_eq_of_lt hsame (hm x hx)
      · next hother =>
        have hlt : s.byKeys first m = .lt := by
          have hne := hfirst m (hsub.subset List.mem_cons_self)
          cases he : s.byKeys first m with
          | lt => rfl
          | eq => exact absurd he hother
          | gt => exact absurd he hne
        refine List.pairwise_cons.mpr ⟨fun x hx => ?_, hlater⟩
        rcases List.mem_cons.mp hx with rfl | hx
        · exact hlt
        · exact TransCmp.lt_trans hlt (hm x hx)

theorem distinct_of_pairwise (h : ls.Pairwise fun a b => s.byKeys a b = .lt) :
    s.distinct ls = ls := by
  induction ls with
  | nil => rfl
  | cons first rest ih =>
    obtain ⟨hfirst, hrest⟩ := List.pairwise_cons.mp h
    rw [distinct, ih hrest]
    cases rest with
    | nil => rfl
    | cons m more =>
      have hother : s.byKeys first m ≠ .eq := by
        rw [hfirst m List.mem_cons_self]
        exact fun he => nomatch he
      exact if_neg hother

/-- Sorting puts lines in order, in whatever way they are compared. -/
theorem pairwise_sorted (s : Sorting) (ls : List (List Char)) :
    (s.sorted ls).Pairwise s.Precedes := by
  have hmerged := pairwise_merged s ls
  rw [sorted]
  split
  · next hu =>
    simp only [compare_of_unique hu] at hmerged ⊢
    exact (pairwise_distinct hmerged).imp (precedes_of_unique hu).mpr
  · next hu =>
    exact hmerged.imp (precedes_of_not_unique (Bool.not_eq_true _ ▸ hu)).mpr

theorem perm_sorted (h : s.unique = false) (ls : List (List Char)) : (s.sorted ls).Perm ls := by
  rw [sorted, h, if_neg Bool.false_ne_true]
  exact List.mergeSort_perm ls _

/-- No line is left out but for one with the same keys. -/
theorem exists_mem_sorted (s : Sorting) {l : List Char} (h : l ∈ ls) :
    ∃ m ∈ s.sorted ls, s.byKeys l m = .eq := by
  have hkeys := transCmp_byKeys s
  have hmerged : l ∈ ls.mergeSort fun a b => s.compare a b != .gt := List.mem_mergeSort.mpr h
  rw [sorted]
  split
  · exact exists_mem_distinct s hmerged
  · exact ⟨l, hmerged, Std.ReflCmp.compare_self⟩

/-- Lines that are in order stay as they are. -/
theorem sorted_eq_self_iff : s.sorted ls = ls ↔ ls.Pairwise s.Precedes := by
  constructor
  · intro h
    rw [← h]
    exact pairwise_sorted s ls
  · intro h
    have hmerged : (ls.mergeSort fun a b => s.compare a b != .gt) = ls :=
      List.mergeSort_of_pairwise (h.imp fun hp => bne_iff_ne.mpr hp.compare_ne_gt)
    rw [sorted, hmerged]
    split
    · next hu => exact distinct_of_pairwise (h.imp (precedes_of_unique hu).mp)
    · rfl

/-- A check for disorder says nothing exactly where sorting changes nothing. -/
theorem disorder?_eq_none_iff (n : Nat) : s.disorder? n ls = none ↔ s.sorted ls = ls := by
  have hwrong : ∀ a b, (if s.unique then s.byKeys a b != .lt else s.compare a b = .gt) = true ↔
      ¬ s.Precedes a b := by
    intro a b
    cases hu : s.unique with
    | true => simp [precedes_of_unique hu]
    | false => simp [precedes_of_not_unique hu]
  have htrans : Trans s.Precedes s.Precedes s.Precedes := ⟨Precedes.trans⟩
  rw [sorted_eq_self_iff, ← List.isChain_iff_pairwise]
  fun_induction s.disorder? n ls with
  | case1 n a b rest wrong h =>
    refine iff_of_false (fun hn => nomatch hn) fun hchain => ?_
    exact (hwrong a b).mp h (List.isChain_cons_cons.mp hchain).1
  | case2 n a b rest wrong h ih =>
    rw [List.isChain_cons_cons]
    refine Iff.trans ih ?_
    exact (and_iff_right (Classical.not_not.mp (mt (hwrong a b).mpr h))).symm
  | case3 ls n h =>
    match ls with
    | [] => exact iff_of_true rfl .nil
    | [a] => exact iff_of_true rfl (.singleton a)
    | a :: b :: rest => exact absurd rfl (h a b rest)

/-- Unless lines with the same keys are to stay in turn, it does not matter in what order they
come. -/
theorem sorted_eq_of_perm (hu : s.unique = false) (hs : s.stable = false) (h : ls.Perm ms) :
    s.sorted ls = s.sorted ms := by
  have hlines := transCmp_compare s
  refine List.Perm.eq_of_pairwise (fun a b _ _ hab hba => ?_) (pairwise_sorted s ls)
    (pairwise_sorted s ms) ((perm_sorted hu ls).trans (h.trans (perm_sorted hu ms).symm))
  have heq : s.compare a b = .eq :=
    OrientedCmp.isLE_antisymm (Ordering.isLE_iff_ne_gt.mpr hab.compare_ne_gt)
      (Ordering.isLE_iff_ne_gt.mpr hba.compare_ne_gt)
  have hchars := (Ordering.then_eq_eq.mp heq).2
  rw [hu, hs, Bool.or_false, if_neg Bool.false_ne_true] at hchars
  split at hchars
  · exact compareChars_eq_eq_iff.mp (Ordering.swap_eq_eq.mp hchars)
  · exact compareChars_eq_eq_iff.mp hchars

end Sorting

end Disasm.Host.Utility
