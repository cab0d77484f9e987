import Disasm.Proofs.Expressions

namespace Disasm.Host.Regex

section Attempts

variable {s : Subject} {e : Regex} {next : Nat → Groups → Option Groups} {p q : Nat}
  {groups found : Groups}

/-- Groups that have covered something between two positions. -/
def Inside (p q : Nat) (groups : Groups) : Prop :=
  ∀ g ∈ groups, p ≤ g.2.1 ∧ g.2.1 ≤ g.2.2 ∧ g.2.2 ≤ q

theorem inside_nil : Inside p q [] :=
  fun _ hg => absurd hg List.not_mem_nil

theorem Inside.append {r : Nat} {groups more : Groups} (h : Inside p r groups)
    (h' : Inside r q more) (hp : p ≤ r) (hq : r ≤ q) : Inside p q (more ++ groups) := by
  intro g hg
  rcases List.mem_append.mp hg with hg | hg
  · obtain ⟨hl, hm, hh⟩ := h' g hg
    exact ⟨Nat.le_trans hp hl, hm, hh⟩
  · obtain ⟨hl, hm, hh⟩ := h g hg
    exact ⟨hl, hm, Nat.le_trans hh hq⟩

/-- What a way to match has come to: a match with groups in it, and then what follows. -/
def Reached (R : Nat → Nat → Prop) (next : Nat → Groups → Option Groups) (p : Nat)
    (groups found : Groups) : Prop :=
  ∃ q more, R p q ∧ Inside p q more ∧ next q (more ++ groups) = some found

/-- Whatever follows, a step comes to a match and then to what follows. -/
def Sound (R : Nat → Nat → Prop)
    (step : (Nat → Groups → Option Groups) → Nat → Groups → Option Groups) : Prop :=
  ∀ ⦃next p groups found⦄, step next p groups = some found → Reached R next p groups found

theorem reached_tryMany {R : Nat → Nat → Prop} {limit : Nat}
    {step : (Nat → Groups → Option Groups) → Nat → Groups → Option Groups}
    (hs : Sound R step) (hf : Forward R limit) {least fuel count : Nat} {most : Option Nat}
    (hc : least ≤ count + fuel) (hm : ∀ m ∈ most, count ≤ max least m)
    (h : tryMany step least most next fuel count p groups = some found) :
    Reached (fun p q => ∃ n, least ≤ count + n ∧ (∀ m ∈ most, count + n ≤ max least m) ∧
      Times R n p q) next p groups found := by
  induction fuel generalizing count p groups with
  | zero => exact ⟨p, [], ⟨0, hc, hm, rfl⟩, inside_nil, h⟩
  | succ fuel ih =>
    rw [tryMany] at h
    split at h
    · next hmore =>
      cases h
      split at hmore
      · next hall =>
        obtain ⟨r, more, hr, hinside, htried⟩ := hs hmore
        dsimp only at htried
        split at htried
        · cases htried
        · have hmost : ∀ m ∈ most, count + 1 ≤ max least m := by
            rintro m rfl
            have hlt : count < m := by simpa using hall
            omega
          obtain ⟨q, later, ⟨n, hl, hn, ht⟩, hinside', hfound⟩ :=
            ih (by omega) hmost htried
          refine ⟨q, later ++ more, ⟨n + 1, by omega, fun m hm => ?_, r, hr, ht⟩,
            hinside.append hinside' (hf.le hr) (ht.forward hf).1, ?_⟩
          · have hbound := hn m hm
            omega
          · rw [List.append_assoc]
            exact hfound
      · cases hmore
    · split at h
      · next hl => exact ⟨p, [], ⟨0, hl, hm, rfl⟩, inside_nil, h⟩
      · cases h

theorem attempt_of_single (h : e.single = true) :
    attempt s e next p groups =
      if (s.text[p]?).any (coversChar s e) then next (p + 1) groups else none := by
  cases e with
  | char c => rfl
  | oneOf inverted items => rfl
  | any =>
    rw [attempt]
    exact if_congr any_covers.symm rfl rfl
  | _ => cases h

theorem sound_of_single (h : e.single = true) : Sound (Touches s e) (attempt s e) := by
  intro next p groups found hf
  rw [attempt_of_single h] at hf
  split at hf
  · next ht => exact ⟨p + 1, [], (touches_of_single h).mpr ⟨ht, rfl⟩, inside_nil, hf⟩
  · cases hf

theorem sound_of_not_single (h : e.single = false)
    (ha : ∀ next p groups, attempt s e next p groups =
      if holdsAt s p e then next p groups else none) : Sound (Touches s e) (attempt s e) := by
  intro next p groups found hf
  rw [ha] at hf
  split at hf
  · next ht => exact ⟨p, [], (touches_of_not_single h).mpr ⟨ht, rfl⟩, inside_nil, hf⟩
  · cases hf

/-- What is tried comes to a match, and the groups that it leaves lie inside. -/
theorem sound_attempt (e : Regex) (h : e.refersBack = false) :
    Sound (e.Matches s) (attempt s e) := by
  induction e with
  | seq a b iha ihb =>
    obtain ⟨ha, hb⟩ := Bool.or_eq_false_iff.mp h
    intro next p groups found hf
    obtain ⟨r, more, hr, hinside, hrest⟩ := iha ha hf
    obtain ⟨q, later, hq, hinside', hfound⟩ := ihb hb hrest
    refine ⟨q, later ++ more, ⟨r, hr, hq⟩,
      hinside.append hinside' ((forward_matches a).le hr) ((forward_matches b).le hq), ?_⟩
    rw [List.append_assoc]
    exact hfound
  | alt a b iha ihb =>
    obtain ⟨ha, hb⟩ := Bool.or_eq_false_iff.mp h
    intro next p groups found hf
    rw [attempt] at hf
    dsimp only at hf
    split at hf
    · next hfirst =>
      cases hf
      obtain ⟨q, more, hq, hrest⟩ := iha ha hfirst
      exact ⟨q, more, .inl hq, hrest⟩
    · obtain ⟨q, more, hq, hrest⟩ := ihb hb hf
      exact ⟨q, more, .inr hq, hrest⟩
  | group n e ih =>
    intro next p groups found hf
    obtain ⟨q, more, hq, hinside, hfound⟩ := ih h hf
    have hle := (forward_matches e).le hq
    exact ⟨q, (n, p, q) :: more, hq,
      List.forall_mem_cons.mpr ⟨⟨Nat.le_refl p, hle, Nat.le_refl q⟩, hinside⟩, hfound⟩
  | many e least most ih =>
    intro next p groups found hf
    obtain ⟨q, more, ⟨n, hl, hn, ht⟩, hrest⟩ :=
      reached_tryMany (ih h) (forward_matches e) (by omega) (fun _ _ => Nat.zero_le _) hf
    rw [Nat.zero_add] at hl hn
    exact ⟨q, more, ⟨n, hl, hn, ht⟩, hrest⟩
  | back n => cases h
  | char c => exact sound_of_single rfl
  | any => exact sound_of_single rfl
  | oneOf inverted items => exact sound_of_single rfl
  | _ => exact sound_of_not_single rfl fun _ _ _ => rfl

/-- Where there is a match that can go on, a step finds a way. -/
def Complete (R : Nat → Nat → Prop)
    (step : (Nat → Groups → Option Groups) → Nat → Groups → Option Groups) : Prop :=
  ∀ ⦃next p q⦄, R p q → (∀ groups, (next q groups).isSome = true) →
    ∀ groups, (step next p groups).isSome = true

section Repetitions

variable {R : Nat → Nat → Prop} {least fuel count n k r : Nat} {most : Option Nat}
  {step : (Nat → Groups → Option Groups) → Nat → Groups → Option Groups}

theorem isSome_tryMany_of_next (hl : least ≤ count) (h : (next p groups).isSome = true) :
    (tryMany step least most next fuel count p groups).isSome = true := by
  cases fuel with
  | zero => exact h
  | succ fuel =>
    rw [tryMany]
    split
    · rfl
    · rwa [if_pos hl]

theorem isSome_tryMany_of_step (hm : ∀ m ∈ most, count < m)
    (h : (step (fun q groups =>
      if q = p && least ≤ count then none
      else tryMany step least most next fuel (count + 1) q groups) p groups).isSome = true) :
    (tryMany step least most next (fuel + 1) count p groups).isSome = true := by
  have hall : most.all (count < ·) = true := by
    cases most with
    | none => rfl
    | some m => exact decide_eq_true (hm m rfl)
  rw [tryMany, if_pos hall]
  split
  · rfl
  · next hnone =>
    rw [hnone] at h
    cases h

/-- Behind the least number of repetitions, only those count that go on. -/
theorem isSome_tryMany_of_moves (hs : Complete R step) (hl : least ≤ count)
    (ht : Times (Moves R) k p q) (hk : k ≤ fuel) (hm : ∀ m ∈ most, count + k ≤ m)
    (hn : ∀ groups, (next q groups).isSome = true) (groups : Groups) :
    (tryMany step least most next fuel count p groups).isSome = true := by
  induction k generalizing fuel count p groups with
  | zero =>
    cases ht
    exact isSome_tryMany_of_next hl (hn groups)
  | succ k ih =>
    obtain ⟨r, ⟨hr, hne⟩, ht⟩ := ht
    obtain ⟨fuel, rfl⟩ := Nat.exists_eq_add_of_le' (Nat.le_trans (Nat.le_add_left 1 k) hk)
    refine isSome_tryMany_of_step (fun m hmem => ?_) (hs hr (fun groups => ?_) groups)
    · have hbound := hm m hmem
      omega
    · rw [decide_eq_false hne, Bool.false_and, if_neg Bool.false_ne_true]
      refine ih (Nat.le_succ_of_le hl) ht (Nat.le_of_succ_le_succ hk) (fun m hmem => ?_) groups
      have hbound := hm m hmem
      omega

theorem isSome_tryMany (hs : Complete R step) (hc : count + n = least) (hr : Times R n p r)
    (ht : Times (Moves R) k r q) (hf : n + k ≤ fuel) (hm : ∀ m ∈ most, least + k ≤ m)
    (hn : ∀ groups, (next q groups).isSome = true) (groups : Groups) :
    (tryMany step least most next fuel count p groups).isSome = true := by
  induction n generalizing fuel count p groups with
  | zero =>
    cases hr
    rw [Nat.add_zero] at hc
    rw [Nat.zero_add] at hf
    rw [← hc] at hm
    exact isSome_tryMany_of_moves hs (Nat.le_of_eq hc.symm) ht hf hm hn groups
  | succ n ih =>
    obtain ⟨t, ht', hr⟩ := hr
    obtain ⟨fuel, rfl⟩ := Nat.exists_eq_add_of_le' (show 1 ≤ fuel by omega)
    refine isSome_tryMany_of_step (fun m hmem => ?_) (hs ht' (fun groups => ?_) groups)
    · have hbound := hm m hmem
      omega
    · rw [decide_eq_false (show ¬ least ≤ count by omega), Bool.and_false,
        if_neg Bool.false_ne_true]
      exact ih (by omega) hr (by omega) groups

end Repetitions

/-- No greatest number of repetitions is below the least one. -/
def Bounded : Regex → Prop
  | .seq a b | .alt a b => a.Bounded ∧ b.Bounded
  | .group _ e => e.Bounded
  | .many e least most => (∀ m ∈ most, least ≤ m) ∧ e.Bounded
  | _ => True

theorem complete_of_single (h : e.single = true) : Complete (Touches s e) (attempt s e) := by
  intro next p q ht hn groups
  obtain ⟨hc, rfl⟩ := (touches_of_single h).mp ht
  rw [attempt_of_single h, if_pos hc]
  exact hn groups

theorem complete_of_not_single (h : e.single = false)
    (ha : ∀ next p groups, attempt s e next p groups =
      if holdsAt s p e then next p groups else none) : Complete (Touches s e) (attempt s e) := by
  intro next p q ht hn groups
  obtain ⟨hh, rfl⟩ := (touches_of_not_single h).mp ht
  rw [ha, if_pos hh]
  exact hn groups

theorem complete_many {least : Nat} {most : Option Nat}
    (ih : Complete (e.Matches s) (attempt s e)) (hb : ∀ m ∈ most, least ≤ m) :
    Complete ((many e least most).Matches s) (attempt s (.many e least most)) := by
  rintro next p q ⟨n, hl, hm, ht⟩ hn groups
  obtain ⟨k, rfl⟩ := Nat.exists_eq_add_of_le hl
  obtain ⟨r, hr, hq⟩ := ht.split
  obtain ⟨j, hj, hlen, hmoves⟩ := hq.shorten (forward_matches e)
  have hlimit := (hq.forward (forward_matches e)).2
  refine isSome_tryMany ih (Nat.zero_add least) hr hmoves (by omega) (fun m hmem => ?_) hn groups
  have hbound := hm m hmem
  have hleast := hb m hmem
  omega

/-- Every match is found by trying. -/
theorem complete_attempt (e : Regex) (h : e.refersBack = false) (hb : e.Bounded) :
    Complete (e.Matches s) (attempt s e) := by
  induction e with
  | seq a b iha ihb =>
    obtain ⟨ha, hb'⟩ := Bool.or_eq_false_iff.mp h
    rintro next p q ⟨r, hr, hq⟩ hn groups
    exact iha ha hb.1 hr (ihb hb' hb.2 hq hn) groups
  | alt a b iha ihb =>
    obtain ⟨ha, hb'⟩ := Bool.or_eq_false_iff.mp h
    intro next p q hm hn groups
    rw [attempt]
    dsimp only
    split
    · rfl
    · next hnone =>
      rcases hm with hm | hm
      · have hsome := iha ha hb.1 hm hn groups
        rw [hnone] at hsome
        cases hsome
      · exact ihb hb' hb.2 hm hn groups
  | group n e ih =>
    intro next p q hm hn groups
    exact ih h hb hm (fun more => hn ((n, p, q) :: more)) groups
  | many e least most ih => exact complete_many (ih h hb.2) hb.1
  | back n => cases h
  | char c => exact complete_of_single rfl
  | any => exact complete_of_single rfl
  | oneOf inverted items => exact complete_of_single rfl
  | _ => exact complete_of_not_single rfl fun _ _ _ => rfl

/-- What trying finds of a match between two positions is the groups in it. -/
theorem isSome_attempt_iff (h : e.refersBack = false) (hb : e.Bounded) :
    (attempt s e (fun r groups => if r = q then some groups else none) p []).isSome = true ↔
      e.Matches s p q := by
  constructor
  · intro hs
    obtain ⟨found, hf⟩ := Option.isSome_iff_exists.mp hs
    obtain ⟨r, more, hr, -, hfound⟩ := sound_attempt e h hf
    dsimp only at hfound
    split at hfound
    · next he => exact he ▸ hr
    · cases hfound
  · intro hm
    exact complete_attempt e h hb hm (fun groups => by rw [if_pos rfl]; rfl) []

/-- The groups of a match that is found are groups that a way to match has left, and they lie in
the match. -/
theorem search_groups {start : Nat} {f : Found} (h : e.refersBack = false) (hb : e.Bounded)
    (hf : search s e start true = some f) :
    attempt s e (fun r groups => if r = f.last then some groups else none) f.first [] =
        some f.groups ∧ Inside f.first f.last f.groups := by
  obtain ⟨-, hlast, -, hgroups⟩ := find?_eq_some hf
  have hcovered := ((longest?_eq_some_iff h).mp hlast).1
  obtain ⟨found, hfound⟩ := Option.isSome_iff_exists.mp ((isSome_attempt_iff h hb).mpr hcovered)
  rw [if_pos rfl, hfound, Option.getD_some] at hgroups
  obtain ⟨r, more, -, hinside, hmore⟩ := sound_attempt e h hfound
  dsimp only at hmore
  split at hmore
  · next he =>
    rw [List.append_nil] at hmore
    cases hmore
    rw [hgroups]
    exact ⟨hfound, he ▸ hinside⟩
  · cases hmore

end Attempts

section Read

variable {α β : Type} {P : β → Prop} {Q : α → Prop} {m : Reading α} {f : α → Reading β}
  {style : Style} {fuel : Nat} {message : String}

/-- What is read has a property, wherever the reading starts. -/
def Gives (P : α → Prop) (m : Reading α) : Prop :=
  ∀ ⦃s a s'⦄, m s = .ok (a, s') → P a

theorem gives_pure {b : β} (h : P b) : Gives P (pure b) := by
  rintro s _ s' hb
  cases hb
  exact h

theorem gives_throw : Gives P (throw message) := by
  rintro s b s' hb
  cases hb

theorem gives_throw_bind : Gives P ((throw message : Reading α) >>= f) := by
  rintro s b s' hb
  cases hb

theorem Gives.bind (hm : Gives Q m) (hf : ∀ a, Q a → Gives P (f a)) : Gives P (m >>= f) := by
  intro s b s' hb
  change (m s).bind (fun r => f r.1 r.2) = _ at hb
  cases ha : m s with
  | error e =>
    rw [ha] at hb
    cases hb
  | ok r =>
    rw [ha] at hb
    exact hf r.1 (hm ha) hb

theorem gives_bind (hf : ∀ a, Gives P (f a)) : Gives P (m >>= f) :=
  Gives.bind (Q := fun _ => True) (fun _ _ _ _ => trivial) fun a _ => hf a

theorem gives_set : Gives Bounded (set style) := by
  refine gives_bind fun s => ?_
  dsimp only
  split
  · exact gives_throw
  · exact gives_throw
  · exact gives_bind fun _ => gives_bind fun _ => gives_pure trivial
  · exact gives_bind fun _ => gives_pure trivial

theorem bounded_escape? {c : Char} {e : Regex} (h : escape? c = some e) : e.Bounded := by
  unfold escape? at h
  split at h
  all_goals cases h
  all_goals trivial

/-- The readers of expressions, each with so much fuel. -/
structure Reads (style : Style) (fuel : Nat) : Prop where
  alternatives : Gives Bounded (alternatives style fuel)
  branch : ∀ {done first}, Bounded done → Gives Bounded (branch style done first fuel)
  repeated : ∀ {a}, Bounded a → Gives Bounded (repeated style a fuel)
  atom : ∀ first, Gives Bounded (atom style first fuel)
  grouped : Gives Bounded (grouped style fuel)

theorem Reads.alternatives_succ (h : Reads style fuel) :
    Gives Bounded (Regex.alternatives style (fuel + 1)) := by
  rw [Regex.alternatives]
  refine (h.branch (show Bounded .empty from trivial)).bind fun a ha => gives_bind fun s => ?_
  split
  · exact gives_bind fun _ => h.alternatives.bind fun b hb => gives_pure ⟨ha, hb⟩
  · exact gives_bind fun _ => h.alternatives.bind fun b hb => gives_pure ⟨ha, hb⟩
  · exact gives_pure ha

theorem Reads.branch_succ (h : Reads style fuel) {done : Regex} {first : Bool}
    (hd : done.Bounded) : Gives Bounded (Regex.branch style done first (fuel + 1)) := by
  rw [Regex.branch]
  refine gives_bind fun s => ?_
  split
  · exact gives_pure hd
  · refine (h.atom first).bind fun a ha => (h.repeated ha).bind fun a ha => h.branch ?_
    split
    · exact ha
    · exact ⟨hd, ha⟩

theorem Reads.repeated_succ (h : Reads style fuel) {a : Regex} (ha : a.Bounded) :
    Gives Bounded (Regex.repeated style a (fuel + 1)) := by
  unfold Regex.repeated
  split
  · exact gives_pure ha
  · refine gives_bind fun s => ?_
    dsimp only
    split
    · next least most rest _ =>
      split
      · exact gives_throw_bind
      · next hbounds =>
        have hle : ∀ m ∈ most, least ≤ m := by
          rintro m rfl
          simpa using hbounds
        split
        · exact gives_throw_bind
        · exact gives_bind fun _ => h.repeated ⟨hle, ha⟩
    · split
      · exact gives_throw
      · exact gives_pure ha

theorem Reads.atom_succ (h : Reads style fuel) (first : Bool) :
    Gives Bounded (Regex.atom style first (fuel + 1)) := by
  rw [Regex.atom]
  refine gives_bind fun s => ?_
  split
  · exact gives_pure trivial
  · exact gives_bind fun _ => gives_set
  · exact gives_bind fun _ => gives_pure trivial
  · exact gives_throw
  · refine gives_bind fun _ => ?_
    split
    · exact h.grouped
    split
    · exact gives_throw
    split
    · dsimp only
      split
      · exact gives_throw_bind
      · exact gives_pure trivial
    split
    · next he => exact gives_pure (bounded_escape? he)
    · exact gives_pure trivial
  · refine gives_bind fun _ => ?_
    split
    · exact h.grouped
    · exact gives_pure trivial
  · refine gives_bind fun _ => gives_pure ?_
    split <;> trivial
  · refine gives_bind fun _ => gives_pure ?_
    split <;> trivial
  · refine gives_bind fun _ => ?_
    split
    · exact gives_pure trivial
    · exact gives_pure trivial

theorem Reads.grouped_succ (h : Reads style fuel) :
    Gives Bounded (Regex.grouped style (fuel + 1)) := by
  rw [Regex.grouped]
  refine gives_bind fun s => gives_bind fun _ => h.alternatives.bind fun e he =>
    gives_bind fun _ => gives_bind fun s => ?_
  split
  · exact gives_bind fun _ => gives_pure he
  · exact gives_bind fun _ => gives_pure he
  · exact gives_throw

theorem reads (style : Style) (fuel : Nat) : Reads style fuel := by
  induction fuel with
  | zero => exact ⟨gives_throw, fun _ => gives_throw, fun _ => gives_throw, fun _ => gives_throw,
      gives_throw⟩
  | succ fuel ih =>
    exact ⟨ih.alternatives_succ, ih.branch_succ, ih.repeated_succ, ih.atom_succ, ih.grouped_succ⟩

/-- Bounds the wrong way round are refused where an expression is read. -/
theorem bounded_of_ofText {cs : List Char} {e : Regex} (h : ofText style cs = .ok e) :
    e.Bounded := by
  unfold ofText at h
  cases hr : (alternatives style (8 * cs.length + 16)).run ⟨cs, 0, 0⟩ with
  | error message =>
    rw [hr] at h
    cases h
  | ok r =>
    rw [hr] at h
    change (if r.2.rest.isEmpty then pure r.1 else throw _) = _ at h
    split at h
    · cases h
      exact (reads style _).alternatives hr
    · cases h

end Read

end Disasm.Host.Regex
