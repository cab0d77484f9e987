import Disasm.CommandLine.Parse

namespace Disasm.CommandLine

variable {α : Type} (g : Grammar α) (args : List String)

/-- A setting and its place, as a grammar can give them for some arguments. -/
inductive Gives : Given α → Prop
  | operand {value : String} {setting : α} (hv : value ∈ args)
      (hr : g.operand.read value = .ok setting) : Gives ⟨g.operand.usage, setting⟩
  | value {o : Opt α} {slot : Slot α} {value : String} {setting : α} (ho : o ∈ g.options)
      (ht : o.takes = .value slot) (hr : slot.read value = .ok setting) :
      Gives ⟨o.usage, setting⟩
  | flag {o : Opt α} {setting : α} (ho : o ∈ g.options)
      (ht : o.takes = .nothing setting ∨ o.takes = .tally setting) : Gives ⟨o.usage, setting⟩

inductive Awaits : Pending α → Prop
  | operand {value : String} (hv : value ∈ args) : Awaits ⟨g.operand.usage, g.operand, some value⟩
  | value {o : Opt α} {slot : Slot α} {value : Option String} (ho : o ∈ g.options)
      (ht : o.takes = .value slot) : Awaits ⟨o.usage, slot, value⟩

/-- Nothing has been given, or will be, that is not the grammar's. -/
structure Progress.Sound (p : Progress α) : Prop where
  gives : ∀ x ∈ p.given, Gives g args x
  awaits : ∀ v ∈ p.pending, Awaits g args v

variable {g args}

theorem Awaits.gives {v : Pending α} {value : String} {setting : α} (h : Awaits g args v)
    (hv : v.value = some value) (hr : v.slot.read value = .ok setting) :
    Gives g args ⟨v.place, setting⟩ := by
  cases h with
  | operand hmem =>
    cases hv
    exact .operand hmem hr
  | value ho ht => exact .value ho ht hr

namespace Progress

variable {p q : Progress α}

theorem Sound.start : Sound g args {} :=
  ⟨fun _ hx => absurd hx List.not_mem_nil, fun _ hv => nomatch hv⟩

theorem Sound.add {place : String} {setting : α} (h : Sound g args p)
    (hx : Gives g args ⟨place, setting⟩) : Sound g args (p.add place setting) := by
  refine ⟨fun x hmem => ?_, h.awaits⟩
  rcases List.mem_append.mp hmem with hmem | hmem
  · exact h.gives x hmem
  · rw [List.mem_singleton.mp hmem]
    exact hx

theorem Sound.await {v : Pending α} (h : Sound g args p) (hv : Awaits g args v) :
    Sound g args { p with pending := some v } := by
  refine ⟨h.gives, fun w hw => ?_⟩
  cases hw
  exact hv

theorem Sound.take {v : Pending α} (h : Sound g args p) (hv : Awaits g args v)
    (ht : p.take v = .ok q) : Sound g args q := by
  unfold Progress.take at ht
  split at ht
  · cases ht
  · next value hvalue =>
    split at ht
    · cases ht
    · split at ht
      · next setting hr =>
        cases ht
        exact h.add (hv.gives hvalue hr)
      all_goals cases ht

theorem Sound.flush (h : Sound g args p) (hf : p.flush = .ok q) : Sound g args q := by
  unfold Progress.flush at hf
  split at hf
  · cases hf
    exact h
  · next v hv =>
    have hcleared : Sound g args { p with pending := none } := ⟨h.gives, fun _ hw => nomatch hw⟩
    exact hcleared.take (h.awaits v hv) hf

theorem Sound.mark {place : String} {once : Bool} {setting : α} (h : Sound g args p)
    (hx : Gives g args ⟨place, setting⟩) (hm : p.mark place once setting = .ok q) :
    Sound g args q := by
  unfold Progress.mark at hm
  split at hm
  · cases hm
  · next hf =>
    split at hm
    · cases hm
    · cases hm
      exact (h.flush hf).add hx

theorem Sound.expect {o : Opt α} {slot : Slot α} {attached : Option String} (h : Sound g args p)
    (ho : o ∈ g.options) (ht : o.takes = .value slot)
    (he : p.expect o.usage slot attached = .ok q) : Sound g args q := by
  unfold Progress.expect at he
  split at he
  · cases he
  · next hf =>
    split at he
    · cases he
      exact (h.flush hf).await (.value ho ht)
    · exact (h.flush hf).take (.value ho ht) he

theorem stopOn_eq_ok {β : Type} {r : Except UsageError β} {b : β} :
    stopOn r = .ok b ↔ r = .ok b := by
  cases r with
  | ok => simp [stopOn]
  | error => simp [stopOn]

theorem Sound.long {name : String} {attached : Option String} (h : Sound g args p)
    (hl : p.long g name attached = .ok q) : Sound g args q := by
  unfold Progress.long at hl
  split at hl
  · cases hl
  · next o hfind =>
    have ho : o ∈ g.options := List.mem_of_find?_eq_some hfind
    split at hl
    · next ht => exact h.expect ho ht (stopOn_eq_ok.mp hl)
    · cases hl
    · next ht => exact h.mark (.flag ho (.inl ht)) (stopOn_eq_ok.mp hl)
    · next ht => exact h.mark (.flag ho (.inr ht)) (stopOn_eq_ok.mp hl)
    · cases hl

theorem Sound.letters {cluster : List Char} (h : Sound g args p)
    (hl : p.letters g cluster = .ok q) : Sound g args q := by
  induction cluster generalizing p with
  | nil =>
    cases hl
    exact h
  | cons c rest ih =>
    unfold Progress.letters at hl
    split at hl
    · cases hl
    · next o hfind =>
      have ho : o ∈ g.options := List.mem_of_find?_eq_some hfind
      split at hl
      · next ht => exact h.expect ho ht (stopOn_eq_ok.mp hl)
      · cases hl
      · next ht =>
        split at hl
        · cases hl
        · next hm => exact ih (h.mark (.flag ho (.inl ht)) hm) hl
      · next ht =>
        split at hl
        · cases hl
        · next hm => exact ih (h.mark (.flag ho (.inr ht)) hm) hl

theorem Sound.operand {argument : String} (h : Sound g args p) (ha : argument ∈ args)
    (ho : p.operand g argument = .ok q) : Sound g args q := by
  unfold Progress.operand at ho
  split at ho
  · cases ho
  · split at ho
    · cases ho
    · next hf =>
      cases ho
      have hawait := (h.flush hf).await (Awaits.operand ha)
      exact ⟨hawait.gives, hawait.awaits⟩

theorem Sound.plain {argument : String} (h : Sound g args p) (ha : argument ∈ args)
    (hp : p.plain g argument = .ok q) : Sound g args q := by
  unfold Progress.plain at hp
  split at hp
  · next place slot hpending =>
    cases hp
    -- only an option waits without a value
    cases h.awaits _ hpending with
    | value ho ht => exact h.await (.value ho ht)
  · exact h.operand ha hp

theorem Sound.operands {rest : List String} (h : Sound g args p) (hr : ∀ a ∈ rest, a ∈ args)
    (ho : p.operands g rest = .ok q) : Sound g args q := by
  induction rest generalizing p with
  | nil => exact h.flush (stopOn_eq_ok.mp ho)
  | cons argument rest ih =>
    unfold Progress.operands at ho
    split at ho
    · cases ho
    · next hmeet =>
      refine ih (h.operand (hr _ List.mem_cons_self) hmeet) ?_ ho
      exact fun a ha => hr a (List.mem_cons_of_mem argument ha)

theorem Sound.arguments {rest : List String} (h : Sound g args p) (hr : ∀ a ∈ rest, a ∈ args)
    (ha : p.arguments g rest = .ok q) : Sound g args q := by
  induction rest generalizing p with
  | nil => exact h.flush (stopOn_eq_ok.mp ha)
  | cons argument rest ih =>
    have hrest : ∀ a ∈ rest, a ∈ args := fun a ha => hr a (List.mem_cons_of_mem argument ha)
    unfold Progress.arguments at ha
    split at ha
    · exact h.operands hrest ha
    · split at ha
      · cases ha
      · next hmeet => exact ih (h.long hmeet) hrest ha
    · split at ha
      · cases ha
      · next hmeet => exact ih (h.letters hmeet) hrest ha
    · split at ha
      · cases ha
      · next hmeet => exact ih (h.plain (hr _ List.mem_cons_self) hmeet) hrest ha

end Progress

theorem Opt.usage_ne (o : Opt α) (s : Slot α) : o.usage ≠ s.usage := by
  intro h
  have hhead := congrArg (fun u => u.toList.head?) h
  simp [Opt.usage, Slot.usage] at hhead

namespace Grammar

variable {settings : List α}

/-- What an accepted command line gives is the grammar's, and has a place for the operand. -/
theorem gives_of_parse (h : g.parse args = .ok settings) :
    ∃ given : List (Given α), settings = given.map Given.setting ∧
      (∀ x ∈ given, Gives g args x) ∧ ∃ x ∈ given, x.place = g.operand.usage := by
  unfold parse at h
  split at h
  · cases h
  · next p hp =>
    split at h
    · next hmissing =>
      cases h
      refine ⟨p.given, rfl, (Progress.Sound.start.arguments (fun _ ha => ha) hp).gives, ?_⟩
      have hhas : p.has g.operand.usage = true := by
        cases hno : p.has g.operand.usage with
        | true => rfl
        | false =>
          have hmem : g.operand.usage ∈ g.missing p := by simp [missing, hno]
          rw [List.isEmpty_iff.mp hmissing] at hmem
          cases hmem
      obtain ⟨x, hx, he⟩ := List.any_eq_true.mp hhas
      exact ⟨x, hx, beq_iff_eq.mp he⟩
    · cases h

/-- An accepted command line gives nothing that the grammar does not. -/
theorem gives_setting (h : g.parse args = .ok settings) {setting : α} (hs : setting ∈ settings) :
    ∃ place, Gives g args ⟨place, setting⟩ := by
  obtain ⟨given, rfl, hgives, -⟩ := gives_of_parse h
  obtain ⟨x, hx, rfl⟩ := List.mem_map.mp hs
  exact ⟨x.place, hgives x hx⟩

/-- One of the arguments of an accepted command line was read as the operand. -/
theorem operand_of_parse (h : g.parse args = .ok settings) :
    ∃ value ∈ args, ∃ setting ∈ settings, g.operand.read value = .ok setting := by
  obtain ⟨given, rfl, hgives, x, hx, hplace⟩ := gives_of_parse h
  have hgiven : x.setting ∈ given.map Given.setting := List.mem_map_of_mem hx
  cases hgives x hx with
  | operand hv hr => exact ⟨_, hv, _, hgiven, hr⟩
  | @value o => exact absurd hplace (o.usage_ne g.operand)
  | @flag o => exact absurd hplace (o.usage_ne g.operand)

end Grammar

end Disasm.CommandLine
