import Mathlib.Data.List.Nodup
import Disasm.Proofs.PendingValues

namespace Disasm.CommandLine

variable {α : Type}

def Opt.counts (o : Opt α) : Bool :=
  match o.takes with
  | .tally _ => true
  | _ => false

/-- Whether the option, if it counts, gives this setting only and can be left out. -/
def Opt.talliesOnly [DecidableEq α] (t : α) (o : Opt α) : Bool :=
  match o.takes with
  | .tally setting => setting = t && !o.required
  | _ => true

namespace Grammar

variable (g : Grammar α)

def countsLetter (letter : Char) : Bool :=
  (g.byLetter? letter).any Opt.counts

/-- Whether an argument is nothing but flags that count. -/
def isCount (argument : String) : Bool :=
  match shape argument with
  | .long name none => (g.byLong? name).any Opt.counts
  | .letters cluster => cluster.all g.countsLetter
  | _ => false

def countsAt (place : String) : Bool :=
  g.options.any fun o => o.counts && o.usage == place

/-- Options that count give one setting, have places of their own, and can be left out. -/
structure Tallies (t : α) : Prop where
  apart : (g.options.map Opt.usage).Nodup
  gives : ∀ o ∈ g.options, ∀ setting, o.takes = .tally setting → setting = t
  optional : ∀ o ∈ g.options, o.counts = true → o.required = false

variable {g} {t : α}

theorem tallies_of_all [DecidableEq α] (hapart : (g.options.map Opt.usage).Nodup)
    (h : g.options.all (Opt.talliesOnly t) = true) : g.Tallies t := by
  have honly : ∀ o ∈ g.options, o.talliesOnly t = true := List.all_eq_true.mp h
  refine ⟨hapart, ?_, ?_⟩
  · intro o ho setting ht
    have hsetting := honly o ho
    simp only [Opt.talliesOnly, ht, Bool.and_eq_true, decide_eq_true_eq] at hsetting
    exact hsetting.1
  · intro o ho hc
    have hrequired := honly o ho
    unfold Opt.counts at hc
    split at hc
    · next setting ht =>
      simp only [Opt.talliesOnly, ht, Bool.and_eq_true, Bool.not_eq_true'] at hrequired
      exact hrequired.2
    · cases hc

theorem countsAt_operand : g.countsAt g.operand.usage = false := by
  refine List.any_eq_false.mpr fun o _ => ?_
  simp [o.usage_ne g.operand]

theorem Tallies.countsAt_usage (h : g.Tallies t) {o : Opt α} (ho : o ∈ g.options) :
    g.countsAt o.usage = o.counts := by
  refine Bool.eq_iff_iff.mpr ⟨fun hc => ?_, fun hc => ?_⟩
  · obtain ⟨o', ho', hc⟩ := List.any_eq_true.mp hc
    simp only [Bool.and_eq_true, beq_iff_eq] at hc
    rw [← List.inj_on_of_nodup_map h.apart ho' ho hc.2]
    exact hc.1
  · exact List.any_eq_true.mpr ⟨o, ho, by simp [hc]⟩

end Grammar

section

variable (g : Grammar α)

/-- Two clusters that are the same but for letters that count. All that stands behind a letter that
takes a value belongs to the value. -/
inductive SameButLetters : List Char → List Char → Prop
  | nil : SameButLetters [] []
  | value {c : Char} (hc : (g.byLetter? c).any Opt.takesValue = true) (text : List Char) :
      SameButLetters (c :: text) (c :: text)
  | both {c : Char} {cs cs' : List Char} (hc : (g.byLetter? c).any Opt.takesValue = false)
      (h : SameButLetters cs cs') : SameButLetters (c :: cs) (c :: cs')
  | left {c : Char} {cs cs' : List Char} (hc : g.countsLetter c = true)
      (h : SameButLetters cs cs') : SameButLetters (c :: cs) cs'
  | right {c : Char} {cs cs' : List Char} (hc : g.countsLetter c = true)
      (h : SameButLetters cs cs') : SameButLetters cs (c :: cs')

theorem SameButLetters.refl (cs : List Char) : SameButLetters g cs cs := by
  induction cs with
  | nil => exact .nil
  | cons c cs ih =>
    cases hc : (g.byLetter? c).any Opt.takesValue with
    | false => exact .both hc ih
    | true => exact .value hc cs

/-- Two command lines that are the same but for the number of flags that count. It matters whether
an option in front still waits for its value: a flag between the two would not only be one flag
more, it would take the value from the option. Behind the divider there are no flags. -/
inductive SameButFlags : Bool → List String → List String → Prop
  | nil {waiting : Bool} : SameButFlags waiting [] []
  | divider {waiting : Bool} {a : String} (ha : shape a = .divider) (rest : List String) :
      SameButFlags waiting (a :: rest) (a :: rest)
  | both {waiting : Bool} {a : String} {rest rest' : List String} (ha : shape a ≠ .divider)
      (h : SameButFlags (g.waits a) rest rest') : SameButFlags waiting (a :: rest) (a :: rest')
  | letters {waiting : Bool} {a a' : String} {cs cs' : List Char} {rest rest' : List String}
      (ha : shape a = .letters cs) (ha' : shape a' = .letters cs') (hcs : SameButLetters g cs cs')
      (h : SameButFlags (g.lettersWait cs) rest rest') :
      SameButFlags waiting (a :: rest) (a' :: rest')
  | left {waiting : Bool} {a : String} {rest rest' : List String} (ha : g.isCount a = true)
      (hw : waiting = true → startsPlain rest' = false) (h : SameButFlags waiting rest rest') :
      SameButFlags waiting (a :: rest) rest'
  | right {waiting : Bool} {a : String} {rest rest' : List String} (ha : g.isCount a = true)
      (hw : waiting = true → startsPlain rest = false) (h : SameButFlags waiting rest rest') :
      SameButFlags waiting rest (a :: rest')

end

namespace Progress

variable {g : Grammar α} {p p' q : Progress α} {v : Pending α} {place : String} {setting : α}

/-- Two readings that stand at the same point, but for what flags that count have given. -/
structure Alike (g : Grammar α) (p p' : Progress α) : Prop where
  given : p.given.filter (fun x => !g.countsAt x.place) =
    p'.given.filter fun x => !g.countsAt x.place
  pending : p.pending = p'.pending
  operandMet : p.operandMet = p'.operandMet
  /-- No value is pending for a flag. -/
  awaited : ∀ v ∈ p.pending, g.countsAt v.place = false

variable {t : α}

namespace Alike

theorem refl_start : Alike g {} {} :=
  ⟨rfl, rfl, rfl, fun v hv => absurd hv (Option.not_mem_none v)⟩

theorem symm (h : Alike g p p') : Alike g p' p :=
  ⟨h.given.symm, h.pending.symm, h.operandMet.symm, h.pending ▸ h.awaited⟩

theorem trans (h : Alike g p p') (h' : Alike g p' q) : Alike g p q :=
  ⟨h.given.trans h'.given, h.pending.trans h'.pending, h.operandMet.trans h'.operandMet, h.awaited⟩

theorem waiting (h : Alike g p p') : p.waiting = p'.waiting := by
  rw [Progress.waiting, Progress.waiting, h.pending]

/-- Both have met the places that are not of flags. -/
theorem has (h : Alike g p p') (hc : g.countsAt place = false) : p.has place = p'.has place := by
  have hquiet : ∀ q : Progress α, q.has place =
      (q.given.filter fun x => !g.countsAt x.place).any fun x => x.place == place := by
    intro q
    rw [Progress.has, List.any_filter]
    refine congrArg q.given.any (funext fun x => ?_)
    cases hx : x.place == place with
    | false => simp
    | true => simp [beq_iff_eq.mp hx, hc]
  rw [hquiet, hquiet, h.given]

theorem add (h : Alike g p p') : Alike g (p.add place setting) (p'.add place setting) :=
  ⟨by simp only [Progress.add, List.filter_append, h.given], h.pending, h.operandMet, h.awaited⟩

/-- A flag that counts leaves a reading as it was. -/
theorem add_count (hp : ∀ v ∈ p.pending, g.countsAt v.place = false)
    (hc : g.countsAt place = true) : Alike g (p.add place setting) p :=
  ⟨by simp [Progress.add, hc], rfl, rfl, hp⟩

theorem take (h : Alike g p p') (hc : g.countsAt v.place = false) :
    Akin (Alike g) (stopOn (p.take v)) (stopOn (p'.take v)) := by
  unfold Progress.take
  rw [h.has hc]
  split
  · exact .misuse _ _
  · split
    · exact .misuse _ _
    · split
      · exact .ok h.add
      all_goals exact .misuse _ _

theorem flush (h : Alike g p p') : Akin (Alike g) (stopOn p.flush) (stopOn p'.flush) := by
  unfold Progress.flush
  rw [← h.pending]
  split
  · exact .ok h
  · next v hv =>
    have hcleared : Alike g { p with pending := none } { p' with pending := none } :=
      ⟨h.given, rfl, h.operandMet, fun w hw => absurd hw (Option.not_mem_none w)⟩
    exact hcleared.take (h.awaited v hv)

theorem mark (h : Alike g p p') (once : Bool) (hc : once = true → g.countsAt place = false) :
    Akin (Alike g) (stopOn (p.mark place once setting)) (stopOn (p'.mark place once setting)) := by
  rw [mark_eq_bind, mark_eq_bind]
  refine h.flush.bind fun q q' _ _ hq => ?_
  cases once with
  | false => exact .ok hq.add
  | true =>
    rw [hq.has (hc rfl)]
    cases q'.has place
    · exact .ok hq.add
    · exact .misuse _ _

theorem expect {slot : Slot α} {attached : Option String} (h : Alike g p p')
    (hc : g.countsAt place = false) :
    Akin (Alike g) (stopOn (p.expect place slot attached))
      (stopOn (p'.expect place slot attached)) := by
  rw [expect_eq_bind, expect_eq_bind]
  refine h.flush.bind fun q q' _ _ hq => ?_
  cases attached with
  | none =>
    refine .ok ⟨hq.given, rfl, hq.operandMet, fun v hv => ?_⟩
    cases hv
    exact hc
  | some value => exact hq.take hc

theorem askHelp {β : Type} {R : β → β → Prop} (h : Alike g p p') (long : Bool) :
    Akin R (.error (p.askHelp long)) (.error (p'.askHelp long)) := by
  rw [askHelp_eq_bind, askHelp_eq_bind]
  exact h.flush.bind fun _ _ _ _ _ => .help long

theorem operand (h : Alike g p p') (argument : String) :
    Akin (Alike g) (p.operand g argument) (p'.operand g argument) := by
  cases hm : p.operandMet with
  | true =>
    simp only [Progress.operand, hm, ← h.operandMet, if_true]
    exact .misuse _ _
  | false =>
    rw [operand_eq_bind hm, operand_eq_bind (h.operandMet ▸ hm)]
    refine h.flush.bind fun q q' _ _ hq => .ok ⟨hq.given, rfl, rfl, fun v hv => ?_⟩
    cases hv
    exact Grammar.countsAt_operand

theorem plain (h : Alike g p p') (argument : String) :
    Akin (Alike g) (p.plain g argument) (p'.plain g argument) := by
  cases hw : p.waiting with
  | false =>
    rw [plain_of_not_waiting hw, plain_of_not_waiting (h.waiting ▸ hw)]
    exact h.operand argument
  | true =>
    obtain ⟨⟨place, slot, value⟩, hp, hv⟩ := (Option.any_eq_true _ _).mp hw
    obtain rfl := Option.isNone_iff_eq_none.mp hv
    have hp' : p'.pending = some ⟨place, slot, none⟩ := h.pending ▸ hp
    unfold Progress.plain
    rw [hp, hp']
    refine .ok ⟨h.given, rfl, h.operandMet, fun v hv => ?_⟩
    cases hv
    exact h.awaited ⟨place, slot, none⟩ hp

/-- The same long option comes to the same in both. -/
theorem long (hg : g.Tallies t) (h : Alike g p p') (name : String) (attached : Option String) :
    Akin (Alike g) (p.long g name attached) (p'.long g name attached) := by
  unfold Progress.long
  split
  · exact .misuse _ _
  · next o hfind =>
    have ho := hg.countsAt_usage (List.mem_of_find?_eq_some hfind)
    split
    · next ht => exact h.expect (ho.trans (by simp [Opt.counts, ht]))
    · exact .misuse _ _
    · next ht => exact h.mark true fun _ => ho.trans (by simp [Opt.counts, ht])
    · exact h.mark false fun ho => absurd ho Bool.false_ne_true
    · exact h.askHelp true

/-- A flag that counts leaves a reading as it was, if nothing is pending. -/
theorem mark_count (hg : g.Tallies t) (hp : p.pending = none) {o : Opt α} (ho : o ∈ g.options)
    (hc : o.counts = true) : ∃ setting q, o.takes = .tally setting ∧
      p.mark o.usage false setting = .ok q ∧ Alike g q p ∧ q.pending = none := by
  have hplace := (hg.countsAt_usage ho).trans hc
  unfold Opt.counts at hc
  split at hc
  · next setting ht =>
    refine ⟨setting, p.add o.usage setting, ht, ?_, add_count (fun v hv => ?_) hplace, hp⟩
    · simp [Progress.mark, flush_of_pending_eq_none hp]
    · rw [hp] at hv
      cases hv
  · cases hc

theorem letters_count (hg : g.Tallies t) (hp : p.pending = none) {c : Char}
    (hc : g.countsLetter c = true) (rest : List Char) :
    ∃ q, p.letters g (c :: rest) = q.letters g rest ∧ Alike g q p ∧ q.pending = none := by
  obtain ⟨o, ho, hcounts⟩ := (Option.any_eq_true _ _).mp hc
  obtain ⟨setting, q, ht, hm, hq, hpending⟩ :=
    mark_count hg hp (List.mem_of_find?_eq_some ho) hcounts
  refine ⟨q, ?_, hq, hpending⟩
  rw [letters_cons_flag false ho ht, hm]
  rfl

/-- Clusters that are the same but for letters that count come to the same, if nothing is pending
that one of them would look at and the other would not. -/
theorem letters (hg : g.Tallies t) {cs cs' : List Char} (hcs : SameButLetters g cs cs')
    (h : Alike g p p') (hp : p.pending = none) :
    Akin (Alike g) (p.letters g cs) (p'.letters g cs') := by
  induction hcs generalizing p p' with
  | nil => exact .ok h
  | value hc text =>
    obtain ⟨o, ho, hvalue⟩ := (Option.any_eq_true _ _).mp hc
    have hplace := hg.countsAt_usage (List.mem_of_find?_eq_some ho)
    unfold Opt.takesValue at hvalue
    split at hvalue
    · next slot ht =>
      simp only [Progress.letters, ho, ht]
      exact h.expect (hplace.trans (by simp [Opt.counts, ht]))
    · cases hvalue
  | @both c cs cs' hc hcs ih =>
    cases ho : g.byLetter? c with
    | none =>
      simp only [Progress.letters, ho]
      exact .misuse _ _
    | some o =>
      have hplace := hg.countsAt_usage (List.mem_of_find?_eq_some ho)
      cases ht : o.takes with
      | value slot => simp [ho, Opt.takesValue, ht] at hc
      | help =>
        simp only [Progress.letters, ho, ht]
        exact h.askHelp false
      | nothing setting =>
        rw [letters_cons_flag true ho ht, letters_cons_flag true ho ht]
        refine (h.mark true fun _ => hplace.trans (by simp [Opt.counts, ht])).bind ?_
        exact fun q q' hm _ hq => ih hq (pending_of_mark hm)
      | tally setting =>
        rw [letters_cons_flag false ho ht, letters_cons_flag false ho ht]
        refine (h.mark false fun ho => absurd ho Bool.false_ne_true).bind ?_
        exact fun q q' hm _ hq => ih hq (pending_of_mark hm)
  | left hc hcs ih =>
    obtain ⟨q, he, hq, hpending⟩ := letters_count hg hp hc _
    rw [he]
    exact ih (hq.trans h) hpending
  | right hc hcs ih =>
    obtain ⟨q, he, hq, hpending⟩ := letters_count hg (h.pending ▸ hp) hc _
    rw [he]
    exact ih (h.trans hq.symm) hp

/-- The same argument comes to the same in both, and so do clusters that are the same but for
letters that count. -/
theorem step_letters (hg : g.Tallies t) (h : Alike g p p') {a a' : String} {cs cs' : List Char}
    (ha : shape a = .letters cs) (ha' : shape a' = .letters cs') (hcs : SameButLetters g cs cs') :
    Akin (Alike g) (p.step g a) (p'.step g a') := by
  have hsettle := settle_step (p := p) (g := g) (a := a) (by simp [ha]) (by simp [ha])
  have hsettle' := settle_step (p := p') (g := g) (a := a') (by simp [ha']) (by simp [ha'])
  refine (hsettle.eq_trans (h.flush.bind fun q q' hq hq' hqq => ?_)).trans_eq
    (hsettle'.symm fun _ _ => Eq.symm)
  simp only [Progress.step, ha, ha']
  exact hqq.letters hg hcs (settled_of_flush (stopOn_eq_ok.mp hq)).pending

theorem step (hg : g.Tallies t) (h : Alike g p p') {a : String} (ha : shape a ≠ .divider) :
    Akin (Alike g) (p.step g a) (p'.step g a) := by
  cases hs : shape a with
  | divider => exact absurd hs ha
  | long name attached =>
    simp only [Progress.step, hs]
    exact h.long hg name attached
  | letters cluster => exact h.step_letters hg hs hs (.refl g cluster)
  | plain =>
    simp only [Progress.step, hs]
    exact h.plain a

/-- Behind the divider the same arguments come to the same. -/
theorem operands (h : Alike g p p') (args : List String) :
    Akin (Alike g) (p.operands g args) (p'.operands g args) := by
  induction args generalizing p p' with
  | nil => exact h.flush
  | cons argument rest ih =>
    rw [operands_cons, operands_cons]
    exact (h.operand argument).bind fun _ _ _ _ hq => ih hq

theorem letters_all_count (hg : g.Tallies t) (hp : p.pending = none) {cluster : List Char}
    (hc : cluster.all g.countsLetter = true) :
    ∃ q, p.letters g cluster = .ok q ∧ Alike g q p ∧ q.pending = none := by
  induction cluster generalizing p with
  | nil => exact ⟨p, rfl, ⟨rfl, rfl, rfl, fun v hv => by cases hp ▸ hv⟩, hp⟩
  | cons c cs ih =>
    rw [List.all_cons, Bool.and_eq_true] at hc
    obtain ⟨r, he, hr, hpending⟩ := letters_count hg hp hc.1 cs
    obtain ⟨q, hq, hqr, hqpending⟩ := ih hpending hc.2
    exact ⟨q, he.trans hq, hqr.trans hr, hqpending⟩

/-- An argument of flags that count leaves a reading as it was, if nothing is pending. -/
theorem step_count (hg : g.Tallies t) (hp : p.pending = none) {a : String}
    (ha : g.isCount a = true) : ∃ q, p.step g a = .ok q ∧ Alike g q p ∧ q.pending = none := by
  unfold Progress.step
  unfold Grammar.isCount at ha
  split at ha
  · next name hs =>
    obtain ⟨o, ho, hcounts⟩ := (Option.any_eq_true _ _).mp ha
    obtain ⟨setting, q, ht, hm, hq⟩ := mark_count hg hp (List.mem_of_find?_eq_some ho) hcounts
    refine ⟨q, ?_, hq⟩
    simp only [hs, Progress.long, ho, ht, hm, stopOn]
  · next cluster hs =>
    rw [hs]
    exact letters_all_count hg hp ha
  · cases ha

/-- A command line with one more argument of flags is read as it was without, if what follows is. -/
theorem arguments_left (hg : g.Tallies t) (h : Alike g p p') {a : String} {rest rest' : List String}
    (ha : g.isCount a = true) (hplain : p.waiting = true → startsPlain rest' = false)
    (hrest : p.waiting = false → ∀ {q q' : Progress α}, Alike g q q' → q.waiting = false →
      Akin (Alike g) (q.arguments g rest) (q'.arguments g rest')) :
    Akin (Alike g) (p.arguments g (a :: rest)) (p'.arguments g rest') := by
  have hdivider : shape a ≠ .divider := by
    intro hs
    simp [Grammar.isCount, hs] at ha
  have hfirst : startsPlain (a :: rest) = false := by
    simp only [startsPlain, decide_eq_false_iff_not]
    intro hs
    simp [Grammar.isCount, hs] at ha
  refine .trans_eq (.eq_trans (settle_arguments fun _ => hfirst) ?_)
    ((settle_arguments (h.waiting ▸ hplain)).symm fun _ _ => Eq.symm)
  refine h.flush.bind fun q q' hq _ hqq => ?_
  -- nothing is pending any more, so the flag adds its setting and the other side loses nothing
  have hsettled := settled_of_flush (stopOn_eq_ok.mp hq)
  obtain ⟨r, hr, hrq, hpending⟩ := step_count hg hsettled.pending ha
  rw [arguments_cons hdivider, hr]
  exact hrest hsettled.not_waiting (hrq.trans hqq) (by simp [Progress.waiting, hpending])

/-- Command lines that are the same but for flags that count are read alike. -/
theorem arguments (hg : g.Tallies t) {waiting : Bool} {args args' : List String}
    (hargs : SameButFlags g waiting args args') (h : Alike g p p') (hw : p.waiting = waiting) :
    Akin (Alike g) (p.arguments g args) (p'.arguments g args') := by
  -- the readings stay alike, and the next case may assume what the arguments say about waiting
  induction hargs generalizing p p' with
  | nil => exact h.flush
  | divider ha rest =>
    simp only [Progress.arguments, ha]
    exact h.operands rest
  | both ha hrest ih =>
    rw [arguments_cons ha, arguments_cons ha]
    exact (h.step hg ha).bind fun q q' hq _ hqq => ih hqq (waiting_of_step ha hq)
  | @letters waiting a a' cs cs' rest rest' ha ha' hcs hrest ih =>
    have hna : shape a ≠ .divider := by simp [ha]
    have hna' : shape a' ≠ .divider := by simp [ha']
    rw [arguments_cons hna, arguments_cons hna']
    refine (h.step_letters hg ha ha' hcs).bind fun q q' hq _ hqq => ih hqq ?_
    rw [waiting_of_step hna hq, Grammar.waits, ha]
  | left ha hplain hrest ih =>
    refine h.arguments_left hg ha (fun hp => hplain (hw ▸ hp)) fun hp q q' hqq hq => ?_
    exact ih hqq (hq.trans (hp.symm.trans hw))
  | right ha hplain hrest ih =>
    refine .symm (fun _ _ => symm)
      (h.symm.arguments_left hg ha (fun hp => ?_) fun hp q q' hqq hq => ?_)
    · exact hplain (hw ▸ h.waiting ▸ hp)
    · have hwaiting := hqq.waiting.symm.trans (hq.trans (hp.symm.trans (h.waiting.symm.trans hw)))
      exact (ih hqq.symm hwaiting).symm fun _ _ => symm

end Alike

end Progress

namespace Grammar

variable {g : Grammar α} {t : α} {p p' : Progress α} {args args' : List String}

theorem missing_eq (hg : g.Tallies t) (h : p.Alike g p') : g.missing p = g.missing p' := by
  refine List.filter_congr fun place hplace => ?_
  have hc : g.countsAt place = false := by
    rcases List.mem_append.mp hplace with hm | hm
    · obtain ⟨o, ho, rfl⟩ := List.mem_map.mp hm
      obtain ⟨ho, hrequired⟩ := List.mem_filter.mp ho
      rw [hg.countsAt_usage ho]
      refine Bool.eq_false_iff.mpr fun hcounts => ?_
      cases hrequired.symm.trans (hg.optional o ho hcounts)
    · rw [List.mem_singleton.mp hm]
      exact countsAt_operand
  rw [h.has hc]

/-- Where a flag that counts has its place, its setting was given. -/
theorem setting_of_countsAt (hg : g.Tallies t) {x : Given α} (hx : Gives g args x)
    (hc : g.countsAt x.place = true) : x.setting = t := by
  cases hx with
  | operand hv hr => cases hc.symm.trans countsAt_operand
  | @value o slot value setting ho ht hr =>
    have hcounts := (hg.countsAt_usage ho).symm.trans hc
    simp [Opt.counts, ht] at hcounts
  | @flag o setting ho ht =>
    have hcounts := (hg.countsAt_usage ho).symm.trans hc
    rcases ht with ht | ht
    · simp [Opt.counts, ht] at hcounts
    · exact hg.gives o ho setting ht

theorem filter_settings [DecidableEq α] (hg : g.Tallies t) {given : List (Given α)}
    (h : ∀ x ∈ given, Gives g args x) :
    (given.map Given.setting).filter (· ≠ t) =
      ((given.filter fun x => !g.countsAt x.place).map Given.setting).filter (· ≠ t) := by
  rw [List.filter_map, List.filter_map, List.filter_filter]
  refine congrArg (List.map Given.setting) (List.filter_congr fun x hx => ?_)
  cases hc : g.countsAt x.place with
  | false => simp
  | true => simp [setting_of_countsAt hg (h x hx) hc]

/-- Command lines that are the same but for flags that count give the same settings but for those
of the flags, or neither gives any, for the same kind of reason. -/
theorem parse_akin [DecidableEq α] (hg : g.Tallies t) (h : SameButFlags g false args args') :
    Akin (fun settings settings' => settings.filter (· ≠ t) = settings'.filter (· ≠ t))
      (g.parse args) (g.parse args') := by
  have hparse : ∀ as, g.parse as = (Progress.arguments g {} as).bind fun p =>
      if (g.missing p).isEmpty then .ok (p.given.map Given.setting)
      else .error (.misuse (.required (g.missing p))) := by
    intro as
    unfold parse
    cases Progress.arguments g {} as <;> rfl
  rw [hparse, hparse]
  refine (Progress.Alike.refl_start.arguments hg h rfl).bind fun p p' hp hp' hpp => ?_
  rw [missing_eq hg hpp]
  split
  · have hgives := (Progress.Sound.start.arguments (fun _ ha => ha) hp).gives
    have hgives' := (Progress.Sound.start.arguments (fun _ ha => ha) hp').gives
    refine .ok ?_
    rw [filter_settings hg hgives, filter_settings hg hgives', hpp.given]
  · exact .misuse _ _

end Grammar

end Disasm.CommandLine
