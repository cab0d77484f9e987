import Disasm.Proofs.CommandLines

namespace Disasm.CommandLine

variable {α : Type}

def Opt.takesValue (o : Opt α) : Bool :=
  match o.takes with
  | .value _ => true
  | _ => false

namespace Grammar

variable (g : Grammar α)

/-- Whether a cluster ends with an option that waits for its value. -/
def lettersWait : List Char → Bool
  | [] => false
  | c :: rest => if (g.byLetter? c).any Opt.takesValue then rest.isEmpty else lettersWait rest

/-- Whether an argument ends with an option that waits for its value. -/
def waits (argument : String) : Bool :=
  match shape argument with
  | .long name none => (g.byLong? name).any Opt.takesValue
  | .letters cluster => g.lettersWait cluster
  | _ => false

end Grammar

/-- Whether the first argument is neither an option nor the divider. -/
def startsPlain : List String → Bool
  | [] => false
  | argument :: _ => shape argument = .plain

/-- Two outcomes of one kind: values that are related, or stops that differ at most in what is wrong
with the command line. -/
inductive Akin {β : Type} (R : β → β → Prop) : Except Stop β → Except Stop β → Prop
  | ok {b b' : β} (h : R b b') : Akin R (.ok b) (.ok b')
  | misuse (e e' : UsageError) : Akin R (.error (.misuse e)) (.error (.misuse e'))
  | help (long : Bool) : Akin R (.error (.help long)) (.error (.help long))

namespace Akin

variable {β γ : Type} {R : β → β → Prop} {S : γ → γ → Prop} {r r' r'' : Except Stop β}

theorem refl (hR : ∀ b, R b b) (r : Except Stop β) : Akin R r r := by
  match r with
  | .ok b => exact .ok (hR b)
  | .error (.misuse e) => exact .misuse e e
  | .error (.help long) => exact .help long

theorem symm (hR : ∀ b b', R b b' → R b' b) (h : Akin R r r') : Akin R r' r := by
  cases h with
  | ok h => exact .ok (hR _ _ h)
  | misuse e e' => exact .misuse e' e
  | help long => exact .help long

/-- Outcomes with the same value may stand for each other. -/
theorem eq_trans (h : Akin Eq r r') (h' : Akin R r' r'') : Akin R r r'' := by
  cases h with
  | ok h => exact h ▸ h'
  | misuse e e' =>
    cases h'
    exact .misuse _ _
  | help long => exact h'

theorem trans_eq (h : Akin R r r') (h' : Akin Eq r' r'') : Akin R r r'' := by
  cases h with
  | ok h =>
    cases h' with
    | ok h' => exact .ok (h' ▸ h)
  | misuse e e' =>
    cases h'
    exact .misuse _ _
  | help long =>
    cases h'
    exact .help long

/-- What is done with related values comes to outcomes of one kind. -/
theorem bind {f f' : β → Except Stop γ} (h : Akin R r r')
    (hf : ∀ b b', r = .ok b → r' = .ok b' → R b b' → Akin S (f b) (f' b')) :
    Akin S (r.bind f) (r'.bind f') := by
  cases h with
  | ok h => exact hf _ _ rfl rfl h
  | misuse e e' => exact .misuse e e'
  | help long => exact .help long

theorem map {f : β → γ} (h : Akin R r r') (hf : ∀ b b', R b b' → S (f b) (f b')) :
    Akin S (r.map f) (r'.map f) := by
  cases h with
  | ok h => exact .ok (hf _ _ h)
  | misuse e e' => exact .misuse e e'
  | help long => exact .help long

end Akin

/-- What comes to a value has gone well from the start. -/
theorem exists_of_bind {ε β γ : Type} {r : Except ε β} {f : β → Except ε γ} {c : γ}
    (h : r.bind f = .ok c) : ∃ b, r = .ok b ∧ f b = .ok c := by
  cases r with
  | error e => cases h
  | ok b => exact ⟨b, rfl, h⟩

namespace Progress

variable {g : Grammar α} {p p' q : Progress α} {v : Pending α} {place : String} {setting : α}

def waiting (p : Progress α) : Bool :=
  p.pending.any (·.value.isNone)

/-- Meets one argument before the divider. -/
def step (g : Grammar α) (p : Progress α) (argument : String) : Except Stop (Progress α) :=
  match shape argument with
  | .divider => .ok p
  | .long name attached => p.long g name attached
  | .letters cluster => p.letters g cluster
  | .plain => p.plain g argument

theorem arguments_cons {argument : String} (ha : shape argument ≠ .divider) (rest : List String) :
    p.arguments g (argument :: rest) =
      (p.step g argument).bind fun q => q.arguments g rest := by
  rw [arguments, step]
  cases hs : shape argument with
  | divider => exact absurd hs ha
  | long name attached =>
    dsimp only
    cases p.long g name attached <;> rfl
  | letters cluster =>
    dsimp only
    cases p.letters g cluster <;> rfl
  | plain =>
    dsimp only
    cases p.plain g argument <;> rfl

theorem operands_cons (argument : String) (rest : List String) :
    p.operands g (argument :: rest) =
      (p.operand g argument).bind fun q => q.operands g rest := by
  rw [operands]
  cases p.operand g argument <;> rfl

theorem mark_eq_bind (once : Bool) :
    stopOn (p.mark place once setting) = (stopOn p.flush).bind fun q =>
      if once && q.has place then .error (.misuse (.repeated place))
      else .ok (q.add place setting) := by
  unfold mark
  cases p.flush with
  | error e => rfl
  | ok q =>
    dsimp only [stopOn, Except.bind]
    cases once && q.has place <;> rfl

theorem expect_eq_bind (slot : Slot α) (attached : Option String) :
    stopOn (p.expect place slot attached) = (stopOn p.flush).bind fun q =>
      match attached with
      | none => .ok { q with pending := some ⟨place, slot, none⟩ }
      | some value => stopOn (q.take ⟨place, slot, some value⟩) := by
  unfold expect
  cases p.flush with
  | error e => rfl
  | ok q => cases attached <;> rfl

theorem askHelp_eq_bind {β : Type} (long : Bool) :
    (.error (p.askHelp long) : Except Stop β) =
      (stopOn p.flush).bind fun _ => .error (.help long) := by
  unfold askHelp
  cases p.flush <;> rfl

theorem operand_eq_bind (h : p.operandMet = false) (argument : String) :
    p.operand g argument = (stopOn p.flush).bind fun q => .ok { q with
      pending := some ⟨g.operand.usage, g.operand, some argument⟩
      operandMet := true } := by
  simp only [operand, h]
  cases p.flush <;> rfl

theorem plain_of_not_waiting (h : p.waiting = false) (argument : String) :
    p.plain g argument = p.operand g argument := by
  unfold plain
  split
  · next hpending => simp [waiting, hpending] at h
  · rfl

theorem eq_add_of_take (h : p.take v = .ok q) : ∃ setting, q = p.add v.place setting := by
  unfold take at h
  split at h
  · cases h
  · split at h
    · cases h
    · split at h
      · next setting _ =>
        cases h
        exact ⟨setting, rfl⟩
      all_goals cases h

/-- What a look at the pending value leaves of a reading. -/
structure Settled (p q : Progress α) : Prop where
  pending : q.pending = none
  operandMet : q.operandMet = p.operandMet
  /-- To wait for a value would have been an error. -/
  not_waiting : p.waiting = false

theorem settled_of_flush (h : p.flush = .ok q) : Settled p q := by
  unfold flush at h
  split at h
  · next hp =>
    cases h
    exact ⟨hp, rfl, by simp [waiting, hp]⟩
  · next v hv =>
    have hvalue : v.value.isNone = false := by
      cases hn : v.value with
      | none => simp [take, hn] at h
      | some value => rfl
    obtain ⟨setting, rfl⟩ := eq_add_of_take h
    exact ⟨rfl, rfl, by simp [waiting, hv, hvalue]⟩

theorem flush_of_pending_eq_none (h : p.pending = none) : p.flush = .ok p := by
  simp only [flush, h]

theorem flush_of_flush (h : p.flush = .ok q) : q.flush = .ok q :=
  flush_of_pending_eq_none (settled_of_flush h).pending

theorem letters_ne_nil {argument : String} {cluster : List Char}
    (h : shape argument = .letters cluster) : cluster ≠ [] := by
  unfold shape at h
  split at h
  · cases h
  · split at h <;> cases h
  · cases h
    exact List.cons_ne_nil _ _
  · cases h

/-- What is pending may be looked at before the next argument is. -/
theorem operand_of_flush (h : p.flush = .ok q) (argument : String) :
    p.operand g argument = q.operand g argument := by
  simp only [operand, h, flush_of_flush h, (settled_of_flush h).operandMet]

theorem step_of_flush (h : p.flush = .ok q) {argument : String}
    (ha : shape argument ≠ .divider) : p.step g argument = q.step g argument := by
  have hq := flush_of_flush h
  unfold step
  cases hs : shape argument with
  | divider => exact absurd hs ha
  | long name attached => simp only [long, mark, expect, askHelp, h, hq]
  | letters cluster =>
    obtain ⟨c, rest, rfl⟩ := List.exists_cons_of_ne_nil (letters_ne_nil hs)
    simp only [letters, mark, expect, askHelp, h, hq]
  | plain =>
    dsimp only
    rw [plain_of_not_waiting (settled_of_flush h).not_waiting,
      plain_of_not_waiting (settled_of_flush hq).not_waiting, operand_of_flush h]

theorem operands_of_flush (h : p.flush = .ok q) (args : List String) :
    p.operands g args = q.operands g args := by
  cases args with
  | nil => simp only [operands, h, flush_of_flush h]
  | cons argument rest => simp only [operands, operand_of_flush h]

theorem arguments_of_flush (h : p.flush = .ok q) (args : List String) :
    p.arguments g args = q.arguments g args := by
  cases args with
  | nil => simp only [arguments, h, flush_of_flush h]
  | cons argument rest =>
    by_cases ha : shape argument = .divider
    · simp only [arguments, ha, operands_of_flush h]
    · rw [arguments_cons ha, arguments_cons ha, step_of_flush h ha]

/-- A bad value that is pending is found before anything is made of the next argument. -/
theorem operand_of_flush_error {e : UsageError} (h : p.flush = .error e) (argument : String) :
    ∃ e', p.operand g argument = .error (.misuse e') := by
  unfold operand
  split <;> simp [h]

theorem step_of_flush_error {e : UsageError} (h : p.flush = .error e) {argument : String}
    (ha : shape argument ≠ .divider) (hw : p.waiting = true → shape argument ≠ .plain) :
    ∃ e', p.step g argument = .error (.misuse e') := by
  unfold step
  cases hs : shape argument with
  | divider => exact absurd hs ha
  | long name attached =>
    dsimp only
    unfold long
    split
    · exact ⟨_, rfl⟩
    · split <;> simp [mark, expect, askHelp, h, stopOn]
  | letters cluster =>
    obtain ⟨c, rest, rfl⟩ := List.exists_cons_of_ne_nil (letters_ne_nil hs)
    dsimp only
    unfold letters
    split
    · exact ⟨_, rfl⟩
    · split <;> simp [mark, expect, askHelp, h, stopOn]
  | plain =>
    have hp : p.waiting = false := Bool.eq_false_iff.mpr fun hp => hw hp hs
    dsimp only
    rw [plain_of_not_waiting hp]
    exact operand_of_flush_error h argument

theorem operands_of_flush_error {e : UsageError} (h : p.flush = .error e) (args : List String) :
    ∃ e', p.operands g args = .error (.misuse e') := by
  cases args with
  | nil => exact ⟨e, by simp only [operands, h, stopOn]⟩
  | cons argument rest =>
    obtain ⟨e', he⟩ := operand_of_flush_error (g := g) h argument
    exact ⟨e', by simp only [operands, he]⟩

theorem arguments_of_flush_error {e : UsageError} (h : p.flush = .error e) {args : List String}
    (hw : p.waiting = true → startsPlain args = false) :
    ∃ e', p.arguments g args = .error (.misuse e') := by
  cases args with
  | nil => exact ⟨e, by simp only [arguments, h, stopOn]⟩
  | cons argument rest =>
    by_cases ha : shape argument = .divider
    · simpa only [arguments, ha] using operands_of_flush_error h rest
    · have hplain : p.waiting = true → shape argument ≠ .plain := by
        intro hp
        simpa [startsPlain] using hw hp
      obtain ⟨e', he⟩ := step_of_flush_error (g := g) h ha hplain
      exact ⟨e', by rw [arguments_cons ha, he]; rfl⟩

/-- To look at what is pending first makes no difference but to the error. -/
theorem settle {f : Progress α → Except Stop (Progress α)}
    (hok : ∀ q, p.flush = .ok q → f p = f q)
    (herror : ∀ e, p.flush = .error e → ∃ e', f p = .error (.misuse e')) :
    Akin Eq (f p) ((stopOn p.flush).bind f) := by
  cases hf : p.flush with
  | error e =>
    obtain ⟨e', he⟩ := herror e hf
    rw [he]
    exact .misuse e' e
  | ok q =>
    rw [hok q hf]
    exact .refl (fun _ => rfl) _

theorem settle_arguments {args : List String}
    (hw : p.waiting = true → startsPlain args = false) :
    Akin Eq (p.arguments g args) ((stopOn p.flush).bind fun q => q.arguments g args) :=
  settle (f := fun q => q.arguments g args) (fun _ hf => arguments_of_flush hf args)
    fun _ hf => arguments_of_flush_error hf hw

theorem settle_step {a : String} (ha : shape a ≠ .divider)
    (hw : p.waiting = true → shape a ≠ .plain) :
    Akin Eq (p.step g a) ((stopOn p.flush).bind fun q => q.step g a) :=
  settle (f := fun q => q.step g a) (fun _ hf => step_of_flush hf ha)
    fun _ hf => step_of_flush_error hf ha hw

theorem pending_of_mark {once : Bool} (h : stopOn (p.mark place once setting) = .ok q) :
    q.pending = none := by
  have hm := stopOn_eq_ok.mp h
  unfold mark at hm
  split at hm
  · cases hm
  · next hf =>
    split at hm
    · cases hm
    · cases hm
      exact (settled_of_flush hf).pending

/-- A letter of a flag is met and then the rest of its cluster is. -/
theorem letters_cons_flag (once : Bool) {o : Opt α} {c : Char} (ho : g.byLetter? c = some o)
    (ht : o.takes = if once then .nothing setting else .tally setting) (rest : List Char) :
    p.letters g (c :: rest) =
      (stopOn (p.mark o.usage once setting)).bind fun q => q.letters g rest := by
  rw [letters, ho]
  cases once with
  | true =>
    simp only [ht, if_true]
    cases p.mark o.usage true setting <;> rfl
  | false =>
    simp only [ht, Bool.false_eq_true, if_false]
    cases p.mark o.usage false setting <;> rfl

theorem waiting_of_mark {once : Bool} (h : stopOn (p.mark place once setting) = .ok q) :
    q.waiting = false := by
  simp [waiting, pending_of_mark h]

theorem waiting_of_expect {slot : Slot α} {attached : Option String}
    (h : stopOn (p.expect place slot attached) = .ok q) : q.waiting = attached.isNone := by
  have he := stopOn_eq_ok.mp h
  unfold expect at he
  split at he
  · cases he
  · next hf =>
    cases attached with
    | none =>
      cases he
      rfl
    | some value =>
      obtain ⟨setting, rfl⟩ := eq_add_of_take he
      simp [waiting, add, (settled_of_flush hf).pending]

theorem isNone_behindLetter (rest : List Char) : (behindLetter rest).isNone = rest.isEmpty := by
  unfold behindLetter
  split <;> simp_all

theorem waiting_of_letters {cs : List Char} (hp : p.waiting = false)
    (h : p.letters g cs = .ok q) : q.waiting = g.lettersWait cs := by
  induction cs generalizing p with
  | nil =>
    cases h
    exact hp
  | cons c cs ih =>
    cases ho : g.byLetter? c with
    | none => simp [letters, ho] at h
    | some o =>
      cases ht : o.takes with
      | value slot =>
        simp only [letters, ho, ht] at h
        simp [Grammar.lettersWait, ho, Opt.takesValue, ht, waiting_of_expect h,
          isNone_behindLetter]
      | help => simp [letters, ho, ht] at h
      | nothing setting =>
        rw [letters_cons_flag true ho ht] at h
        obtain ⟨r, hm, hr⟩ := exists_of_bind h
        rw [ih (waiting_of_mark hm) hr]
        simp [Grammar.lettersWait, ho, Opt.takesValue, ht]
      | tally setting =>
        rw [letters_cons_flag false ho ht] at h
        obtain ⟨r, hm, hr⟩ := exists_of_bind h
        rw [ih (waiting_of_mark hm) hr]
        simp [Grammar.lettersWait, ho, Opt.takesValue, ht]

theorem waiting_of_long {name : String} {attached : Option String}
    (h : p.long g name attached = .ok q) :
    q.waiting = (attached.isNone && (g.byLong? name).any Opt.takesValue) := by
  unfold long at h
  split at h
  · cases h
  · next o ho =>
    rw [ho, Option.any_some, Opt.takesValue]
    split at h
    · next ht => rw [waiting_of_expect h, ht, Bool.and_true]
    · cases h
    · next ht => rw [waiting_of_mark h, ht, Bool.and_false]
    · next ht => rw [waiting_of_mark h, ht, Bool.and_false]
    · cases h

theorem waiting_of_operand {argument : String} (h : p.operand g argument = .ok q) :
    q.waiting = false := by
  unfold operand at h
  split at h
  · cases h
  · split at h
    · cases h
    · cases h
      rfl

theorem waiting_of_plain {argument : String} (h : p.plain g argument = .ok q) :
    q.waiting = false := by
  unfold plain at h
  split at h
  · cases h
    rfl
  · exact waiting_of_operand h

/-- Behind an argument an option waits just if the argument ends with one that does. -/
theorem waiting_of_step {argument : String} (ha : shape argument ≠ .divider)
    (h : p.step g argument = .ok q) : q.waiting = g.waits argument := by
  cases hs : shape argument with
  | divider => exact absurd hs ha
  | long name attached =>
    simp only [step, hs] at h
    rw [waiting_of_long h, Grammar.waits, hs]
    cases attached <;> rfl
  | letters cluster =>
    have hp : p.waiting = false := by
      cases hf : p.flush with
      | ok r => exact (settled_of_flush hf).not_waiting
      | error e =>
        obtain ⟨e', he⟩ := step_of_flush_error (g := g) hf ha (by simp [hs])
        cases h.symm.trans he
    simp only [step, hs] at h
    rw [waiting_of_letters hp h, Grammar.waits, hs]
  | plain =>
    simp only [step, hs] at h
    rw [waiting_of_plain h, Grammar.waits, hs]

end Progress

end Disasm.CommandLine
