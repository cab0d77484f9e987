import Mathlib.Data.List.TakeWhile
import Disasm.Proofs.PendingValues

namespace Disasm.CommandLine

/-- A name that no equals sign cuts short. -/
structure PlainName (name : String) : Prop where
  ne : name ≠ ""
  no_equals : '=' ∉ name.toList

instance (name : String) : Decidable (PlainName name) :=
  decidable_of_iff (name ≠ "" ∧ '=' ∉ name.toList) ⟨fun h => ⟨h.1, h.2⟩, fun h => ⟨h.1, h.2⟩⟩

section Shapes

variable {name text : String}

theorem takeWhile_append_equals {cs : List Char} (h : '=' ∉ cs) (rest : List Char) :
    (cs ++ '=' :: rest).takeWhile (· != '=') = cs ∧
      (cs ++ '=' :: rest).dropWhile (· != '=') = '=' :: rest := by
  have hcs : ∀ c ∈ cs, (c != '=') = true := by
    intro c hc
    exact bne_iff_ne.mpr fun he => h (he ▸ hc)
  rw [List.takeWhile_append_of_pos hcs, List.dropWhile_append_of_pos hcs]
  simp

theorem shape_long (h : PlainName name) : shape ("--" ++ name) = .long name none := by
  obtain ⟨c, cs, hcs⟩ := List.exists_cons_of_ne_nil (mt String.toList_eq_nil_iff.mp h.ne)
  have hlist : ("--" ++ name).toList = '-' :: '-' :: c :: cs := by simp [hcs]
  have hname : ∀ d ∈ c :: cs, (d != '=') = true := by
    intro d hd
    exact bne_iff_ne.mpr fun he => h.no_equals (hcs ▸ he ▸ hd)
  have htake : (c :: cs).takeWhile (· != '=') = name.toList := by
    rw [hcs, List.takeWhile_eq_self_iff]
    exact hname
  have hdrop : (c :: cs).dropWhile (· != '=') = [] := by
    rw [List.dropWhile_eq_nil_iff]
    exact hname
  simp only [shape, hlist, htake, hdrop, String.ofList_toList]

theorem shape_long_value (h : PlainName name) :
    shape ("--" ++ name ++ "=" ++ text) = .long name (some text) := by
  obtain ⟨c, cs, hcs⟩ := List.exists_cons_of_ne_nil (mt String.toList_eq_nil_iff.mp h.ne)
  have hlist : ("--" ++ name ++ "=" ++ text).toList =
      '-' :: '-' :: c :: (cs ++ '=' :: text.toList) := by simp [hcs]
  obtain ⟨htake, hdrop⟩ := takeWhile_append_equals h.no_equals text.toList
  rw [hcs, List.cons_append] at htake hdrop
  have hback : String.ofList (c :: cs) = name := by rw [← hcs, String.ofList_toList]
  simp only [shape, hlist, htake, hdrop, hback, String.ofList_toList]

theorem shape_letters {c : Char} (h : c ≠ '-') (n : Nat) :
    shape (String.ofList ('-' :: List.replicate (n + 1) c)) =
      .letters (List.replicate (n + 1) c) := by
  simp only [shape, String.toList_ofList, List.replicate_succ]
  split
  · next he => exact absurd (List.cons.inj (List.cons.inj he).2).1 h
  · next he => exact absurd (List.cons.inj (List.cons.inj he).2).1 h
  · next he =>
    obtain ⟨rfl, rfl⟩ := List.cons.inj (List.cons.inj he).2
    rfl
  · next hnot => exact absurd rfl (hnot c _)

end Shapes

section

variable {α : Type} (g : Grammar α)

/-- An argument that spells an option out, whether the option may be given once only, and what it
gives. -/
inductive Spells : String → Bool → List (Given α) → Prop
  | value {name : String} {o : Opt α} {slot : Slot α} {setting : α} (hn : PlainName name)
      (ho : g.byLong? name = some o) (ht : o.takes = .value slot) (text : String)
      (hr : slot.read text = .ok setting) :
      Spells ("--" ++ name ++ "=" ++ text) true [⟨o.usage, setting⟩]
  | flag {name : String} {o : Opt α} {setting : α} (hn : PlainName name)
      (ho : g.byLong? name = some o) (ht : o.takes = .nothing setting) :
      Spells ("--" ++ name) true [⟨o.usage, setting⟩]
  | tally {name : String} {o : Opt α} {setting : α} (hn : PlainName name)
      (ho : g.byLong? name = some o) (ht : o.takes = .tally setting) :
      Spells ("--" ++ name) false [⟨o.usage, setting⟩]
  | letters {o : Opt α} {letter : Char} {setting : α} (hl : letter ≠ '-')
      (ho : g.byLetter? letter = some o) (ht : o.takes = .tally setting) (n : Nat) :
      Spells (String.ofList ('-' :: List.replicate (n + 1) letter)) false
        (List.replicate (n + 1) ⟨o.usage, setting⟩)

end

namespace Progress

variable {α : Type} {g : Grammar α} {p : Progress α}

def give (p : Progress α) (given : List (Given α)) : Progress α :=
  { p with given := p.given ++ given }

theorem add_eq_give (p : Progress α) (place : String) (setting : α) :
    p.add place setting = p.give [⟨place, setting⟩] :=
  rfl

theorem give_give (p : Progress α) (xs ys : List (Given α)) :
    (p.give xs).give ys = p.give (xs ++ ys) := by
  simp [give]

theorem mark_of_fresh {place : String} {setting : α} (h : p.pending = none) (once : Bool)
    (hf : (once && p.has place) = false) :
    p.mark place once setting = .ok (p.give [⟨place, setting⟩]) := by
  simp [mark, flush_of_pending_eq_none h, hf, add_eq_give]

theorem take_of_fresh {place text : String} {slot : Slot α} {setting : α}
    (hf : p.has place = false) (hr : slot.read text = .ok setting) :
    p.take ⟨place, slot, some text⟩ = .ok (p.give [⟨place, setting⟩]) := by
  simp [take, hf, hr, add_eq_give]

/-- A letter that counts gives its setting each time. -/
theorem letters_replicate {o : Opt α} {letter : Char} {setting : α} (h : p.pending = none)
    (ho : g.byLetter? letter = some o) (ht : o.takes = .tally setting) (n : Nat) :
    p.letters g (List.replicate n letter) = .ok (p.give (List.replicate n ⟨o.usage, setting⟩)) := by
  induction n generalizing p with
  | zero => simp [letters, give]
  | succ n ih =>
    have hrest : (p.give [⟨o.usage, setting⟩]).pending = none := h
    rw [List.replicate_succ, letters]
    simp only [ho, ht, mark_of_fresh h false rfl, ih hrest, give_give]
    rfl

/-- An option that is spelled out is read as it is written, if it has not been given before. -/
theorem arguments_of_spells {argument : String} {once : Bool} {given : List (Given α)}
    (hs : Spells g argument once given) (h : p.pending = none)
    (hf : once = true → ∀ x ∈ given, p.has x.place = false) (rest : List String) :
    p.arguments g (argument :: rest) = (p.give given).arguments g rest := by
  rw [arguments]
  cases hs with
  | value hn ho ht text hr =>
    have hfresh := hf rfl _ List.mem_cons_self
    simp only [shape_long_value hn, long, ho, ht, expect, flush_of_pending_eq_none h,
      take_of_fresh hfresh hr, stopOn]
  | flag hn ho ht =>
    have hfresh := hf rfl _ List.mem_cons_self
    simp only [shape_long hn, long, ho, ht, mark_of_fresh h true hfresh, stopOn]
  | tally hn ho ht =>
    simp only [shape_long hn, long, ho, ht, mark_of_fresh h false rfl, stopOn]
  | letters hl ho ht n => simp only [shape_letters hl, letters_replicate h ho ht]

/-- Behind the divider stands the operand, whatever it looks like. -/
theorem arguments_divider {operand : String} {setting : α} (h : p.pending = none)
    (hm : p.operandMet = false) (hf : p.has g.operand.usage = false)
    (hr : g.operand.read operand = .ok setting) :
    p.arguments g ["--", operand] =
      .ok { p.give [⟨g.operand.usage, setting⟩] with operandMet := true } := by
  have hdivider : shape "--" = .divider := by decide
  have hmet : p.operand g operand = .ok { p with
      pending := some ⟨g.operand.usage, g.operand, some operand⟩
      operandMet := true } := by
    simp [Progress.operand, hm, flush_of_pending_eq_none h]
  have hf' : ({ p with pending := none, operandMet := true } : Progress α).has
      g.operand.usage = false := hf
  simp only [arguments, hdivider, operands, hmet, flush, take_of_fresh hf' hr, stopOn]
  rw [← h]
  rfl

end Progress

end Disasm.CommandLine
