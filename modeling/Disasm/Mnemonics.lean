import Disasm.Text.Blank
import Disasm.Text.Lines
import Disasm.Text.Lowercase

namespace Disasm

/-- Puts a word into its place in an ascending list, unless it is there. -/
def insertAscending (m : String) : List String → List String
  | [] => [m]
  | x :: rest =>
    if m < x then m :: x :: rest
    else if m = x then x :: rest
    else x :: insertAscending m rest

theorem mem_insertAscending {a m : String} {xs : List String} :
    a ∈ insertAscending m xs ↔ a = m ∨ a ∈ xs := by
  induction xs with
  | nil => simp [insertAscending]
  | cons x rest ih =>
    simp only [insertAscending]
    split
    · simp
    · split
      · next h => simp [h]
      · simp only [List.mem_cons, ih]
        constructor
        · rintro (h | h | h) <;> simp [h]
        · rintro (h | h | h) <;> simp [h]

theorem lt_of_not_lt_of_ne {a b : String} (h : ¬ a < b) (hne : a ≠ b) : b < a :=
  Std.lt_of_le_of_ne (String.not_lt.mp h) (Ne.symm hne)

theorem pairwise_insertAscending {m : String} {xs : List String} (h : xs.Pairwise (· < ·)) :
    (insertAscending m xs).Pairwise (· < ·) := by
  induction xs with
  | nil => simp [insertAscending]
  | cons x rest ih =>
    obtain ⟨hx, hr⟩ := List.pairwise_cons.mp h
    simp only [insertAscending]
    split
    · next hm =>
      refine List.pairwise_cons.mpr ⟨?_, h⟩
      intro a ha
      rcases List.mem_cons.mp ha with rfl | ha
      · exact hm
      · exact String.lt_trans hm (hx a ha)
    · split
      · exact h
      · next hm hne =>
        refine List.pairwise_cons.mpr ⟨?_, ih hr⟩
        intro a ha
        rcases mem_insertAscending.mp ha with rfl | ha
        · exact lt_of_not_lt_of_ne hm hne
        · exact hx a ha

/-- An ascending list is determined by its members. -/
theorem eq_of_ascending {xs ys : List String} (hx : xs.Pairwise (· < ·))
    (hy : ys.Pairwise (· < ·)) (h : ∀ a, a ∈ xs ↔ a ∈ ys) : xs = ys := by
  induction xs generalizing ys with
  | nil => exact (List.eq_nil_iff_forall_not_mem.mpr fun a ha => by simpa using (h a).mpr ha).symm
  | cons x xs ih =>
    cases ys with
    | nil => simpa using (h x).mp List.mem_cons_self
    | cons y ys =>
      obtain ⟨hxs, hxp⟩ := List.pairwise_cons.mp hx
      obtain ⟨hys, hyp⟩ := List.pairwise_cons.mp hy
      have hxy : x = y := by
        rcases List.mem_cons.mp ((h x).mp List.mem_cons_self) with hx' | hx'
        · exact hx'
        · rcases List.mem_cons.mp ((h y).mpr List.mem_cons_self) with hy' | hy'
          · exact hy'.symm
          · exact absurd (String.lt_trans (hxs y hy') (hys x hx')) (String.lt_irrefl x)
      subst hxy
      have hrest : ∀ a, a ∈ xs ↔ a ∈ ys := by
        intro a
        constructor
        · intro ha
          rcases List.mem_cons.mp ((h a).mp (List.mem_cons_of_mem x ha)) with rfl | ha'
          · exact absurd (hxs a ha) (String.lt_irrefl a)
          · exact ha'
        · intro ha
          rcases List.mem_cons.mp ((h a).mpr (List.mem_cons_of_mem x ha)) with rfl | ha'
          · exact absurd (hys a ha) (String.lt_irrefl a)
          · exact ha'
      rw [ih hxp hyp hrest]

structure Mnemonics where
  members : List String
  ascending : members.Pairwise (· < ·)
  deriving DecidableEq

namespace Mnemonics

def empty : Mnemonics := ⟨[], List.Pairwise.nil⟩

def insert (s : Mnemonics) (m : String) : Mnemonics :=
  ⟨insertAscending m s.members, pairwise_insertAscending s.ascending⟩

def contains (s : Mnemonics) (m : String) : Bool :=
  s.members.contains m

def size (s : Mnemonics) : Nat :=
  s.members.length

def isEmpty (s : Mnemonics) : Bool :=
  s.members.isEmpty

instance : Membership String Mnemonics := ⟨fun s m => m ∈ s.members⟩

@[simp] theorem contains_iff {s : Mnemonics} {m : String} : s.contains m = true ↔ m ∈ s :=
  List.contains_iff_mem

@[simp] theorem not_mem_empty {m : String} : ¬ m ∈ empty := List.not_mem_nil

@[simp] theorem mem_insert {s : Mnemonics} {a m : String} : a ∈ s.insert m ↔ a = m ∨ a ∈ s :=
  mem_insertAscending

/-- Sets with the same members are the same. -/
theorem eq_of_mem_iff {s t : Mnemonics} (h : ∀ m, m ∈ s ↔ m ∈ t) : s = t := by
  cases s with
  | mk xs hx =>
    cases t with
    | mk ys hy =>
      have he : xs = ys := eq_of_ascending hx hy h
      subst he
      rfl

def ofList (ms : List String) : Mnemonics :=
  ms.foldl insert empty

theorem mem_foldl_insert {ms : List String} {s : Mnemonics} {a : String} :
    a ∈ ms.foldl insert s ↔ a ∈ ms ∨ a ∈ s := by
  induction ms generalizing s with
  | nil => simp
  | cons m ms ih =>
    rw [List.foldl_cons, ih, mem_insert, List.mem_cons]
    constructor
    · rintro (h | h | h) <;> simp [h]
    · rintro ((h | h) | h) <;> simp [h]

@[simp] theorem mem_ofList {ms : List String} {a : String} : a ∈ ofList ms ↔ a ∈ ms := by
  rw [ofList, mem_foldl_insert]
  simp

end Mnemonics

namespace Listing

/-- The first word of an instruction. Instructions are indented; any other line has none. -/
def mnemonic? (line : String) : Option String :=
  match line.toList with
  | [] => none
  | c :: _ => if Text.isBlank c then (Text.firstToken? line).map Text.lowercase else none

def mnemonics (text : String) : Mnemonics :=
  Mnemonics.ofList ((Text.contents text).filterMap mnemonic?)

end Listing

end Disasm
