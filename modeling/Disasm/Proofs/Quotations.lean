import Mathlib.Data.List.Basic
import Disasm.Text.Quoted

namespace Disasm

section Codes

variable {α β : Type} {code : α → List β}

/-- What no other code goes on from can be told from what comes after it. -/
theorem eq_of_append_eq (hc : ∀ a b, code a <+: code b → a = b) {a b : α} {xs ys : List β}
    (h : code a ++ xs = code b ++ ys) : a = b ∧ xs = ys := by
  have ha : code a <+: code a ++ xs := List.prefix_append _ _
  have hb : code b <+: code a ++ xs := by
    rw [h]
    exact List.prefix_append _ _
  have hab : a = b := by
    rcases List.prefix_or_prefix_of_prefix ha hb with hp | hp
    · exact hc a b hp
    · exact (hc b a hp).symm
  subst hab
  exact ⟨rfl, List.append_cancel_left h⟩

theorem flatMap_injective (hc : ∀ a b, code a <+: code b → a = b) (hne : ∀ a, code a ≠ []) :
    Function.Injective fun as : List α => as.flatMap code := by
  intro as bs h
  induction as generalizing bs with
  | nil =>
    cases bs with
    | nil => rfl
    | cons b bs =>
      have hnil : code b ++ bs.flatMap code = [] := h.symm
      exact absurd (List.append_eq_nil_iff.mp hnil).1 (hne b)
  | cons a as ih =>
    cases bs with
    | nil => exact absurd (List.append_eq_nil_iff.mp h).1 (hne a)
    | cons b bs =>
      obtain ⟨rfl, hrest⟩ := eq_of_append_eq hc h
      rw [ih hrest]

/-- Words that end at the first `x` are told apart where they end. -/
theorem eq_of_prefix_ended {x : β} {xs ys : List β} (hx : x ∉ xs) (hy : x ∉ ys)
    (h : xs ++ [x] <+: ys ++ [x]) : xs = ys := by
  induction xs generalizing ys with
  | nil =>
    cases ys with
    | nil => rfl
    | cons y ys =>
      obtain ⟨rfl, -⟩ := List.cons_prefix_cons.mp h
      exact absurd List.mem_cons_self hy
  | cons a xs ih =>
    cases ys with
    | nil =>
      obtain ⟨rfl, -⟩ := List.cons_prefix_cons.mp h
      exact absurd List.mem_cons_self hx
    | cons b ys =>
      obtain ⟨rfl, hrest⟩ := List.cons_prefix_cons.mp h
      rw [ih (List.not_mem_of_not_mem_cons hx) (List.not_mem_of_not_mem_cons hy) hrest]

end Codes

namespace Text

section Digits

def digitValue (c : Char) : Nat :=
  if c.toNat < 0x3A then c.toNat - 0x30 else c.toNat - 0x57

theorem digitValue_digitChar : ∀ n < 16, digitValue n.digitChar = n := by
  decide

variable {b : Nat} (hb : 1 < b) (hb' : b ≤ 16)

include hb hb'

theorem foldl_digitValue_toDigits (n : Nat) :
    (Nat.toDigits b n).foldl (fun value c => b * value + digitValue c) 0 = n := by
  induction n using Nat.strongRecOn with
  | ind n ih =>
    rw [Nat.toDigits_eq_if hb]
    split
    · next hn =>
      rw [List.foldl_cons, List.foldl_nil, digitValue_digitChar n (Nat.lt_of_lt_of_le hn hb'),
        Nat.mul_zero, Nat.zero_add]
    · have hlast : n % b < 16 := Nat.lt_of_lt_of_le (Nat.mod_lt n (by omega)) hb'
      rw [List.foldl_append, ih (n / b) (Nat.div_lt_self (by omega) hb), List.foldl_cons,
        List.foldl_nil, digitValue_digitChar _ hlast]
      exact Nat.div_add_mod n b

theorem toDigits_injective : Function.Injective (Nat.toDigits b) := by
  intro n m h
  rw [← foldl_digitValue_toDigits hb hb' n, h, foldl_digitValue_toDigits hb hb']

theorem exists_of_mem_toDigits {n : Nat} {c : Char} (hc : c ∈ Nat.toDigits b n) :
    ∃ d < 16, Nat.digitChar d = c := by
  induction n using Nat.strongRecOn with
  | ind n ih =>
    rw [Nat.toDigits_eq_if hb] at hc
    split at hc
    · next hn => exact ⟨n, Nat.lt_of_lt_of_le hn hb', (List.mem_singleton.mp hc).symm⟩
    · have hlast : n % b < 16 := Nat.lt_of_lt_of_le (Nat.mod_lt n (by omega)) hb'
      rcases List.mem_append.mp hc with hc | hc
      · exact ih (n / b) (Nat.div_lt_self (by omega) hb) hc
      · exact ⟨n % b, hlast, (List.mem_singleton.mp hc).symm⟩

/-- A number with an end of its own is no beginning of another one. -/
theorem eq_of_prefix_toDigits {c : Char} (hc : ∀ d < 16, Nat.digitChar d ≠ c) {n m : Nat}
    (h : Nat.toDigits b n ++ [c] <+: Nat.toDigits b m ++ [c]) : n = m := by
  have hnot : ∀ k, c ∉ Nat.toDigits b k := by
    intro k hmem
    obtain ⟨d, hd, he⟩ := exists_of_mem_toDigits hb hb' hmem
    exact hc d hd he
  exact toDigits_injective hb hb' (eq_of_prefix_ended (hnot n) (hnot m) h)

end Digits

/-- The character that a letter behind a backslash stands for. -/
def shortMeaning? : Char → Option Char
  | '0' => some '\x00'
  | 't' => some '\t'
  | 'r' => some '\r'
  | 'n' => some '\n'
  | '\\' => some '\\'
  | '"' => some '"'
  | _ => none

theorem shortMeaning?_of_shortEscape? {c d : Char} (h : shortEscape? c = some d) :
    shortMeaning? d = some c := by
  unfold shortEscape? at h
  split at h <;> cases h <;> rfl

/-- The letter in front of a number stands for no character. -/
theorem shortEscape?_ne (c : Char) : shortEscape? c ≠ some 'u' := by
  intro h
  cases shortMeaning?_of_shortEscape? h

/-- The ways to write a character between quotes. -/
inductive Writes (c : Char) : List Char → Prop
  | short {d : Char} (h : shortEscape? c = some d) : Writes c ['\\', d]
  | number : Writes c (numberEscape c)
  | itself (h : shortEscape? c = none) (hp : isPrintable c = true) : Writes c [c]

theorem writes_escapeQuoted (c : Char) : Writes c (escapeQuoted c) := by
  unfold escapeQuoted
  split
  · next d h => exact .short h
  · next h =>
    split
    · exact .number
    · split
      · next hp => exact .itself h hp
      · exact .number

theorem Writes.ne_nil {c : Char} {cs : List Char} (h : Writes c cs) : cs ≠ [] := by
  cases h <;> exact List.cons_ne_nil _ _

theorem numberEscape_eq (c : Char) :
    numberEscape c = '\\' :: 'u' :: '\x7b' :: (Nat.toDigits 16 c.toNat ++ ['\x7d']) :=
  rfl

theorem Writes.eq_of_begins {c d : Char} {cs ds : List Char} (hc : Writes c cs) (hd : Writes d ds)
    (h : cs <+: ds) : c = d := by
  -- the backslash never stands for itself, so the first character tells the last form apart
  have hbackslash : shortEscape? '\\' ≠ none := by decide
  cases hc with
  | short hc =>
    cases hd with
    | short hd =>
      simp only [List.cons_prefix_cons, true_and] at h
      obtain ⟨rfl, -⟩ := h
      exact Option.some.inj ((shortMeaning?_of_shortEscape? hc).symm.trans
        (shortMeaning?_of_shortEscape? hd))
    | number =>
      simp only [numberEscape_eq, List.cons_prefix_cons, true_and] at h
      obtain ⟨rfl, -⟩ := h
      exact absurd hc (shortEscape?_ne c)
    | itself hd =>
      obtain ⟨rfl, -⟩ := List.cons_prefix_cons.mp h
      exact absurd hd hbackslash
  | number =>
    cases hd with
    | short hd =>
      simp only [numberEscape_eq, List.cons_prefix_cons, true_and] at h
      obtain ⟨rfl, -⟩ := h
      exact absurd hd (shortEscape?_ne d)
    | number =>
      simp only [numberEscape_eq, List.cons_prefix_cons, true_and] at h
      exact Char.toNat_inj.mp (eq_of_prefix_toDigits (by decide) (by decide) (by decide) h)
    | itself hd =>
      obtain ⟨rfl, -⟩ := List.cons_prefix_cons.mp h
      exact absurd hd hbackslash
  | itself hc =>
    cases hd with
    | short hd =>
      obtain ⟨rfl, -⟩ := List.cons_prefix_cons.mp h
      exact absurd hc hbackslash
    | number =>
      obtain ⟨rfl, -⟩ := List.cons_prefix_cons.mp h
      exact absurd hc hbackslash
    | itself hd =>
      obtain ⟨rfl, -⟩ := List.cons_prefix_cons.mp h
      rfl

theorem quoted_injective : Function.Injective quoted := by
  intro s t h
  have hchars := String.ofList_inj.mp h
  have hescaped := List.append_cancel_right (List.cons.inj hchars).2
  exact String.toList_inj.mp (flatMap_injective
    (fun c d => (writes_escapeQuoted c).eq_of_begins (writes_escapeQuoted d))
    (fun c => (writes_escapeQuoted c).ne_nil) hescaped)

/-- A number and the blank that ends it. -/
def numeral (n : Nat) : List Char :=
  Nat.toDigits 10 n ++ [' ']

theorem eq_of_prefix_numeral (n m : Nat) (h : numeral n <+: numeral m) : n = m :=
  eq_of_prefix_toDigits (by decide) (by decide) (by decide) h

end Text

end Disasm
