import Disasm.Proofs.Decoding
import Disasm.Proofs.Noise

namespace Disasm

namespace Text.Utf8

/-- No byte of a character beyond ASCII is ASCII. -/
theorem beyond_of_mem_utf8EncodeChar {c : Char} {b : UInt8} (hc : 0x80 ≤ c.toNat)
    (hb : b ∈ String.utf8EncodeChar c) : 0x80 ≤ b.toNat := by
  have hfirst : ¬ c.toNat ≤ 0x7F := by omega
  simp only [String.utf8EncodeChar, show c.val.toNat = c.toNat from rfl, if_neg hfirst] at hb
  split_ifs at hb
  all_goals
    simp only [List.mem_cons, List.not_mem_nil, or_false] at hb
    rcases hb with rfl | rfl | rfl | rfl
  all_goals
    rw [UInt8.toNat_ofNat']
    omega

theorem exists_eq_ofByte {c : Char} (h : c.toNat < 0x80) : ∃ b : UInt8, c = ofByte b := by
  refine ⟨UInt8.ofNat c.toNat, Char.toNat_inj.mp ?_⟩
  rw [toNat_ofByte, UInt8.toNat_ofNat']
  omega

/-- An ASCII byte of a text is one of its characters. -/
theorem eq_append_of_flatMap_eq {cs : List Char} {first rest : List UInt8} {b : UInt8}
    (hb : b.toNat < 0x80) (h : cs.flatMap String.utf8EncodeChar = first ++ b :: rest) :
    ∃ before after, cs = before ++ ofByte b :: after ∧
      before.flatMap String.utf8EncodeChar = first ∧
      after.flatMap String.utf8EncodeChar = rest := by
  induction cs generalizing first with
  | nil => simp at h
  | cons c cs ih =>
    rw [List.flatMap_cons] at h
    by_cases hc : c.toNat < 0x80
    · obtain ⟨d, rfl⟩ := exists_eq_ofByte hc
      rw [utf8EncodeChar_ofByte (toNat_ofByte d ▸ hc), List.singleton_append] at h
      cases first with
      | nil =>
        obtain ⟨rfl, hrest⟩ := List.cons.inj h
        exact ⟨[], cs, rfl, rfl, hrest⟩
      | cons e first =>
        obtain ⟨rfl, hcs⟩ := List.cons.inj h
        obtain ⟨before, after, rfl, rfl, hafter⟩ := ih hcs
        refine ⟨ofByte d :: before, after, rfl, ?_, hafter⟩
        rw [List.flatMap_cons, utf8EncodeChar_ofByte (toNat_ofByte d ▸ hc), List.singleton_append]
    · -- the byte is none of the first character's, so it comes later
      rcases List.append_eq_append_iff.mp h with ⟨more, rfl, hcs⟩ | ⟨more, hmore, hcs⟩
      · obtain ⟨before, after, rfl, rfl, hafter⟩ := ih hcs
        exact ⟨c :: before, after, rfl, rfl, hafter⟩
      · cases more with
        | nil =>
          rw [← List.nil_append (b :: rest)] at hcs
          obtain ⟨before, after, rfl, hbefore, hafter⟩ := ih hcs.symm
          refine ⟨c :: before, after, rfl, ?_, hafter⟩
          rw [List.flatMap_cons, hbefore, hmore, List.append_nil, List.append_nil]
        | cons d more =>
          obtain ⟨rfl, -⟩ := List.cons.inj hcs
          have hmem : b ∈ String.utf8EncodeChar c := by simp [hmore]
          exact absurd (beyond_of_mem_utf8EncodeChar (Nat.not_lt.mp hc) hmem) (Nat.not_le.mpr hb)

theorem flatMap_append_ofByte_cons {b : UInt8} (hb : b.toNat < 0x80) (before after : List Char) :
    (before ++ ofByte b :: after).flatMap String.utf8EncodeChar =
      before.flatMap String.utf8EncodeChar ++ b :: after.flatMap String.utf8EncodeChar := by
  rw [List.flatMap_append, List.flatMap_cons, utf8EncodeChar_ofByte hb, List.singleton_append]

theorem flatMap_utf8EncodeChar_eq_nil_iff {cs : List Char} :
    cs.flatMap String.utf8EncodeChar = [] ↔ cs = [] := by
  cases cs with
  | nil => simp
  | cons c cs =>
    have hne : String.utf8EncodeChar c ≠ [] := by
      apply List.ne_nil_of_length_pos
      rw [String.length_utf8EncodeChar]
      exact c.utf8Size_pos
    simp [hne]

theorem lt_of_isAsciiBlank {c : Char} (h : isAsciiBlank c = true) : c.toNat < 0x80 := by
  simp only [isAsciiBlank, Bool.or_eq_true, beq_iff_eq] at h
  rcases h with (((rfl | rfl) | rfl) | rfl) | rfl <;> decide

/-- An ASCII blank is one of five bytes. -/
theorem isAsciiBlank_ofByte {b : UInt8} :
    isAsciiBlank (ofByte b) =
      (b == 0x20 || b == 0x09 || b == 0x0A || b == 0x0C || b == 0x0D) := by
  have h : ∀ d : UInt8, (ofByte b == ofByte d) = (b == d) := by
    intro d
    rw [Bool.eq_iff_iff, beq_iff_eq, beq_iff_eq, ofByte_eq_iff]
  rw [← h 0x20, ← h 0x09, ← h 0x0A, ← h 0x0C, ← h 0x0D]
  rfl

end Text.Utf8

namespace Listing

open Text.Utf8

/-- The numbers of the bytes at which a closing bracket with a colon behind it stands, if `n` bytes
came before. -/
def closings (n : Nat) : List Char → List Nat
  | [] => []
  | c :: cs =>
    let later := closings (n + (String.utf8EncodeChar c).length) cs
    if [')', ':'].isPrefixOf (c :: cs) then n :: later else later

def bytesBefore? (bytes : List UInt8) (n : Nat) : Option (List UInt8) :=
  if n ≤ bytes.length then some (bytes.take n) else none

def bytesFrom? (bytes : List UInt8) (n : Nat) : Option (List UInt8) :=
  if n ≤ bytes.length then some (bytes.drop n) else none

/-- Whether an ASCII blank and something more stand at the start. -/
def blankAndMore : List UInt8 → Bool
  | blank :: _ :: _ =>
    blank == 0x20 || blank == 0x09 || blank == 0x0A || blank == 0x0C || blank == 0x0D
  | _ => false

/-- Whether a bracket opens among the bytes, with one before it and one behind it at least. -/
def opensInside (bytes : List UInt8) : Bool :=
  bytes.zipIdx.any fun (b, n) => b == 0x28 && 1 ≤ n && n + 1 < bytes.length

/-- Whether the bracket that closes at a byte ends a member. -/
def endsMember? (bytes : List UInt8) (close : Nat) : Option Bool :=
  match bytesFrom? bytes (close + 2) with
  | none => none
  | some rest =>
    if blankAndMore rest then (bytesBefore? bytes close).map opensInside else some false

/-- The search for the header of an archive member through the bytes of a line. It comes to nothing
if it asks for bytes beyond the end. -/
def findMember? (line : String) : Option Bool :=
  (closings 0 line.toList).anyM (endsMember? (encode line))

theorem mem_closings_iff {n m : Nat} {cs : List Char} :
    m ∈ closings n cs ↔ ∃ before after, cs = before ++ ')' :: ':' :: after ∧
      m = n + (before.flatMap String.utf8EncodeChar).length := by
  induction cs generalizing n with
  | nil => simp [closings]
  | cons c cs ih =>
    have hcons : m ∈ closings n (c :: cs) ↔
        (m = n ∧ [')', ':'] <+: c :: cs) ∨
          m ∈ closings (n + (String.utf8EncodeChar c).length) cs := by
      simp only [closings, List.isPrefixOf_iff_prefix]
      split
      · next h => simp [h]
      · next h => simp [h]
    rw [hcons, ih]
    constructor
    · rintro (⟨rfl, after, he⟩ | ⟨before, after, rfl, rfl⟩)
      · exact ⟨[], after, he.symm, by simp⟩
      · exact ⟨c :: before, after, rfl, by simp; omega⟩
    · rintro ⟨before, after, he, rfl⟩
      cases before with
      | nil => exact .inl ⟨by simp, after, he.symm⟩
      | cons d before =>
        obtain ⟨rfl, rfl⟩ := List.cons.inj he
        exact .inr ⟨before, after, rfl, by simp; omega⟩

theorem blankAndMore_iff {cs : List Char} :
    blankAndMore (cs.flatMap String.utf8EncodeChar) = true ↔ followsMember (':' :: cs) = true := by
  rw [followsMember_iff]
  constructor
  · intro h
    unfold blankAndMore at h
    split at h
    · next blank d rest hbytes =>
      rw [← isAsciiBlank_ofByte] at h
      have hlow : blank.toNat < 0x80 := by
        rw [← toNat_ofByte]
        exact lt_of_isAsciiBlank h
      rw [← List.nil_append (blank :: d :: rest)] at hbytes
      obtain ⟨before, after, rfl, hbefore, hafter⟩ := eq_append_of_flatMap_eq hlow hbytes
      rw [flatMap_utf8EncodeChar_eq_nil_iff.mp hbefore]
      refine ⟨ofByte blank, after, rfl, h, ?_⟩
      rintro rfl
      cases hafter
    · cases h
  · rintro ⟨blank, rest, he, hb, hr⟩
    obtain ⟨b, rfl⟩ := exists_eq_ofByte (lt_of_isAsciiBlank hb)
    obtain ⟨d, more, hmore⟩ := List.exists_cons_of_ne_nil
      (mt flatMap_utf8EncodeChar_eq_nil_iff.mp hr)
    have hlow : b.toNat < 0x80 := toNat_ofByte b ▸ lt_of_isAsciiBlank hb
    rw [(List.cons.inj he).2, List.flatMap_cons, utf8EncodeChar_ofByte hlow, hmore]
    rw [isAsciiBlank_ofByte] at hb
    exact hb

theorem opensInside_iff {cs : List Char} :
    opensInside (cs.flatMap String.utf8EncodeChar) = true ↔ Opening.nothing.Fits cs := by
  simp only [opensInside, List.any_eq_true, Prod.exists, List.mem_zipIdx_iff_getElem?,
    Bool.and_eq_true, beq_iff_eq, decide_eq_true_eq]
  constructor
  · rintro ⟨b, n, hn, ⟨rfl, hfirst⟩, hlast⟩
    obtain ⟨hlt, hb⟩ := List.getElem?_eq_some_iff.mp hn
    have hsplit := List.take_append_drop n (cs.flatMap String.utf8EncodeChar)
    rw [List.drop_eq_getElem_cons hlt, hb] at hsplit
    obtain ⟨archive, member, rfl, harchive, hmember⟩ :=
      eq_append_of_flatMap_eq (by decide) hsplit.symm
    refine ⟨archive, member, rfl, ?_, ?_⟩
    · rintro rfl
      have hl := congrArg List.length harchive
      rw [List.flatMap_nil, List.length_nil, List.length_take] at hl
      omega
    · rintro rfl
      have hl := congrArg List.length hmember
      rw [List.flatMap_nil, List.length_nil, List.length_drop] at hl
      omega
  · rintro ⟨archive, member, rfl, ha, hm⟩
    have hbytes := flatMap_append_ofByte_cons (b := 0x28) (by decide) archive member
    have hfirst := List.length_pos_of_ne_nil (mt flatMap_utf8EncodeChar_eq_nil_iff.mp ha)
    have hlast := List.length_pos_of_ne_nil (mt flatMap_utf8EncodeChar_eq_nil_iff.mp hm)
    rw [show '(' = ofByte 0x28 from rfl, hbytes]
    refine ⟨0x28, (archive.flatMap String.utf8EncodeChar).length, by simp, ⟨rfl, hfirst⟩, ?_⟩
    rw [List.length_append, List.length_cons]
    omega

/-- At a bracket that closes, the bytes on either side are there. -/
theorem endsMember?_eq (before after : List Char) :
    endsMember? ((before ++ ')' :: ':' :: after).flatMap String.utf8EncodeChar)
        (before.flatMap String.utf8EncodeChar).length =
      some (blankAndMore (after.flatMap String.utf8EncodeChar) &&
        opensInside (before.flatMap String.utf8EncodeChar)) := by
  have hbytes : (before ++ ')' :: ':' :: after).flatMap String.utf8EncodeChar =
      before.flatMap String.utf8EncodeChar ++
        0x29 :: 0x3A :: after.flatMap String.utf8EncodeChar := by
    have hcolon := flatMap_append_ofByte_cons (b := 0x3A) (by decide) [] after
    have hclose := flatMap_append_ofByte_cons (b := 0x29) (by decide) before (':' :: after)
    exact hclose.trans (congrArg _ (congrArg _ hcolon))
  rw [hbytes]
  generalize before.flatMap String.utf8EncodeChar = first
  generalize after.flatMap String.utf8EncodeChar = rest
  have hfrom : bytesFrom? (first ++ 0x29 :: 0x3A :: rest) (first.length + 2) = some rest := by
    rw [bytesFrom?, if_pos (by simp), List.drop_append]
    simp
  have hbefore : bytesBefore? (first ++ 0x29 :: 0x3A :: rest) first.length = some first := by
    rw [bytesBefore?, if_pos (by simp), List.take_left]
  simp only [endsMember?, hfrom, hbefore, Option.map_some]
  cases blankAndMore rest <;> rfl

/-- Tests that all come to an answer come to one together. -/
theorem anyM_eq_some {α : Type} {f : α → Option Bool} {xs : List α}
    (h : ∀ x ∈ xs, ∃ b, f x = some b) : xs.anyM f = some (xs.any fun x => f x = some true) := by
  induction xs with
  | nil => rfl
  | cons x xs ih =>
    obtain ⟨b, hx⟩ := h x List.mem_cons_self
    have hxs := ih fun y hy => h y (List.mem_cons_of_mem x hy)
    rw [List.any_cons, hx]
    cases b with
    | true => simp [List.anyM, hx]
    | false => simp [List.anyM, hx, hxs]

/-- The search through the bytes always comes to an answer, that of the grammar. -/
theorem findMember?_eq (line : String) : findMember? line = some (isArchiveMember line) := by
  have hends : ∀ n ∈ closings 0 line.toList, ∃ b, endsMember? (encode line) n = some b := by
    intro n hn
    obtain ⟨before, after, hcs, rfl⟩ := mem_closings_iff.mp hn
    rw [encode, hcs, Nat.zero_add]
    exact ⟨_, endsMember?_eq before after⟩
  rw [findMember?, anyM_eq_some hends, Option.some_inj, Bool.eq_iff_iff, isArchiveMember,
    memberEnds_iff]
  simp only [List.any_eq_true, decide_eq_true_eq]
  constructor
  · rintro ⟨n, hn, he⟩
    obtain ⟨before, after, hcs, rfl⟩ := mem_closings_iff.mp hn
    rw [encode, hcs, Nat.zero_add, endsMember?_eq, Option.some_inj, Bool.and_eq_true,
      blankAndMore_iff, opensInside_iff] at he
    exact ⟨before, ':' :: after, hcs, he.2, he.1⟩
  · rintro ⟨before, after, hcs, hfits, hfollows⟩
    obtain ⟨blank, rest, rfl, -, -⟩ := followsMember_iff.mp hfollows
    refine ⟨_, mem_closings_iff.mpr ⟨before, blank :: rest, hcs, rfl⟩, ?_⟩
    rw [encode, hcs, Nat.zero_add, endsMember?_eq, Option.some_inj, Bool.and_eq_true,
      blankAndMore_iff, opensInside_iff]
    exact ⟨hfollows, hfits⟩

/-- A line is the header of an archive member exactly if it is put together like one, from
characters of any kind. The search through its bytes sees that at whichever brackets it can, and
never looks for a byte beyond the end. -/
theorem isArchiveMember_grammar (line : String) :
    (isArchiveMember line = true ↔ ∃ (archive member rest : String) (blank : Char),
      archive ≠ "" ∧ member ≠ "" ∧ rest ≠ "" ∧
        blank ∈ [' ', '\t', '\n', '\x0c', '\r'] ∧
        line = archive ++ "(" ++ member ++ "):" ++ String.singleton blank ++ rest) ∧
      findMember? line = some (isArchiveMember line) := by
  refine ⟨?_, findMember?_eq line⟩
  have hblank : ∀ c : Char, Text.isAsciiBlank c = true ↔ c ∈ [' ', '\t', '\n', '\x0c', '\r'] := by
    intro c
    simp [Text.isAsciiBlank, or_assoc]
  rw [isArchiveMember_iff]
  constructor
  · rintro ⟨ha, hm, hb, hr⟩
    exact ⟨_, _, _, _, ha, hm, hr, (hblank _).mp hb, rfl⟩
  · rintro ⟨archive, member, rest, blank, ha, hm, hr, hb, rfl⟩
    exact .archiveMember ha hm ((hblank blank).mpr hb) hr

/-- A vertical tab is no blank here, though it takes one byte like the others. -/
example : isArchiveMember "ü.a(日.o):\tß" = true ∧ isArchiveMember "ü.a(日.o):\x0bß" = false := by
  decide +kernel

end Listing

end Disasm
