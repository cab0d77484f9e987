import Mathlib.Data.List.Basic
import Disasm.Text.Utf8

namespace Disasm.Text

def AsciiBytes (bytes : List UInt8) : Prop :=
  ∀ b ∈ bytes, b.toNat < 0x80

namespace Unfinished

/-- The values that an unfinished character can still come to. -/
inductive Comes : Unfinished → Nat → Prop
  | last {u : Unfinished} {b : Nat} (ho : u.owed = 1) (hl : u.low ≤ b) (hh : b ≤ u.high) :
      Comes u (u.bits * 64 + (b - 0x80))
  | more {u : Unfinished} {b v : Nat} (ho : u.owed ≠ 1) (hl : u.low ≤ b) (hh : b ≤ u.high)
      (h : Comes { bits := u.bits * 64 + (b - 0x80), owed := u.owed - 1 } v) : Comes u v

/-- Whatever it comes to is a character beyond ASCII: no overlong form, no surrogate, nothing that
is too large. -/
def Sound (u : Unfinished) : Prop :=
  ∀ v, Comes u v → 0x80 ≤ v ∧ v.isValidChar

variable {n low high v : Nat}

theorem Comes.range_one (h : Comes ⟨n, 1, low, high⟩ v) :
    n * 64 + (low - 0x80) ≤ v ∧ v ≤ n * 64 + (high - 0x80) := by
  cases h with
  | last ho hl hh =>
    dsimp only at hl hh ⊢
    omega
  | more ho => exact absurd rfl ho

theorem Comes.range_two (h : Comes ⟨n, 2, low, high⟩ v) :
    (n * 64 + (low - 0x80)) * 64 ≤ v ∧ v ≤ (n * 64 + (high - 0x80)) * 64 + 63 := by
  cases h with
  | last ho => cases ho
  | more ho hl hh h =>
    have hv := h.range_one
    dsimp only at hl hh hv
    omega

theorem Comes.range_three (h : Comes ⟨n, 3, low, high⟩ v) :
    (n * 64 + (low - 0x80)) * 4096 ≤ v ∧ v ≤ (n * 64 + (high - 0x80)) * 4096 + 4095 := by
  cases h with
  | last ho => cases ho
  | more ho hl hh h =>
    have hv := h.range_two
    dsimp only at hl hh hv
    omega

theorem sound_of_range {u : Unfinished} {lowest highest : Nat}
    (hr : ∀ v, Comes u v → lowest ≤ v ∧ v ≤ highest) (hl : 0x80 ≤ lowest)
    (hh : highest < 0xD800 ∨ 0xDFFF < lowest ∧ highest < 0x110000) : u.Sound := by
  intro v hv
  obtain ⟨h1, h2⟩ := hr v hv
  refine ⟨by omega, ?_⟩
  unfold Nat.isValidChar
  omega

end Unfinished

namespace Utf8

namespace Reader

def Sound (r : Reader) : Prop :=
  ∀ u ∈ r.unfinished, u.Sound

/-- A character beyond ASCII has been read or is being read. -/
def Beyond (r : Reader) : Prop :=
  r.unfinished ≠ none ∨ ∃ c ∈ r.read, 0x80 ≤ c.toNat

theorem sound_none (read : List Char) : Sound ⟨none, read⟩ := by
  intro u hu
  cases hu

theorem sound_some {u : Unfinished} (h : u.Sound) (read : List Char) : Sound ⟨some u, read⟩ := by
  intro u' hu
  cases hu
  exact h

end Reader

open Unfinished Reader

theorem beyond_replacement (read : List Char) : ∃ c ∈ replacement :: read, 0x80 ≤ c.toNat :=
  ⟨replacement, List.mem_cons_self, by decide⟩

/-- The first bytes of longer characters, and what they leave unfinished. -/
inductive Opens : Nat → Unfinished → Prop
  | two {n b : Nat} (hb : b = n + 0xC0) (hl : 2 ≤ n) (hh : n ≤ 0x1F) :
      Opens b ⟨n, 1, 0x80, 0xBF⟩
  /-- Smaller second bytes would make an overlong form. -/
  | threeLow : Opens 0xE0 ⟨0, 2, 0xA0, 0xBF⟩
  | three {n b : Nat} (hb : b = n + 0xE0) (hl : 1 ≤ n) (hh : n ≤ 0xF) (hne : n ≠ 0xD) :
      Opens b ⟨n, 2, 0x80, 0xBF⟩
  /-- Larger second bytes would make a surrogate. -/
  | threeSplit : Opens 0xED ⟨0xD, 2, 0x80, 0x9F⟩
  /-- Smaller second bytes would make an overlong form. -/
  | fourLow : Opens 0xF0 ⟨0, 3, 0x90, 0xBF⟩
  | four {n b : Nat} (hb : b = n + 0xF0) (hl : 1 ≤ n) (hh : n ≤ 3) : Opens b ⟨n, 3, 0x80, 0xBF⟩
  /-- Larger second bytes would make a value that is too large. -/
  | fourHigh : Opens 0xF4 ⟨4, 3, 0x80, 0x8F⟩

theorem Opens.sound {b : Nat} {u : Unfinished} (h : Opens b u) : u.Sound := by
  cases h with
  | two => exact sound_of_range (fun v => Comes.range_one) (by omega) (by omega)
  | threeLow => exact sound_of_range (fun v => Comes.range_two) (by omega) (by omega)
  | three => exact sound_of_range (fun v => Comes.range_two) (by omega) (by omega)
  | threeSplit => exact sound_of_range (fun v => Comes.range_two) (by omega) (by omega)
  | fourLow => exact sound_of_range (fun v => Comes.range_three) (by omega) (by omega)
  | four => exact sound_of_range (fun v => Comes.range_three) (by omega) (by omega)
  | fourHigh => exact sound_of_range (fun v => Comes.range_three) (by omega) (by omega)

theorem start_of_opens {b : Nat} {u : Unfinished} (h : Opens b u) (read : List Char) :
    start read b = ⟨some u, read⟩ := by
  cases h with
  | two hb hl hh =>
    subst hb
    rw [start, if_neg (by omega), if_pos (by omega), Nat.add_sub_cancel]
  | threeLow => rfl
  | three hb hl hh hne =>
    subst hb
    rw [start, if_neg (by omega), if_neg (by omega), if_neg (by omega), if_neg (by omega),
      if_pos (by omega), Nat.add_sub_cancel]
  | threeSplit => rfl
  | fourLow => rfl
  | four hb hl hh =>
    subst hb
    rw [start, if_neg (by omega), if_neg (by omega), if_neg (by omega), if_neg (by omega),
      if_neg (by omega), if_neg (by omega), if_pos (by omega), Nat.add_sub_cancel]
  | fourHigh => rfl

theorem start_of_not_opens {b : Nat} (hb : 0x80 ≤ b) (h : ¬ ∃ u, Opens b u) (read : List Char) :
    start read b = ⟨none, replacement :: read⟩ := by
  have hne {d : Nat} {u : Unfinished} (hd : Opens d u) : b ≠ d := by
    rintro rfl
    exact h ⟨u, hd⟩
  have hsplit : b ≠ 0xED := hne .threeSplit
  have htwo : ¬ (0xC2 ≤ b ∧ b ≤ 0xDF) := fun hr =>
    h ⟨⟨b - 0xC0, 1, 0x80, 0xBF⟩, .two (by omega) (by omega) (by omega)⟩
  have hthree : ¬ (0xE1 ≤ b ∧ b ≤ 0xEF) := fun hr =>
    h ⟨⟨b - 0xE0, 2, 0x80, 0xBF⟩, .three (by omega) (by omega) (by omega) (by omega)⟩
  have hfour : ¬ (0xF1 ≤ b ∧ b ≤ 0xF3) := fun hr =>
    h ⟨⟨b - 0xF0, 3, 0x80, 0xBF⟩, .four (by omega) (by omega) (by omega)⟩
  rw [start, if_neg (Nat.not_lt.mpr hb), if_neg htwo, if_neg (hne .threeLow), if_neg hsplit,
    if_neg hthree, if_neg (hne .fourLow), if_neg hfour, if_neg (hne .fourHigh)]

/-- A byte is a character, opens one or is replaced. -/
theorem start_cases (read : List Char) (b : Nat) :
    (b < 0x80 ∧ start read b = ⟨none, Char.ofNat b :: read⟩) ∨
      (∃ u, Opens b u ∧ start read b = ⟨some u, read⟩) ∨
      start read b = ⟨none, replacement :: read⟩ := by
  by_cases hb : b < 0x80
  · exact .inl ⟨hb, if_pos hb⟩
  · by_cases ho : ∃ u, Opens b u
    · obtain ⟨u, hu⟩ := ho
      exact .inr (.inl ⟨u, hu, start_of_opens hu read⟩)
    · exact .inr (.inr (start_of_not_opens (Nat.not_lt.mp hb) ho read))

theorem sound_start (read : List Char) (b : Nat) : (start read b).Sound := by
  rcases start_cases read b with ⟨-, he⟩ | ⟨u, hu, he⟩ | he
  · rw [he]
    exact sound_none _
  · rw [he]
    exact sound_some hu.sound _
  · rw [he]
    exact sound_none _

theorem beyond_start {read : List Char} {b : Nat}
    (h : (∃ c ∈ read, 0x80 ≤ c.toNat) ∨ 0x80 ≤ b) : (start read b).Beyond := by
  rcases start_cases read b with ⟨hb, he⟩ | ⟨u, -, he⟩ | he
  · rw [he]
    rcases h with ⟨c, hc, hbeyond⟩ | hbeyond
    · exact .inr ⟨c, List.mem_cons_of_mem _ hc, hbeyond⟩
    · omega
  · rw [he]
    exact .inl (Option.some_ne_none u)
  · rw [he]
    exact .inr (beyond_replacement read)

/-- What a byte does: it starts a character, ends one, goes on with one or breaks one off. -/
theorem feed_cases (r : Reader) (byte : UInt8) :
    (r.unfinished = none ∧ feed r byte = start r.read byte.toNat) ∨
    ∃ u, r.unfinished = some u ∧
      ((∃ v, Comes u v ∧ feed r byte = ⟨none, Char.ofNat v :: r.read⟩) ∨
        (∃ u' : Unfinished, (∀ v, Comes u' v → Comes u v) ∧ feed r byte = ⟨some u', r.read⟩) ∨
        feed r byte = start (replacement :: r.read) byte.toNat) := by
  unfold feed
  cases hu : r.unfinished with
  | none => exact .inl ⟨rfl, rfl⟩
  | some u =>
    refine .inr ⟨u, rfl, ?_⟩
    dsimp only
    split
    · next hb =>
      split
      · next ho => exact .inl ⟨_, .last ho hb.1 hb.2, rfl⟩
      · next ho => exact .inr (.inl ⟨_, fun v hv => .more ho hb.1 hb.2 hv, rfl⟩)
    · exact .inr (.inr rfl)

theorem sound_feed {r : Reader} (h : r.Sound) (byte : UInt8) : (feed r byte).Sound := by
  rcases feed_cases r byte with ⟨-, he⟩ | ⟨u, hu, ⟨v, -, he⟩ | ⟨u', hc, he⟩ | he⟩
  · rw [he]
    exact sound_start _ _
  · rw [he]
    exact sound_none _
  · rw [he]
    exact sound_some (fun v hv => h u hu v (hc v hv)) _
  · rw [he]
    exact sound_start _ _

/-- A byte keeps what is beyond ASCII, and a byte beyond ASCII brings it about. -/
theorem beyond_feed {r : Reader} (hs : r.Sound) {byte : UInt8}
    (h : r.Beyond ∨ 0x80 ≤ byte.toNat) : (feed r byte).Beyond := by
  rcases feed_cases r byte with ⟨hn, he⟩ | ⟨u, hu, ⟨v, hc, he⟩ | ⟨u', -, he⟩ | he⟩
  · rw [he]
    refine beyond_start ?_
    rcases h with (hne | hc) | hb
    · exact absurd hn hne
    · exact .inl hc
    · exact .inr hb
  · obtain ⟨hv, hvalid⟩ := hs u hu v hc
    rw [he]
    refine .inr ⟨_, List.mem_cons_self, ?_⟩
    rw [Char.ofNat, dif_pos hvalid]
    exact hv
  · rw [he]
    exact .inl (Option.some_ne_none u')
  · rw [he]
    exact beyond_start (.inl (beyond_replacement r.read))

theorem beyond_foldl {bytes : List UInt8} {r : Reader} (hs : r.Sound)
    (h : r.Beyond ∨ ∃ b ∈ bytes, 0x80 ≤ b.toNat) : (bytes.foldl feed r).Beyond := by
  induction bytes generalizing r with
  | nil => simpa using h
  | cons b bytes ih =>
    rw [List.foldl_cons]
    refine ih (sound_feed hs b) ?_
    rcases h with h | ⟨d, hd, hb⟩
    · exact .inl (beyond_feed hs (.inl h))
    · rcases List.mem_cons.mp hd with rfl | hd
      · exact .inl (beyond_feed hs (.inr hb))
      · exact .inr ⟨d, hd, hb⟩

theorem Reader.Beyond.finish {r : Reader} (h : r.Beyond) : ∃ c ∈ r.finish, 0x80 ≤ c.toNat := by
  unfold Reader.finish
  cases hu : r.unfinished with
  | none =>
    rcases h with hne | ⟨c, hc, hb⟩
    · exact absurd hu hne
    · exact ⟨c, List.mem_reverse.mpr hc, hb⟩
  | some u =>
    obtain ⟨c, hc, hb⟩ := beyond_replacement r.read
    exact ⟨c, List.mem_reverse.mpr hc, hb⟩

/-- Bytes that are not all ASCII give a text that is not. -/
theorem decode_beyond {bytes : List UInt8} (h : ∃ b ∈ bytes, 0x80 ≤ b.toNat) :
    ∃ c ∈ (decode bytes).toList, 0x80 ≤ c.toNat := by
  rw [decode, String.toList_ofList]
  refine (beyond_foldl ?_ (.inr h)).finish
  exact sound_none []

section

variable {v n bits owed low high : Nat} {read : List Char}

theorem feed_first (hn : n < 256) : feed ⟨none, read⟩ (UInt8.ofNat n) = start read n := by
  simp only [feed, UInt8.toNat_ofNat_of_lt' hn]

/-- A byte that goes on with a character brings six more bits. -/
theorem feed_more (hn : n < 256) (ho : owed ≠ 1) (hl : low ≤ n) (hh : n ≤ high) :
    feed ⟨some ⟨bits, owed, low, high⟩, read⟩ (UInt8.ofNat n) =
      ⟨some ⟨bits * 64 + (n - 0x80), owed - 1, 0x80, 0xBF⟩, read⟩ := by
  simp only [feed, UInt8.toNat_ofNat_of_lt' hn, if_pos (And.intro hl hh), if_neg ho]

theorem feed_last (hn : n < 256) (hl : low ≤ n) (hh : n ≤ high) :
    feed ⟨some ⟨bits, 1, low, high⟩, read⟩ (UInt8.ofNat n) =
      ⟨none, Char.ofNat (bits * 64 + (n - 0x80)) :: read⟩ := by
  simp only [feed, UInt8.toNat_ofNat_of_lt' hn, if_pos (And.intro hl hh), if_true]

theorem opens_two (hl : 0x7F < v) (hh : v ≤ 0x7FF) :
    Opens (v / 64 % 32 + 192) ⟨v / 64, 1, 0x80, 0xBF⟩ :=
  .two (by omega) (by omega) (by omega)

/-- The second of three bytes is in the range that the first one leaves. -/
theorem opens_three (hl : 0x7FF < v) (hh : v ≤ 0xFFFF) (hv : v.isValidChar) :
    ∃ low high, low ≤ v / 64 % 64 + 128 ∧ v / 64 % 64 + 128 ≤ high ∧
      Opens (v / 4096 % 16 + 224) ⟨v / 4096, 2, low, high⟩ := by
  unfold Nat.isValidChar at hv
  by_cases h0 : v / 4096 = 0
  · rw [h0]
    exact ⟨0xA0, 0xBF, by omega, by omega, .threeLow⟩
  · by_cases h13 : v / 4096 = 0xD
    · rw [h13]
      exact ⟨0x80, 0x9F, by omega, by omega, .threeSplit⟩
    · exact ⟨0x80, 0xBF, by omega, by omega, .three (by omega) (by omega) (by omega) h13⟩

/-- So is the second of four. -/
theorem opens_four (hl : 0xFFFF < v) (hh : v ≤ 0x10FFFF) :
    ∃ low high, low ≤ v / 4096 % 64 + 128 ∧ v / 4096 % 64 + 128 ≤ high ∧
      Opens (v / 262144 % 8 + 240) ⟨v / 262144, 3, low, high⟩ := by
  by_cases h0 : v / 262144 = 0
  · rw [h0]
    exact ⟨0x90, 0xBF, by omega, by omega, .fourLow⟩
  · by_cases h4 : v / 262144 = 4
    · rw [h4]
      exact ⟨0x80, 0x8F, by omega, by omega, .fourHigh⟩
    · exact ⟨0x80, 0xBF, by omega, by omega, .four (by omega) (by omega) (by omega)⟩

/-- The bytes of a character are read as that character. -/
theorem foldl_feed_utf8EncodeChar (c : Char) (read : List Char) :
    (String.utf8EncodeChar c).foldl feed ⟨none, read⟩ = ⟨none, c :: read⟩ := by
  have hv : c.toNat.isValidChar := c.valid
  have hmax : c.toNat ≤ 0x10FFFF := by
    unfold Nat.isValidChar at hv
    omega
  have hback : ∀ n, n = c.toNat → Char.ofNat n = c := by
    rintro n rfl
    exact Char.ofNat_toNat c
  simp only [String.utf8EncodeChar, show c.val.toNat = c.toNat from rfl]
  split_ifs with h1 h2 h3
  · rw [List.foldl_cons, feed_first (by omega), start, if_pos (by omega), List.foldl_nil,
      Char.ofNat_toNat]
  · rw [List.foldl_cons, feed_first (by omega), start_of_opens (opens_two (by omega) h2),
      List.foldl_cons, feed_last (by omega) (by omega) (by omega), List.foldl_nil,
      hback _ (by omega)]
  · obtain ⟨low, high, hl, hh, ho⟩ := opens_three (by omega) h3 hv
    rw [List.foldl_cons, feed_first (by omega), start_of_opens ho, List.foldl_cons,
      feed_more (by omega) (by omega) hl hh, List.foldl_cons,
      feed_last (by omega) (by omega) (by omega), List.foldl_nil, hback _ (by omega)]
  · obtain ⟨low, high, hl, hh, ho⟩ := opens_four (by omega) hmax
    rw [List.foldl_cons, feed_first (by omega), start_of_opens ho, List.foldl_cons,
      feed_more (by omega) (by omega) hl hh, List.foldl_cons,
      feed_more (by omega) (by omega) (by omega) (by omega), List.foldl_cons,
      feed_last (by omega) (by omega) (by omega), List.foldl_nil, hback _ (by omega)]

theorem foldl_feed_encode (cs : List Char) (read : List Char) :
    (cs.flatMap String.utf8EncodeChar).foldl feed ⟨none, read⟩ = ⟨none, cs.reverse ++ read⟩ := by
  induction cs generalizing read with
  | nil => rfl
  | cons c cs ih =>
    rw [List.flatMap_cons, List.foldl_append, foldl_feed_utf8EncodeChar, ih, List.reverse_cons,
      List.append_assoc, List.singleton_append]

/-- Nothing is replaced in the bytes of a text. -/
theorem decode_encode (s : String) : decode (encode s) = s := by
  rw [decode, encode, show ({} : Reader) = ⟨none, []⟩ from rfl, foldl_feed_encode]
  simp [Reader.finish]

end

def ofByte (b : UInt8) : Char :=
  Char.ofNat b.toNat

theorem toNat_ofByte (b : UInt8) : (ofByte b).toNat = b.toNat := by
  have hb := b.toNat_lt
  rw [ofByte, Char.ofNat, dif_pos (.inl (by omega))]
  rfl

theorem ofByte_eq_iff {b d : UInt8} : ofByte b = ofByte d ↔ b = d := by
  constructor
  · intro h
    have hn := congrArg Char.toNat h
    rw [toNat_ofByte, toNat_ofByte] at hn
    exact UInt8.toNat_inj.mp hn
  · rintro rfl
    rfl

theorem utf8EncodeChar_ofByte {b : UInt8} (h : b.toNat < 0x80) :
    String.utf8EncodeChar (ofByte b) = [b] := by
  have hv : (ofByte b).val.toNat = b.toNat := toNat_ofByte b
  simp only [String.utf8EncodeChar, hv]
  rw [if_pos (by omega), UInt8.ofNat_toNat]

/-- ASCII characters take a byte each. -/
theorem flatMap_utf8EncodeChar_ofByte {bytes : List UInt8} (h : AsciiBytes bytes) :
    (bytes.map ofByte).flatMap String.utf8EncodeChar = bytes := by
  induction bytes with
  | nil => rfl
  | cons b bytes ih =>
    rw [List.map_cons, List.flatMap_cons, utf8EncodeChar_ofByte (h b List.mem_cons_self),
      ih fun d hd => h d (List.mem_cons_of_mem b hd), List.singleton_append]

theorem decode_of_ascii {bytes : List UInt8} (h : AsciiBytes bytes) :
    (decode bytes).toList = bytes.map ofByte := by
  have hbytes : encode (String.ofList (bytes.map ofByte)) = bytes := by
    rw [encode, String.toList_ofList, flatMap_utf8EncodeChar_ofByte h]
  have hd := decode_encode (String.ofList (bytes.map ofByte))
  rw [hbytes] at hd
  rw [hd, String.toList_ofList]

end Utf8

end Disasm.Text
