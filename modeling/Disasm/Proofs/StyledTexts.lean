import Disasm.CommandLine.Grammar
import Disasm.Proofs.Decoding
import Disasm.Proofs.PrintedLog
import Disasm.Proofs.Separators

namespace Disasm

namespace Text

/-- A character that a stream without control sequences lets through. -/
def Calm (c : Char) : Prop :=
  c ∈ ['\t', '\n', '\x0c', '\r'] ∨ (0x20 ≤ c.toNat ∧ c.toNat ≠ 0x7F)

instance : DecidablePred Calm := fun c =>
  inferInstanceAs (Decidable (c ∈ ['\t', '\n', '\x0c', '\r'] ∨ (0x20 ≤ c.toNat ∧ c.toNat ≠ 0x7F)))

/-- A text of which such a stream lets all through. -/
def Still (s : String) : Prop :=
  ∀ c ∈ s.toList, Calm c

instance : DecidablePred Still := fun s =>
  List.decidableBAll Calm s.toList

theorem Steady.still {s : String} (h : Steady s) : Still s := by
  intro c hc
  have hsteers := h c hc
  unfold Steers at hsteers
  exact .inr (by omega)

namespace Control

theorem isContinuation_iff {b : UInt8} :
    isContinuation b = true ↔ 0x80 ≤ b.toNat ∧ b.toNat < 0xC0 := by
  simp [isContinuation, UInt8.le_iff_toNat_le, UInt8.lt_iff_toNat_lt]

theorem shows_ground_iff {b : UInt8} :
    ground.shows b = true ↔ (0x20 ≤ b.toNat ∧ b.toNat < 0x7F) ∨ 0xC0 ≤ b.toNat ∨
      (b.toNat = 0x09 ∨ b.toNat = 0x0A ∨ b.toNat = 0x0C ∨ b.toNat = 0x0D) := by
  simp [shows, showsBlank, isBreak, UInt8.le_iff_toNat_le, UInt8.lt_iff_toNat_lt,
    ← UInt8.toNat_inj, or_assoc]

/-- The first byte of a calm character shows, and the others go on with it. -/
theorem bytes_of_calm {c : Char} (h : Calm c) :
    ∃ b rest, String.utf8EncodeChar c = b :: rest ∧ ground.shows b = true ∧
      ∀ d ∈ rest, isContinuation d = true := by
  have hv : c.val.toNat = c.toNat := rfl
  unfold String.utf8EncodeChar
  dsimp only
  rw [hv]
  split
  · refine ⟨_, [], rfl, ?_, fun d hd => absurd hd List.not_mem_nil⟩
    rcases h with h | ⟨hlow, hdelete⟩
    · simp only [List.mem_cons, List.not_mem_nil, or_false] at h
      rcases h with rfl | rfl | rfl | rfl <;> decide
    · have hb : (UInt8.ofNat c.toNat).toNat = c.toNat := by
        rw [UInt8.toNat_ofNat']
        omega
      rw [shows_ground_iff, hb]
      omega
  -- a first byte of several has at least the bits of 0xC0, and each other byte those of 0x80
  · have hfirst : ∀ n, 0xC0 ≤ n → n < 0x100 → ground.shows (UInt8.ofNat n) = true := by
      intro n hl hh
      rw [shows_ground_iff, UInt8.toNat_ofNat']
      omega
    have hlater : ∀ n, isContinuation (UInt8.ofNat (n % 0x40 + 0x80)) = true := by
      intro n
      rw [isContinuation_iff, UInt8.toNat_ofNat']
      omega
    have hnone : ∀ d ∈ ([] : List UInt8), isContinuation d = true :=
      fun d hd => absurd hd List.not_mem_nil
    split
    · exact ⟨_, _, rfl, hfirst _ (by omega) (by omega),
        List.forall_mem_cons.mpr ⟨hlater _, hnone⟩⟩
    · split
      · exact ⟨_, _, rfl, hfirst _ (by omega) (by omega), List.forall_mem_cons.mpr
          ⟨hlater _, List.forall_mem_cons.mpr ⟨hlater _, hnone⟩⟩⟩
      · exact ⟨_, _, rfl, hfirst _ (by omega) (by omega), List.forall_mem_cons.mpr ⟨hlater _,
          List.forall_mem_cons.mpr ⟨hlater _, List.forall_mem_cons.mpr ⟨hlater _, hnone⟩⟩⟩⟩

/-- What a stream writes of some bytes, whatever comes after them. The stream may look back at the
last byte, which is no part of what it writes. -/
def Leaves (f : Bool → List UInt8 → List UInt8) (bytes kept : List UInt8) : Prop :=
  ∀ shown more, ∃ shown', f shown (bytes ++ more) = kept ++ f shown' more

section

variable {f : Bool → List UInt8 → List UInt8}

theorem Leaves.nil : Leaves f [] [] :=
  fun shown _ => ⟨shown, rfl⟩

theorem Leaves.append {bytes kept bytes' kept' : List UInt8} (h : Leaves f bytes kept)
    (h' : Leaves f bytes' kept') : Leaves f (bytes ++ bytes') (kept ++ kept') := by
  intro shown more
  obtain ⟨between, hb⟩ := h shown (bytes' ++ more)
  obtain ⟨behind, hm⟩ := h' between more
  exact ⟨behind, by rw [List.append_assoc, hb, hm, List.append_assoc]⟩

theorem Leaves.flatMap {α : Type} {g h : α → List UInt8} {as : List α}
    (ha : ∀ a ∈ as, Leaves f (g a) (h a)) : Leaves f (as.flatMap g) (as.flatMap h) := by
  induction as with
  | nil => exact .nil
  | cons a as ih =>
    rw [List.flatMap_cons, List.flatMap_cons]
    exact (ha a List.mem_cons_self).append (ih fun b hb => ha b (List.mem_cons_of_mem a hb))

end

section Sequences

variable {m : Control} {b : UInt8} {digits more : List UInt8}

/-- The digits of the number in a control sequence. -/
def Digits (digits : List UInt8) : Prop :=
  ∀ b ∈ digits, 0x30 ≤ b.toNat ∧ b.toNat ≤ 0x39

/-- The control sequence of a style: two bytes that open it, a number, and one that ends it. -/
theorem encode_styleSequence (n : Nat) :
    ∃ digits, Digits digits ∧
      Utf8.encode (styleSequence n) = 0x1B :: 0x5B :: (digits ++ [0x6D]) := by
  refine ⟨Utf8.encode (toString n), ?_, ?_⟩
  · intro b hb
    obtain ⟨c, hc, hb⟩ := List.mem_flatMap.mp hb
    rw [Nat.toString_eq_ofList_toDigits, String.toList_ofList] at hc
    have hdigit : 0x30 ≤ c.toNat ∧ c.toNat ≤ 0x39 := Char.isDigit_iff_toNat.mp
      (Nat.isDigit_of_mem_toDigits (by decide) (by decide) hc)
    have hascii : c.val.toNat ≤ 0x7F := Nat.le_trans hdigit.2 (by decide)
    rw [String.utf8EncodeChar, if_pos hascii, List.mem_singleton] at hb
    rw [hb, UInt8.toNat_ofNat', Nat.mod_eq_of_lt (by omega)]
    exact hdigit
  · simp only [styleSequence, Utf8.encode, String.toList_append, List.flatMap_append]
    rfl

theorem keep_of_hidden (hs : m.shows b = false) (hc : isContinuation b = false) :
    keep m (b :: more) = keep (m.next b) more := by
  rw [keep, hs, hc]
  rfl

theorem pass_of_hidden (hs : m.shows b = false) :
    pass m false (b :: more) = pass (m.next b) false more := by
  rw [pass, hs]
  rfl

theorem digit_in_parameters (h : 0x30 ≤ b.toNat ∧ b.toNat ≤ 0x39) :
    parameters.shows b = false ∧ isContinuation b = false ∧ parameters.next b = .parameters := by
  refine ⟨?_, ?_, ?_⟩
  · simp [shows, showsBlank, isBreak, ← UInt8.toNat_inj]
    omega
  · simp [isContinuation, UInt8.le_iff_toNat_le]
    omega
  · unfold next
    dsimp only
    rw [if_neg (by omega), if_neg (by omega), if_neg (by omega)]

theorem keep_parameters (h : Digits digits) :
    keep .parameters (digits ++ 0x6D :: more) = keep .ground more := by
  induction digits with
  | nil => rfl
  | cons b digits ih =>
    obtain ⟨hs, hc, hn⟩ := digit_in_parameters (h b List.mem_cons_self)
    rw [List.cons_append, keep_of_hidden hs hc, hn, ih fun d hd => h d (List.mem_cons_of_mem b hd)]

theorem pass_parameters (h : Digits digits) :
    pass .parameters false (digits ++ 0x6D :: more) = pass .ground false more := by
  induction digits with
  | nil => rfl
  | cons b digits ih =>
    obtain ⟨hs, -, hn⟩ := digit_in_parameters (h b List.mem_cons_self)
    rw [List.cons_append, pass_of_hidden hs, hn, ih fun d hd => h d (List.mem_cons_of_mem b hd)]

theorem leaves_keep_sequence (n : Nat) :
    Leaves (fun _ => keep .ground) (Utf8.encode (styleSequence n)) [] := by
  obtain ⟨digits, hd, he⟩ := encode_styleSequence n
  intro shown more
  refine ⟨shown, ?_⟩
  rw [he]
  simp only [List.cons_append, List.append_assoc, List.nil_append]
  exact keep_parameters hd

theorem leaves_pass_sequence (n : Nat) :
    Leaves (pass .ground) (Utf8.encode (styleSequence n)) [] := by
  obtain ⟨digits, hd, he⟩ := encode_styleSequence n
  intro shown more
  refine ⟨false, ?_⟩
  rw [he]
  simp only [List.cons_append, List.append_assoc, List.nil_append]
  cases shown <;> exact pass_parameters hd

end Sequences

section Characters

variable {rest more : List UInt8}

theorem keep_continuations (h : ∀ d ∈ rest, isContinuation d = true) :
    keep .ground (rest ++ more) = rest ++ keep .ground more := by
  induction rest with
  | nil => rfl
  | cons d rest ih =>
    rw [List.cons_append, keep, h d List.mem_cons_self, Bool.or_true, if_pos rfl,
      ih fun b hb => h b (List.mem_cons_of_mem d hb), List.cons_append]

theorem pass_continuations (h : ∀ d ∈ rest, isContinuation d = true) :
    pass .ground true (rest ++ more) = rest ++ pass .ground true more := by
  induction rest with
  | nil => rfl
  | cons d rest ih =>
    rw [List.cons_append, pass, h d List.mem_cons_self, Bool.or_true, Bool.true_and, if_pos rfl,
      ite_self, ih fun b hb => h b (List.mem_cons_of_mem d hb), List.cons_append]

theorem next_ground {b : UInt8} (h : ground.shows b = true) : ground.next b = .ground := by
  rw [shows_ground_iff] at h
  unfold next
  dsimp only
  split
  · rfl
  · rw [if_neg (by omega)]

theorem leaves_keep_calm {c : Char} (h : Calm c) :
    Leaves (fun _ => keep .ground) (String.utf8EncodeChar c) (String.utf8EncodeChar c) := by
  obtain ⟨b, rest, he, hb, hr⟩ := bytes_of_calm h
  intro shown more
  refine ⟨shown, ?_⟩
  rw [he]
  change keep .ground (b :: (rest ++ more)) = b :: (rest ++ keep .ground more)
  rw [keep, hb, Bool.true_or, if_pos rfl, keep_continuations hr]

theorem leaves_pass_calm {c : Char} (h : Calm c) :
    Leaves (pass .ground) (String.utf8EncodeChar c) (String.utf8EncodeChar c) := by
  obtain ⟨b, rest, he, hb, hr⟩ := bytes_of_calm h
  intro shown more
  refine ⟨true, ?_⟩
  rw [he, List.cons_append, List.cons_append, pass, hb, next_ground hb, ite_self,
    pass_continuations hr]
  cases shown <;> rfl

end Characters

end Control

namespace Styled

open Control

variable {s : Styled}

/-- The text without its styles. -/
def bare (s : Styled) : String :=
  String.join (s.map Span.text)

theorem bare_cons {span : Span} : bare (span :: s) = span.text ++ s.bare := by
  rw [bare, List.map_cons, String.join_cons, bare]

theorem bare_append {t : Styled} : bare (s ++ t) = s.bare ++ t.bare := by
  rw [bare, List.map_append, String.join_append, bare, bare]

theorem encode_join (ls : List String) : Utf8.encode (String.join ls) = ls.flatMap Utf8.encode := by
  rw [Utf8.encode, String.toList_join, List.flatMap_assoc]
  rfl

theorem encode_append (a b : String) : Utf8.encode (a ++ b) = Utf8.encode a ++ Utf8.encode b := by
  rw [Utf8.encode, String.toList_append, List.flatMap_append]
  rfl

/-- A stream that lets calm characters through and leaves out the sequences of styles leaves a text
without its styles. -/
theorem leaves_coded {f : Bool → List UInt8 → List UInt8}
    (hc : ∀ {c}, Calm c → Leaves f (String.utf8EncodeChar c) (String.utf8EncodeChar c))
    (hs : ∀ n, Leaves f (Utf8.encode (styleSequence n)) [])
    (h : ∀ span ∈ s, Still span.text) :
    Leaves f (Utf8.encode s.coded) (Utf8.encode s.bare) := by
  rw [coded, bare, encode_join, encode_join, List.flatMap_map, List.flatMap_map]
  refine .flatMap fun span hspan => ?_
  have htext : Leaves f (Utf8.encode span.text) (Utf8.encode span.text) :=
    .flatMap fun c hmem => hc (h span hspan c hmem)
  unfold Span.coded
  split
  · exact htext
  · have hcodes : Leaves f (Utf8.encode (String.join (span.style.codes.map styleSequence)))
        (span.style.codes.flatMap fun _ => []) := by
      rw [encode_join, List.flatMap_map]
      exact .flatMap fun n _ => hs n
    rw [encode_append, encode_append]
    have hall := (hcodes.append htext).append (hs 0)
    rwa [List.append_nil, List.flatMap_eq_nil_iff.mpr fun _ _ => rfl, List.nil_append] at hall

/-- What there is without a terminal is the text without its styles, and it is what is shown. -/
theorem written_eq_bare (h : ∀ span ∈ s, Still span.text) :
    s.written = s.bare ∧ s.plain = s.bare := by
  obtain ⟨_, hpass⟩ := leaves_coded leaves_pass_calm leaves_pass_sequence h false []
  obtain ⟨_, hkeep⟩ := leaves_coded leaves_keep_calm leaves_keep_sequence h false []
  simp only [Control.pass, Control.keep, List.append_nil] at hpass hkeep
  rw [written, plain, filtered, visible, hpass, hkeep, Utf8.decode_encode]
  exact ⟨rfl, rfl⟩

end Styled

end Text

namespace CommandLine.UsageError

open Text

/-- Every line feed has a blank behind it. -/
def Indented : List Char → Prop
  | [] => True
  | c :: cs => (c = '\n' → cs.head? = some ' ') ∧ Indented cs

instance : DecidablePred Indented
  | [] => inferInstanceAs (Decidable True)
  | c :: cs =>
    have := instDecidablePredListCharIndented cs
    inferInstanceAs (Decidable ((c = '\n' → cs.head? = some ' ') ∧ Indented cs))

theorem Indented.append {cs ds : List Char} (hc : Indented cs) (hd : Indented ds) :
    Indented (cs ++ ds) := by
  induction cs with
  | nil => exact hd
  | cons c cs ih =>
    have hhead : c = '\n' → (cs ++ ds).head? = some ' ' := by
      intro he
      rw [List.head?_append, hc.1 he]
      rfl
    exact ⟨hhead, ih hc.2⟩

theorem indented_of_feed_not_mem {cs : List Char} (h : '\n' ∉ cs) : Indented cs := by
  induction cs with
  | nil => trivial
  | cons c cs ih =>
    exact ⟨fun he => absurd he.symm (List.ne_of_not_mem_cons h),
      ih (List.not_mem_of_not_mem_cons h)⟩

theorem indented_bare {s : Styled} (h : ∀ span ∈ s, Indented span.text.toList) :
    Indented s.bare.toList := by
  induction s with
  | nil => trivial
  | cons span s ih =>
    rw [Styled.bare_cons, String.toList_append]
    exact (h span List.mem_cons_self).append (ih fun t ht => h t (List.mem_cons_of_mem span ht))

/-- A paragraph of indented lines goes up to the first empty line. -/
theorem firstParagraph_of_indented {cs : List Char} (h : Indented cs) (more : List Char) :
    firstParagraph (cs ++ '\n' :: '\n' :: more) = cs := by
  induction cs with
  | nil => rfl
  | cons c cs ih =>
    rw [List.cons_append, firstParagraph, ih h.2]
    rintro rest rfl he
    have hblank := h.1 rfl
    cases cs with
    | nil => cases hblank
    | cons d cs =>
      cases hblank
      cases he

/-- The texts that an error carries into its wording. -/
def parts : UsageError → List String
  | .unexpected argument => [argument]
  | .valueMissing place choices => place :: choices
  | .notAmong value place choices => value :: place :: choices
  | .refused value place cause => [value, place, cause.message]
  | .repeated place => [place]
  | .surplus value place => [value, place]
  | .required places => places

def words : List String :=
  ["unexpected argument '", "' found", "a value is required for '", "' but none was supplied",
    "invalid value '", "' for '", "'", "': ", "the argument '", "' cannot be used multiple times",
    "unexpected value '", "' found; no more were expected",
    "the following required arguments were not provided:", "\n  ", "\n  [possible values: ", ", ",
    "]"]

section

variable {P : String → Prop} {e : UsageError} {choices : List String}

theorem forall_mem_choiceLine (hw : ∀ w ∈ words, P w) (hc : ∀ c ∈ choices, P c) :
    ∀ span ∈ choiceLine choices, P span.text := by
  unfold choiceLine
  split
  · exact fun _ h => absurd h List.not_mem_nil
  · intro span h
    rw [Styled.join, List.mem_flatten] at h
    obtain ⟨part, hpart, h⟩ := h
    simp only [List.mem_cons, List.not_mem_nil, or_false] at hpart
    rcases hpart with rfl | rfl | rfl
    · cases List.mem_singleton.mp h
      exact hw _ (by decide)
    · rcases mem_intercalate h with h | ⟨l, hl, h⟩
      · cases List.mem_singleton.mp h
        exact hw _ (by decide)
      · obtain ⟨c, hmem, rfl⟩ := List.mem_map.mp hl
        cases List.mem_singleton.mp h
        exact hc c hmem
    · cases List.mem_singleton.mp h
      exact hw _ (by decide)

theorem forall_mem_content (hw : ∀ w ∈ words, P w) (hp : ∀ p ∈ e.parts, P p) :
    ∀ span ∈ e.content, P span.text := by
  cases e with
  | required places =>
    refine List.forall_mem_cons.mpr ⟨hw _ (by decide), ?_⟩
    intro span h
    obtain ⟨place, hplace, h⟩ := List.mem_flatMap.mp h
    simp only [List.mem_cons, List.not_mem_nil, or_false] at h
    rcases h with rfl | rfl
    · exact hw _ (by decide)
    · exact hp place hplace
  | valueMissing place choices =>
    obtain ⟨hplace, hchoices⟩ := List.forall_mem_cons.mp hp
    simp only [content, List.forall_mem_cons]
    exact ⟨hw _ (by decide), hplace, hw _ (by decide), forall_mem_choiceLine hw hchoices⟩
  | notAmong value place choices =>
    obtain ⟨hvalue, hplace, hchoices⟩ := by
      simpa only [parts, List.forall_mem_cons] using hp
    simp only [content, List.forall_mem_cons]
    exact ⟨hw _ (by decide), hvalue, hw _ (by decide), hplace, hw _ (by decide),
      forall_mem_choiceLine hw hchoices⟩
  | unexpected _ | refused _ _ _ | repeated _ | surplus _ _ =>
    simp only [words, List.forall_mem_cons] at hw
    simp only [parts, List.forall_mem_cons] at hp
    simp only [content, List.forall_mem_cons, hw, hp, true_and]
    exact fun _ h => absurd h List.not_mem_nil

end

/-- What the user is told first, of an error without line breaks and control sequences in its
parts, is the wording of the error. -/
theorem firstParagraph_message {e : UsageError} (h : ∀ p ∈ e.parts, Steady p) :
    firstParagraph e.message.plain.toList = ("error: " ++ e.content.bare).toList := by
  have hstill : ∀ span ∈ e.message, Still span.text := by
    have hcontent : ∀ span ∈ e.content, Still span.text :=
      forall_mem_content (by decide) fun p hp => (h p hp).still
    simp only [message, Styled.join, List.flatten_cons, List.flatten_nil, List.append_nil,
      List.forall_mem_append]
    exact ⟨by decide, hcontent, by decide⟩
  have hindented : Indented ("error: ".toList ++ e.content.bare.toList) := by
    refine Indented.append (by decide) (indented_bare ?_)
    exact forall_mem_content (P := fun s => Indented s.toList) (by decide)
      fun p hp => indented_of_feed_not_mem (h p hp).unbroken.feed_not_mem
  have hbare : e.message.bare.toList = ("error: ".toList ++ e.content.bare.toList) ++
      '\n' :: '\n' :: "For more information, try '--help'.\n".toList := by
    rw [message, Styled.join, List.flatten_cons, List.flatten_cons, Styled.bare_append,
      Styled.bare_append, String.toList_append, String.toList_append, ← List.append_assoc]
    rfl
  rw [(Styled.written_eq_bare hstill).2, hbare, firstParagraph_of_indented hindented,
    String.toList_append]

end CommandLine.UsageError

end Disasm
