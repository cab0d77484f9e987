import Disasm.Proofs.Cleaning
import Disasm.Proofs.Words

namespace Disasm

namespace Text

section Parts

variable {α : Type} {part as bs : List α}

/-- What has nothing in common with the end of a list stands in front of the end. -/
theorem infix_append_iff_of_disjoint (h : ∀ x ∈ part, x ∉ bs) :
    part <:+: as ++ bs ↔ part <:+: as := by
  constructor
  · intro hp
    rcases List.infix_append_iff_ne_nil.mp hp with ha | hb | ⟨l, r, -, hr, rfl, -, hrb⟩
    · exact ha
    · cases part with
      | nil => exact List.nil_infix
      | cons x xs => exact absurd (hb.subset List.mem_cons_self) (h x List.mem_cons_self)
    · obtain ⟨x, hx⟩ := List.exists_mem_of_ne_nil r hr
      exact absurd (hrb.subset hx) (h x (List.mem_append_right l hx))
  · intro ha
    exact ha.trans List.infix_append_left

/-- What does not contain a separator stands on one side of it. -/
theorem infix_append_cons_iff {x : α} (h : x ∉ part) :
    part <:+: as ++ x :: bs ↔ part <:+: as ∨ part <:+: bs := by
  constructor
  · intro hp
    rcases List.infix_append_iff_ne_nil.mp hp with ha | hb | ⟨l, r, -, hr, rfl, -, hrb⟩
    · exact .inl ha
    · rcases List.infix_cons_iff.mp hb with hb | hb
      · cases part with
        | nil => exact .inl List.nil_infix
        | cons y ys =>
          obtain ⟨rfl, -⟩ := List.cons_prefix_cons.mp hb
          exact absurd List.mem_cons_self h
      · exact .inr hb
    · cases r with
      | nil => exact absurd rfl hr
      | cons y ys =>
        obtain ⟨rfl, -⟩ := List.cons_prefix_cons.mp hrb
        exact absurd (List.mem_append_right l List.mem_cons_self) h
  · rintro (ha | hb)
    · exact ha.trans List.infix_append_left
    · exact (List.infix_cons hb).trans List.infix_append_right

end Parts

def Within (part s : String) : Prop :=
  part.toList <:+: s.toList

theorem contains_iff {part s : String} : contains s part = true ↔ Within part s :=
  occursIn_iff

instance : DecidableRel Within := fun _ _ =>
  decidable_of_iff _ contains_iff

theorem Lined.infix_flatten_iff {ls : List (List Char)} {part : List Char} (h : Lined ls)
    (hne : part ≠ []) (hn : '\n' ∉ part) :
    part <:+: ls.flatten ↔ ∃ line ∈ ls, part <:+: line := by
  induction h with
  | nil => simp [hne]
  | last => simp
  | @cons body rest _ _ ih =>
    have hfeed : part <:+: body ++ ['\n'] ↔ part <:+: body :=
      infix_append_iff_of_disjoint fun x hx hfeed => hn (List.mem_singleton.mp hfeed ▸ hx)
    rw [List.flatten_cons, List.append_assoc, List.singleton_append, infix_append_cons_iff hn, ih,
      List.exists_mem_cons_iff, hfeed]

/-- A name without a line feed stands in one line or not at all. -/
theorem within_iff_line {part s : String} (hne : part ≠ "") (hn : '\n' ∉ part.toList) :
    Within part s ↔ ∃ line ∈ lines s, Within part line := by
  rw [Within, ← flatten_lines s,
    (lined_lines s).infix_flatten_iff (mt String.toList_eq_nil_iff.mp hne) hn]
  simp only [List.mem_map, exists_exists_and_eq_and, Within]

/-- A name that goes on over no end of a line. -/
def Unbroken (s : String) : Prop :=
  ∀ c ∈ s.toList, c ≠ '\n' ∧ c ≠ '\r'

-- by going through the characters of the text, not through all characters that there are
instance : DecidablePred Unbroken := fun s =>
  List.decidableBAll (fun c => c ≠ '\n' ∧ c ≠ '\r') s.toList

theorem unbroken_append {s t : String} : Unbroken (s ++ t) ↔ Unbroken s ∧ Unbroken t := by
  simp only [Unbroken, String.toList_append, List.forall_mem_append]

theorem Unbroken.feed_not_mem {s : String} (h : Unbroken s) : '\n' ∉ s.toList :=
  fun hc => (h '\n' hc).1 rfl

theorem dropLastIf_append_end (c : Char) (cs : List Char) :
    ∃ rest, cs = dropLastIf c cs ++ rest ∧ ∀ d ∈ rest, d = c := by
  unfold dropLastIf
  split
  · next h =>
    refine ⟨[c], ?_, fun d hd => List.mem_singleton.mp hd⟩
    simpa [dropLastIf, h] using eq_dropLastIf_append h
  · exact ⟨[], (List.append_nil cs).symm, fun d hd => absurd hd List.not_mem_nil⟩

/-- A line is its body and an end made of a carriage return and a line feed at most. -/
theorem toList_eq_body_append (line : String) :
    ∃ rest, line.toList = (body line).toList ++ rest ∧ ∀ c ∈ rest, c = '\n' ∨ c = '\r' := by
  obtain ⟨feed, hl, hfeed⟩ := dropLastIf_append_end '\n' line.toList
  obtain ⟨ret, hb, hret⟩ := dropLastIf_append_end '\r' (dropLastIf '\n' line.toList)
  refine ⟨ret ++ feed, ?_, ?_⟩
  · rw [body, String.toList_ofList, ← List.append_assoc, ← hb, ← hl]
  · intro c hc
    rcases List.mem_append.mp hc with hc | hc
    · exact .inr (hret c hc)
    · exact .inl (hfeed c hc)

theorem within_of_within_body {part line : String} (h : Within part (body line)) :
    Within part line := by
  obtain ⟨rest, hl, -⟩ := toList_eq_body_append line
  rw [Within, hl]
  exact h.trans List.infix_append_left

theorem within_body_iff {part line : String} (h : Unbroken part) :
    Within part (body line) ↔ Within part line := by
  obtain ⟨rest, hl, hrest⟩ := toList_eq_body_append line
  have hdisjoint : ∀ c ∈ part.toList, c ∉ rest := by
    intro c hc hr
    rcases hrest c hr with rfl | rfl
    · exact (h _ hc).1 rfl
    · exact (h _ hc).2 rfl
  rw [Within, Within, hl, infix_append_iff_of_disjoint hdisjoint]

end Text

namespace Listing

open Text (body lines Indented Within Unbroken)

/-- A cleaned listing shows a symbol if its text names the symbol or a label that was taken out
did. -/
def Cleaned.Shows (c : Cleaned) (symbol : String) : Prop :=
  Within symbol c.text ∨ symbol ∈ c.labels

theorem Cleaned.mentions_iff {c : Cleaned} {symbol : String} :
    c.mentions symbol = true ↔ c.Shows symbol := by
  rw [mentions, Bool.or_eq_true, Text.contains_iff, List.contains_iff_mem, Shows]

variable {raw symbol : String}

theorem mem_labels_clean_iff :
    symbol ∈ (clean raw).labels ↔ symbol ≠ "" ∧ ∃ line ∈ lines raw, body line = label symbol := by
  simp only [labels_clean, List.mem_filterMap, labelName?_eq_some_iff]
  constructor
  · rintro ⟨line, hl, hne, he⟩
    exact ⟨hne, line, hl, he⟩
  · rintro ⟨hne, line, hl, he⟩
    exact ⟨line, hl, hne, he⟩

/-- Nothing is put together across the lines that are left out. -/
theorem within_text_clean_iff (hne : symbol ≠ "") (hn : '\n' ∉ symbol.toList) :
    Within symbol (clean raw).text ↔
      ∃ line ∈ lines raw, ¬ IsNoise (body line) ∧ Within symbol line := by
  rw [Text.within_iff_line hne hn, lines_text_clean]
  constructor
  · rintro ⟨line, hl, hw⟩
    obtain ⟨hl, hstays⟩ := List.mem_filter.mp hl
    exact ⟨line, hl, of_decide_eq_true hstays, hw⟩
  · rintro ⟨line, hl, hstays, hw⟩
    exact ⟨line, List.mem_filter.mpr ⟨hl, decide_eq_true hstays⟩, hw⟩

/-- A label shows its symbol, whichever kind of noise the line is taken for. -/
theorem shows_clean_of_label (hne : symbol ≠ "") {line : String} (hl : line ∈ lines raw)
    (he : body line = label symbol) : (clean raw).Shows symbol :=
  .inr (mem_labels_clean_iff.mpr ⟨hne, line, hl, he⟩)

theorem within_label (symbol : String) : Within symbol (label symbol) := by
  rw [Within, toList_label]
  exact ⟨['<'], ['>', ':'], by simp⟩

/-- A cleaned listing mentions a symbol exactly if a line that stays does or a line is its label.
What stands in noise only, the label of the symbol apart, is not mentioned. -/
theorem clean_mentions (hne : symbol ≠ "") (hn : '\n' ∉ symbol.toList) :
    ((clean raw).mentions symbol = true ↔
      (∃ line ∈ lines raw, ¬ IsNoise (body line) ∧ Within symbol line) ∨
        ∃ line ∈ lines raw, body line = label symbol) ∧
      ((∀ line ∈ lines raw, Within symbol line → IsNoise (body line) ∧ body line ≠ label symbol) →
        (clean raw).mentions symbol = false) := by
  have hmentions : (clean raw).mentions symbol = true ↔ _ := Cleaned.mentions_iff
  rw [Cleaned.Shows, within_text_clean_iff hne hn, mem_labels_clean_iff, and_iff_right hne]
    at hmentions
  refine ⟨hmentions, fun hnoise => Bool.eq_false_iff.mpr (mt hmentions.mp ?_)⟩
  rintro (⟨line, hl, hstays, hw⟩ | ⟨line, hl, he⟩)
  · exact hstays (hnoise line hl hw).1
  · have hw : Within symbol (body line) := he ▸ within_label symbol
    exact (hnoise line hl (Text.within_of_within_body hw)).2 he

/-- The name of an archive member, of a section and of another function do not mention `strlen`,
nor do two lines on either side of an empty one; its label does. -/
theorem clean_mentions_strlen :
    let raw := "libc.a(strlen.o):\tfile\nDisassembly of section .strlen:\n<strlen_avx2>:\n" ++
      "\tcall\tstr\n\nlen\n"
    "strlen" ≠ "" ∧ '\n' ∉ "strlen".toList ∧ (clean raw).mentions "strlen" = false ∧
      (clean (raw ++ "<strlen>:\r\n")).mentions "strlen" = true := by
  intro raw
  have hne : "strlen" ≠ "" := by decide +kernel
  have hn : '\n' ∉ "strlen".toList := by decide +kernel
  refine ⟨hne, hn, (clean_mentions hne hn).2 (by decide +kernel), (clean_mentions hne hn).1.mpr ?_⟩
  exact .inr ⟨"<strlen>:\r\n", by decide +kernel, by decide +kernel⟩

/-- A line, without its end, that is neither noise nor an instruction, as the header of a file. -/
def IsRemark (b : String) : Prop :=
  ¬ IsNoise b ∧ ¬ Indented b

/-- A symbol that no label of a listing is for and that no instruction mentions. -/
structure Absent (raw symbol : String) : Prop where
  no_label : ∀ line ∈ lines raw, body line ≠ label symbol
  no_mention : ∀ line ∈ lines raw, Indented (body line) → ¬ Within symbol (body line)

/-- Of a symbol that is absent, remarks are all that may show it. -/
theorem Absent.shows_clean_iff (h : Absent raw symbol) (hne : symbol ≠ "")
    (hu : Unbroken symbol) :
    (clean raw).Shows symbol ↔
      ∃ line ∈ lines raw, IsRemark (body line) ∧ Within symbol (body line) := by
  constructor
  · rintro (ht | hlabel)
    · obtain ⟨line, hl, hstays, hw⟩ := (within_text_clean_iff hne hu.feed_not_mem).mp ht
      have hw := (Text.within_body_iff hu).mpr hw
      exact ⟨line, hl, ⟨hstays, fun hi => h.no_mention line hl hi hw⟩, hw⟩
    · obtain ⟨-, line, hl, he⟩ := mem_labels_clean_iff.mp hlabel
      exact absurd he (h.no_label line hl)
  · rintro ⟨line, hl, ⟨hstays, -⟩, hw⟩
    have hw := (Text.within_body_iff hu).mp hw
    exact .inl ((within_text_clean_iff hne hu.feed_not_mem).mpr ⟨line, hl, hstays, hw⟩)

instance : DecidablePred IsRemark := fun b =>
  inferInstanceAs (Decidable (¬ IsNoise b ∧ ¬ Indented b))

instance : Decidable (Absent raw symbol) :=
  decidable_of_iff ((∀ line ∈ lines raw, body line ≠ label symbol) ∧
      ∀ line ∈ lines raw, Indented (body line) → ¬ Within symbol (body line))
    ⟨fun h => ⟨h.1, h.2⟩, fun h => ⟨h.1, h.2⟩⟩

end Listing

end Disasm
