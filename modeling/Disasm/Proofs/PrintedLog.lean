import Disasm.Proofs.CleaningLog
import Disasm.Proofs.Presence

namespace Disasm

namespace Text

/-- Control characters, which a text does not show but obeys. -/
def Steers (c : Char) : Prop :=
  c.toNat < 0x20 ∨ (0x7F ≤ c.toNat ∧ c.toNat ≤ 0x9F)

instance : DecidablePred Steers := fun c =>
  inferInstanceAs (Decidable (c.toNat < 0x20 ∨ (0x7F ≤ c.toNat ∧ c.toNat ≤ 0x9F)))

/-- A text of characters that are shown. -/
def Steady (s : String) : Prop :=
  ∀ c ∈ s.toList, ¬ Steers c

instance : DecidablePred Steady := fun s =>
  List.decidableBAll (fun c => ¬ Steers c) s.toList

theorem steady_append {s t : String} : Steady (s ++ t) ↔ Steady s ∧ Steady t := by
  simp only [Steady, String.toList_append, List.forall_mem_append]

theorem Steady.unbroken {s : String} (h : Steady s) : Unbroken s := by
  intro c hc
  refine ⟨?_, ?_⟩
  · rintro rfl
    exact h _ hc (by decide)
  · rintro rfl
    exact h _ hc (by decide)

theorem not_steers_of_isPrintable {c : Char} (h : isPrintable c = true) : ¬ Steers c := by
  have hout : ∀ r ∈ unprintableRanges, ¬ (r.1 ≤ c.toNat ∧ c.toNat ≤ r.2) := by
    simpa [isPrintable, inRanges] using h
  have hlow := hout (0x0, 0x1F) (by decide)
  have hhigh := hout (0x7F, 0xA0) (by decide)
  unfold Steers
  omega

theorem not_steers_of_mem_toDigits {b n : Nat} (hb : 1 < b) (hb' : b ≤ 16) {c : Char}
    (hc : c ∈ Nat.toDigits b n) : ¬ Steers c := by
  obtain ⟨d, hd, rfl⟩ := exists_of_mem_toDigits hb hb' hc
  have hdigits : ∀ d < 16, ¬ Steers d.digitChar := by decide
  exact hdigits d hd

theorem steady_toString (n : Nat) : Steady (toString n) := by
  intro c hc
  rw [Nat.toString_eq_ofList_toDigits, String.toList_ofList] at hc
  exact not_steers_of_mem_toDigits (by decide) (by decide) hc

theorem Writes.not_steers {c d : Char} {cs : List Char} (h : Writes c cs) (hd : d ∈ cs) :
    ¬ Steers d := by
  have hbackslash : ¬ Steers '\\' := by decide
  cases h with
  | short h =>
    simp only [List.mem_cons, List.not_mem_nil, or_false] at hd
    rcases hd with rfl | rfl
    · exact hbackslash
    · unfold shortEscape? at h
      split at h <;> cases h <;> decide
  | number =>
    simp only [numberEscape_eq, List.mem_cons, List.mem_append, List.not_mem_nil, or_false] at hd
    rcases hd with rfl | rfl | rfl | hd | rfl
    · exact hbackslash
    · decide
    · decide
    · exact not_steers_of_mem_toDigits (by decide) (by decide) hd
    · decide
  | itself h hp =>
    rw [List.mem_singleton.mp hd]
    exact not_steers_of_isPrintable hp

/-- Whatever a text holds, between quotes it is one line of characters that are shown. -/
theorem steady_quoted (s : String) : Steady (quoted s) := by
  intro d hd
  rw [quoted, String.toList_ofList, List.cons_append, List.mem_cons, List.mem_append,
    List.mem_flatMap, List.mem_singleton] at hd
  rcases hd with rfl | ⟨c, -, hd⟩ | rfl
  · decide
  · exact (writes_escapeQuoted c).not_steers hd
  · decide

/-- Accents, invisible blanks and codes beyond ASCII are written by their numbers. -/
example : quoted "<e\u0301\u200b\u00e9\x9d>:" =
    "\"<e\\u\x7b301\x7d\\u\x7b200b\x7d\u00e9\\u\x7b9d\x7d>:\"" := by
  decide +kernel

theorem content_append_feed {line : String} (h : Unbroken line) : content (line ++ "\n") = line := by
  have hlist : (line ++ "\n").toList = line.toList ++ ['\n'] := String.toList_append
  have hlast : line.toList.getLast? ≠ some '\r' :=
    fun hl => (h '\r' (List.mem_of_getLast? hl)).2 rfl
  rw [content, hlist, if_pos List.getLast?_concat, body, hlist, dropLastIf_append, dropLastIf,
    if_neg hlast, String.ofList_toList]

theorem lined_map_append_feed {ls : List String} (h : ∀ line ∈ ls, Unbroken line) :
    Lined ((ls.map (· ++ "\n")).map String.toList) := by
  induction ls with
  | nil => exact .nil
  | cons line ls ih =>
    have hlist : (line ++ "\n").toList = line.toList ++ ['\n'] := String.toList_append
    rw [List.map_cons, List.map_cons, hlist]
    exact .cons (h line List.mem_cons_self).feed_not_mem
      (ih fun l hl => h l (List.mem_cons_of_mem line hl))

/-- Lines that are printed one after the other are read again as they were. -/
theorem contents_join {ls : List String} (h : ∀ line ∈ ls, Unbroken line) :
    contents (String.join (ls.map (· ++ "\n"))) = ls := by
  rw [contents, lines_eq_iff.mpr ⟨lined_map_append_feed h, rfl⟩, List.map_map]
  calc ls.map (content ∘ (· ++ "\n")) = ls.map id :=
        List.map_congr_left fun line hl => content_append_feed (h line hl)
    _ = ls := List.map_id ls

end Text

namespace Log

open Text (Steady Steers Unbroken)

variable {clock : Clock} {es : List Event}

/-- What is shown is printed as it is. -/
theorem escape_of_not_steers {c : Char} (h : ¬ Steers c) : escape c = [c] := by
  have hne : ∀ d, Steers d → c ≠ d := by
    rintro d hd rfl
    exact h hd
  have hbeyond : ¬ (0x80 ≤ c.toNat ∧ c.toNat ≤ 0x9F) := by
    unfold Steers at h
    omega
  rw [escape, if_neg (hne _ (by decide)), if_neg (hne _ (by decide)), if_neg (hne _ (by decide)),
    if_neg (hne _ (by decide)), if_neg (hne _ (by decide)), if_neg hbeyond]

theorem Event.line_of_steady {e : Event} (h : Steady e.message) :
    e.line = e.level.column ++ " " ++ e.message := by
  have hescape : e.message.toList.flatMap escape = e.message.toList := by
    calc e.message.toList.flatMap escape = e.message.toList.flatMap fun c => [c] :=
          List.flatMap_congr fun c hc => escape_of_not_steers (h c hc)
      _ = e.message.toList := List.flatMap_singleton' _
  rw [line, hescape, String.ofList_toList]

theorem contents_renderText (hc : ∀ i, Unbroken (clock i)) (h : ∀ e ∈ es, Unbroken e.line) :
    Text.contents (renderText clock es) = es.mapIdx fun i e => clock i ++ e.line := by
  have hmap : (es.mapIdx fun i e => clock i ++ e.line ++ "\n") =
      (es.mapIdx fun i e => clock i ++ e.line).map (· ++ "\n") := by
    rw [List.mapIdx_eq_iff]
    intro i
    rw [List.getElem?_map, List.getElem?_mapIdx, Option.map_map]
    rfl
  rw [renderText, hmap, Text.contents_join]
  intro line hl
  obtain ⟨i, hi, rfl⟩ := List.mem_mapIdx.mp hl
  exact Text.unbroken_append.mpr ⟨hc i, h _ (List.getElem_mem hi)⟩

/-- Messages that are shown throughout are printed on a line each, and as they are. -/
theorem renderLines_of_steady (h : ∀ e ∈ es, Steady e.message) :
    renderLines es = es.map fun e => e.level.column ++ " " ++ e.message := by
  have hcolumn : ∀ l : Level, Steady (l.column ++ " ") := by
    intro l
    cases l <;> decide
  have hline : ∀ e ∈ es, Unbroken e.line := by
    intro e he
    rw [Event.line_of_steady (h e he)]
    exact (Text.steady_append.mpr ⟨hcolumn e.level, h e he⟩).unbroken
  have huntimed : ∀ i, Unbroken (untimed i) := fun _ _ hc => absurd hc List.not_mem_nil
  rw [renderLines, contents_renderText huntimed hline, List.mapIdx_eq_iff]
  intro i
  rw [List.getElem?_map]
  cases he : es[i]? with
  | none => rfl
  | some e =>
    have hmem : e ∈ es := List.mem_of_getElem? he
    rw [Option.map_some, Option.map_some, ← Event.line_of_steady (h e hmem), untimed,
      String.empty_append]

end Log

namespace Listing

theorem steady_message_of_mem_events {raw : String} {e : Log.Event}
    (he : e ∈ (clean raw).events) : Text.Steady e.message := by
  simp only [Cleaned.events, List.mem_append, List.mem_map, List.mem_singleton] at he
  rcases he with ⟨d, -, rfl⟩ | rfl
  · have hname : Text.Steady ("drop " ++ d.kind.name ++ ": ") := by
      cases d.kind <;> decide
    exact Text.steady_append.mpr ⟨hname, Text.steady_quoted d.body⟩
  · simp only [Text.steady_append]
    exact ⟨⟨⟨⟨by decide, Text.steady_toString _⟩, by decide⟩, Text.steady_toString _⟩, by decide⟩

/-- The log of a cleaning is printed on a line for each entry, whatever the listing holds, and the
lines are the entries as they are. -/
theorem renderLines_clean (raw : String) :
    Log.renderLines (clean raw).events =
      (clean raw).events.map fun e => e.level.column ++ " " ++ e.message :=
  Log.renderLines_of_steady fun _ he => steady_message_of_mem_events he

end Listing

end Disasm
