import Mathlib.Algebra.BigOperators.Group.List.Basic
import Mathlib.Algebra.GroupWithZero.Nat
import Disasm.Proofs.Cleaning
import Disasm.Proofs.Quotations

namespace Disasm.Listing

open Text (body lines quoted)

/-- What the log says of a cleaning: the dropped lines in turn, how many they are, and how many bytes
stay. -/
structure Account where
  drops : List Drop
  count : Nat
  bytes : Nat

def Drop.event (d : Drop) : Log.Event :=
  ⟨.trace, "drop " ++ d.kind.name ++ ": " ++ quoted d.body⟩

namespace Account

def totals (a : Account) : Log.Event :=
  ⟨.debug, "cleanup dropped " ++ toString a.count ++ " lines, kept " ++ toString a.bytes ++ " bytes"⟩

def events (a : Account) : List Log.Event :=
  a.drops.map Drop.event ++ [a.totals]

end Account

/-- The reason that is given for dropping a line: of the shapes that it has, the first in this
order. -/
inductive Reason (b : String) : String → Prop
  | archiveMember (h : Noise.archiveMember.Shape b) : Reason b "archive member header"
  | blank (ha : ¬ Noise.archiveMember.Shape b) (h : Noise.blank.Shape b) : Reason b "blank line"
  | sectionBanner (ha : ¬ Noise.archiveMember.Shape b) (hb : ¬ Noise.blank.Shape b)
      (h : Noise.sectionBanner.Shape b) : Reason b "section banner"
  | symbolLabel (ha : ¬ Noise.archiveMember.Shape b) (hb : ¬ Noise.blank.Shape b)
      (hs : ¬ Noise.sectionBanner.Shape b) (h : IsLabel b) : Reason b "symbol label"

/-- The lines of a listing that are noise, with their ends. -/
def dropped (raw : String) : List String :=
  (lines raw).filter fun line => IsNoise (body line)

/-- What the log says is true of the cleaning of a listing. -/
structure Account.Covers (a : Account) (raw : String) : Prop where
  /-- The count is that of the entries for lines. -/
  count_eq : a.count = (a.events.filter fun e => e.level = .trace).length
  lines_eq : a.count + (lines (clean raw).text).length = (lines raw).length
  bytes_eq : a.bytes = (clean raw).text.utf8ByteSize
  all_bytes_eq : a.bytes + ((dropped raw).map String.utf8ByteSize).sum = raw.utf8ByteSize
  /-- The entries are about the dropped lines, in their order. -/
  bodies_eq : a.drops.map Drop.body = (dropped raw).map body
  reasons : ∀ d ∈ a.drops, Reason d.body d.kind.name
  labels_eq : (a.drops.filter fun d => IsLabel d.body).length = (clean raw).labels.length

section Reading

theorem Noise.eq_of_prefix_name : ∀ kind other : Noise,
    kind.name.toList <+: other.name.toList → kind = other := by
  intro kind other
  cases kind <;> cases other <;> decide

theorem toList_message_event (d : Drop) :
    d.event.message.toList =
      "drop ".toList ++ (d.kind.name.toList ++ (": ".toList ++ (quoted d.body).toList)) := by
  simp only [Drop.event, String.toList_append, List.append_assoc]

/-- An entry tells the line and the reason. -/
theorem event_injective : Function.Injective Drop.event := by
  rintro ⟨kind, b⟩ ⟨other, c⟩ h
  have hm := congrArg (fun e => e.message.toList) h
  simp only [toList_message_event] at hm
  obtain ⟨hkind, hquoted⟩ := eq_of_append_eq Noise.eq_of_prefix_name (List.append_cancel_left hm)
  have hbody : b = c :=
    Text.quoted_injective (String.toList_inj.mp (List.append_cancel_left hquoted))
  rw [hkind, hbody]

theorem toList_message_totals (a : Account) :
    a.totals.message.toList =
      "cleanup dropped ".toList ++ (Text.numeral a.count ++
        ("lines, kept ".toList ++ (Text.numeral a.bytes ++ "bytes".toList))) := by
  simp only [Account.totals, Text.numeral, String.toList_append, List.append_assoc,
    Nat.toString_eq_ofList_toDigits, String.toList_ofList]
  rfl

theorem Account.eq_of_totals_eq {a b : Account} (h : a.totals = b.totals) :
    a.count = b.count ∧ a.bytes = b.bytes := by
  have hm := congrArg (fun e => e.message.toList) h
  simp only [toList_message_totals] at hm
  obtain ⟨hcount, hrest⟩ :=
    eq_of_append_eq Text.eq_of_prefix_numeral (List.append_cancel_left hm)
  exact ⟨hcount, (eq_of_append_eq Text.eq_of_prefix_numeral (List.append_cancel_left hrest)).1⟩

/-- The entries say one thing only. -/
theorem Account.events_injective : Function.Injective Account.events := by
  intro a b h
  obtain ⟨hdrops, htotals⟩ := List.append_inj' h rfl
  obtain ⟨hcount, hbytes⟩ := eq_of_totals_eq (List.singleton_inj.mp htotals)
  cases a
  cases b
  rw [mk.injEq]
  exact ⟨event_injective.list_map hdrops, hcount, hbytes⟩

end Reading

/-- The kinds are tried in the order of the reasons. -/
theorem reason_of_first? {b : String} {kind : Noise} (h : Noise.first? Noise.all b = some kind) :
    Reason b kind.name := by
  have hshape : ∀ k : Noise, k.covers b = false → ¬ k.Shape b := by
    intro k hk hs
    rw [Noise.covers_iff.mpr hs] at hk
    cases hk
  simp only [Noise.first?, Noise.all, List.find?_cons] at h
  split at h
  · next ha =>
    cases h
    exact .archiveMember (Noise.covers_iff.mp ha)
  · next ha =>
    split at h
    · next hb =>
      cases h
      exact .blank (hshape _ ha) (Noise.covers_iff.mp hb)
    · next hb =>
      split at h
      · next hs =>
        cases h
        exact .sectionBanner (hshape _ ha) (hshape _ hb) (Noise.covers_iff.mp hs)
      · next hs =>
        split at h
        · next hl =>
          cases h
          exact .symbolLabel (hshape _ ha) (hshape _ hb) (hshape _ hs) (Noise.covers_iff.mp hl)
        · cases h

/-- A line adds an entry exactly if it is noise of some kind. -/
theorem drops_addLine (kinds : List Noise) (line : String) (after : Cleaned) :
    (Cleaned.addLine kinds line after).drops =
      ((Noise.first? kinds (body line)).map fun kind => ⟨kind, body line⟩).toList ++ after.drops := by
  unfold Cleaned.addLine
  cases h : Noise.first? kinds (body line) with
  | none => simp only [h, Option.map_none, Option.toList_none, List.nil_append]
  | some kind => simp only [h, Option.map_some, Option.toList_some, List.singleton_append]

theorem drops_clean (raw : String) :
    (clean raw).drops = (lines raw).filterMap fun line =>
      (Noise.first? Noise.all (body line)).map fun kind => ⟨kind, body line⟩ := by
  unfold clean cleanOf
  induction lines raw with
  | nil => rfl
  | cons line ls ih =>
    rw [List.foldr_cons, drops_addLine, ih]
    cases h : Noise.first? Noise.all (body line) <;> simp [h]

theorem reason_of_mem_drops_clean {raw : String} {d : Drop} (h : d ∈ (clean raw).drops) :
    Reason d.body d.kind.name := by
  rw [drops_clean] at h
  obtain ⟨line, -, hd⟩ := List.mem_filterMap.mp h
  obtain ⟨kind, hkind, rfl⟩ := Option.map_eq_some_iff.mp hd
  exact reason_of_first? hkind

/-- The entries follow the dropped lines. -/
theorem bodies_drops_clean (raw : String) :
    (clean raw).drops.map Drop.body = (dropped raw).map body := by
  rw [drops_clean, dropped]
  induction lines raw with
  | nil => rfl
  | cons line ls ih =>
    have hnoise : Noise.first? Noise.all (body line) = none ↔ ¬ IsNoise (body line) :=
      Noise.first?_eq_none_iff Noise.mem_all
    cases h : Noise.first? Noise.all (body line) with
    | none =>
      have hstay : ¬ IsNoise (body line) := hnoise.mp h
      rw [List.filterMap_cons_none (by simp [h]), ih, List.filter_cons_of_neg (by simpa using hstay)]
    | some kind =>
      have hdrop : IsNoise (body line) := by
        refine Classical.not_not.mp (mt hnoise.mpr ?_)
        simp [h]
      rw [List.filterMap_cons_some (by rw [h]; rfl), List.map_cons, ih,
        List.filter_cons_of_pos (by simpa using hdrop), List.map_cons]

theorem length_drops_clean (raw : String) : (clean raw).drops.length = (dropped raw).length := by
  rw [← List.length_map (f := Drop.body), bodies_drops_clean, List.length_map]

/-- Every line is dropped or stays. -/
theorem dropped_append_perm (raw : String) :
    (dropped raw ++ lines (clean raw).text).Perm (lines raw) := by
  have hkept : lines (clean raw).text =
      (lines raw).filter fun line => !decide (IsNoise (body line)) := by
    rw [lines_text_clean]
    simp only [decide_not]
  rw [dropped, hkept]
  exact List.filter_append_perm _ _

theorem utf8ByteSize_join (ls : List String) :
    (String.join ls).utf8ByteSize = (ls.map String.utf8ByteSize).sum := by
  induction ls with
  | nil => rfl
  | cons line ls ih => rw [String.join_cons, String.utf8ByteSize_append, ih, List.map_cons,
      List.sum_cons]

theorem utf8ByteSize_eq_sum_lines (s : String) :
    s.utf8ByteSize = ((lines s).map String.utf8ByteSize).sum := by
  rw [← utf8ByteSize_join, Text.join_lines]

/-- A label is noise, whatever reason is given for dropping it. -/
theorem length_labels_clean (raw : String) :
    (clean raw).labels.length = ((dropped raw).filter fun line => IsLabel (body line)).length := by
  have hlabels : (clean raw).labels.map label =
      ((lines raw).map body).filter fun b => IsLabel b :=
    eq_labels_clean_iff.mp rfl
  have hnoise : ∀ line, (IsLabel (body line) ∧ IsNoise (body line)) ↔ IsLabel (body line) :=
    fun line => and_iff_left_of_imp fun h => ⟨.symbolLabel, h⟩
  rw [← List.length_map (f := label), hlabels, List.filter_map, List.length_map, dropped,
    List.filter_filter]
  simp only [Function.comp_def, ← Bool.decide_and, hnoise]

end Disasm.Listing
