import Disasm.Host.FileTree
import Disasm.Host.Octets
import Disasm.Proofs.Decoding
import Disasm.Proofs.NormalPaths

namespace Disasm

namespace Host

open Tool

theorem toBytes_ofBytes (bytes : List UInt8) : toBytes (ofBytes bytes) = bytes := by
  have hbyte : ∀ b : UInt8, toByte (ofByte b) = b := by
    intro b
    have hb : (ofByte b).toNat = b.toNat := Text.Utf8.toNat_ofByte b
    rw [toByte, hb, UInt8.ofNat_toNat]
  rw [toBytes, ofBytes, List.map_map]
  exact (List.map_congr_left fun b _ => hbyte b).trans (List.map_id bytes)

/-- The bytes of a text are its UTF-8. -/
theorem toBytes_octets (s : String) : toBytes (octets s).toList = Text.Utf8.encode s := by
  unfold octets
  split
  · next hascii =>
    have hall : ∀ c ∈ s.toList, c.toNat < 0x80 := by simpa using hascii
    rw [toBytes, Text.Utf8.encode, List.map_eq_flatMap]
    refine List.flatMap_congr fun c hc => ?_
    have hlow : c.val.toNat ≤ 0x7F := Nat.le_of_lt_succ (hall c hc)
    rw [String.utf8EncodeChar, if_pos hlow]
    rfl
  · rw [String.toList_ofList, toBytes_ofBytes]

theorem octets_injective : Function.Injective octets := by
  intro s t h
  have hbytes : Text.Utf8.encode s = Text.Utf8.encode t := by
    rw [← toBytes_octets, ← toBytes_octets, h]
  rw [← Text.Utf8.decode_encode s, ← Text.Utf8.decode_encode t, hbytes]

namespace FileTree

variable {t t' : FileTree} {place other : Place} {e : Entry} {cs : List String}

theorem lookup_filter (entries : List (Place × Entry)) :
    (entries.filter fun x => x.1 != place).lookup other =
      if other = place then none else entries.lookup other := by
  induction entries with
  | nil => rw [List.filter_nil, List.lookup_nil, ite_self]
  | cons x entries ih =>
    by_cases hx : x.1 = place
    · rw [List.filter_cons_of_neg (by simp [hx]), ih, List.lookup_cons, hx]
      split
      · rfl
      · next hne => rw [beq_false_of_ne hne]
    · rw [List.filter_cons_of_pos (by simp [hx]), List.lookup_cons, List.lookup_cons, ih]
      cases h : other == x.1 with
      | false => rfl
      | true =>
        have hne : other ≠ place := fun he => hx ((eq_of_beq h).symm.trans he)
        rw [if_neg hne, if_neg hne]

theorem entry?_root : t.entry? [] = some .directory :=
  rfl

theorem entry?_of_ne (hp : place ≠ []) : t.entry? place = t.entries.lookup place := by
  unfold entry?
  rw [if_neg (by simpa using hp)]

theorem entry?_put (hp : place ≠ []) :
    entry? (t.put place e) other = if other = place then some e else t.entry? other := by
  by_cases ho : other = []
  · rw [ho, entry?_root, entry?_root, if_neg hp.symm]
  · rw [entry?_of_ne ho, entry?_of_ne ho, put, List.lookup_cons, lookup_filter]
    by_cases h : other = place
    · rw [h, beq_self_eq_true, if_pos rfl, if_pos rfl]
    · rw [beq_false_of_ne h, if_neg h, if_neg h]

/-- The root cannot be taken away. -/
theorem entry?_remove :
    entry? (t.remove place) other =
      if other = place ∧ other ≠ [] then none else t.entry? other := by
  by_cases ho : other = []
  · rw [ho, entry?_root, entry?_root, if_neg fun h => h.2 rfl]
  · rw [entry?_of_ne ho, entry?_of_ne ho, remove, lookup_filter]
    simp only [ho, ne_eq, not_false_eq_true, and_true]

theorem entry?_putDirectory :
    entry? (t.putDirectory place) other =
      (t.entry? other).or (if other = place then some .directory else none) := by
  unfold putDirectory
  split
  · next h =>
    obtain ⟨e, he⟩ := Option.isSome_iff_exists.mp h
    by_cases ho : other = place
    · rw [ho, he, Option.some_or]
    · rw [if_neg ho, Option.or_none]
  · next h =>
    have hnone : t.entry? place = none := Option.not_isSome_iff_eq_none.mp h
    have hp : place ≠ [] := by
      rintro rfl
      cases hnone
    rw [entry?_put hp]
    by_cases ho : other = place
    · rw [if_pos ho, if_pos ho, ho, hnone, Option.none_or]
    · rw [if_neg ho, if_neg ho, Option.or_none]

theorem entry?_foldl_putDirectory (places : List Place) :
    entry? (places.foldl putDirectory t) other =
      (t.entry? other).or (if other ∈ places then some .directory else none) := by
  induction places generalizing t with
  | nil => rw [List.foldl_nil, if_neg List.not_mem_nil, Option.or_none]
  | cons p places ih =>
    rw [List.foldl_cons, ih, entry?_putDirectory, Option.or_assoc]
    by_cases hp : other = p
    · rw [if_pos hp, if_pos (List.mem_cons.mpr (.inl hp)), Option.some_or]
    · simp only [List.mem_cons, hp, false_or, if_false, Option.none_or]

/-- The directories on the way to a place are made where nothing is. -/
theorem entry?_makeDirectories :
    entry? (t.makeDirectories place) other =
      (t.entry? other).or (if other <+: place then some .directory else none) := by
  have hplaces : other ∈ (List.range (place.length + 1)).map (place.take ·) ↔
      other <+: place := by
    simp only [List.mem_map, List.mem_range]
    constructor
    · rintro ⟨n, -, rfl⟩
      exact List.take_prefix n place
    · intro h
      exact ⟨other.length, Nat.lt_succ_of_le h.length_le, (List.prefix_iff_eq_take.mp h).symm⟩
  have hfold : t.makeDirectories place =
      ((List.range (place.length + 1)).map (place.take ·)).foldl putDirectory t := by
    rw [makeDirectories, List.foldl_map]
  rw [hfold, entry?_foldl_putDirectory, if_congr hplaces rfl rfl]

theorem entry?_make (hp : place ≠ []) :
    entry? (t.make place e) other =
      if other = place then some e
      else (t.entry? other).or (if other <+: place.dropLast then some .directory else none) := by
  rw [make, entry?_put hp, entry?_makeDirectories]

/-- What is there stays there, whatever else comes to be. -/
def Grows (t t' : FileTree) : Prop :=
  ∀ place e, t.entry? place = some e → t'.entry? place = some e

/-- Something made where nothing was takes nothing away. -/
theorem grows_make (h : t.entry? place = none) (e : Entry) : t.Grows (t.make place e) := by
  have hp : place ≠ [] := by
    rintro rfl
    cases h
  intro other e' ho
  rw [entry?_make hp, ho, Option.some_or, if_neg]
  rintro rfl
  rw [h] at ho
  cases ho

/-- How components lead from one place to another. -/
inductive Follows (t : FileTree) : Place → List String → Place → Prop
  | done {place : Place} : Follows t place [] place
  | stay {place last : Place} {c : String} {rest : List String}
      (hd : t.entry? place = some .directory) (hc : c = "" ∨ c = ".")
      (h : Follows t place rest last) : Follows t place (c :: rest) last
  | up {place last : Place} {rest : List String} (hd : t.entry? place = some .directory)
      (h : Follows t place.dropLast rest last) : Follows t place (".." :: rest) last
  /-- The last component may lead to where nothing is. -/
  | down {place last : Place} {c : String} {rest : List String}
      (hd : t.entry? place = some .directory) (hc : c ≠ "" ∧ c ≠ "." ∧ c ≠ "..")
      (hl : c.length ≤ nameLimit) (ht : rest ≠ [] → (t.entry? (place ++ [c])).isSome = true)
      (h : Follows t (place ++ [c]) rest last) : Follows t place (c :: rest) last

theorem follow_eq_ok_iff : t.follow place cs = .ok other ↔ t.Follows place cs other := by
  constructor
  · intro h
    induction cs generalizing place with
    | nil =>
      cases h
      exact .done
    | cons c rest ih =>
      unfold follow at h
      split at h
      · next hd =>
        split at h
        · next hc => exact .stay hd hc (ih h)
        · next hc =>
          rw [not_or] at hc
          split at h
          · next hup =>
            subst hup
            exact .up hd (ih h)
          · next hup =>
            split at h
            · cases h
            · next hl =>
              split at h
              · next ht =>
                refine .down hd ⟨hc.1, hc.2, hup⟩ (Nat.le_of_not_lt hl) (fun hr => ?_) (ih h)
                exact ht.resolve_left fun he => hr (List.isEmpty_iff.mp he)
              · cases h
      · cases h
      · cases h
  · intro h
    induction h with
    | done => rfl
    | stay hd hc _ ih => rw [follow, hd, if_pos hc, ih]
    | up hd _ ih =>
      rw [follow, hd, if_neg (by decide), if_pos rfl]
      exact ih
    | @down place _ c rest hd hc hl ht _ ih =>
      have hthere : rest.isEmpty = true ∨ (t.entry? (place ++ [c])).isSome = true := by
        by_cases hr : rest = []
        · exact .inl (List.isEmpty_iff.mpr hr)
        · exact .inr (ht hr)
      rw [follow, hd, if_neg (not_or.mpr ⟨hc.1, hc.2.1⟩), if_neg hc.2.2,
        if_neg (Nat.not_lt_of_le hl), if_pos hthere]
      exact ih

theorem Follows.of_empty_cons {c : String} (hc : c = "") (h : t.Follows place (c :: cs) other) :
    t.Follows place cs other := by
  cases h with
  | stay _ _ h => exact h
  | up => exact absurd hc (by decide)
  | down _ hne => exact absurd hc hne.1

theorem Follows.grow (hg : t.Grows t') (h : t.Follows place cs other) :
    t'.Follows place cs other := by
  induction h with
  | done => exact .done
  | stay hd hc _ ih => exact .stay (hg _ _ hd) hc ih
  | up hd _ ih => exact .up (hg _ _ hd) ih
  | down hd hc hl ht _ ih =>
    refine .down (hg _ _ hd) hc hl (fun hr => ?_) ih
    obtain ⟨e, he⟩ := Option.isSome_iff_exists.mp (ht hr)
    rw [hg _ e he, Option.isSome_some]

/-- The components of a path that lead somewhere. -/
def steps (cs : List String) : List String :=
  cs.filter fun c => c ≠ "" ∧ c ≠ "."

/-- Through directories, components lead straight to a place. -/
theorem follows_steps (hn : ∀ c ∈ cs, c ≠ ".." ∧ c.length ≤ nameLimit)
    (hd : ∀ before after, cs = before ++ after → after ≠ [] →
      t.entry? (place ++ steps before) = some .directory) :
    t.Follows place cs (place ++ steps cs) := by
  induction cs generalizing place with
  | nil =>
    rw [steps, List.filter_nil, List.append_nil]
    exact .done
  | cons c rest ih =>
    obtain ⟨⟨hup, hl⟩, hrest⟩ := List.forall_mem_cons.mp hn
    have hplace : t.entry? place = some .directory := by
      have h := hd [] (c :: rest) rfl (List.cons_ne_nil c rest)
      rwa [steps, List.filter_nil, List.append_nil] at h
    by_cases hc : c ≠ "" ∧ c ≠ "."
    · have hsteps : ∀ cs, place ++ steps (c :: cs) = place ++ [c] ++ steps cs := by
        intro cs
        rw [steps, List.filter_cons_of_pos (by simpa using hc), steps, List.append_assoc,
          List.singleton_append]
      have hbehind : ∀ before after, rest = before ++ after → after ≠ [] →
          t.entry? (place ++ [c] ++ steps before) = some .directory := by
        intro before after he hne
        rw [← hsteps]
        exact hd (c :: before) after (by rw [he, List.cons_append]) hne
      rw [hsteps]
      refine .down hplace ⟨hc.1, hc.2, hup⟩ hl (fun hr => ?_) (ih hrest hbehind)
      have h := hbehind [] rest rfl hr
      rw [steps, List.filter_nil, List.append_nil] at h
      rw [h, Option.isSome_some]
    · have hsteps : ∀ cs, steps (c :: cs) = steps cs := by
        intro cs
        rw [steps, List.filter_cons_of_neg (by simpa using hc), steps]
      rw [hsteps]
      refine .stay hplace (by rwa [not_and_or, not_not, not_not] at hc) (ih hrest ?_)
      intro before after he hne
      rw [← hsteps]
      exact hd (c :: before) after (by rw [he, List.cons_append]) hne

theorem steps_append (cs ds : List String) : steps (cs ++ ds) = steps cs ++ steps ds :=
  List.filter_append cs ds

theorem steps_ne_nil (h : cs ≠ []) (hl : ∀ c ∈ cs.getLast?, c ≠ "" ∧ c ≠ ".") :
    steps cs ≠ [] := by
  have hlast : cs.getLast h ∈ steps cs :=
    List.mem_filter.mpr ⟨List.getLast_mem h, by
      simpa using hl _ (List.getLast?_eq_some_getLast h)⟩
  exact List.ne_nil_of_mem hlast

/-- Before the first slash stands nothing only where a path begins at the root. -/
theorem isAbsolute_of_fields {path : String} (hp : path ≠ "")
    (h : Text.fields '/' path = "" :: cs) : Path.isAbsolute path = true := by
  unfold Text.fields at h
  unfold Path.isAbsolute
  cases hl : path.toList with
  | nil => exact absurd (String.toList_inj.mp hl) hp
  | cons c rest =>
    rw [hl, List.splitOn_cons_eq_if_modifyHead] at h
    split at h
    · next hc => exact decide_eq_true (by rw [List.head?_cons, eq_of_beq hc])
    · obtain ⟨first, more, he⟩ := List.exists_cons_of_ne_nil (List.splitOn_ne_nil '/' rest)
      rw [he, List.modifyHead_cons, List.map_cons] at h
      have hempty := String.ofList_eq_empty_iff.mp (List.cons.inj h).1
      cases hempty

/-- A path leads where its components lead, from the root or from the directory of work. -/
theorem locate_eq_ok_iff {directory : Place} {path : String} (hp : path ≠ "")
    (hs : path.length ≤ pathLimit) :
    t.locate directory path = .ok place ↔
      t.Follows (if Path.isAbsolute path then [] else directory) (Text.fields '/' path) place := by
  rw [locate, if_neg (by simpa using hp), if_neg (Nat.not_lt_of_le hs)]
  split
  · next rest hfields =>
    rw [if_pos (isAbsolute_of_fields hp hfields), follow_eq_ok_iff, hfields]
    exact ⟨.stay entry?_root (.inl rfl), Follows.of_empty_cons rfl⟩
  · next hfields =>
    have hrelative : ¬ Path.isAbsolute path = true := by
      intro ha
      obtain ⟨rest, rfl⟩ := Path.exists_slash_append ha
      exact hfields _ (Path.fields_slash_append rest)
    rw [if_neg hrelative, follow_eq_ok_iff]

theorem find_eq_ok_iff {directory : Place} {path : String} :
    t.find directory path = .ok e ↔
      ∃ place, t.locate directory path = .ok place ∧ t.entry? place = some e := by
  unfold find
  cases hl : t.locate directory path with
  | error err => simp
  | ok place =>
    cases he : t.entry? place with
    | none => simp [he]
    | some e' => simp [he]

/-- Where a path leads, it leads in a tree with more in it. -/
theorem find_grow {directory : Place} {path : String} (hg : t.Grows t')
    (h : t.find directory path = .ok e) : t'.find directory path = .ok e := by
  obtain ⟨place, hl, he⟩ := find_eq_ok_iff.mp h
  refine find_eq_ok_iff.mpr ⟨place, ?_, hg place e he⟩
  unfold locate at hl ⊢
  split at hl
  · cases hl
  · next hempty =>
    rw [if_neg hempty]
    split at hl
    · cases hl
    · next hlong =>
      rw [if_neg hlong]
      split at hl
      · exact follow_eq_ok_iff.mpr ((follow_eq_ok_iff.mp hl).grow hg)
      · exact follow_eq_ok_iff.mpr ((follow_eq_ok_iff.mp hl).grow hg)

end FileTree

end Host

end Disasm
