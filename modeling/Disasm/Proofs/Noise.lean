import Disasm.Listing.Noise

namespace Disasm.Listing

/-- What may stand between here and a closing bracket that ends a member. -/
def Opening.Fits : Opening → List Char → Prop
  | .nothing, cs => ∃ archive member, cs = archive ++ '(' :: member ∧ archive ≠ [] ∧ member ≠ []
  | .outside, cs => ∃ archive member, cs = archive ++ '(' :: member ∧ member ≠ []
  | .bracket, cs => cs ≠ []
  | .inside, _ => True

theorem Opening.fits_nil {o : Opening} : o.Fits [] ↔ o = .inside := by
  cases o <;> simp [Fits]

/-- Reading a character keeps what fits. -/
theorem Opening.fits_cons {o : Opening} {c : Char} {cs : List Char} :
    o.Fits (c :: cs) ↔ (o.next c).Fits cs := by
  cases o with
  | nothing =>
    constructor
    · rintro ⟨archive, member, he, ha, hm⟩
      cases archive with
      | nil => exact absurd rfl ha
      | cons d archive => exact ⟨archive, member, (List.cons.inj he).2, hm⟩
    · rintro ⟨archive, member, rfl, hm⟩
      exact ⟨c :: archive, member, rfl, List.cons_ne_nil c archive, hm⟩
  | outside =>
    simp only [next]
    split
    · next hc =>
      subst hc
      constructor
      · rintro ⟨archive, member, he, hm⟩
        cases archive with
        | nil => exact (List.cons.inj he).2 ▸ hm
        | cons d archive =>
          rw [Fits, (List.cons.inj he).2]
          exact List.append_ne_nil_of_right_ne_nil _ (List.cons_ne_nil '(' member)
      · intro h
        exact ⟨[], cs, rfl, h⟩
    · next hc =>
      constructor
      · rintro ⟨archive, member, he, hm⟩
        cases archive with
        | nil => exact absurd (List.cons.inj he).1 hc
        | cons d archive => exact ⟨archive, member, (List.cons.inj he).2, hm⟩
      · rintro ⟨archive, member, rfl, hm⟩
        exact ⟨c :: archive, member, rfl, hm⟩
  | bracket => simp [Fits, next]
  | inside => simp [Fits, next]

theorem followsMember_iff {cs : List Char} :
    followsMember cs = true ↔
      ∃ blank rest, cs = ':' :: blank :: rest ∧ Text.isAsciiBlank blank = true ∧ rest ≠ [] := by
  unfold followsMember
  split
  · next blank c rest =>
    constructor
    · intro h
      exact ⟨blank, c :: rest, rfl, h, List.cons_ne_nil c rest⟩
    · rintro ⟨b, r, he, hb, _⟩
      cases he
      exact hb
  · next hn =>
    constructor
    · intro h
      cases h
    · rintro ⟨b, r, rfl, _, hr⟩
      cases r with
      | nil => exact absurd rfl hr
      | cons c rest => exact absurd rfl (hn b c rest)

/-- All closing brackets are tried, and all that stands before each. -/
theorem memberEnds_iff {o : Opening} {cs : List Char} :
    memberEnds o cs = true ↔
      ∃ before after, cs = before ++ ')' :: after ∧ o.Fits before ∧ followsMember after = true := by
  induction cs generalizing o with
  | nil => simp [memberEnds]
  | cons c cs ih =>
    simp only [memberEnds, Bool.or_eq_true, Bool.and_eq_true, decide_eq_true_eq, ih]
    constructor
    · rintro (⟨⟨ho, rfl⟩, h⟩ | ⟨before, after, rfl, hb, h⟩)
      · exact ⟨[], cs, rfl, Opening.fits_nil.mpr ho, h⟩
      · exact ⟨c :: before, after, rfl, Opening.fits_cons.mpr hb, h⟩
    · rintro ⟨before, after, he, hb, h⟩
      cases before with
      | nil =>
        obtain ⟨rfl, rfl⟩ := List.cons.inj he
        exact .inl ⟨⟨Opening.fits_nil.mp hb, rfl⟩, h⟩
      | cons d before =>
        obtain ⟨rfl, rfl⟩ := List.cons.inj he
        exact .inr ⟨before, after, rfl, Opening.fits_cons.mp hb, h⟩

def label (name : String) : String :=
  "<" ++ name ++ ">:"

/-- The lines, without their ends, that are noise of each kind. -/
inductive Noise.Shape : Noise → String → Prop
  | archiveMember {archive member rest : String} {blank : Char} (ha : archive ≠ "")
      (hm : member ≠ "") (hb : Text.isAsciiBlank blank = true) (hr : rest ≠ "") :
      Shape .archiveMember
        (archive ++ "(" ++ member ++ "):" ++ String.singleton blank ++ rest)
  | blank : Shape .blank ""
  | sectionBanner {name : String} (h : name ≠ "") :
      Shape .sectionBanner ("Disassembly of section " ++ name)
  | symbolLabel {name : String} (h : name ≠ "") : Shape .symbolLabel (label name)

theorem isArchiveMember_iff {body : String} :
    isArchiveMember body = true ↔ Noise.archiveMember.Shape body := by
  rw [isArchiveMember, memberEnds_iff]
  constructor
  · rintro ⟨before, after, he, ⟨archive, member, rfl, ha, hm⟩, hf⟩
    obtain ⟨blank, rest, rfl, hb, hr⟩ := followsMember_iff.mp hf
    have hbody : body = String.ofList archive ++ "(" ++ String.ofList member ++ "):" ++
        String.singleton blank ++ String.ofList rest := by
      apply String.toList_inj.mp
      simp [he]
    rw [hbody]
    exact .archiveMember (by simpa using ha) (by simpa using hm) hb (by simpa using hr)
  · intro h
    cases h with
    | @archiveMember archive member rest blank ha hm hb hr =>
      refine ⟨archive.toList ++ '(' :: member.toList, ':' :: blank :: rest.toList, by simp, ?_, ?_⟩
      · exact ⟨archive.toList, member.toList, rfl, by simpa using ha, by simpa using hm⟩
      · exact followsMember_iff.mpr ⟨blank, rest.toList, rfl, hb, by simpa using hr⟩

theorem isSectionBanner_iff {body : String} :
    isSectionBanner body = true ↔ Noise.sectionBanner.Shape body := by
  rw [isSectionBanner, Bool.and_eq_true, List.isPrefixOf_iff_prefix, decide_eq_true_eq]
  constructor
  · rintro ⟨⟨name, he⟩, hlt⟩
    have hbody : body = "Disassembly of section " ++ String.ofList name := by
      apply String.toList_inj.mp
      simp [← he, bannerStart]
    have hne : String.ofList name ≠ "" := by
      intro h
      rw [hbody, h, String.append_empty] at hlt
      exact Nat.lt_irrefl _ hlt
    rw [hbody]
    exact .sectionBanner hne
  · intro h
    cases h with
    | @sectionBanner name hne =>
      refine ⟨⟨name.toList, by rw [String.toList_append]; rfl⟩, ?_⟩
      rw [String.length_append]
      exact Nat.lt_add_of_pos_right (Nat.pos_of_ne_zero (mt String.length_eq_zero_iff.mp hne))

theorem toList_label (name : String) : (label name).toList = '<' :: (name.toList ++ ['>', ':']) := by
  simp [label]

theorem label_injective : Function.Injective label := by
  intro name other h
  have hl := congrArg String.toList h
  rw [toList_label, toList_label] at hl
  exact String.toList_inj.mp (List.append_cancel_right (List.cons.inj hl).2)

theorem labelName?_label {name : String} (h : name ≠ "") : labelName? (label name) = some name := by
  have hrev : (name.toList ++ ['>', ':']).reverse = ':' :: '>' :: name.toList.reverse := by simp
  cases hn : name.toList.reverse with
  | nil => exact absurd (by simpa using hn) h
  | cons c cs =>
    have hname : String.ofList (c :: cs).reverse = name := by
      rw [← hn, List.reverse_reverse, String.ofList_toList]
    simp only [labelName?, toList_label, hrev, hn, hname]

theorem labelName?_eq_some_iff {body name : String} :
    labelName? body = some name ↔ name ≠ "" ∧ body = label name := by
  constructor
  · intro h
    unfold labelName? at h
    split at h
    · next rest hb =>
      split at h
      · next c cs hr =>
        cases h
        refine ⟨by simp, ?_⟩
        apply String.toList_inj.mp
        rw [hb, toList_label, String.toList_ofList, ← List.reverse_reverse rest, hr]
        simp
      · cases h
    · cases h
  · rintro ⟨hne, rfl⟩
    exact labelName?_label hne

theorem isSome_labelName?_iff {body : String} :
    (labelName? body).isSome = true ↔ Noise.symbolLabel.Shape body := by
  rw [Option.isSome_iff_exists]
  constructor
  · rintro ⟨name, h⟩
    obtain ⟨hne, rfl⟩ := labelName?_eq_some_iff.mp h
    exact .symbolLabel hne
  · intro h
    cases h with
    | symbolLabel hne => exact ⟨_, labelName?_label hne⟩

namespace Noise

/-- Each test accepts its shape and nothing else. -/
theorem covers_iff {kind : Noise} {body : String} : kind.covers body = true ↔ kind.Shape body := by
  cases kind with
  | archiveMember => exact isArchiveMember_iff
  | blank =>
    rw [covers, String.isEmpty_iff]
    constructor
    · rintro rfl
      exact .blank
    · rintro ⟨⟩
      rfl
  | sectionBanner => exact isSectionBanner_iff
  | symbolLabel => exact isSome_labelName?_iff

theorem mem_all (kind : Noise) : kind ∈ all := by
  cases kind <;> decide

end Noise

/-- A line, without its end, that is noise of some kind. -/
def IsNoise (body : String) : Prop :=
  ∃ kind : Noise, kind.Shape body

/-- A line, without its end, that is the label of some name. -/
def IsLabel (body : String) : Prop :=
  Noise.symbolLabel.Shape body

instance : DecidablePred IsLabel := fun _ =>
  decidable_of_iff _ isSome_labelName?_iff

theorem Noise.first?_eq_none_iff {kinds : List Noise} {body : String}
    (h : ∀ kind, kind ∈ kinds) : first? kinds body = none ↔ ¬ IsNoise body := by
  simp only [first?, List.find?_eq_none, covers_iff, IsNoise, not_exists]
  exact ⟨fun hn kind => hn kind (h kind), fun hn kind _ => hn kind⟩

instance : DecidablePred IsNoise := fun _ =>
  decidable_of_iff (Noise.first? Noise.all _ ≠ none)
    ((not_congr (Noise.first?_eq_none_iff Noise.mem_all)).trans Classical.not_not)

end Disasm.Listing
