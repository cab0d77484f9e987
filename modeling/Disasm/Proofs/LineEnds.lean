import Disasm.Proofs.CleanedWords
import Disasm.Proofs.FeatureSearch

namespace Disasm

namespace Text

def bodies (s : String) : List String :=
  (lines s).map body

def returnFeeds (cs : List Char) : List Char :=
  cs.flatMap fun c => if c = '\n' then ['\r', '\n'] else [c]

/-- A text with a carriage return in front of every line feed. -/
def crlf (s : String) : String :=
  String.ofList (returnFeeds s.toList)

theorem toList_crlf (s : String) : (crlf s).toList = returnFeeds s.toList :=
  String.toList_ofList

theorem returnFeeds_of_not_mem {cs : List Char} (h : '\n' ∉ cs) : returnFeeds cs = cs := by
  induction cs with
  | nil => rfl
  | cons c cs ih =>
    obtain ⟨hc, hcs⟩ := not_or.mp (mt List.mem_cons.mpr h)
    rw [returnFeeds, List.flatMap_cons, if_neg (Ne.symm hc)]
    exact congrArg (c :: ·) (ih hcs)

theorem returnFeeds_append_feed {body : List Char} (h : '\n' ∉ body) :
    returnFeeds (body ++ ['\n']) = (body ++ ['\r']) ++ ['\n'] := by
  rw [returnFeeds, List.flatMap_append, List.append_assoc]
  exact congrArg (· ++ ['\r', '\n']) (returnFeeds_of_not_mem h)

theorem Lined.returnFeeds {ls : List (List Char)} (h : Lined ls) :
    Lined (ls.map Text.returnFeeds) := by
  induction h with
  | nil => exact .nil
  | last hne hn =>
    rw [List.map_singleton, returnFeeds_of_not_mem hn]
    exact .last hne hn
  | cons hn _ ih =>
    rw [List.map_cons, returnFeeds_append_feed hn]
    exact .cons (by simpa using hn) ih

theorem crlf_join (ls : List String) : crlf (String.join ls) = String.join (ls.map crlf) := by
  apply String.toList_inj.mp
  simp only [toList_crlf, String.toList_join, returnFeeds, List.flatMap_assoc, List.flatMap_map]

/-- Lines stay the same lines. -/
theorem lines_crlf (s : String) : lines (crlf s) = (lines s).map crlf := by
  refine lines_eq_iff.mpr ⟨?_, by rw [← crlf_join, join_lines]⟩
  have hmap : ((lines s).map crlf).map String.toList =
      ((lines s).map String.toList).map returnFeeds := by
    simp only [List.map_map, Function.comp_def, toList_crlf]
  rw [hmap]
  exact (lined_lines s).returnFeeds

theorem Lined.mem_cases {ls : List (List Char)} (h : Lined ls) {line : List Char}
    (hl : line ∈ ls) : ∃ body, '\n' ∉ body ∧ (line = body ∨ line = body ++ ['\n']) := by
  induction h with
  | nil => cases hl
  | last hne hn =>
    cases List.mem_singleton.mp hl
    exact ⟨_, hn, .inl rfl⟩
  | cons hn _ ih =>
    rcases List.mem_cons.mp hl with rfl | hl
    · exact ⟨_, hn, .inr rfl⟩
    · exact ih hl

/-- The carriage return that comes in is the one that a body is without. -/
theorem body_crlf {s line : String} (h : '\r' ∉ s.toList) (hl : line ∈ lines s) :
    body (crlf line) = body line := by
  obtain ⟨b, hn, hb⟩ := (lined_lines s).mem_cases (List.mem_map_of_mem hl)
  have hr : '\r' ∉ b := by
    intro hr
    refine h ?_
    rw [← join_lines s, String.toList_join]
    refine List.mem_flatMap.mpr ⟨line, hl, ?_⟩
    rcases hb with hb | hb <;> simp [hb, hr]
  have hstay : dropLastIf '\r' b = b :=
    if_neg fun hlast => hr (List.mem_of_getLast? hlast)
  rcases hb with hb | hb
  · have he : crlf line = line := by
      rw [crlf, hb, returnFeeds_of_not_mem hn, ← hb, String.ofList_toList]
    rw [he]
  · rw [body, body, toList_crlf, hb, returnFeeds_append_feed hn, dropLastIf_append,
      dropLastIf_append, dropLastIf_append, hstay]

theorem bodies_crlf {s : String} (h : '\r' ∉ s.toList) : bodies (crlf s) = bodies s := by
  rw [bodies, lines_crlf, List.map_map]
  exact List.map_congr_left fun line hl => body_crlf h hl

/-- Names that go on over no end of a line stand in the bodies. -/
theorem within_iff_bodies {part s : String} (hne : part ≠ "") (hu : Unbroken part) :
    Within part s ↔ ∃ b ∈ bodies s, Within part b := by
  rw [within_iff_line hne hu.feed_not_mem]
  simp only [bodies, List.mem_map, exists_exists_and_eq_and, within_body_iff hu]

end Text

namespace Listing

open Text (bodies body crlf lines Within Unbroken)

variable {raw other symbol : String}

theorem labels_clean_eq (raw : String) :
    (clean raw).labels = (bodies raw).filterMap labelName? := by
  rw [labels_clean, bodies, List.filterMap_map]
  rfl

theorem bodies_text_clean (raw : String) :
    bodies (clean raw).text = (bodies raw).filter fun b => ¬ IsNoise b := by
  rw [bodies, lines_text_clean, bodies, List.filter_map, Function.comp_def]

/-- Listings whose lines have the same bodies have the same mnemonics. -/
theorem mnemonics_eq_of_bodies (h : bodies raw = bodies other) :
    mnemonics raw = mnemonics other := by
  apply mnemonics_eq_of_uses_iff
  intro m
  have huses : ∀ text, Uses text m ↔ ∃ b ∈ bodies text, Text.Indented b ∧
      ∃ word, Text.FirstWord b word ∧ Text.lowercase word = m := by
    intro text
    simp only [uses_iff_body, bodies, List.mem_map, exists_exists_and_eq_and]
  rw [huses, huses, h]

theorem shows_clean_iff_of_bodies (h : bodies raw = bodies other) (hu : Unbroken symbol) :
    (clean raw).Shows symbol ↔ (clean other).Shows symbol := by
  have htext : bodies (clean raw).text = bodies (clean other).text := by
    rw [bodies_text_clean, bodies_text_clean, h]
  rw [Cleaned.Shows, Cleaned.Shows, labels_clean_eq, labels_clean_eq, h]
  by_cases hne : symbol = ""
  · subst hne
    simp [Within]
  · rw [Text.within_iff_bodies hne hu, Text.within_iff_bodies hne hu, htext]

/-- What is chosen is the same before and after a change that does not concern the choice. -/
theorem filter_map_of_iff {α : Type} {p : α → Prop} [DecidablePred p] {f : α → α} {xs : List α}
    (h : ∀ x ∈ xs, p (f x) ↔ p x) :
    (xs.map f).filter (fun x => p x) = (xs.filter fun x => p x).map f := by
  rw [List.filter_map]
  refine congrArg (List.map f) (List.filter_congr ?_)
  intro x hx
  exact decide_eq_decide.mpr (h x hx)

theorem text_clean_crlf (h : '\r' ∉ raw.toList) :
    (clean (crlf raw)).text = crlf (clean raw).text := by
  have hstay : ∀ line ∈ lines raw, (¬ IsNoise (body (crlf line))) ↔ ¬ IsNoise (body line) := by
    intro line hl
    rw [Text.body_crlf h hl]
  rw [Cleaned.text, Cleaned.text, kept_clean, kept_clean, Text.lines_crlf, Text.crlf_join,
    filter_map_of_iff hstay]

end Listing

namespace Inspection

open Listing (clean mnemonics)
open Text (bodies crlf Unbroken)
open Tool

variable {σ τ : Type} {runner : Runner σ} {other : Runner τ} {tools : Toolset} {c : Catalogue}
  {file symbol raw text : String} {cpu : Option String} {s : σ} {t : τ}

/-- Disassemblies whose lines have the same bodies give a search the same result. -/
theorem result_detect_eq_of_bodies (h : bodies raw = bodies text) (hu : Unbroken symbol)
    (ha : Answers tools.objdump (runner (featuresCall tools file symbol cpu) s) (.ok raw))
    (ho : Answers tools.objdump (other (featuresCall tools file symbol cpu) t) (.ok text)) :
    ((detect runner tools c file symbol cpu).run s).result =
      ((detect other tools c file symbol cpu).run t).result := by
  have hshows := Listing.shows_clean_iff_of_bodies h hu
  by_cases hs : (clean raw).Shows symbol
  · have hm : mnemonics (clean raw).text = mnemonics (clean text).text := by
      apply Listing.mnemonics_eq_of_bodies
      rw [Listing.bodies_text_clean, Listing.bodies_text_clean, h]
    rw [result_detect_of_shows ha hs, result_detect_of_shows ho (hshows.mp hs),
      Catalogue.detect, Catalogue.detect, hm]
  · rw [run_detect_of_not_shows ha hs, run_detect_of_not_shows ho (mt hshows.mpr hs)]

/-- With a carriage return in front of every line feed, a listing without carriage returns is
cleaned to the same lines and labels, uses the same mnemonics, and gives a search the same
result. -/
theorem detect_crlf (h : '\r' ∉ raw.toList) :
    (clean (crlf raw)).text = crlf (clean raw).text ∧
      (clean (crlf raw)).labels = (clean raw).labels ∧
      mnemonics (crlf raw) = mnemonics raw ∧
      ∀ {σ τ : Type} (runner : Runner σ) (other : Runner τ) (tools : Toolset) (c : Catalogue)
        (file symbol : String) (cpu : Option String) (s : σ) (t : τ), Unbroken symbol →
        Answers tools.objdump (runner (featuresCall tools file symbol cpu) s) (.ok raw) →
        Answers tools.objdump (other (featuresCall tools file symbol cpu) t) (.ok (crlf raw)) →
        ((detect runner tools c file symbol cpu).run s).result =
          ((detect other tools c file symbol cpu).run t).result := by
  have hb := Text.bodies_crlf h
  refine ⟨Listing.text_clean_crlf h, ?_, Listing.mnemonics_eq_of_bodies hb, ?_⟩
  · rw [Listing.labels_clean_eq, Listing.labels_clean_eq, hb]
  · intro σ τ runner other tools c file symbol cpu s t hu ha ho
    exact result_detect_eq_of_bodies hb.symm hu ha ho

/-- Among the lines are noise of other kinds than the label and a last line without an end. -/
theorem detect_crlf_unended :
    let raw := "a(f):\tx\n\n<f>:\n\tTZCNT\n\tret"
    let answering (text : String) : Runner Unit := fun _ _ => ⟨.ok { stdout := text }, [], ()⟩
    let c : Catalogue := ⟨[⟨"BMI1", ["TZCNT"]⟩]⟩
    let result (text : String) := ((detect (answering text) {} c "libc.a" "f" none).run ()).result
    '\r' ∉ raw.toList ∧ Unbroken "f" ∧
      (clean (crlf raw)).text = "\tTZCNT\r\n\tret" ∧
      (clean (crlf raw)).labels = ["f"] ∧
      result (crlf raw) = .ok ⟨[⟨"BMI1", ["tzcnt"]⟩]⟩ := by
  intro raw answering c result
  have hr : '\r' ∉ raw.toList := by decide +kernel
  have hu : Unbroken "f" := by decide +kernel
  have ha : ∀ text, Answers ({} : Toolset).objdump
      (answering text (featuresCall {} "libc.a" "f" none) ()) (.ok text) :=
    fun text => .wrote (o := { stdout := text }) rfl rfl
  obtain ⟨htext, hlabels, -, hsame⟩ := detect_crlf hr
  refine ⟨hr, hu, htext.trans (by decide +kernel), hlabels.trans (by decide +kernel), ?_⟩
  refine Eq.trans (hsame _ _ {} c "libc.a" "f" none () () hu (ha raw) (ha (crlf raw))).symm ?_
  decide +kernel

end Inspection

end Disasm
