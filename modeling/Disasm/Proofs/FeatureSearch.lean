import Disasm.Proofs.Presence
import Disasm.Proofs.Sessions

namespace Disasm

namespace Inspection

open Listing (Absent IsRemark clean label)
open Text (body lines Within Unbroken)
open Tool

def featuresCall (tools : Toolset) (file symbol : String) (cpu : Option String) : Call :=
  ⟨tools.objdump, (DisassemblyRequest.forFeatures file symbol cpu).args, none⟩

section

variable {σ : Type} (tool : String) (reply : Reply σ) (c : Catalogue) (file symbol : String)

/-- What a search comes to when the disassembler gives a reply. -/
inductive Detects : Except Error Findings → Prop
  /-- The disassembly came to nothing. -/
  | stopped {e : Error} (h : Answers tool reply (.error e)) : Detects (.error e)
  /-- There is a disassembly, which does not show the function. -/
  | missing {raw : String} (h : Answers tool reply (.ok raw)) (hs : ¬ (clean raw).Shows symbol) :
      Detects (.error (.symbolMissing symbol file))
  /-- The function is there. It may well use no feature at all. -/
  | found {raw : String} (h : Answers tool reply (.ok raw)) (hs : (clean raw).Shows symbol) :
      Detects (.ok (c.detect (clean raw).text))

end

section

variable {σ : Type} {tool : String} {reply : Reply σ} {c : Catalogue} {file symbol : String}
  {r r' : Except Error Findings}

/-- A reply leaves a search no choice. -/
theorem Detects.unique (h : Detects tool reply c file symbol r)
    (h' : Detects tool reply c file symbol r') : r = r' := by
  cases h with
  | stopped h =>
    cases h' with
    | stopped h' => cases h.unique h'; rfl
    | missing h' => cases h.unique h'
    | found h' => cases h.unique h'
  | missing h hs =>
    cases h' with
    | stopped h' => cases h.unique h'
    | missing => rfl
    | found h' hs' =>
      cases h.unique h'
      exact absurd hs' hs
  | found h hs =>
    cases h' with
    | stopped h' => cases h.unique h'
    | missing h' hs' =>
      cases h.unique h'
      exact absurd hs hs'
    | found h' => cases h.unique h'; rfl

end

variable {σ : Type} {runner : Runner σ} {tools : Toolset} {c : Catalogue} {file symbol : String}
  {cpu : Option String} {s : σ}

theorem disassemble_answers :
    Answers tools.objdump (runner (featuresCall tools file symbol cpu) s)
      ((disassemble runner tools (.forFeatures file symbol cpu)).run s).result := by
  rw [run_disassemble]
  exact answers_iff.mpr rfl

theorem calls_detect :
    calls ((detect runner tools c file symbol cpu).run s).trace =
      [featuresCall tools file symbol cpu] := by
  rw [run_detect]
  dsimp only
  split
  · exact calls_disassemble runner tools s _
  · split <;> simp only [calls_append, calls_map_event, calls_disassemble, List.append_nil] <;> rfl

theorem state_detect :
    ((detect runner tools c file symbol cpu).run s).state =
      (runner (featuresCall tools file symbol cpu) s).state := by
  rw [run_detect]
  dsimp only
  split
  · exact state_disassemble runner tools s _
  · split <;> exact state_disassemble runner tools s _

theorem detects_run :
    Detects tools.objdump (runner (featuresCall tools file symbol cpu) s) c file symbol
      ((detect runner tools c file symbol cpu).run s).result := by
  have ha : Answers tools.objdump (runner (featuresCall tools file symbol cpu) s) _ :=
    disassemble_answers
  rw [run_detect]
  dsimp only
  split
  · next h => exact .stopped (h ▸ ha)
  · next raw h =>
    rw [h] at ha
    split
    · next hm => exact .found ha (Listing.Cleaned.mentions_iff.mp hm)
    · next hm => exact .missing ha (mt Listing.Cleaned.mentions_iff.mpr hm)

variable {raw : String}

/-- The features of a function that the disassembly shows are looked for. -/
theorem result_detect_of_shows
    (ha : Answers tools.objdump (runner (featuresCall tools file symbol cpu) s) (.ok raw))
    (hs : (clean raw).Shows symbol) :
    ((detect runner tools c file symbol cpu).run s).result = .ok (c.detect (clean raw).text) :=
  detects_run.unique (.found ha hs)

/-- Nothing is done about a function that the disassembly does not show. -/
theorem run_detect_of_not_shows
    (ha : Answers tools.objdump (runner (featuresCall tools file symbol cpu) s) (.ok raw))
    (hs : ¬ (clean raw).Shows symbol) :
    (detect runner tools c file symbol cpu).run s =
      let opening := (disassemble runner tools (.forFeatures file symbol cpu)).run s
      ⟨.error (.symbolMissing symbol file),
        opening.trace ++ (clean raw).events.map .event, opening.state⟩ := by
  have hr := disassemble_answers.unique ha
  rw [run_detect]
  simp only [hr, mt Listing.Cleaned.mentions_iff.mp hs, Bool.false_eq_true, ↓reduceIte]

/-- A search for features is one call of the disassembler, which leaves it one outcome; the
analyzer has no part in it. A function that has a label in the disassembly is found. -/
theorem detect_detects (runner : Runner σ) (tools : Toolset) (c : Catalogue)
    (file symbol : String) (cpu : Option String) (s : σ) :
    let asked := featuresCall tools file symbol cpu
    let run := (detect runner tools c file symbol cpu).run s
    calls run.trace = [asked] ∧ run.state = (runner asked s).state ∧
      (∀ r, Detects tools.objdump (runner asked s) c file symbol r ↔ r = run.result) ∧
      (∀ mca, (detect runner { tools with mca := mca } c file symbol cpu).run s = run) ∧
      ∀ raw, Answers tools.objdump (runner asked s) (.ok raw) → symbol ≠ "" →
        ∀ line ∈ lines raw, body line = label symbol →
          run.result = .ok (c.detect (clean raw).text) := by
  refine ⟨calls_detect, state_detect, fun r => ⟨fun h => h.unique detects_run, ?_⟩,
    fun mca => rfl, ?_⟩
  · rintro rfl
    exact detects_run
  · intro raw ha hne line hl he
    exact result_detect_of_shows ha (Listing.shows_clean_of_label hne hl he)

/-- The label of `f(int): g` could be taken for the header of an archive member, and shows the
function all the same. -/
theorem detect_label_like_header :
    let raw := "<f(int): g>:\r\n\tRET\r\n"
    let runner : Runner Unit := fun _ _ => ⟨.ok { stdout := raw }, [], ()⟩
    let c : Catalogue := ⟨[⟨"BASE", ["ret"]⟩]⟩
    Listing.isArchiveMember "<f(int): g>:" = true ∧ "<f(int): g>:\r\n" ∈ lines raw ∧
      body "<f(int): g>:\r\n" = label "f(int): g" ∧
      ((detect runner {} c "f.o" "f(int): g" none).run ()).result =
        .ok ⟨[⟨"BASE", ["ret"]⟩]⟩ := by
  intro raw runner c
  have hl : "<f(int): g>:\r\n" ∈ lines raw := by decide +kernel
  have he : body "<f(int): g>:\r\n" = label "f(int): g" := by decide +kernel
  have ha : Answers "llvm-objdump" (runner (featuresCall {} "f.o" "f(int): g" none) ()) (.ok raw) :=
    .wrote (o := { stdout := raw }) rfl rfl
  obtain ⟨-, -, -, -, hfound⟩ := detect_detects runner {} c "f.o" "f(int): g" none ()
  refine ⟨by decide +kernel, hl, he, (hfound raw ha (by decide +kernel) _ hl he).trans ?_⟩
  decide +kernel

/-- The header of a file that is called after the function stays, so the function counts as found
although nothing of it was disassembled. -/
theorem detect_finds_file_header :
    let raw := "\nstrlen.o:\tfile format elf64-x86-64\n"
    let runner : Runner Unit := fun _ _ => ⟨.ok { stdout := raw }, [], ()⟩
    let c : Catalogue := ⟨[⟨"SSE2", ["movapd", "paddw"]⟩]⟩
    "strlen" ≠ "" ∧ Unbroken "strlen" ∧ Absent raw "strlen" ∧
      ((detect runner {} c "strlen.o" "strlen" none).run ()).result = .ok {} := by
  decide +kernel

/-- A function that is absent is reported as missing, and nothing is matched, exactly when no
remark names it either. If one does, the search goes on as if the function were there. -/
theorem detect_absent_iff
    (ha : Answers tools.objdump (runner (featuresCall tools file symbol cpu) s) (.ok raw))
    (hne : symbol ≠ "") (hu : Unbroken symbol) (h : Absent raw symbol) :
    let opening := (disassemble runner tools (.forFeatures file symbol cpu)).run s
    let run := (detect runner tools c file symbol cpu).run s
    ((run.result = .error (.symbolMissing symbol file) ∧
        run.trace = opening.trace ++ (clean raw).events.map .event) ↔
      ∀ line ∈ lines raw, IsRemark (body line) → ¬ Within symbol (body line)) ∧
    ((∃ line ∈ lines raw, IsRemark (body line) ∧ Within symbol (body line)) →
      run.result = .ok (c.detect (clean raw).text)) := by
  have hshows := h.shows_clean_iff hne hu
  refine ⟨⟨?_, ?_⟩, ?_⟩
  · rintro ⟨hr, -⟩ line hl hremark hw
    rw [result_detect_of_shows ha (hshows.mpr ⟨line, hl, hremark, hw⟩)] at hr
    cases hr
  · intro hremarks
    have hs : ¬ (clean raw).Shows symbol := by
      intro hs
      obtain ⟨line, hl, hremark, hw⟩ := hshows.mp hs
      exact hremarks line hl hremark hw
    rw [run_detect_of_not_shows ha hs]
    exact ⟨rfl, rfl⟩
  · intro hremark
    exact result_detect_of_shows ha (hshows.mpr hremark)

/-- A member of an archive, a section and another function that are called after a function do not
make up for it. -/
theorem detect_absent_from_archive :
    let raw := "libc.a(strlen.o):\tfile\n\n" ++
      "Disassembly of section .strlen:\n<strlen_avx2>:\n\tret\n"
    let runner : Runner Unit := fun _ _ => ⟨.ok { stdout := raw }, [], ()⟩
    "strlen" ≠ "" ∧ Unbroken "strlen" ∧ Absent raw "strlen" ∧
      (∀ line ∈ lines raw, IsRemark (body line) → ¬ Within "strlen" (body line)) ∧
      ((detect runner {} .builtin "libc.a" "strlen" none).run ()).result =
        .error (.symbolMissing "strlen" "libc.a") := by
  intro raw runner
  have hu : Unbroken "strlen" := by decide +kernel
  have h : Absent raw "strlen" := by decide +kernel
  have hremarks : ∀ line ∈ lines raw, IsRemark (body line) → ¬ Within "strlen" (body line) := by
    decide +kernel
  have ha : Answers ({} : Toolset).objdump
      (runner (featuresCall {} "libc.a" "strlen" none) ()) (.ok raw) :=
    .wrote (o := { stdout := raw }) rfl rfl
  refine ⟨by decide +kernel, hu, h, hremarks, ?_⟩
  exact ((detect_absent_iff ha (by decide +kernel) hu h).1.mpr hremarks).1

end Inspection

end Disasm
