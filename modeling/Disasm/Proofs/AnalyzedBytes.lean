import Disasm.Proofs.Analysis
import Disasm.Proofs.Decoding
import Disasm.Tool.Launch

namespace Disasm

/-- What is not ASCII is not made ASCII by reading it as text. -/
theorem Text.Utf8.ascii_decode_iff {bytes : List UInt8} :
    Ascii (decode bytes) ↔ AsciiBytes bytes := by
  constructor
  · intro ha
    by_contra hb
    have hbeyond : ∃ b ∈ bytes, 0x80 ≤ b.toNat := by
      simpa only [AsciiBytes, not_forall, Nat.not_lt, exists_prop] using hb
    obtain ⟨c, hc, hle⟩ := decode_beyond hbeyond
    exact absurd (ha c hc) (Nat.not_lt.mpr hle)
  · intro h c hc
    rw [decode_of_ascii h] at hc
    obtain ⟨b, hb, rfl⟩ := List.mem_map.mp hc
    rw [toNat_ofByte]
    exact h b hb

namespace Listing

open Text (AsciiBytes)
open Text.Utf8

/-- Bytes without those of the angle brackets. -/
def stripBytes (bytes : List UInt8) : List UInt8 :=
  bytes.filter fun b => b ≠ 0x3C ∧ b ≠ 0x3E

variable {bytes : List UInt8}

/-- Among ASCII bytes it makes no difference whether brackets are left out as bytes or as
characters. -/
theorem toList_stripAngleBrackets_decode (h : AsciiBytes bytes) :
    (stripAngleBrackets (decode bytes)).toList = (stripBytes bytes).map ofByte := by
  rw [eq_stripAngleBrackets_iff.mp rfl, decode_of_ascii h, List.filter_map, stripBytes]
  refine congrArg (List.map ofByte) (List.filter_congr ?_)
  intro b _
  have hlt : ofByte b = '<' ↔ b = 0x3C := ofByte_eq_iff (d := 0x3C)
  have hgt : ofByte b = '>' ↔ b = 0x3E := ofByte_eq_iff (d := 0x3E)
  simp only [Function.comp_apply, ne_eq, hlt, hgt]

theorem encode_stripAngleBrackets_decode (h : AsciiBytes bytes) :
    encode (stripAngleBrackets (decode bytes)) = stripBytes bytes := by
  rw [encode, toList_stripAngleBrackets_decode h]
  exact flatMap_utf8EncodeChar_ofByte fun b hb => h b (List.mem_of_mem_filter hb)

/-- Taking brackets out does not make a text ASCII. -/
theorem ascii_stripAngleBrackets_iff {raw : String} :
    Text.Ascii (stripAngleBrackets raw) ↔ Text.Ascii raw := by
  constructor
  · intro h c hc
    by_cases hlt : c = '<'
    · rw [hlt]
      decide
    · by_cases hgt : c = '>'
      · rw [hgt]
        decide
      · exact h c (mem_stripAngleBrackets.mpr ⟨hc, hlt, hgt⟩)
  · intro h c hc
    exact h c (mem_stripAngleBrackets.mp hc).1

end Listing

namespace Tool

/-- A program that ended well has answered with the text of the bytes that it wrote. -/
theorem Launcher.answers_runner {σ : Type} {launch : Launcher σ} {call : Call} {s t : σ}
    {f : Finished} (hl : launch call s = (.ok f, t)) (hs : f.status.success = true) :
    Answers call.program (launch.runner call s) (.ok (Text.Utf8.decode f.stdout)) := by
  have hr : (launch.runner call s).result = .ok f.output := by
    unfold Launcher.runner
    rw [hl]
  exact .wrote (o := f.output) hr hs

end Tool

namespace Inspection

open Listing (stripAngleBrackets stripBytes)
open Text (AsciiBytes)
open Tool

section

variable {σ : Type} {runner : Runner σ} {tools : Toolset} {file raw : String}
  {symbols : List String} {request : AnalysisRequest} {s : σ}

/-- A disassembly that the analyzer can read is read by it. -/
theorem calls_analyze_of_ascii
    (ha : Answers tools.objdump (runner (disassemblyCall tools file symbols) s) (.ok raw))
    (h : Text.Ascii (stripAngleBrackets raw)) :
    calls ((analyze runner tools file symbols request).run s).trace =
      [disassemblyCall tools file symbols,
        analysisCall tools request (stripAngleBrackets raw)] :=
  (analyzes_run.unique (.analyzed ha (Listing.eq_stripAngleBrackets_iff.mp rfl) h rfl
    (answers_iff.mpr rfl))).1

/-- With a disassembly that the analyzer cannot read, the analysis ends. -/
theorem stop_analyze_of_not_ascii
    (ha : Answers tools.objdump (runner (disassemblyCall tools file symbols) s) (.ok raw))
    (h : ¬ Text.Ascii (stripAngleBrackets raw)) :
    calls ((analyze runner tools file symbols request).run s).trace =
        [disassemblyCall tools file symbols] ∧
      ((analyze runner tools file symbols request).run s).result =
        .error (notAscii tools file) := by
  have hstop : Analyzes runner tools file symbols request s _ _ _ :=
    .unreadable ha (Listing.eq_stripAngleBrackets_iff.mp rfl) h
  obtain ⟨hc, hr, -⟩ := analyzes_run.unique hstop
  exact ⟨hc, hr⟩

end

variable {σ : Type} {launch : Launcher σ} {tools : Toolset} {file : String} {symbols : List String}
  {s t : σ} {f : Finished}

/-- The analyzer is started exactly when all that the disassembler wrote is ASCII, and what it reads
then are the bytes of that without angle brackets. Anything else is an argument that is not
valid. -/
theorem analyze_bytes (request : AnalysisRequest)
    (hl : launch (disassemblyCall tools file symbols) s = (.ok f, t))
    (hs : f.status.success = true) :
    let asked := disassemblyCall tools file symbols
    let run := (analyze launch.runner tools file symbols request).run s
    ((∃ assembly, analysisCall tools request assembly ∈ calls run.trace) ↔ AsciiBytes f.stdout) ∧
      (AsciiBytes f.stdout → ∃ assembly,
        calls run.trace = [asked, analysisCall tools request assembly] ∧
          Text.Utf8.encode assembly = stripBytes f.stdout) ∧
      (¬ AsciiBytes f.stdout → calls run.trace = [asked] ∧
        ∃ reason, run.result = .error (.invalidArgument reason)) := by
  intro asked run
  have ha : Answers tools.objdump (launch.runner asked s) (.ok (Text.Utf8.decode f.stdout)) :=
    Launcher.answers_runner hl hs
  have hread : Text.Ascii (stripAngleBrackets (Text.Utf8.decode f.stdout)) ↔ _ :=
    Listing.ascii_stripAngleBrackets_iff.trans Text.Utf8.ascii_decode_iff
  by_cases h : AsciiBytes f.stdout
  · have hcalls : calls run.trace = [asked, analysisCall tools request _] :=
      calls_analyze_of_ascii ha (hread.mpr h)
    refine ⟨iff_of_true ⟨stripAngleBrackets (Text.Utf8.decode f.stdout), ?_⟩ h, ?_,
      fun hn => absurd h hn⟩
    · rw [hcalls]
      exact List.mem_cons_of_mem asked List.mem_cons_self
    · intro _
      exact ⟨_, hcalls, Listing.encode_stripAngleBrackets_decode h⟩
  · obtain ⟨hcalls, hresult⟩ : calls run.trace = [asked] ∧ run.result = _ :=
      stop_analyze_of_not_ascii ha (mt hread.mp h)
    refine ⟨iff_of_false ?_ h, fun hb => absurd hb h, fun _ => ⟨hcalls, _, hresult⟩⟩
    rintro ⟨assembly, hc⟩
    rw [hcalls] at hc
    exact analysisCall_ne assembly (List.mem_singleton.mp hc)

/-- An overlong form of a bracket is no bracket, but bytes that are not ASCII. -/
theorem analyze_bytes_overlong :
    let launch (bytes : List UInt8) : Launcher Unit := fun _ _ =>
      (.ok { status := .code 0, stdout := bytes, stderr := [] }, ())
    let asked := disassemblyCall {} "f.o" []
    let run (bytes : List UInt8) := (analyze (launch bytes).runner {} "f.o" [] {}).run ()
    (∃ assembly, calls (run [0x3C, 0x66, 0x3E, 0x3A]).trace = [asked, analysisCall {} {} assembly] ∧
        Text.Utf8.encode assembly = [0x66, 0x3A]) ∧
      calls (run [0x66, 0xC0, 0xBC]).trace = [asked] ∧
      ∃ reason, (run [0x66, 0xC0, 0xBC]).result = .error (.invalidArgument reason) := by
  intro launch asked run
  have hl : ∀ bytes, launch bytes asked () =
      (.ok { status := .code 0, stdout := bytes, stderr := [] }, ()) := fun _ => rfl
  obtain ⟨-, hascii, -⟩ := analyze_bytes {} (hl [0x3C, 0x66, 0x3E, 0x3A]) rfl
  obtain ⟨-, -, hbeyond⟩ := analyze_bytes {} (hl [0x66, 0xC0, 0xBC]) rfl
  exact ⟨hascii (by simp [AsciiBytes]), hbeyond (by simp [AsciiBytes])⟩

end Inspection

end Disasm
