import Disasm.Proofs.Analysis
import Disasm.Proofs.FeatureSearch

namespace Disasm

namespace Error

/-- The texts that an error carries into its wording. -/
def parts : Error → List String
  | .toolMissing tool => [tool]
  | .toolFailed tool stderr => [tool, stderr]
  | .toolNotStarted tool cause => [tool, cause]
  | .symbolMissing symbol file => [symbol, file]
  | .invalidPath path => [path]
  | .invalidArgument reason => [reason]
  | .io cause => [cause]

/-- The wording itself has no break. -/
theorem unbroken_message_iff (e : Error) :
    Text.Unbroken e.message ↔ ∀ part ∈ e.parts, Text.Unbroken part := by
  have hwords : ∀ words ∈ ["Tool '", "' not found", "Failed to run '", "Failed to start '", "': ",
      "Can't find the '", "' symbol in the file '", "'.", "'", "' is not a valid path to the file",
      "invalid argument: "], Text.Unbroken words := by
    decide +kernel
  simp only [List.forall_mem_cons] at hwords
  -- by the definition, for its equations take long to make
  delta message
  cases e <;> simp [parts, Text.unbroken_append, hwords]

end Error

namespace Tool

open Text (TrimsTo Unbroken)

variable {σ : Type}

/-- The replies to some calls that are made one after the other. -/
def replies (runner : Runner σ) (s : σ) : List Call → List (Reply σ)
  | [] => []
  | c :: cs => runner c s :: replies runner (runner c s).state cs

/-- The reply of a tool that failed, and what it wrote about it without the blanks at the end. -/
def Complains (reply : Reply σ) (complaint : String) : Prop :=
  ∃ o, reply.result = .ok o ∧ o.success = false ∧ TrimsTo o.stderr complaint

/-- What a runner itself gives for an error breaks no line. -/
def Terse (runner : Runner σ) : Prop :=
  ∀ c s e, (runner c s).result = .error e → ∀ part ∈ e.parts, Unbroken part

/-- The diagnostic of a run, if it ends with an error, is one line just if all complaints of the
tools that it called are. -/
def Diagnosed {α : Type} (runner : Runner σ) (s : σ) (run : Run σ α) : Prop :=
  ∀ e, run.result = .error e →
    (Unbroken e.message ↔
      ∀ reply ∈ replies runner s (calls run.trace), ∀ complaint, Complains reply complaint →
        Unbroken complaint)

variable {runner : Runner σ} {tool : String} {c : Call} {s : σ}

theorem Complains.unique {reply : Reply σ} {complaint other : String}
    (h : Complains reply complaint) (h' : Complains reply other) : complaint = other := by
  obtain ⟨o, ho, -, ht⟩ := h
  obtain ⟨o', ho', -, ht'⟩ := h'
  cases ho.symm.trans ho'
  exact ht.unique ht'

/-- A tool whose text goes on has not complained. -/
theorem Answers.not_complains {reply : Reply σ} {text complaint : String}
    (h : Answers tool reply (.ok text)) : ¬ Complains reply complaint := by
  rintro ⟨o, ho, hs, ht⟩
  cases h.unique (.failed ho hs ht)

/-- The diagnostic for a call that came to nothing has the breaks of the tool's complaint. -/
theorem Answers.unbroken_message_iff {e : Error} (h : Answers tool (runner c s) (.error e))
    (ht : Unbroken tool) (hr : Terse runner) :
    Unbroken e.message ↔ ∀ complaint, Complains (runner c s) complaint → Unbroken complaint := by
  rw [Error.unbroken_message_iff]
  cases h with
  | refused h =>
    refine ⟨?_, fun _ => hr c s e h⟩
    rintro - complaint ⟨o, ho, -, -⟩
    cases h.symm.trans ho
  | @failed o complaint h hs htrim =>
    have hc : Complains (runner c s) complaint := ⟨o, h, hs, htrim⟩
    simp only [Error.parts, List.forall_mem_cons, List.not_mem_nil, false_implies, implies_true,
      and_true]
    constructor
    · rintro ⟨-, hu⟩ other hother
      exact hc.unique hother ▸ hu
    · intro hall
      exact ⟨ht, hall complaint hc⟩

end Tool

namespace Inspection

open Tool
open Text (Unbroken)

variable {σ : Type} {runner : Runner σ} {tools : Toolset} {file symbol : String}
  {symbols : List String} {request : AnalysisRequest} {c : Catalogue} {cpu : Option String} {s : σ}

theorem unbroken_notAscii (ht : Unbroken tools.mca) (hf : Unbroken file) :
    Unbroken (notAscii tools file).message := by
  have hwords : ∀ words ∈ ["disassembly of '", "' is not plain ASCII and cannot be passed to "],
      Unbroken words := by
    decide +kernel
  simp only [List.forall_mem_cons] at hwords
  rw [Error.unbroken_message_iff]
  simp [notAscii, Error.parts, Text.unbroken_append, hwords, ht, hf]

theorem diagnosed_analyze (hr : Terse runner) (ho : Unbroken tools.objdump)
    (hm : Unbroken tools.mca) (hf : Unbroken file) :
    Diagnosed runner s ((analyze runner tools file symbols request).run s) := by
  intro e he
  have hrun : Analyzes runner tools file symbols request s _ _ _ := analyzes_run
  rw [he] at hrun
  generalize calls _ = cs at hrun ⊢
  generalize Run.state _ = t at hrun
  cases hrun with
  | stopped h =>
    simp only [replies, List.forall_mem_singleton]
    exact h.unbroken_message_iff ho hr
  | unreadable h =>
    simp only [replies, List.forall_mem_singleton]
    exact ⟨fun _ complaint hc => absurd hc h.not_complains, fun _ => unbroken_notAscii hm hf⟩
  | analyzed h _ _ hreply hanswer =>
    subst hreply
    simp only [replies, List.forall_mem_cons, List.not_mem_nil, false_implies, implies_true,
      and_true]
    rw [hanswer.unbroken_message_iff hm hr]
    exact ⟨fun hall => ⟨fun complaint hc => absurd hc h.not_complains, hall⟩, And.right⟩

theorem diagnosed_detect (hr : Terse runner) (ho : Unbroken tools.objdump) (hf : Unbroken file)
    (hs : Unbroken symbol) : Diagnosed runner s ((detect runner tools c file symbol cpu).run s) := by
  intro e he
  have hrun : Detects tools.objdump (runner (featuresCall tools file symbol cpu) s) c file symbol
      _ := detects_run
  rw [he] at hrun
  rw [calls_detect]
  simp only [replies, List.forall_mem_singleton]
  cases hrun with
  | stopped h => exact h.unbroken_message_iff ho hr
  | missing h =>
    have hmessage : Unbroken (Error.symbolMissing symbol file).message := by
      rw [Error.unbroken_message_iff]
      simp [Error.parts, hs, hf]
    exact ⟨fun _ complaint hc => absurd hc h.not_complains, fun _ => hmessage⟩

/-- Both inspections end with a diagnostic of one line, unless a tool that fails has complained in
more lines than one. A break at the end of a complaint does no harm, any other does. -/
theorem inspections_diagnosed (hr : Terse runner) (ho : Unbroken tools.objdump)
    (hm : Unbroken tools.mca) (hf : Unbroken file) (hs : Unbroken symbol) (symbols : List String)
    (request : AnalysisRequest) (c : Catalogue) (cpu : Option String) (s : σ) :
    Diagnosed runner s ((analyze runner tools file symbols request).run s) ∧
      Diagnosed runner s ((detect runner tools c file symbol cpu).run s) :=
  ⟨diagnosed_analyze hr ho hm hf, diagnosed_detect hr ho hf hs⟩

/-- The analyzer's complaint is one line before the breaks at its end, and what the disassembler
wrote beside a listing does not count. -/
theorem analyze_diagnosed_beside_warnings :
    let runner : Runner Nat := fun _ n =>
      if n = 0 then ⟨.ok { stdout := "\tnop\n", stderr := "warning: a\nwarning: b\n" }, [], 1⟩
      else ⟨.ok { success := false, stderr := "error: unknown CPU\r\n\n" }, [], n⟩
    let e : Error := .toolFailed "llvm-mca" "error: unknown CPU"
    ((analyze runner {} "a.o" ["f"] {}).run 0).result = .error e ∧ Unbroken e.message := by
  intro runner e
  have hr : Terse runner := by
    intro c n e h
    dsimp only [runner] at h
    split at h <;> cases h
  have hresult : ((analyze runner {} "a.o" ["f"] {}).run 0).result = .error e := by decide +kernel
  have hreplies :
      (replies runner 0 (calls ((analyze runner {} "a.o" ["f"] {}).run 0).trace)).map Reply.result =
        [.ok { stdout := "\tnop\n", stderr := "warning: a\nwarning: b\n" },
          .ok { success := false, stderr := "error: unknown CPU\r\n\n" }] := by
    decide +kernel
  have hd : Diagnosed runner 0 ((analyze runner {} "a.o" ["f"] {}).run 0) :=
    (inspections_diagnosed hr (by decide +kernel) (by decide +kernel) (by decide +kernel)
      (show Unbroken "f" by decide +kernel) ["f"] {} .builtin none 0).1
  refine ⟨hresult, (hd e hresult).mpr ?_⟩
  rintro reply hreply complaint ⟨o, ho, hfailed, htrim⟩
  have hmem := List.mem_map_of_mem (f := Reply.result) hreply
  rw [ho, hreplies] at hmem
  simp only [List.mem_cons, List.not_mem_nil, or_false, Except.ok.injEq] at hmem
  rcases hmem with rfl | rfl
  · cases hfailed
  · rw [Text.trimsTo_iff.mp htrim]
    decide +kernel

/-- A break in front of a complaint, or in its middle, stands in the diagnostic. -/
theorem inspections_break_diagnostic :
    let first : Runner Unit := fun _ _ =>
      ⟨.ok { success := false, stderr := "\nerror: no such CPU\n" }, [], ()⟩
    let other : Runner Unit := fun _ _ =>
      ⟨.ok { success := false, stderr := "error: a\nerror: b" }, [], ()⟩
    let e : Error := .toolFailed "llvm-objdump" "\nerror: no such CPU"
    let e' : Error := .toolFailed "llvm-objdump" "error: a\nerror: b"
    (Terse first ∧ ((detect first {} .builtin "a.o" "f" none).run ()).result = .error e ∧
        ¬ Unbroken e.message) ∧
      Terse other ∧ ((analyze other {} "a.o" ["f"] {}).run ()).result = .error e' ∧
        ¬ Unbroken e'.message := by
  intro first other e e'
  refine ⟨⟨?_, by decide +kernel⟩, ?_, by decide +kernel⟩
  · rintro _ _ _ h
    cases h
  · rintro _ _ _ h
    cases h

end Inspection

end Disasm
