import Disasm.Proofs.Analysis
import Disasm.Proofs.FeatureSearch

namespace Disasm

def Log.warnings (es : List Event) : List Event :=
  es.filter fun e => e.level = .warn

@[simp] theorem Log.warnings_append (es more : List Event) :
    warnings (es ++ more) = warnings es ++ warnings more :=
  List.filter_append _ _

namespace Tool

open Log (warnings)

variable {σ : Type}

/-- The reply of a tool that succeeded with something to say, and what it said without the blanks at
its end. -/
def Warns (reply : Reply σ) (text : String) : Prop :=
  ∃ o, reply.result = .ok o ∧ o.success = true ∧ o.stderr ≠ "" ∧ Text.TrimsTo o.stderr text

/-- The warnings that are due when some calls are made one after the other: what the runner itself
warns of, and then one for each tool that warns, under the tool's name. -/
inductive Due (runner : Runner σ) : σ → List Call → List Log.Event → Prop
  | nil {s : σ} : Due runner s [] []
  | silent {s : σ} {c : Call} {cs : List Call} {es : List Log.Event}
      (h : ∀ text, ¬ Warns (runner c s) text) (hd : Due runner (runner c s).state cs es) :
      Due runner s (c :: cs) (warnings (runner c s).events ++ es)
  | warned {s : σ} {c : Call} {cs : List Call} {es : List Log.Event} {text : String}
      (h : Warns (runner c s) text) (hd : Due runner (runner c s).state cs es) :
      Due runner s (c :: cs)
        (warnings (runner c s).events ++ ⟨.warn, c.program ++ ": " ++ text⟩ :: es)

theorem Warns.unique {reply : Reply σ} {text other : String} (h : Warns reply text)
    (h' : Warns reply other) : text = other := by
  obtain ⟨o, ho, -, -, ht⟩ := h
  obtain ⟨o', ho', -, -, ht'⟩ := h'
  cases ho.symm.trans ho'
  exact ht.unique ht'

/-- What is due is fixed by the replies. -/
theorem Due.unique {runner : Runner σ} {s : σ} {cs : List Call} {es es' : List Log.Event}
    (h : Due runner s cs es) (h' : Due runner s cs es') : es = es' := by
  induction h generalizing es' with
  | nil =>
    cases h'
    rfl
  | silent h _ ih =>
    cases h' with
    | silent _ hd' => rw [ih hd']
    | warned h' => exact absurd h' (h _)
  | warned h _ ih =>
    cases h' with
    | silent h' => exact absurd h (h' _)
    | warned h' hd' => rw [h.unique h', ih hd']

end Tool

namespace Inspection

open Log (warnings)
open Tool

variable {σ : Type} {runner : Runner σ} {s : σ} {reply : Reply σ} {tool text : String}

theorem warnings_heard_of_warns (h : Warns reply text) :
    warnings (heard tool reply) = warnings reply.events ++ [⟨.warn, tool ++ ": " ++ text⟩] := by
  obtain ⟨o, ho, hs, hne, ht⟩ := h
  have hc : complaints tool o = [⟨.warn, tool ++ ": " ++ text⟩] := by
    simp [complaints, hs, hne, Text.trimsTo_iff.mp ht]
  simp only [heard, ho, hc, Log.warnings_append]
  rfl

theorem warnings_heard_of_silent (h : ∀ text, ¬ Warns reply text) :
    warnings (heard tool reply) = warnings reply.events := by
  cases hr : reply.result with
  | error e => simp only [heard, hr, List.append_nil]
  | ok o =>
    have hc : complaints tool o = [] := by
      refine if_neg fun hcond => ?_
      simp only [Bool.and_eq_true, Bool.not_eq_true', String.isEmpty_eq_false_iff] at hcond
      exact h _ ⟨o, hr, hcond.1, hcond.2, Text.trimsTo_iff.mpr rfl⟩
    simp only [heard, hr, hc, List.append_nil]

/-- Whatever the disassembler says is in the log. -/
theorem due_heard {call : Call} {cs : List Call} {es : List Log.Event}
    (h : Due runner (runner call s).state cs es) :
    Due runner s (call :: cs) (warnings (heard call.program (runner call s)) ++ es) := by
  by_cases hw : ∃ text, Warns (runner call s) text
  · obtain ⟨text, hw⟩ := hw
    rw [warnings_heard_of_warns hw, List.append_assoc, List.singleton_append]
    exact .warned hw h
  · rw [warnings_heard_of_silent (not_exists.mp hw)]
    exact .silent (not_exists.mp hw) h

theorem due_heard_singleton {call : Call} :
    Due runner s [call] (warnings (heard call.program (runner call s))) := by
  rw [← List.append_nil (warnings _)]
  exact due_heard .nil

theorem warnings_events_clean (raw : String) : warnings (Listing.clean raw).events = [] := by
  simp [warnings, Listing.Cleaned.events]

theorem warnings_matchEvents (c : Catalogue) (symbol text : String) :
    warnings (matchEvents c symbol text) = [] := by
  simp [warnings, matchEvents, Catalogue.events]

section

variable (runner : Runner σ) (tools : Toolset) (file symbol : String) (symbols : List String)
  (request : AnalysisRequest) (c : Catalogue) (cpu : Option String) (s : σ)

theorem warnings_disassemble (request : DisassemblyRequest) :
    warnings (events ((disassemble runner tools request).run s).trace) =
      warnings (heard tools.objdump (runner ⟨tools.objdump, request.args, none⟩ s)) := by
  rw [events_disassemble]
  rfl

theorem calls_report (assembly : String) :
    calls ((report runner tools request assembly).run s).trace =
      [analysisCall tools request assembly] := by
  rw [run_report]
  simp only [calls_event_cons, calls_call_cons, calls_map_event]
  rfl

/-- A report adds no warnings to the runner's own. -/
theorem warnings_report (assembly : String) :
    warnings (events ((report runner tools request assembly).run s).trace) =
      warnings (runner (analysisCall tools request assembly) s).events := by
  rw [run_report]
  simp only [events_event_cons, events_call_cons, events_map_event]
  rfl

/-- A search adds no warnings to those of the disassembly. -/
theorem warnings_detect :
    warnings (events ((detect runner tools c file symbol cpu).run s).trace) =
      warnings (heard tools.objdump (runner (featuresCall tools file symbol cpu) s)) := by
  have hopening := warnings_disassemble runner tools s (.forFeatures file symbol cpu)
  rw [run_detect]
  dsimp only
  split
  · exact hopening
  · split
    · simp only [events_append, events_map_event, Log.warnings_append, hopening,
        warnings_events_clean, warnings_matchEvents, List.append_nil]
      rfl
    · simp only [events_append, events_map_event, Log.warnings_append, hopening,
        warnings_events_clean, List.append_nil]
      rfl

theorem due_detect :
    Due runner s (calls ((detect runner tools c file symbol cpu).run s).trace)
      (warnings (events ((detect runner tools c file symbol cpu).run s).trace)) := by
  rw [calls_detect, warnings_detect]
  exact due_heard_singleton

/-- Of what the analyzer says only the runner's own events come into the log. -/
theorem warnings_analyze :
    let trace := ((analyze runner tools file symbols request).run s).trace
    let asked := disassemblyCall tools file symbols
    (calls trace = [asked] ∧
      warnings (events trace) = warnings (heard tools.objdump (runner asked s))) ∨
    ∃ assembly, calls trace = [asked, analysisCall tools request assembly] ∧
      warnings (events trace) = warnings (heard tools.objdump (runner asked s)) ++
        warnings (runner (analysisCall tools request assembly) (runner asked s).state).events := by
  intro trace asked
  have hcalls := calls_disassemble runner tools s (.forAnalysis file symbols)
  have hstate := state_disassemble runner tools s (.forAnalysis file symbols)
  have hwarnings := warnings_disassemble runner tools s (.forAnalysis file symbols)
  dsimp only [trace]
  rw [run_analyze]
  dsimp only
  split
  · exact .inl ⟨hcalls, hwarnings⟩
  · next raw _ =>
    split
    · refine .inr ⟨Listing.stripAngleBrackets raw, ?_, ?_⟩
      · rw [Run.after, calls_append, hcalls, hstate, calls_report]
        rfl
      · rw [Run.after, events_append, Log.warnings_append, hwarnings, hstate, warnings_report]
        rfl
    · exact .inl ⟨hcalls, hwarnings⟩

end

section

variable {tools : Toolset} {file : String} {symbols : List String} {request : AnalysisRequest}
  {assembly : String}

theorem eq_of_analysisCall_mem {other : String}
    (h : analysisCall tools request other ∈
      [disassemblyCall tools file symbols, analysisCall tools request assembly]) :
    other = assembly := by
  rcases List.mem_cons.mp h with he | h
  · exact absurd he (analysisCall_ne other)
  · cases List.mem_singleton.mp h
    rfl

/-- Where the analyzer has nothing to say, the log of an analysis lacks nothing. -/
theorem due_analyze_of_silent
    (h : ∀ assembly,
      analysisCall tools request assembly ∈
          calls ((analyze runner tools file symbols request).run s).trace →
        ∀ text, ¬ Warns (runner (analysisCall tools request assembly)
          (runner (disassemblyCall tools file symbols) s).state) text) :
    Due runner s (calls ((analyze runner tools file symbols request).run s).trace)
      (warnings (events ((analyze runner tools file symbols request).run s).trace)) := by
  rcases warnings_analyze runner tools file symbols request s with
    ⟨hcalls, hwarnings⟩ | ⟨assembly, hcalls, hwarnings⟩
  · rw [hcalls, hwarnings]
    exact due_heard_singleton
  · have hsilent := h assembly (by rw [hcalls]; exact List.mem_cons_of_mem _ List.mem_cons_self)
    rw [hcalls, hwarnings, ← List.append_nil (warnings (runner (analysisCall _ _ _) _).events)]
    exact due_heard (.silent hsilent .nil)

/-- What the analyzer says is all that the log of an analysis lacks. -/
theorem due_analyze_of_warns
    (hc : analysisCall tools request assembly ∈
      calls ((analyze runner tools file symbols request).run s).trace)
    (hw : Warns (runner (analysisCall tools request assembly)
      (runner (disassemblyCall tools file symbols) s).state) text) :
    Due runner s (calls ((analyze runner tools file symbols request).run s).trace)
      (warnings (events ((analyze runner tools file symbols request).run s).trace) ++
        [⟨.warn, tools.mca ++ ": " ++ text⟩]) := by
  rcases warnings_analyze runner tools file symbols request s with
    ⟨hcalls, hwarnings⟩ | ⟨other, hcalls, hwarnings⟩
  · rw [hcalls] at hc
    exact absurd (List.mem_singleton.mp hc) (analysisCall_ne assembly)
  · rw [hcalls] at hc
    cases eq_of_analysisCall_mem hc
    rw [hcalls, hwarnings, List.append_assoc]
    exact due_heard (.warned hw .nil)

end

/-- All warnings that are due in a search are in the log, and no others. In an analysis that is so
exactly when the analyzer has nothing to say beside its report; if it has, its warning is the one
that the log lacks. -/
theorem inspections_warn (runner : Runner σ) (tools : Toolset) (file symbol : String)
    (symbols : List String) (request : AnalysisRequest) (c : Catalogue) (cpu : Option String)
    (s : σ) :
    let search := ((detect runner tools c file symbol cpu).run s).trace
    let trace := ((analyze runner tools file symbols request).run s).trace
    let answer assembly := runner (analysisCall tools request assembly)
      (runner (disassemblyCall tools file symbols) s).state
    Due runner s (calls search) (warnings (events search)) ∧
      (Due runner s (calls trace) (warnings (events trace)) ↔
        ∀ assembly, analysisCall tools request assembly ∈ calls trace →
          ∀ text, ¬ Warns (answer assembly) text) ∧
      ∀ assembly, analysisCall tools request assembly ∈ calls trace →
        ∀ text, Warns (answer assembly) text →
          Due runner s (calls trace)
            (warnings (events trace) ++ [⟨.warn, tools.mca ++ ": " ++ text⟩]) := by
  intro search trace answer
  refine ⟨due_detect runner tools file symbol c cpu s, ⟨?_, due_analyze_of_silent⟩,
    fun assembly hc text hw => due_analyze_of_warns hc hw⟩
  intro hall assembly hc text hw
  have hlack := congrArg List.length (hall.unique (due_analyze_of_warns hc hw))
  rw [List.length_append, List.length_singleton] at hlack
  exact absurd hlack (Nat.ne_of_lt (Nat.lt_succ_self _))

/-- The disassembler's warning is the only one that is due, and it is in the log. -/
theorem analyze_warns_of_disassembly :
    let runner : Runner Nat := fun _ n =>
      if n = 0 then ⟨.ok { stdout := "\tret\n", stderr := "warning: no such symbol\n \n" }, [], 1⟩
      else ⟨.ok { stdout := "Iterations: 100\n" }, [], n⟩
    let run := (analyze runner {} "a.o" [] {}).run 0
    Due runner 0 (calls run.trace) (warnings (events run.trace)) ∧
      warnings (events run.trace) = [⟨.warn, "llvm-objdump: warning: no such symbol"⟩] := by
  intro runner run
  have hsilent : ∀ assembly text, ¬ Warns (runner (analysisCall {} {} assembly) 1) text := by
    rintro assembly text ⟨o, ho, -, hne, -⟩
    cases ho
    exact hne rfl
  obtain ⟨-, hiff, -⟩ := inspections_warn runner {} "a.o" "f" [] {} .builtin none 0
  exact ⟨hiff.mpr fun assembly _ => hsilent assembly, by decide +kernel⟩

/-- What the analyzer writes beside its report gets lost. -/
theorem analyze_loses_warning :
    let runner : Runner Nat := fun _ n =>
      if n = 0 then ⟨.ok { stdout := "\tret\n" }, [], 1⟩
      else ⟨.ok { stdout := "Iterations: 100\n",
                  stderr := "warning: found a return instruction\n" }, [], n⟩
    let run := (analyze runner {} "a.o" [] {}).run 0
    run.result = .ok "Iterations: 100\n" ∧ warnings (events run.trace) = [] ∧
      ¬ Due runner 0 (calls run.trace) (warnings (events run.trace)) := by
  intro runner run
  have hsilent : ∀ text, ¬ Warns (runner (disassemblyCall {} "a.o" []) 0) text := by
    rintro text ⟨o, ho, -, hne, -⟩
    cases ho
    exact hne rfl
  have hw : Warns (runner (analysisCall {} {} "\tret\n") 1)
      "warning: found a return instruction" :=
    ⟨_, rfl, rfl, by decide, Text.trimsTo_iff.mpr (by decide +kernel)⟩
  have hdue : Due runner 0 [disassemblyCall {} "a.o" [], analysisCall {} {} "\tret\n"]
      [⟨.warn, "llvm-mca: warning: found a return instruction"⟩] :=
    .silent hsilent (.warned hw .nil)
  have hcalls : calls run.trace =
      [disassemblyCall {} "a.o" [], analysisCall {} {} "\tret\n"] := by
    decide +kernel
  have hnone : warnings (events run.trace) = [] := by decide +kernel
  refine ⟨by decide +kernel, hnone, ?_⟩
  rw [hcalls, hnone]
  intro h
  cases h.unique hdue

end Inspection

end Disasm
