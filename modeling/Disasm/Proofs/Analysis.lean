import Disasm.Proofs.Sessions

namespace Disasm

/-- No character beyond ASCII. -/
def Text.Ascii (s : String) : Prop :=
  ∀ c ∈ s.toList, c.toNat < 0x80

/-- What is left of a text without angle brackets. -/
theorem Listing.eq_stripAngleBrackets_iff {raw assembly : String} :
    assembly = stripAngleBrackets raw ↔
      assembly.toList = raw.toList.filter fun c => c ≠ '<' ∧ c ≠ '>' := by
  have hkeeps : ∀ c ∈ raw.toList, (c != '<' && c != '>') = decide (c ≠ '<' ∧ c ≠ '>') := by
    intro c _
    rw [Bool.eq_iff_iff]
    simp only [Bool.and_eq_true, bne_iff_ne, decide_eq_true_eq]
  rw [← String.toList_inj, stripAngleBrackets, String.toList_ofList, List.filter_congr hkeeps]

theorem Listing.mem_stripAngleBrackets {raw : String} {c : Char} :
    c ∈ (stripAngleBrackets raw).toList ↔ c ∈ raw.toList ∧ c ≠ '<' ∧ c ≠ '>' := by
  rw [eq_stripAngleBrackets_iff.mp rfl, List.mem_filter, decide_eq_true_eq]

namespace Inspection

open Tool

theorem isAscii_iff {s : String} : isAscii s = true ↔ Text.Ascii s := by
  simp [isAscii, Text.Ascii]

def disassemblyCall (tools : Toolset) (file : String) (symbols : List String) : Call :=
  ⟨tools.objdump, (DisassemblyRequest.forAnalysis file symbols).args, none⟩

def analysisCall (tools : Toolset) (request : AnalysisRequest) (assembly : String) : Call :=
  ⟨tools.mca, request.args, some assembly⟩

/-- Only the analyzer is given something to read. -/
theorem analysisCall_ne {tools : Toolset} {file : String} {symbols : List String}
    {request : AnalysisRequest} (assembly : String) :
    analysisCall tools request assembly ≠ disassemblyCall tools file symbols := by
  intro h
  cases congrArg Call.stdin h

section

variable {σ : Type} (runner : Runner σ) (tools : Toolset) (file : String) (symbols : List String)
  (request : AnalysisRequest) (s : σ)

/-- The calls of an analysis in their order, what it ends with, and the runner after it. -/
inductive Analyzes : List Call → Except Error String → σ → Prop
  /-- The disassembly came to nothing. -/
  | stopped {e : Error}
      (h : Answers tools.objdump (runner (disassemblyCall tools file symbols) s) (.error e)) :
      Analyzes [disassemblyCall tools file symbols] (.error e)
        (runner (disassemblyCall tools file symbols) s).state
  /-- There is a disassembly, which the analyzer cannot read even without angle brackets. -/
  | unreadable {raw assembly : String}
      (h : Answers tools.objdump (runner (disassemblyCall tools file symbols) s) (.ok raw))
      (hs : assembly.toList = raw.toList.filter fun c => c ≠ '<' ∧ c ≠ '>')
      (ha : ¬ Text.Ascii assembly) :
      Analyzes [disassemblyCall tools file symbols]
        (.error (.invalidArgument ("disassembly of '" ++ file ++
          "' is not plain ASCII and cannot be passed to " ++ tools.mca)))
        (runner (disassemblyCall tools file symbols) s).state
  /-- The analyzer was asked, and its answer is the end. -/
  | analyzed {raw assembly : String} {reply : Reply σ} {r : Except Error String}
      (h : Answers tools.objdump (runner (disassemblyCall tools file symbols) s) (.ok raw))
      (hs : assembly.toList = raw.toList.filter fun c => c ≠ '<' ∧ c ≠ '>')
      (ha : Text.Ascii assembly)
      (hr : reply = runner (analysisCall tools request assembly)
        (runner (disassemblyCall tools file symbols) s).state)
      (hm : Answers tools.mca reply r) :
      Analyzes [disassemblyCall tools file symbols, analysisCall tools request assembly] r
        reply.state

end

variable {σ : Type} {runner : Runner σ} {tools : Toolset} {file : String} {symbols : List String}
  {request : AnalysisRequest} {s : σ}

/-- The answers leave an analysis no choice. -/
theorem Analyzes.unique {cs cs' : List Call} {r r' : Except Error String} {t t' : σ}
    (h : Analyzes runner tools file symbols request s cs r t)
    (h' : Analyzes runner tools file symbols request s cs' r' t') :
    cs = cs' ∧ r = r' ∧ t = t' := by
  -- both read the same first answer, so only the cases that agree on it are left
  cases h with
  | stopped h =>
    cases h' with
    | stopped h' => exact ⟨rfl, h.unique h', rfl⟩
    | unreadable h' => cases h.unique h'
    | analyzed h' => cases h.unique h'
  | unreadable h hs ha =>
    cases h' with
    | stopped h' => cases h.unique h'
    | unreadable h' => exact ⟨rfl, rfl, rfl⟩
    | analyzed h' hs' ha' =>
      cases h.unique h'
      cases String.toList_inj.mp (hs.trans hs'.symm)
      exact absurd ha' ha
  | analyzed h hs ha hr hm =>
    cases h' with
    | stopped h' => cases h.unique h'
    | unreadable h' hs' ha' =>
      cases h.unique h'
      cases String.toList_inj.mp (hs.trans hs'.symm)
      exact absurd ha ha'
    | analyzed h' hs' ha' hr' hm' =>
      cases h.unique h'
      cases String.toList_inj.mp (hs.trans hs'.symm)
      subst hr hr'
      exact ⟨rfl, hm.unique hm', rfl⟩

/-- Whatever the analyzer gets to read is ASCII and has no angle brackets. -/
theorem Analyzes.readable {cs : List Call} {r : Except Error String} {t : σ}
    (h : Analyzes runner tools file symbols request s cs r t) {c : Call} (hc : c ∈ cs)
    {text : String} (ht : c.stdin = some text) :
    Text.Ascii text ∧ '<' ∉ text.toList ∧ '>' ∉ text.toList := by
  cases h with
  | stopped h =>
    cases List.mem_singleton.mp hc
    cases ht
  | unreadable h hs ha =>
    cases List.mem_singleton.mp hc
    cases ht
  | analyzed h hs ha hr hm =>
    simp only [List.mem_cons, List.not_mem_nil, or_false] at hc
    rcases hc with rfl | rfl
    · cases ht
    · cases ht
      refine ⟨ha, ?_, ?_⟩
      · intro hlt
        rw [hs, List.mem_filter, decide_eq_true_eq] at hlt
        exact hlt.2.1 rfl
      · intro hgt
        rw [hs, List.mem_filter, decide_eq_true_eq] at hgt
        exact hgt.2.2 rfl

theorem analyzes_run :
    Analyzes runner tools file symbols request s
      (calls ((analyze runner tools file symbols request).run s).trace)
      ((analyze runner tools file symbols request).run s).result
      ((analyze runner tools file symbols request).run s).state := by
  rw [analyze, Session.run_bind, run_disassemble]
  dsimp only
  cases h : (runner (disassemblyCall tools file symbols) s).result.bind
      fun o => o.result tools.objdump with
  | error e =>
    rw [disassemblyCall] at h
    simp only [h, calls_event_cons, calls_call_cons, calls_map_event]
    exact .stopped (answers_iff.mpr h.symm)
  | ok raw =>
    have hd := answers_iff.mpr h.symm
    have hs : (Listing.stripAngleBrackets raw).toList = _ :=
      Listing.eq_stripAngleBrackets_iff.mp rfl
    rw [disassemblyCall] at h
    cases ha : isAscii (Listing.stripAngleBrackets raw) with
    | true =>
      simp only [h, ha, ↓reduceIte, run_report, Run.after, calls_append, calls_event_cons,
        calls_call_cons, calls_map_event]
      exact .analyzed hd hs (isAscii_iff.mp ha) rfl (answers_iff.mpr rfl)
    | false =>
      simp only [h, ha, Bool.false_eq_true, ↓reduceIte, Session.run_settle, Run.after,
        List.append_nil, calls_event_cons, calls_call_cons, calls_map_event]
      refine .unreadable hd hs fun hascii => ?_
      rw [isAscii_iff.mpr hascii] at ha
      cases ha

/-- An analysis goes in the one way that the answers of the tools leave it, and hands nothing to
the analyzer that the analyzer does not read. -/
theorem analyze_analyzes (runner : Runner σ) (tools : Toolset) (file : String)
    (symbols : List String) (request : AnalysisRequest) (s : σ) :
    let run := (analyze runner tools file symbols request).run s
    (∀ cs r t, Analyzes runner tools file symbols request s cs r t ↔
      cs = calls run.trace ∧ r = run.result ∧ t = run.state) ∧
    ∀ c ∈ calls run.trace, ∀ text, c.stdin = some text →
      Text.Ascii text ∧ '<' ∉ text.toList ∧ '>' ∉ text.toList := by
  refine ⟨fun cs r t => ⟨fun h => h.unique analyzes_run, ?_⟩, ?_⟩
  · rintro ⟨rfl, rfl, rfl⟩
    exact analyzes_run
  · intro c hc text ht
    exact analyzes_run.readable hc ht

end Inspection

end Disasm
