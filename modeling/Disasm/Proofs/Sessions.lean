import Disasm.Inspection
import Disasm.Proofs.Answers

namespace Disasm

namespace Tool

variable {σ α β : Type}

@[simp] theorem calls_call_cons (c : Call) (t : List Step) :
    calls (.call c :: t) = c :: calls t :=
  rfl

@[simp] theorem calls_event_cons (e : Log.Event) (t : List Step) :
    calls (.event e :: t) = calls t :=
  rfl

@[simp] theorem calls_map_event (es : List Log.Event) : calls (es.map .event) = [] := by
  induction es with
  | nil => rfl
  | cons e es ih => rw [List.map_cons, calls_event_cons, ih]

@[simp] theorem events_call_cons (c : Call) (t : List Step) :
    events (.call c :: t) = events t :=
  rfl

@[simp] theorem events_event_cons (e : Log.Event) (t : List Step) :
    events (.event e :: t) = e :: events t :=
  rfl

@[simp] theorem events_map_event (es : List Log.Event) : events (es.map .event) = es := by
  induction es with
  | nil => rfl
  | cons e es ih => rw [List.map_cons, events_event_cons, ih]

/-- A run with something done before it. -/
def Run.after (t : List Step) (run : Run σ α) : Run σ α :=
  { run with trace := t ++ run.trace }

namespace Session

def run (m : Session σ α) (s : σ) : Run σ α :=
  m s

variable (s : σ)

@[simp] theorem run_note (es : List Log.Event) :
    (note es).run s = ⟨.ok (), es.map .event, s⟩ :=
  rfl

@[simp] theorem run_pure (a : α) : (pure a : Session σ α).run s = ⟨.ok a, [], s⟩ :=
  rfl

@[simp] theorem run_settle (r : Except Error α) : (settle r).run s = ⟨r, [], s⟩ :=
  rfl

@[simp] theorem run_call (runner : Runner σ) (c : Call) :
    (call runner c).run s =
      ⟨(runner c s).result, .call c :: (runner c s).events.map .event, (runner c s).state⟩ :=
  rfl

/-- A bind stops at an error and else goes on from where the first part left the runner. -/
theorem run_bind (m : Session σ α) (f : α → Session σ β) :
    (m >>= f).run s =
      match (m.run s).result with
      | .ok a => ((f a).run (m.run s).state).after (m.run s).trace
      | .error e => ⟨.error e, (m.run s).trace, (m.run s).state⟩ := by
  change andThen m f s = _
  unfold andThen run
  rcases m s with ⟨_ | _, t, s'⟩
  · rfl
  · rfl

end Session

end Tool

namespace Inspection

open Tool

variable {σ : Type} (runner : Runner σ) (tools : Toolset) (s : σ)

/-- What the log says after a call of the disassembler. -/
def heard (tool : String) (reply : Reply σ) : List Log.Event :=
  reply.events ++
    match reply.result with
    | .ok o => complaints tool o
    | .error _ => []

/-- A disassembly is one call, whose answer it ends with. -/
theorem run_disassemble (request : DisassemblyRequest) :
    (disassemble runner tools request).run s =
      let c : Call := ⟨tools.objdump, request.args, none⟩
      let reply := runner c s
      ⟨reply.result.bind fun o => o.result tools.objdump,
        .event ⟨.info, "Disassembling with " ++ tools.objdump⟩ :: .call c ::
          (heard tools.objdump reply).map .event,
        reply.state⟩ := by
  simp only [disassemble, heard]
  rw [Session.run_bind, Session.run_note, Session.run_bind, Session.run_call]
  cases h : (runner ⟨tools.objdump, request.args, none⟩ s).result with
  | error e => simp [Run.after, Except.bind]
  | ok o => simp [Session.run_bind, Run.after, Except.bind]

theorem calls_disassemble (request : DisassemblyRequest) :
    calls ((disassemble runner tools request).run s).trace =
      [⟨tools.objdump, request.args, none⟩] := by
  rw [run_disassemble]
  simp only [calls_event_cons, calls_call_cons, calls_map_event]

theorem events_disassemble (request : DisassemblyRequest) :
    events ((disassemble runner tools request).run s).trace =
      ⟨.info, "Disassembling with " ++ tools.objdump⟩ ::
        heard tools.objdump (runner ⟨tools.objdump, request.args, none⟩ s) := by
  rw [run_disassemble]
  simp only [events_event_cons, events_call_cons, events_map_event]

theorem state_disassemble (request : DisassemblyRequest) :
    ((disassemble runner tools request).run s).state =
      (runner ⟨tools.objdump, request.args, none⟩ s).state := by
  rw [run_disassemble]

/-- A report is one call, whose answer it ends with. -/
theorem run_report (request : AnalysisRequest) (assembly : String) :
    (report runner tools request assembly).run s =
      let c : Call := ⟨tools.mca, request.args, some assembly⟩
      let reply := runner c s
      ⟨reply.result.bind fun o => o.result tools.mca,
        .event ⟨.info, "Analyzing " ++ toString assembly.utf8ByteSize ++
            " bytes of assembly with " ++ tools.mca⟩ :: .call c :: reply.events.map .event,
        reply.state⟩ := by
  simp only [report]
  rw [Session.run_bind, Session.run_note, Session.run_bind, Session.run_call]
  cases h : (runner ⟨tools.mca, request.args, some assembly⟩ s).result with
  | error e => simp [Run.after, Except.bind]
  | ok o => simp [Run.after, Except.bind]

/-- An analysis goes on after the disassembly, with a report on it if the analyzer can read it. -/
theorem run_analyze (file : String) (symbols : List String) (request : AnalysisRequest) :
    (analyze runner tools file symbols request).run s =
      let opening := (disassemble runner tools (.forAnalysis file symbols)).run s
      match opening.result with
      | .error e => ⟨.error e, opening.trace, opening.state⟩
      | .ok raw =>
        let assembly := Listing.stripAngleBrackets raw
        if isAscii assembly then
          ((report runner tools request assembly).run opening.state).after opening.trace
        else ⟨.error (notAscii tools file), opening.trace, opening.state⟩ := by
  simp only [analyze]
  rw [Session.run_bind]
  cases ((disassemble runner tools (.forAnalysis file symbols)).run s).result with
  | error e => rfl
  | ok raw =>
    dsimp only
    cases isAscii (Listing.stripAngleBrackets raw) with
    | true => rfl
    | false => simp [Run.after]

def matchEvents (c : Catalogue) (symbol text : String) : List Log.Event :=
  ⟨.info, "Matching '" ++ symbol ++ "' against " ++ toString c.size ++ " feature sets"⟩ ::
    c.events (Listing.mnemonics text)

/-- A matching calls nothing and ends with what the text shows. -/
theorem run_search (c : Catalogue) (symbol : String) (cleaned : Listing.Cleaned) :
    (search c symbol cleaned).run s =
      ⟨.ok (c.detect cleaned.text), (matchEvents c symbol cleaned.text).map .event, s⟩ := by
  simp only [search]
  rw [Session.run_bind, Session.run_note, Session.run_bind, Session.run_note, Session.run_pure]
  rfl

/-- A detection goes on after the disassembly, with what is left of it, and matches only if that
shows the symbol. -/
theorem run_detect (c : Catalogue) (file symbol : String) (cpu : Option String) :
    (detect runner tools c file symbol cpu).run s =
      let opening := (disassemble runner tools (.forFeatures file symbol cpu)).run s
      match opening.result with
      | .error e => ⟨.error e, opening.trace, opening.state⟩
      | .ok raw =>
        let cleaned := Listing.clean raw
        let trace := opening.trace ++ cleaned.events.map .event
        if cleaned.mentions symbol then
          ⟨.ok (c.detect cleaned.text),
            trace ++ (matchEvents c symbol cleaned.text).map .event, opening.state⟩
        else ⟨.error (.symbolMissing symbol file), trace, opening.state⟩ := by
  simp only [detect]
  rw [Session.run_bind]
  cases ((disassemble runner tools (.forFeatures file symbol cpu)).run s).result with
  | error e => rfl
  | ok raw =>
    dsimp only
    rw [Session.run_bind, Session.run_note]
    cases (Listing.clean raw).mentions symbol with
    | true => simp [run_search, Run.after]
    | false => simp [Run.after]

end Inspection

end Disasm
