import Disasm.Tool.Session

namespace Disasm

namespace Text

/-- A text and what is left of it without the blanks at its end. -/
def TrimsTo (s t : String) : Prop :=
  ∃ blanks : List Char, s.toList = t.toList ++ blanks ∧ (∀ c ∈ blanks, isBlank c = true) ∧
    ∀ c ∈ t.toList.getLast?, isBlank c = false

theorem trimsTo_iff {s t : String} : TrimsTo s t ↔ t = trimEnd s := by
  constructor
  · rintro ⟨blanks, hs, hb, ht⟩
    rw [trimEnd, hs, dropBlanksEnd_append hb, dropBlanksEnd_of_getLast? ht, String.ofList_toList]
  · rintro rfl
    have hsplit := List.takeWhile_append_dropWhile (p := isBlank) (l := s.toList.reverse)
    refine ⟨(s.toList.reverse.takeWhile isBlank).reverse, ?_, ?_, ?_⟩
    · rw [trimEnd, String.toList_ofList, dropBlanksEnd, dropBlanks, ← List.reverse_append, hsplit,
        List.reverse_reverse]
    · intro c hc
      exact List.all_eq_true.mp List.all_takeWhile c (List.mem_reverse.mp hc)
    · rw [trimEnd, String.toList_ofList]
      exact isBlank_of_getLast?_dropBlanksEnd _

theorem TrimsTo.unique {s t u : String} (h : TrimsTo s t) (h' : TrimsTo s u) : t = u :=
  (trimsTo_iff.mp h).trans (trimsTo_iff.mp h').symm

end Text

namespace Tool

variable {σ : Type} {tool : String} {reply : Reply σ}

/-- What the reply to a call of a tool comes to. -/
inductive Answers (tool : String) (reply : Reply σ) : Except Error String → Prop
  /-- The tool did not run. -/
  | refused {e : Error} (h : reply.result = .error e) : Answers tool reply (.error e)
  /-- The tool reported failure, whatever it wrote before. -/
  | failed {o : Output} {complaint : String} (h : reply.result = .ok o) (hs : o.success = false)
      (ht : Text.TrimsTo o.stderr complaint) :
      Answers tool reply (.error (.toolFailed tool complaint))
  | wrote {o : Output} (h : reply.result = .ok o) (hs : o.success = true) :
      Answers tool reply (.ok o.stdout)

/-- Every reply comes to one thing. -/
theorem answers_iff {r : Except Error String} :
    Answers tool reply r ↔ r = reply.result.bind fun o => o.result tool := by
  constructor
  · intro h
    cases h with
    | refused h => rw [h]; rfl
    | failed h hs ht =>
      rw [h, Text.trimsTo_iff.mp ht]
      simp [Except.bind, Output.result, hs]
    | wrote h hs =>
      rw [h]
      simp [Except.bind, Output.result, hs]
  · rintro rfl
    cases h : reply.result with
    | error e => exact .refused h
    | ok o =>
      cases hs : o.success with
      | false =>
        simp only [Except.bind, Output.result, hs, Bool.false_eq_true, ↓reduceIte]
        exact .failed h hs (Text.trimsTo_iff.mpr rfl)
      | true =>
        simp only [Except.bind, Output.result, hs, ↓reduceIte]
        exact .wrote h hs

/-- A reply comes to one thing only. -/
theorem Answers.unique {r r' : Except Error String} (h : Answers tool reply r)
    (h' : Answers tool reply r') : r = r' :=
  (answers_iff.mp h).trans (answers_iff.mp h').symm

end Tool

end Disasm
