namespace Disasm.Text

def occursIn (needle : List Char) : List Char → Bool
  | [] => needle.isEmpty
  | c :: cs => needle.isPrefixOf (c :: cs) || occursIn needle cs

/-- Whether `needle` is a part of `s`; the empty text is a part of every text. -/
def contains (s needle : String) : Bool :=
  occursIn needle.toList s.toList

/-- The texts between the occurrences of a separator; one more than there are separators. -/
def fields (separator : Char) (s : String) : List String :=
  (s.toList.splitOn separator).map String.ofList

theorem occursIn_iff {needle cs : List Char} : occursIn needle cs = true ↔ needle <:+: cs := by
  induction cs with
  | nil => simp [occursIn, List.isEmpty_iff]
  | cons c cs ih =>
    rw [occursIn, Bool.or_eq_true, ih, List.isPrefixOf_iff_prefix, List.infix_cons_iff]

end Disasm.Text
