namespace Disasm.Text

/-- The characters with the Unicode property White_Space. -/
def isBlank (c : Char) : Bool :=
  let n := c.toNat
  (0x09 ≤ n && n ≤ 0x0D) || n == 0x20 || n == 0x85 || n == 0xA0 || n == 0x1680 ||
    (0x2000 ≤ n && n ≤ 0x200A) || n == 0x2028 || n == 0x2029 || n == 0x202F || n == 0x205F ||
    n == 0x3000

/-- Space, tab, line feed, form feed and carriage return; the vertical tab is not among them. -/
def isAsciiBlank (c : Char) : Bool :=
  c == ' ' || c == '\t' || c == '\n' || c == '\x0c' || c == '\r'

def dropBlanks (cs : List Char) : List Char :=
  cs.dropWhile isBlank

theorem dropBlanks_append {indent : List Char} (h : ∀ c ∈ indent, isBlank c = true)
    (cs : List Char) : dropBlanks (indent ++ cs) = dropBlanks cs :=
  List.dropWhile_append_of_pos h

theorem dropBlanks_of_head? {cs : List Char} (h : ∀ c ∈ cs.head?, isBlank c = false) :
    dropBlanks cs = cs := by
  cases cs with
  | nil => rfl
  | cons c rest => exact List.dropWhile_cons_of_neg (by simp [h c rfl])

theorem isBlank_of_head?_dropBlanks (cs : List Char) :
    ∀ c ∈ (dropBlanks cs).head?, isBlank c = false := by
  intro c hc
  have h := List.head?_dropWhile_not isBlank cs
  rw [← dropBlanks, Option.mem_def.mp hc] at h
  simpa using h

def dropBlanksEnd (cs : List Char) : List Char :=
  (dropBlanks cs.reverse).reverse

theorem dropBlanksEnd_append {cs blanks : List Char} (h : ∀ c ∈ blanks, isBlank c = true) :
    dropBlanksEnd (cs ++ blanks) = dropBlanksEnd cs := by
  rw [dropBlanksEnd, dropBlanksEnd, List.reverse_append,
    dropBlanks_append (fun c hc => h c (List.mem_reverse.mp hc))]

theorem dropBlanksEnd_of_getLast? {cs : List Char} (h : ∀ c ∈ cs.getLast?, isBlank c = false) :
    dropBlanksEnd cs = cs := by
  rw [dropBlanksEnd, dropBlanks_of_head? (by simpa using h), List.reverse_reverse]

theorem isBlank_of_getLast?_dropBlanksEnd (cs : List Char) :
    ∀ c ∈ (dropBlanksEnd cs).getLast?, isBlank c = false := by
  rw [dropBlanksEnd, List.getLast?_reverse]
  exact isBlank_of_head?_dropBlanks _

def trimEnd (s : String) : String :=
  String.ofList (dropBlanksEnd s.toList)

def trim (s : String) : String :=
  String.ofList (dropBlanksEnd (dropBlanks s.toList))

/-- The first run of characters that are not blank. -/
def firstToken? (s : String) : Option String :=
  match (dropBlanks s.toList).takeWhile (!isBlank ·) with
  | [] => none
  | token => some (String.ofList token)

end Disasm.Text
