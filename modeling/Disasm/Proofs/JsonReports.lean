import Mathlib.Data.List.Basic
import Disasm.Proofs.JsonReading
import Disasm.Report.Render

namespace Disasm.Report.Json

section Strings

theorem hexValue?_hexDigit : ∀ n < 16, hexValue? (hexDigit n) = some n := by
  decide

theorem characters?_map_toNat (cs : List Char) : characters? (cs.map Char.toNat) = some cs := by
  induction cs with
  | nil => rfl
  | cons c cs ih =>
    -- no character has the number of a surrogate
    have hc : c.toNat < 0xD800 ∨ 0xDFFF < c.toNat := by
      rcases c.valid with h | h
      · exact .inl h
      · exact .inr h.1
    rw [List.map_cons, characters?.eq_def]
    dsimp only
    rw [if_neg (by omega), if_neg (by omega), ih, Char.ofNat_toNat, Option.map_some]

theorem feed_number {ts : List Token} {content : List Nat} {n : Nat} (h : n < 0x20) :
    ['\\', 'u', '0', '0', hexDigit (n / 16), hexDigit (n % 16)].foldlM Scan.feed
      ⟨ts, .inString content⟩ = some ⟨ts, .inString (content ++ [n])⟩ := by
  have hhigh := hexValue?_hexDigit (n / 16) (by omega)
  have hlow := hexValue?_hexDigit (n % 16) (by omega)
  have hn : 16 * (n / 16) + n % 16 = n := Nat.div_add_mod n 16
  have hzero : hexValue? '0' = some 0 := by decide
  simp [Scan.feed, hhigh, hlow, hzero, hn]

/-- A character that is written into a string is read as itself. -/
theorem feed_escape (ts : List Token) (content : List Nat) (c : Char) :
    (escape c).foldlM Scan.feed ⟨ts, .inString content⟩ =
      some ⟨ts, .inString (content ++ [c.toNat])⟩ := by
  unfold escape
  split_ifs with hq hb h8 hc hn hr ht hlow
  · subst hq; rfl
  · subst hb; rfl
  · subst h8; rfl
  · subst hc; rfl
  · subst hn; rfl
  · subst hr; rfl
  · subst ht; rfl
  · exact feed_number hlow
  · simp [Scan.feed, hq, hb, hlow]

theorem feed_flatMap_escape (ts : List Token) (content : List Nat) (cs : List Char) :
    (cs.flatMap escape).foldlM Scan.feed ⟨ts, .inString content⟩ =
      some ⟨ts, .inString (content ++ cs.map Char.toNat)⟩ := by
  induction cs generalizing content with
  | nil => simp
  | cons c cs ih =>
    rw [List.flatMap_cons, List.foldlM_append, feed_escape]
    simp [ih]

end Strings

section Tokens

/-- Characters that are read as some tokens, whatever tokens stand before them. -/
def Scans (cs : List Char) (ts : List Token) : Prop :=
  ∀ before, cs.foldlM Scan.feed ⟨before, .between⟩ = some ⟨before ++ ts, .between⟩

theorem scans_nil : Scans [] [] := by
  intro before
  simp

theorem Scans.append {cs ds : List Char} {ts us : List Token} (h : Scans cs ts)
    (h' : Scans ds us) : Scans (cs ++ ds) (ts ++ us) := by
  intro before
  rw [List.foldlM_append, h before, ← List.append_assoc]
  exact h' (before ++ ts)

theorem scans_gaps {cs : List Char} (h : cs.all isGap = true) : Scans cs [] := by
  induction cs with
  | nil => exact scans_nil
  | cons c cs ih =>
    rw [List.all_cons, Bool.and_eq_true] at h
    have hc : Scans [c] [] := by
      intro before
      simp [Scan.feed, Scan.start, h.1]
    exact hc.append (ih h.2)

theorem scans_string (s : String) : Scans (string s).toList [.string s] := by
  intro before
  have hquote : Scan.feed ⟨before, .between⟩ '"' = some ⟨before, .inString []⟩ := rfl
  have hend : Scan.feed ⟨before, .inString (s.toList.map Char.toNat)⟩ '"' =
      some ⟨before ++ [.string s], .between⟩ := by
    simp [Scan.feed, characters?_map_toNat]
  rw [string, String.toList_ofList, List.cons_append, List.foldlM_cons, hquote, Option.bind_eq_bind,
    Option.bind_some, List.foldlM_append, feed_flatMap_escape]
  simp [hend]

/-- Texts with a separator between them are read as their tokens with its tokens between them. -/
theorem Scans.intercalate {α : Type} {sep : List Char} {ts : List Token} {f : α → List Char}
    {g : α → List Token} {xs : List α} (hsep : Scans sep ts) (h : ∀ x ∈ xs, Scans (f x) (g x)) :
    Scans (sep.intercalate (xs.map f)) (ts.intercalate (xs.map g)) := by
  induction xs with
  | nil => exact scans_nil
  | cons x xs ih =>
    have hx := h x List.mem_cons_self
    have hxs := ih fun y hy => h y (List.mem_cons_of_mem x hy)
    cases xs with
    | nil => simpa using hx
    | cons y ys =>
      simp only [List.map_cons, List.intercalate_cons_cons] at hxs ⊢
      exact (hx.append hsep).append hxs

variable {α : Type} {f : α → String} {g : α → List Token} {xs : List α}

/-- The layout of a block leaves no tokens but the brackets and the commas. -/
theorem scans_block {opening closing indent : String} {o c : Token}
    (ho : Scans opening.toList [o]) (hc : Scans closing.toList [c])
    (hi : indent.toList.all isGap = true) (h : ∀ x ∈ xs, Scans (f x).toList (g x)) :
    Scans (block opening closing indent (xs.map f)).toList
      ([o] ++ [Token.comma].intercalate (xs.map g) ++ [c]) := by
  cases xs with
  | nil => simpa [block] using ho.append hc
  | cons x rest =>
    have hindent : Scans indent.toList [] := scans_gaps hi
    have hstep : Scans "  ".toList [] := scans_gaps (by decide)
    have hline : Scans "\n".toList [] := scans_gaps (by decide)
    have hsep : Scans ",\n".toList [.comma] := fun _ => rfl
    have hitems : Scans
        (",\n".toList.intercalate ((x :: rest).map fun y => (indent ++ "  " ++ f y).toList))
        ([Token.comma].intercalate ((x :: rest).map g)) := by
      refine hsep.intercalate fun y hy => ?_
      rw [String.toList_append, String.toList_append]
      exact (hindent.append hstep).append (h y hy)
    have hall := ((((ho.append hline).append hitems).append hline).append hindent).append hc
    simpa only [block, List.map_cons, List.isEmpty_cons, Bool.false_eq_true, ↓reduceIte,
      String.toList_append, String.toList_intercalate, List.map_map, Function.comp_def,
      List.append_nil] using hall

end Tokens

section Values

/-- Tokens that make up a value, wherever one may stand. -/
def Makes (ts : List Token) (v : Value) : Prop :=
  ∀ outer, ts.foldlM Stage.feed (.value outer) = some (.behind v outer)

theorem makes_string (s : String) : Makes [.string s] (.string s) :=
  fun _ => rfl

/-- In front of its first item an array does not differ from one that goes on, but that it may
end. -/
theorem Makes.firstItem {ts : List Token} {v : Value} (h : Makes ts v) (outer : List Frame) :
    ts.foldlM Stage.feed (.firstItem outer) = some (.behind v (.array [] :: outer)) := by
  cases ts with
  | nil => cases h outer
  | cons t rest =>
    rw [← h (.array [] :: outer), List.foldlM_cons, List.foldlM_cons]
    cases t with
    | arrayEnd => cases h outer
    | _ => rfl

variable {α : Type} {g : α → List Token} {v : α → Value} {x : α} {xs : List α}

/-- The items of an array are read one after the other, from wherever the first one was. -/
theorem feed_items {stage : Stage} {items : List Value} {outer : List Frame}
    (hx : (g x).foldlM Stage.feed stage = some (.behind (v x) (.array items :: outer)))
    (h : ∀ y ∈ xs, Makes (g y) (v y)) :
    ([Token.comma].intercalate ((x :: xs).map g) ++ [Token.arrayEnd]).foldlM Stage.feed stage =
      some (.behind (.array (items ++ (x :: xs).map v)) outer) := by
  induction xs generalizing x stage items with
  | nil => simp [hx, Stage.feed]
  | cons y ys ih =>
    have hy := h y List.mem_cons_self (.array (items ++ [v x]) :: outer)
    have hys := ih hy fun z hz => h z (List.mem_cons_of_mem y hz)
    simp only [List.map_cons] at hys ⊢
    rw [List.intercalate_cons_cons, List.append_assoc, List.append_assoc, List.foldlM_append, hx,
      Option.bind_eq_bind, Option.bind_some, List.singleton_append, List.foldlM_cons]
    refine hys.trans ?_
    simp

theorem makes_array (h : ∀ x ∈ xs, Makes (g x) (v x)) :
    Makes ([.arrayStart] ++ [Token.comma].intercalate (xs.map g) ++ [.arrayEnd])
      (.array (xs.map v)) := by
  intro outer
  rw [List.append_assoc, List.singleton_append, List.foldlM_cons]
  cases xs with
  | nil => rfl
  | cons x rest =>
    exact feed_items ((h x List.mem_cons_self).firstItem outer)
      fun y hy => h y (List.mem_cons_of_mem x hy)

def memberTokens (key : String) (ts : List Token) : List Token :=
  .string key :: .colon :: ts

variable {key : α → String}

/-- The members of an object are read one after the other, from wherever the first one was. -/
theorem feed_members {stage : Stage} {members : List (String × Value)} {outer : List Frame}
    (hx : (memberTokens (key x) (g x)).foldlM Stage.feed stage =
      some (.behind (v x) (.object members (key x) :: outer)))
    (h : ∀ y ∈ xs, Makes (g y) (v y)) :
    ([Token.comma].intercalate ((x :: xs).map fun y => memberTokens (key y) (g y)) ++
        [Token.objectEnd]).foldlM Stage.feed stage =
      some (.behind (.object (members ++ (x :: xs).map fun y => (key y, v y))) outer) := by
  induction xs generalizing x stage members with
  | nil => simp [hx, Stage.feed]
  | cons y ys ih =>
    have hy : (memberTokens (key y) (g y)).foldlM Stage.feed
        (.key (members ++ [(key x, v x)]) outer) = some _ :=
      h y List.mem_cons_self (.object (members ++ [(key x, v x)]) (key y) :: outer)
    have hys := ih hy fun z hz => h z (List.mem_cons_of_mem y hz)
    simp only [List.map_cons] at hys ⊢
    rw [List.intercalate_cons_cons, List.append_assoc, List.append_assoc, List.foldlM_append, hx,
      Option.bind_eq_bind, Option.bind_some, List.singleton_append, List.foldlM_cons]
    refine hys.trans ?_
    simp

theorem makes_object (h : ∀ x ∈ xs, Makes (g x) (v x)) :
    Makes ([.objectStart] ++ [Token.comma].intercalate (xs.map fun x => memberTokens (key x) (g x)) ++
        [.objectEnd]) (.object (xs.map fun x => (key x, v x))) := by
  intro outer
  rw [List.append_assoc, List.singleton_append, List.foldlM_cons]
  cases xs with
  | nil => rfl
  | cons x rest =>
    have hx : (memberTokens (key x) (g x)).foldlM Stage.feed (.firstKey outer) = some _ :=
      h x List.mem_cons_self (.object [] (key x) :: outer)
    exact feed_members hx fun y hy => h y (List.mem_cons_of_mem x hy)

theorem read?_of_makes {s : String} {ts : List Token} {w : Value} (hs : Scans s.toList ts)
    (hm : Makes ts w) : read? s = some w := by
  have ht : tokens? s.toList = some ts := by
    rw [tokens?, hs []]
    rfl
  rw [read?, ht, Option.bind_some, value?, hm []]

end Values

def listTokens (ss : List String) : List Token :=
  [.arrayStart] ++ [Token.comma].intercalate (ss.map fun s => [.string s]) ++ [.arrayEnd]

theorem scans_member (f : Finding) :
    Scans (member f).toList (memberTokens f.feature (listTokens f.mnemonics)) := by
  have hcolon : Scans ": ".toList [.colon] := fun _ => rfl
  have hlist : Scans (block "[" "]" "  " (f.mnemonics.map string)).toList
      (listTokens f.mnemonics) :=
    scans_block (fun _ => rfl) (fun _ => rfl) (by decide) fun s _ => scans_string s
  rw [member, String.toList_append, String.toList_append]
  exact ((scans_string f.feature).append hcolon).append hlist

theorem scans_object (found : Findings) :
    Scans (object found).toList
      ([.objectStart] ++ [Token.comma].intercalate
        (found.entries.map fun f => memberTokens f.feature (listTokens f.mnemonics)) ++
        [.objectEnd]) :=
  scans_block (fun _ => rfl) (fun _ => rfl) (by decide) fun f _ => scans_member f

/-- What was found, as the members of an object: the features in their order, each with its
mnemonics in theirs. -/
def members (found : Findings) : List (String × Value) :=
  found.entries.map fun f => (f.feature, .array (f.mnemonics.map .string))

theorem read?_object (found : Findings) : read? (object found) = some (.object (members found)) :=
  read?_of_makes (scans_object found)
    (makes_object fun _ _ => makes_array fun s _ => makes_string s)

theorem keys_members (found : Findings) : (members found).map Prod.fst = found.names := by
  rw [members, List.map_map]
  rfl

theorem lookup_members (found : Findings) (name : String) :
    (members found).lookup name =
      (found.get? name).map fun ms => .array (ms.map .string) := by
  obtain ⟨fs⟩ := found
  simp only [members, Findings.get?]
  induction fs with
  | nil => rfl
  | cons f fs ih =>
    rw [List.map_cons, List.lookup_cons, List.find?_cons, BEq.comm]
    cases f.feature == name with
    | true => rfl
    | false => exact ih

theorem members_injective : Function.Injective members := by
  intro found other h
  have hstring : Function.Injective Value.string := fun _ _ h => Value.string.inj h
  have hentry : Function.Injective fun f : Finding =>
      (f.feature, Value.array (f.mnemonics.map .string)) := by
    rintro ⟨feature, ms⟩ ⟨feature', ms'⟩ h
    obtain ⟨hfeature, hms⟩ := Prod.mk.inj h
    exact congrArg₂ Finding.mk hfeature
      (List.map_injective_iff.mpr hstring (Value.array.inj hms))
  have he := List.map_injective_iff.mpr hentry h
  cases found
  cases other
  exact congrArg Findings.mk he

/-- A report as JSON is read as an object whose keys are the names of the features, in their order,
with the array of its mnemonics under each; and no other findings are written in the same way. -/
theorem read_render_json (found : Findings) :
    let members := found.entries.map fun f => (f.feature, Value.array (f.mnemonics.map .string))
    read? (render found .json) = some (.object members) ∧
      members.map Prod.fst = found.names ∧
      (∀ name, members.lookup name =
        (found.get? name).map fun ms => .array (ms.map .string)) ∧
      ∀ other, render other .json = render found .json → other = found := by
  refine ⟨read?_object found, keys_members found, lookup_members found, ?_⟩
  intro other h
  have hread : some (Value.object (members other)) = some (.object (members found)) := by
    rw [← read?_object other, ← read?_object found]
    exact congrArg read? h
  exact members_injective (Value.object.inj (Option.some.inj hread))

end Disasm.Report.Json
