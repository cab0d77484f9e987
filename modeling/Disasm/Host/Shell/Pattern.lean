import Disasm.Host.CharClass

namespace Disasm.Host.Shell

structure Glyph where
  char : Char
  quoted : Bool := false
  deriving DecidableEq

inductive Glob where
  | char (c : Char)
  | any
  | many
  | oneOf (inverted : Bool) (items : List SetItem)

namespace Glob

def coversChar (g : Glob) (c : Char) : Bool :=
  match g with
  | .char d => c = d
  | .any | .many => true
  | .oneOf inverted items => items.any (SetItem.covers c) != inverted

/-- What is left of a text behind its first characters, for every number of them. -/
def tails (cs : List Char) : List (List Char) :=
  match cs with
  | [] => [[]]
  | _ :: rest => cs :: tails rest

/-- Whether a pattern covers the whole of a text. -/
def covers : List Glob → List Char → Bool
  | [], cs => cs.isEmpty
  | .many :: gs, cs => (tails cs).any (covers gs)
  | g :: gs, cs =>
    match cs with
    | [] => false
    | c :: rest => g.coversChar c && covers gs rest

/-- The items of a set, up to its closing bracket, and what follows. A closing bracket in front is
an item. -/
def setItems (done : List SetItem) : List Glyph → Option (List SetItem × List Glyph)
  | [] => none
  | ⟨']', false⟩ :: rest =>
    if done.isEmpty then setItems [.range ']' ']'] rest else some (done.reverse, rest)
  | ⟨'[', false⟩ :: ⟨':', q⟩ :: rest =>
    let name := rest.takeWhile fun g => g.char.isAlpha
    match _h : rest.drop name.length with
    | ⟨':', _⟩ :: ⟨']', _⟩ :: behind =>
      setItems (.named (String.ofList (name.map Glyph.char)) :: done) behind
    | _ => setItems (.range '[' '[' :: done) (⟨':', q⟩ :: rest)
  | ⟨c, _⟩ :: ⟨'-', false⟩ :: ⟨d, q⟩ :: rest =>
    if d = ']' && !q then setItems (.range c c :: done) (⟨'-', false⟩ :: ⟨d, q⟩ :: rest)
    else setItems (.range c d :: done) rest
  | ⟨c, _⟩ :: rest => setItems (.range c c :: done) rest
termination_by gs => gs.length
decreasing_by
  all_goals simp_wf
  all_goals try omega
  have := congrArg List.length _h
  simp at this
  omega

/-- The items of a set and whether it is inverted, behind its opening bracket. -/
def set? (gs : List Glyph) : Option (Glob × List Glyph) :=
  match gs with
  | ⟨'!', false⟩ :: rest =>
    (setItems [] rest).map fun x => (.oneOf true x.1, x.2)
  | _ => (setItems [] gs).map fun x => (.oneOf false x.1, x.2)

/-- The pattern that a word is. An opening bracket without a closing one stands for itself. -/
def ofGlyphs (done : List Glob) : Nat → List Glyph → List Glob
  | 0, _ | _, [] => done.reverse
  | n + 1, ⟨c, quoted⟩ :: rest =>
    if quoted then ofGlyphs (.char c :: done) n rest
    else match c with
      | '*' => ofGlyphs (.many :: done) n rest
      | '?' => ofGlyphs (.any :: done) n rest
      | '[' =>
        match set? rest with
        | some (g, rest) => ofGlyphs (g :: done) n rest
        | none => ofGlyphs (.char '[' :: done) n rest
      | '\\' =>
        match rest with
        | g :: rest => ofGlyphs (.char g.char :: done) n rest
        | [] => (Glob.char '\\' :: done).reverse
      | c => ofGlyphs (.char c :: done) n rest

end Glob

def pattern (w : List Glyph) : List Glob :=
  Glob.ofGlyphs [] w.length w

/-- Whether a word covers more than its own text. -/
def isPattern (w : List Glyph) : Bool :=
  w.any fun g => !g.quoted && (g.char = '*' || g.char = '?' || g.char = '[')

/-- A text without its shortest or longest part at the start that a pattern covers. -/
def withoutFront (longest : Bool) (gs : List Glob) (cs : List Char) : List Char :=
  let cuts := List.range (cs.length + 1)
  match (if longest then cuts.reverse else cuts).find? fun n => Glob.covers gs (cs.take n) with
  | some n => cs.drop n
  | none => cs

/-- A text without its shortest or longest part at the end that a pattern covers. -/
def withoutBack (longest : Bool) (gs : List Glob) (cs : List Char) : List Char :=
  let cuts := List.range (cs.length + 1)
  match (if longest then cuts else cuts.reverse).find? fun n => Glob.covers gs (cs.drop n) with
  | some n => cs.take n
  | none => cs

end Disasm.Host.Shell
