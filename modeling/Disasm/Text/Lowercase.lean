import Disasm.Text.LetterTable

namespace Disasm.Text

/-- Characters that are passed over when a word is searched for a letter: marks, modifiers,
apostrophes, points. -/
def isPassedOver (c : Char) : Bool :=
  if c.toNat < 0x80 then c = '\'' || c = '.' || c = ':' || c = '^' || c = '\x60'
  else inRanges passedRanges c.toNat

/-- Letters that have case, and are not passed over. -/
def isCased (c : Char) : Bool :=
  if c.toNat < 0x80 then c.isAlpha else inRanges casedRanges c.toNat

def caseRange? (n : Nat) : Option CaseRange :=
  caseRanges.find? fun r => r.first ≤ n && n ≤ r.last && (n - r.first) % r.step == 0

/-- The small form of a character that stands alone. -/
def lowerChar (c : Char) : List Char :=
  if c.toNat < 0x80 then [c.toLower]
  else if c = '\u0130' then ['i', '\u0307']
  else match caseRange? c.toNat with
    | some r => [Char.ofNat (r.small + (c.toNat - r.first))]
    | none => [c]

/-- Whether the next character that is not passed over is a letter with case. -/
def casedNext : List Char → Bool
  | [] => false
  | c :: rest => if isPassedOver c then casedNext rest else isCased c

/-- The capital sigma, the only letter whose small form depends on its place. -/
def capitalSigma : Char := '\u03A3'

/-- The small form of a character between its neighbours: a sigma is final when a letter stands
before it and none after it. -/
def lowerIn (casedBefore : Bool) (c : Char) (rest : List Char) : List Char :=
  if c = capitalSigma then
    if casedBefore && !casedNext rest then ['\u03C2'] else ['\u03C3']
  else lowerChar c

/-- Whether a letter stands before what follows `c`. -/
def casedAfter (casedBefore : Bool) (c : Char) : Bool :=
  if isPassedOver c then casedBefore else isCased c

/-- The small forms of some characters in turn, in front of which `done` stands in reverse. -/
def lowerFrom (done : List Char) (casedBefore : Bool) : List Char → List Char
  | [] => done.reverse
  | c :: rest =>
    lowerFrom ((lowerIn casedBefore c rest).reverse ++ done) (casedAfter casedBefore c) rest

def lowercase (s : String) : String :=
  String.ofList (lowerFrom [] false s.toList)

end Disasm.Text
