import Disasm.Text.Blank

namespace Disasm.Listing

/-- How much has been read of the name in front of an archive member, `archive(member):`. -/
inductive Opening where
  | nothing
  /-- Something that is not an opening bracket with a name before it. -/
  | outside
  /-- Just past such a bracket. -/
  | bracket
  /-- Past the bracket and something after it. -/
  | inside
  deriving DecidableEq

/-- What a further character makes of it. A bracket at the very start has no name before it. -/
def Opening.next : Opening → Char → Opening
  | .nothing, _ => .outside
  | .outside, c => if c = '(' then .bracket else .outside
  | .bracket, _ => .inside
  | .inside, _ => .inside

/-- Whether a colon, an ASCII blank and something more stand at the start. -/
def followsMember : List Char → Bool
  | ':' :: blank :: _ :: _ => Text.isAsciiBlank blank
  | _ => false

/-- Whether an archive member ends somewhere in the characters. -/
def memberEnds : Opening → List Char → Bool
  | _, [] => false
  | o, c :: rest => (o = .inside && c = ')' && followsMember rest) || memberEnds (o.next c) rest

/-- The header of an archive member, as in `libfoo.a(bar.o): file format elf64-x86-64`. -/
def isArchiveMember (body : String) : Bool :=
  memberEnds .nothing body.toList

def bannerStart : String := "Disassembly of section "

/-- The title of a section, as in `Disassembly of section .text:`. -/
def isSectionBanner (body : String) : Bool :=
  bannerStart.toList.isPrefixOf body.toList && bannerStart.length < body.length

/-- The name in a label line, as in `<strlen>:`. -/
def labelName? (body : String) : Option String :=
  match body.toList with
  | '<' :: rest =>
    match rest.reverse with
    | ':' :: '>' :: c :: name => some (String.ofList (c :: name).reverse)
    | _ => none
  | _ => none

inductive Noise where
  | archiveMember
  | blank
  | sectionBanner
  | symbolLabel
  deriving DecidableEq, Repr

namespace Noise

def name : Noise → String
  | .archiveMember => "archive member header"
  | .blank => "blank line"
  | .sectionBanner => "section banner"
  | .symbolLabel => "symbol label"

/-- The kinds in the order in which they are tried. -/
def all : List Noise := [.archiveMember, .blank, .sectionBanner, .symbolLabel]

/-- Whether a line is noise of this kind. -/
def covers : Noise → String → Bool
  | .archiveMember, body => isArchiveMember body
  | .blank, body => body.isEmpty
  | .sectionBanner, body => isSectionBanner body
  | .symbolLabel, body => (labelName? body).isSome

def first? (kinds : List Noise) (body : String) : Option Noise :=
  kinds.find? (·.covers body)

end Noise

end Disasm.Listing
