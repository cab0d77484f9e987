import Disasm.Text.Utf8

namespace Disasm.Host

/-- On a machine all texts are bytes, which are held as characters below 256. -/
def ofByte (b : UInt8) : Char :=
  Char.ofNat b.toNat

def toByte (c : Char) : UInt8 :=
  UInt8.ofNat c.toNat

/-- The bytes of some characters that stand for bytes. -/
def toBytes (cs : List Char) : List UInt8 :=
  cs.map toByte

def ofBytes (bytes : List UInt8) : List Char :=
  bytes.map ofByte

def octets (s : String) : String :=
  if s.toList.all fun c => c.toNat < 0x80 then s
  else String.ofList (ofBytes (Text.Utf8.encode s))

end Disasm.Host
