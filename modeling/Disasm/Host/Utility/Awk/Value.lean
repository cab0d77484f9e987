import Disasm.Host.Utility.Format
import Disasm.Host.Utility.Print
import Std.Data.HashMap

namespace Disasm.Host.Utility.Awk

def isBlank (c : Char) : Bool :=
  c = ' ' || c = '\t' || c = '\n'

/-- A number at the start of a text without a sign, and what follows. -/
def digitsNumber? (cs : List Char) : Option (Float × List Char) :=
  let whole := cs.takeWhile Char.isDigit
  let rest := cs.drop whole.length
  let (places, rest) := match rest with
    | '.' :: more =>
      let ds := more.takeWhile Char.isDigit
      (ds, more.drop ds.length)
    | _ => ([], rest)
  if whole.isEmpty && places.isEmpty then none
  else
    let mantissa := (whole ++ places).foldl (fun n c => n * 10 + (c.toNat - '0'.toNat)) 0
    let (exponent, rest) : Int × List Char := match rest with
      | e :: more =>
        if e = 'e' || e = 'E' then
          let (negative, more') := match more with
            | '-' :: m => (true, m)
            | '+' :: m => (false, m)
            | m => (false, m)
          let ds := more'.takeWhile Char.isDigit
          if ds.isEmpty then (0, rest)
          else
            let n := ds.foldl (fun n c => n * 10 + (c.toNat - '0'.toNat)) 0
            (if negative then -(n : Int) else n, more'.drop ds.length)
        else (0, rest)
      | [] => (0, [])
    let exponent := exponent - places.length
    let bounded := max (-20000) (min exponent 20000)
    some (if mantissa = 0 then 0
      else if 0 ≤ bounded then Float.ofScientific mantissa false bounded.toNat
      else Float.ofScientific mantissa true (-bounded).toNat, rest)

def hexNumber? (cs : List Char) : Option (Float × List Char) :=
  match cs with
  | '0' :: x :: rest =>
    let ds := rest.takeWhile fun c => (hexDigit? c).isSome
    if (x = 'x' || x = 'X') && !ds.isEmpty then
      some (Float.ofNat (ds.foldl (fun n c => n * 16 + (hexDigit? c).getD 0) 0),
        rest.drop ds.length)
    else none
  | _ => none

def namedNumber? (cs : List Char) : Option (Float × List Char) :=
  let starts (name : String) : Bool := (cs.take name.length).map Char.toLower = name.toList
  if starts "infinity" then some (1 / 0, cs.drop 8)
  else if starts "inf" then some (1 / 0, cs.drop 3)
  else if starts "nan" then some (0 / 0, cs.drop 3)
  else none

/-- A number at the start of a text, and what follows. -/
def leadingNumber? (hexadecimal : Bool) (cs : List Char) : Option (Float × List Char) :=
  let cs := cs.dropWhile isSpaceByte
  let (negative, cs) := match cs with
    | '-' :: rest => (true, rest)
    | '+' :: rest => (false, rest)
    | cs => (false, cs)
  let found := (namedNumber? cs).orElse fun _ =>
    (if hexadecimal then hexNumber? cs else none).orElse fun _ => digitsNumber? cs
  found.map fun x => (if negative then -x.1 else x.1, x.2)

def fullNumber? (s : String) : Option Float :=
  match leadingNumber? false s.toList with
  | some (x, rest) => if rest.all isBlank then some x else none
  | none => none

def wholeOf? (x : Float) : Option Int :=
  match Real.ofFloat x with
  | .finite negative num den =>
    if num % den = 0 then some (if negative then -(num / den : Nat) else (num / den : Nat))
    else none
  | _ => none

/-- A number without its fraction, at the edge of what fits if it does not fit. -/
def truncated (x : Float) : Int :=
  match Real.ofFloat x with
  | .finite negative num den =>
    let n := num / den
    if negative then max (-(n : Int)) (-(Nat.pow 2 63) + 1) else min n (Nat.pow 2 64 - 1)
  | .infinite negative => if negative then -(Nat.pow 2 63) + 1 else Nat.pow 2 64 - 1
  | .nan => -(Nat.pow 2 63)

inductive Value where
  | nothing
  | number (x : Float)
  | text (s : String)
  /-- A text from outside that is a number and is compared as one. -/
  | numeric (s : String) (x : Float)

/-- The directive that a format for numbers is, such as `%.6g`, between the texts around it. -/
def formatted (format : String) (x : Float) : String :=
  let cs := format.toList
  let before := cs.takeWhile (· != '%')
  match cs.drop before.length with
  | [] => format
  | _ :: rest =>
    let (d, rest, _) := readDirective rest []
    let body := match d.conversion with
      | 'd' | 'i' => d.whole (truncated x)
      | 's' | 'c' => []
      | _ => if x.isNaN then d.text "-nan".toList else d.real (Real.ofFloat x)
    String.ofList (before ++ body ++ rest)

/-- A number as a text: whole ones in full if they fit. -/
def numberText (format : String) (x : Float) : String :=
  match wholeOf? x with
  | some n =>
    if -(Nat.pow 2 63) ≤ n ∧ n < Nat.pow 2 64 then toString n
    else if n = Nat.pow 2 64 then toString (n - 1)
    else formatted format x
  | none => formatted format x

namespace Value

def ofOutside (s : String) : Value :=
  match fullNumber? s with
  | some x => .numeric s x
  | none => .text s

def toText (format : String) : Value → String
  | .nothing => ""
  | .number x => numberText format x
  | .text s | .numeric s _ => s

def toNumber : Value → Float
  | .nothing => 0
  | .number x => x
  | .numeric s x => ((leadingNumber? true s.toList).map Prod.fst).getD x
  | .text s => ((leadingNumber? true s.toList).map Prod.fst).getD 0

def isTrue : Value → Bool
  | .nothing => false
  | .number x | .numeric _ x => x != 0
  | .text s => s != ""

/-- The number by which a value is compared with another one of this kind. -/
def comparable? : Value → Option Float
  | .nothing => some 0
  | .number x | .numeric _ x => some x
  | .text _ => none

def ofBool (b : Bool) : Value :=
  .number (if b then 1 else 0)

end Value

def hash (s : String) : Nat :=
  s.toList.foldl (fun h c => (Nat.xor h c.toNat * 16777619) % Nat.pow 2 32) 2166136261

/-- A value in a table, with the times at which it was last reached by its key as a text and as a
number. -/
structure Entry where
  value : Value
  used : Nat
  number : Option Int := none
  numberUsed : Nat := 0

structure Table where
  entries : Std.HashMap String Entry := {}
  /-- Whether a key was a text, or all keys were asked for. -/
  textual : Bool := false
  clock : Nat := 1

namespace Table

def listsFor (size : Nat) : Nat :=
  (List.range 20).foldl (fun n _ => if n * 12 < size then n * 2 else n) 64

/-- Spreads keys that were numbers by their texts as well. -/
def withTexts (t : Table) : Table :=
  if t.textual then t
  else
    let lists := listsFor t.entries.size
    let place (e : Entry) : Nat := ((e.number.getD 0) % lists).toNat
    let order := t.entries.toList.mergeSort fun a b =>
      place a.2 < place b.2 || (place a.2 = place b.2 && b.2.numberUsed ≤ a.2.numberUsed)
    let (entries, clock) := order.foldl (fun (es, now) (k, e) =>
      (es.insert k { e with used := now }, now + 1)) (t.entries, t.clock)
    ⟨entries, true, clock⟩

def touch (t : Table) (key : String) (number : Option Int) : Table :=
  let t := if number.isNone then t.withTexts else t
  match t.entries[key]? with
  | none => t
  | some e =>
    let e := match number with
      | some n =>
        if e.number.isSome then { e with numberUsed := t.clock }
        else { e with number := some n, numberUsed := t.clock, used := t.clock }
      | none => { e with used := t.clock }
    { t with entries := t.entries.insert key e, clock := t.clock + 1 }

/-- The value of a key, which is there from now on. -/
def get (t : Table) (key : String) (number : Option Int) : Value × Table :=
  match t.entries[key]? with
  | some e => (e.value, t.touch key number)
  | none =>
    let t := if number.isNone then t.withTexts else t
    let e : Entry := ⟨.nothing, t.clock, number, t.clock⟩
    (.nothing, { t with entries := t.entries.insert key e, clock := t.clock + 1 })

def set (t : Table) (key : String) (number : Option Int) (v : Value) : Table :=
  let t := (t.get key number).2
  match t.entries[key]? with
  | some e => { t with entries := t.entries.insert key { e with value := v } }
  | none => t

def contains (t : Table) (key : String) : Bool :=
  t.entries.contains key

def erase (t : Table) (key : String) : Table :=
  { t with entries := t.entries.erase key }

/-- All keys, in the order in which loops see them. -/
def keys (t : Table) : List String × Table :=
  let t := t.withTexts
  let lists := listsFor t.entries.size
  let order := (t.entries.toList.map fun (k, e) => (hash k % lists, e.used, k)).mergeSort
    fun a b => a.1 < b.1 || (a.1 = b.1 && b.2.1 ≤ a.2.1)
  (order.map fun x => x.2.2, t)

end Table

end Disasm.Host.Utility.Awk
