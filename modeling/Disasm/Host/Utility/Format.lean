namespace Disasm.Host.Utility

structure Directive where
  left : Bool := false
  plus : Bool := false
  space : Bool := false
  alternative : Bool := false
  zeros : Bool := false
  width : Nat := 0
  precision : Option Nat := none
  conversion : Char := 's'

/-- A number with a fraction: exact, or one of the values that are none. -/
inductive Real where
  | finite (negative : Bool) (num den : Nat)
  | infinite (negative : Bool)
  | nan

namespace Real

def ofInt (n : Int) : Real :=
  .finite (n < 0) n.natAbs 1

/-- The value of a binary floating point number. -/
def ofFloat (f : Float) : Real :=
  if f.isNaN then .nan
  else if f.isInf then .infinite (f < 0)
  else
    let bits := f.toBits.toNat
    let negative := bits / Nat.pow 2 63 = 1
    let exponent := bits / Nat.pow 2 52 % Nat.pow 2 11
    let fraction := bits % Nat.pow 2 52
    let mantissa := if exponent = 0 then fraction else fraction + Nat.pow 2 52
    let exponent := if exponent = 0 then 1 else exponent
    if 1075 ≤ exponent then .finite negative (mantissa * Nat.pow 2 (exponent - 1075)) 1
    else .finite negative mantissa (Nat.pow 2 (1075 - exponent))

end Real

def roundDiv (num den : Nat) : Nat :=
  let q := num / den
  let r := num % den
  if den < 2 * r ∨ (2 * r = den ∧ q % 2 = 1) then q + 1 else q

def decimalDigits (n : Nat) : List Char :=
  Nat.toDigits 10 n

/-- A number of digits with a point before the last `places`. -/
def withPoint (alternative : Bool) (places n : Nat) : List Char :=
  let ds := decimalDigits n
  let ds := List.replicate (places + 1 - ds.length) '0' ++ ds
  let whole := ds.take (ds.length - places)
  if places = 0 then whole ++ (if alternative then ['.'] else [])
  else whole ++ '.' :: ds.drop (ds.length - places)

def fixedDigits (alternative : Bool) (places num den : Nat) : List Char :=
  withPoint alternative places (roundDiv (num * Nat.pow 10 places) den)

def scaled (num den : Nat) (power : Int) : Nat :=
  if 0 ≤ power then roundDiv (num * Nat.pow 10 power.toNat) den
  else roundDiv num (den * Nat.pow 10 (-power).toNat)

/-- The digits of a fraction with one in front of the point, and the exponent that belongs to
them. -/
def mantissa (places num den : Nat) : Nat × Int :=
  if num = 0 then (0, 0)
  else
    let guess : Int := (decimalDigits num).length - (decimalDigits den).length
    let fits := if 0 ≤ guess then den * Nat.pow 10 guess.toNat ≤ num
      else den ≤ num * Nat.pow 10 (-guess).toNat
    let e := if fits then guess else guess - 1
    let n := scaled num den (places - e)
    if Nat.pow 10 (places + 1) ≤ n then (n / 10, e + 1) else (n, e)

def exponentText (letter : Char) (e : Int) : List Char :=
  let ds := decimalDigits e.natAbs
  letter :: (if e < 0 then '-' else '+') :: (if ds.length < 2 then '0' :: ds else ds)

/-- Without zeros at the end of the places, and without a point behind which nothing stands. -/
def withoutZeros (cs : List Char) : List Char :=
  if cs.contains '.' then
    let cs := (cs.reverse.dropWhile (· = '0'))
    (match cs with
      | '.' :: rest => rest
      | cs => cs).reverse
  else cs

def realDigits (d : Directive) (num den : Nat) : List Char :=
  let lower := d.conversion.toLower
  let letter := if d.conversion.isUpper then 'E' else 'e'
  let precision := d.precision.getD 6
  if lower = 'f' then fixedDigits d.alternative precision num den
  else if lower = 'e' then
    let (n, e) := mantissa precision num den
    withPoint d.alternative precision n ++ exponentText letter e
  else
    let p := if precision = 0 then 1 else precision
    let (n, e) := mantissa (p - 1) num den
    let trim := if d.alternative then id else withoutZeros
    if -4 ≤ e ∧ e < p then trim (fixedDigits d.alternative (p - 1 - e).toNat num den)
    else trim (withPoint d.alternative (p - 1) n) ++ exponentText letter e

namespace Directive

/-- A text in its field: blanks go in front, or behind; zeros go behind the sign. -/
def fill (d : Directive) (zeros : Bool) (sign body : List Char) : List Char :=
  let missing := d.width - (sign.length + body.length)
  if d.left then sign ++ body ++ List.replicate missing ' '
  else if zeros then sign ++ List.replicate missing '0' ++ body
  else List.replicate missing ' ' ++ sign ++ body

def text (d : Directive) (cs : List Char) : List Char :=
  d.fill false [] (match d.precision with
    | some n => cs.take n
    | none => cs)

def sign (d : Directive) (negative : Bool) : List Char :=
  if negative then ['-'] else if d.plus then ['+'] else if d.space then [' '] else []

def digits (d : Directive) (ds : List Char) : List Char :=
  match d.precision with
  | some 0 => if ds = ['0'] then [] else ds
  | some n => List.replicate (n - ds.length) '0' ++ ds
  | none => ds

def whole (d : Directive) (n : Int) : List Char :=
  d.fill (d.zeros && d.precision.isNone) (d.sign (n < 0)) (d.digits (decimalDigits n.natAbs))

def unsigned (d : Directive) (n : Int) : List Char :=
  let bits := (n % Nat.pow 2 64).toNat
  let zeros := d.zeros && d.precision.isNone
  match d.conversion with
  | 'o' =>
    let ds := d.digits (Nat.toDigits 8 bits)
    d.fill zeros [] (if d.alternative && ds.head? != some '0' then '0' :: ds else ds)
  | 'x' =>
    d.fill zeros (if d.alternative && bits != 0 then ['0', 'x'] else [])
      (d.digits (Nat.toDigits 16 bits))
  | 'X' =>
    d.fill zeros (if d.alternative && bits != 0 then ['0', 'X'] else [])
      (d.digits ((Nat.toDigits 16 bits).map Char.toUpper))
  | _ => d.fill zeros [] (d.digits (decimalDigits bits))

def real (d : Directive) (x : Real) : List Char :=
  let named (s : String) := (if d.conversion.isUpper then s.map Char.toUpper else s).toList
  match x with
  | .finite negative num den => d.fill d.zeros (d.sign negative) (realDigits d num den)
  | .infinite negative => d.fill false (d.sign negative) (named "inf")
  | .nan => d.fill false (d.sign false) (named "nan")

end Directive

/-- A directive at the start of a text behind a percent sign, and what follows. Stars take the
numbers that are given. -/
def readDirective (cs : List Char) (stars : List Int) : Directive × List Char × List Int :=
  let flags := cs.takeWhile "-+ #0'I".toList.contains
  let rest := cs.drop flags.length
  let number (rest : List Char) (stars : List Int) : Option Int × List Char × List Int :=
    match rest with
    | '*' :: rest => (some (stars.headD 0), rest, stars.drop 1)
    | _ =>
      let ds := rest.takeWhile Char.isDigit
      (if ds.isEmpty then none
        else some (ds.foldl (fun (n : Nat) c => n * 10 + (c.toNat - '0'.toNat)) 0 : Nat),
        rest.drop ds.length, stars)
  let (width, rest, stars) := number rest stars
  let (precision, rest, stars) : Option Int × List Char × List Int :=
    match rest with
    | '.' :: rest =>
      let (p, rest, stars) := number rest stars
      (some (p.getD 0), rest, stars)
    | _ => (none, rest, stars)
  let rest := rest.dropWhile "hlLjzt".toList.contains
  let width := width.getD 0
  ({ left := flags.contains '-' || width < 0
     plus := flags.contains '+'
     space := flags.contains ' '
     alternative := flags.contains '#'
     zeros := flags.contains '0'
     width := width.natAbs
     precision := precision.bind fun p => if p < 0 then none else some p.toNat
     conversion := rest.headD '\x00' }, rest.drop 1, stars)

def starCount (cs : List Char) : Nat :=
  (cs.takeWhile fun c => c = '*' || c = '.' || c.isDigit || "-+ #'I".toList.contains c).count '*'

end Disasm.Host.Utility
