import Disasm.Host.Utility.Print

namespace Disasm.Host.Utility

def groupsOf (n : Nat) : Nat → List Char → List (List Char)
  | 0, _ | _, [] => []
  | fuel + 1, cs => cs.take n :: groupsOf n fuel (cs.drop n)

def digitsText (base width n : Nat) : String :=
  let ds := Nat.toDigits base n
  String.ofList (List.replicate (width - ds.length) '0' ++ ds)

/-- How `od` shows bytes. -/
inductive Shown where
  | letters
  | names
  /-- Numbers of so many bytes to a base, with a sign or without. -/
  | numbers (base size : Nat) (signed : Bool)

namespace Shown

def size : Shown → Nat
  | .numbers _ size _ => size
  | _ => 1

def width : Shown → Nat
  | .letters | .names => 3
  | .numbers base size signed =>
    if base = 16 then 2 * size
    else if base = 8 then (8 * size + 2) / 3
    else
      let most := Nat.pow 2 (if signed then 8 * size - 1 else 8 * size)
      (Nat.toDigits 10 most).length + if signed then 1 else 0

/-- The number that bytes are, the last of them the greatest part. -/
def number (cs : List Char) : Nat :=
  cs.foldr (fun c n => n * 256 + c.toNat) 0

def controlNames : List String :=
  ["nul", "soh", "stx", "etx", "eot", "enq", "ack", "bel", "bs", "ht", "nl", "vt", "ff", "cr", "so",
    "si", "dle", "dc1", "dc2", "dc3", "dc4", "nak", "syn", "etb", "can", "em", "sub", "esc", "fs",
    "gs", "rs", "us", "sp"]

def text (s : Shown) (cs : List Char) : String :=
  match s with
  | .letters =>
    let c := cs.headD ' '
    if isPrintable c then String.ofList [c]
    else match controlLetter? c with
      | some l => String.ofList ['\\', l]
      | none => if c = '\x00' then "\\0" else digitsText 8 3 c.toNat
  | .names =>
    let n := (cs.headD ' ').toNat % 128
    if n = 127 then "del" else controlNames.getD n (String.ofList [Char.ofNat n])
  | .numbers base size signed =>
    let n := number cs
    if base = 10 then
      if signed && Nat.pow 2 (8 * size - 1) ≤ n then "-" ++ toString (Nat.pow 2 (8 * size) - n)
      else toString n
    else digitsText base s.width n

end Shown

/-- The kinds of fields that `-t` names, and whether the characters are shown as well; or a letter
that names none. -/
def shownKinds (done : List (Shown × Bool)) :
    Nat → List Char → Except Char (List (Shown × Bool))
  | 0, _ | _, [] => .ok done.reverse
  | fuel + 1, c :: rest =>
    let ended (k : Shown) (rest : List Char) : Except Char (List (Shown × Bool)) :=
      match rest with
      | 'z' :: rest => shownKinds ((k, true) :: done) fuel rest
      | rest => shownKinds ((k, false) :: done) fuel rest
    let sized (base : Nat) (signed : Bool) : Except Char (List (Shown × Bool)) :=
      let (size, rest) : Nat × List Char := match rest with
        | '1' :: rest | 'C' :: rest => (1, rest)
        | '2' :: rest | 'S' :: rest => (2, rest)
        | '4' :: rest | 'I' :: rest => (4, rest)
        | '8' :: rest | 'L' :: rest => (8, rest)
        | rest => (4, rest)
      ended (.numbers base size signed) rest
    match c with
    | 'c' => ended .letters rest
    | 'a' => ended .names rest
    | 'x' => sized 16 false
    | 'o' => sized 8 false
    | 'u' => sized 10 false
    | 'd' => sized 10 true
    | c => .error c

def Shown.lineWidth (width : Nat) (k : Shown) : Nat :=
  (width / k.size) * (k.width + 1)

/-- Fields with blanks in front of them, which fill up a line as wide as the widest kind needs. -/
def paddedFields (count pad width : Nat) : Nat → List String → List String
  | _, [] => []
  | left, f :: rest =>
    let here := pad * (left - 1) / count
    let before := pad * left / count
    (" " ++ padLeft (before - here + width) f) :: paddedFields count pad width (left - 1) rest

/-- A line of `od` without its offset. -/
def odLine (width widest : Nat) (kind : Shown × Bool) (cs : List Char) : String :=
  let (k, z) := kind
  let groups := groupsOf k.size cs.length cs
  let texts := groups.map fun g => k.text (g ++ List.replicate (k.size - g.length) '\x00')
  let count := width / k.size
  let line := String.join (paddedFields count (widest - k.lineWidth width) k.width count texts)
  if z then
    line ++ String.ofList (List.replicate (widest - line.length) ' ') ++ "  >" ++
      String.ofList (cs.map fun c => if isPrintable c then c else '.') ++ "<"
  else line

/-- Lines with their offsets. Of lines that are the same only the first one is shown. -/
def odLines (width : Nat) (all : Bool) (offset : Nat → String) (kinds : List (Shown × Bool)) :
    Nat → Option (List Char) → Bool → List (List Char) → List String
  | n, _, _, [] => if (offset n).isEmpty then [] else [offset n]
  | n, last, starred, block :: rest =>
    if !all && last = some block then
      (if starred then [] else ["*"]) ++
        odLines width all offset kinds (n + block.length) last true rest
    else
      let title := offset n
      let widest := (kinds.map fun k => k.1.lineWidth width).foldl max 0
      let lines := (kinds.zipIdx).map fun (k, i) =>
        (if i = 0 then title else String.ofList (List.replicate title.length ' ')) ++
          odLine width widest k block
      lines ++ odLines width all offset kinds (n + block.length) (some block) false rest

def od : Work Unit := do
  let g ← given [⟨'A', ["address-radix"], .argument⟩, ⟨'t', ["format"], .argument⟩,
    ⟨'c', [], .nothing⟩, ⟨'b', [], .nothing⟩, ⟨'x', [], .nothing⟩, ⟨'o', [], .nothing⟩,
    ⟨'d', [], .nothing⟩, ⟨'a', [], .nothing⟩, ⟨'v', ["output-duplicates"], .nothing⟩,
    ⟨'N', ["read-bytes"], .argument⟩, ⟨'j', ["skip-bytes"], .argument⟩,
    ⟨'w', ["width"], .attached⟩]
  let chosen ← g.options.mapM fun (c, v) => do
    match c with
    | 'c' => return [(Shown.letters, false)]
    | 'a' => return [(Shown.names, false)]
    | 'b' => return [(Shown.numbers 8 1 false, false)]
    | 'o' => return [(Shown.numbers 8 2 false, false)]
    | 'x' => return [(Shown.numbers 16 2 false, false)]
    | 'd' => return [(Shown.numbers 10 2 false, false)]
    | 't' =>
      match shownKinds [] v.length.succ v.toList with
      | .ok ks => return ks
      | .error c =>
        fail ("invalid character '" ++ String.ofList [c] ++ "' in type string " ++ quote v)
    | _ => return []
  let kinds := chosen.flatten
  let kinds := if kinds.isEmpty then [(Shown.numbers 8 2 false, false)] else kinds
  let offset : Nat → String := match g.get? 'A' with
    | some "n" => fun _ => ""
    | some "x" => digitsText 16 6
    | some "d" => digitsText 10 7
    | _ => digitsText 8 7
  let width := match g.get? 'w' with
    | some "" => 32
    | some w => (natural? w).getD 16
    | none => 16
  let parts ← (if g.operands.isEmpty then ["-"] else g.operands).filterMapM fun name => do
    match ← contentOrInput name with
    | .ok cs => return some cs
    | .error e =>
      warn (quoteName name ++ ": " ++ e.text)
      setStatus 1
      return none
  if parts.isEmpty then return
  let cs := parts.flatten
  let skipped := ((g.get? 'j').bind amount?).getD 0
  let cs := cs.drop skipped
  let cs := match (g.get? 'N').bind amount? with
    | some n => cs.take n
    | none => cs
  (odLines width (g.has 'v') offset kinds skipped none false
    (groupsOf width cs.length cs)).forM fun l => outText (l ++ "\n")

def base64Letters : List Char :=
  "ABCDEFGHIJKLMNOPQRSTUVWXYZabcdefghijklmnopqrstuvwxyz0123456789+/".toList

def base64Encode : List Char → List Char
  | a :: b :: c :: rest =>
    letters (a.toNat * 65536 + b.toNat * 256 + c.toNat) ++ base64Encode rest
  | [a, b] => (letters (a.toNat * 65536 + b.toNat * 256)).take 3 ++ ['=']
  | [a] => (letters (a.toNat * 65536)).take 2 ++ ['=', '=']
  | [] => []
where
  letters (n : Nat) : List Char :=
    [n / 262144, n / 4096 % 64, n / 64 % 64, n % 64].map fun k => base64Letters.getD k '='

/-- The bytes of letters, and whether all of them made sense. -/
def base64Decode : List Char → List Char × Bool
  | a :: b :: '=' :: '=' :: [] =>
    match value? a, value? b with
    | some a, some b => ([Char.ofNat ((a * 64 + b) / 16 % 256)], true)
    | _, _ => ([], false)
  | a :: b :: c :: '=' :: [] =>
    match value? a, value? b, value? c with
    | some a, some b, some c =>
      let n := a * 4096 + b * 64 + c
      ([Char.ofNat (n / 1024 % 256), Char.ofNat (n / 4 % 256)], true)
    | _, _, _ => ([], false)
  | a :: b :: c :: d :: rest =>
    match value? a, value? b, value? c, value? d with
    | some a, some b, some c, some d =>
      let n := a * 262144 + b * 4096 + c * 64 + d
      let (cs, good) := base64Decode rest
      (Char.ofNat (n / 65536 % 256) :: Char.ofNat (n / 256 % 256) :: Char.ofNat (n % 256) :: cs,
        good)
    | _, _, _, _ => ([], false)
  | [] => ([], true)
  | _ => ([], false)
where
  value? (c : Char) : Option Nat := base64Letters.idxOf? c

def base64 : Work Unit := do
  let g ← given [⟨'d', ["decode"], .nothing⟩, ⟨'w', ["wrap"], .argument⟩,
    ⟨'i', ["ignore-garbage"], .nothing⟩]
  let name ← match g.operands with
    | [] => pure "-"
    | [name] => pure name
    | _ :: extra :: _ => misuse ("extra operand " ++ quote extra)
  let width ← match g.get? 'w' with
    | none => pure 76
    | some w =>
      match natural? w with
      | some n => pure n
      | none => fail ("invalid wrap size: " ++ quote w)
  match ← contentOrInput name with
  | .error e => fail (quoteName name ++ ": " ++ e.text)
  | .ok cs =>
    if g.has 'd' then
      let cs := cs.filter fun c =>
        c != '\n' && (!g.has 'i' || base64Letters.contains c || c = '=')
      let (bytes, good) := base64Decode cs
      out bytes
      if !good then fail "invalid input"
    else
      let letters := base64Encode cs
      if width = 0 then out letters
      else out (unlines (groupsOf width letters.length letters))

/-- What `dd` says at its end: how many whole and partial blocks there were. -/
def ddReport (block size : Nat) : List String :=
  let records := toString (size / block) ++ "+" ++ (if size % block = 0 then "0" else "1")
  [records ++ " records in", records ++ " records out",
    toString size ++ (if size = 1 then " byte" else " bytes") ++ " copied, 0 s, Infinity B/s"]

def dd : Work Unit := do
  let args := (← read).args
  let operands ← args.mapM fun a => do
    match a.toList.takeWhile (· != '='), a.toList.dropWhile (· != '=') with
    | name, _ :: value => return (String.ofList name, String.ofList value)
    | _, [] => misuse ("unrecognized operand " ++ quote a)
  let known := ["if", "of", "bs", "ibs", "obs", "cbs", "count", "skip", "seek", "conv", "status",
    "iflag", "oflag"]
  operands.forM fun (name, value) =>
    if known.contains name then pure ()
    else misuse ("unrecognized operand " ++ quote (name ++ "=" ++ value))
  let value? (name : String) : Option String := operands.reverse.lookup name
  let amount (name : String) : Work (Option Nat) := do
    match value? name with
    | none => return none
    | some v =>
      match amount? v with
      | some n => return some n
      | none => fail ("invalid number: " ++ quote v)
  let block := ((← amount "bs").orElse fun _ => none).getD ((← amount "ibs").getD 512)
  if block = 0 then fail ("invalid number: " ++ quote "0")
  let count ← amount "count"
  let skipped := ((← amount "skip").getD 0) * block
  let source := (value? "if").getD "-"
  match ← (if source = "-" then takeInput else contentOf source) with
  | .error e =>
    fail (match value? "if" with
      | some path => "failed to open " ++ quote path ++ ": " ++ e.text
      | none => "error reading 'standard input': " ++ e.text)
  | .ok cs =>
    let cs := cs.drop skipped
    let taken := match count with
      | some n => cs.take (n * block)
      | none => cs
    if source = "-" then putBack (cs.drop taken.length)
    let changed := match value? "conv" with
      | some "ucase" => taken.map Char.toUpper
      | some "lcase" => taken.map Char.toLower
      | _ => taken
    match value? "of" with
    | none => out changed
    | some path =>
      match ← writeFile path changed with
      | .ok _ => pure ()
      | .error e => fail ("failed to open " ++ quote path ++ ": " ++ e)
    match value? "status" with
    | some "none" => pure ()
    | some "noxfer" => (ddReport block taken.length).take 2 |>.forM errLine
    | _ => (ddReport block taken.length).forM errLine

end Disasm.Host.Utility
