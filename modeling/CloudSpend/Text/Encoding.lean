import CloudSpend.Text.Character

/-! # Texts in other signs -/

namespace CloudSpend.Text

def ofHalf (unit : Nat) : Char := Char.ofNat (0x100000 + unit)

def half? (c : Char) : Option Nat :=
  if 0x10D800 ≤ c.toNat && c.toNat ≤ 0x10DFFF then some (c.toNat - 0x100000) else none

def isHalf (unit : Nat) : Bool := 0xD800 ≤ unit && unit ≤ 0xDFFF

def ofUnit (unit : Nat) : Char := if isHalf unit then ofHalf unit else Char.ofNat unit

def ofPair? (high low : Nat) : Option Char :=
  if 0xD800 ≤ high && high ≤ 0xDBFF && 0xDC00 ≤ low && low ≤ 0xDFFF then
    some (Char.ofNat (0x10000 + (high - 0xD800) * 0x400 + (low - 0xDC00)))
  else none

def halves? (s : String) : Option (Nat × Nat × Nat) :=
  let cs := s.toList
  let before := cs.takeWhile fun c => (half? c).isNone
  let run := (cs.drop before.length).takeWhile fun c => (half? c).isSome
  (run.head?.bind half?).map fun unit => (before.length, run.length, unit)

/-! ## Quoted texts -/

def hex (width n : Nat) : List Char :=
  let ds := Nat.toDigits 16 n
  List.replicate (width - ds.length) '0' ++ ds

def quoteFor (cs : List Char) : Char :=
  if cs.contains '\'' && !cs.contains '"' then '"' else '\''

def numbered (n : Nat) : List Char :=
  if n < 0x100 then '\\' :: 'x' :: hex 2 n
  else if n < 0x10000 then '\\' :: 'u' :: hex 4 n
  else '\\' :: 'U' :: hex 8 n

def quoteChar (q c : Char) : List Char :=
  if c == q || c == '\\' then ['\\', c]
  else if c == '\t' then ['\\', 't']
  else if c == '\n' then ['\\', 'n']
  else if c == '\r' then ['\\', 'r']
  else if isPrintable c then [c]
  else numbered ((half? c).getD c.toNat)

def quoted (s : String) : String :=
  let cs := s.toList
  let q := quoteFor cs
  String.ofList (q :: (cs.flatMap (quoteChar q) ++ [q]))

def quotedBytes (bs : List Nat) : String :=
  let cs := bs.map Char.ofNat
  let q := quoteFor cs
  String.ofList ('b' :: q :: (cs.flatMap (fun c =>
    if c.toNat < 0x7F then quoteChar q c else '\\' :: 'x' :: hex 2 c.toNat) ++ [q]))

/-! ## Texts from bytes -/

def follow? (b : Nat) : Option (Nat × Nat × Nat) :=
  if 0xC2 ≤ b && b ≤ 0xDF then some (1, 0x80, 0xBF)
  else if b == 0xE0 then some (2, 0xA0, 0xBF)
  else if b == 0xED then some (2, 0x80, 0x9F)
  else if 0xE1 ≤ b && b ≤ 0xEF then some (2, 0x80, 0xBF)
  else if b == 0xF0 then some (3, 0x90, 0xBF)
  else if 0xF1 ≤ b && b ≤ 0xF3 then some (3, 0x80, 0xBF)
  else if b == 0xF4 then some (3, 0x80, 0x8F)
  else none

def continuation : Nat → Nat → Nat → List Nat → List Nat
  | 0, _, _, _ => []
  | _ + 1, _, _, [] => []
  | count + 1, low, high, b :: rest =>
    if low ≤ b && b ≤ high then b :: continuation count 0x80 0xBF rest else []

def codePoint (b : Nat) (tail : List Nat) : Nat :=
  let start := match tail.length with
    | 1 => b - 0xC0
    | 2 => b - 0xE0
    | _ => b - 0xF0
  tail.foldl (fun n t => n * 64 + (t - 0x80)) start

def firstChar (b : Nat) (rest : List Nat) : Char × Nat :=
  if b < 0x80 then (Char.ofNat b, 1)
  else match follow? b with
    | none => ('�', 1)
    | some (count, low, high) =>
      let tail := continuation count low high rest
      if tail.length == count then (Char.ofNat (codePoint b tail), count + 1)
      else ('�', tail.length + 1)

def ofBytesFrom : Nat → List Nat → List Char
  | _, [] => []
  | skip + 1, _ :: rest => ofBytesFrom skip rest
  | 0, b :: rest =>
    let (c, size) := firstChar b rest
    c :: ofBytesFrom (size - 1) rest

def ofBytes (bs : List Nat) : String := String.ofList (ofBytesFrom 0 bs)

end CloudSpend.Text

/-! ## Texts in letters and digits -/

namespace CloudSpend.Text.Punycode

def threshold (place bias : Nat) : Nat := min 26 (max 1 (36 * (place + 1) - bias))

def settle : Nat → Nat → Nat → Nat
  | 0, divisions, size => 36 * divisions + 36 * size / (size + 38)
  | fuel + 1, divisions, size =>
    if 455 < size then settle fuel (divisions + 1) (size / 35)
    else 36 * divisions + 36 * size / (size + 38)

def adapt (distance count : Nat) (first : Bool) : Nat :=
  let size := distance / (if first then 700 else 2)
  settle 32 0 (size + size / count)

def digitSign (n : Nat) : Char := Char.ofNat (if n < 26 then 97 + n else 22 + n)

def digit? (c : Char) : Option Nat :=
  if 'a' ≤ c && c ≤ 'z' then some (c.toNat - 97)
  else if 'A' ≤ c && c ≤ 'Z' then some (c.toNat - 65)
  else if '0' ≤ c && c ≤ '9' then some (c.toNat - 22)
  else none

def digits (bias : Nat) : Nat → Nat → Nat → List Char
  | 0, _, _ => []
  | fuel + 1, place, n =>
    let t := threshold place bias
    if n < t then [digitSign n]
    else digitSign (t + (n - t) % (36 - t)) :: digits bias fuel (place + 1) ((n - t) / (36 - t))

structure Writing where
  signs : List Char
  distance : Nat
  bias : Nat
  count : Nat

def Writing.pass (basic point : Nat) (w : Writing) (c : Char) : Writing :=
  if c.toNat < point then { w with distance := w.distance + 1 }
  else if c.toNat == point then
    ⟨w.signs ++ digits w.bias 40 0 w.distance, 0, adapt w.distance (w.count + 1) (w.count == basic),
     w.count + 1⟩
  else w

def writePoints (cs : List Char) (basic : Nat) : List Nat → Nat → Writing → Writing
  | [], _, w => w
  | point :: rest, next, w =>
    let w := { w with distance := w.distance + (point - next) * (w.count + 1) }
    let w := cs.foldl (Writing.pass basic point) w
    writePoints cs basic rest (point + 1) { w with distance := w.distance + 1 }

def encode (cs : List Char) : List Char :=
  let basic := cs.filter (·.toNat < 128)
  let points := ((cs.filter (128 ≤ ·.toNat)).map Char.toNat).mergeSort (· ≤ ·)
  let start : Writing := ⟨[], 0, 72, basic.length⟩
  basic ++ (if basic.isEmpty then [] else ['-'])
    ++ (writePoints cs basic.length points.eraseReps 128 start).signs

def number? (bias : Nat) : Nat → Nat → Nat → List Char → Option (Nat × List Char)
  | _, _, _, [] => none
  | place, weight, value, c :: rest => do
    let d ← digit? c
    let t := threshold place bias
    let value := value + d * weight
    if d < t then some (value, rest)
    else number? bias (place + 1) (weight * (36 - t)) value rest

def readPoints (first : Bool) : Nat → Nat → Nat → Nat → List Char → List Char → Option (List Char)
  | _, _, _, _, done, [] => some done
  | 0, _, _, _, _, _ => none
  | fuel + 1, point, place, bias, done, signs => do
    let (distance, rest) ← number? bias 0 1 0 signs
    let size := done.length + 1
    let n := place + distance
    let point := point + n / size
    if 0x10FFFF < point then none
    else
      let place := n % size
      readPoints false fuel point (place + 1) (adapt distance size first)
        (done.take place ++ ofUnit point :: done.drop place) rest

def decode? (cs : List Char) : Option (List Char) :=
  let numbers := (cs.reverse.takeWhile (· != '-')).reverse
  let basic := (cs.take (cs.length - numbers.length)).dropLast
  readPoints true cs.length 128 0 72 basic numbers

end CloudSpend.Text.Punycode
