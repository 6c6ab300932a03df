import CloudSpend.Data.Access

/-! # Fields -/

namespace CloudSpend.Form

open Numeral

def isSpace (c : Char) : Bool := Text.isBlank c && !Text.inRanges [(0x1C, 0x1F)] c

def trimSpace (cs : List Char) : List Char :=
  ((cs.dropWhile isSpace).reverse.dropWhile isSpace).reverse

def hasDouble : List Char → Bool
  | '_' :: '_' :: _ => true
  | _ :: rest => hasDouble rest
  | [] => false

def joined? (cs : List Char) : Option (List Char) :=
  if !cs.contains '_' || cs.head? == some '_' || cs.getLast? == some '_' || hasDouble cs then none
  else some (cs.filter (· != '_'))

def maxDigits : Nat := 4300

def plainInt? (cs : List Char) : Option Int :=
  let (negative, ds) := match cs with
    | '-' :: rest => (true, rest)
    | rest => (false, rest)
  if ds.isEmpty || !ds.all Char.isDigit || (1 < ds.length && ds.head? == some '0')
      || maxDigits < ds.length then none
  else
    let n : Int := digitsValue ds
    some (if negative then -n else n)

def dropPlus? : List Char → Option (List Char)
  | '+' :: '-' :: _ => none
  | '+' :: rest => some rest
  | cs => some cs

def dropZeros? : List Char → Option (List Char)
  | [] => none
  | c :: rest =>
    let fills (c : Char) : Bool := c == '0' || c == '_'
    let last := (rest.takeWhile fills).getLast?.getD '0'
    if c != '0' then (if c.isDigit || c == '-' then some (c :: rest) else none)
    else match rest.dropWhile fills with
      | [] => some [last]
      | d :: more =>
        if d == '.' then some (last :: d :: more)
        else if d.isDigit then some (d :: more) else none

def dropFraction (cs : List Char) : List Char :=
  match cs.dropWhile (· != '.') with
  | _ :: fraction =>
    if !fraction.isEmpty && fraction.all (· == '0') then cs.takeWhile (· != '.') else cs
  | [] => cs

def intOfText? (s : String) : Option Int :=
  (plainInt? s.toList).or do
    let cs := dropFraction (← dropZeros? (← dropPlus? (trimSpace s.toList)))
    plainInt? ((joined? cs).getD cs)

def intOfFloat? (x : Float) : Option Int :=
  match truncate x with
  | .ok n =>
    if Value.sameNumber (.int n) (.float x) && n.natAbs < 9223372036854775808 then some n else none
  | .error _ => none

def int? (v : Value) : Option Int :=
  match v with
  | .text s => intOfText? s
  | .float x => intOfFloat? x
  | v => v.int?

def plainNumber? (cs : List Char) : Option Float :=
  if cs.all fun c => c.toNat < 128 && c != '_' && !Text.isBlank c then
    readFloat? (String.ofList cs)
  else none

def numberOfText? (s : String) : Option Float :=
  (plainNumber? (trimSpace s.toList)).or ((joined? s.toList).bind plainNumber?)

def number? (v : Value) : Option Float :=
  match v with
  | .text s => numberOfText? s
  | .float x => some x
  | v => v.int?.bind ofInt?

/-! ## Reading single fields -/

def lower (s : String) : String := String.ofList (s.toList.map Char.toLower)

def truthWords : List (String × Bool) :=
  [("true", true), ("1", true), ("on", true), ("t", true), ("y", true), ("yes", true),
   ("false", false), ("0", false), ("off", false), ("f", false), ("n", false), ("no", false)]

def bool? (v : Value) : Option Bool :=
  match v with
  | .bool b => some b
  | .text s => Entries.get? truthWords (lower s)
  | .int 0 => some false
  | .int 1 => some true
  | .float x => if x == 0 then some false else if x == 1 then some true else none
  | _ => none

def isoDate? (s : String) : Option Date :=
  if s.length == 10 && s.toList[4]? == some '-' && s.toList[7]? == some '-' then
    (Date.read s).toOption
  else none

def ofEpoch? (seconds micros : Int) : Option Timestamp :=
  let total := seconds * 1000000 + micros
  let second := Int.fdiv total 1000000
  if -11676096000 ≤ second && second ≤ 253402300799 then
    some (Timestamp.ofLocalMicros (total + 719163 * 86400 * 1000000) (some 0))
  else none

def secondsLimit : Int := 20000000000

def ofCount? (n micros : Int) : Option Timestamp :=
  if n.natAbs ≤ secondsLimit then ofEpoch? n micros
  else ofEpoch? (Int.fdiv n 1000) (Int.fmod n 1000 * 1000 + micros)

def dayOfCount? (n : Int) : Option Date :=
  let second := if n.natAbs ≤ secondsLimit then n else Int.fdiv n 1000
  if Int.fmod second 86400 == 0 then (ofEpoch? second 0).map (·.date) else none

def floor? (x : Float) : Option Int := (truncate x.floor).toOption

def toMicros (x : Float) : Option Int := (truncate (x * 1000000).round).toOption

def ofNumber? (x : Float) : Option Timestamp := do
  ofCount? (← floor? x) (← toMicros (x - (if x < 0 then x.ceil else x.floor)).abs)

def ofFraction? (x : Float) : Option Timestamp := do
  let x := if 20000000000 < x.abs then x / 1000 else x
  ofCount? (← floor? x) (← toMicros (x - x.floor))

def count? (s : String) : Option Int :=
  let digits? (cs : List Char) : Option Int :=
    if cs.isEmpty || !cs.all Char.isDigit then none else some (digitsValue cs)
  match s.toList with
  | '-' :: cs => (digits? cs).map (-·)
  | '+' :: cs => digits? cs
  | cs => digits? cs

def pointed? (s : String) : Option Float :=
  let whole := String.ofList (s.toList.takeWhile (· != '.'))
  match s.toList.dropWhile (· != '.') with
  | _ :: fraction =>
    if (count? whole).isSome && fraction.all Char.isDigit then readFloat? s else none
  | [] => none

def fraction? : List Char → Option (Nat × List Char)
  | [] => some (0, [])
  | c :: rest =>
    if c == '.' || c == ',' then
      let ds := rest.takeWhile Char.isDigit
      if ds.isEmpty then none
      else some (digitsValue ((ds ++ List.replicate 6 '0').take 6),
        rest.dropWhile Char.isDigit)
    else some (0, c :: rest)

def clock? (cs : List Char) : Option (Nat × Nat × Nat × Nat × List Char) := do
  let (hour, rest) ← Date.digits? 2 cs
  let rest ← match rest with | ':' :: r => some r | _ => none
  let (minute, rest) ← Date.digits? 2 rest
  guard (hour < 24 && minute < 60)
  match rest with
  | ':' :: rest =>
    let (second, rest) ← Date.digits? 2 rest
    guard (second < 60)
    let (micro, rest) ← fraction? rest
    some (hour, minute, second, micro, rest)
  | rest => some (hour, minute, 0, 0, rest)

def zone? : List Char → Option (Option Int)
  | [] => some none
  | ['Z'] | ['z'] => some (some 0)
  | c :: rest => do
    let sign : Int ← if c == '+' then some 1 else if c == '-' || c == '−' then some (-1) else none
    let (h, rest) ← Date.digits? 2 rest
    let rest := match rest with | ':' :: r => r | r => r
    let (m, rest) ← Date.digits? 2 rest
    guard (rest.isEmpty && h < 24 && m < 60)
    some (some (sign * ((h * 60 + m) * 60 : Nat)))

def isoTimestamp? (s : String) : Option Timestamp := do
  let date ← isoDate? (Text.take 10 s)
  match s.toList.drop 10 with
  | [] => some { date }
  | sep :: rest =>
    guard (sep == 'T' || sep == 't' || sep == ' ' || sep == '_')
    let (hour, minute, second, micro, rest) ← clock? rest
    let offset ← zone? rest
    some { date, hour, minute, second, micro, offset }

def timestamp? (v : Value) : Option Timestamp :=
  match v with
  | .timestamp t => some t
  | .date d => some { date := d }
  | .text s => (isoTimestamp? s).or (((count? s).bind (ofCount? · 0)).or ((pointed? s).bind ofFraction?))
  | .int n => ofCount? n 0
  | .float x => ofNumber? x
  | _ => none

def startOfDay? (t : Timestamp) : Option Date :=
  if t.hour == 0 && t.minute == 0 && t.second == 0 && t.micro == 0 then some t.date else none

def date? (v : Value) : Option Date :=
  match v with
  | .date d => some d
  | .text s => (isoDate? s).or (((count? s).bind dayOfCount?).or ((timestamp? v).bind startOfDay?))
  | v => (timestamp? v).bind startOfDay?

def identifierDigits? (s : String) : Option (List Char) :=
  let cs := s.toList
  let groups := Text.split s "-"
  if (groups.map String.length == [8, 4, 4, 4, 12] || cs.length == 32) then
    let ds := cs.filter (· != '-')
    if ds.length == 32 && ds.all (fun c => c.isDigit || ('a' ≤ c.toLower && c.toLower ≤ 'f')) then
      some (ds.map Char.toLower)
    else none
  else none

def groupIdentifier (ds : List Char) : String :=
  let part (start count : Nat) : String := String.ofList ((ds.drop start).take count)
  part 0 8 ++ "-" ++ part 8 4 ++ "-" ++ part 12 4 ++ "-" ++ part 16 4 ++ "-" ++ part 20 12

def identifier? (v : Value) : Option String :=
  match v with
  | .text s =>
    let s := if Text.startsWith s "urn:uuid:" then Text.drop 9 s else s
    let inner := (s.toList.drop 1).dropLast
    let s := if s.toList.head? == some '\x7b' && s.toList.getLast? == some '\x7d' then
        String.ofList inner else s
    (identifierDigits? s).map groupIdentifier
  | _ => none

end CloudSpend.Form
