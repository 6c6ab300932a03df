import CloudSpend.Numeral.Binary

/-! # Dates and points in time -/

namespace CloudSpend

open Numeral

structure Date where
  year : Nat
  month : Nat
  day : Nat
  deriving Repr, DecidableEq, Inhabited

namespace Date

def isLeap (year : Nat) : Bool := year % 4 == 0 && (year % 100 != 0 || year % 400 == 0)

def daysInMonth (year month : Nat) : Nat :=
  if month == 2 then (if isLeap year then 29 else 28)
  else if month == 4 || month == 6 || month == 9 || month == 11 then 30
  else 31

def daysBeforeMonth (year month : Nat) : Nat :=
  ((List.range (month - 1)).map fun m => daysInMonth year (m + 1)).foldl (· + ·) 0

def daysBeforeYear (year : Nat) : Nat :=
  let y := year - 1
  y * 365 + y / 4 - y / 100 + y / 400

def ordinal (d : Date) : Nat :=
  daysBeforeYear d.year + daysBeforeMonth d.year d.month + d.day

def maxOrdinal : Nat := 3652059

def monthAndDay (year : Nat) : Nat → Nat → Nat → Nat × Nat
  | 0, month, n => (month, n + 1)
  | fuel + 1, month, n =>
    if n < daysInMonth year month then (month, n + 1)
    else monthAndDay year fuel (month + 1) (n - daysInMonth year month)

def ofOrdinal (n : Nat) : Date :=
  let n := n - 1
  let n400 := n / 146097
  let r := n % 146097
  let n100 := min (r / 36524) 3
  let r := r - n100 * 36524
  let n4 := r / 1461
  let r := r % 1461
  let n1 := min (r / 365) 3
  let r := r - n1 * 365
  let year := n400 * 400 + n100 * 100 + n4 * 4 + n1 + 1
  let (month, day) := monthAndDay year 11 1 r
  ⟨year, month, day⟩

def addDays? (d : Date) (n : Int) : Option Date :=
  let k := (d.ordinal : Int) + n
  if 1 ≤ k && k ≤ maxOrdinal then some (ofOrdinal k.toNat) else none

def daysTo (d e : Date) : Int := (e.ordinal : Int) - d.ordinal

def lt (d e : Date) : Bool :=
  d.year < e.year || (d.year == e.year && (d.month < e.month || (d.month == e.month && d.day < e.day)))

def le (d e : Date) : Bool := !e.lt d

def firstOfMonth (d : Date) : Date := ⟨d.year, d.month, 1⟩

def firstOfNextMonth (d : Date) : Date :=
  if d.month == 12 then ⟨d.year + 1, 1, 1⟩ else ⟨d.year, d.month + 1, 1⟩

def text (d : Date) : String :=
  String.ofList (padded 4 d.year ++ ['-'] ++ padded 2 d.month ++ ['-']
    ++ padded 2 d.day)

def monthText (d : Date) : String :=
  String.ofList (padded 1 d.year ++ ['-'] ++ padded 2 d.month)

def looseText (d : Date) : String :=
  d.monthText ++ "-" ++ String.ofList (padded 2 d.day)

def epochSeconds (d : Date) : Int := ((d.ordinal : Int) - 719163) * 86400

inductive Malformed where
  | shape
  | year (n : Nat)
  | month
  | day
  deriving Repr, DecidableEq

def ofParts (year month day : Nat) : Except Malformed Date :=
  if year < 1 || 9999 < year then .error (.year year)
  else if month < 1 || 12 < month then .error .month
  else if day < 1 || daysInMonth year month < day then .error .day
  else .ok ⟨year, month, day⟩

def digits? : Nat → List Char → Option (Nat × List Char)
  | n, cs =>
    let ds := cs.take n
    if ds.length == n && ds.all Char.isDigit then
      some (ds.foldl (fun v c => 10 * v + (c.toNat - 48)) 0, cs.drop n)
    else none

def weekOneMonday (year : Nat) : Int :=
  let first := daysBeforeYear year + 1
  let w := (first + 6) % 7
  let monday : Int := first - w
  if 3 < w then monday + 7 else monday

def hasWeek53 (year : Nat) : Bool :=
  let w := (daysBeforeYear year + 1 + 6) % 7
  w == 3 || (w == 2 && isLeap year)

def ofWeek (year week weekday : Nat) : Except Malformed Date :=
  if week < 1 || 53 < week || (week == 53 && !hasWeek53 year) then .error .shape
  else if weekday < 1 || 7 < weekday then .error .shape
  else if year < 1 then .error .month
  else
    let n := weekOneMonday year + (week - 1) * 7 + (weekday - 1)
    let d := ofOrdinal n.toNat
    ofParts d.year d.month d.day

def readAfterYear (year : Nat) (separated : Bool) (cs : List Char) : Except Malformed Date :=
  match cs with
  | 'W' :: rest =>
    match digits? 2 rest with
    | none => .error .shape
    | some (week, []) => ofWeek year week 1
    | some (week, tail) =>
      let tail := if separated then (match tail with | '-' :: t => some t | _ => none) else some tail
      match tail.bind (digits? 1) with
      | some (day, _) => ofWeek year week day
      | none => .error .shape
  | _ =>
    match digits? 2 cs with
    | none => .error .shape
    | some (month, tail) =>
      let tail := if separated then (match tail with | '-' :: t => some t | _ => none) else some tail
      match tail.bind (digits? 2) with
      | some (day, []) => ofParts year month day
      | _ => .error .shape

def read (s : String) : Except Malformed Date :=
  let size := s.utf8ByteSize
  if size == 7 || size == 8 || size == 10 then
    match digits? 4 s.toList with
    | none => .error .shape
    | some (year, '-' :: rest) => readAfterYear year true rest
    | some (year, rest) => readAfterYear year false rest
  else .error .shape

end Date

/-! ## Points in time -/

structure Timestamp where
  date : Date
  hour : Nat := 0
  minute : Nat := 0
  second : Nat := 0
  micro : Nat := 0
  offset : Option Int := none
  deriving Repr, DecidableEq, Inhabited

namespace Timestamp

def localMicros (t : Timestamp) : Int :=
  (((t.date.ordinal * 24 + t.hour) * 60 + t.minute) * 60 + t.second) * 1000000 + t.micro

def micros (t : Timestamp) : Int := t.localMicros - t.offset.getD 0 * 1000000

def ofLocalMicros (n : Int) (offset : Option Int) : Timestamp :=
  let k := n.toNat
  let s := k / 1000000
  let m := s / 60
  let h := m / 60
  ⟨Date.ofOrdinal (h / 24), h % 24, m % 60, s % 60, k % 1000000, offset⟩

def addSeconds (t : Timestamp) (n : Int) : Timestamp :=
  ofLocalMicros (t.localMicros + n * 1000000) t.offset

def utc (t : Timestamp) : Timestamp := { t with offset := some 0 }

def wholeDaysTo (t u : Timestamp) : Int := Int.fdiv (u.micros - t.micros) 86400000000

def epochSeconds (t : Timestamp) : Int :=
  Int.fdiv t.micros 1000000 - 719163 * 86400

def offsetText (seconds : Int) : String :=
  let n := seconds.natAbs
  let tail := if n % 60 == 0 then [] else ':' :: padded 2 (n % 60)
  String.ofList ([if seconds < 0 then '-' else '+'] ++ padded 2 (n / 3600) ++ [':']
    ++ padded 2 (n / 60 % 60) ++ tail)

def clockText (t : Timestamp) : String :=
  String.ofList (padded 2 t.hour ++ [':'] ++ padded 2 t.minute ++ [':']
    ++ padded 2 t.second ++ (if t.micro == 0 then [] else '.' :: padded 6 t.micro))
    ++ (t.offset.map offsetText).getD ""

def text (t : Timestamp) : String := t.date.text ++ "T" ++ t.clockText

def spacedText (t : Timestamp) : String := t.date.text ++ " " ++ t.clockText

def readOffset? : List Char → Option (Option Int)
  | [] => some none
  | ['Z'] => some (some 0)
  | c :: rest => do
    let sign : Int ← if c == '+' then some 1 else if c == '-' then some (-1) else none
    let (h, rest) ← Date.digits? 2 rest
    match rest with
    | ':' :: rest =>
      let (m, rest) ← Date.digits? 2 rest
      match rest with
      | [] => some (some (sign * ((h * 60 + m) * 60 : Nat)))
      | ':' :: rest =>
        let (s, rest) ← Date.digits? 2 rest
        if rest.isEmpty then some (some (sign * ((h * 60 + m) * 60 + s : Nat))) else none
      | _ => none
    | _ => none

def readFraction (cs : List Char) : Nat × List Char :=
  match cs with
  | '.' :: rest =>
    let ds := rest.takeWhile Char.isDigit
    let six := (ds ++ List.replicate 6 '0').take 6
    (six.foldl (fun v c => 10 * v + (c.toNat - 48)) 0, rest.dropWhile Char.isDigit)
  | cs => (0, cs)

def read? (s : String) : Option Timestamp := do
  let date ← (Date.read (String.ofList (s.toList.take 10))).toOption
  match s.toList.drop 10 with
  | [] => some { date }
  | sep :: rest =>
    guard (sep == 'T' || sep == ' ')
    let (hour, rest) ← Date.digits? 2 rest
    let rest ← match rest with | ':' :: r => some r | _ => none
    let (minute, rest) ← Date.digits? 2 rest
    let rest ← match rest with | ':' :: r => some r | _ => none
    let (second, rest) ← Date.digits? 2 rest
    let (micro, rest) := readFraction rest
    let offset ← readOffset? rest
    guard (hour < 24 && minute < 60 && second < 60)
    some { date, hour, minute, second, micro, offset }

end Timestamp

end CloudSpend
