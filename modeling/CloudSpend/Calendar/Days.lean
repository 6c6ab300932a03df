import CloudSpend.Data.Arithmetic

/-! # Days -/

namespace CloudSpend.Date

def monthPart? : List Char → Option (Nat × List Char)
  | '1' :: c :: rest =>
    if c == '0' || c == '1' || c == '2' then some (10 + (c.toNat - 48), rest)
    else some (1, c :: rest)
  | '0' :: c :: rest => if '1' ≤ c && c ≤ '9' then some (c.toNat - 48, rest) else none
  | c :: rest => if '1' ≤ c && c ≤ '9' then some (c.toNat - 48, rest) else none
  | [] => none

def dayPart? : List Char → Option (Nat × List Char)
  | [] => none
  | '3' :: c :: rest =>
    if c == '0' || c == '1' then some (30 + (c.toNat - 48), rest) else some (3, c :: rest)
  | '0' :: c :: rest => if '1' ≤ c && c ≤ '9' then some (c.toNat - 48, rest) else none
  | ' ' :: c :: rest => if '1' ≤ c && c ≤ '9' then some (c.toNat - 48, rest) else none
  | t :: rest =>
    if t == '1' || t == '2' then
      match rest with
      | c :: tail => match Text.decimalValue? c with
        | some n => some (10 * (t.toNat - 48) + n, tail)
        | none => some (t.toNat - 48, rest)
      | [] => some (t.toNat - 48, [])
    else if '3' ≤ t && t ≤ '9' then some (t.toNat - 48, rest)
    else none

def dayParts? (cs : List Char) : Option (Nat × Nat × Nat × List Char) := do
  let year ← (cs.take 4).mapM Text.decimalValue?
  if year.length != 4 then none
  match cs.drop 4 with
  | '-' :: rest =>
    let (month, rest) ← monthPart? rest
    match rest with
    | '-' :: rest =>
      let (day, rest) ← dayPart? rest
      some (year.foldl (fun n d => 10 * n + d) 0, month, day, rest)
    | _ => none
  | _ => none

def readDay (s : String) : Result Date :=
  match dayParts? s.toList with
  | none => .error (.refused ("time data " ++ Text.quoted s ++ " does not match format '%Y-%m-%d'"))
  | some (year, month, day, rest) =>
    if rest.isEmpty then (ofParts year month day).mapError (Fault.notDate s)
    else .error (.refused ("unconverted data remains: " ++ String.ofList rest))

end CloudSpend.Date

/-! ## Moving by days -/

namespace CloudSpend

structure Span where
  micros : Int
  deriving Repr, DecidableEq

namespace Span

def dayMicros : Int := 86400000000

def days (s : Span) : Int := Int.fdiv s.micros dayMicros

def ofMicros (n : Int) : Result Span :=
  let days := (Span.mk n).days
  if days < -2147483648 || 2147483647 < days then .error .spanOverflow
  else if days < -999999999 || 999999999 < days then .error (.spanTooLong days)
  else .ok ⟨n⟩

def ofDays (n : Int) : Result Span := ofMicros (n * dayMicros)

def fraction (x : Float) : Float := if x < 0 then x - x.ceil else x - x.floor

def ofNumber (days : Value) : Result Span :=
  match days with
  | .float x => do
    let whole ← (Value.float x).toInt
    let rest ← match Numeral.toNearestInt (fraction x * 86400000000) with
      | .ok n => pure n
      | .error _ => pure 0
    ofMicros (whole * dayMicros + rest)
  | v => match v.int? with
    | some n => ofDays n
    | none => .error (.wrongKind ("unsupported type for timedelta days component: " ++ v.kind.name))

end Span

namespace Date

def moved (d : Date) (n : Int) : Result Date :=
  match d.addDays? n with
  | some e => .ok e
  | none => .error .dateOutOfRange

def after (d : Date) (days : Int) : Result Date := do d.moved (← Span.ofDays days).days

def before (d : Date) (days : Int) : Result Date := do d.moved (-(← Span.ofDays days).days)

end Date

def Timestamp.moved (t : Timestamp) (n : Int) : Result Timestamp :=
  let m := t.localMicros + n
  if m < Span.dayMicros || (Date.maxOrdinal + 1) * Span.dayMicros ≤ m then .error .dateOutOfRange
  else .ok (Timestamp.ofLocalMicros m t.offset)

/-! ## Days of an analysis -/

namespace Value

instance : Coe Date Value := ⟨.date⟩

def dayText (v : Value) : Result String :=
  match v with
  | .date d => .ok d.text
  | .timestamp t => .ok t.text
  | v => .error (.noAttribute v.kind "isoformat")

def calendarDay (v : Value) (name : String) : Result Date :=
  match v with
  | .date d => .ok d
  | .timestamp t => .ok t.date
  | v => .error (.noAttribute v.kind name)

def clockSeconds (v : Value) : Result Int :=
  match v with
  | .date d => .ok d.epochSeconds
  | .timestamp t => .ok { t with offset := none : Timestamp }.epochSeconds
  | v => .error (.noAttribute v.kind "strftime")

def dayAfter (v : Value) (s : Span) : Result Value :=
  match v with
  | .date d => (d.moved s.days).map .date
  | .timestamp t => (t.moved s.micros).map .timestamp
  | v => .error (.wrongKind ("a span cannot be added to a value of kind " ++ v.kind.name))

def dayBefore (v : Value) (s : Span) : Result Value :=
  match v with
  | .date d => (d.moved (-s.days)).map .date
  | .timestamp t => (t.moved (-s.micros)).map .timestamp
  | v => .error (.wrongKind ("a span cannot be taken from a value of kind " ++ v.kind.name))

def present? (v : Value) : Option Value := if v.truthy then some v else none

def orYesterday (v : Value) (today : Date) : Result Value :=
  if v.truthy then .ok v else (today.before 1).map .date

def daysTo (v w : Value) : Result Int :=
  match v, w with
  | .date d, .date e => .ok (d.daysTo e)
  | .timestamp t, .timestamp u =>
    if t.offset.isSome != u.offset.isSome then
      .error (.wrongKind "can't subtract offset-naive and offset-aware datetimes")
    else .ok (t.wholeDaysTo u)
  | v, w => do
    let difference ← w.sub v
    throw (.noAttribute difference.kind "days")

end Value

class Days (δ : Type) extends BEq δ where
  le : δ → δ → Result Bool
  lt : δ → δ → Result Bool
  after : δ → Span → Result δ
  before : δ → Span → Result δ
  daysTo : δ → δ → Result Int
  text : δ → Result String

instance : Days Date where
  le d e := .ok (d.le e)
  lt d e := .ok (d.lt e)
  after d s := d.moved s.days
  before d s := d.moved (-s.days)
  daysTo d e := .ok (d.daysTo e)
  text d := .ok d.text

instance : Days Value where
  le := Value.le
  lt := Value.lt
  after := Value.dayAfter
  before := Value.dayBefore
  daysTo := Value.daysTo
  text := Value.dayText

end CloudSpend
