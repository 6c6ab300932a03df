import CloudSpend.Cost.Record

/-! # Comparisons and summaries -/

namespace CloudSpend.Cost

open Arithmetic

structure Period (δ : Type) where
  start : δ
  stop : δ
  deriving Repr, DecidableEq

namespace Period

variable {δ : Type} [Days δ]

def includes (p : Period δ) (d : δ) : Result Bool := do
  if ← Days.le p.start d then Days.lt d p.stop else return false

def length (p : Period δ) : Result Int := Days.daysTo p.start p.stop

end Period

inductive Direction where
  | increase | decrease | unchanged
  deriving Repr, DecidableEq

def Direction.name : Direction → String
  | .increase => "increase"
  | .decrease => "decrease"
  | .unchanged => "unchanged"

structure Change (κ α : Type) where
  service : κ
  current : α
  previous : α
  change : α
  changePart : α
  impact : α
  direction : Direction

structure Comparison (κ δ α : Type) where
  currentPeriod : Period δ
  currentTotal : α
  previousPeriod : Period δ
  previousTotal : α
  totalChange : α
  totalChangePart : α
  direction : Direction
  changes : List (Change κ α)

def topCount : Nat := 10

section

variable {κ δ α : Type} [BEq κ] [Days δ] [Arithmetic α]

abbrev Totals (κ α : Type) := List (κ × α)

def Totals.add (t : Totals κ α) (service : κ) (amount : α) : Result (Totals κ α) :=
  accumulate nought t service amount

def Totals.sum (t : Totals κ α) : Result α := Arithmetic.sum (t.map (·.2))

def sideBySide (current previous : Totals κ α) : List (κ × α × α) :=
  current.map (fun t => (t.1, t.2, (Entries.get? previous t.1).getD zero))
    ++ (previous.filter fun t => !Entries.has current t.1).map
      fun t => (t.1, zero, t.2)

def Direction.ofChange (change : α) : Result Direction := do
  return if ← gt change zero then .increase else .decrease

def Direction.ofTotal (change : α) : Result Direction := do
  if ← gt change zero then return .increase
  if ← lt change zero then return .decrease
  return .unchanged

def Change.ofTotals? (totalChange : α) (service : κ) (curr prev : α) :
    Result (Option (Change κ α)) := do
  let change ← sub curr prev
  if ← lt (← abs change) (ofDecimal 1 2) then return none
  let part ←
    if ← gt prev zero then div change prev
    else if ← gt curr zero then pure (ofDecimal 1 0)
    else pure zero
  let impact ←
    if ← gt (← abs totalChange) (ofDecimal 1 2) then
      div change totalChange
    else pure zero
  return some {
    service := service
    current := ← round curr 2
    previous := ← round prev 2
    change := ← round change 2
    changePart := ← round part 4
    impact := ← round (← abs impact) 4
    direction := ← Direction.ofChange change }

def Change.list (totalChange : α) : List (κ × α × α) → Result (List (Change κ α))
  | [] => .ok []
  | (service, curr, prev) :: rest => do
    let c ← Change.ofTotals? totalChange service curr prev
    let cs ← Change.list totalChange rest
    return c.toList ++ cs

def Change.precedes (name : κ → String) (a b : Change κ α) : Bool :=
  match abs a.change, abs b.change with
  | .ok x, .ok y => match gt x y, gt y x with
    | .ok true, _ => true
    | _, .ok true => false
    | _, _ => !(name b.service < name a.service)
  | _, _ => true

def Comparison.ofTotals (name : κ → String) (currentPeriod previousPeriod : Period δ)
    (current previous : Totals κ α) : Result (Comparison κ δ α) := do
  let currentTotal ← current.sum
  let previousTotal ← previous.sum
  let totalChange ← sub currentTotal previousTotal
  let part ←
    if ← gt previousTotal zero then div totalChange previousTotal
    else pure zero
  let changes ← Change.list totalChange (sideBySide current previous)
  return {
    currentPeriod := currentPeriod
    currentTotal := ← round currentTotal 2
    previousPeriod := previousPeriod
    previousTotal := ← round previousTotal 2
    totalChange := ← round totalChange 2
    totalChangePart := ← round part 4
    direction := ← Direction.ofTotal totalChange
    changes := changes.mergeSort (Change.precedes name) }

def splitRecord (key : κ → Result κ) (currentPeriod previousPeriod : Period δ)
    (totals : Totals κ α × Totals κ α) (r : Record κ δ α) : Result (Totals κ α × Totals κ α) := do
  if ← currentPeriod.includes r.day then
    return (← totals.1.add (← key r.service) r.amount, totals.2)
  if ← previousPeriod.includes r.day then
    return (totals.1, ← totals.2.add (← key r.service) r.amount)
  return totals

def Comparison.stored {ρ : Type} (name : κ → String) (key : κ → Result κ)
    (read : ρ → Result (Record κ δ α)) (currentPeriod previousPeriod : Period δ) (rows : List ρ) :
    Result (Comparison κ δ α) := do
  let (current, previous) ← rows.foldlM (fun totals row => do
    splitRecord key currentPeriod previousPeriod totals (← read row)) ([], [])
  Comparison.ofTotals name currentPeriod previousPeriod current previous

def Comparison.ofRecords (name : κ → String) (currentPeriod previousPeriod : Period δ)
    (rs : List (Record κ δ α)) : Result (Comparison κ δ α) :=
  Comparison.stored name .ok .ok currentPeriod previousPeriod rs

def Totals.ofRecords (rs : List (Record κ δ α)) : Result (Totals κ α) :=
  rs.foldlM (fun t r => t.add r.service r.amount) []

def Comparison.live {m : Type → Type} [Monad m] [MonadLiftT Result m] {ρ : Type}
    (name : κ → String) (totals : ρ → Result (Totals κ α)) (fetch : Period δ → m ρ)
    (currentPeriod previousPeriod : Period δ) : m (Comparison κ δ α) := do
  let currentCosts ← fetch currentPeriod
  let previousCosts ← fetch previousPeriod
  let current ← liftM (totals currentCosts)
  let previous ← liftM (totals previousCosts)
  liftM (Comparison.ofTotals name currentPeriod previousPeriod current previous : Result _)

namespace Comparison

def increases (c : Comparison κ δ α) : List (Change κ α) :=
  c.changes.filter fun x => x.direction == .increase

def decreases (c : Comparison κ δ α) : List (Change κ α) :=
  c.changes.filter fun x => x.direction == .decrease

def isPositive (x : α) : Bool :=
  match gt x (zero : α) with
  | .ok b => b
  | .error _ => false

def added (c : Comparison κ δ α) : List (Change κ α) :=
  c.changes.filter fun x => same x.previous zero && isPositive x.current

def removed (c : Comparison κ δ α) : List (Change κ α) :=
  c.changes.filter fun x => same x.current zero && isPositive x.previous

end Comparison

end

namespace Period

variable {δ : Type} [Days δ]

def previous (current : Period δ) (start stop : Option δ) : Result (Period δ) := do
  let length ← Span.ofDays (← current.length)
  match start, stop with
  | none, _ => return ⟨← Days.before current.start length, current.start⟩
  | some s, none => return ⟨s, ← Days.after s length⟩
  | some s, some e => return ⟨s, e⟩

def daily (target : δ) : Result (Period δ × Period δ) := do
  let day ← Span.ofDays 1
  let next ← Days.after target day
  let before ← Days.before target day
  return (⟨target, next⟩, ⟨before, target⟩)

def weekly (stop : δ) : Result (Period δ × Period δ) := do
  let week ← Span.ofDays 7
  let start ← Days.before stop week
  let before ← Days.before start week
  return (⟨start, stop⟩, ⟨before, start⟩)

end Period

def Comparison.ofRows (currentPeriod previousPeriod : Period Value) (rows : Value) :
    Result (Comparison Value Value Value) := do
  Comparison.stored Value.display Value.asKey Record.readCells currentPeriod previousPeriod
    (← rows.items)

def Totals.ofRows (rows : Value) : Result (Totals Value Value) := do
  (← rows.items).foldlM (fun t row => do
    let service ← (← row.field "service").asKey
    t.add service (← row.field "amount")) []

def Comparison.liveRows {m : Type → Type} [Monad m] [MonadLiftT Result m]
    (fetch : Period Value → m Value) (currentPeriod previousPeriod : Period Value) :
    m (Comparison Value Value Value) :=
  Comparison.live Value.display Totals.ofRows fetch currentPeriod previousPeriod

def Change.toValue (c : Change Value Value) : Value :=
  .object [("service", c.service), ("current_amount", c.current), ("previous_amount", c.previous),
    ("change", c.change), ("change_pct", c.changePart), ("impact_pct", c.impact),
    ("direction", .text c.direction.name)]

def Period.toValue {δ : Type} [Days δ] (p : Period δ) (total : Value) : Result Value := do
  return .object [("start", .text (← Days.text p.start)), ("end", .text (← Days.text p.stop)),
    ("total", total)]

def Comparison.toValue {δ : Type} [Days δ] (c : Comparison Value δ Value) : Result Value := do
  let list (cs : List (Change Value Value)) : Value := .list (cs.map Change.toValue)
  return .object [("current_period", ← c.currentPeriod.toValue c.currentTotal),
    ("previous_period", ← c.previousPeriod.toValue c.previousTotal),
    ("total_change", c.totalChange), ("total_change_pct", c.totalChangePart),
    ("direction", .text c.direction.name), ("service_changes", list c.changes),
    ("top_increases", list (c.increases.take topCount)),
    ("top_decreases", list (c.decreases.take topCount)),
    ("new_services", list c.added), ("removed_services", list c.removed)]

end CloudSpend.Cost

/-! ## Summaries -/

namespace CloudSpend.Cost

open Arithmetic

structure Summary (κ δ α : Type) where
  services : Totals κ α
  days : List (δ × α)

section

variable {κ δ α : Type} [BEq κ] [Days δ] [Arithmetic α]

def enter {ι : Type} [BEq ι] (totals : List (ι × α)) (key : ι) (amount : α) :
    Result (List (ι × α)) := do
  let totals := if Entries.has totals key then totals else Entries.put totals key zero
  return Entries.put totals key (← add ((Entries.get? totals key).getD zero) amount)

def Totals.ranked (t : Totals κ α) : Totals κ α := descending (·.2) t

def cents {ι : Type} (totals : List (ι × α)) : Result (List (ι × α)) :=
  totals.mapM fun t => do return (t.1, ← round t.2 2)

def percentage (part whole : α) : Result α := do
  if ← gt whole zero then
    round (← mul (← div part whole) (ofInt 100)) 1
  else return zero

namespace Summary

def entered (rs : List (Record κ δ α)) : Result (Summary κ δ α) :=
  rs.foldlM (fun s r => do
    let services ← enter s.services r.service r.amount
    return ⟨services, ← enter s.days r.day r.amount⟩) ⟨[], []⟩

def added (rs : List (Record κ δ α)) : Result (Summary κ δ α) :=
  rs.foldlM (fun s r => do
    let services ← accumulate zero s.services r.service r.amount
    return ⟨services, ← accumulate zero s.days r.day r.amount⟩) ⟨[], []⟩

end Summary

end

end CloudSpend.Cost
