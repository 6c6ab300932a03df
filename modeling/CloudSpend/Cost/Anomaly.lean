import CloudSpend.Cost.Record

/-! # Anomalies -/

namespace CloudSpend.Cost

open Arithmetic Entries

inductive Severity where
  | info | warning | critical
  deriving Repr, DecidableEq

def Severity.name : Severity → String
  | .info => "info"
  | .warning => "warning"
  | .critical => "critical"

def leastHistory : Nat := 3

structure Detector (α : Type) where
  info : α
  warning : α
  critical : α
  lookback : Value
  minimum : α

structure Anomaly (κ δ α : Type) where
  day : δ
  service : κ
  expected : α
  actual : α
  deviation : α
  severity : Severity

abbrev History (κ δ α : Type) := List (κ × List (δ × α))

section

variable {κ δ α : Type} [BEq κ] [Days δ] [Arithmetic α]

def History.add (h : History κ δ α) (r : Record κ δ α) : Result (History κ δ α) :=
  (accumulate nought ((get? h r.service).getD []) r.day r.amount).map
    (put h r.service)

def History.ofRecords (rs : List (Record κ δ α)) : Result (History κ δ α) :=
  rs.foldlM History.add []

namespace Detector

def classify (d : Detector α) (deviation : α) : Result (Option Severity) := do
  if ← ge deviation d.critical then return some .critical
  if ← ge deviation d.warning then return some .warning
  if ← ge deviation d.info then return some .info
  return none

def lookbackCount (d : Detector α) : Result Nat :=
  match d.lookback.int? with
  | some n => .ok n.toNat
  | none => .error (.wrongKind ("'" ++ d.lookback.kind.name
      ++ "' object cannot be interpreted as an integer"))

def amountBefore (target : δ) (days : List (δ × α)) (offset : Nat) : Result (Option α) := do
  return get? days (← Days.before target (← Span.ofDays offset))

def lookbackAmounts (d : Detector α) (target : δ) (days : List (δ × α)) : Result (List α) := do
  let found ← (List.range (← d.lookbackCount)).mapM fun i => amountBefore target days (i + 1)
  return found.filterMap id

def weigh (d : Detector α) (target : δ) (service : κ) (amount : α) (before : List α) :
    Result (Option (Anomaly κ δ α)) := do
  let average ← mean before
  if ← lt average (ofDecimal 1 2) then return none
  let deviation ← div (← sub amount average) average
  match ← d.classify deviation with
  | none => return none
  | some severity => return some {
      day := target
      service := service
      expected := ← round average 2
      actual := ← round amount 2
      deviation := ← round deviation 4
      severity := severity }

def assess (d : Detector α) (target : δ) (service : κ) (days : List (δ × α)) :
    Result (Option (Anomaly κ δ α)) := do
  let amount := (get? days target).getD zero
  if ← lt amount d.minimum then return none
  let before ← d.lookbackAmounts target days
  if before.length < leastHistory then return none
  d.weigh target service amount before

def assessAll (d : Detector α) (target : δ) : History κ δ α → Result (List (Anomaly κ δ α))
  | [] => .ok []
  | (service, days) :: rest => do
    let a ← d.assess target service days
    let as ← d.assessAll target rest
    return a.toList ++ as

def ofSeverity (s : Severity) (as : List (Anomaly κ δ α)) : List (Anomaly κ δ α) :=
  as.filter fun a => a.severity == s

def ranked (as : List (Anomaly κ δ α)) : List (Anomaly κ δ α) :=
  ofSeverity .critical as ++ ofSeverity .warning as ++ ofSeverity .info as

def inHistory (d : Detector α) (target : δ) (h : History κ δ α) :
    Result (List (Anomaly κ δ α)) :=
  (d.assessAll target h).map ranked

def detectBy {ρ : Type} (read : ρ → Result (Record κ δ α)) (d : Detector α) (target : δ)
    (rows : List ρ) : Result (List (Anomaly κ δ α)) := do
  let _ ← Days.before target (← Span.ofNumber d.lookback)
  d.inHistory target (← rows.foldlM (fun h row => do History.add h (← read row)) [])

end Detector

end

namespace Detector

def default : Detector Value where
  info := .float 0.25
  warning := .float 0.5
  critical := .float 1.0
  lookback := .int 7
  minimum := .float 1.0

def settings : List String :=
  ["info_threshold", "warning_threshold", "critical_threshold", "lookback_days", "min_amount"]

def configure (config : Row) : Result (Detector Value) := do
  match config.find? fun e => !settings.contains e.1 with
  | some e => throw (.wrongKind ("unexpected setting " ++ Text.quoted e.1))
  | none => pure ()
  let threshold (key : String) (d : Value) : Value :=
    ((get? config key).getD .null).orElse d
  return {
    info := threshold "info_threshold" default.info
    warning := threshold "warning_threshold" default.warning
    critical := threshold "critical_threshold" default.critical
    lookback := (get? config "lookback_days").getD default.lookback
    minimum := (get? config "min_amount").getD default.minimum }

def detectRows (d : Detector Value) (today : Date) (target rows : Value) :
    Result (List (Anomaly Value Value Value)) := do
  let target ← target.orYesterday today
  let _ ← target.dayBefore (← Span.ofNumber d.lookback)
  d.detectBy Record.read target (← rows.items)

end Detector

def Anomaly.toRow (a : Anomaly Value Value Value) : Result Row := do
  return [("date", .text (← a.day.dayText)), ("service", a.service),
    ("expected_amount", a.expected), ("actual_amount", a.actual), ("deviation_pct", a.deviation),
    ("severity", .text a.severity.name)]

end CloudSpend.Cost
