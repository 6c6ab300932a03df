import CloudSpend.Api.Service
import CloudSpend.Aws.CostExplorer
import CloudSpend.Cost.Anomaly
import CloudSpend.Store.Costs

/-! # Taking over costs from AWS -/

namespace CloudSpend.Task

open Handler
open Store (cell textCell holds)

def findOrMake (t : Store.Table) (column : String) (v : Value) (cells : Row) :
    Handler (Row × Bool) := do
  match ← findText? t column v with
  | some row => return (row, false)
  | none => return (← insert t ((column, v) :: cells), true)

def localUser : Handler (Row × Bool) :=
  findOrMake .users "email" "dev@cloudpulse.local"
    [("hashed_password", "not-a-real-hash-local-dev-only"), ("is_active", true)]

def localAccount (number : Value) (user : Row) : Handler (Row × Bool) :=
  findOrMake .awsAccounts "aws_account_id" number
    [("user_id", cell user "id"),
     ("role_arn", .text ("arn:aws:iam::" ++ number.display ++ ":user/local")),
     ("external_id", "local-dev"), ("account_name", "Local Dev Account"), ("status", "active")]

def readDate (v : Value) : Result Date :=
  match v with
  | .text s => (Date.read s).mapError (Fault.notDate s)
  | _ => .error (.wrongKind "fromisoformat: argument must be str")

def recordCells (account : Row) (line : Value) : Result Row := do
  return [("aws_account_id", cell account "id"), ("date", .date (← readDate (← line.field "date"))),
    ("service", ← (← line.field "service").asKey), ("amount", ← line.field "amount"),
    ("currency", ← line.field "currency")]

def replaceCosts (account : Row) (first last : Date) (lines : List Value) : Handler Unit := do
  clear .costRecords fun row =>
    Store.ofAccount (cell account "id") row && Store.dated (Store.within first last) row
  for cells in ← liftM (lines.mapM (recordCells account)) do
    discard (insert .costRecords cells)

def anomalyCells (account : Row) (a : Cost.Anomaly Value Value Value) : Row :=
  [("aws_account_id", cell account "id"), ("date", a.day), ("service", a.service),
   ("expected_amount", a.expected), ("actual_amount", a.actual), ("deviation_pct", a.deviation),
   ("severity", .text a.severity.name)]

def replaceAnomalies (account : Row) (found : List (Cost.Anomaly Value Value Value)) : Handler Unit := do
  match found with
  | [] => pure ()
  | a :: _ => clear .anomalies fun row =>
    Store.ofAccount (cell account "id") row && Store.dated (fun d => Value.date d == a.day) row
  for a in found do discard (insert .anomalies (anomalyCells account a))

def padStart (width : Nat) (s : String) : String :=
  String.ofList (List.replicate (width - s.length) ' ') ++ s

def padEnd (width : Nat) (s : String) : String :=
  s ++ String.ofList (List.replicate (width - s.length) ' ')

def anomalyReport (a : Cost.Anomaly Value Value Value) : Result String := do
  let service ← a.service.take 40
  return "   " ++ padStart 8 a.severity.name.toUpper ++ " | " ++ padEnd 40 service.display
    ++ " | expected $" ++ (← a.expected.places 2) ++ " → actual $" ++ (← a.actual.places 2)
    ++ " (+" ++ (← (← a.deviation.mul (.int 100)).places 0) ++ "%)"

def anomalyReports (found : List (Cost.Anomaly Value Value Value)) : Result (List String) := do
  if found.isEmpty then return []
  return ["", "   Anomaly details:"] ++ (← found.mapM anomalyReport)

def fetchedTotal (lines : List Value) : Result Value := do
  Arithmetic.sum (← lines.mapM fun l => l.field "amount")

def serviceCount (lines : List Value) : Result Nat := do
  return (← lines.mapM fun l => l.field "service").eraseDups.length

structure Taken where
  number : Value
  user : Row × Bool
  account : Row × Bool
  first : Date
  last : Date
  lines : List Value
  found : List (Cost.Anomaly Value Value Value)

def fetchLines (first last : Date) : Run (List Value) := do
  let access := Aws.Access.usual "us-east-1"
  Aws.CostExplorer.start access
  Aws.CostExplorer.byService access ⟨.date first, .date last⟩ "DAILY"

def takeOver : Handler Taken := do
  let identity ← liftM (Run.aws "sts" "get_caller_identity" .null [])
  let number ← liftM (identity.field "Account")
  let user ← localUser
  let account ← localAccount number user.1
  let last ← today
  let first ← liftM (last.before 30 : Result Date)
  let lines ← liftM (fetchLines first last)
  replaceCosts account.1 first last lines
  let found ← liftM (Cost.Detector.default.detectRows last .null (.list lines))
  replaceAnomalies account.1 found
  discard (update .awsAccounts account.1 [("last_sync_at", .timestamp (← now))])
  return { number, user, account, first, last, lines, found }

def Taken.report (t : Taken) : Result String := do
  let userId := textCell t.user.1 "id"
  let accountId := textCell t.account.1 "id"
  let total ← (← fetchedTotal t.lines).places 2
  let services ← serviceCount t.lines
  let details ← anomalyReports t.found
  return "\n".intercalate ([
    "🔗 AWS Account: " ++ t.number.display,
    (if t.user.2 then "👤 Created dev user: " else "👤 Using existing dev user: ") ++ userId,
    (if t.account.2 then "☁️  Created account record: " else "☁️  Using existing account: ")
      ++ accountId,
    "📊 Fetching costs from " ++ t.first.text ++ " to " ++ t.last.text ++ "...",
    "   Found " ++ toString t.lines.length ++ " cost records",
    "🔍 Running anomaly detection...",
    "",
    "✅ Sync complete!",
    "   📅 Period: " ++ t.first.text ++ " → " ++ t.last.text,
    "   💰 Total spend: $" ++ total,
    "   🏷️  Services: " ++ toString services,
    "   📝 Cost records stored: " ++ toString t.lines.length,
    "   ⚠️  Anomalies detected: " ++ toString t.found.length] ++ details ++ [
    "",
    "   Account ID (for API queries): " ++ accountId,
    ""])

def syncLocal (s : Service) : Result String × Service :=
  let r := s.transact takeOver
  (r.1.bind Taken.report, r.2)

end CloudSpend.Task
