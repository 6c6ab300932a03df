import CloudSpend.Api.Service
import CloudSpend.Cost.Budget
import CloudSpend.Notification.Message
import CloudSpend.Store.Costs

/-! # The daily digest -/

namespace CloudSpend.Task

open Store (cell textCell holds)

def activeAccounts (s : Store) : List Row := s.select .awsAccounts (holds "status" "active")

def digestAlerts (s : Store) : List Row :=
  s.select .alertConfigs fun row => (cell row "daily_summary").truthy

def alertsOf (s : Store) (account : Row) : List Row :=
  (digestAlerts s).filter (holds "user_id" (cell account "user_id"))

def dayServices (s : Store) (account : Row) (day : Date) : Result (List (Value × Value)) := do
  let records := Store.records (s.costs (cell account "id") (· == day))
  let totals ← Cost.Totals.ofRecords records
  let named := totals.mergeSort fun a b => !(b.1.display < a.1.display)
  Cost.cents ((Arithmetic.descending (·.2) named).map fun t => (t.1, Store.CellKind.number.normal t.2))

def anomalyCount (s : Store) (account : Row) (since : Date) : Nat :=
  (s.select .anomalies fun row => Store.ofAccount (cell account "id") row
    && Store.dated since.le row && !(cell row "acknowledged").truthy).length

def digestOf (s : Store) (account : Row) (day : Date) : Result Notification.Summary := do
  let services ← dayServices s account day
  return {
    account := (cell account "account_name").orElse (cell account "aws_account_id")
    total := ← Arithmetic.sum (services.map (·.2))
    services := .list (services.map fun t => .object [("service", t.1), ("amount", t.2)])
    anomalies := .int (anomalyCount s account day) }

def dueBudgets (s : Store) (account : Row) : Result (List Value) := do
  let budgets ← Store.Table.readable .budgets (s.select .budgets fun row =>
    Store.ofAccount (cell account "id") row && (cell row "is_active").truthy)
  return (← budgets.mapM fun b =>
    Cost.Budget.duePercent? (cell b "current_spend") (cell b "amount") (cell b "alert_at_pct")).filterMap id

def deliver (alert : Row) (digest : Notification.Summary) (day : Date) : Run Unit := do
  let address := cell alert "email_address"
  let channel := cell alert "slack_webhook_url"
  match textCell alert "channel" with
  | "email" =>
    if address.truthy then discard (Notification.Mail.sendSummary address digest (.date day))
  | "slack" => if channel.truthy then discard (Notification.Chat.sendSummary channel digest)
  | _ => pure ()

def sendDigestsOf (s : Store) (day : Date) (account : Row) : Run Unit := do
  let digest ← liftM (digestOf s account day)
  discard (liftM (dueBudgets s account))
  for alert in alertsOf s account do deliver alert digest day

def sendDigests : Handler Unit := do
  let day ← liftM ((← Handler.today).before 1)
  let s := (← getThe Service).store
  let accounts ← liftM (Store.Table.readable .awsAccounts (activeAccounts s))
  let alerts ← if accounts.isEmpty then pure []
    else liftM (Store.Table.readable .alertConfigs (digestAlerts s))
  if !alerts.isEmpty then
    for account in accounts do liftM (sendDigestsOf s day account)

end CloudSpend.Task
