import CloudSpend.Api.Account
import CloudSpend.Api.Resources
import CloudSpend.Cost.Budget

/-! # Budgets and alerts -/

namespace CloudSpend.Api

open Handler
open Store (cell textCell)
open Form (required withDefault maybe)

def budgetShown : List Shown :=
  [.plain "id" .identifier, .plain "aws_account_id" .identifier, .text "name",
   shownNumber "amount", .text "period", .text? "service_filter", shownNumber "alert_at_pct",
   .plain "is_active" .bool, shownNumber "current_spend",
   .plain "last_checked_at" (.optional .timestamp), .created]

def limitShape : Form.Shape := .number { above := some 0 }

def alertShape : Form.Shape := .number { least := some 0.01, most := some 1 }

def periodWord : Form.Shape := .word Store.budgetPeriods.members

def createdMicros (row : Row) : Int :=
  match cell row "created_at" with
  | .timestamp t => t.micros
  | _ => 0

def newestFirst (rows : List Row) : List Row :=
  rows.mergeSort fun a b => createdMicros b ≤ createdMicros a

def listBudgets : Endpoint where
  method := "GET"
  path := "/api/v1/accounts/:id/budgets"
  run c := do
    let rows ← select .budgets (Store.ofAccount (.text c.param))
    return .list (← (newestFirst rows).mapM (describe budgetShown))

def addBudget : Endpoint where
  method := "POST"
  path := "/api/v1/accounts/:id/budgets"
  body := some (.record [required "name" titleShape, required "amount" limitShape,
    withDefault "period" periodWord "monthly", maybe "service_filter" .anyText,
    withDefault "alert_at_pct" alertShape (.float 0.8)])
  status := 201
  run c := do
    let account ← accountOf c
    describe budgetShown (← insert .budgets (("aws_account_id", cell account "id") :: c.body))

def changeBudget : Endpoint where
  method := "PUT"
  path := "/api/v1/budgets/:id"
  body := some (.record [maybe "name" .anyText, maybe "amount" limitShape,
    maybe "period" periodWord, maybe "service_filter" .anyText, maybe "alert_at_pct" alertShape,
    maybe "is_active" .bool])
  run c := do
    let row ← byId .budgets "Budget" c.param
    describe budgetShown (← update .budgets row
      (c.body.filter fun e => c.given.contains e.1))

def deleteBudget : Endpoint where
  method := "DELETE"
  path := "/api/v1/budgets/:id"
  run c := do
    delete .budgets (← byId .budgets "Budget" c.param)
    return done "Budget deleted"

def budgetCosts (s : Store) (budget : Row) (today : Date) : List Row :=
  let first := Cost.Budget.firstDay (textCell budget "period") today
  let service := cell budget "service_filter"
  (s.costs (cell budget "aws_account_id") (Store.within first today)).filter fun row =>
    !service.truthy || (cell row "service").same service

def budgetSpend (s : Store) (budget : Row) (today : Date) : Result Value := do
  (← Store.total "amount" (budgetCosts s budget today) (.float 0)).round 2

def checkBudget (budget : Row) : Handler Row := do
  let now ← Handler.now
  let spend ← liftM (budgetSpend (← getThe Service).store budget now.date)
  update .budgets budget [("current_spend", spend), ("last_checked_at", .timestamp now)]

def checkBudgets : Endpoint where
  method := "POST"
  path := "/api/v1/accounts/:id/budgets/check"
  run c := do
    let budgets ← select .budgets fun row =>
      Store.ofAccount (.text c.param) row && (cell row "is_active").truthy
    return .list (← (← budgets.mapM checkBudget).mapM (describe budgetShown))

def alertShown : List Shown :=
  [.plain "id" .identifier, .text "channel", .plain "is_enabled" .bool, .text? "email_address",
   .text? "slack_webhook_url", .plain "notify_info" .bool, .plain "notify_warning" .bool,
   .plain "notify_critical" .bool, .plain "daily_summary" .bool]

def listAlerts : Endpoint where
  method := "GET"
  path := "/api/v1/alerts/config"
  run _ := do
    return .list (← (← select .alertConfigs fun _ => true).mapM (describe alertShown))

def addAlert : Endpoint where
  method := "POST"
  path := "/api/v1/alerts/config"
  body := some (.record [required "channel" (.word Store.alertChannels.members),
    maybe "email_address" .anyText, maybe "slack_webhook_url" .anyText,
    withDefault "notify_info" .bool false, withDefault "notify_warning" .bool true,
    withDefault "notify_critical" .bool true, withDefault "daily_summary" .bool true])
  status := 201
  run c := do describe alertShown (← insert .alertConfigs c.body)

def deleteAlert : Endpoint where
  method := "DELETE"
  path := "/api/v1/alerts/config/:id"
  run c := do
    delete .alertConfigs (← byId .alertConfigs "Alert config" c.param)
    return done "Alert config deleted"

def budgetEndpoints : List Endpoint :=
  [listBudgets, addBudget, changeBudget, deleteBudget, checkBudgets, listAlerts, addAlert,
   deleteAlert]

end CloudSpend.Api
