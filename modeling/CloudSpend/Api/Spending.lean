import CloudSpend.Api.Account
import CloudSpend.Cost.Budget
import CloudSpend.Insight.Narrative

/-! # Spending and reports -/

namespace CloudSpend.Api

open Store
open Store (cell textCell holds)
open Form (required withDefault maybe)

def costRows (account : Row) (test : Date → Bool) : Handler (List Row) := do
  return (← getThe Service).store.costs (cell account "id") test

def numberField (name : String) : Form.Field := required name (.number {})

def textField (name : String) : Form.Field := required name .anyText

def askedDays (c : Call) : Handler (Date × Date) := do
  let last := (c.day? "end_date").getD (← Handler.today)
  let first ← match c.day? "start_date" with
    | some d => pure d
    | none => liftM (last.before 30 : Result Date)
  return (first, last)

def costData (first last : Date) (s : Cost.Summary Value Date Value) : Result Value := do
  let services ← (Arithmetic.descending (·.2) s.services).mapM fun t => do
    return Value.object [("date", ""), ("service", t.1), ("amount", ← t.2.round 2),
      ("currency", "USD")]
  let days ← (s.days.mergeSort fun a b => a.1.le b.1).mapM fun t => do
    return Value.object [("date", .text t.1.text), ("amount", ← t.2.round 2)]
  let total ← s.services.sum
  return .object [
    ("total_spend", ← total.round 2),
    ("currency", "USD"),
    ("period_start", .text first.text),
    ("period_end", .text last.text),
    ("by_service", .list services),
    ("daily_totals", .list days)]

def costs : Endpoint where
  method := "GET"
  path := "/api/v1/accounts/:id/costs"
  query := [maybe "start_date" .date, maybe "end_date" .date,
    withDefault "granularity" .anyText "DAILY"]
  answer := .record [numberField "total_spend", textField "currency", textField "period_start",
    textField "period_end",
    required "by_service" (.list (.record [textField "date", textField "service",
      numberField "amount", textField "currency"])),
    required "daily_totals" (.list .table)]
  run c := do
    let (first, last) ← askedDays c
    let rows ← costRows (← accountOf c) (within first last)
    let summary ← liftM (Cost.Summary.entered (records (byDay rows)))
    liftM (costData first last summary)

def forecastShape : Form.Shape := .record [numberField "total_forecast", textField "currency",
  textField "start", textField "end", numberField "mtd_spend", numberField "daily_avg",
  required "days_remaining" (.int none none), numberField "projected_total", textField "source"]

def forecastRow (p : Cost.Projection Value) (forecast : Row) (source : String) : Value :=
  .object (forecast ++ [("mtd_spend", p.spent), ("daily_avg", p.daily),
    ("days_remaining", .int p.daysLeft), ("projected_total", p.total), ("source", .text source)])

def awsForecast (p : Cost.Projection Value) (today monthEnd : Date) : Run Value := do
  let access := Aws.Access.usual awsRegion
  Aws.CostExplorer.start access
  let forecast ← Aws.CostExplorer.forecast? access (← liftM (today.after 1)) monthEnd
  if forecast.truthy then
    liftM (forecastShape.validate (forecastRow p (forecast.object?.getD []) "aws"))
  else return .null

def forecast : Endpoint where
  method := "GET"
  path := "/api/v1/accounts/:id/forecast"
  answer := forecastShape
  run c := do
    let account ← accountOf c
    let today ← Handler.today
    let monthEnd := today.firstOfNextMonth
    if 9999 < monthEnd.year then throw (.refused "year 10000 is out of range")
    let rows ← costRows account (within today.firstOfMonth today)
    let p ← liftM (do
      Cost.Projection.linear (← Store.total "amount" rows) today : Result _)
    match ← liftM (Run.attempt (awsForecast p today monthEnd)) with
    | .ok (.object answer) => return .object answer
    | _ => return forecastRow p [("total_forecast", p.total), ("currency", "USD"),
        ("start", .text today.text), ("end", .text monthEnd.text)] "linear"

def changesShape : Form.Shape := .list (.record [textField "service", numberField "current_amount",
  numberField "previous_amount", numberField "change", numberField "change_pct",
  numberField "impact_pct", textField "direction"])

def periodShape : Form.Shape :=
  .record [textField "start", textField "end", numberField "total"]

def comparisonShape : Form.Shape := .record [required "current_period" periodShape,
  required "previous_period" periodShape, numberField "total_change",
  numberField "total_change_pct", textField "direction", required "service_changes" changesShape,
  required "top_increases" changesShape, required "top_decreases" changesShape,
  required "new_services" changesShape, required "removed_services" changesShape]

def lastDays (today : Date) (n : Int) : Result (Cost.Period Date × Cost.Period Date) := do
  let start ← today.before n
  return (⟨start, today⟩, ⟨← start.before n, start⟩)

def comparedPeriods (c : Call) (today : Date) : Result (Cost.Period Date × Cost.Period Date) :=
  match textCell c.query "mode", c.day? "current_start", c.day? "current_end" with
  | "custom", some start, some stop => do
    let current : Cost.Period Date := ⟨start, stop⟩
    return (current, ← current.previous (c.day? "previous_start") (c.day? "previous_end"))
  | "day", _, _ => lastDays today 1
  | "month", _, _ => lastDays today 30
  | _, _, _ => lastDays today 7

def compareCosts (rows : List Row) (current previous : Cost.Period Date) :
    Handler (Cost.Comparison Value Date Value) := do
  startExplorer
  liftM (Cost.Comparison.ofRecords Value.display current previous (records rows))

def drillDown : Endpoint where
  method := "GET"
  path := "/api/v1/accounts/:id/drill-down"
  query := [maybe "current_start" .date, maybe "current_end" .date, maybe "previous_start" .date,
    maybe "previous_end" .date, withDefault "mode" .anyText "week"]
  answer := comparisonShape
  run c := do
    let account ← accountOf c
    let (current, previous) ← liftM (comparedPeriods c (← Handler.today))
    let rows ← costRows account fun d => previous.start.le d && d.lt current.stop
    let comparison ← compareCosts (byDay rows) current previous
    liftM comparison.toValue

def tags : Endpoint where
  method := "GET"
  path := "/api/v1/accounts/:id/tags"
  run c := do
    let _ ← accountOf c
    let today ← Handler.today
    startExplorer
    let first ← liftM (today.before 30 : Result Date)
    return .object [("tags", ← liftM (Aws.CostExplorer.tags (.usual awsRegion) ⟨.date first, .date today⟩))]

def tagTotals (lines : List Value) : Result (Cost.Totals Value Value) :=
  lines.foldlM (fun t line => do
    let value ← (← line.field "tag_value").asKey
    t.add value (← line.field "amount")) []

def tagBreakdown (tag : Value) (lines : List Value) : Result Value := do
  let totals ← tagTotals lines
  let total ← totals.sum
  let parts ← totals.ranked.mapM fun t => do
    return Value.object [("tag_value", t.1), ("amount", ← t.2.round 2),
      ("pct", ← Cost.percentage t.2 total)]
  return .object [("tag_key", tag), ("total", ← total.round 2), ("breakdown", .list parts),
    ("raw", .list lines)]

def costsByTag : Endpoint where
  method := "GET"
  path := "/api/v1/accounts/:id/costs/by-tag"
  query := [withDefault "tag_key" .anyText "Environment",
    withDefault "days" (.int none none) (.int 30)]
  run c := do
    let _ ← accountOf c
    let today ← Handler.today
    startExplorer
    let fetched ← liftM (Run.attempt do
      let first ← liftM (today.before ((c.arg "days").int?.getD 30))
      Aws.CostExplorer.byTag (.usual awsRegion) ⟨.date first, .date today⟩ (c.arg "tag_key"))
    match fetched with
    | .ok lines => liftM (tagBreakdown (c.arg "tag_key") lines)
    | .error e => throw (.http 502 ("Failed to fetch tag data: " ++ e.message))

def namedServices : Nat := 5

def topServices (totals : Cost.Totals Value Value) (total : Value) : Result (List Value) :=
  (totals.ranked.take namedServices).mapM fun t => do
    return Value.object [("service", t.1), ("amount", ← t.2.round 2),
      ("pct", ← Cost.percentage t.2 total)]

def openAnomalies (since : Date) (row : Row) : Bool :=
  !(cell row "acknowledged").truthy && dated since.le row

def insights : Endpoint where
  method := "GET"
  path := "/api/v1/accounts/:id/insights"
  run c := do
    let account ← accountOf c
    let today ← Handler.today
    let first := today.firstOfMonth
    let rows := byDay (← costRows account (within first today))
    let summary ← liftM (Cost.Summary.added (records rows))
    let spent ← liftM (Store.spent rows)
    let top ← liftM (topServices summary.services spent)
    let (current, previous) ← liftM (lastDays today 7)
    let unusual ← Handler.select .anomalies fun row =>
      ofAccount (cell account "id") row && openAnomalies current.start row
    let weeks ← costRows account (within previous.start today)
    let weekly ← compareCosts weeks current previous
    let context := Value.object [
      ("total_spend", ← liftM (spent.round 2)),
      ("period", .text (first.text ++ " to " ++ today.text)),
      ("top_services", .list top),
      ("anomaly_count", .int unusual.length),
      ("change_pct", ← liftM (weekly.totalChangePart.mul (.int 100)))]
    let insight ← liftM (do
      Insight.start
      Insight.explain context : Run Value)
    return .object [("insight", insight), ("context", context)]

def spendingEndpoints : List Endpoint := [costs, forecast, drillDown, tags, costsByTag, insights]

/-! ## Shared reports -/

def reportData (account : Row) (first last : Date) (s : Cost.Summary Value Date Value) :
    Result Value := do
  return .object [
    ("account_name", (cell account "account_name").orElse (cell account "aws_account_id")),
    ("period_start", .text first.text),
    ("period_end", .text last.text),
    ("total_spend", ← (← s.services.sum).round 2),
    ("by_service", .list (← (Arithmetic.descending (·.2) s.services).mapM fun t => do
      return Value.object [("service", t.1), ("amount", ← t.2.round 2)])),
    ("daily_totals", .list (← (s.days.mergeSort fun a b => a.1.le b.1).mapM fun t => do
      return Value.object [("date", .text t.1.text), ("amount", ← t.2.round 2)]))]

def shareReport : Endpoint where
  method := "POST"
  path := "/api/v1/accounts/:id/reports/share"
  query := [withDefault "title" .anyText "Cost Report",
    withDefault "days" (.int none none) (.int 30)]
  run c := do
    let account ← accountOf c
    let today ← Handler.today
    let first ← liftM (today.before ((c.arg "days").int?.getD 30) : Result Date)
    let rows ← costRows account (within first today)
    let summary ← liftM (Cost.Summary.added (records (byDay rows)))
    let data ← liftM (reportData account first today summary)
    let token ← Handler.newToken fun n => "url" ++ toString n
    discard (Handler.insert .sharedReports
      [("aws_account_id", cell account "id"), ("token", .text token), ("title", c.arg "title"),
       ("report_data", .text (Json.write data))])
    return .object [("token", .text token), ("url", .text (serviceAddress ++ "/reports/" ++ token)),
      ("title", c.arg "title")]

def isPast (now : Timestamp) : Value → Bool
  | .timestamp t => t.micros < now.micros
  | _ => false

def readReport : Endpoint where
  method := "GET"
  path := "/api/v1/reports/:token"
  run c := do
    let report ← Handler.found "Report" (← Handler.find? .sharedReports "token" (.text c.param))
    if isPast (← Handler.now) (cell report "expires_at") then
      throw (.http 410 "Report has expired")
    return .object [("title", cell report "title"), ("created_at", cell report "created_at"),
      ("data", ← liftM (Json.read (textCell report "report_data")))]

def overview : Endpoint where
  method := "GET"
  path := "/api/v1/dashboard/summary"
  run _ := do
    let today ← Handler.today
    let week ← liftM (today.before 7 : Result Date)
    let accounts ← Handler.rows .awsAccounts (holds "status" "active")
    let costs ← Handler.rows .costRecords
      (dated (within today.firstOfMonth today))
    let unusual ← Handler.rows .anomalies (openAnomalies week)
    let advice ← Handler.rows .recommendations fun row => !(cell row "is_resolved").truthy
    let rounded (total : Result Value) : Handler Value :=
      liftM (do (← total).round 2 : Result Value)
    return .object [
      ("active_accounts", .int accounts.length),
      ("mtd_spend", ← rounded (Store.total "amount" costs)),
      ("active_anomalies", .int unusual.length),
      ("potential_monthly_savings", ← rounded (Store.total "estimated_monthly_savings" advice))]

def reportEndpoints : List Endpoint := [shareReport, readReport, overview]

end CloudSpend.Api
