import CloudSpend.Cost.DrillDown
import CloudSpend.Outside.World

/-! # The cost explorer of AWS -/

namespace CloudSpend.Aws

inductive Access where
  | usual (region : Value)
  | role (arn externalId region : Value)

namespace CostExplorer

def start (a : Access) : Run Unit := do
  Run.disconnect
  match a with
  | .usual region => Run.openSession [("region_name", region)]
  | .role .. => pure ()

def connect : Access → Run Unit
  | .usual _ => pure ()
  | .role arn externalId region => Run.connectOnce do
    let reply ← Run.aws "sts" "assume_role" region
      [("RoleArn", arn), ("RoleSessionName", "cloudpulse-cost-reader"), ("ExternalId", externalId),
       ("DurationSeconds", .int 3600)]
    Run.openSession (← liftM (do
      let credentials ← reply.field "Credentials"
      return [("aws_access_key_id", ← credentials.field "AccessKeyId"),
        ("aws_secret_access_key", ← credentials.field "SecretAccessKey"),
        ("aws_session_token", ← credentials.field "SessionToken"), ("region_name", region)]
      : Result Row))

def span (p : Cost.Period Value) : Result (String × Value) := do
  return ("TimePeriod", .object [("Start", .text (← p.start.dayText)),
    ("End", .text (← p.stop.dayText))])

def metrics : String × Value := ("Metrics", .list ["UnblendedCost"])

def call (name : String) (args : Row) : Run Value := Run.aws "ce" name "us-east-1" args

def canRead (a : Access) : Run Bool :=
  Run.orRefused (do
    connect a
    let today ← Run.today
    let yesterday ← liftM (today.before 1)
    let _ ← call "get_cost_and_usage"
      [← liftM (span ⟨.date yesterday, .date today⟩), ("Granularity", "DAILY"), metrics]
    return true) false

structure Group where
  start : Value
  key : Value
  amount : Value
  metric : Value

def Group.isMaterial (g : Group) : Result Bool := do return !(← g.amount.lt (.float 0.01))

def groups {α : Type} (read : Value → Value → Result α) (page : Value) : Result (List α) := do
  let periods ← (← page.getD "ResultsByTime" (.list [])).items
  let found ← periods.mapM fun p => do
    let start ← (← p.field "TimePeriod").field "Start"
    (← (← p.getD "Groups" (.list [])).items).mapM (read start)
  return found.flatten

def walk {α : Type} (args : Row) (read : Value → Result (List α)) (token : Value) :
    Nat → Run (List α)
  | 0 => throw (.runtime "the answer does not end")
  | bound + 1 => do
    let page ← call "get_cost_and_usage"
      (if token.truthy then args ++ [("NextPageToken", token)] else args)
    let here ← liftM (read page)
    let next ← liftM (page.get "NextPageToken")
    if next.truthy then return here ++ (← walk args read next bound) else return here

def groupedArgs (p : Cost.Period Value) (granularity : Value) (type : String) (key : Value) :
    Result Row := do
  return [← span p, ("Granularity", granularity), metrics,
    ("GroupBy", .list [.object [("Type", .text type), ("Key", key)]])]

def readMetric (group : Value) : Result (Value × Value) := do
  let metric ← (← group.field "Metrics").field "UnblendedCost"
  return (.float (← (← metric.field "Amount").toFloat), metric)

def readService (start group : Value) : Result (Group × Value) := do
  let key ← (← group.field "Keys").item 0
  let (amount, metric) ← readMetric group
  return (⟨start, key, amount, metric⟩, ← metric.field "Unit")

def serviceLines (page : Value) : Result (List Value) := do
  let found ← groups readService page
  (← found.filterM fun g => g.1.isMaterial).mapM fun (g, unit) => do
    return .object [("date", g.start), ("service", g.key), ("amount", ← g.amount.round 4),
      ("currency", unit)]

def byService (a : Access) (p : Cost.Period Value) (granularity : Value) : Run (List Value) := do
  connect a
  let args ← liftM (groupedArgs p granularity "DIMENSION" "SERVICE")
  walk args serviceLines .null (← get).outside.pages

def tagValue (v : Value) : Result Value := do
  let text ← if ← v.contains "$" then do
      let s ← v.expectText "split"
      pure (.text (String.ofList ((s.toList.dropWhile (· != '$')).drop 1)))
    else pure v
  return if text.truthy then text else "(untagged)"

def readTag (start group : Value) : Result Group := do
  let key ← tagValue (← (← group.field "Keys").item 0)
  let (amount, metric) ← readMetric group
  return ⟨start, key, amount, metric⟩

def tagLines (tag : Value) (page : Value) : Result (List Value) := do
  (← (← groups readTag page).filterM Group.isMaterial).mapM fun g => do
    return .object [("date", g.start), ("tag_key", tag), ("tag_value", g.key),
      ("amount", ← g.amount.round 4)]

def byTag (a : Access) (p : Cost.Period Value) (tag : Value) : Run (List Value) := do
  connect a
  let args ← liftM (groupedArgs p "MONTHLY" "TAG" tag)
  walk args (tagLines tag) .null (← get).outside.pages

def tags (a : Access) (p : Cost.Period Value) : Run Value :=
  Run.orRefused (do
    connect a
    liftM ((← call "get_tags" [← liftM (span p)]).getD "Tags" (.list []))) (.list [])

def totalLine (p : Value) : Result Value := do
  let start ← (← p.field "TimePeriod").field "Start"
  let cost ← (← p.getD "Total" (.object [])).getD "UnblendedCost" (.object [])
  let amount := Value.float (← (← cost.getD "Amount" (.int 0)).toFloat)
  return .object [("date", start), ("amount", ← amount.round 4),
    ("currency", ← cost.getD "Unit" "USD")]

def total (a : Access) (p : Cost.Period Value) (granularity : Value) : Run (List Value) := do
  connect a
  let reply ← call "get_cost_and_usage"
    [← liftM (span p), ("Granularity", granularity), metrics]
  liftM (do
    (← (← reply.getD "ResultsByTime" (.list [])).items).mapM totalLine : Result (List Value))

def forecastSpan (today : Date) (start stop : Value) : Result (Cost.Period Value) := do
  let start ← if start.truthy then pure start else Value.date <$> today.after 1
  if stop.truthy then return ⟨start, stop⟩
  let next := (← start.calendarDay "month").firstOfNextMonth
  if 9999 < next.year then throw (.refused ("year " ++ toString next.year ++ " is out of range"))
  return ⟨start, .date next⟩

def forecast (a : Access) (start stop : Value) : Run Value := do
  connect a
  let p ← liftM (forecastSpan (← Run.today) start stop)
  let reply ← call "get_cost_forecast"
    [← liftM (span p), ("Metric", "UNBLENDED_COST"), ("Granularity", "MONTHLY")]
  liftM (do
    let total ← reply.getD "Total" (.object [])
    let amount := Value.float (← (← total.getD "Amount" (.int 0)).toFloat)
    return .object [("total_forecast", ← amount.round 2), ("currency", ← total.getD "Unit" "USD"),
      ("start", .text (← p.start.dayText)), ("end", .text (← p.stop.dayText))] : Result Value)

def forecast? (a : Access) (start stop : Value) : Run Value :=
  Run.orRefused (forecast a start stop) .null

def compare (a : Access) (current previous : Cost.Period Value) :
    Run (Cost.Comparison Value Value Value) :=
  Cost.Comparison.liveRows (fun p => return .list (← byService a p "DAILY")) current previous

end CostExplorer

end CloudSpend.Aws
