import CloudSpend.Connector.Basic

/-! # Observability services -/

namespace CloudSpend.Connector

namespace Datadog

def site (config : Value) : Result String := do
  return "https://api." ++ (← config.getD "site" "datadoghq.com").display

def headers (config : Value) : Result Value := do
  return .object [("DD-API-KEY", ← config.field "api_key"),
    ("DD-APPLICATION-KEY", ← config.field "app_key")]

def validate (config : Value) : Run Validation := do
  let site ← liftM (site config)
  checking do
    let data ← getJson (site ++ "/api/v1/validate") (← liftM (headers config)) none
    return { valid := ← liftM (data.getD "valid" false) }

def fetch (config : Value) (start _stop : Value) : Run Value := do
  let site ← liftM (site config)
  let data ← getJson (site ++ "/api/v2/usage/cost_by_org") (← liftM (headers config))
    (some (.object [("start_month", .text (← liftM (start.calendarDay "strftime")).monthText)]))
  liftM (data.getD "data" (.list []))

def lines (_config : Value) (_today : Date) (raw : Value) : Result (List Line) := do
  let groups ← (← raw.items).mapM fun entry => do
    let attributes ← entry.getD "attributes" (.object [])
    let columns : Columns := {
      service := cell "product_name" "Datadog"
      usageDate := fun _ => attributes.getD "date" ""
      amount := cell "cost" (.float 0)
      accountId := fun _ => attributes.get "org_name" }
    columns.lines "datadog" (← attributes.getD "charges" (.list []))
  return groups.flatten

end Datadog

def datadog : Connector := standard "datadog" Datadog.validate Datadog.fetch Datadog.lines

namespace NewRelic

def ask (config : Value) (query : String) (timeout : Nat) : Run Web.Reply := do
  let headers : Value := .object [("API-Key", ← liftM (config.field "api_key"))]
  Run.sendOk {
    method := "POST"
    url := "https://api.newrelic.com/graphql"
    headers := some headers
    json := some (.object [("query", .text query)])
    timeout := some timeout }

def validate (config : Value) : Run Validation :=
  checking do
    let _ ← ask config "\x7b actor \x7b user \x7b name \x7d \x7d \x7d" 15
    return { valid := true, account := ← liftM (config.get "account_id") }

def costQuery (account : Value) (start stop : Value) : String :=
  "\n        \x7b\n          actor \x7b\n            account(id: " ++ account.display
    ++ ") \x7b\n              nrql(query: \"SELECT sum(estimatedCost) FROM NrConsumption SINCE '"
    ++ start.display ++ "' UNTIL '" ++ stop.display ++ "' FACET productLine TIMESERIES 1 day\") \x7b\n"
    ++ "                results\n              \x7d\n            \x7d\n          \x7d\n        \x7d\n"
    ++ "        "

def fetch (config : Value) (start stop : Value) : Run Value := do
  let account ← liftM (config.field "account_id")
  let reply ← ask config (costQuery account start stop) 30
  liftM (do
    let inside (v : Value) (key : String) : Result Value := v.getD key (.object [])
    let nrql ← ["data", "actor", "account", "nrql"].foldlM inside (← reply.json)
    nrql.getD "results" (.list []) : Result Value)

def lines (config : Value) (_today : Date) (raw : Value) : Result (List Line) :=
  Columns.lines {
    service := cell "facet" "New Relic"
    usageDate := cell "beginTimeSeconds" ""
    amount := number "sum.estimatedCost"
    accountId := fun _ => config.get "account_id" } "new_relic" raw

end NewRelic

def newRelic : Connector := standard "new_relic" NewRelic.validate NewRelic.fetch NewRelic.lines

namespace Coralogix

def address (config : Value) (path : String) : Result String := do
  return "https://api." ++ (← config.getD "domain" "coralogix.com").display
    ++ "/api/v1/external/" ++ path

def validate (config : Value) : Run Validation := do
  let url ← liftM (address config "team")
  checking do
    let _ ← getJson url (← liftM (bearer config "api_key")) none
    return { valid := true }

def fetch (config : Value) (_start _stop : Value) : Run Value := do
  let url ← liftM (address config "usage")
  let data ← getJson url (← liftM (bearer config "api_key")) none
  liftM (data.getD "usage" (.list []))

def lines (_config : Value) (_today : Date) (raw : Value) : Result (List Line) :=
  Columns.lines {
    service := cell "pillar" "Coralogix"
    usageDate := day "date"
    amount := number "cost" } "coralogix" raw

end Coralogix

def coralogix : Connector :=
  standard "coralogix" Coralogix.validate Coralogix.fetch Coralogix.lines

namespace Grafana

def address (slug : Value) : String := "https://grafana.com/api/orgs/" ++ slug.display

def validate (config : Value) : Run Validation := do
  let slug ← liftM (config.getD "org_slug" "")
  checking do
    let data ← getJson (address slug) (← liftM (bearer config "api_key")) none
    return { valid := true, account := .text (← liftM (data.get "id")).display }

def fetch (config : Value) (_start _stop : Value) : Run Value := do
  let slug ← liftM (config.field "org_slug")
  let data ← getJson (address slug ++ "/billing/usage") (← liftM (bearer config "api_key")) none
  liftM (data.getD "items" (.list []))

def lines (_config : Value) (_today : Date) (raw : Value) : Result (List Line) :=
  Columns.lines {
    service := cell "product" "Grafana Cloud"
    usageDate := day "date"
    amount := number "cost" } "grafana_cloud" raw

end Grafana

def grafanaCloud : Connector :=
  standard "grafana_cloud" Grafana.validate Grafana.fetch Grafana.lines

end CloudSpend.Connector
