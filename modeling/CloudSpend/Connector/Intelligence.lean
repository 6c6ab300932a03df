import CloudSpend.Connector.Basic

/-! # Services for machine learning -/

namespace CloudSpend.Connector

namespace OpenAi

def headers (config : Value) : Result Value := do
  let auth := ("Authorization", Value.text ("Bearer " ++ (← config.field "api_key").display))
  let org ← config.get "org_id"
  return .object (if org.truthy then [auth, ("OpenAI-Organization", org)] else [auth])

def lines (key : String) (_config raw : Value) : Result (List Line) := do
  let groups ← (← raw.items).mapM fun bucket => do
    let columns : Columns := {
      service := cell "object" "OpenAI API"
      usageDate := fun _ => day "start_time" bucket
      amount := fun r => do return .float (← (← inner "amount" "value" (.int 0) r).toFloat) }
    columns.lines key (← bucket.getD "results" (.list []))
  return groups.flatten

end OpenAi

def openAi : Connector := told "openai" {
  address := fun _ => .ok "https://api.openai.com/v1/organization"
  headers := OpenAi.headers
  check := ""
  account := fun _ data => data.get "id"
  costs := "/costs"
  params := fun start stop => do
    return some (.object [("start_time", .int (← start.clockSeconds)), ("end_time", .int (← stop.clockSeconds))])
  list := "data"
  lines := OpenAi.lines }

def anthropic : Connector := told "anthropic" {
  address := fun _ => .ok "https://api.anthropic.com/v1/organizations/self"
  headers := fun config => do
    return .object [("x-api-key", ← config.field "api_key"), ("anthropic-version", "2024-01-01")]
  check := ""
  account := fun _ data => data.get "id"
  costs := "/usage"
  params := dayParams "start_date" "end_date"
  list := "daily_usage"
  lines := each { service := fixed "Anthropic API", usageDate := cell "date" "", amount := number "spend" } }

def anyscale : Connector := told "anyscale" {
  address := fun _ => .ok "https://console.anyscale.com/api/v2/"
  headers := (bearer · "api_key")
  check := "organization"
  account := fun _ => inner "result" "id" .null
  costs := "billing/usage"
  params := dayParams "start_date" "end_date"
  list := "results"
  lines := each { service := cell "product" "Anyscale", usageDate := day "date", amount := number "cost" } }

def cursor : Connector := told "cursor" {
  address := fun _ => .ok "https://api.cursor.com/v1/"
  headers := (bearer · "api_key")
  check := "team"
  account := fun config _ => config.get "team_id"
  costs := "usage"
  params := dayParams "start_date" "end_date"
  list := "usage"
  lines := each { service := fixed "Cursor", usageDate := day "date", amount := number "cost" } }

end CloudSpend.Connector
