import CloudSpend.Codec.Base64
import CloudSpend.Connector.Basic

/-! # Databases, delivery and streaming -/

namespace CloudSpend.Connector

def basicAuth (config : Value) (user password : String) : Result Value := do
  let text := (← config.field user).display ++ ":" ++ (← config.field password).display
  discard (Text.bytes text)
  return .object [("Authorization", .text ("Basic " ++ Codec.Base64.encode Codec.Base64.standard text))]

namespace MongoDb

def lines (key : String) (config raw : Value) : Result (List Line) := do
  let groups ← (← raw.items).mapM fun invoice => do
    let columns : Columns := {
      service := cell "sku" "MongoDB Atlas"
      usageDate := fun _ => day "created" invoice
      amount := fun item => do (← item.getD "totalPriceCents" (.int 0)).div (.float 100)
      accountId := fun _ => config.get "org_id" }
    columns.lines key (← invoice.getD "lineItems" (.list []))
  return groups.flatten

end MongoDb

def mongoDb : Connector := told "mongodb" {
  address := fun config => do
    return "https://cloud.mongodb.com/api/atlas/v2/orgs/" ++ (← config.field "org_id").display
  headers := fixed (.object [("Accept", "application/vnd.atlas.2023-01-01+json")])
  check := ""
  account := fun _ data => data.get "id"
  costs := "/invoices"
  list := "results"
  lines := MongoDb.lines }

namespace Snowflake

def connect (config : Value) : Run Rows := do
  let args : Row ← liftM (do
    return [("account", ← config.field "account"), ("user", ← config.field "username"),
      ("password", ← config.field "password"),
      ("warehouse", ← config.getD "warehouse" "COMPUTE_WH")] : Result Row)
  Run.noteSnowflake (.object [("connect", .object args)])
  liftM (← get).outside.snowflake

def execute (sql : String) (params : List Value) : Run Unit :=
  Run.noteSnowflake (.object [("sql", .text sql), ("params", .list params)])

def close : Run Unit := do
  Run.noteSnowflake (.object [("close", true)])
  Run.noteSnowflake (.object [("close", true)])

def validate (config : Value) : Run Validation :=
  checking do
    let answer ← connect config
    execute "SELECT CURRENT_ACCOUNT()" []
    let account ← match answer.rows with
      | [] => throw (.notSubscriptable .null)
      | [] :: _ => throw (.wrongKind "tuple index out of range")
      | (account :: _) :: _ => pure account
    close
    return { valid := true, account := account }

def usageSql : String :=
  "SELECT USAGE_DATE::VARCHAR AS usage_date, SERVICE_TYPE AS service, "
    ++ "SUM(CREDITS_USED) AS credits, SUM(CREDITS_USED * 3.00) AS cost_usd "
    ++ "FROM SNOWFLAKE.ACCOUNT_USAGE.METERING_DAILY_HISTORY "
    ++ "WHERE USAGE_DATE BETWEEN %s AND %s GROUP BY 1, 2 ORDER BY 1"

def fetch (config : Value) (start stop : Value) : Run Value := do
  let answer ← connect config
  execute usageSql [.text (← liftM start.dayText), .text (← liftM stop.dayText)]
  let names ← answer.columns.mapM fun c => do return Text.lower (← liftM (c.expectText "lower"))
  let rows := answer.rows.map fun row => Value.object (Entries.merge [] (names.zip row))
  close
  return .list rows

def lines (_config : Value) (_today : Date) (raw : Value) : Result (List Line) :=
  Columns.lines {
    service := cell "service" "Snowflake"
    usageDate := fun r => do return .text (← r.getD "usage_date" "").display
    amount := number "cost_usd"
    usageType := fixed "credits"
    usageQuantity := number "credits" } "snowflake" raw

end Snowflake

def snowflake : Connector :=
  standard "snowflake" Snowflake.validate Snowflake.fetch Snowflake.lines

namespace Databricks

def address (config : Value) : Result String := do
  let url ← (← config.field "workspace_url").expectText "rstrip"
  return String.ofList (url.toList.reverse.dropWhile (· == '/')).reverse

def validate (config : Value) : Run Validation :=
  checking do
    let url ← liftM (address config)
    let _ ← Run.sendOk {
      method := "GET"
      url := url ++ "/api/2.0/clusters/list"
      headers := some (← liftM (bearer config "access_token"))
      timeout := some (.int 15) }
    return { valid := true }

def usageSql (start stop : Value) : String :=
  "\n                    SELECT usage_date, sku_name, SUM(usage_quantity) as quantity,\n"
    ++ "                           SUM(usage_quantity * list_price) as cost\n"
    ++ "                    FROM system.billing.usage\n"
    ++ "                    WHERE usage_date BETWEEN '" ++ start.display ++ "' AND '"
    ++ stop.display
    ++ "'\n                    GROUP BY 1, 2\n                    ORDER BY 1\n                "

def rows (data : Value) : Result Value := do
  let schema ← (← data.getD "manifest" (.object [])).getD "schema" (.object [])
  let columns ← (← (← schema.getD "columns" (.list [])).items).mapM fun c => c.field "name"
  let chunks ← (← (← data.getD "result" (.object [])).getD "data_array" (.list [])).items
  let rows ← chunks.mapM fun chunk => do
    let keys ← (columns.zip (← chunk.items)).mapM fun e => do return (← e.1.keyText, e.2)
    return Value.object (Entries.merge [] keys)
  return .list rows

def fetch (config : Value) (start stop : Value) : Run Value := do
  let url ← liftM (address config)
  let data ← Run.sendJson {
    method := "POST"
    url := url ++ "/api/2.0/sql/statements"
    headers := some (← liftM (bearer config "access_token"))
    json := some (.object [("statement", .text (usageSql start stop)), ("warehouse_id", "auto")])
    timeout := some (.int 60) }
  liftM (rows data)

def lines (_config : Value) (_today : Date) (raw : Value) : Result (List Line) :=
  Columns.lines {
    service := cell "sku_name" "Databricks"
    usageDate := fun r => do return .text (← r.getD "usage_date" "").display
    amount := number "cost"
    usageQuantity := number "quantity" } "databricks" raw

end Databricks

def databricks : Connector :=
  standard "databricks" Databricks.validate Databricks.fetch Databricks.lines

namespace PlanetScale

def ask (config org : Value) (path : String) (timeout : Nat) : Run Web.Reply := do
  let url := "https://api.planetscale.com/v1/organizations/" ++ org.display ++ path
  let token ← liftM (do
    return (← config.field "service_token_id").display ++ ":"
      ++ (← config.field "service_token").display : Result String)
  Run.sendOk {
    method := "GET"
    url := url
    headers := some (.object [("Authorization", .text token), ("Accept", "application/json")])
    timeout := some timeout }

def validate (config : Value) : Run Validation :=
  checking do
    let org ← liftM (config.field "organization")
    let _ ← ask config org "" 15
    return { valid := true, account := org }

def fetch (config : Value) (_start _stop : Value) : Run Value := do
  let org ← liftM (config.field "organization")
  let reply ← ask config org "/invoices" 30
  liftM (do (← reply.json).getD "data" (.list []) : Result Value)

def lines (config : Value) (_today : Date) (raw : Value) : Result (List Line) :=
  Columns.lines {
    service := fixed "PlanetScale"
    usageDate := day "period_start"
    amount := fun r => do (← number "total_in_cents" r).div (.float 100)
    accountId := fun _ => config.field "organization" } "planetscale" raw

end PlanetScale

def planetScale : Connector :=
  standard "planetscale" PlanetScale.validate PlanetScale.fetch PlanetScale.lines

def clickHouse : Connector := told "clickhouse" {
  address := fun config => do
    return "https://api.clickhouse.cloud/v1/organizations/" ++ (← config.field "org_id").display
  headers := (basicAuth · "api_key_id" "api_key_secret")
  check := ""
  account := fun _ data => data.get "id"
  costs := "/billing"
  list := "usage"
  lines := each { service := fixed "ClickHouse Cloud", usageDate := day "date", amount := number "total" } }

/-! ## Content delivery and streaming -/

def fastly : Connector := told "fastly" {
  address := fun _ => .ok "https://api.fastly.com/"
  headers := fun config => do return .object [("Fastly-Key", ← config.field "api_key")]
  check := "current_customer"
  account := fun _ data => data.get "id"
  costs := "billing/v3/invoices"
  list := "data"
  lines := each {
    service := fixed "Fastly CDN"
    usageDate := fun r => do (← inner "attributes" "invoice_date" "" r).take 10
    amount := fun r => do return .float (← (← inner "attributes" "total" (.int 0) r).toFloat) } }

def confluent : Connector := told "confluent" {
  address := fun _ => .ok "https://api.confluent.cloud/"
  headers := (basicAuth · "api_key" "api_secret")
  check := "org/v2/environments"
  costs := "billing/v1/costs"
  params := dayParams "start_date" "end_date"
  list := "data"
  lines := each {
    service := inner "resource" "display_name" "Confluent Cloud"
    usageDate := day "start_date"
    amount := number "amount" } }

def announced (key : String) : Connector where
  key := key
  validate _ :=
    return { valid := false, error := some (key ++ " integration is coming soon.") }
  fetch _ _ _ := return .list []
  lines _ _ _ := .ok []
  ingest _ _ _ _ := return { succeeded := false, message := key ++ " is coming soon." }

def cloudflare : Connector := announced "cloudflare"

def vercel : Connector := announced "vercel"

end CloudSpend.Connector
