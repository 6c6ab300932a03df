import CloudSpend.Connector.Basic

/-! # Services for developers -/

namespace CloudSpend.Connector

namespace GitHub

def headers (config : Value) : Result Value := do
  return .object [("Authorization", .text ("Bearer " ++ (← config.field "access_token").display)),
    ("Accept", "application/vnd.github+json"), ("X-GitHub-Api-Version", "2022-11-28")]

def ask (config org : Value) (path : String) : Run Web.Reply := do
  Run.send {
    method := "GET"
    url := "https://api.github.com/orgs/" ++ org.display ++ path
    headers := some (← liftM (headers config))
    timeout := some (.int 15) }

def validate (config : Value) : Run Validation :=
  checking do
    let org ← liftM (config.field "org")
    let data ← liftM (← Run.success (← ask config org "")).json
    return { valid := true, account := ← liftM (data.get "login") }

def bills : List String := ["actions", "packages", "shared-storage"]

def mark (bill : Value) (kind : String) : Result Value :=
  match bill with
  | .object es => .ok (.object (Entries.put es "_billing_type" (.text kind)))
  | .list _ => .error (.listIndex .text)
  | v => .error (.wrongKind ("'" ++ v.kind.name ++ "' object does not support item assignment"))

def fetch (config : Value) (_start _stop : Value) : Run Value := do
  let org ← liftM (config.field "org")
  let found ← bills.mapM fun kind => do
    let reply ← ask config org ("/settings/billing/" ++ kind)
    if reply.isSuccess then return some (← liftM (do mark (← reply.json) kind : Result Value))
    else return none
  return .list (found.filterMap id)

def prices : List (String × String × Float) :=
  [("actions", "total_paid_minutes_used", 0.008),
   ("packages", "total_paid_gigabytes_bandwidth_used", 0.50),
   ("shared-storage", "estimated_paid_storage_for_month", 0.25)]

def amount (bill kind : Value) : Result Value :=
  match kind.text?.bind (Entries.get? prices) with
  | some (key, price) => do
    let units ← (← bill.getD key (.int 0)).toFloat
    return .float (units * price)
  | none => .ok (.float 0)

def lines (config : Value) (today : Date) (raw : Value) : Result (List Line) := do
  (← raw.items).mapM fun bill => do
    let kind ← bill.getD "_billing_type" "github"
    let total ← amount bill kind
    let columns : Columns := {
      service := fun _ => do
        let name ← kind.expectText "replace"
        return .text ("GitHub " ++ Text.title (Text.replace name "-" " "))
      usageDate := fixed (.text today.text)
      amount := fun _ => total.round 4
      accountId := fun _ => config.field "org" }
    columns.line "github" bill

end GitHub

def gitHub : Connector := standard "github" GitHub.validate GitHub.fetch GitHub.lines

def temporalCloud : Connector := told "temporal_cloud" {
  address := fun _ => .ok "https://saas-api.tmprl.cloud/api/v1/"
  headers := (bearer · "api_key")
  check := "namespaces"
  costs := "billing/usage"
  list := "usage"
  lines := each { service := fixed "Temporal Cloud", usageDate := day "date", amount := number "cost" } }

namespace Twilio

def ask (config : Value) (path : String) (params : Result (Option Value)) (timeout : Nat) :
    Run Web.Reply := do
  let account ← liftM (config.field "account_sid")
  let token ← liftM (config.field "auth_token")
  let params ← liftM params
  Run.sendOk {
    method := "GET"
    url := "https://api.twilio.com/2010-04-01/Accounts/" ++ account.display ++ path
    params := params
    auth := some (.list [account, token])
    timeout := some timeout }

def validate (config : Value) : Run Validation :=
  checking do
    let _ ← ask config ".json" (.ok none) 15
    return { valid := true, account := ← liftM (config.field "account_sid") }

def fetch (config : Value) (start stop : Value) : Run Value := do
  let reply ← ask config "/Usage/Records/Daily.json" (dayParams "StartDate" "EndDate" start stop) 30
  liftM (do (← reply.json).getD "usage_records" (.list []) : Result Value)

def lines (_config : Value) (_today : Date) (raw : Value) : Result (List Line) :=
  Columns.lines {
    service := cell "category" "Twilio"
    usageDate := cell "start_date" ""
    amount := number "price"
    currency := cell "price_unit" "USD"
    usageType := cell "description" .null
    usageQuantity := number "count" } "twilio" raw

end Twilio

def twilio : Connector := standard "twilio" Twilio.validate Twilio.fetch Twilio.lines

end CloudSpend.Connector
