import CloudSpend.Api.CloudAccount
import CloudSpend.Connector.All
import CloudSpend.Provider.Catalog

/-! # Integrations -/

namespace CloudSpend.Api

open Store (cell textCell holds)
open Form (required maybe)

def tell (event : String) (data : Row) : Handler Unit := do
  let s ← getThe Service
  liftM (Webhook.dispatch s.receivers s.webhooks event (.object data))

def providerName (key : String) : String := ((Provider.find? key).map (·.name)).getD key

def describeIntegration (row : Row) : Handler Value :=
  describe ([.text "id", .text "provider", .text "provider_display_name", .text? "display_name"]
    ++ syncShown) (("provider_display_name", .text (providerName (textCell row "provider"))) :: row)

def integrationOf (c : Call) : Handler Row := Handler.byId .cloudAccounts "Integration" c.param

def isConnected (row : Row) : Bool := !holds "status" "disconnected" row

def checkCredentials (provider : String) (settings : Value) : Run Connector.Validation := do
  (← liftM (Connector.find provider)).validate settings

def connectProvider (c : Call) : Handler Value := do
  let key := textCell c.body "provider"
  match Provider.find? key with
  | none => throw (.http 400 ("Unknown provider: " ++ key))
  | some provider =>
    if provider.status != .active then throw (.http 400 (provider.name ++ " is coming soon."))
    let settings := c.field "credentials"
    match ← liftM (Run.attempt (checkCredentials key settings)) with
    | .error e => throw (.http 400 ("Credential validation failed: " ++ e.message))
    | .ok check =>
      if !check.valid.truthy then
        throw (.http 400 ("Invalid credentials: " ++ (Value.ofText? check.error).display))
      let row ← Handler.insert .cloudAccounts
        [("provider", .text key), ("account_identifier", check.account.orElse (.text key)),
         ("display_name", (c.field "display_name").orElse (.text provider.name)),
         ("connection_config", settings), ("status", "active")]
      tell "integration.connected" [("integration_id", cell row "id"), ("provider", .text key),
        ("display_name", cell row "display_name")]
      describeIntegration row

def validateIntegration (c : Call) : Handler Value := do
  let row ← integrationOf c
  return (← liftM (checkCredentials (textCell row "provider") (settingsOf row))).toValue

def dateArg? (c : Call) (name : String) : Result (Option Date) :=
  match textCell c.query name with
  | "" => .ok none
  | s => ((Date.read s).mapError (Fault.notDate s)).map some

def syncDays (c : Call) (today : Date) : Result (Date × Date) := do
  let last := (← dateArg? c "end_date").getD today
  match ← dateArg? c "start_date" with
  | some first => return (first, last)
  | none => return (← last.before 30, last)

def ingest (row : Row) (first last : Date) : Run Connector.Ingestion := do
  (← liftM (Connector.find (textCell row "provider"))).ingest (settingsOf row) first last .null

def concludeSync (c : Call) (row : Row) : Result Connector.Ingestion → Handler Value
  | .error e => do
    discard (reviseCloudAccount row (failedCells e.message))
    return syncAnswer "error" (.int 0) e.message
  | .ok outcome => do
    let now ← Handler.now
    discard (reviseCloudAccount row (if outcome.succeeded then syncedCells now outcome.rows
      else failedCells outcome.message))
    discard (liftM (Run.attempt Analytics.refresh) : Handler (Result Unit))
    tell (if outcome.succeeded then "sync.completed" else "sync.failed")
      [("integration_id", .text c.param), ("provider", cell row "provider"),
       ("rows_ingested", outcome.rows), ("message", .text outcome.message)]
    return syncAnswer (if outcome.succeeded then "success" else "error") outcome.rows
      outcome.message

def syncIntegration (c : Call) : Handler Value := do
  let row ← integrationOf c
  let (first, last) ← liftM (syncDays c (← Handler.today))
  let row ← reviseCloudAccount row [("status", "syncing")]
  concludeSync c row (← liftM (Run.attempt (ingest row first last)))

def disconnectIntegration (c : Call) : Handler Value := do
  let row ← integrationOf c
  discard (reviseCloudAccount row [("status", "disconnected")])
  tell "integration.disconnected" [("integration_id", .text c.param), ("provider", cell row "provider")]
  return done ("Disconnected " ++ textCell row "provider" ++ " integration.")

def integrationEndpoints : List Endpoint :=
  let all := "/api/v2/integrations"
  let one := all ++ "/:id"
  [{ method := "GET", path := all ++ "/catalog"
     run := fun _ => return .object [("categories", Provider.grouped)] },
   { method := "GET", path := all, query := [maybe "provider" .anyText]
     run := fun c => do
       let rows ← Handler.select .cloudAccounts fun row =>
         isConnected row && wordFits Store.providers "provider" (c.arg "provider") row
       return .list (← (newestFirst rows).mapM describeIntegration) },
   { method := "POST", path := all ++ "/connect", status := 201
     body := some (.record [required "provider" .anyText, maybe "display_name" .anyText,
       required "credentials" .table])
     run := connectProvider },
   { method := "POST", path := one ++ "/validate"
     answer := .record [required "valid" .bool, maybe "error" .anyText,
       maybe "account_identifier" .anyText]
     run := validateIntegration },
   { method := "POST", path := one ++ "/sync", query := syncFields, run := syncIntegration },
   { method := "DELETE", path := one, run := disconnectIntegration }]

def providersOf (rows : List Row) : List String :=
  (rows.map fun row => textCell row "provider").eraseDups

def providerLine (rows : List Row) (key : String) : Value :=
  let own := rows.filter (holds "provider" (.text key))
  .object [("provider", .text key), ("display_name", .text (providerName key)),
    ("count", .int own.length),
    ("status", if own.any (holds "status" "active") then "active" else "error")]

def latest (rows : List Row) : Value :=
  (rows.map fun row => cell row "last_sync_at").foldl (fun best v => match best, v with
    | .timestamp t, .timestamp u => if t.micros < u.micros then v else best
    | .timestamp _, _ => best
    | _, v => v) .null

def syncedRows (rows : List Row) : Result Int := do
  let counts ← (rows.filter fun row => (cell row "last_sync_rows").truthy).mapM fun row =>
    (cell row "last_sync_rows").toInt
  return counts.foldl (· + ·) 0

def integrationOverview : Endpoint where
  method := "GET"
  path := "/api/v2/dashboard/summary"
  run _ := do
    let rows ← Handler.select .cloudAccounts isConnected
    let count (status : String) : Value := .int (rows.filter (holds "status" (.text status))).length
    let total ← liftM (syncedRows rows)
    let stats ← liftM (Run.attempt Analytics.tableStats)
    return .object [
      ("total_integrations", .int rows.length),
      ("active_integrations", count "active"),
      ("syncing_integrations", count "syncing"),
      ("error_integrations", count "error"),
      ("providers", .list ((providersOf rows).map (providerLine rows))),
      ("total_synced_rows", .int total),
      ("last_sync_at", latest rows),
      ("has_data", .bool (match stats with | .ok s => !s.isEmpty | .error _ => false))]

end CloudSpend.Api
