import CloudSpend.Analytics.CostQuery
import CloudSpend.Api.Budgeting
import CloudSpend.Source.BigQuery
import CloudSpend.Source.BlobStorage
import CloudSpend.Source.CostReport

/-! # Accounts of any cloud -/

namespace CloudSpend.Api

open Store (cell textCell holds)
open Form (required withDefault maybe)

def shownMoment (name : String) : Shown := .plain name (.optional .timestamp)

def syncShown : List Shown :=
  [.text "status", shownMoment "last_sync_at", .text? "last_sync_rows", .text? "sync_error",
   .created]

def cloudAccountShown : List Shown :=
  [.text "id", .text "provider", .text "account_identifier", .text? "display_name"] ++ syncShown

def cloudAccountOf (c : Call) : Handler Row := Handler.byId .cloudAccounts "Account" c.param

def reviseCloudAccount (row : Row) (changes : Row) : Handler Row :=
  Handler.update .cloudAccounts row changes

def syncedCells (now : Timestamp) (rows : Value) : Row :=
  [("status", "active"), ("last_sync_at", .timestamp now), ("last_sync_rows", .text rows.display),
   ("sync_error", .null)]

def failedCells (message : String) : Row :=
  [("status", "error"), ("sync_error", .text message)]

def syncAnswer (status : String) (rows : Value) (message : String) : Value :=
  .object [("status", .text status), ("rows_ingested", rows), ("message", .text message)]

def settingsOf (account : Row) : Value := (cell account "connection_config").orElse (.object [])

def pick (settings : Value) (names : List (String × String)) : Result Value := do
  return .object (← names.mapM fun n => do return (n.1, ← settings.get n.2))

def pickSame (settings : Value) (names : List String) : Result Value :=
  pick settings (names.map fun n => (n, n))

def takeOver (provider : String) (settings first last : Value) : Run Value := do
  Run.disconnect
  match provider with
  | "aws" =>
    let source ← liftM (do Source.CostReport.configure (← pick settings
      [("role_arn", "role_arn"), ("external_id", "external_id"), ("bucket", "cur_bucket"),
       ("prefix", "cur_prefix"), ("report_name", "cur_report_name")]) : Result _)
    liftM ((← source.ingest .null .null).getD "total_rows" (.int 0))
  | "gcp" =>
    let source ← liftM (do Source.BigQuery.configure (← pickSame settings
      ["service_account_json", "billing_dataset"]) : Result _)
    liftM ((← source.ingest first last).getD "rows_ingested" (.int 0))
  | "azure" =>
    let source ← liftM (do Source.BlobStorage.configure (← pickSame settings
      ["client_id", "client_secret", "tenant_id", "storage_account", "container"]) : Result _)
    liftM ((← source.ingest first last "").getD "rows_ingested" (.int 0))
  | _ => return .int 0

def syncSpan (c : Call) (today : Date) : Result (Value × Value) := do
  let last := (c.arg "end_date").orElse (.text today.text)
  if (c.arg "start_date").truthy then return (c.arg "start_date", last)
  return (.text (← today.before 30).text, last)

def syncCloudAccount (c : Call) : Handler Value := do
  let account ← cloudAccountOf c
  let (first, last) ← liftM (syncSpan c (← Handler.today))
  let account ← reviseCloudAccount account [("status", "syncing")]
  let provider := textCell account "provider"
  let outcome ← liftM (Run.attempt do
    let rows ← takeOver provider (settingsOf account) first last
    Analytics.refresh
    return rows)
  match outcome with
  | .ok rows =>
    discard (reviseCloudAccount account (syncedCells (← Handler.now) rows))
    return syncAnswer "success" rows
      ("Synced " ++ rows.display ++ " billing records from " ++ provider)
  | .error e =>
    discard (reviseCloudAccount account (failedCells e.message))
    return syncAnswer "error" (.int 0) e.message

def addCloudAccount (c : Call) : Handler Value := do
  let provider := textCell c.body "provider"
  if !Store.providers.members.contains provider then
    throw (.http 400
      ("Invalid provider: " ++ provider ++ ". Must be one of: aws, gcp, azure"))
  describe cloudAccountShown (← Handler.insert .cloudAccounts (("status", "pending") :: c.body))

def syncFields : List Form.Field := [maybe "start_date" .anyText, maybe "end_date" .anyText]

def cloudAccountEndpoints : List Endpoint :=
  let all := "/api/v2/cloud_accounts"
  let one := all ++ "/:id"
  [{ method := "GET", path := all, query := [maybe "provider" .anyText]
     run := fun c => do
       let rows ← Handler.select .cloudAccounts
         (wordFits Store.providers "provider" (c.arg "provider"))
       return .list (← (newestFirst rows).mapM (describe cloudAccountShown)) },
   { method := "POST", path := all, status := 201
     body := some (.record [required "provider" .anyText, required "account_identifier" .anyText,
       maybe "display_name" .anyText, withDefault "connection_config" .table (.object [])])
     run := addCloudAccount },
   { method := "GET", path := one
     run := fun c => do describe cloudAccountShown (← cloudAccountOf c) },
   { method := "PUT", path := one
     body := some (.record [maybe "display_name" .anyText, maybe "connection_config" .table])
     run := fun c => do
       let row ← cloudAccountOf c
       describe cloudAccountShown
         (← reviseCloudAccount row (c.body.filter fun e => !e.2.isNull)) },
   { method := "DELETE", path := one
     run := fun c => do
       discard (reviseCloudAccount (← cloudAccountOf c) [("status", "disconnected")])
       return done "Account disconnected successfully" },
   { method := "POST", path := one ++ "/sync", query := syncFields, run := syncCloudAccount }]

end CloudSpend.Api
