import CloudSpend.Source.Basic

/-! # Billing exports in BigQuery -/

namespace CloudSpend.Source

def accountProject (info : Value) : Result Value := do
  match info with
  | .object es =>
    let missing := ["client_email", "token_uri"].filter fun key => !Entries.has es key
    if !missing.isEmpty then
      throw (.malformedAccount ("Service account info was not in the expected format, missing fields "
        ++ ", ".intercalate missing ++ "."))
    match Entries.get? es "private_key" with
    | none => throw (.malformedAccount "The private_key field was not found in the service account info.")
    | some (.text key) =>
      if Text.occurs "-----BEGIN" key then info.get "project_id"
      else throw (.malformedAccount "No key could be detected.")
    | some v => throw (.wrongKind (v.literal ++ " could not be converted to unicode"))
  | v => throw (.noAttribute v.kind "keys")

def readAccount (v : Value) : Result Value :=
  match v with
  | .text s => Json.read s
  | v => .error (.wrongKind ("the JSON object must be str, bytes or bytearray, not " ++ v.kind.name))

structure BigQuery where
  account : Value
  dataset : Value
  directory : Storage.Path

namespace BigQuery

def configure (settings : Value) : Result BigQuery := do
  return {
    account := (← settings.get "service_account_json").orElse ""
    dataset := (← settings.get "billing_dataset").orElse ""
    directory := ← Source.directory (← settings.get "output_dir") "gcp" }

def tableOf (row : Value) : Result Value :=
  match row with
  | .object _ => .ok row
  | row => do
    let entries ← (← row.items).mapIdxM fun i pair => do
      let parts ← pair.items.mapError fun _ => Fault.wrongKind
        ("cannot convert dictionary update sequence element #" ++ toString i ++ " to a sequence")
      match parts with
      | [key, v] => return (← key.keyText, v)
      | _ => throw (.refused ("dictionary update sequence element #" ++ toString i
          ++ " has length " ++ toString parts.length ++ "; 2 is required"))
    return .object (Entries.merge [] entries)

def connect (b : BigQuery) : Run Unit :=
  Run.connectOnce do
    let project ← if b.account.truthy then do
        let text ← liftM (b.account.expectText "startswith")
        let text ← if Text.startsWith text "\x7b" then pure text
          else Codec.Csv.unified <$> Run.readFile text
        liftM (do accountProject (← Json.read text) : Result Value)
      else pure .null
    Run.noteCloud (.object [("bigquery", project)])

def query (sql : String) (params : List Value) : Run (List Value) := do
  Run.noteCloud (.object [("sql", .text sql), ("params", .list params)])
  liftM (← get).outside.bigQuery

def canRead (b : BigQuery) : Run Bool :=
  Run.recover (do
    b.connect
    let _ ← query ("SELECT 1 FROM `" ++ b.dataset.display ++ "` LIMIT 1") []
    return true) fun _ => return false

def costSql (dataset : Value) : String :=
  "SELECT project.id AS project_id, service.description AS service_description, "
    ++ "location.region AS location_region, resource.name AS resource_name, usage_start_time, "
    ++ "cost_type, cost, currency, labels FROM `" ++ dataset.display
    ++ "` WHERE DATE(usage_start_time) >= @start_date AND DATE(usage_start_time) < @end_date "
    ++ "AND cost != 0 ORDER BY usage_start_time"

def ingest (b : BigQuery) (start stop : Value) : Run Value := do
  b.connect
  let rows ← query (costSql b.dataset)
    [.list ["start_date", "DATE", start], .list ["end_date", "DATE", stop]]
  let rows ← liftM (rows.mapM tableOf)
  let (count, path) ← keep .gcp b.directory (do return "gcp_" ++ (← spanName start stop)) rows
  return .object [("rows_ingested", count), ("output_path", Value.ofText? path)]

def ingestFile (b : BigQuery) (file : Value) : Run Nat := do
  let path ← liftM (Storage.Path.ofValue file)
  if (← Run.look path).isNone then return 0
  let rows ← liftM (Codec.Csv.fileRows (← Run.readText path path.text))
  return (← keep .gcp b.directory (.ok ("gcp_" ++ path.stem)) rows).1

end BigQuery

end CloudSpend.Source
