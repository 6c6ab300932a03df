import CloudSpend.Connector.Clouds
import CloudSpend.Connector.Database
import CloudSpend.Connector.Development
import CloudSpend.Connector.Intelligence
import CloudSpend.Connector.Observability

/-! # Imported files, and all connectors -/

namespace CloudSpend.Connector

namespace Import

def directory (config : Value) : Result Storage.Path := do
  Storage.Path.ofValue (← config.getD "import_path" "")

def validate (config : Value) : Run Validation := do
  let path ← liftM (directory config)
  match ← Run.look path with
  | some .directory =>
    let found := (← Run.namesWith path ".csv") ++ (← Run.namesWith path ".parquet")
    if found.isEmpty then
      return { valid := false, error := some ("No CSV or Parquet files found in " ++ path.text) }
    return { valid := true, account := ← liftM (config.getD "provider_name" "custom") }
  | _ => return { valid := false, error := some ("Path does not exist: " ++ path.text) }

def copyTable (path target : Storage.Path) : Run Unit := do
  let w ← get
  if (w.files.locate path).toOption == (w.files.locate target).toOption then
    throw (.sameFile path.text)
  match w.files.at? path with
  | some .directory => throw (.isDirectory path.text)
  | some content => set { w with files := w.files.putAt target content }
  | none => throw (.noFile path.text)

def convert (path target : Storage.Path) : Run Bool := do
  match ← Run.look path with
  | some (.text s) =>
    if s.isEmpty then return false
    Run.writeTable { path := target.text, columns := [], source := some s }
    return true
  | _ => return false

def ingest (config : Value) (_start _stop : Value) (output : Value) : Run Ingestion := do
  let source ← liftM (directory config)
  let target ← liftM (Source.directory output "custom")
  Run.makeDirectory target
  let tables ← Run.namesWith source ".parquet"
  for name in tables do copyTable (source.join name) (target.join name)
  let files := (← Run.namesWith source ".csv").map fun name =>
    (name, (Storage.Path.splitName name).1 ++ ".parquet")
  let converted ← (files.mergeSort fun f g => !(g.2 < f.2)).filterM fun f =>
    convert (source.join f.1) (target.join f.2)
  let count := tables.length + converted.length
  return {
    succeeded := true
    rows := count
    message := "Imported " ++ toString count ++ " files from " ++ source.text ++ "." }

end Import

def custom : Connector where
  key := "custom"
  validate := Import.validate
  fetch _ _ _ := return .list []
  lines _ _ _ := .ok []
  ingest := Import.ingest

/-! ## All connectors -/

def all : List Connector :=
  [aws, azure, gcp, kubernetes, oracle, linode, datadog, newRelic, coralogix, grafanaCloud, mongoDb,
   snowflake, databricks, planetScale, clickHouse, openAi, anthropic, anyscale, cursor, gitHub,
   temporalCloud, twilio, fastly, confluent, cloudflare, vercel, custom]

def keys : List String := (all.map (·.key)).mergeSort fun a b => !(b < a)

def find (provider : Value) : Result Connector := do
  match all.find? fun c => (.text c.key : Value) == provider with
  | some c => return c
  | none => throw (.refused ("Unknown provider: " ++ (← provider.asKey).display ++ ". Available: "
      ++ ", ".intercalate keys))

end CloudSpend.Connector
