import CloudSpend.Source.Basic

/-! # Cost exports in blob storage -/

namespace CloudSpend.Source

open Run

structure BlobStorage where
  clientId : Value
  clientSecret : Value
  tenantId : Value
  storageAccount : Value
  container : Value
  directory : Storage.Path

def noteClientSecret (tenant client secret : Value) : Run Unit :=
  noteCloud (.list ["credential", "ClientSecretCredential", .object
    [("tenant_id", tenant), ("client_id", client), ("client_secret", secret)]])

namespace BlobStorage

def configure (settings : Value) : Result BlobStorage := do
  let setting (key : String) : Result Value := do return (← settings.get key).orElse ""
  return {
    clientId := ← setting "client_id"
    clientSecret := ← setting "client_secret"
    tenantId := ← setting "tenant_id"
    storageAccount := ← setting "storage_account"
    container := ← setting "container"
    directory := ← Source.directory (← settings.get "output_dir") "azure" }

def connect (b : BlobStorage) : Run Unit :=
  connectOnce do
    if b.clientId.truthy && b.clientSecret.truthy && b.tenantId.truthy then
      noteClientSecret b.tenantId b.clientId b.clientSecret
    else noteCloud (.list ["credential", "DefaultAzureCredential", .object []])
    noteCloud (.list ["blob service",
      .text ("https://" ++ b.storageAccount.display ++ ".blob.core.windows.net")])

def openContainer (b : BlobStorage) : Run Unit := do
  b.connect
  noteCloud (.list ["container", b.container])

def list (start : Value) : Run (List String) := do
  noteCloud (.list ["list", start])
  let outside := (← get).outside
  if !outside.listsBlobs then throw (.runtime "the container cannot be listed")
  let names := outside.blobs.map (·.1)
  match start with
  | .text s => return names.filter fun name => Text.startsWith name s
  | v => if names.isEmpty then return [] else throw (.wrongKind
      ("startswith first arg must be str or a tuple of str, not " ++ v.kind.name))

def canRead (b : BlobStorage) : Run Bool :=
  recover (do
    b.openContainer
    let _ ← list ""
    return true) fun _ => return false

def files (b : BlobStorage) (start : Value) : Run (List String) := do
  b.openContainer
  let names ← recover (list start) fun _ => return []
  return (names.filter fun n => Text.endsWith n ".csv").mergeSort fun a b => !(b < a)

def rows (b : BlobStorage) (name : Value) : Run (List Value) := do
  b.openContainer
  recover (do
    noteCloud (.list ["get", name])
    match (name.text?.bind (Entries.get? (← get).outside.blobs)).join with
    | some text => liftM (Codec.Csv.rows (Codec.Csv.withoutMark text))
    | none => throw (.runtime "the blob cannot be read")) fun _ => return []

def isBetween (start stop row : Value) : Result Bool := do
  let day ← (← row.getD "Date" (← row.getD "UsageDateTime" "")).take 10
  if !day.truthy then return false
  if ← start.le day then day.lt stop else return false

def ingest (b : BlobStorage) (start stop names : Value) : Run Value := do
  let outcome (count files : Nat) (path : Option String) : Value :=
    .object [("rows_ingested", count), ("files_processed", files), ("output_path", Value.ofText? path)]
  let files ← b.files names
  let chosen ← files.mapM fun f => do
    let rows ← b.rows (.text f)
    liftM (rows.filterM (isBetween start stop) : Result (List Value))
  let (count, path) ← keep .azure b.directory (do return "azure_" ++ (← spanName start stop))
    chosen.flatten
  return outcome count files.length path

def ingestFile (b : BlobStorage) (file : Value) : Run Nat := do
  let path ← liftM (Storage.Path.ofValue file)
  if (← look path).isNone then return 0
  let text ← readText path path.text
  let rows ← liftM (Codec.Csv.fileRows (Codec.Csv.withoutMark text))
  return (← keep .azure b.directory (.ok ("azure_" ++ path.stem)) rows).1

end BlobStorage

end CloudSpend.Source
