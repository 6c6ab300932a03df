import CloudSpend.Source.Basic

/-! # Cost and usage reports -/

namespace CloudSpend.Source

open Run

structure CostReport where
  role : Value
  externalId : Value
  bucket : Value
  folder : Value
  report : Value
  directory : Storage.Path

namespace CostReport

def configure (settings : Value) : Result CostReport := do
  return {
    role := ← settings.get "role_arn"
    externalId := (← settings.get "external_id").orElse "cloudpulse-default-external-id"
    bucket := (← settings.get "bucket").orElse ""
    folder := (← settings.get "prefix").orElse "cur/"
    report := (← settings.get "report_name").orElse ""
    directory := ← Source.directory (← settings.get "output_dir") "aws" }

def connect (c : CostReport) : Run Unit :=
  connectOnce do
    if c.role.truthy then
      let reply ← aws "sts" "assume_role" .null
        ([("RoleArn", c.role), ("RoleSessionName", "cloudpulse-cur-reader"),
          ("DurationSeconds", .int 3600)]
          ++ if c.externalId.truthy then [("ExternalId", c.externalId)] else [])
      let credentials ← liftM (reply.field "Credentials")
      openSession (← liftM (do
        return [("aws_access_key_id", ← credentials.field "AccessKeyId"),
          ("aws_secret_access_key", ← credentials.field "SecretAccessKey"),
          ("aws_session_token", ← credentials.field "SessionToken")] : Result Row))
    else openSession []

def reportFolder (c : CostReport) : String := c.folder.display ++ c.report.display ++ "/"

def period? (folder : String) : Option String :=
  let name := String.ofList (folder.toList.reverse.dropWhile (· == '/')).reverse
  let last := (Text.split name "/").getLastD ""
  if last.length == 17 && Text.occurs "-" last then some last else none

def periodsIn (listing : Value) : Result (List String) := do
  let folders ← (← listing.getD "CommonPrefixes" (.list [])).items
  let found ← folders.mapM fun f => do
    return period? (← (← f.field "Prefix").expectText "rstrip")
  return (found.filterMap id).mergeSort fun a b => !(b < a)

def periods (c : CostReport) : Run (List String) := do
  c.connect
  let listing ← orRefused
    (aws "s3" "list_objects_v2" .null
      [("Bucket", c.bucket), ("Prefix", .text c.reportFolder), ("Delimiter", "/")])
    (.object [])
  liftM (periodsIn listing)

def isData (key : String) : Bool := Text.endsWith key ".csv.gz" || Text.endsWith key ".parquet"

def filesIn (pages : List Value) : Result (List String) := do
  let keys ← pages.mapM fun page => do
    (← (← page.getD "Contents" (.list [])).items).mapM fun o => do
      (← o.field "Key").expectText "endswith"
  return keys.flatten.filter isData

def files (c : CostReport) (period : Value) : Run (List String) := do
  c.connect
  orRefused (do
    let pages ← awsPages "s3" "list_objects_v2" .null
      [("Bucket", c.bucket), ("Prefix", .text (c.reportFolder ++ period.display ++ "/"))]
    liftM (filesIn pages)) []

def decompress (body : Value) : Result String :=
  match body with
  | .object [("gzip", .text s)] => .ok s
  | .object [("text", .text s)] =>
    if s.isEmpty then .ok "" else .error (.notCompressed ((s.toUTF8.toList.take 2).map UInt8.toNat))
  | .object [("parquet", _)] => .error (.notCompressed [80, 65])
  | v => .error (.noAttribute v.kind "read")

def tableRows (body : Value) : Result (List Value) :=
  match body with
  | .object [("parquet", .object columns)] => do
    let count ← match columns with
      | [] => .error .noRows
      | first :: _ => first.2.size
    (List.range count).mapM fun (i : Nat) => do
      return .object (← columns.mapM fun column => do return (column.1, ← column.2.item i))
  | .object [("gzip", _)] | .object [("text", _)] => .error (.refused "not a table")
  | v => .error (.noAttribute v.kind "read")

def rowsBy (read : Value → Result (List Value)) (c : CostReport) (key : Value) :
    Run (List Value) := do
  c.connect
  orRefused (do
    let reply ← aws "s3" "get_object" .null [("Bucket", c.bucket), ("Key", key)]
    liftM (do read (← reply.field "Body") : Result (List Value))) []

def separated (body : Value) : Result (List Value) := do Codec.Csv.rows (← decompress body)

def separatedRows : CostReport → Value → Run (List Value) := rowsBy separated

def read (key : String) (body : Value) : Result (List Value) :=
  if Text.endsWith key ".csv.gz" then separated body else tableRows body

def rows (c : CostReport) (key : String) : Run (List Value) := rowsBy (read key) c (.text key)

def ingestPeriod (c : CostReport) (period : Value) : Run Nat := do
  let rows ← (← c.files period).mapM c.rows
  return (← keep .aws c.directory (.ok ("cur_" ++ period.display)) rows.flatten).1

def monthText (month : Value) : Result String :=
  match month with
  | .text _ | .float _ => .error (.refused
      ("Unknown format code 'd' for object of type '" ++ month.kind.name ++ "'"))
  | .date _ | .timestamp _ => .ok "02d"
  | v => match v.int? with
    | some n =>
      let digits := toString n
      .ok (if digits.length < 2 then "0" ++ digits else digits)
    | none => .error (.noFormat v.kind)

def monthStart (year month : Value) : Result String := do
  return year.display ++ (← monthText month) ++ "01"

def ingest (c : CostReport) (year month : Value) : Run Value := do
  let all ← c.periods
  let chosen ← if year.truthy && month.truthy then do
      let start ← liftM (monthStart year month)
      pure (all.filter fun p => Text.startsWith p start)
    else pure all
  let counts ← chosen.mapM fun p => c.ingestPeriod (.text p)
  let total : Nat := counts.foldl (· + ·) 0
  return .object [("periods_processed", (counts.filter (0 < ·)).length), ("total_rows", total),
    ("output_dir", .text c.directory.text)]

def ingestFile (c : CostReport) (file : Value) : Run Nat := do
  let path ← liftM (Storage.Path.ofValue file)
  if (← look path).isNone then return 0
  let text ← if path.suffix == ".gz" then readCompressed path else readText path path.text
  let rows ← liftM (Codec.Csv.fileRows text)
  return (← keep .aws c.directory (.ok ("cur_" ++ Text.replace path.stem ".csv" "")) rows).1

end CostReport

end CloudSpend.Source
