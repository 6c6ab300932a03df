import CloudSpend.Connector.Basic
import CloudSpend.Source.BigQuery
import CloudSpend.Source.BlobStorage
import CloudSpend.Source.CostReport

/-! # Clouds -/

namespace CloudSpend.Connector

def exporting (key name : String) (validate : Value → Run Validation)
    (ingest : Value → Value → Value → Run Value) (countKey : String) : Connector where
  key := key
  validate := validate
  fetch _ _ _ := return .list []
  lines _ _ _ := .ok []
  ingest config start stop _ :=
    Run.recover (do
      Run.disconnect
      let outcome ← ingest config start stop
      return {
        succeeded := true
        rows := ← liftM (outcome.getD countKey (.int 0))
        message := "Ingested " ++ name ++ " data." })
      fun e => return { succeeded := false, message := e.message }

def renamed (config : Value) (keys : List (String × String)) : Result Value := do
  return .object (← keys.mapM fun k => do return (k.1, ← config.get k.2))

namespace Aws

def validate (config : Value) : Run Validation :=
  checking do
    let args : Row ← liftM (do
      return [("RoleArn", ← config.field "role_arn"), ("RoleSessionName", "CloudPulseValidation"),
        ("ExternalId", ← config.getD "external_id" "")] : Result Row)
    let reply ← Run.aws "sts" "assume_role" .null args
    let account ← liftM (do
      let arn ← (← (← reply.field "AssumedRoleUser").field "Arn").expectText "split"
      match (Text.split arn ":")[4]? with
      | some account => return account
      | none => throw .outsideList : Result String)
    return { valid := true, account := .text account }

def ingest (config : Value) (_start _stop : Value) : Run Value := do
  let report ← liftM (do
    Source.CostReport.configure (← renamed config
      [("role_arn", "role_arn"), ("external_id", "external_id"), ("bucket", "cur_bucket"),
       ("prefix", "cur_prefix"), ("report_name", "cur_report_name")]) : Result Source.CostReport)
  report.ingest .null .null

end Aws

def aws : Connector := exporting "aws" "AWS CUR" Aws.validate Aws.ingest "total_rows"

namespace Gcp

def validate (config : Value) : Run Validation :=
  checking do
    let project ← liftM (do
      Source.accountProject (← Source.readAccount (← config.field "service_account_json"))
        : Result Value)
    return { valid := true, account := project }

def ingest (config : Value) (start stop : Value) : Run Value := do
  let source ← liftM (do
    Source.BigQuery.configure (← renamed config
      [("service_account_json", "service_account_json"), ("billing_dataset", "billing_dataset")])
      : Result Source.BigQuery)
  source.ingest (.text (← liftM start.dayText)) (.text (← liftM stop.dayText))

end Gcp

def gcp : Connector := exporting "gcp" "GCP billing" Gcp.validate Gcp.ingest "rows_ingested"

namespace Azure

def validate (config : Value) : Run Validation :=
  checking do
    let (tenant, client, secret) ← liftM (do
      return (← config.field "tenant_id", ← config.field "client_id", ← config.field "client_secret")
      : Result (Value × Value × Value))
    Source.noteClientSecret tenant client secret
    Run.noteCloud (.list ["token", "https://management.azure.com/.default"])
    let token ← liftM (← get).outside.azureToken
    return { valid := token.truthy }

def ingest (config : Value) (start stop : Value) : Run Value := do
  let keys := ["client_id", "client_secret", "tenant_id", "storage_account", "container"]
  let source ← liftM (do
    Source.BlobStorage.configure (← renamed config (keys.map fun k => (k, k)))
      : Result Source.BlobStorage)
  source.ingest (.text (← liftM start.dayText)) (.text (← liftM stop.dayText)) ""

end Azure

def azure : Connector := exporting "azure" "Azure billing" Azure.validate Azure.ingest "rows_ingested"

namespace Kubernetes

def validate (config : Value) : Run Validation := do
  let cluster ← liftM (config.get "cluster_name")
  let token ← if cluster.truthy then liftM (config.get "agent_token") else pure .null
  if token.truthy then return { valid := true, account := cluster }
  else return { valid := false, error := some "cluster_name and agent_token are required." }

end Kubernetes

def kubernetes : Connector where
  key := "kubernetes"
  validate := Kubernetes.validate
  fetch _ _ _ := return .list []
  lines _ _ _ := .ok []
  ingest _ _ _ _ := return {
    succeeded := true
    message := "Kubernetes costs are ingested via the CloudPulse agent. Deploy with Helm." }

namespace Oracle

def signer (config : Value) : Run Value := do
  if !(← get).outside.signsOracle then
    throw (.runtime "oci package not installed. pip install oci")
  liftM (do
    return .object [("signer", .object [("tenancy", ← config.field "tenancy_ocid"),
      ("user", ← config.field "user_ocid"), ("fingerprint", ← config.field "fingerprint"),
      ("private_key_content", ← config.field "private_key")])] : Result Value)

def region (config : Value) : Result String := do
  return (← config.getD "region" "us-ashburn-1").display

def validate (config : Value) : Run Validation :=
  checking do
    let signer ← signer config
    let region ← liftM (region config)
    let tenancy ← liftM (config.field "tenancy_ocid")
    let _ ← Run.sendOk {
      method := "GET"
      url := "https://identity." ++ region ++ ".oraclecloud.com/20160918/tenancies/" ++ tenancy.display
      auth := some signer
      timeout := some (.int 15) }
    return { valid := true, account := tenancy }

def fetch (config : Value) (start stop : Value) : Run Value := do
  let signer ← signer config
  let region ← liftM (region config)
  let tenancy ← liftM (config.field "tenancy_ocid")
  let data ← Run.sendJson {
    method := "POST"
    url := "https://usageapi." ++ region ++ ".oci.oraclecloud.com/20200107/usage"
    auth := some signer
    json := some (.object [("tenantId", tenancy),
      ("timeUsageStarted", .text (start.display ++ "T00:00:00Z")),
      ("timeUsageEnded", .text (stop.display ++ "T00:00:00Z")),
      ("granularity", "DAILY"), ("queryType", "COST")])
    timeout := some (.int 60) }
  liftM (data.getD "items" (.list []))

def lines (config : Value) (_today : Date) (raw : Value) : Result (List Line) :=
  Columns.lines {
    service := cell "service" "OCI"
    usageDate := day "timeUsageStarted"
    amount := number "computedAmount"
    currency := cell "currency" "USD"
    region := cell "region" .null
    accountId := fun _ => config.get "tenancy_ocid" } "oracle" raw

end Oracle

def oracle : Connector := standard "oracle" Oracle.validate Oracle.fetch Oracle.lines

def linode : Connector := told "linode" {
  address := fun _ => .ok "https://api.linode.com/v4/account"
  headers := (bearer · "api_key")
  check := ""
  account := fun _ data => data.get "euuid"
  costs := "/invoices"
  list := "data"
  lines := each { service := fixed "Linode", usageDate := day "date", amount := number "total" } }

end CloudSpend.Connector
