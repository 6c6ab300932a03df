import CloudSpend.Codec.Csv
import CloudSpend.Data.Access
import CloudSpend.Data.Json

/-! # Charges and billing exports -/

namespace CloudSpend.Billing

structure Charge where
  provider : String
  accountId : Value
  service : Value
  region : Value
  resourceId : Value
  usageDate : Value
  chargeType : String
  amount : Float
  currency : Value
  tags : Value

namespace Charge

def toRow (c : Charge) : Row :=
  [("provider", .text c.provider), ("account_id", c.accountId), ("service", c.service),
   ("region", c.region), ("resource_id", c.resourceId), ("usage_date", c.usageDate),
   ("charge_type", .text c.chargeType), ("amount", .float c.amount), ("currency", c.currency),
   ("tags", c.tags)]

def readAmount (cell : Value) : Result Float :=
  match cell.toFloat with
  | .ok x => .ok x
  | .error e => if e.category == .value || e.category == .type then .ok 0 else .error e

def isMaterial (x : Float) : Bool := !(x.abs < 0.0001)

def rounded (x : Float) : Result Float :=
  match Numeral.roundTo? x 6 with
  | some y => .ok y
  | none => .error .roundedTooLarge

def tagsText (tags : Value) : Result Value :=
  if tags.truthy then (Json.encode tags).map .text else .ok .null

def dayText (cell : Value) : String :=
  match cell with
  | .date d => d.looseText
  | .timestamp t => t.date.looseText
  | v => Text.take 10 v.display

def either (row : Value) (first second : String) (default : Value) : Result Value := do
  row.getD first (← row.getD second default)

def word (table : List (String × String)) (cell default : Value) : Result Value :=
  match cell with
  | .list _ => .error (.unhashable .list)
  | .object _ => .error (.unhashable .object)
  | .text s => .ok (((Entries.get? table s).map Value.text).getD default)
  | _ => .ok default

def typeOf (table : List (String × String)) (cell : Value) : Result String :=
  (word table cell (.text "Usage")).map fun v => v.display

end Charge

def collect {α β : Type} (f : α → Result (Option β)) : List α → Result (List β)
  | [] => .ok []
  | a :: rest => do
    let b ← f a
    let bs ← collect f rest
    return b.toList ++ bs

end CloudSpend.Billing

/-! ## Billing exports -/

/-! ### Cost and usage reports of AWS -/

namespace CloudSpend.Billing.Aws

def chargeTypes : List (String × String) :=
  [("Usage", "Usage"), ("Tax", "Tax"), ("Credit", "Credit"), ("Refund", "Refund"), ("Fee", "Fee"),
   ("RIFee", "Commitment"), ("SavingsPlanCoveredUsage", "Usage"),
   ("SavingsPlanNegation", "Credit"), ("SavingsPlanUpfrontFee", "Commitment"),
   ("SavingsPlanRecurringFee", "Commitment"), ("DiscountedUsage", "Usage"),
   ("EdpDiscount", "Credit"), ("BundledDiscount", "Credit")]

def serviceNames : List (String × String) :=
  [("AmazonEC2", "Amazon EC2"), ("AmazonS3", "Amazon S3"), ("AmazonRDS", "Amazon RDS"),
   ("AWSLambda", "AWS Lambda"), ("AmazonDynamoDB", "Amazon DynamoDB"),
   ("AmazonCloudFront", "Amazon CloudFront"), ("AmazonEKS", "Amazon EKS"),
   ("AmazonElastiCache", "Amazon ElastiCache"), ("AmazonRedshift", "Amazon Redshift"),
   ("AmazonSNS", "Amazon SNS"), ("AmazonSQS", "Amazon SQS"), ("AmazonKinesis", "Amazon Kinesis"),
   ("AWSCloudTrail", "AWS CloudTrail"), ("AmazonGuardDuty", "Amazon GuardDuty"),
   ("AWSConfig", "AWS Config"), ("AmazonRoute53", "Amazon Route 53"), ("AmazonVPC", "Amazon VPC"),
   ("AWSELB", "Elastic Load Balancing"), ("AmazonECS", "Amazon ECS"), ("AmazonEFS", "Amazon EFS"),
   ("AmazonOpenSearchService", "Amazon OpenSearch"), ("AmazonSageMaker", "Amazon SageMaker")]

def tagMark : String := "resourceTags/user:"

def tags (entries : Row) : Result Row :=
  entries.foldlM (fun found e =>
    if e.1 == Codec.Csv.surplusKey then .error (.noAttribute .null "startswith")
    else if Text.startsWith e.1 tagMark && e.2.truthy then
      .ok (Entries.put found (Text.replace e.1 tagMark "") e.2)
    else .ok found) []

def charge (row : Value) : Result (Option Charge) := do
  let amount ← Charge.readAmount (← row.getD "lineItem/UnblendedCost" "0")
  if !Charge.isMaterial amount then return none
  let chargeType ← Charge.typeOf chargeTypes (← row.getD "lineItem/LineItemType" "Usage")
  let product ← row.getD "lineItem/ProductCode" "Unknown"
  let service ← Charge.word serviceNames product product
  let start ← row.getD "lineItem/UsageStartDate" ""
  if !start.truthy then return none
  let day ← start.take 10
  if !day.truthy then return none
  let tags ← tags (← row.entries)
  return some {
    provider := "aws"
    accountId := ← row.getD "lineItem/UsageAccountId" ""
    service := service
    region := ← row.getD "product/region" ""
    resourceId := ← row.getD "lineItem/ResourceId" ""
    usageDate := day
    chargeType := chargeType
    amount := ← Charge.rounded amount
    currency := ← row.getD "lineItem/CurrencyCode" "USD"
    tags := ← Charge.tagsText (.object tags) }

end CloudSpend.Billing.Aws

/-! ### Billing exports of Google Cloud -/

namespace CloudSpend.Billing.Gcp

def chargeTypes : List (String × String) :=
  [("regular", "Usage"), ("tax", "Tax"), ("adjustment", "Credit"), ("rounding_error", "Credit")]

def labelPairs (labels : List Value) : Result (List (Value × Value)) :=
  labels.foldlM (fun found label => match label with
    | .object es =>
      let key := (Entries.get? es "key").getD ""
      match key with
      | .list _ => .error (.unhashable .list)
      | .object _ => .error (.unhashable .object)
      | key => .ok (Entries.put found key ((Entries.get? es "value").getD ""))
    | _ => .ok found) []

def tags (labels : Value) : Result Value :=
  match labels with
  | .list items => do
    let pairs ← labelPairs items
    return .object (← pairs.mapM fun p => do return (← Json.keyText p.1, p.2))
  | .object es => .ok (.object es)
  | _ => .ok (.object [])

def charge (row : Value) : Result (Option Charge) := do
  let amount ← Charge.readAmount (← row.getD "cost" (.int 0))
  if !Charge.isMaterial amount then return none
  let chargeType ← Charge.typeOf chargeTypes (← row.getD "cost_type" "regular")
  let day := Charge.dayText (← row.getD "usage_start_time" "")
  if day.isEmpty then return none
  let tags ← tags (← row.getD "labels" (.list []))
  return some {
    provider := "gcp"
    accountId := ← Charge.either row "project.id" "project_id" ""
    service := ← Charge.either row "service.description" "service_description" "Unknown"
    region := ← Charge.either row "location.region" "location_region" ""
    resourceId := ← Charge.either row "resource.name" "resource_name" ""
    usageDate := .text day
    chargeType := chargeType
    amount := ← Charge.rounded amount
    currency := ← row.getD "currency" "USD"
    tags := ← Charge.tagsText tags }

end CloudSpend.Billing.Gcp

/-! ### Cost exports of Azure -/

namespace CloudSpend.Billing.Azure

def chargeTypes : List (String × String) :=
  [("Usage", "Usage"), ("Purchase", "Commitment"), ("Tax", "Tax"),
   ("UnusedReservation", "Credit"), ("Refund", "Refund")]

def tags (cell : Value) : Result Value :=
  match cell with
  | .object es => .ok (.object es)
  | .text s =>
    if s.isEmpty then .ok (.object [])
    else match Json.read s with
      | .ok v => .ok v
      | .error e => if e.category == .json then .ok (.object []) else .error e
  | _ => .ok (.object [])

def charge (row : Value) : Result (Option Charge) := do
  let amount ← Charge.readAmount (← Charge.either row "CostInBillingCurrency" "Cost" (.int 0))
  if !Charge.isMaterial amount then return none
  let chargeType ← Charge.typeOf chargeTypes (← row.getD "ChargeType" "Usage")
  let day := Charge.dayText (← Charge.either row "Date" "UsageDateTime" "")
  if day.isEmpty then return none
  let tags ← tags (← Charge.either row "Tags" "tags" "")
  return some {
    provider := "azure"
    accountId := ← Charge.either row "SubscriptionId" "SubscriptionGuid" ""
    service := ← Charge.either row "MeterCategory" "ServiceName" "Unknown"
    region := ← Charge.either row "ResourceLocation" "ResourceRegion" ""
    resourceId := ← Charge.either row "ResourceId" "InstanceId" ""
    usageDate := .text day
    chargeType := chargeType
    amount := ← Charge.rounded amount
    currency := ← Charge.either row "BillingCurrency" "Currency" "USD"
    tags := ← Charge.tagsText tags }

end CloudSpend.Billing.Azure

namespace CloudSpend.Billing

inductive Cloud where
  | aws | gcp | azure
  deriving Repr, DecidableEq

namespace Cloud

def ofName? : String → Option Cloud
  | "aws" => some aws
  | "gcp" => some gcp
  | "azure" => some azure
  | _ => none

def charge : Cloud → Value → Result (Option Charge)
  | aws => Aws.charge
  | gcp => Gcp.charge
  | azure => Azure.charge

def charges (c : Cloud) (rows : List Value) : Result (List Charge) := collect c.charge rows

end Cloud

end CloudSpend.Billing
