import CloudSpend.Command.Arguments
import CloudSpend.Outside.World

/-! # Prices of instances -/

namespace CloudSpend.Aws.PriceList

def regionNames : List (String × String) :=
  [("us-east-1", "US East (N. Virginia)"), ("us-east-2", "US East (Ohio)"),
   ("us-west-1", "US West (N. California)"), ("us-west-2", "US West (Oregon)"),
   ("eu-west-1", "EU (Ireland)"), ("eu-west-2", "EU (London)"),
   ("eu-central-1", "EU (Frankfurt)"), ("ap-southeast-1", "Asia Pacific (Singapore)"),
   ("ap-southeast-2", "Asia Pacific (Sydney)"), ("ap-northeast-1", "Asia Pacific (Tokyo)")]

def regionName (code : Value) : Result Value :=
  match code with
  | .text s => .ok (.text ((Entries.get? regionNames s).getD s))
  | .list _ | .object _ => .error (.unhashable code.kind)
  | v => .ok v

def memory (v : Value) : Result Value :=
  match v with
  | .text s =>
    match Numeral.readFloat? (Text.trim (Text.replace (Text.replace s "GiB" "") "," "")) with
    | some x => .ok (.float x)
    | none => .ok .null
  | .date _ | .timestamp _ =>
    .error (.wrongKind "'str' object cannot be interpreted as an integer")
  | _ => .ok .null

def count (v : Value) : Result Int :=
  match v.toInt with
  | .ok n => .ok n
  | .error e => if e.category == .value || e.category == .type then .ok 0 else .error e

def termPrice (term : Value) : Result (Option Float) := do
  for dimension in ← (← term.getD "priceDimensions" (.object [])).values do
    let price ← (← dimension.getD "pricePerUnit" (.object [])).get "USD"
    if price.truthy then return some (← price.toFloat)
  return none

def onDemand (data : Value) : Result (Option Float) := do
  let terms ← (← data.getD "terms" (.object [])).getD "OnDemand" (.object [])
  for term in ← terms.values do
    if let some price ← termPrice term then return some price
  return none

def monthly (hourly : Option Float) : Result Value :=
  match hourly with
  | some x => if x == 0 then .ok .null else do (← (Value.float x).mul (.int 730)).round 2
  | none => .ok .null

def instanceRow? (region : Value) (item : Value) : Result (Option Value) := do
  let data ← match item with
    | .text s => Json.read s
    | v => pure v
  let attributes ← (← data.getD "product" (.object [])).getD "attributes" (.object [])
  let type ← attributes.getD "instanceType" ""
  if !type.truthy then return none
  if !(← type.contains ".") then return none
  let price ← onDemand data
  let name ← match type with
    | .text s => pure s
    | v => throw (.noAttribute v.kind "split")
  let row : Row := [
    ("instance_type", type),
    ("family", .text ((Text.split name ".").headD "")),
    ("vcpu", .int (← count (← attributes.get "vcpu"))),
    ("memory_gb", ← memory (← attributes.getD "memory" "")),
    ("storage", ← attributes.getD "storage" "EBS only"),
    ("network_performance", ← attributes.getD "networkPerformance" ""),
    ("processor", ← attributes.getD "physicalProcessor" ""),
    ("architecture", ← attributes.getD "processorArchitecture" ""),
    ("gpu", .int (← count (← attributes.getD "gpu" "0"))),
    ("on_demand_hourly", (price.map Value.float).getD .null),
    ("on_demand_monthly", ← monthly price),
    ("region", region)]
  return some (.object row)

def rowsUntilFault (region : Value) : List Value → List Value × Bool
  | [] => ([], false)
  | item :: rest =>
    match instanceRow? region item with
    | .error _ => ([], true)
    | .ok row =>
      let (rows, stopped) := rowsUntilFault region rest
      (row.toList ++ rows, stopped)

def pageRows (region : Value) : List Value → List Value
  | [] => []
  | page :: rest =>
    match (do (← page.getD "PriceList" (.list [])).items : Result (List Value)) with
    | .error _ => []
    | .ok items =>
      let (rows, stopped) := rowsUntilFault region items
      if stopped then rows else rows ++ pageRows region rest

def term (field : String) (value : Value) : Value :=
  .object [("Type", "TERM_MATCH"), ("Field", .text field), ("Value", value)]

def instances (region : Value) : Run (List Value) := do
  let filters := [
    term "servicecode" "AmazonEC2",
    term "location" (← liftM (regionName region)),
    term "tenancy" "Shared",
    term "operatingSystem" "Linux",
    term "preInstalledSw" "NA",
    term "capacitystatus" "Used"]
  let pages ← Run.recover
    (Run.awsPages "pricing" "get_products" "us-east-1"
      [("ServiceCode", "AmazonEC2"), ("Filters", .list filters)])
    fun _ => return []
  return pageRows region pages

def rowKey (row : Value) : Result (List Value) := do
  let type ← row.get "instance_type"
  let _ ← type.keyText
  return [type, ← row.get "region"]

def unique (rows : List Value) : Result (List Value) := do
  let keyed ← rows.mapM fun row => do return (← rowKey row, row)
  return (keyed.foldl (fun (kept : List (List Value × Value)) row =>
    if Entries.has kept row.1 then kept else kept ++ [row]) []).map (·.2)

def settings : List Command.Setting :=
  [⟨"output", none⟩, ⟨"service", some ["ec2", "rds", "elasticache", "opensearch"]⟩, ⟨"region", none⟩]

def writeAll (args : List String) : Run Unit := do
  let chosen ← liftM (Command.parse settings args)
  let regions := match Command.value? chosen "region" with
    | some r => if r.isEmpty then regionNames.map Prod.fst else [r]
    | none => regionNames.map Prod.fst
  let mut rows := []
  if (Command.value? chosen "service").getD "ec2" == "ec2" then
    for r in regions do rows := rows ++ (← instances (.text r))
  let kept ← liftM (unique rows)
  let output := Storage.Path.ofText ((Command.value? chosen "output").getD "data/instances.json")
  Run.makeDirectory output.parent
  discard (liftM (Json.encode (.list kept)) : Run String)
  Run.writeText output (Json.writeIn .indented (.list kept))

end CloudSpend.Aws.PriceList
