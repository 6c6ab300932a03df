import CloudSpend.Outside.World

/-! # Waste in an AWS account -/

namespace CloudSpend.Aws.Waste

open Run

structure Finding where
  resourceType : String
  resourceId : Value
  region : Value
  recommendation : String
  savings : Value
  details : Row

def Finding.toValue (f : Finding) : Value :=
  .object [("resource_type", .text f.resourceType), ("resource_id", f.resourceId),
    ("region", f.region), ("recommendation", .text f.recommendation),
    ("estimated_monthly_savings", f.savings), ("details", .object f.details)]

def hourlyPrices : List (String × Float) :=
  [("t2.micro", 0.0116), ("t2.small", 0.023), ("t2.medium", 0.0464), ("t2.large", 0.0928),
   ("t3.micro", 0.0104), ("t3.small", 0.0208), ("t3.medium", 0.0416), ("t3.large", 0.0832),
   ("m5.large", 0.096), ("m5.xlarge", 0.192), ("m5.2xlarge", 0.384), ("c5.large", 0.085),
   ("c5.xlarge", 0.17), ("r5.large", 0.126), ("r5.xlarge", 0.252)]

def listed (reply : Value) (key : String) : Result (List Value) := do
  (← reply.getD key (.list [])).items

def nameTag (resource : Value) : Result Value := do
  let named : List Value → Result Value := fun tags =>
    tags.foldr (fun tag rest => do
      if (← tag.field "Key").same "Name" then tag.field "Value" else rest) (.ok "Unnamed")
  named (← listed resource "Tags")

def daysAgo (now : Timestamp) (days : Value) : Result Timestamp := do
  now.moved (-(← Span.ofNumber days).micros)

def averages (region : Value) (space metric dimension : String) (id : Value)
    (since now : Timestamp) : Run (Option Value) :=
  orRefused (do
    let reply ← aws "cloudwatch" "get_metric_statistics" region
      [("Namespace", .text space), ("MetricName", .text metric),
       ("Dimensions", .list [.object [("Name", .text dimension), ("Value", id)]]),
       ("StartTime", .timestamp since), ("EndTime", .timestamp now), ("Period", .int 86400),
       ("Statistics", .list ["Average"])]
    return some (← liftM (reply.getD "Datapoints" (.list [])))) none

def mean? (points : Option Value) : Result (Option Value) := do
  match points with
  | none => return none
  | some points =>
    if !points.truthy then return none
    let total ← (← points.items).foldlM (fun (t p : Value) => do t.add (← p.field "Average")) (.int 0)
    return some (← total.div (.int (← points.size)))

def idleInstance (region id type average days machine : Value) : Result Finding := do
  let hourly := (Entries.get? hourlyPrices (← type.keyText)).getD 0.05
  let name ← nameTag machine
  return {
    resourceType := "ec2_instance"
    resourceId := id
    region := region
    recommendation := "Instance '" ++ name.display ++ "' (" ++ type.display ++ ") has avg CPU of "
      ++ (← average.places 1) ++ "% over " ++ days.display
      ++ " days. Consider stopping, rightsizing, or converting to spot."
    savings := ← (Value.float (hourly * 730)).round 2
    details := [("instance_type", type), ("avg_cpu", ← average.round 2), ("name", name)] }

def idleInstances (region threshold days : Value) : Run (List Finding) := do
  let reply ← orRefused (some <$> aws "ec2" "describe_instances" region
    [("Filters", .list [.object [("Name", "instance-state-name"), ("Values", .list ["running"])]])])
    none
  let some reply := reply | return []
  let now := (← Run.now).utc
  let since ← liftM (daysAgo now days)
  let reservations ← liftM (listed reply "Reservations")
  let found ← reservations.mapM fun r => do
    (← liftM (listed r "Instances")).mapM fun i => do
      let id ← liftM (i.field "InstanceId")
      let type ← liftM (i.getD "InstanceType" "unknown")
      let points ← averages region "AWS/EC2" "CPUUtilization" "InstanceId" id since now
      match ← liftM (mean? points) with
      | none => return none
      | some average =>
        if ← liftM (average.lt threshold) then
          return some (← liftM (idleInstance region id type average days i))
        else return none
  return found.flatten.filterMap id

def unusedVolume (region volume : Value) : Result Finding := do
  let id ← volume.field "VolumeId"
  let size ← volume.getD "Size" (.int 0)
  let monthly ← size.mul (.float 0.08)
  let name ← nameTag volume
  return {
    resourceType := "ebs_volume"
    resourceId := id
    region := region
    recommendation := "EBS volume '" ++ name.display ++ "' (" ++ size.display ++ " GB, "
      ++ (← volume.getD "VolumeType" "unknown").display
      ++ ") is not attached to any instance. Consider deleting or snapshotting."
    savings := ← monthly.round 2
    details := [("size_gb", size), ("volume_type", ← volume.get "VolumeType"), ("name", name)] }

def unusedVolumes (region : Value) : Run (List Finding) := do
  let reply ← orRefused (aws "ec2" "describe_volumes" region
    [("Filters", .list [.object [("Name", "status"), ("Values", .list ["available"])]])])
    (.object [])
  liftM (do (← listed reply "Volumes").mapM (unusedVolume region) : Result (List Finding))

def oldSnapshot (region : Value) (now : Timestamp) (taken snapshot : Value) : Result Finding := do
  let id ← snapshot.field "SnapshotId"
  let size ← snapshot.getD "VolumeSize" (.int 0)
  let monthly ← size.mul (.float 0.05)
  let age : Int := match taken with
    | .timestamp t => t.wholeDaysTo now
    | _ => 0
  let description ← snapshot.getD "Description" "No description"
  return {
    resourceType := "ebs_snapshot"
    resourceId := id
    region := region
    recommendation := "Snapshot (" ++ size.display ++ " GB) is " ++ toString age
      ++ " days old. Description: '" ++ (← description.take 100).display
      ++ "'. Consider deleting if no longer needed."
    savings := ← monthly.round 2
    details := [("size_gb", size), ("age_days", age), ("description", description)] }

def oldSnapshots (region days : Value) : Run (List Finding) := do
  let reply ← orRefused
    (some <$> aws "ec2" "describe_snapshots" region [("OwnerIds", .list ["self"])]) none
  let some reply := reply | return []
  let now := (← Run.now).utc
  liftM (do
    let limit ← daysAgo now days
    let found ← (← listed reply "Snapshots").mapM fun s => do
      let taken ← s.get "StartTime"
      if !taken.truthy then return none
      if ← taken.gt (.timestamp limit) then return none
      return some (← oldSnapshot region now taken s)
    return found.filterMap id : Result (List Finding))

def idleDatabase (region id type average database : Value) : Result Finding := do
  return {
    resourceType := "rds_instance"
    resourceId := id
    region := region
    recommendation := "RDS instance '" ++ id.display ++ "' (" ++ type.display ++ ") has avg "
      ++ (← average.places 1) ++ " connections over 7 days. Consider stopping or deleting."
    savings := .float 50
    details := [("db_class", type), ("engine", ← database.get "Engine"),
      ("avg_connections", ← average.round 2)] }

def idleDatabases (region : Value) : Run (List Finding) := do
  let reply ← orRefused (some <$> aws "rds" "describe_db_instances" region []) none
  let some reply := reply | return []
  let now := (← Run.now).utc
  let since ← liftM (daysAgo now (.int 7))
  let found ← (← liftM (listed reply "DBInstances")).mapM fun d => do
    if !(← liftM (d.get "DBInstanceStatus")).same "available" then return none
    let id ← liftM (d.field "DBInstanceIdentifier")
    let type ← liftM (d.getD "DBInstanceClass" "unknown")
    let points ← averages region "AWS/RDS" "DatabaseConnections" "DBInstanceIdentifier" id since now
    match ← liftM (mean? points) with
    | none => return none
    | some average =>
      if ← liftM (average.lt (.int 1)) then
        return some (← liftM (idleDatabase region id type average d))
      else return none
  return found.filterMap id

def unusedAddress (region address : Value) : Result (Option Finding) := do
  if (← address.get "AssociationId").truthy then return none
  let ip ← address.get "PublicIp"
  return some {
    resourceType := "elastic_ip"
    resourceId := ← address.getD "AllocationId" ""
    region := region
    recommendation := "Elastic IP " ++ ip.display
      ++ " is not associated. Unattached EIPs cost $3.60/month."
    savings := .float 3.6
    details := [("public_ip", ip)] }

def unusedAddresses (region : Value) : Run (List Finding) := do
  let reply ← orRefused (aws "ec2" "describe_addresses" region []) (.object [])
  liftM (do
    return (← (← listed reply "Addresses").mapM (unusedAddress region)).filterMap id
      : Result (List Finding))

def hasTargets (region : Value) : List Value → Run Bool
  | [] => return false
  | group :: rest => do
    let arn ← liftM (group.field "TargetGroupArn")
    let health ← aws "elbv2" "describe_target_health" region [("TargetGroupArn", arn)]
    if (← liftM (health.get "TargetHealthDescriptions")).truthy then return true
    else hasTargets region rest

def idleBalancer (region name balancer : Value) : Result Finding := do
  let type ← balancer.get "Type"
  let shown ← (← balancer.getD "Type" "application").expectText "upper"
  return {
    resourceType := "load_balancer"
    resourceId := name
    region := region
    recommendation := Text.upper shown ++ " load balancer '" ++ name.display
      ++ "' has no healthy targets. Consider deleting."
    savings := .float (if type.same "application" then 16.2 else 22.5)
    details := [("type", type), ("dns", ← balancer.get "DNSName")] }

def idleBalancers (region : Value) : Run (List Finding) := do
  let reply ← orRefused (aws "elbv2" "describe_load_balancers" region []) (.object [])
  let found ← (← liftM (listed reply "LoadBalancers")).mapM fun b => do
    let arn ← liftM (b.field "LoadBalancerArn")
    let name ← liftM (b.getD "LoadBalancerName" "")
    orRefused (do
      let groups ← aws "elbv2" "describe_target_groups" region [("LoadBalancerArn", arn)]
      if ← hasTargets region (← liftM (listed groups "TargetGroups")) then return none
      else return some (← liftM (idleBalancer region name b))) none
  return found.filterMap id

def regions : Run (List Value) :=
  orRefused (do
    let reply ← aws "ec2" "describe_regions" "us-east-1"
      [("Filters", .list [.object [("Name", "opt-in-status"),
        ("Values", .list ["opt-in-not-required", "opted-in"])]])]
    liftM (do
      (← (← reply.field "Regions").items).mapM fun r => r.field "RegionName"
        : Result (List Value))) ["us-east-1"]

def scanRegion (region : Value) : Run (List Finding) := do
  let instances ← idleInstances region (.float 5) (.int 7)
  let volumes ← unusedVolumes region
  let snapshots ← oldSnapshots region (.int 90)
  let databases ← idleDatabases region
  let addresses ← unusedAddresses region
  let balancers ← idleBalancers region
  return instances ++ volumes ++ snapshots ++ databases ++ addresses ++ balancers

def usualRegions : List Value := ["us-east-1", "us-west-2", "eu-west-1"]

def scan (regions : Value) : Run (List Finding) := do
  let found ← (← liftM (if regions.truthy then regions.items else .ok usualRegions)).mapM scanRegion
  return Arithmetic.descending Finding.savings found.flatten

end CloudSpend.Aws.Waste
