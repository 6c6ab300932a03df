import CloudSpend.Cluster.Allocation
import CloudSpend.Form.Shape

/-! # The reports of all clusters -/

namespace CloudSpend.Cluster

open Form in
def payload : Shape := .record [
  required "cluster_name" .anyText, withDefault "region" .anyText "",
  withDefault "provider" .anyText "", maybe "timestamp" .anyText,
  withDefault "nodes" (.list .table) (.list []), withDefault "pods" (.list .table) (.list []),
  withDefault "namespaces" (.list .table) (.list [])]

def byteUnits : List (Int × String) := [(1073741824, "Gi"), (1048576, "Mi"), (1024, "Ki")]

def formatIn (v : Value) : List (Int × String) → Result String
  | [] => .ok (v.display ++ "B")
  | (unit, name) :: rest => do
    if ← v.ge (.int unit) then return (← (← v.div (.int unit)).places 0) ++ name
    else formatIn v rest

def formatBytes (v : Value) : Result String := formatIn v byteUnits

abbrev Store := List (Value × Row)

def stamp (cluster : Value) (report : Row) (now : Timestamp) : Row :=
  Entries.merge report [("cluster_id", cluster), ("received_at", .text now.text)]

def Store.push (s : Store) (cluster : Value) (report : Row) (now : Timestamp) : Store :=
  Entries.put s cluster (stamp cluster report now)

def acknowledge (cluster : Value) (report : Row) : Result Value := do
  let part (key : String) : Value := (Entries.get? report key).getD (.list [])
  let _ ← (part "nodes").size
  let _ ← (part "pods").size
  return .object [("status", "ok"), ("cluster_id", cluster)]

def summaryValue (cluster : Value) (report : Row) : Result Value := do
  let s ← Summary.ofMetrics (Metrics.ofReport report)
  let part (key : String) (default : Value) : Value := (Entries.get? report key).getD default
  return .object [("cluster_id", cluster), ("cluster_name", part "cluster_name" cluster),
    ("region", part "region" ""), ("provider", part "provider" ""),
    ("node_count", s.nodeCount), ("pod_count", s.podCount),
    ("namespace_count", s.namespaceCount), ("cpu_utilization_pct", s.cpuUtilization),
    ("memory_utilization_pct", s.memoryUtilization), ("estimated_monthly_cost", s.monthlyCost),
    ("idle_cost", s.idleCost), ("last_updated", part "received_at" .null)]

def Store.summaries (s : Store) : Result (List Value) := s.mapM fun e => summaryValue e.1 e.2

def NamespaceCost.toValue (c : NamespaceCost Value) : Value :=
  .object [("namespace", c.space), ("pod_count", c.usage.podCount),
    ("cpu_request_millicores", c.usage.cpuRequest), ("cpu_usage_millicores", c.usage.cpuUsage),
    ("memory_request_bytes", c.usage.memoryRequest), ("memory_usage_bytes", c.usage.memoryUsage),
    ("estimated_monthly_cost", c.cost), ("efficiency_pct", c.efficiency)]

def Store.namespaceCosts (s : Store) (cluster : Value) : Result (List Value) :=
  match Entries.get? s cluster with
  | none => .ok []
  | some report => do
    return (← Cluster.namespaceCosts (Metrics.ofReport report)).map NamespaceCost.toValue

def Rightsizing.toValue (r : Rightsizing Value) : Value :=
  .object [("pod_name", r.pod), ("namespace", r.space),
    ("current_cpu_request", .text (r.cpuRequest.display ++ "m")),
    ("suggested_cpu_request", .text (toString r.suggestedCpu ++ "m")),
    ("current_memory_request", .text r.memoryText),
    ("suggested_memory_request", .text r.suggestedMemoryText),
    ("cpu_utilization_pct", r.cpuUtilization), ("memory_utilization_pct", r.memoryUtilization),
    ("estimated_monthly_savings", r.savings)]

def Store.rightsizing (s : Store) (cluster : Value) : Result (List Value) :=
  match Entries.get? s cluster with
  | none => .ok []
  | some report => do
    return (← Cluster.rightsizing formatBytes (Metrics.ofReport report)).map Rightsizing.toValue

def Store.overview (s : Store) : Result Value := do
  let clusters ← s.summaries
  return .object [("clusters", .list clusters), ("total", clusters.length)]

def Store.namespaceReport (s : Store) (cluster : Value) : Result Value := do
  let costs ← s.namespaceCosts cluster
  if costs.isEmpty then
    throw (.http 404 ("No data for cluster " ++ cluster.display ++ ". Ensure the agent is running."))
  return .object [("cluster_id", cluster), ("namespaces", .list costs)]

def Store.rightsizingReport (s : Store) (cluster : Value) : Result Value := do
  let rs ← s.rightsizing cluster
  let savings ← Arithmetic.sum (← rs.mapM fun r => r.field "estimated_monthly_savings")
  return .object [("cluster_id", cluster), ("recommendations", .list rs),
    ("total_potential_savings", ← savings.round 2)]

end CloudSpend.Cluster
