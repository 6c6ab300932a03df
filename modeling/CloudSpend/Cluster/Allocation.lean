import CloudSpend.Data.Access

/-! # Clusters and their costs -/

namespace CloudSpend.Cluster

structure Node (α : Type) where
  machine : Value
  cpu : α
  memory : α

structure Pod (α : Type) where
  name : Value
  space : Option Value
  cpuRequest : α
  cpuUsage : α
  memoryRequest : α
  memoryUsage : α
  cpuLimit : α
  memoryLimit : α

structure Metrics (α : Type) where
  nodes : List (Node α)
  pods : List (Pod α)
  nodeFault : Option Fault := none
  podFault : Option Fault := none

namespace Metrics

variable {α β : Type}

def behind (fault : Option Fault) (found : Result β) : Result β := do
  let b ← found
  match fault with
  | some f => throw f
  | none => return b

def allNodes (m : Metrics α) (found : Result β) : Result β := behind m.nodeFault found

def allPods (m : Metrics α) (found : Result β) : Result β := behind m.podFault found

end Metrics

def Node.ofRow (row : Row) : Node Value :=
  let part (key : String) (default : Value) : Value := (Entries.get? row key).getD default
  { machine := part "instance_type" ""
    cpu := part "allocatable_cpu_millicores" (.int 0)
    memory := part "allocatable_memory_bytes" (.int 0) }

def Pod.ofRow (row : Row) : Pod Value :=
  let part (key : String) (default : Value) : Value := (Entries.get? row key).getD default
  { name := part "name" ""
    space := Entries.get? row "namespace"
    cpuRequest := part "cpu_request_millicores" (.int 0)
    cpuUsage := part "cpu_usage_millicores" (.int 0)
    memoryRequest := part "memory_request_bytes" (.int 0)
    memoryUsage := part "memory_usage_bytes" (.int 0)
    cpuLimit := part "cpu_limit_millicores" (.int 0)
    memoryLimit := part "memory_limit_bytes" (.int 0) }

def tables : List Value → List Row × Option Fault
  | [] => ([], none)
  | .object row :: rest => ((row :: (tables rest).1), (tables rest).2)
  | v :: _ => ([], some (.noAttribute v.kind "get"))

def readTables (v : Value) : List Row × Option Fault :=
  match v.items with
  | .ok items => tables items
  | .error f => ([], some f)

def Metrics.ofNodes (nodes : Value) : Metrics Value :=
  let (rows, fault) := readTables nodes
  { nodes := rows.map Node.ofRow, pods := [], nodeFault := fault }

def Metrics.ofReport (report : Row) : Metrics Value :=
  let part (key : String) : Value := (Entries.get? report key).getD (.list [])
  let (pods, fault) := readTables (part "pods")
  { Metrics.ofNodes (part "nodes") with pods := pods.map Pod.ofRow, podFault := fault }

end CloudSpend.Cluster

/-! ## Allocation of cluster costs -/

namespace CloudSpend.Cluster

open Arithmetic

def hourlyPrices : List (String × Nat × Nat) :=
  [("m5.large", 96, 3), ("m5.xlarge", 192, 3), ("m5.2xlarge", 384, 3), ("m5.4xlarge", 768, 3),
   ("c5.large", 85, 3), ("c5.xlarge", 17, 2), ("c5.2xlarge", 34, 2), ("r5.large", 126, 3),
   ("r5.xlarge", 252, 3), ("t3.medium", 416, 4), ("t3.large", 832, 4), ("t3.xlarge", 1664, 4)]

def defaultPrice : Nat × Nat := (10, 2)

def hoursPerMonth : Int := 730

def leastCpu : Int := 50

def leastMemory : Int := 67108864

section

variable {α : Type} [Arithmetic α]

def priceOf (machine : Value) : Result (Nat × Nat) :=
  match machine with
  | .list _ => .error (.unhashable .list)
  | .object _ => .error (.unhashable .object)
  | .text s => .ok ((Entries.get? hourlyPrices s).getD defaultPrice)
  | _ => .ok defaultPrice

def Node.monthlyCost (n : Node α) : Result α := do
  let (mantissa, places) ← priceOf n.machine
  mul (ofDecimal mantissa places) (ofInt hoursPerMonth)

def monthlyCost (nodes : List (Node α)) : Result α :=
  nodes.foldlM (fun total n => do add total (← n.monthlyCost)) zero

def Metrics.bill (m : Metrics α) : Result α := m.allNodes (monthlyCost m.nodes)

def Metrics.cpu (m : Metrics α) : Result α := m.allNodes (sum (m.nodes.map (·.cpu)))

def Metrics.memory (m : Metrics α) : Result α :=
  m.allNodes (sum (m.nodes.map (·.memory)))

def share (part whole : α) : Result α := do
  if ← gt whole zero then div part whole
  else return zero

def percent (part whole : α) : Result α := do
  if ← gt whole zero then
    mul (← div part whole) (ofInt 100)
  else return zero

def midpoint (x y : α) : Result α := do
  div (← add x y) (ofInt 2)

structure Summary (α : Type) where
  nodeCount : Nat
  podCount : Nat
  namespaceCount : Nat
  cpuUtilization : α
  memoryUtilization : α
  monthlyCost : α
  idleCost : α

def idleCost (bill cpuUtilization : α) : Result α := do
  let idle ← sub (ofInt 1)
    (← div cpuUtilization (ofInt 100))
  mul (← mul bill idle) (ofDecimal 5 1)

def namespaces (unnamed : Value) (pods : List (Pod α)) : Result (List Value) :=
  pods.foldlM (fun found p => match p.space.getD unnamed with
    | .list _ => .error (.unhashable .list)
    | .object _ => .error (.unhashable .object)
    | v => .ok (if found.any (fun w => v == w) then found else found ++ [v])) []

def Summary.ofMetrics (m : Metrics α) : Result (Summary α) := do
  let cpu ← m.cpu
  let cpuUsed ← m.allPods (sum (m.pods.map (·.cpuUsage)))
  let memory ← m.memory
  let memoryUsed ← m.allPods (sum (m.pods.map (·.memoryUsage)))
  let cpuUtilization ← percent cpuUsed cpu
  let memoryUtilization ← percent memoryUsed memory
  let bill ← m.bill
  let idle ← Cluster.idleCost bill cpuUtilization
  let spaces ← namespaces "" m.pods
  return {
    nodeCount := m.nodes.length
    podCount := m.pods.length
    namespaceCount := spaces.length
    cpuUtilization := ← round cpuUtilization 1
    memoryUtilization := ← round memoryUtilization 1
    monthlyCost := ← round bill 2
    idleCost := ← round idle 2 }

structure Usage (α : Type) where
  podCount : Nat
  cpuRequest : α
  cpuUsage : α
  memoryRequest : α
  memoryUsage : α
  cpuLimit : α
  memoryLimit : α

def Usage.empty : Usage α :=
  ⟨0, zero, zero, zero, zero, zero,
   zero⟩

def Usage.add (u : Usage α) (p : Pod α) : Result (Usage α) := do
  let cpuRequest ← Arithmetic.add u.cpuRequest p.cpuRequest
  let cpuUsage ← Arithmetic.add u.cpuUsage p.cpuUsage
  let cpuLimit ← Arithmetic.add u.cpuLimit p.cpuLimit
  let memoryRequest ← Arithmetic.add u.memoryRequest p.memoryRequest
  let memoryUsage ← Arithmetic.add u.memoryUsage p.memoryUsage
  let memoryLimit ← Arithmetic.add u.memoryLimit p.memoryLimit
  return ⟨u.podCount + 1, cpuRequest, cpuUsage, memoryRequest, memoryUsage, cpuLimit, memoryLimit⟩

def usageByNamespace (pods : List (Pod α)) : Result (List (Value × Usage α)) :=
  pods.foldlM (fun found p => match p.space.getD "default" with
    | .list _ => .error (.unhashable .list)
    | .object _ => .error (.unhashable .object)
    | v => (((Entries.get? found v).getD Usage.empty).add p).map (Entries.put found v)) []

structure NamespaceCost (α : Type) where
  space : Value
  usage : Usage α
  rawCost : α
  cost : α
  efficiency : α

def NamespaceCost.ofUsage (bill cpu memory : α) (space : Value) (u : Usage α) :
    Result (NamespaceCost α) := do
  let cpuShare ← share u.cpuRequest cpu
  let memoryShare ← share u.memoryRequest memory
  let cost ← mul bill (← midpoint cpuShare memoryShare)
  let cpuEfficiency ← percent u.cpuUsage u.cpuRequest
  let memoryEfficiency ← percent u.memoryUsage u.memoryRequest
  let efficiency ← midpoint cpuEfficiency memoryEfficiency
  return ⟨space, u, cost, ← round cost 2, ← round efficiency 1⟩

def Metrics.costs (m : Metrics α) : Result (List (NamespaceCost α)) := do
  let bill ← m.bill
  let cpu ← m.cpu
  let memory ← m.memory
  let usages ← m.allPods (usageByNamespace m.pods)
  usages.mapM fun (space, u) => NamespaceCost.ofUsage bill cpu memory space u

def namespaceCosts (m : Metrics α) : Result (List (NamespaceCost α)) := do
  return descending (·.cost) (← m.costs)

structure Rightsizing (α : Type) where
  pod : Value
  space : Value
  cpuRequest : α
  suggestedCpu : Int
  memoryRequest : α
  memoryText : String
  suggestedMemory : Int
  suggestedMemoryText : String
  cpuUtilization : α
  memoryUtilization : α
  rawSavings : α
  savings : α

def usedPart (used request : α) : Result α := do
  if ← gt request zero then div used request
  else return ofInt 1

def isWasteful (cpuPart memoryPart : α) : Result Bool := do
  if ← lt cpuPart (ofDecimal 5 1) then return true
  else lt memoryPart (ofDecimal 5 1)

def Rightsizing.ofParts (sizeText : α → Result String) (bill cpu : α) (p : Pod α)
    (cpuPart memoryPart : α) : Result (Rightsizing α) := do
  let twiceCpu ← toInt (← mul p.cpuUsage (ofInt 2))
  let twiceMemory ← toInt (← mul p.memoryUsage (ofInt 2))
  let suggestedCpu := max twiceCpu leastCpu
  let suggestedMemory := max twiceMemory leastMemory
  let saved ← larger zero
    (← sub p.cpuRequest (ofInt suggestedCpu))
  let savings ← mul saved (← share bill cpu)
  return {
    pod := p.name
    space := p.space.getD ""
    cpuRequest := p.cpuRequest
    suggestedCpu := suggestedCpu
    memoryRequest := p.memoryRequest
    memoryText := ← sizeText p.memoryRequest
    suggestedMemory := suggestedMemory
    suggestedMemoryText := ← sizeText (ofInt suggestedMemory)
    cpuUtilization := ← round (← mul cpuPart (ofInt 100)) 1
    memoryUtilization := ← round (← mul memoryPart (ofInt 100)) 1
    rawSavings := savings
    savings := ← round savings 2 }

def Rightsizing.ofPod? (sizeText : α → Result String) (bill cpu : α) (p : Pod α) :
    Result (Option (Rightsizing α)) := do
  if same p.cpuRequest zero then return none
  let cpuPart ← usedPart p.cpuUsage p.cpuRequest
  let memoryPart ← usedPart p.memoryUsage p.memoryRequest
  if ← isWasteful cpuPart memoryPart then
    return some (← Rightsizing.ofParts sizeText bill cpu p cpuPart memoryPart)
  else return none

def Rightsizing.ofPods (sizeText : α → Result String) (bill cpu : α) :
    List (Pod α) → Result (List (Rightsizing α))
  | [] => .ok []
  | p :: rest => do
    let r ← Rightsizing.ofPod? sizeText bill cpu p
    let rs ← Rightsizing.ofPods sizeText bill cpu rest
    return r.toList ++ rs

def rightsizing (sizeText : α → Result String) (m : Metrics α) : Result (List (Rightsizing α)) := do
  let bill ← m.bill
  let cpu ← m.cpu
  let found ← m.allPods (Rightsizing.ofPods sizeText bill cpu m.pods)
  return descending (·.savings) found

end

end CloudSpend.Cluster
