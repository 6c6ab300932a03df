import CloudSpend.Aws.CostExplorer

/-! # Commitments -/

namespace CloudSpend.Aws.Commitment

def reportSpan (today : Date) (start stop : Value) : Cost.Period Value :=
  ⟨start.orElse (.date today.firstOfMonth), stop.orElse (.date today)⟩

def amount (row : Value) (key : String) : Result Value := do
  return .float (← (← row.getD key "0").toFloat)

def utilization (name : String) (start stop : Value) (report : Value → Result Value) :
    Run Value := do
  let p := reportSpan (← Run.today) start stop
  let reply ← Run.attempt
    (do CostExplorer.call name [← liftM (CostExplorer.span p), ("Granularity", "MONTHLY")])
  match reply with
  | .ok reply => liftM (report reply)
  | .error e =>
    if e.category == .client then return .object [("error", .text e.message)] else throw e

def groupUse (item : Value) : Result Value := do
  return .object [("key", ← item.getD "Key" ""), ("value", ← item.getD "Value" ""),
    ("utilization_pct", ← amount (← item.getD "Utilization" (.object [])) "UtilizationPercentage")]

def reservations (start stop : Value) : Run Value :=
  utilization "get_reservation_utilization" start stop fun reply => do
    let totals ← reply.getD "Total" (.object [])
    let percentage ← totals.getD "UtilizationPercentage" "0"
    let all ← amount totals "TotalAmortizedFee"
    let used ← amount totals "UtilizedAmortizedFee"
    let groups ← (← (← reply.getD "UtilizationsByTime" (.list [])).items).mapM fun g => do
      (← (← g.getD "Groups" (.list [])).items).mapM groupUse
    return .object [("total_ri_cost", ← all.round 2), ("used_ri_cost", ← used.round 2),
      ("utilization_pct", ← (Value.float (← percentage.toFloat)).round 1),
      ("unused_cost", ← (← all.sub used).round 2), ("by_service", .list groups.flatten)]

def savingsPlans (start stop : Value) : Run Value :=
  utilization "get_savings_plans_utilization" start stop fun reply => do
    let use ← (← reply.getD "Total" (.object [])).getD "Utilization" (.object [])
    let all ← amount use "TotalCommitment"
    let used ← amount use "UsedCommitment"
    let percentage ← amount use "UtilizationPercentage"
    return .object [("total_commitment", ← all.round 2), ("used_commitment", ← used.round 2),
      ("utilization_pct", ← percentage.round 1), ("unused_commitment", ← (← all.sub used).round 2)]

def terms : Row :=
  [("TermInYears", "ONE_YEAR"), ("PaymentOption", "NO_UPFRONT"),
   ("LookbackPeriodInDays", "THIRTY_DAYS")]

structure Advice where
  savings : Value
  row : Row

def worthwhile? (offer : Value) : Result (Option Value) := do
  let savings ← amount offer "EstimatedMonthlySavingsAmount"
  return if ← savings.lt (.int 5) then none else some savings

def services : List String :=
  ["Amazon Elastic Compute Cloud - Compute", "Amazon Relational Database Service"]

def reserve? (service : String) (offer : Value) : Result (Option Advice) := do
  match ← worthwhile? offer with
  | none => return none
  | some savings =>
    let machine ← (← (← offer.getD "InstanceDetails" (.object [])).getD "EC2InstanceDetails"
      (.object [])).getD "InstanceType" "N/A"
    let saved ← savings.round 2
    return some ⟨saved, [("type", "reserved_instance"), ("service", .text service),
      ("instance_type", machine), ("term", "1 year"), ("payment_option", "No Upfront"),
      ("estimated_monthly_savings", saved),
      ("estimated_monthly_cost", ← (← amount offer "EstimatedMonthlyOnDemandCost").round 2),
      ("recommendation", .text ("Purchase RI for " ++ service ++ ": save ~$"
        ++ (← savings.places 0) ++ "/mo"))]⟩

def plan? (offer : Value) : Result (Option Advice) := do
  match ← worthwhile? offer with
  | none => return none
  | some savings =>
    let hourly ← (← amount offer "HourlyCommitmentToPurchase").round 4
    let saved ← savings.round 2
    return some ⟨saved, [("type", "savings_plan"), ("service", "Compute"), ("instance_type", "N/A"),
      ("term", "1 year"), ("payment_option", "No Upfront"), ("hourly_commitment", hourly),
      ("estimated_monthly_savings", saved),
      ("recommendation", .text ("Purchase Compute Savings Plan: save ~$"
        ++ (← savings.places 0) ++ "/mo"))]⟩

def reservationAdvice (service : String) : Run (List Advice) :=
  Run.orRefused (do
    let reply ← CostExplorer.call "get_reservation_purchase_recommendation"
      (("Service", .text service) :: terms)
    liftM (do
      let groups ← (← (← reply.getD "Recommendations" (.list [])).items).mapM fun r => do
        (← (← r.getD "RecommendationDetails" (.list [])).items).mapM (reserve? service)
      return groups.flatten.filterMap id : Result (List Advice))) []

def planAdvice : Run (List Advice) :=
  Run.orRefused (do
    let reply ← CostExplorer.call "get_savings_plans_purchase_recommendation"
      (("SavingsPlansType", "COMPUTE_SP") :: terms)
    liftM (do
      let offers ← (← (← reply.getD "SavingsPlansPurchaseRecommendation" (.object [])).getD
        "SavingsPlansPurchaseRecommendationDetails" (.list [])).items
      return (← offers.mapM plan?).filterMap id : Result (List Advice))) []

def advice : Run (List Advice) := do
  let reservations ← services.mapM reservationAdvice
  let plans ← planAdvice
  return Arithmetic.descending Advice.savings (reservations.flatten ++ plans)

end CloudSpend.Aws.Commitment
