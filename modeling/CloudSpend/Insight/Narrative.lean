import CloudSpend.Outside.World

/-! # Insights in words -/

namespace CloudSpend.Insight

def region : Value := "us-east-1"

def prompt (context : Value) : String :=
  "You are a cloud cost analyst. Given the following AWS cost data, write a concise 3-5 sentence "
    ++ "summary explaining the spending patterns, highlighting any notable changes or concerns, "
    ++ "and suggesting one actionable optimization.\n\nCost Data:\n"
    ++ Json.writeIn .indented context
    ++ "\n\nWrite in a professional but conversational tone. Be specific about dollar amounts and "
    ++ "percentages. Start directly with the analysis, no preamble."

def greatestCost (services : Value) : Result (List String) := do
  if !services.truthy then return []
  let top ← services.item 0
  let service := (← top.field "service").display
  let amount ← (← top.field "amount").places 2
  let share ← (← top.getD "pct" (.int 0)).places 0
  return ["The largest cost driver is " ++ service ++ " at $" ++ amount ++ " (" ++ share
    ++ "% of total)."]

def change (percent : Value) : Result (List String) := do
  if percent.isNull then return []
  let direction := if ← percent.gt (.int 0) then "increased" else "decreased"
  return ["Costs have " ++ direction ++ " by " ++ (← (← percent.abs).places 1)
    ++ "% compared to the previous period."]

def anomalies (count : Value) : Result (List String) := do
  if ← count.gt (.int 0) then
    return ["There are " ++ count.display ++ " active cost anomalies to review."]
  else return []

def summary (context : Value) : Result String := do
  let total ← context.getD "total_spend" (.int 0)
  let period ← context.getD "period" "this period"
  let spending := "Your AWS spend for " ++ period.display ++ " totals $" ++ (← total.places 2) ++ "."
  let services ← greatestCost (← context.getD "top_services" (.list []))
  let changed ← change (← context.get "change_pct")
  let unusual ← anomalies (← context.getD "anomaly_count" (.int 0))
  return " ".intercalate (spending :: services ++ changed ++ unusual)

def start : Run Unit := Run.openSession [("region_name", region)]

def bodyText (body : Value) : Result String :=
  match body with
  | .object [("text", .text s)] => .ok s
  | .object _ => .error Run.compressedText
  | v => .error (.noAttribute v.kind "read")

def ask (question : Value) : Run Value := do
  let body ← liftM (Json.encode (.object [
    ("anthropic_version", "bedrock-2023-05-31"),
    ("max_tokens", .int 500),
    ("messages", .list [.object [("role", "user"), ("content", question)]])]))
  let reply ← Run.aws "bedrock-runtime" "invoke_model" region [
    ("modelId", "anthropic.claude-3-haiku-20240307-v1:0"),
    ("contentType", "application/json"),
    ("accept", "application/json"),
    ("body", .text body)]
  liftM (do
    let answer ← Json.readEncoded (← bodyText (← reply.field "body"))
    (← (← answer.field "content").item 0).field "text" : Result Value)

def explain (context : Value) : Run Value :=
  Run.recover (ask (.text (prompt context))) fun _ => do return .text (← liftM (summary context))

def ofComparison (c : Value) : Result Value := do
  return .object [
    ("current_total", ← (← c.getD "current_period" (.object [])).getD "total" (.int 0)),
    ("previous_total", ← (← c.getD "previous_period" (.object [])).getD "total" (.int 0)),
    ("total_change", ← c.getD "total_change" (.int 0)),
    ("total_change_pct", ← c.getD "total_change_pct" (.int 0)),
    ("direction", ← c.getD "direction" "unchanged"),
    ("top_increases", ← (← c.getD "top_increases" (.list [])).take 3),
    ("top_decreases", ← (← c.getD "top_decreases" (.list [])).take 3),
    ("new_services", ← c.getD "new_services" (.list []))]

def explainComparison (c : Value) : Run Value := do explain (← liftM (ofComparison c))

end CloudSpend.Insight
