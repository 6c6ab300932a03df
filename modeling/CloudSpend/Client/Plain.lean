import CloudSpend.Client.Basic

/-! # The plain client -/

namespace CloudSpend.Client.Plain

def address : String := "http://localhost:8000"

def start (w : World) (address token timeout : Value) : Result Client := do
  let headers := ("Content-Type", .text "application/json") ::
    if token.truthy then [("Authorization", .text ("Bearer " ++ token.display))] else []
  return Client.start w (← interface address) [("headers", .object headers), ("timeout", timeout)]

def detail (r : Web.Reply) : Result Value :=
  match r.body with
  | .json .null | .text _ => .ok (.text r.text)
  | .json v => v.getD "detail" (.text r.text)

def read (r : Web.Reply) : Result Value := do
  if 400 ≤ r.status then
    let d ← detail r
    throw (.api ("HTTP " ++ toString r.status ++ ": " ++ d.display) (.int r.status) d)
  r.json

def get (path : String) (params : Row := []) : Ask := { method := "GET", path, params := some params }

def post (path : String) (body : Row) : Ask := { method := "POST", path, body := some (.object body) }

def delete (path : String) : Ask := { method := "DELETE", path }

def integration (given : Row) : String := "/integrations/" ++ pathArg given "integration_id"

def syncAsk (given : Row) : Ask :=
  let days := filledSame given ["start_date", "end_date"]
  let query := "&".intercalate (days.map fun d => d.1 ++ "=" ++ d.2.display)
  { method := "POST"
    path := integration given ++ "/sync" ++ (if days.isEmpty then "" else "?" ++ query) }

def queryBody (given : Row) : Row :=
  args given ["granularity", "limit"] ++ filled given
    [("provider", "provider"), ("start_date", "start_date"), ("end_date", "end_date"),
     ("group_by", "group_by"), ("filter", "filter_expr")]

def queryCosts : Operation where
  name := "query_costs"
  params := [optional "provider", ("granularity", some "daily"), optional "start_date",
    optional "end_date", optional "group_by", optional "filter_expr", ("limit", some (.int 1000))]
  ask given _ := post "/query" (queryBody given)

def integrationOperations : List Operation :=
  [{ name := "get_catalog", params := [], ask := fun _ _ => get "/integrations/catalog" },
   { name := "list_integrations", params := [optional "provider"]
     ask := fun given _ => get "/integrations" (filledSame given ["provider"]) },
   { name := "connect"
     params := [needed "provider", needed "credentials", optional "display_name"]
     ask := fun given _ => post "/integrations/connect"
       (args given ["provider", "credentials"] ++ filledSame given ["display_name"]) },
   { name := "validate", params := [needed "integration_id"]
     ask := fun given _ => { method := "POST", path := integration given ++ "/validate" } },
   { name := "sync"
     params := [needed "integration_id", optional "start_date", optional "end_date"]
     ask := fun given _ => syncAsk given },
   { name := "disconnect", params := [needed "integration_id"]
     ask := fun given _ => delete (integration given) }]

def otherOperations : List Operation :=
  [queryCosts,
   { name := "get_billing_stats", params := [], ask := fun _ _ => get "/query/stats" },
   { name := "list_budgets", params := pageParams
     ask := fun given _ => get "/budgets" (args given ["page", "limit"]) },
   { name := "create_budget", params := [needed "data"]
     ask := fun given _ => { method := "POST", path := "/budgets", body := bodyArg given "data" } },
   { name := "list_tokens", params := pageParams
     ask := fun given _ => get "/api_tokens" (args given ["page", "limit"]) },
   { name := "create_token", params := [needed "name", ("scopes", some "read")]
     ask := fun given _ => post "/api_tokens" (args given ["name", "scopes"]) },
   { name := "revoke_token", params := [needed "token_prefix"]
     ask := fun given _ => delete ("/api_tokens/" ++ pathArg given "token_prefix") },
   { name := "list_webhooks", params := [], ask := fun _ _ => get "/webhooks" },
   { name := "create_webhook", params := [needed "url", needed "events", optional "secret"]
     ask := fun given _ =>
       post "/webhooks" (args given ["url", "events"] ++ filledSame given ["secret"]) },
   { name := "delete_webhook", params := [needed "webhook_id"]
     ask := fun given _ => delete ("/webhooks/" ++ pathArg given "webhook_id") }]

def pathOperations : List Operation :=
  [anyRequest, anyGet, anySend "POST" (optional "json"), anyDelete]

def call (name : String) (args : List Value) (named : Row) : Action Value :=
  closeOr (Client.call read (integrationOperations ++ otherOperations ++ pathOperations)
    ["base_url", "_v2", "_client"] name args named) name args named

def exports : List (String × List String) := [("CloudPulseClient", [])]

end CloudSpend.Client.Plain
