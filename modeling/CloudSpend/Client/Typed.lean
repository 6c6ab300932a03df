import CloudSpend.Client.Basic

/-! # The typed client -/

namespace CloudSpend.Client.Typed

def address : String := "https://api.cloudpulse.dev"

def start (w : World) (address token timeout : Value) : Result Client := do
  let base ← interface address
  return Client.start w base [
    ("base_url", .text base),
    ("headers", .object [("Authorization", .text ("Bearer " ++ token.display)),
      ("Content-Type", "application/json"), ("User-Agent", .text ("cloudpulse-python/" ++ version))]),
    ("timeout", timeout)]

def detail (r : Web.Reply) : Value :=
  match (do (← r.json).getD "detail" "" : Result Value) with
  | .ok v => v
  | .error _ => .text r.text

def read (r : Web.Reply) : Result Value := do
  if 400 ≤ r.status then
    let d := detail r
    throw (.api ("API error " ++ toString r.status ++ ": " ++ d.display) (.int r.status) d)
  r.json

structure Resource where
  plural : String
  model : Model
  parent : Option String := some "workspace_token"

namespace Resource

def one (r : Resource) (name : String) (given : Row) : String :=
  "/" ++ r.plural ++ "/" ++ pathArg given name

def list (r : Resource) : Operation where
  name := "list"
  params := (r.parent.toList.map optional) ++ pageParams
  ask given _ := {
    method := "GET"
    path := "/" ++ r.plural
    params := some (args given ["page", "limit"] ++ filledSame given r.parent.toList) }
  answer := some (r.model.page r.plural).shape

def get (r : Resource) : Operation where
  name := "get"
  params := [needed "token"]
  ask given _ := { method := "GET", path := r.one "token" given, params := some [] }
  answer := some r.model.shape

def create (r : Resource) : Operation where
  name := "create"
  params := []
  takesMore := true
  ask _ more := { method := "POST", path := "/" ++ r.plural, body := some (.object more) }
  answer := some r.model.shape

def createFrom (r : Resource) (params : List (String × Option Value)) (answer : Model) :
    Operation where
  name := "create"
  params := params
  ask given _ := { method := "POST", path := "/" ++ r.plural, body := some (.object given) }
  answer := some answer.shape

def update (r : Resource) : Operation where
  name := "update"
  params := [needed "token"]
  takesMore := true
  ask given more := { method := "PUT", path := r.one "token" given, body := some (.object more) }
  answer := some r.model.shape

def rename (r : Resource) : Operation where
  name := "update"
  params := [needed "token", needed "name"]
  ask given _ := {
    method := "PUT", path := r.one "token" given, body := some (.object (args given ["name"])) }
  answer := some r.model.shape

def deleteBy (r : Resource) (operation argument : String) : Operation where
  name := operation
  params := [needed argument]
  ask given _ := { method := "DELETE", path := r.one argument given }
  answer := some Model.message.shape

def operations (r : Resource) : List Operation :=
  [r.list, r.get, r.create, r.update, r.deleteBy "delete" "token"]

end Resource

def usual : List Resource :=
  [⟨"cost_reports", .costReport, some "workspace_token"⟩,
   ⟨"folders", .folder, some "workspace_token"⟩,
   ⟨"saved_filters", .savedFilter, some "workspace_token"⟩,
   ⟨"dashboards", .dashboard, some "workspace_token"⟩,
   ⟨"segments", .segment, some "workspace_token"⟩,
   ⟨"teams", .team, some "workspace_token"⟩,
   ⟨"virtual_tags", .virtualTag, some "workspace_token"⟩,
   ⟨"resource_reports", .resourceReport, some "workspace_token"⟩]

def workspaces : Resource := ⟨"workspaces", .workspace, none⟩

def accessGrants : Resource := ⟨"access_grants", .accessGrant, some "team_token"⟩

def apiTokens : Resource := ⟨"api_tokens", .apiToken, none⟩

def operations : List (String × List Operation) :=
  (usual.map fun r => (r.plural, r.operations)) ++
  [(workspaces.plural, [workspaces.list, workspaces.get,
      workspaces.createFrom [needed "name"] .workspace, workspaces.rename,
      workspaces.deleteBy "delete" "token"]),
   (accessGrants.plural, [accessGrants.list, accessGrants.create,
      accessGrants.deleteBy "delete" "token"]),
   (apiTokens.plural, [apiTokens.list,
      apiTokens.createFrom [needed "name", ("scopes", some "read")] .newApiToken,
      apiTokens.deleteBy "revoke" "token_prefix"])]

def pathOperations : List Operation :=
  [anyGet, anySend "POST" (needed "data"), anySend "PUT" (needed "data"), anyDelete]

def callOf (resource name : String) (args : List Value) (named : Row) : Action Value :=
  match Entries.get? operations resource with
  | none => throw (.noAttribute .object resource)
  | some os => call read (os ++ pathOperations) ["_client"] name args named

def call (name : String) (args : List Value) (named : Row) : Action Value :=
  closeOr (Client.call read [anyRequest]
    (["_base_url", "_client", "DEFAULT_BASE_URL", "API_VERSION"] ++ operations.map (·.1))
    name args named) name args named

def models : List Model :=
  let both (m : Model) (plural : String) : List Model := [m, m.page plural]
  both .workspace "workspaces" ++ both .costReport "cost_reports" ++ both .folder "folders"
    ++ both .savedFilter "saved_filters" ++ both .dashboard "dashboards"
    ++ both .segment "segments" ++ both .team "teams" ++ both .accessGrant "access_grants"
    ++ both .virtualTag "virtual_tags" ++ [.apiToken, .newApiToken, Model.apiToken.page "api_tokens"]
    ++ both .resourceReport "resource_reports" ++ [.message]

def exports : List (String × List String) :=
  [("CloudPulseClient", []), ("CloudPulseError", [])] ++ models.map fun m => (m.name, m.fieldNames)

end CloudSpend.Client.Typed
