import CloudSpend.Form.Shape
import CloudSpend.Outside.World

/-! # Clients and their models -/

namespace CloudSpend

namespace Client

inductive Event where
  | opened (options : Row)
  | sent (r : Web.Request)
  | closed

def Event.toValue : Event → Value
  | opened options => .object [("client", .object options)]
  | sent r => r.toValue
  | closed => .object [("close", true)]

end Client

structure Client where
  base : String
  world : World
  log : List Client.Event := []

namespace Client

def version : String := "0.1.0"

def patience : Value := .float 30

abbrev Action := ExceptT Fault (StateM Client)

def interface (address : Value) : Result String := do
  let service ← address.expectText "rstrip"
  return String.ofList (service.toList.reverse.dropWhile (· == '/')).reverse ++ "/api/v2"

def start (w : World) (base : String) (options : Row) : Client :=
  { base, world := w, log := [.opened options] }

def note (e : Event) : Action Unit := modify fun c => { c with log := c.log ++ [e] }

def send (r : Web.Request) : Action Web.Reply := do
  note (.sent r)
  let c ← get
  let (reply, w) := (Run.send r).run.run c.world
  set { c with world := w }
  ExceptT.mk (pure reply)

def close : Action Unit := note .closed

structure Ask where
  method : String
  path : String
  params : Option Row := none
  body : Option Value := none

structure Operation where
  name : String
  params : List (String × Option Value)
  /-- Whether any further arguments can be given by name. -/
  takesMore : Bool := false
  ask : Row → Row → Ask
  answer : Option Form.Shape := none

def misfit : Fault := .wrongKind "the arguments do not fit"

def bind : List (String × Option Value) → List Value → Row → Result Row
  | [], [], _ => .ok []
  | [], _ :: _, _ => .error misfit
  | (name, _) :: params, v :: args, named =>
    if Entries.has named name then .error misfit
    else (bind params args named).map ((name, v) :: ·)
  | (name, default) :: params, [], named =>
    match Entries.get? named name, default with
    | some v, _ => (bind params [] named).map ((name, v) :: ·)
    | none, some v => (bind params [] named).map ((name, v) :: ·)
    | none, none => .error misfit

def Operation.arguments (o : Operation) (args : List Value) (named : Row) :
    Result (Row × Row) := do
  if Entries.has named "self" then throw misfit
  let given ← bind o.params args named
  let more := named.filter fun e => !Entries.has o.params e.1
  if !more.isEmpty && !o.takesMore then throw misfit
  return (given, more)

def Operation.check (o : Operation) (answer : Value) : Result Value :=
  match o.answer, answer with
  | none, v => .ok v
  | some shape, .object es => shape.validate (.object es)
  | some _, _ => .error misfit

def call (read : Web.Reply → Result Value) (operations : List Operation) (values : List String)
    (name : String) (args : List Value) (named : Row) : Action Value := do
  if values.contains name then throw misfit
  match operations.find? fun o => o.name == name with
  | none => throw (.noAttribute .object name)
  | some o =>
    let (given, more) ← ExceptT.mk (pure (o.arguments args named))
    let ask := o.ask given more
    let reply ← send {
      method := ask.method
      url := (← get).base ++ ask.path
      params := ask.params.map .object
      json := ask.body }
    ExceptT.mk (pure (do o.check (← read reply)))

def arg (given : Row) (name : String) : Value := (Entries.get? given name).getD .null

def pathArg (given : Row) (name : String) : String := (arg given name).display

def args (given : Row) (names : List String) : Row := names.map fun n => (n, arg given n)

def filled (given : Row) (names : List (String × String)) : Row :=
  names.filterMap fun n =>
    let v := arg given n.2
    if v.truthy then some (n.1, v) else none

def filledSame (given : Row) (names : List String) : Row :=
  filled given (names.map fun n => (n, n))

def pageParams : List (String × Option Value) :=
  [("page", some (.int 1)), ("limit", some (.int 25))]

def bodyArg (given : Row) (name : String) : Option Value :=
  some (arg given name) |>.filter fun v => !v.isNull

def needed (name : String) : String × Option Value := (name, none)

def optional (name : String) : String × Option Value := (name, some .null)

def anyRequest : Operation where
  name := "_request"
  params := [needed "method", needed "path", optional "params", optional "json"]
  ask given _ := {
    method := pathArg given "method"
    path := pathArg given "path"
    params := (arg given "params").object?
    body := bodyArg given "json" }

def anyGet : Operation where
  name := "_get"
  params := [needed "path"]
  takesMore := true
  ask given more := { method := "GET", path := pathArg given "path", params := some more }

def anySend (method : String) (body : String × Option Value) : Operation where
  name := "_" ++ Text.lower method
  params := [needed "path", body]
  ask given _ := { method, path := pathArg given "path", body := bodyArg given body.1 }

def anyDelete : Operation where
  name := "_delete"
  params := [needed "path"]
  ask given _ := { method := "DELETE", path := pathArg given "path" }

def closeOr (call : Action Value) (name : String) (args : List Value) (named : Row) :
    Action Value := do
  if name != "close" then call
  else if args.isEmpty && named.isEmpty then
    close
    return .null
  else throw misfit

end Client

end CloudSpend

/-! ## Models -/

namespace CloudSpend.Client

open Form (required withDefault maybe)

structure Model where
  name : String
  fields : List Form.Field

namespace Model

def shape (m : Model) : Form.Shape := .record m.fields

def fieldNames (m : Model) : List String := m.fields.map (·.1)

def page (m : Model) (plural : String) : Model :=
  ⟨m.name ++ "List", [withDefault plural (.list m.shape) (.list []),
    withDefault "links" .table (.object [])]⟩

def text (name : String) : Form.Field := required name .anyText

def text? (name : String) : Form.Field := maybe name .anyText

def textOr (name default : String) : Form.Field := withDefault name .anyText (.text default)

def day? (name : String) : Form.Field := maybe name .date

def created : Form.Field := required "created_at" .timestamp

def tables (name : String) : Form.Field := withDefault name (.list .table) (.list [])

def workspace : Model :=
  ⟨"Workspace", [text "token", text "name", withDefault "is_default" .bool false, created]⟩

def costReport : Model :=
  ⟨"CostReport", [text "token", text "title", text? "workspace_token", text? "folder_token",
    text? "filter", textOr "groupings" "service", textOr "date_interval" "last_30_days",
    textOr "date_bucket" "day", day? "start_date", day? "end_date",
    withDefault "settings" .table (.object []), created]⟩

def folder : Model :=
  ⟨"Folder", [text "token", text "title", text? "workspace_token", text? "parent_folder_token",
    created]⟩

def savedFilter : Model :=
  ⟨"SavedFilter", [text "token", text "title", text "filter", created]⟩

def dashboard : Model :=
  ⟨"Dashboard", [text "token", text "title", tables "widgets",
    textOr "date_interval" "last_30_days", day? "start_date", day? "end_date", created]⟩

def segment : Model :=
  ⟨"Segment", [text "token", text "title", text? "description", text? "filter",
    withDefault "priority" (.int none none) (.int 0), withDefault "track_unallocated" .bool false,
    created]⟩

def team : Model := ⟨"Team", [text "token", text "name", text? "description", created]⟩

def accessGrant : Model :=
  ⟨"AccessGrant", [text "token", text? "team_token", text "resource_type", text "resource_token",
    textOr "access_level" "viewer", created]⟩

def virtualTag : Model :=
  ⟨"VirtualTag", [text "token", text "key", text? "description",
    withDefault "overridable" .bool true, day? "backfill_until", tables "values", created]⟩

def apiToken : Model :=
  ⟨"APIToken", [text "token_prefix", text "name", text "scopes",
    withDefault "is_active" .bool true, maybe "last_used_at" .timestamp, created]⟩

def newApiToken : Model := ⟨"APITokenCreated", apiToken.fields ++ [text "token"]⟩

def resourceReport : Model :=
  ⟨"ResourceReport", [text "token", text "title", text? "filter",
    textOr "groupings" "resource_id", withDefault "columns" (.list .anyText) (.list []), created]⟩

def message : Model := ⟨"Message", [text "message"]⟩

end Model

end CloudSpend.Client
