import CloudSpend.Api.Service

/-! # Endpoints -/

namespace CloudSpend.Api

structure Request where
  method : String
  path : String
  query : List (String × String) := []
  body : Value := .null
  credential : Option String := none

def Request.ofAddress (method address : String) (params : Row) (body : Value)
    (credential : Option String) : Result Request := do
  let (path, query) ← Web.Address.target address params
  if let some word := credential then Text.requireAscii ("Bearer " ++ word)
  discard (Json.encode body)
  return { method := Text.upper method, path, body, credential,
           query := query.map fun p => (p.1, p.2.getLastD "") }

structure Response where
  status : Nat
  body : Value

structure Call where
  params : List String
  query : Row
  body : Row
  given : List String
  user : Row

namespace Call

def param (c : Call) : String := c.params.headD ""

def arg (c : Call) (name : String) : Value := Store.cell c.query name

def day? (c : Call) (name : String) : Option Date :=
  match c.arg name with
  | .date d => some d
  | _ => none

def field (c : Call) (name : String) : Value := Store.cell c.body name

end Call

structure Endpoint where
  method : String
  path : String
  signedIn : Bool := false
  query : List Form.Field := []
  body : Option Form.Shape := none
  answer : Form.Shape := .any
  status : Nat := 200
  run : Call → Handler Value

def segments? : List String → List String → Option (List String)
  | [], [] => some []
  | [f], [s] =>
    if Text.startsWith f ":" then (if s.isEmpty then none else some [s])
    else if s == f || s == f ++ "\n" then some [] else none
  | f :: form, s :: path =>
    if Text.startsWith f ":" then
      if s.isEmpty then none else (segments? form path).map (s :: ·)
    else if f == s then segments? form path else none
  | _, _ => none

def Endpoint.params? (e : Endpoint) (path : String) : Option (List String) :=
  segments? (Text.split e.path "/") (Text.split path "/")

def endpointsAt (endpoints : List Endpoint) (path : String) : List (Endpoint × List String) :=
  endpoints.filterMap fun e => (e.params? path).map fun params => (e, params)

def isElsewhere (endpoints : List Endpoint) (path : String) : Bool :=
  let short := String.ofList (path.toList.reverse.dropWhile (· == '/')).reverse
  path != "/" && Text.endsWith path "/" && (endpointsAt endpoints path).isEmpty
    && !(endpointsAt endpoints short).isEmpty

def route (endpoints : List Endpoint) (r : Request) : Result (Endpoint × List String) :=
  let here := endpointsAt endpoints r.path
  match here.find? fun found => found.1.method == r.method with
  | some found => .ok found
  | none =>
    if here.isEmpty then .error (.http 404 "Not Found") else .error (.http 405 "Method Not Allowed")

def Endpoint.readQuery (e : Endpoint) (query : List (String × String)) :
    Except (List Form.Place) Row :=
  Form.inside "query" (Form.Shape.checkFields e.query (query.map fun p => (p.1, .text p.2)))

def Endpoint.readBody (e : Endpoint) (body : Value) : Except (List Form.Place) Row :=
  match e.body with
  | none => .ok []
  | some shape => Form.inside "body" <|
    if body.isNull then .error [[]] else (shape.check body).map fun v => v.object?.getD []

mutual

def render : Value → Result Value
  | .float x =>
    if x.isFinite then .ok (.float x)
    else .error (.refused "Out of range float values are not JSON compliant")
  | .date d => .ok (.text d.text)
  | .timestamp t => .ok (.text t.text)
  | .list items => (renderItems items).map .list
  | .object entries => (renderEntries entries).map .object
  | v => .ok v

def renderItems : List Value → Result (List Value)
  | [] => .ok []
  | v :: rest => do return (← render v) :: (← renderItems rest)

def renderEntries : List (String × Value) → Result (List (String × Value))
  | [] => .ok []
  | (k, v) :: rest => do return (k, ← render v) :: (← renderEntries rest)

end

def sendable (body : Value) : Result Value :=
  (Text.bytes (Json.writeIn .direct body)).map fun _ => body

def Endpoint.serve (e : Endpoint) (params : List String) (r : Request) : Handler Response := do
  let user ← if e.signedIn then currentUser r.credential else pure []
  match Form.both Prod.mk (e.readQuery r.query) (e.readBody r.body) with
  | .error places => return ⟨422, Value.texts (Form.placeNames places)⟩
  | .ok (query, body) =>
    let v ← e.run { params, query, body, given := (r.body.object?.getD []).map (·.1), user }
    let shown ← liftM (do render (← e.answer.validate v) : Result Value)
    return ⟨e.status, ← liftM (sendable shown)⟩

def answer (endpoints : List Endpoint) (s : Service) (r : Request) :
    Result Response × Service :=
  if isElsewhere endpoints r.path then (.ok ⟨307, .null⟩, s) else
  match s.transact (do
    let (e, params) ← liftM (route endpoints r)
    e.serve params r) with
  | (.error (.http status detail), after) =>
    ((sendable (.object [("detail", .text detail)])).map fun body => ⟨status, body⟩, after)
  | done => done

end CloudSpend.Api
