import CloudSpend.Billing.Table
import CloudSpend.Data.Json
import CloudSpend.Storage.Files
import CloudSpend.Web.Address

/-! # The outside of a run -/

namespace CloudSpend.Web

structure Request where
  method : String
  url : Value
  headers : Option Value := none
  params : Option Value := none
  json : Option Value := none
  content : Option Value := none
  auth : Option Value := none
  timeout : Option Value := none

def Request.toValue (r : Request) : Value :=
  let given (key : String) : Option Value → Row
    | none => []
    | some v => if v.isNull then [] else [(key, v)]
  .object ([("method", .text r.method), ("url", r.url)] ++ given "headers" r.headers
    ++ given "params" r.params ++ given "json" r.json ++ given "content" r.content
    ++ given "auth" r.auth ++ given "timeout" r.timeout)

inductive Body where
  | text (s : String)
  | json (v : Value)
  deriving Inhabited

structure Reply where
  status : Nat
  body : Body
  url : String := ""
  deriving Inhabited

def reasons : List (Nat × String) :=
  [(100, "Continue"), (101, "Switching Protocols"), (102, "Processing"), (103, "Early Hints"),
   (200, "OK"), (201, "Created"), (202, "Accepted"), (203, "Non-Authoritative Information"),
   (204, "No Content"), (205, "Reset Content"), (206, "Partial Content"), (207, "Multi-Status"),
   (208, "Already Reported"), (226, "IM Used"), (300, "Multiple Choices"),
   (301, "Moved Permanently"), (302, "Found"), (303, "See Other"), (304, "Not Modified"),
   (305, "Use Proxy"), (307, "Temporary Redirect"), (308, "Permanent Redirect"),
   (400, "Bad Request"), (401, "Unauthorized"), (402, "Payment Required"), (403, "Forbidden"),
   (404, "Not Found"), (405, "Method Not Allowed"), (406, "Not Acceptable"),
   (407, "Proxy Authentication Required"), (408, "Request Timeout"), (409, "Conflict"),
   (410, "Gone"), (411, "Length Required"), (412, "Precondition Failed"),
   (413, "Request Entity Too Large"), (414, "Request-URI Too Long"),
   (415, "Unsupported Media Type"), (416, "Requested Range Not Satisfiable"),
   (417, "Expectation Failed"), (418, "I'm a teapot"), (421, "Misdirected Request"),
   (422, "Unprocessable Entity"), (423, "Locked"), (424, "Failed Dependency"), (425, "Too Early"),
   (426, "Upgrade Required"), (428, "Precondition Required"), (429, "Too Many Requests"),
   (431, "Request Header Fields Too Large"), (451, "Unavailable For Legal Reasons"),
   (500, "Internal Server Error"), (501, "Not Implemented"), (502, "Bad Gateway"),
   (503, "Service Unavailable"), (504, "Gateway Timeout"), (505, "HTTP Version Not Supported"),
   (506, "Variant Also Negotiates"), (507, "Insufficient Storage"), (508, "Loop Detected"),
   (510, "Not Extended"), (511, "Network Authentication Required")]

def Reply.isSuccess (r : Reply) : Bool := 200 ≤ r.status && r.status ≤ 299

def Request.address (r : Request) : Result Address := do
  match r.url with
  | .text url =>
    let address ← Address.read url
    match r.params with
    | some (.object params) => address.withParams params
    | _ => return address
  | v => throw (.wrongKind ("Invalid type for url.  Expected str or httpx.URL, got <class '"
      ++ v.kind.name ++ "'>: " ++ v.literal))

def statusClass (status : Nat) : String :=
  match status / 100 with
  | 1 => "Informational response"
  | 3 => "Redirect response"
  | 4 => "Client error"
  | 5 => "Server error"
  | _ => "Invalid status code"

def statusFault (url : String) (status : Nat) : Fault :=
  .httpStatus (statusClass status ++ " '" ++ toString status ++ " "
    ++ (reasons.lookup status).getD "" ++ "' for url '" ++ url
    ++ "'\nFor more information check: https://developer.mozilla.org/en-US/docs/Web/HTTP/Status/"
    ++ toString status)

def Reply.json (r : Reply) : Result Value :=
  match r.body with
  | .json .null => Json.readEncoded ""
  | .json v => .ok v
  | .text s => Json.readEncoded s

def Reply.text (r : Reply) : String :=
  match r.body with
  | .json .null => ""
  | .json v => Json.write v
  | .text s => s

end CloudSpend.Web

/-! ## The outside of a run -/

namespace CloudSpend

inductive AwsCall where
  | session (args : Row)
  | method (service name : String) (region : Value) (paged : Bool) (args : Row)

def AwsCall.toValue : AwsCall → Value
  | session args => .object [("call", "Session"), ("kwargs", .object args)]
  | method service name region _ args =>
    .object [("call", .text (service ++ "." ++ name)), ("region", region), ("kwargs", .object args)]

structure Statement where
  sql : String
  params : List Value

inductive EngineEvent where
  | connect (path : String)
  | statement (s : Statement)
  | close

def EngineEvent.toValue : EngineEvent → Value
  | connect path => .object [("connect", .text path)]
  | statement ⟨sql, []⟩ => .object [("sql", .text sql)]
  | statement ⟨sql, params⟩ => .object [("sql", .text sql), ("params", .list params)]
  | close => .object [("close", true)]

structure Rows where
  columns : List Value
  rows : List (List Value)
  deriving Inhabited

structure Outside where
  web : List Web.Request → Web.Request → Result Web.Reply
  aws : List AwsCall → AwsCall → Result Value
  /-- How many pages an answer of AWS has at most. -/
  pages : Nat
  engine : List EngineEvent → Statement → Result Rows
  snowflake : Result Rows
  bigQuery : Result (List Value)
  blobs : List (String × Option String)
  listsBlobs : Bool
  azureToken : Result Value
  signsOracle : Bool
  mail : Option (Result Nat)
  /-- What becomes of writing a table after some others. -/
  writes : List Billing.Table → Billing.Table → Result Unit := fun _ _ => .ok ()

structure World where
  outside : Outside
  now : Timestamp
  ids : Nat := 0
  web : List Web.Request := []
  aws : List AwsCall := []
  engine : List EngineEvent := []
  engineOpen : Bool := false
  snowflake : List Value := []
  clouds : List Value := []
  mail : List Value := []
  tables : List Billing.Table := []
  files : Storage.Files := []
  connected : Bool := false

abbrev Run := ExceptT Fault (StateM World)

instance : MonadLift Result Run where
  monadLift r := ExceptT.mk (pure r)

namespace Run

def attempt {α : Type} (x : Run α) : Run (Result α) := ExceptT.mk (Except.ok <$> x.run)

def recover {α : Type} (x : Run α) (handle : Fault → Run α) : Run α := do
  match ← attempt x with
  | .ok a => return a
  | .error e => handle e

def recoverFrom {α : Type} (category : Fault.Category) (x : Run α) (handle : Fault → Run α) :
    Run α :=
  recover x fun e => if e.category == category then handle e else throw e

def today : Run Date := do return (← get).now.date

def now : Run Timestamp := do return (← get).now

def nextId : Run Nat := do
  let w ← get
  set { w with ids := w.ids + 1 }
  return w.ids + 1

def sendTo (answers : List Web.Request → Web.Request → Result Web.Reply) (r : Web.Request) :
    Run Web.Reply := do
  let w ← get
  set { w with web := w.web ++ [r] }
  let reply ← liftM (answers w.web r)
  let address ← liftM r.address
  discard (liftM (Text.bytes reply.text))
  return { reply with url := address.text }

def send (r : Web.Request) : Run Web.Reply := do sendTo (← get).outside.web r

def success (reply : Web.Reply) : Run Web.Reply :=
  if reply.isSuccess then return reply else throw (Web.statusFault reply.url reply.status)

def sendOk (r : Web.Request) : Run Web.Reply := do success (← send r)

def sendJson (r : Web.Request) : Run Value := do liftM (← sendOk r).json

def callAws (c : AwsCall) : Run Value := do
  let w ← get
  set { w with aws := w.aws ++ [c] }
  liftM (w.outside.aws w.aws c)

def openSession (args : Row) : Run Unit := do
  let w ← get
  set { w with aws := w.aws ++ [AwsCall.session args] }

def orRefused {α : Type} (x : Run α) (refused : α) : Run α :=
  recoverFrom .client x fun _ => return refused

def aws (service name : String) (region : Value) (args : Row) : Run Value :=
  callAws (.method service name region false args)

def awsPages (service name : String) (region : Value) (args : Row) : Run (List Value) := do
  liftM (← callAws (.method service name region true args)).items

def disconnect : Run Unit := modify fun w => { w with connected := false }

def connectOnce (x : Run Unit) : Run Unit := do
  if !(← get).connected then
    x
    modify fun w => { w with connected := true }

def makeDirectory (p : Storage.Path) : Run Unit := do
  let w ← get
  let (files, made) := Storage.Files.makeDirectories (p.parts.length + 1) w.files p
  set { w with files }
  liftM made

def writeTable (t : Billing.Table) : Run Unit := do
  let w ← get
  liftM (w.outside.writes w.tables t)
  set { w with
    tables := w.tables ++ [t]
    files := w.files.putAt (Storage.Path.ofText t.path) (.table t.kept) }

def writeRows (path : Value) (rows : List Value) : Run Unit := do
  for t in ← liftM (Billing.Table.store path.display rows) do
    makeDirectory (← liftM (Storage.Path.ofValue path)).parent
    writeTable t

def contentAt (p : Storage.Path) (name : String) : Run Storage.Content := do
  let fs := (← get).files
  match fs.locate p with
  | .error o => throw (o.fault name)
  | .ok place => match fs.get? place with
    | none => throw (.noFile name)
    | some c => return c

def writeText (p : Storage.Path) (text : String) : Run Unit := do
  let w ← get
  match w.files.locate p with
  | .error o => throw (o.fault p.text)
  | .ok place => match w.files.get? place with
    | some .directory => throw (.isDirectory p.text)
    | _ => set { w with files := w.files.put place (.text text) }

def look (p : Storage.Path) : Run (Option Storage.Content) := do
  liftM ((← get).files.look p)

def compressedText : Fault := .undecodable "utf-8" 0x8b 1 1 "invalid start byte"

def readText (p : Storage.Path) (name : String) : Run String := do
  match ← contentAt p name with
  | .text s => return s
  | .compressed _ | .table _ => throw compressedText
  | .directory => throw (.isDirectory name)

def readFile (name : String) : Run String := do
  let p := Storage.Path.ofText name
  let content ← contentAt p name
  if Text.endsWith name "/" then
    match content with
    | .directory => pure ()
    | _ => throw (.notDirectory name)
  readText p name

def readCompressed (p : Storage.Path) : Run String := do
  match ← contentAt p p.text with
  | .compressed s => return s
  | .text s => throw (.notCompressed ((s.toUTF8.toList.take 2).map UInt8.toNat))
  | .table _ => throw compressedText
  | .directory => throw (.isDirectory p.text)

def namesWith (p : Storage.Path) (ending : String) : Run (List String) := do
  match ← look p with
  | some .directory =>
    let fs := (← get).files
    return ((fs.locate p).toOption.map fun place => fs.withEnding place ending).getD []
  | _ => return []

def noteCloud (v : Value) : Run Unit := modify fun w => { w with clouds := w.clouds ++ [v] }

def noteSnowflake (v : Value) : Run Unit :=
  modify fun w => { w with snowflake := w.snowflake ++ [v] }

end Run

end CloudSpend
