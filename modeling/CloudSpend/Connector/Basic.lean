import CloudSpend.Source.Basic

/-! # Connectors -/

namespace CloudSpend

namespace Connector

structure Validation where
  valid : Value
  error : Option String := none
  account : Value := .null

structure Ingestion where
  succeeded : Bool
  rows : Value := .int 0
  message : String
  path : Option String := none

structure Line where
  provider : String
  service : Value
  usageDate : Value
  amount : Value
  currency : Value
  region : Value
  accountId : Value
  usageType : Value
  usageQuantity : Value

def Validation.toValue (v : Validation) : Value :=
  .object [("valid", v.valid), ("error", Value.ofText? v.error), ("account_identifier", v.account)]

def Ingestion.toValue (i : Ingestion) : Value :=
  .object [("status", if i.succeeded then "success" else "error"), ("rows_ingested", i.rows),
    ("message", .text i.message), ("parquet_path", Value.ofText? i.path)]

def Line.toRow (l : Line) : Row :=
  [("provider", .text l.provider), ("service", l.service), ("usage_date", l.usageDate),
   ("amount", l.amount), ("currency", l.currency), ("region", l.region),
   ("account_id", l.accountId), ("resource_id", .null), ("usage_type", l.usageType),
   ("usage_quantity", l.usageQuantity), ("tags", .object [])]

def storedCell (name : String) (v : Value) : Value :=
  if name == "tags" then .text v.display else v

def columnNames : List String :=
  ["provider", "service", "usage_date", "amount", "currency", "region", "account_id",
   "resource_id", "usage_type", "usage_quantity", "tags"]

def table (path : String) (lines : List Line) : Billing.Table :=
  { path := path
    columns := columnNames.map fun name =>
      (name, lines.map fun l => storedCell name ((Entries.get? l.toRow name).getD .null)) }

structure Columns where
  service : Value → Result Value
  usageDate : Value → Result Value
  amount : Value → Result Value
  currency : Value → Result Value := fun _ => .ok "USD"
  region : Value → Result Value := fun _ => .ok .null
  accountId : Value → Result Value := fun _ => .ok .null
  usageType : Value → Result Value := fun _ => .ok .null
  usageQuantity : Value → Result Value := fun _ => .ok .null

def Columns.line (c : Columns) (provider : String) (r : Value) : Result Line := do
  return {
    provider := provider
    service := ← c.service r
    usageDate := ← c.usageDate r
    amount := ← c.amount r
    currency := ← c.currency r
    region := ← c.region r
    accountId := ← c.accountId r
    usageType := ← c.usageType r
    usageQuantity := ← c.usageQuantity r }

def Columns.lines (c : Columns) (provider : String) (raw : Value) : Result (List Line) := do
  (← raw.items).mapM (c.line provider)

def fixed (v : Value) : Value → Result Value := fun _ => .ok v

def cell (key : String) (default : Value) : Value → Result Value := fun r => r.getD key default

def day (key : String) : Value → Result Value := fun r => do (← r.getD key "").take 10

def number (key : String) : Value → Result Value := fun r => do
  return .float (← (← r.getD key (.int 0)).toFloat)

def inner (outer key : String) (default : Value) : Value → Result Value := fun r => do
  (← r.getD outer (.object [])).getD key default

end Connector

structure Connector where
  key : String
  validate : Value → Run Connector.Validation
  fetch : Value → Value → Value → Run Value
  /-- Brings fetched costs to the common form; the day is today's. -/
  lines : Value → Date → Value → Result (List Connector.Line)
  ingest : Value → Value → Value → Value → Run Connector.Ingestion

namespace Connector

def pipeline (key : String) (fetch : Value → Value → Value → Run Value)
    (lines : Value → Date → Value → Result (List Line)) (config : Value) (start stop : Value)
    (output : Value) : Run Ingestion :=
  Run.recover (do
    let raw ← fetch config start stop
    let ls ← liftM (lines config (← Run.today) raw)
    if ls.isEmpty then
      return { succeeded := true, message := "No records found for the given date range." }
    let directory ← liftM (Source.directory output key)
    Run.makeDirectory directory
    let path := (directory.join (key ++ "_costs.parquet")).text
    Run.writeTable (table path ls)
    return {
      succeeded := true
      rows := ls.length
      message := "Ingested " ++ toString ls.length ++ " records from " ++ key ++ "."
      path := some path })
    fun e => return { succeeded := false, message := e.message }

def standard (key : String) (validate : Value → Run Validation)
    (fetch : Value → Value → Value → Run Value) (lines : Value → Date → Value → Result (List Line)) :
    Connector :=
  ⟨key, validate, fetch, lines, pipeline key fetch lines⟩

def checking (x : Run Validation) : Run Validation :=
  Run.recover x fun e => return { valid := false, error := some e.message }

def getJson (url : String) (headers : Value) (params : Option Value) : Run Value :=
  Run.sendJson { method := "GET", url, headers := some headers, params, timeout := some (.int 30) }

def dayParams (startKey stopKey : String) (start stop : Value) : Result (Option Value) := do
  return some (.object [(startKey, .text (← start.dayText)), (stopKey, .text (← stop.dayText))])

def bearer (config : Value) (key : String) : Result Value := do
  return .object [("Authorization", .text ("Bearer " ++ (← config.field key).display))]

structure Teller where
  address : Value → Result String
  headers : Value → Result Value
  check : String
  account : Value → Value → Result Value := fun _ _ => .ok .null
  costs : String
  params : Value → Value → Result (Option Value) := fun _ _ => .ok none
  list : String
  lines : String → Value → Value → Result (List Line)

def Teller.ask (t : Teller) (config : Value) (path : String) (params : Result (Option Value)) : Run Value := do
  getJson ((← liftM (t.address config)) ++ path) (← liftM (t.headers config)) (← liftM params)

def told (key : String) (t : Teller) : Connector :=
  standard key
    (fun config => checking do
      let data ← t.ask config t.check (.ok none)
      return { valid := true, account := ← liftM (t.account config data) })
    (fun config start stop => do
      let data ← t.ask config t.costs (t.params start stop)
      liftM (data.getD t.list (.list [])))
    fun config _ => t.lines key config

def each (c : Columns) (key : String) (_config : Value) : Value → Result (List Line) := c.lines key

end Connector

end CloudSpend
