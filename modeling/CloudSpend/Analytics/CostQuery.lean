import CloudSpend.Filter.Sql
import CloudSpend.Form.Shape
import CloudSpend.Outside.World

/-! # The analytics engine and its queries -/

namespace CloudSpend.Analytics

def databasePath : String := "data/cloudpulse.duckdb"

def providers : List String := ["aws", "gcp", "azure"]

def directory (provider : String) : String := "data/billing/" ++ provider

def hasTables (provider : String) : Run Bool := do
  return !(← Run.namesWith (Storage.Path.ofText (directory provider)) ".parquet").isEmpty

def execute (sql : String) (params : List Value := []) : Run Rows := do
  let w ← get
  let s : Statement := ⟨sql, params⟩
  set { w with engine := w.engine ++ [EngineEvent.statement s] }
  liftM (w.outside.engine w.engine s)

def viewOf (provider : String) : String :=
  "CREATE OR REPLACE VIEW " ++ provider ++ "_costs AS SELECT * FROM read_parquet('"
    ++ directory provider ++ "/*.parquet')"

def unionOf (ps : List String) : String :=
  "CREATE OR REPLACE VIEW all_costs AS "
    ++ " UNION ALL ".intercalate (ps.map fun p => "SELECT * FROM " ++ p ++ "_costs")

def makeViews : Run Unit := do
  let present ← providers.filterM hasTables
  for p in present do discard (execute (viewOf p))
  if !present.isEmpty then discard (execute (unionOf present))

def connect : Run Unit := do
  if !(← get).engineOpen then
    modify fun w => { w with
      engine := w.engine ++ [EngineEvent.connect databasePath]
      engineOpen := true }
    discard (execute "SET threads = 4")
    discard (execute "SET memory_limit = '512MB'")
    makeViews

def close : Run Unit := do
  if (← get).engineOpen then
    modify fun w => { w with engine := w.engine ++ [EngineEvent.close], engineOpen := false }

def refresh : Run Unit := do
  if (← get).engineOpen then makeViews

def send (sql : String) (params : List Value := []) : Run Rows := do
  connect
  execute sql params

def Rows.toRows (r : Rows) : Result (List Row) :=
  r.rows.mapM fun row => do
    return Entries.merge [] (← (r.columns.zip row).mapM fun e => do return (← e.1.keyText, e.2))

def query (sql : String) (params : List Value := []) : Run (List Row) := do
  liftM (Rows.toRows (← send sql params))

def firstRow (r : Rows) : Result Value :=
  match r.rows with
  | row :: _ => .ok (.list row)
  | [] => .error (.notSubscriptable .null)

def load (path table : Value) : Run Unit := do
  discard (send ("CREATE OR REPLACE TABLE " ++ table.display ++ " AS SELECT * FROM read_parquet('"
    ++ path.display ++ "')"))
  let rows ← send ("SELECT COUNT(*) FROM " ++ table.display)
  discard (liftM (do (← firstRow rows).item 0 : Result Value))

def view (provider : Value) : String :=
  if provider.truthy then provider.display ++ "_costs" else "all_costs"

structure Condition where
  sql : String
  params : List Value

def condition (start stop account : Value) : Condition :=
  let days := "usage_date >= ? AND usage_date < ?"
  if account.truthy then ⟨days ++ " AND account_id = ?", [start, stop, account]⟩
  else ⟨days, [start, stop]⟩

def period (granularity : Value) : String :=
  if granularity.same "month" then "DATE_TRUNC('month', usage_date)"
  else if granularity.same "week" then "DATE_TRUNC('week', usage_date)"
  else "usage_date"

def groups : List String :=
  ["service", "region", "account_id", "provider", "charge_type", "resource_id"]

def group (column : String) : String := if groups.contains column then column else "service"

def groupNamed (column : Value) : Result String :=
  match column with
  | .text s => .ok (group s)
  | .list _ | .object _ => .error (.unhashable column.kind)
  | _ => .ok "service"

def totals (columns grouping source : String) (c : Condition) : Run (List Row) :=
  query ("SELECT " ++ columns ++ ", SUM(amount) AS total_amount, currency FROM " ++ source
    ++ " WHERE " ++ c.sql ++ " GROUP BY " ++ grouping) c.params

def byService (start stop provider account : Value) : Run (List Row) :=
  totals "service, provider" "service, provider, currency ORDER BY total_amount DESC"
    (view provider) (condition start stop account)

def byTag (start stop tag provider : Value) : Run (List Row) :=
  totals "COALESCE(tags ->> ?, '(untagged)') AS tag_value"
    "tag_value, currency ORDER BY total_amount DESC" (view provider)
    ⟨"usage_date >= ? AND usage_date < ?", [tag, start, stop]⟩

def overTime (start stop granularity provider account : Value) : Run (List Row) :=
  totals (period granularity ++ " AS period") "period, currency ORDER BY period" (view provider)
    (condition start stop account)

def byRegion (start stop provider : Value) : Run (List Row) :=
  totals "region, provider" "region, provider, currency ORDER BY total_amount DESC"
    (view provider) (condition start stop .null)

def byAccount (start stop : Value) : Run (List Row) :=
  totals "account_id, provider" "account_id, provider, currency ORDER BY total_amount DESC"
    "all_costs" (condition start stop .null)

def breakdown (start stop column provider account granularity : Value) : Run (List Row) := do
  let column ← liftM (groupNamed column)
  totals (period granularity ++ " AS period, " ++ column)
    ("period, " ++ column ++ ", currency ORDER BY period, total_amount DESC") (view provider)
    (condition start stop account)

def countRows (provider : String) : String :=
  "SELECT COUNT(*) AS row_count, MIN(usage_date) AS earliest_date, MAX(usage_date) AS latest_date, "
    ++ "COUNT(DISTINCT service) AS service_count, SUM(amount) AS total_amount FROM " ++ provider
    ++ "_costs"

def shown (v : Value) : Value := if v.truthy then .text v.display else .null

def stats (rows : Rows) : Result Value := do
  let row ← firstRow rows
  return .object [
    ("row_count", ← row.item 0),
    ("earliest_date", shown (← row.item 1)),
    ("latest_date", shown (← row.item 2)),
    ("service_count", ← row.item 3),
    ("total_amount", ← (Value.float (← ((← row.item 4).orElse (.int 0)).toFloat)).round 2)]

def tableStats : Run Row := do
  (← providers.filterM hasTables).mapM fun p => do
    let entry ← Run.recoverFrom .engine (do liftM (stats (← send (countRows p))))
      fun _ => return .object [("error", "View not available")]
    return (p, entry)

/-! ## Cost queries -/

structure CostQuery where
  filter : Option String
  start : String
  stop : String
  groupBy : String
  granularity : String
  provider : Option String
  account : Option String
  limit : Int

namespace CostQuery

def fields : List Form.Field := [
  Form.maybe "filter" .anyText,
  Form.required "start_date" .anyText,
  Form.required "end_date" .anyText,
  Form.withDefault "group_by" .anyText "service",
  Form.withDefault "granularity" .anyText "day",
  Form.maybe "provider" .anyText,
  Form.maybe "account_id" .anyText,
  Form.withDefault "limit" (.int (some 1) (some 10000)) (.int 1000)]

def shape : Form.Shape := .record fields

def ofRow (row : Row) : CostQuery :=
  let text? (key : String) : Option String := (Entries.get? row key).bind Value.text?
  { filter := text? "filter"
    start := (text? "start_date").getD ""
    stop := (text? "end_date").getD ""
    groupBy := (text? "group_by").getD ""
    granularity := (text? "granularity").getD ""
    provider := text? "provider"
    account := text? "account_id"
    limit := ((Entries.get? row "limit").bind Value.int?).getD 0 }

def read (request : Value) : Result CostQuery := do
  return ofRow ((← shape.validate request).object?.getD [])

def filterCondition (q : CostQuery) : Result (Option Condition) :=
  match q.filter with
  | none => .ok none
  | some f =>
    if f.isEmpty then .ok none
    else
      let (valid, errors) := Filter.validate f
      if valid then
        ((Filter.parse f).condition .records).map fun (sql, params) =>
          if sql == "1=1" then none else some ⟨sql, params⟩
      else .error (.http 400 ("Invalid CQL filter: " ++ "; ".intercalate errors))

def condition (q : CostQuery) : Result Condition := do
  let base := Analytics.condition (.text q.start) (.text q.stop) (Value.ofText? q.account)
  match ← q.filterCondition with
  | some c => return ⟨base.sql ++ " AND " ++ c.sql, base.params ++ c.params⟩
  | none => return base

def statement (q : CostQuery) (condition : String) : String :=
  "SELECT CAST(" ++ period (.text q.granularity) ++ " AS VARCHAR) AS period, "
    ++ group q.groupBy ++ " AS group_value, SUM(amount) AS total_amount, currency FROM "
    ++ view (Value.ofText? q.provider) ++ " WHERE " ++ condition
    ++ " GROUP BY period, group_value, currency ORDER BY period, total_amount DESC LIMIT "
    ++ toString q.limit

def run (q : CostQuery) : Run Value := do
  let c ← liftM q.condition
  let rows ← Run.recover (query (q.statement c.sql) c.params)
    fun e => throw (.http 500 ("Query execution failed: " ++ e.message))
  let total ← liftM (do
    let amounts := rows.map fun r => (Entries.get? r "total_amount").getD (.int 0)
    (← (← Arithmetic.sum amounts).round 2).toFloat : Result Float)
  return .object [
    ("results", .list (rows.map .object)),
    ("total_amount", .float total),
    ("row_count", .int rows.length),
    ("query_filter", Value.ofText? q.filter)]

end CostQuery

def overview : Run Value := do
  let stats ← tableStats
  return .object [("providers", .object stats), ("has_data", .bool (!stats.isEmpty))]

def filterShape : Form.Shape := .record [Form.required "filter" .anyText]

def checkFilter (request : Value) : Result Value := do
  let request ← filterShape.validate request
  let filter := ((request.get "filter").toOption.bind Value.text?).getD ""
  let (valid, errors) := Filter.validate filter
  return .object [("is_valid", .bool valid), ("errors", Value.texts errors)]

end CloudSpend.Analytics
