import CloudSpend.Calendar.Days
import CloudSpend.Data.Access

/-! # Stored tables -/

namespace CloudSpend.Billing

structure Table where
  path : String
  columns : List (String × List Value)
  source : Option String := none
  deriving Inhabited

namespace Table

def toValue (t : Table) : Value :=
  .object [("path", .text t.path), ("columns", match t.source with
    | some s => .object [("csv", .text s)]
    | none => .object (t.columns.map fun c => (c.1, .list c.2)))]

def kept (t : Table) : List (String × List Value) :=
  match t.source with
  | some s => [("csv", [.text s])]
  | none => t.columns

def schema : List String :=
  ["provider", "account_id", "service", "region", "resource_id", "usage_date", "charge_type",
   "amount", "currency", "tags"]

def required : List String := ["provider", "account_id", "service", "usage_date", "amount", "currency"]

def cell (column : String) (v : Value) : Result Value :=
  match column, v with
  | "usage_date", .text s => (Date.readDay s).map .date
  | "amount", v => v.toFloat.map .float
  | _, v => .ok v

def cells (row : Value) : Result (List Value) :=
  schema.mapM fun column => do
    cell column (← if required.contains column then row.field column else row.get column)

def ofRows (path : String) (rows : List Value) : Result Table := do
  let rows ← rows.mapM cells
  return {
    path := path
    columns := schema.mapIdx fun i column => (column, rows.map fun row => row.getD i .null) }

def store (path : String) (rows : List Value) : Result (List Table) :=
  if rows.isEmpty then .ok [] else (ofRows path rows).map fun t => [t]

end Table

end CloudSpend.Billing
