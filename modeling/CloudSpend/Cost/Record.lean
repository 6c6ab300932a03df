import CloudSpend.Calendar.Days
import CloudSpend.Data.Access

/-! # Cost records -/

namespace CloudSpend.Cost

structure Record (κ δ α : Type) where
  day : δ
  service : κ
  amount : α
  deriving Repr

namespace Record

def readDay (cell : Value) : Result Value :=
  match cell with
  | .text s => ((Date.read s).mapError (Fault.notDate s)).map .date
  | v => .ok v

def read (row : Value) : Result (Record Value Value Value) := do
  let day ← readDay (← row.field "date")
  let service ← (← row.field "service").asKey
  let _ ← day.asKey
  return ⟨day, service, ← row.field "amount"⟩

def readCells (row : Value) : Result (Record Value Value Value) := do
  return ⟨← readDay (← row.field "date"), ← row.field "service", ← row.field "amount"⟩

end Record

end CloudSpend.Cost
