import CloudSpend.Cost.DrillDown
import CloudSpend.Store.Basic

/-! # Stored costs -/

namespace CloudSpend.Store

def day? (row : Row) : Option Date :=
  match cell row "date" with
  | .date d => some d
  | _ => none

def dated (test : Date → Bool) (row : Row) : Bool := (day? row).any test

def within (first last d : Date) : Bool := first.le d && d.le last

def ofAccount (account : Value) (row : Row) : Bool := holds "aws_account_id" account row

def costs (s : Store) (account : Value) (test : Date → Bool) : List Row :=
  s.select .costRecords fun row => ofAccount account row && dated test row

def byDay (rows : List Row) : List Row :=
  rows.mergeSort fun a b => match day? a, day? b with
    | some d, some e => d.le e
    | some _, none => false
    | none, _ => true

def records (rows : List Row) : List (Cost.Record Value Date Value) :=
  rows.filterMap fun row =>
    (day? row).map fun d => ⟨d, cell row "service", cell row "amount"⟩

def sumOf (column : String) (rows : List Row) : Result Value :=
  Arithmetic.sum (rows.map fun row => cell row column)

def spent (rows : List Row) : Result Value := sumOf "amount" rows

def total (column : String) (rows : List Row) (nothing : Value := .int 0) : Result Value := do
  match ← sumOf column rows with
  | .float x => return if x.isNaN then nothing else (Value.float x).orElse nothing
  | sum => return sum.orElse nothing

end CloudSpend.Store
