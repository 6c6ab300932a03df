import CloudSpend.Billing.Export
import CloudSpend.Outside.World

/-! # Sources of billing exports -/

namespace CloudSpend.Source

def billingDirectory : String := "data/billing"

def directory (output : Value) (key : String) : Result Storage.Path := do
  return (← Storage.Path.ofValue (output.orElse (.text billingDirectory))).join key

def keep (cloud : Billing.Cloud) (directory : Storage.Path) (name : Result String)
    (rows : List Value) : Run (Nat × Option String) := do
  if rows.isEmpty then return (0, none)
  let charges ← liftM (cloud.charges rows)
  if charges.isEmpty then return (0, none)
  Run.makeDirectory directory
  let path := (directory.join ((← liftM name) ++ ".parquet")).text
  Run.writeRows (.text path) (charges.map fun c => .object c.toRow)
  return (charges.length, some path)

def nameDay (day : Value) : Result String :=
  match day with
  | .date _ | .timestamp _ =>
    .error (.wrongKind "'str' object cannot be interpreted as an integer")
  | v => do return Text.replace (← v.expectText "replace") "-" ""

def spanName (start stop : Value) : Result String := do
  return (← nameDay start) ++ "_" ++ (← nameDay stop)

end CloudSpend.Source
