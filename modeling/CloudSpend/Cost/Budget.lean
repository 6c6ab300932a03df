import CloudSpend.Form.Shape

/-! # Forecasts and budgets -/

namespace CloudSpend.Cost

open Arithmetic

structure Projection (α : Type) where
  spent : α
  daily : α
  total : α
  daysLeft : Int

def daysPassed (today : Date) : Int := max (today.firstOfMonth.daysTo today) 1

def Projection.linear {α : Type} [Arithmetic α] (spent : α) (today : Date) :
    Result (Projection α) := do
  let days : Int := Date.daysInMonth today.year today.month
  let spent ← round spent 2
  let daily ← round (← div spent (ofInt (daysPassed today))) 2
  let total ← round (← mul daily (ofInt days)) 2
  return { spent, daily, total, daysLeft := days - daysPassed today }

namespace Budget

def firstOfQuarter (d : Date) : Date := ⟨d.year, (d.month - 1) / 3 * 3 + 1, 1⟩

def firstDay (period : String) (today : Date) : Date :=
  if period == "quarterly" then firstOfQuarter today else today.firstOfMonth

def usedShare (spent amount : Float) : Value := if amount > 0 then .float (spent / amount) else .int 0

def usedShareOf (spent amount : Value) : Result Value := do
  let shape : Form.Shape := .record [
    Form.required "current_spend" (.number {}), Form.required "amount" (.number {})]
  let row ← shape.validate (.object [("current_spend", spent), ("amount", amount)])
  return usedShare (← (← row.get "current_spend").toFloat) (← (← row.get "amount").toFloat)

def duePercent? (spent amount alertAt : Value) : Result (Option Value) := do
  if !(← amount.gt (.int 0)) then return none
  if !(← (← spent.div amount).ge alertAt) then return none
  return some (← (← (← spent.div amount).mul (.int 100)).roundToInt)

end Budget

end CloudSpend.Cost
