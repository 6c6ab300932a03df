import Mathlib.Algebra.Order.Field.Rat
import CloudSpend.Data.Arithmetic

/-! # Exact amounts -/

namespace CloudSpend

def roundRat (q : Rat) (places : Nat) : Rat :=
  let units := Numeral.roundDiv (q.num.natAbs * Numeral.tenTo places) q.den
  mkRat (if q.num < 0 then -(units : Int) else units) (Numeral.tenTo places)

instance : Arithmetic Rat where
  ofInt n := n
  ofDecimal m p := mkRat m (Numeral.tenTo p)
  add a b := .ok (a + b)
  sub a b := .ok (a - b)
  mul a b := .ok (a * b)
  div a b := if b = 0 then .error (.divisionByZero true) else .ok (a / b)
  abs a := .ok (if a < 0 then -a else a)
  round a p := .ok (roundRat a p)
  lt a b := .ok (decide (a < b))
  le a b := .ok (decide (a ≤ b))
  gt a b := .ok (decide (b < a))
  ge a b := .ok (decide (b ≤ a))
  same a b := decide (a = b)
  toInt a := .ok (Int.tdiv a.num a.den)

end CloudSpend
