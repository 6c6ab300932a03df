import CloudSpend.Proofs.Api.SharedReports
import CloudSpend.Proofs.Numeral.Nearest
import Mathlib

/-! # Checking budgets -/

namespace CloudSpend.Api

open Handler List Store Table
open Store (Table cell textCell holds)
open Handler (exec)

variable {s : Service} {store store' : Store} {row row' : Row} {today : Date} {front back : List Row}

def budgets (s : Service) : List Row := s.store.rows .budgets

def isChecked (account : String) (row : Row) : Bool := ofAccount (.text account) row && (cell row "is_active").truthy

def checkedColumns : List String := ["current_spend", "last_checked_at", "updated_at"]

def Agrees (row row' : Row) : Prop := ∀ name ∉ checkedColumns, cell row' name = cell row name

/-! ### What a budget has cost -/

def counts (first today : Date) (budget row : Row) : Bool :=
  (cell row "aws_account_id").same (cell budget "aws_account_id") &&
    (match cell row "date" with
      | .date d => first.le d && d.le today
      | _ => false) &&
    (!(cell budget "service_filter").truthy || (cell row "service").same (cell budget "service_filter"))

def amountOf (row : Row) : Float := match cell row "amount" with
  | .float x => x
  | _ => 0

def spendOf (rows : List Row) : Float :=
  let x := (rows.map amountOf).foldl (· + ·) 0
  if x.isNaN || x == 0 then 0 else x

lemma budgetCosts_eq (store : Store) (budget : Row) (today : Date) :
    budgetCosts store budget today = (store.rows .costRecords).filter
      (counts (Cost.Budget.firstDay (textCell budget "period") today) today budget) := by
  simp only [budgetCosts, Store.costs, Store.select, filter_filter]
  refine filter_congr fun row _ => ?_
  rw [Bool.and_comm, counts, ofAccount, holds, dated, day?]
  cases cell row "date" <;> rfl

lemma total_eq (rows : List Row) (h : ∀ row ∈ rows, ∃ x, cell row "amount" = .float x) :
    Store.total "amount" rows (.float 0) = .ok (.float (spendOf rows)) := by
  have hfold : ∀ (rows : List Row) (start : Float), (∀ row ∈ rows, ∃ x, cell row "amount" = .float x) →
      (rows.map fun row => cell row "amount").foldlM Value.add (.float start) =
        .ok (.float ((rows.map amountOf).foldl (· + ·) start)) := by
    intro rows
    induction rows with
    | nil => exact fun _ _ => rfl
    | cons row rows ih =>
      intro start h
      obtain ⟨x, hx⟩ := h row mem_cons_self
      rw [map_cons, foldlM_cons, hx, map_cons, foldl_cons, amountOf, hx]
      exact ih (start + x) fun row' hrow' => h row' (mem_cons_of_mem row hrow')
  cases rows with
  | nil => rfl
  | cons row rows =>
    have hsum : sumOf "amount" (row :: rows) = .ok (.float (((row :: rows).map amountOf).foldl (· + ·) 0)) := by
      obtain ⟨x, hx⟩ := h row mem_cons_self
      rw [sumOf, Arithmetic.sum, map_cons, foldlM_cons, hx, map_cons, foldl_cons, amountOf, hx]
      exact hfold rows (0 + x) fun row' hrow' => h row' (mem_cons_of_mem row hrow')
    rw [Store.total, hsum, spendOf]
    generalize ((row :: rows).map amountOf).foldl (· + ·) 0 = x
    simp only [bind, Except.bind, pure, Except.pure, Value.orElse, Value.truthy, bne]
    by_cases hnan : x.isNaN = true
    · simp only [hnan, if_true, Bool.true_or]
    · rcases Bool.eq_false_or_eq_true (x == 0) with hzero | hzero <;>
        simp only [hnan, hzero, if_false, Bool.or_eq_true, Bool.not_true, Bool.not_false, if_true,
          Bool.false_eq_true, or_true, or_self]

lemma isNaN_of_ofFloat {x : Float} {negative : Bool} {m : Nat} {e : Int}
    (h : Numeral.Binary.ofFloat x = .finite negative m e) : x.isNaN = false := by
  rw [Float.isNaN_eq_decide_eq_nan, decide_eq_false_iff_not]
  rintro rfl
  cases h

lemma isNaN_of_roundTo? {x y : Float} (h : Numeral.roundTo? x 2 = some y) (hx : x.isNaN = false) :
    y.isNaN = false := by
  unfold Numeral.roundTo? at h
  cases hbin : Numeral.Binary.ofFloat x with
  | finite negative m e =>
    rw [hbin] at h
    dsimp only at h
    generalize Numeral.scaled _ _ 2 = units at h
    rcases Nat.eq_zero_or_pos units with rfl | hpos
    · cases negative <;> cases h <;> decide
    · obtain ⟨e, m, -, -, -, -, -, hbin⟩ := Numeral.of_nearest? hpos.ne' (by decide)
        (by rw [show (Numeral.tenTo 2).log2 = 6 by decide]; omega) h
      split at hbin <;> exact isNaN_of_ofFloat hbin
  | _ =>
    rw [hbin] at h
    cases h
    exact hx

def HasAmounts (store : Store) : Prop := ∀ row ∈ store.rows .costRecords, ∃ x, cell row "amount" = .float x

lemma exists_budgetSpend (h : HasAmounts store) (row : Row) (today : Date) :
    ∃ y, budgetSpend store row today = .ok (.float y) ∧ y.isNaN = false ∧ Numeral.roundTo? (spendOf
      ((store.rows .costRecords).filter (counts (Cost.Budget.firstDay (textCell row "period") today) today row))) 2 =
        some y := by
  have htot := total_eq (budgetCosts store row today) fun r hr =>
    h r (mem_of_mem_filter (budgetCosts_eq store row today ▸ hr))
  rw [budgetCosts_eq] at htot
  obtain ⟨y, hy⟩ := Numeral.exists_roundTo?_eq (spendOf ((store.rows .costRecords).filter
    (counts (Cost.Budget.firstDay (textCell row "period") today) today row))) 2
  refine ⟨y, ?_, isNaN_of_roundTo? hy ?_, hy⟩
  · rw [budgetSpend, budgetCosts_eq, htot]
    simp only [bind, Except.bind, Value.round, hy]
  · unfold spendOf
    dsimp only
    split
    · decide
    · next h =>
        rw [Bool.or_eq_true, not_or] at h
        exact Bool.eq_false_iff.mpr h.1

def spend (store : Store) (today : Date) (budget : Row) : Value :=
  (budgetSpend store budget today).toOption.getD .null

def checkedCells (s : Service) (row : Row) : Row :=
  [("current_spend", spend s.store s.world.now.date row), ("last_checked_at", .timestamp s.world.now)]

def checked (s : Service) (row : Row) : Row := revise .budgets s.world.now (checkedCells s row) row

lemma agrees_checked (s : Service) (row : Row) : Agrees row (checked s row) := by
  intro name hname
  simp only [checkedColumns, mem_cons, not_mem_nil, or_false, not_or] at hname
  refine cell_revise_of_none hname.2.2 (lookup_eq_none_iff.mpr fun p hp => bne_iff_ne.mpr ?_) _
  simp only [checkedCells, mem_cons, not_mem_nil, or_false] at hp
  rcases hp with rfl | rfl
  · exact hname.1
  · exact hname.2.1

structure IsBudget (row : Row) : Prop where
  isRow : IsRow .budgets row
  id : ∃ a, cell row "id" = .text a
  word : strangeWord? .budgets row = none
  spend : ∃ x, cell row "current_spend" = realCell x

lemma IsBudget.congr (h : IsBudget row) (hrow : IsRow .budgets row') (hagr : Agrees row row')
    (hspend : ∃ x, cell row' "current_spend" = realCell x) : IsBudget row' where
  isRow := hrow
  id := by rw [hagr "id" (by decide)]; exact h.id
  word := by
    refine findSome?_eq_none_iff.mpr fun c hc => ?_
    by_cases hname : c.name ∈ checkedColumns
    · have hkin : ∀ c ∈ columns .budgets, c.name ∈ checkedColumns → c.kind = .number ∨ c.kind = .moment := by decide
      rcases hkin c hc hname with hkind | hkind <;> simp only [hkind]
    · rw [hagr _ hname]
      exact findSome?_eq_none_iff.mp h.word c hc
  spend := hspend

structure Ready (s : Service) : Prop where
  sound : s.store.sound = true
  amounts : HasAmounts s.store
  isBudget : ∀ row ∈ budgets s, IsBudget row

lemma exists_spend (h : HasAmounts store) (row : Row) (today : Date) :
    ∃ y, budgetSpend store row today = .ok (.float y) ∧ spend store today row = .float y ∧ y.isNaN = false := by
  obtain ⟨y, hy, hnan, -⟩ := exists_budgetSpend h row today
  exact ⟨y, hy, by rw [spend, hy]; rfl, hnan⟩

lemma realCell_eq_of_same {x y : Float} (h : (realCell x).same (.float y) = true) : realCell x = realCell y := by
  unfold realCell at h ⊢
  cases hx : x.isNaN with
  | true =>
    rw [hx, if_pos rfl] at h
    cases h
  | false =>
    rw [hx, if_neg Bool.false_ne_true] at h
    have hsame : ((if x == 0 then 0 else x) == y) = true := h
    obtain ⟨-, hy, hcases⟩ := Float.beq_iff_ne_nan_and_eq.mp hsame
    have hnan : y.isNaN = false := by rwa [Float.isNaN_eq_decide_eq_nan, decide_eq_false_iff_not]
    have hzero : ((-0 : Float) == 0) = true := by decide
    have hzero' : ((0 : Float) == 0) = true := by decide
    rw [hnan, if_neg Bool.false_ne_true, if_neg Bool.false_ne_true]
    grind

def spendColumn : Column := .always "current_spend" .number (.float 0)

lemma mem_spendColumn : spendColumn ∈ columns .budgets := by simp [columns, spendColumn]

lemma get?_checkedCells (s : Service) (row : Row) :
    Entries.get? (checkedCells s row) spendColumn.name = some (spend s.store s.world.now.date row) := rfl

lemma cell_checked (h : HasAmounts s.store) (hrow : IsBudget row) :
    cell (checked s row) "current_spend" = CellKind.number.normal (spend s.store s.world.now.date row) := by
  obtain ⟨y, -, hy, -⟩ := exists_spend h row s.world.now.date
  obtain ⟨x, hx⟩ := hrow.spend
  rcases cell_revise_of_some hrow.isRow mem_spendColumn (get?_checkedCells s row) s.world.now with hcell | ⟨hsame, hcell⟩
  · exact hcell
  · have hsame : (cell row "current_spend").same (spend s.store s.world.now.date row) = true := hsame
    rw [hx, hy] at hsame
    rw [hy]
    exact hcell.trans (hx.trans (realCell_eq_of_same hsame))

lemma IsBudget.checked (h : HasAmounts s.store) (hrow : IsBudget row) : IsBudget (checked s row) := by
  refine hrow.congr (isRow_revise hrow.isRow _ _) (agrees_checked s row) ?_
  obtain ⟨y, -, hy, -⟩ := exists_spend h row s.world.now.date
  exact ⟨y, by rw [cell_checked h hrow, hy]; rfl⟩

lemma Agrees.refl (row : Row) : Agrees row row := fun _ _ => rfl

lemma Ready.next (h : Ready s) (hsou : store.sound = true)
    (hcos : store.rows .costRecords = s.store.rows .costRecords) (w : World)
    (hrows : ∀ row' ∈ store.rows .budgets, ∃ row ∈ budgets s, row' = row ∨ row' = checked s row) :
    Ready { s with store, world := w } where
  sound := hsou
  amounts row hrow := h.amounts row (hcos ▸ hrow)
  isBudget row' hrow' := by
    obtain ⟨row, hrow, rfl | rfl⟩ := hrows row' hrow'
    · exact h.isBudget _ hrow
    · exact (h.isBudget row hrow).checked h.amounts

end CloudSpend.Api
