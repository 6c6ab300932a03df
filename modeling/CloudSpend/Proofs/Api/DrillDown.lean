import CloudSpend.Proofs.Api.ReportedCosts

/-! # What a drill-down accounts for -/

namespace CloudSpend.Api

open Cost Handler List
open Store (byDay cell)
open Handler (exec)

variable {current previous : Period Date} {c : Call} {s : Service} {account : Row}

def window (current previous : Period Date) (d : Date) : Bool := previous.start.le d && d.lt current.stop

def Apart (current previous : Period Date) : Prop :=
  ∀ d, (current.contains d = true → previous.start.le d = true) ∧
    (previous.contains d = true → d.lt current.stop = true ∧ current.contains d = false)

lemma apart_iff : Apart current previous ↔ ∀ d, (current.contains d && window current previous d) = current.contains d ∧
    ((!current.contains d && previous.contains d) && window current previous d) = previous.contains d := by
  refine forall_congr' fun d => ?_
  simp only [window, Period.contains]
  grind

lemma exec_drillDown (hacc : exec (accountOf c) s = (.ok account, s))
    (hper : comparedPeriods c s.world.now.date = .ok (current, previous)) :
    exec (drillDown.run c) s = exec (do
      let comparison ← compareCosts (byDay (s.store.costs (cell account "id") (window current previous))) current previous
      liftM comparison.toValue) s := by
  unfold drillDown
  rw [exec_bind_ok hacc, exec_bind_ok (exec_today s), hper]
  rfl

def Accounts (current previous : Period Date) (rs : Ledger String) : Prop :=
  ∃ x, Comparison.ofRecords id current previous (rs.filter (window current previous ·.day)) = .ok x ∧
    x.currentTotal = roundRat (Cost.total (current.recordsIn rs)) 2 ∧
    x.previousTotal = roundRat (Cost.total (previous.recordsIn rs)) 2

lemma accounts_iff (rs : Ledger String) : Accounts current previous rs ↔
    roundRat (Cost.total (rs.filter fun r => current.contains r.day && window current previous r.day)) 2 =
      roundRat (Cost.total (rs.filter fun r => current.contains r.day)) 2 ∧
    roundRat (Cost.total (rs.filter fun r => (!current.contains r.day && previous.contains r.day) &&
      window current previous r.day)) 2 = roundRat (Cost.total (rs.filter fun r => previous.contains r.day)) 2 := by
  obtain ⟨x, hx, hexp⟩ := exists_ofRecords (rs.filter (window current previous ·.day)) id current previous
  have hcur := hexp.currentTotal
  have hpre := hexp.previousTotal
  simp only [Period.recordsIn, Period.recordsOnlyIn, filter_filter] at hcur hpre
  unfold Accounts
  rw [hx, ← hcur, ← hpre]
  constructor
  · rintro ⟨_, ⟨⟩, h⟩
    exact h
  · exact fun h => ⟨x, rfl, h⟩

/-- A drill-down compares the records that it reads, and in exact arithmetic its totals are those of all records of the
two periods, whatever these are, exactly if both periods are read and no day is in both. -/
theorem drill_down_accounts_iff (haccount : exec (accountOf c) s = (.ok account, s))
    (hperiods : comparedPeriods c s.world.now.date = .ok (current, previous)) :
    exec (drillDown.run c) s = exec (do
      let comparison ← compareCosts (byDay (s.store.costs (cell account "id") (window current previous))) current previous
      liftM comparison.toValue) s ∧
    ((∀ rs, Accounts current previous rs) ↔ Apart current previous) := by
  refine ⟨exec_drillDown haccount hperiods, ?_⟩
  rw [apart_iff]
  refine ⟨fun h d => ?_, fun h rs => (accounts_iff rs).mpr ?_⟩
  · -- a single record of a day tells whether it is counted
    have hcou : ∀ a b : Bool, roundRat (Cost.total ([⟨d, "", 1⟩].filter fun _ : Record String Date Rat => a)) 2 =
        roundRat (Cost.total ([⟨d, "", 1⟩].filter fun _ : Record String Date Rat => b)) 2 → a = b := by
      have hone : roundRat (Cost.total [(⟨d, "", 1⟩ : Record String Date Rat)]) 2 ≠ roundRat (Cost.total ([] : Ledger String)) 2 := by
        simp only [Cost.total, map_cons, map_nil, sum_cons, sum_nil, add_zero]
        decide
      grind
    obtain ⟨hcur, hpre⟩ := (accounts_iff [⟨d, "", 1⟩]).mp (h _)
    exact ⟨hcou _ _ hcur, hcou _ _ hpre⟩
  · simp only [h]
    exact ⟨trivial, trivial⟩

lemma apart_of_consecutive (h : previous.stop = current.start) (hpre : previous.start.le current.start = true)
    (hcur : current.start.le current.stop = true) : Apart current previous := by
  intro d
  simp only [Period.contains, h, Date.le, Date.lt] at *
  simp at *
  omega

def compareWeeks (current previous : Nat) : Call :=
  ⟨["1"], [("mode", "custom"), ("current_start", .date ⟨2026, 1, current⟩), ("current_end", .date ⟨2026, 1, current + 7⟩),
    ("previous_start", .date ⟨2026, 1, previous⟩), ("previous_end", .date ⟨2026, 1, previous + 7⟩)], [], [], []⟩

def januaryService : Service where
  world := silentWorld
  store := sharingService.store ++ [⟨.costRecords, Store.Table.fill .costRecords silentWorld.now "2"
    [("aws_account_id", "1"), ("date", .date ⟨2026, 1, 3⟩), ("service", "EC2"), ("amount", .float 12.5)]⟩]

theorem drill_down_accounts_of_weeks : ∃ current previous, comparedPeriods (compareWeeks 8 1) silentWorld.now.date =
    .ok (current, previous) ∧ ∀ rs, Accounts current previous rs := by
  have hacc : ∃ account, exec (accountOf (compareWeeks 8 1)) januaryService = (.ok account, januaryService) := ⟨_, rfl⟩
  obtain ⟨account, hacc⟩ := hacc
  have hper : comparedPeriods (compareWeeks 8 1) januaryService.world.now.date =
      .ok (⟨⟨2026, 1, 8⟩, ⟨2026, 1, 15⟩⟩, ⟨⟨2026, 1, 1⟩, ⟨2026, 1, 8⟩⟩) := rfl
  exact ⟨_, _, hper, (drill_down_accounts_iff hacc hper).2.mpr
    (apart_of_consecutive rfl (by decide) (by decide))⟩

/-- Against a later week nothing of the first week is read. -/
theorem drill_down_of_later_week : (exec (drillDown.run (compareWeeks 1 10)) januaryService).1.toOption.map
    (fun v => (v.field "current_period" >>= (·.field "total")).toOption.bind Value.int?) = some (some 0) := by
  decide +kernel

end CloudSpend.Api
