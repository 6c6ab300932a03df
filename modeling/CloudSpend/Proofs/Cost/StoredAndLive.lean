import CloudSpend.Cost.DrillDown
import CloudSpend.Proofs.Calendar.DateText

/-! # Stored records and live answers -/

namespace CloudSpend.Cost

open List Comparison Record Totals

def Period.toValues (p : Period Date) : Period Value := ⟨.date p.start, .date p.stop⟩

def Period.contains (p : Period Date) (d : Date) : Bool := p.start.le d && d.lt p.stop

def dayOf? (row : Value) : Option Date :=
  match row.field "date" >>= readDay with
  | .ok (.date d) => some d
  | _ => none

structure IsCostRecord (row : Value) : Prop where
  day : ∃ d, dayOf? row = some d
  service : ∃ s, row.field "service" = .ok s ∧ s.asKey = .ok s
  amount : ∃ a, row.field "amount" = .ok a ∧ a.isNumber = true

def Period.dates (p : Period Date) (row : Value) : Bool := (dayOf? row).any p.contains

lemma Period.includes_toValues (p : Period Date) (d : Date) :
    p.toValues.includes (.date d) = .ok (p.contains d) := by
  unfold includes contains
  cases hle : p.start.le d <;>
    simp [toValues, Days.le, Days.lt, Value.le, Value.lt, Value.precedes, bind, Except.bind, hle,
      pure, Except.pure]

def Totals.addRow (t : Totals Value Value) (row : Value) : Result (Totals Value Value) := do
  let service ← (← row.field "service").asKey
  t.add service (← row.field "amount")

def addStored (current previous : Period Value) (totals : Totals Value Value × Totals Value Value)
    (row : Value) : Result (Totals Value Value × Totals Value Value) := do
  splitRecord Value.asKey current previous totals (← readCells row)

variable {row : Value} {t : Totals Value Value} {rows : List Value} {current previous : Period Date}

lemma addStored_eq (h : IsCostRecord row) (current previous : Period Date)
    (totals : Totals Value Value × Totals Value Value) :
    addStored current.toValues previous.toValues totals row =
      if current.dates row then (totals.1.addRow row).map (·, totals.2)
      else if previous.dates row then (totals.2.addRow row).map (totals.1, ·)
      else .ok totals := by
  obtain ⟨d, hd⟩ := h.day
  obtain ⟨s, hs, hkey⟩ := h.service
  obtain ⟨a, ha, -⟩ := h.amount
  have hday : row.field "date" >>= readDay = .ok (.date d) := by
    unfold dayOf? at hd
    split at hd
    · next heq =>
        cases hd
        exact heq
    · cases hd
  have hread : readCells row = .ok ⟨.date d, s, a⟩ := by
    cases hcell : row.field "date" with
    | error e => simp [hcell, bind, Except.bind] at hday
    | ok cell =>
      have hcell' : readDay cell = .ok (.date d) := by
        simpa [hcell, bind, Except.bind] using hday
      simp [readCells, hcell, hcell', hs, ha, bind, Except.bind, pure, Except.pure]
  have hadd : ∀ t : Totals Value Value, t.addRow row = t.add s a := by
    intro t
    simp [addRow, hs, ha, hkey, bind, Except.bind]
  have hdat : ∀ p : Period Date, p.dates row = p.contains d := by
    intro p
    simp [Period.dates, hd]
  have hspl : addStored current.toValues previous.toValues totals row =
      splitRecord Value.asKey current.toValues previous.toValues totals ⟨.date d, s, a⟩ := by
    rw [addStored, hread]
    rfl
  rw [hspl, splitRecord, Period.includes_toValues, Period.includes_toValues, hadd, hadd, hdat,
    hdat, hkey]
  simp only [bind, Except.bind, pure, Except.pure, Except.map]

def Totals.IsBinary (t : Totals Value Value) : Prop := ∀ e ∈ t, ∃ x, e.2 = .float x

theorem Totals.IsBinary.get?_getD (h : t.IsBinary) (key : Value) :
    ∃ x, (Entries.get? t key).getD Arithmetic.nought = .float x := by
  unfold Entries.get?
  induction t with
  | nil => exact ⟨_, rfl⟩
  | cons e t ih =>
    rw [lookup_cons]
    cases key == e.1 with
    | true => exact h e (by simp)
    | false => exact ih fun e' he' => h e' (mem_cons_of_mem _ he')

lemma Totals.IsBinary.put (h : t.IsBinary) (key : Value) (x : Float) :
    Totals.IsBinary (Entries.put t key (.float x)) := by
  induction t with
  | nil => simp [Entries.put, IsBinary]
  | cons e t ih =>
    have hmore : Totals.IsBinary t := fun e' he' => h e' (mem_cons_of_mem _ he')
    rw [Entries.put]
    split
    · simpa [IsBinary] using hmore
    · simpa [IsBinary, h e (by simp)] using ih hmore

lemma add_float (x : Float) {a : Value} (h : a.isNumber = true) :
    (∃ y, Value.add (.float x) a = .ok (.float y)) ∨
      Value.add (.float x) a = .error .intTooLarge := by
  have hwho : ∀ n, Value.add (.float x) a = (Value.intToFloat n).map (fun y => .float (x + y)) →
      (∃ y, Value.add (.float x) a = .ok (.float y)) ∨
        Value.add (.float x) a = .error .intTooLarge := by
    intro n hn
    rw [hn, Value.intToFloat]
    split
    · exact .inl ⟨_, rfl⟩
    · exact .inr rfl
  have hmap : ∀ n, Value.add (.float x) (.int n) =
      (Value.intToFloat n).map (fun y => .float (x + y)) := by
    intro n
    simp only [Value.add, Value.pair?, Value.int?, Option.map_some]
    cases Value.intToFloat n <;> rfl
  cases a with
  | float y => exact .inl ⟨x + y, rfl⟩
  | int n => exact hwho n (hmap n)
  | bool b => exact hwho (if b then 1 else 0) (hmap _)
  | null | text | list | object | date | timestamp => cases h

lemma Totals.IsBinary.addRow (ht : t.IsBinary) (h : IsCostRecord row) :
    (∃ t', t.addRow row = .ok t' ∧ Totals.IsBinary t') ∨ t.addRow row = .error .intTooLarge := by
  obtain ⟨s, hs, hkey⟩ := h.service
  obtain ⟨a, ha, hnum⟩ := h.amount
  obtain ⟨x, hx⟩ := ht.get?_getD s
  have hadd : t.addRow row = (Value.add (.float x) a).map (Entries.put t s) := by
    simp only [Totals.addRow, hs, ha, hkey, bind, Except.bind, Totals.add, Arithmetic.accumulate, hx]
    rfl
  rw [hadd]
  rcases add_float x hnum with ⟨y, hy⟩ | herr
  · exact .inl ⟨_, by rw [hy]; rfl, ht.put s y⟩
  · exact .inr (by rw [herr]; rfl)

lemma Totals.IsBinary.foldlM_addRow (ht : t.IsBinary) (h : ∀ row ∈ rows, IsCostRecord row) :
    (∃ t', rows.foldlM Totals.addRow t = .ok t' ∧ Totals.IsBinary t') ∨
      rows.foldlM Totals.addRow t = .error .intTooLarge := by
  induction rows generalizing t with
  | nil => exact .inl ⟨t, rfl, ht⟩
  | cons row rows ih =>
    rw [foldlM_cons]
    rcases ht.addRow (h row mem_cons_self) with ⟨t', ht', hbin⟩ | herr
    · rw [ht']
      exact ih hbin fun r hr => h r (mem_cons_of_mem _ hr)
    · exact .inr (by rw [herr]; rfl)

theorem foldlM_addStored (hdis : ∀ d, current.contains d = true → previous.contains d = false)
    (h : ∀ row ∈ rows, IsCostRecord row) {c p : Totals Value Value} (hc : c.IsBinary)
    (hp : p.IsBinary) : rows.foldlM (addStored current.toValues previous.toValues) (c, p) = do
      let c' ← (rows.filter current.dates).foldlM Totals.addRow c
      let p' ← (rows.filter previous.dates).foldlM Totals.addRow p
      return (c', p') := by
  induction rows generalizing c p with
  | nil => rfl
  | cons row rows ih =>
    have hrow := h row mem_cons_self
    have hrows : ∀ r ∈ rows, IsCostRecord r := fun r hr => h r (mem_cons_of_mem _ hr)
    rw [foldlM_cons, addStored_eq hrow]
    cases hcur : current.dates row with
    | true =>
      have hpre : previous.dates row = false := by
        obtain ⟨d, hd⟩ := hrow.day
        simp only [Period.dates, hd, Option.any_some] at hcur ⊢
        exact hdis d hcur
      rw [filter_cons_of_pos hcur, filter_cons_of_neg (by simp [hpre]),
        foldlM_cons]
      rcases hc.addRow hrow with ⟨c', hc', hbin⟩ | herr
      · simp only [hc', Except.map, reduceIte]
        exact ih hrows hbin hp
      · simp only [herr, Except.map, reduceIte]
        rfl
    | false =>
      rw [filter_cons_of_neg (by simp [hcur])]
      cases hpre : previous.dates row with
      | true =>
        rw [filter_cons_of_pos hpre, foldlM_cons]
        rcases hp.addRow hrow with ⟨p', hp', hbin⟩ | herr
        · simp only [hp', Except.map, Bool.false_eq_true, reduceIte]
          exact ih hrows hc hbin
        · -- the current records may fail as well, but not in another way
          have hfil : ∀ r ∈ rows.filter current.dates, IsCostRecord r :=
            fun r hr => hrows r (mem_filter.mp hr).1
          rw [herr]
          rcases hc.foldlM_addRow hfil with ⟨c', hc', -⟩ | hc'
          · rw [hc']
            rfl
          · rw [hc']
            rfl
      | false =>
        rw [filter_cons_of_neg (by simp [hpre])]
        exact ih hrows hc hp

lemma foldl_add_le (ns : List Nat) (h : ∀ n ∈ ns, n ≤ 31) (start : Nat) :
    ns.foldl (· + ·) start ≤ start + 31 * ns.length := by
  induction ns generalizing start with
  | nil => simp
  | cons n ns ih =>
    have hn := h n mem_cons_self
    grind

lemma ordinal_lt {d : Date} (h : d.IsDay) : d.ordinal < 10 ^ 7 := by
  obtain ⟨hyear, hmon, hday⟩ := h.bounds
  have hbef : Date.daysBeforeMonth d.year d.month ≤ 31 * (d.month - 1) := by
    have hsum := foldl_add_le ((range (d.month - 1)).map fun m =>
      Date.daysInMonth d.year (m + 1)) (by simp [Date.daysInMonth_le]) 0
    simpa [Date.daysBeforeMonth] using hsum
  rw [Date.ordinal, Date.daysBeforeYear]
  omega

lemma ofDays_eq_ok {n : Int} (hn : -999999999 ≤ n) (hn' : n ≤ 999999999) :
    Span.ofDays n = .ok ⟨n * Span.dayMicros⟩ := by
  have hdays : (Span.mk (n * Span.dayMicros)).days = n := Int.mul_fdiv_cancel _ (by decide)
  unfold Span.ofDays Span.ofMicros
  simp only [hdays]
  rw [if_neg (by simp; omega), if_neg (by simp; omega)]

lemma Period.previous_of_some (hsta : current.start.IsDay) (hstop : current.stop.IsDay)
    (previous : Period Date) :
    current.toValues.previous (some (.date previous.start)) (some (.date previous.stop)) =
      .ok previous.toValues := by
  have hfir := ordinal_lt hsta
  have hlast := ordinal_lt hstop
  have hspan : Span.ofDays (current.start.daysTo current.stop) =
      .ok ⟨current.start.daysTo current.stop * Span.dayMicros⟩ := by
    refine ofDays_eq_ok ?_ ?_ <;> rw [Date.daysTo] <;> omega
  have hlen : current.toValues.length = .ok (current.start.daysTo current.stop) := rfl
  simp only [Period.previous, hlen, hspan, bind, Except.bind]
  rfl

lemma ofRows_list (hdis : ∀ d, current.contains d = true → previous.contains d = false)
    (h : ∀ row ∈ rows, IsCostRecord row) :
    ofRows current.toValues previous.toValues (.list rows) = (do
      let c ← ofRows (.list (rows.filter current.dates))
      let p ← ofRows (.list (rows.filter previous.dates))
      ofTotals Value.display current.toValues previous.toValues c p) := by
  have hemp : Totals.IsBinary [] := by simp [Totals.IsBinary]
  have hsum : ∀ rs : List Value, ofRows (.list rs) = rs.foldlM addRow [] := fun _ => rfl
  have hsto : ofRows current.toValues previous.toValues (.list rows) = (do
      let totals ← rows.foldlM (addStored current.toValues previous.toValues) ([], [])
      ofTotals Value.display current.toValues previous.toValues totals.1 totals.2) := rfl
  rw [hsto, foldlM_addStored hdis h hemp hemp, hsum, hsum]
  simp only [bind_assoc, pure_bind]

def Answers {m : Type → Type} [Monad m] (fetch : Period Value → m Value) (rows : List Value) : Prop :=
  ∀ p : Period Date, fetch p.toValues = pure (.list (rows.filter p.dates))

section

variable {m : Type → Type} [Monad m] [LawfulMonad m] [MonadLiftT Result m] [LawfulMonadLiftT Result m]

lemma liveRows_eq_ofRows {fetch : Period Value → m Value} (hrows : ∀ row ∈ rows, IsCostRecord row)
    (hfet : Answers fetch rows)
    (hdis : ∀ d, current.contains d = true → previous.contains d = false) :
    liveRows fetch current.toValues previous.toValues =
      liftM (ofRows current.toValues previous.toValues (.list rows)) := by
  rw [ofRows_list hdis hrows]
  simp only [liveRows, live, hfet current, hfet previous, pure_bind,
    liftM_bind]

/-- **Stored records and live answers.** Two periods that have no day in common are reported in the same way from
stored records and from the answers of a source that has these records; a report that fails fails for the same reason.
-/
theorem live_report_eq_stored (fetch : Period Value → m Value) (rows : List Value)
    (current previous : Period Date) (hrows : ∀ row ∈ rows, IsCostRecord row)
    (hfetch : Answers fetch rows) (hstart : current.start.IsDay) (hstop : current.stop.IsDay)
    (hdisjoint : ∀ d, current.contains d = true → previous.contains d = false) :
    (do
      let p ← liftM (current.toValues.previous (some (.date previous.start))
        (some (.date previous.stop)))
      let c ← Comparison.liveRows fetch current.toValues p
      liftM c.toValue : m Value) =
      liftM (do
        let c ← Comparison.ofRows current.toValues previous.toValues (.list rows)
        c.toValue : Result Value) := by
  have hper : (liftM (Except.ok previous.toValues : Result (Period Value)) : m (Period Value)) =
      pure previous.toValues := liftM_pure _
  rw [Period.previous_of_some hstart hstop, hper, pure_bind,
    liveRows_eq_ofRows hrows hfetch hdisjoint, liftM_bind]

end

def twoWeeks : List Value :=
  [.object [("date", .text "2026-01-05"), ("service", .text "Amazon EC2"), ("amount", .int 50)],
    .object [("date", .date ⟨2026, 1, 14⟩), ("service", .text "Amazon EC2"), ("amount", .int 80)],
    .object [("date", .text "20260116"), ("service", .text "Amazon S3"), ("amount", .bool true)],
    .object [("date", .text "2026-01-01"), ("service", .null), ("amount", .int 7)]]

def twoWeeksSource : Period Value → Result Value
  | ⟨.date start, .date stop⟩ => .ok (.list (twoWeeks.filter (Period.mk start stop).dates))
  | _ => .ok (.list [])

/-- The second week against the first one. -/
theorem live_report_of_twoWeeks :
    (do
      let p ← (Period.mk (.date ⟨2026, 1, 12⟩) (.date ⟨2026, 1, 19⟩) : Period Value).previous
        (some (.date ⟨2026, 1, 5⟩)) (some (.date ⟨2026, 1, 12⟩))
      let c ← Comparison.liveRows twoWeeksSource ⟨.date ⟨2026, 1, 12⟩, .date ⟨2026, 1, 19⟩⟩ p
      c.toValue) =
      (do
        let c ← Comparison.ofRows ⟨.date ⟨2026, 1, 12⟩, .date ⟨2026, 1, 19⟩⟩
          ⟨.date ⟨2026, 1, 5⟩, .date ⟨2026, 1, 12⟩⟩ (.list twoWeeks)
        c.toValue) := by
  have hrows : ∀ row ∈ twoWeeks, IsCostRecord row := by
    simp only [twoWeeks, forall_mem_cons, not_mem_nil, IsEmpty.forall_iff, implies_true,
      and_true]
    exact ⟨⟨⟨_, rfl⟩, ⟨_, rfl, rfl⟩, ⟨_, rfl, rfl⟩⟩, ⟨⟨_, rfl⟩, ⟨_, rfl, rfl⟩, ⟨_, rfl, rfl⟩⟩,
      ⟨⟨_, rfl⟩, ⟨_, rfl, rfl⟩, ⟨_, rfl, rfl⟩⟩, ⟨⟨_, rfl⟩, ⟨_, rfl, rfl⟩, ⟨_, rfl, rfl⟩⟩⟩
  have hdis : ∀ d, (Period.mk ⟨2026, 1, 12⟩ ⟨2026, 1, 19⟩ : Period Date).contains d = true →
      (Period.mk ⟨2026, 1, 5⟩ ⟨2026, 1, 12⟩ : Period Date).contains d = false := by
    intro d hd
    simp only [Period.contains, Date.le, Bool.and_eq_true, Bool.not_eq_true'] at hd
    simp only [Period.contains, hd.1, Bool.and_false]
  exact live_report_eq_stored (m := Result) twoWeeksSource twoWeeks ⟨⟨2026, 1, 12⟩, ⟨2026, 1, 19⟩⟩
    ⟨⟨2026, 1, 5⟩, ⟨2026, 1, 12⟩⟩ hrows (fun _ => rfl) (by decide) (by decide) hdis

end CloudSpend.Cost
