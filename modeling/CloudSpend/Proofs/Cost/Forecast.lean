import CloudSpend.Cost.Budget
import CloudSpend.Proofs.Cost.Reconciliation
import CloudSpend.Store.Costs

/-! # Forecasts of steady spending -/

namespace CloudSpend

open List

lemma roundRat_eq_iff (q : Rat) (units : Int) (places : Nat) :
    roundRat q places = units / 10 ^ places ↔
      |units - q * 10 ^ places| < 1 / 2 ∨ |units - q * 10 ^ places| = 1 / 2 ∧ Even units := by
  obtain ⟨nearest, hrou, hnear, htie⟩ := exists_units q places
  rw [hrou, div_left_inj' (by positivity), Int.cast_inj]
  constructor
  · rintro rfl
    exact hnear.lt_or_eq.imp_right fun h => ⟨h, htie h⟩
  · intro h
    by_contra hne
    have hfar : (1 : Rat) ≤ |(nearest : Rat) - units| := by exact_mod_cast Int.one_le_abs (sub_ne_zero.mpr hne)
    have hsum := abs_sub_le (nearest : Rat) (q * 10 ^ places) units
    rw [abs_sub_comm (q * 10 ^ places)] at hsum
    rcases h with hlt | ⟨heq, heven⟩
    · linarith
    · -- Both are half a unit away, so they are neighbours, but both are even.
      have hnext : |nearest - units| ≤ 1 := by
        have hle : |(nearest : Rat) - units| ≤ 1 := by linarith
        exact_mod_cast hle
      grind

lemma roundRat_cents_iff (q : Rat) (n : Int) :
    roundRat q 2 = n / 100 ↔ |n - q * 100| < 1 / 2 ∨ |n - q * 100| = 1 / 2 ∧ Even n := by
  have h := roundRat_eq_iff q n 2
  norm_num at h ⊢
  exact h

lemma roundRat_cents (n : Int) : roundRat (n / 100) 2 = n / 100 :=
  (roundRat_cents_iff _ n).mpr (.inl (by norm_num))

namespace Cost

variable {κ : Type} (rs : Ledger κ)

def spentWhile (test : Date → Bool) : Rat := ((rs.filter fun r => test r.day).map (·.amount)).sum

lemma spentWhile_or {test other : Date → Bool} (h : ∀ d, test d = true → other d = false) :
    spentWhile rs (fun d => test d || other d) = spentWhile rs test + spentWhile rs other := by
  unfold spentWhile
  induction rs with
  | nil => simp
  | cons r rs ih =>
    grind

lemma within_month_iff {year month day : Nat} {d : Date} :
    Store.within ⟨year, month, 1⟩ ⟨year, month, day⟩ d = true ↔
      d.year = year ∧ d.month = month ∧ 1 ≤ d.day ∧ d.day ≤ day := by
  simp only [Store.within, Date.le, Date.lt, Bool.and_eq_true, Bool.not_eq_true', Bool.or_eq_false_iff,
    Bool.and_eq_false_iff, decide_eq_false_iff_not, beq_eq_false_iff_ne]
  omega

lemma spentWhile_within {year month : Nat} {s : Rat} (day : Nat)
    (h : ∀ d, Store.within ⟨year, month, 1⟩ ⟨year, month, day⟩ d = true → spentWhile rs (· == d) = s) :
    spentWhile rs (Store.within ⟨year, month, 1⟩ ⟨year, month, day⟩) = day * s := by
  induction day with
  | zero =>
    have hnone : ∀ d, Store.within ⟨year, month, 1⟩ ⟨year, month, 0⟩ d = false := fun d =>
      Bool.eq_false_iff.mpr fun hd => by have := within_month_iff.mp hd; omega
    simp [spentWhile, hnone]
  | succ day ih =>
    have hlast : spentWhile rs (· == ⟨year, month, day + 1⟩) = s := h _ (within_month_iff.mpr (by simp))
    have hbef := ih fun d hd => h d (within_month_iff.mpr (by have := within_month_iff.mp hd; omega))
    have hspl : Store.within ⟨year, month, 1⟩ ⟨year, month, day + 1⟩ = fun d =>
        Store.within ⟨year, month, 1⟩ ⟨year, month, day⟩ d || d == ⟨year, month, day + 1⟩ := by
      funext d
      obtain ⟨y, m, k⟩ := d
      rw [Bool.eq_iff_iff, Bool.or_eq_true, within_month_iff, within_month_iff, beq_iff_eq, Date.mk.injEq]
      dsimp only
      omega
    rw [hspl, spentWhile_or, hlast, hbef]
    · push_cast
      ring
    · intro d hd
      have hle := within_month_iff.mp hd
      grind

lemma daysPassed_eq (today : Date) : daysPassed today = max (today.day - 1 : Int) 1 := by
  unfold daysPassed Date.daysTo Date.ordinal Date.firstOfMonth
  congr 1
  push_cast
  ring

lemma linear_cents (n : Int) (today : Date) :
    let daily := roundRat (n / 100 / daysPassed today) 2
    let days := Date.daysInMonth today.year today.month
    Projection.linear (n / 100 : Rat) today =
      .ok ⟨n / 100, daily, roundRat (daily * (days : Int)) 2, days - daysPassed today⟩ := by
  have hne : (daysPassed today : Rat) ≠ 0 := Int.cast_ne_zero.mpr (by rw [daysPassed_eq]; omega)
  have hdiv : Arithmetic.div (n / 100 : Rat) (Arithmetic.ofInt (daysPassed today)) = .ok (n / 100 / daysPassed today) :=
    div_eq_ok _ _ hne
  simp only [Projection.linear, round_eq_ok, roundRat_cents, bind, Except.bind, hdiv]
  rfl

/-- If each day of the month up to today costs the same whole number of cents, this is the projected average and the
projected total follows from it exactly on the first day, or if the share of one more day is less than half a cent, or half a
cent and the number is even. -/
theorem steady_projection_iff {today : Date} (hday : 1 ≤ today.day) (n : Int)
    (hsteady : ∀ d, Store.within today.firstOfMonth today d = true → spentWhile rs (· == d) = n / 100) :
    ∃ p, Projection.linear (spentWhile rs (Store.within today.firstOfMonth today)) today = .ok p ∧
      p.spent = today.day * (n / 100) ∧
      (p.daily = n / 100 ∧ p.total = n / 100 * Date.daysInMonth today.year today.month ↔
        today.day = 1 ∨ 2 * |n| < today.day - 1 ∨ 2 * |n| = today.day - 1 ∧ Even n) := by
  have hspe : spentWhile rs (Store.within today.firstOfMonth today) = ((today.day * n : Int) : Rat) / 100 := by
    rw [Date.firstOfMonth, spentWhile_within rs today.day hsteady]
    push_cast
    ring
  rw [hspe]
  refine ⟨_, linear_cents _ today, by push_cast; ring, ?_⟩
  dsimp only
  have htot : ∀ days : Nat, roundRat ((n : Rat) / 100 * (days : Int)) 2 = n / 100 * days := by
    intro days
    have hcen := roundRat_cents (n * days)
    push_cast at hcen ⊢
    rwa [mul_div_right_comm] at hcen
  refine (and_iff_left_of_imp fun h => by rw [h, htot]).trans ?_
  rw [roundRat_cents_iff]
  rcases hday.eq_or_lt with hfir | hlat
  · simp [daysPassed_eq, ← hfir]
  · -- Of one day more than are counted, each of these takes a share.
    have hpas : (daysPassed today : Rat) = today.day - 1 := by
      rw [daysPassed_eq, max_eq_left (by omega)]
      push_cast
      ring
    have hpos : (0 : Rat) < today.day - 1 := by
      have hlt : (1 : Rat) < today.day := by exact_mod_cast hlat
      linarith
    have hsha : (n : Rat) - ((today.day * n : Int) : Rat) / 100 / daysPassed today * 100 = -(n / (today.day - 1)) := by
      rw [hpas]
      field_simp
      push_cast
      ring
    rw [hsha, abs_neg, abs_div, abs_of_pos hpos, div_lt_div_iff₀ hpos two_pos, div_eq_div_iff hpos.ne' two_ne_zero,
      one_mul, mul_comm, or_iff_right (by omega : today.day ≠ 1)]
    norm_cast

def steadyMonth : Ledger String := (range 17).map fun k => ⟨⟨2026, 2, k + 1⟩, "EC2", 10⟩

theorem steady_projection_of_half_month :
    ∃ p, Projection.linear (spentWhile steadyMonth (Store.within ⟨2026, 2, 1⟩ ⟨2026, 2, 17⟩)) ⟨2026, 2, 17⟩ = .ok p ∧
      p.spent = 170 ∧ ¬(p.daily = 10 ∧ p.total = 280) := by
  have hdays : ∀ k ≤ 17, 1 ≤ k → spentWhile steadyMonth (· == ⟨2026, 2, k⟩) = (1000 : Int) / 100 := by decide +kernel
  have hday : 1 ≤ Date.day ⟨2026, 2, 17⟩ := by decide
  obtain ⟨p, hp, hspe, hiff⟩ := steady_projection_iff steadyMonth hday 1000 (by
    rintro ⟨y, m, k⟩ hd
    obtain ⟨rfl, rfl, hk, hk'⟩ := within_month_iff.mp hd
    exact hdays k hk' hk)
  refine ⟨p, hp, by rw [hspe]; norm_num, fun h => ?_⟩
  have hnot := hiff.mp (by rw [h.1, h.2]; decide +kernel)
  revert hnot
  decide

/-- After seventeen days of ten each, the seventeen tens are divided by sixteen. -/
theorem projection_off_after_half_month :
    (Projection.linear (spentWhile steadyMonth (Store.within ⟨2026, 2, 1⟩ ⟨2026, 2, 17⟩)) ⟨2026, 2, 17⟩).toOption.map
      (fun p => (p.daily, p.total)) = some (1062 / 100, 29736 / 100) := by
  decide +kernel

end Cost

end CloudSpend
