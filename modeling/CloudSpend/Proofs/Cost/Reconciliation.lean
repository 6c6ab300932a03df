import CloudSpend.Data.Rational
import CloudSpend.Proofs.Cost.StoredAndLive
import CloudSpend.Proofs.Data.Sums
import Mathlib

/-! # Changes add up -/

namespace CloudSpend

open List

lemma Numeral.two_mul_roundDiv (num : Nat) {den : Nat} (hden : den ≠ 0) :
    2 * (roundDiv num den * den) ≤ 2 * num + den ∧ 2 * num ≤ 2 * (roundDiv num den * den) + den ∧
      (2 * (roundDiv num den * den) = 2 * num + den ∨ 2 * num = 2 * (roundDiv num den * den) + den →
        roundDiv num den % 2 = 0) := by
  have hsum := Nat.div_add_mod' num den
  have hlt := Nat.mod_lt num (Nat.pos_of_ne_zero hden)
  unfold roundDiv
  simp only [beq_iff_eq]
  split_ifs <;> (try rw [Nat.add_mul, Nat.one_mul]) <;> omega

lemma roundRat_neg (q : Rat) (places : Nat) : roundRat (-q) places = -roundRat q places := by
  unfold roundRat
  simp only [Rat.neg_num, Rat.neg_den, Int.natAbs_neg, Rat.mkRat_eq_div]
  rcases lt_trichotomy q.num 0 with h | h | h
  · rw [if_neg (by omega), if_pos h, Int.cast_neg, neg_div, neg_neg]
  · simp [h, Numeral.roundDiv]
  · rw [if_pos (by omega), if_neg (by omega), Int.cast_neg, neg_div]

lemma exists_units (q : Rat) (places : Nat) : ∃ units : Int, roundRat q places = units / 10 ^ places ∧
    |units - q * 10 ^ places| ≤ 1 / 2 ∧ (|units - q * 10 ^ places| = 1 / 2 → Even units) := by
  wlog hq : 0 ≤ q generalizing q with hnon
  · obtain ⟨units, hrou, hspec⟩ := hnon (-q) (by linarith)
    have hsub : ((-units : Int) : Rat) - q * 10 ^ places = -(units - -q * 10 ^ places) := by push_cast; ring
    refine ⟨-units, ?_, by rwa [hsub, abs_neg, even_neg]⟩
    rw [← neg_neg (roundRat q places), ← roundRat_neg, hrou, Int.cast_neg, neg_div]
  have hden : (0 : Rat) < q.den := by exact_mod_cast q.den_pos
  have hnum : 0 ≤ q.num := Rat.num_nonneg.mpr hq
  have hrou : roundRat q places =
      (Numeral.roundDiv (q.num.natAbs * 10 ^ places) q.den : Rat) / 10 ^ places := by
    simp [roundRat, not_lt.mpr hnum, Rat.mkRat_eq_div, Numeral.tenTo]
  have hval : |(q.num : Rat)| = q * q.den := by
    rw [abs_of_nonneg (by exact_mod_cast hnum), Rat.mul_den_eq_num]
  obtain ⟨hlow, hhigh, htie⟩ := Numeral.two_mul_roundDiv (q.num.natAbs * 10 ^ places) q.den_nz
  refine ⟨Numeral.roundDiv (q.num.natAbs * 10 ^ places) q.den, by simpa using hrou, ?_⟩
  generalize Numeral.roundDiv (q.num.natAbs * 10 ^ places) q.den = units at *
  qify at hlow hhigh htie
  rw [hval] at hlow hhigh htie
  rw [Int.cast_natCast, Int.even_coe_nat, Nat.even_iff, abs_le, abs_eq (by norm_num)]
  have hbel : 2 * (units : Rat) ≤ 2 * (q * 10 ^ places) + 1 :=
    le_of_mul_le_mul_right (by linarith) hden
  have habo : 2 * (q * 10 ^ places) ≤ 2 * (units : Rat) + 1 :=
    le_of_mul_le_mul_right (by linarith) hden
  refine ⟨⟨by linarith, by linarith⟩, fun h => ?_⟩
  have heven := htie (h.imp (fun h => ?_) fun h => ?_)
  · exact_mod_cast heven
  all_goals grind

theorem abs_roundRat_sub_le (q : Rat) (places : Nat) : |roundRat q places - q| ≤ 1 / (2 * 10 ^ places) := by
  obtain ⟨units, hrou, hnear, -⟩ := exists_units q places
  have hten : (0 : Rat) < 10 ^ places := by positivity
  have hspl : (units : Rat) / 10 ^ places - q = (units - q * 10 ^ places) / 10 ^ places := by
    rw [sub_div, mul_div_cancel_right₀ _ hten.ne']
  rw [hrou, hspl, abs_div, abs_of_pos hten, ← div_div]
  exact div_le_div_of_nonneg_right hnear hten.le

namespace Cost

abbrev Ledger (κ : Type) := List (Record κ Date Rat)

variable {κ : Type} [DecidableEq κ] (rs as bs : Ledger κ) (s : κ)

def servicesIn : List κ := (rs.map (·.service)).eraseDups

def spentOn : Rat := ((rs.filter (·.service = s)).map (·.amount)).sum

def total : Rat := (rs.map (·.amount)).sum

def exactTotals : Totals κ Rat := Entries.tabulate id (servicesIn rs) (spentOn rs)

lemma exactTotals_eq_map : exactTotals rs = (servicesIn rs).map fun s => (s, spentOn rs s) := rfl

lemma mem_servicesIn {rs : Ledger κ} {s : κ} : s ∈ servicesIn rs ↔ ∃ r ∈ rs, r.service = s := by simp [servicesIn]

lemma nodup_servicesIn : (servicesIn rs).Nodup := nodup_eraseDups _

lemma spentOn_of_not_mem {rs : Ledger κ} {s : κ} (h : s ∉ servicesIn rs) : spentOn rs s = 0 := by
  have hnone : rs.filter (·.service = s) = [] :=
    filter_eq_nil_iff.mpr fun r hr hs => h (mem_servicesIn.mpr ⟨r, hr, of_decide_eq_true hs⟩)
  simp [spentOn, hnone]

lemma sum_spentOn {rs : Ledger κ} {l : List κ} (hl : l.Nodup) (h : ∀ r ∈ rs, r.service ∈ l) :
    (l.map (spentOn rs)).sum = total rs :=
  sum_groups Record.service Record.amount hl h

lemma get?_exactTotals :
    Entries.get? (exactTotals rs) s = if s ∈ servicesIn rs then some (spentOn rs s) else none :=
  Entries.get?_tabulate (fun _ _ => rfl) _ _ s

lemma getD_exactTotals : (Entries.get? (exactTotals rs) s).getD 0 = spentOn rs s := by
  rw [get?_exactTotals]
  by_cases h : s ∈ servicesIn rs
  · simp [h]
  · simp [h, spentOn_of_not_mem h]

lemma adds_nought : Adds (Arithmetic.nought : Rat) id :=
  ⟨fun x => by rw [(by decide : (Arithmetic.nought : Rat) = 0)]; rfl, fun _ _ => rfl⟩

lemma beq_id (i j : κ) : (id i == id j) = decide (i = j) := rfl

lemma exactTotals_eq_sumsBy :
    exactTotals rs = (sumsBy Record.service Record.amount rs).map (Prod.map id id) := by
  simp [exactTotals, Entries.tabulate, sumsBy, servicesIn, spentOn, sumOn, plainSum, sum_eq_foldl]

lemma add_exactTotals (r : Record κ Date Rat) :
    (exactTotals rs).add r.service r.amount = .ok (exactTotals (rs ++ [r])) := by
  rw [exactTotals_eq_sumsBy, exactTotals_eq_sumsBy]
  exact accumulate_sumsBy Record.service Record.amount adds_nought beq_id rs r

lemma ofRecords_eq_exactTotals : Totals.ofRecords rs = .ok (exactTotals rs) := by
  rw [exactTotals_eq_sumsBy]
  exact foldlM_accumulate Record.service Record.amount adds_nought beq_id rs

def difference : Rat := spentOn as s - spentOn bs s

def isChanged : Bool := decide (1 / 100 ≤ |difference as bs s|)

def Direction.of (change : Rat) : Direction := if 0 < change then .increase else .decrease

def Direction.ofWhole (change : Rat) : Direction :=
  if 0 < change then .increase else if change < 0 then .decrease else .unchanged

def changeOf : Change κ Rat where
  service := s
  current := roundRat (spentOn as s) 2
  previous := roundRat (spentOn bs s) 2
  change := roundRat (difference as bs s) 2
  changePart := roundRat (if 0 < spentOn bs s then difference as bs s / spentOn bs s
    else if 0 < spentOn as s then 1 else 0) 4
  impact := roundRat |if 1 / 100 < |total as - total bs| then difference as bs s / (total as - total bs) else 0| 4
  direction := .of (difference as bs s)

section Operations

variable (a b : Rat) (places : Nat)

lemma sub_eq_ok : Arithmetic.sub a b = .ok (a - b) := rfl

lemma round_eq_ok : Arithmetic.round a places = .ok (roundRat a places) := rfl

@[simp] lemma lt_eq_ok : Arithmetic.lt a b = .ok (decide (a < b)) := rfl

@[simp] lemma gt_eq_ok : Arithmetic.gt a b = .ok (decide (b < a)) := rfl

lemma div_eq_ok (h : b ≠ 0) : Arithmetic.div a b = .ok (a / b) := if_neg h

lemma abs_eq_ok : Arithmetic.abs a = .ok |a| := by
  have habs : (if a < 0 then -a else a) = |a| := by
    grind
  exact congrArg Except.ok habs

@[simp] lemma zero_eq : (Arithmetic.zero : Rat) = 0 := rfl

lemma ofChange_eq_ok : Direction.ofChange a = .ok (.of a) := by
  by_cases h : 0 < a <;> simp [Direction.ofChange, Direction.of, h, bind, Except.bind, pure, Except.pure]

lemma ofTotal_eq_ok : Direction.ofTotal a = .ok (.ofWhole a) := by
  by_cases h : 0 < a <;> by_cases h' : a < 0 <;>
    simp [Direction.ofTotal, Direction.ofWhole, h, h', bind, Except.bind, pure, Except.pure]

end Operations

lemma cent_eq : (Arithmetic.ofDecimal 1 2 : Rat) = 1 / 100 := by simp [Arithmetic.ofDecimal, Rat.mkRat_eq_div]

lemma one_eq : (Arithmetic.ofDecimal 1 0 : Rat) = 1 := by simp [Arithmetic.ofDecimal, Rat.mkRat_eq_div]

lemma ofTotals?_eq :
    Change.ofTotals? (total as - total bs) s (spentOn as s) (spentOn bs s) =
      .ok (if isChanged as bs s then some (changeOf as bs s) else none) := by
  have hdiv : 1 / 100 < |total as - total bs| →
      ∀ a, Arithmetic.div a (total as - total bs) = .ok (a / (total as - total bs)) := by
    intro h a
    refine div_eq_ok a _ fun hzero => ?_
    rw [hzero, abs_zero] at h
    norm_num at h
  have hpre : 0 < spentOn bs s → ∀ a, Arithmetic.div a (spentOn bs s) = .ok (a / spentOn bs s) :=
    fun h a => div_eq_ok a _ h.ne'
  unfold Change.ofTotals?
  rw [sub_eq_ok]
  by_cases hsma : |spentOn as s - spentOn bs s| < 1 / 100
  · have hnot : isChanged as bs s = false := decide_eq_false (not_le.mpr hsma)
    simp only [abs_eq_ok, lt_eq_ok, cent_eq, hsma, hnot, bind, Except.bind, pure, Except.pure, decide_true, if_true,
      Bool.false_eq_true, if_false]
  · have hcha : isChanged as bs s = true := decide_eq_true (not_lt.mp hsma)
    by_cases hb : 0 < spentOn bs s <;> by_cases ha : 0 < spentOn as s <;> by_cases hT : 1 / 100 < |total as - total bs| <;>
      simp only [changeOf, difference, abs_eq_ok, lt_eq_ok, gt_eq_ok, cent_eq, one_eq, round_eq_ok, ofChange_eq_ok, zero_eq,
        hsma, hcha, hb, ha, hT, hdiv, hpre, bind, Except.bind, pure, Except.pure, decide_true, decide_false,
        if_true, if_false, Bool.false_eq_true]

lemma list_eq (services : List κ) :
    Change.list (total as - total bs) (services.map fun s => (s, spentOn as s, spentOn bs s)) =
      .ok ((services.filter (isChanged as bs)).map (changeOf as bs)) := by
  induction services with
  | nil => rfl
  | cons s services ih =>
    rw [map_cons, Change.list, ofTotals?_eq, ih, filter_cons]
    cases isChanged as bs s <;> rfl

def bothServices : List κ :=
  servicesIn as ++ (servicesIn bs).filter (· ∉ servicesIn as)

lemma bothServices_perm : (bothServices as bs).Perm (servicesIn (as ++ bs)) := by
  have hnod : (bothServices as bs).Nodup := by
    refine nodup_append.mpr ⟨nodup_eraseDups _, (nodup_eraseDups _).filter _, ?_⟩
    rintro s hs _ ht rfl
    exact of_decide_eq_true (mem_filter.mp ht).2 hs
  have hmem : ∀ s, s ∈ servicesIn (as ++ bs) ↔ s ∈ servicesIn as ∨ s ∈ servicesIn bs := by
    simp [mem_servicesIn, or_and_right, exists_or]
  refine (perm_ext_iff_of_nodup hnod (nodup_servicesIn _)).mpr fun s => ?_
  simp only [bothServices, mem_append, mem_filter, decide_eq_true_eq, hmem]
  tauto

lemma sideBySide_eq :
    sideBySide (exactTotals as) (exactTotals bs) =
      (bothServices as bs).map fun s => (s, spentOn as s, spentOn bs s) := by
  have hhas : ∀ s, Entries.has (exactTotals as) s = decide (s ∈ servicesIn as) := by
    intro s
    simp [Entries.has, exactTotals, Entries.tabulate, any_eq]
  unfold sideBySide bothServices
  rw [map_append]
  congr 1
  · rw [exactTotals_eq_map as, map_map]
    exact map_congr_left fun s _ => congrArg (fun x => (s, spentOn as s, x)) (getD_exactTotals bs s)
  · simp only [hhas]
    rw [exactTotals_eq_map bs, filter_map, map_map]
    have hfil : (servicesIn bs).filter ((fun t : κ × Rat => !decide (t.1 ∈ servicesIn as)) ∘
        fun s => (s, spentOn bs s)) = (servicesIn bs).filter (· ∉ servicesIn as) := filter_congr fun s _ => by simp
    rw [hfil]
    refine map_congr_left fun s hs => ?_
    have hnone := spentOn_of_not_mem (of_decide_eq_true (mem_filter.mp hs).2)
    exact congrArg (fun x => (s, x, spentOn bs s)) hnone.symm

structure Explains (c : Comparison κ Date Rat) : Prop where
  totalChange : c.totalChange = roundRat (total as - total bs) 2
  direction : c.direction = .ofWhole (total as - total bs)
  changes : c.changes.Perm (((servicesIn (as ++ bs)).filter (isChanged as bs)).map (changeOf as bs))
  currentTotal : c.currentTotal = roundRat (total as) 2
  previousTotal : c.previousTotal = roundRat (total bs) 2

lemma sum_eq_ok (xs : List Rat) : Arithmetic.sum xs = .ok xs.sum := by
  have hfold : ∀ a : Rat, xs.foldlM Arithmetic.add a = (.ok (a + xs.sum) : Result Rat) := by
    induction xs with
    | nil => exact fun a => congrArg Except.ok (add_zero a).symm
    | cons x xs ih => exact fun a => (ih (a + x)).trans (by rw [sum_cons, add_assoc])
  exact (hfold 0).trans (by rw [zero_add])

lemma exists_ofTotals (name : κ → String) (current previous : Period Date) :
    ∃ c, Comparison.ofTotals name current previous (exactTotals as) (exactTotals bs) = .ok c ∧ Explains as bs c := by
  have hsum : ∀ rs : Ledger κ, (exactTotals rs).sum = .ok (total rs) := by
    intro rs
    rw [Totals.sum, sum_eq_ok, exactTotals_eq_map, map_map,
      ← sum_spentOn (nodup_servicesIn rs) fun r hr => mem_servicesIn.mpr ⟨r, hr, rfl⟩]
    rfl
  have hlist : Change.list (total as - total bs) (sideBySide (exactTotals as) (exactTotals bs)) =
      .ok (((bothServices as bs).filter (isChanged as bs)).map (changeOf as bs)) := by
    rw [sideBySide_eq, list_eq]
  have hperm := ((bothServices_perm as bs).filter (isChanged as bs)).map (changeOf as bs)
  unfold Comparison.ofTotals
  rw [hsum, hsum]
  by_cases h : 0 < total bs
  · simp only [bind, Except.bind, sub_eq_ok, gt_eq_ok, zero_eq, h, div_eq_ok _ _ h.ne', hlist, ofTotal_eq_ok, round_eq_ok,
      pure, Except.pure, decide_true, if_true]
    exact ⟨_, rfl, rfl, rfl, (mergeSort_perm _ _).trans hperm, rfl, rfl⟩
  · simp only [bind, Except.bind, sub_eq_ok, gt_eq_ok, zero_eq, h, hlist, ofTotal_eq_ok, round_eq_ok, pure, Except.pure,
      decide_false, if_false, Bool.false_eq_true]
    exact ⟨_, rfl, rfl, rfl, (mergeSort_perm _ _).trans hperm, rfl, rfl⟩

def Period.recordsIn (current : Period Date) (rs : Ledger κ) : Ledger κ :=
  rs.filter fun r => current.contains r.day

def Period.recordsOnlyIn (previous current : Period Date) (rs : Ledger κ) : Ledger κ :=
  rs.filter fun r => !current.contains r.day && previous.contains r.day

lemma Period.includes_eq_ok (p : Period Date) (d : Date) : p.includes d = .ok (p.contains d) := by
  unfold includes contains
  cases hle : p.start.le d <;> simp [Days.le, Days.lt, bind, Except.bind, hle, pure, Except.pure]

variable (name : κ → String) (current previous : Period Date)

lemma splitRecord_exactTotals (r : Record κ Date Rat) :
    splitRecord .ok current previous (exactTotals (current.recordsIn rs), exactTotals (previous.recordsOnlyIn current rs)) r =
      .ok (exactTotals (current.recordsIn (rs ++ [r])), exactTotals (previous.recordsOnlyIn current (rs ++ [r]))) := by
  unfold splitRecord Period.recordsIn Period.recordsOnlyIn
  rw [Period.includes_eq_ok, Period.includes_eq_ok]
  cases hc : current.contains r.day <;> cases hp : previous.contains r.day <;>
    simp [hc, hp, add_exactTotals, bind, Except.bind, pure, Except.pure]

lemma exists_ofRecords :
    ∃ c, Comparison.ofRecords name current previous rs = .ok c ∧
      Explains (current.recordsIn rs) (previous.recordsOnlyIn current rs) c := by
  have hfold : rs.foldlM (fun totals row => do splitRecord .ok current previous totals (← (.ok row : Result _)))
      (([], []) : Totals κ Rat × Totals κ Rat) =
      .ok (exactTotals (current.recordsIn rs), exactTotals (previous.recordsOnlyIn current rs)) := by
    induction rs using reverseRecOn with
    | nil => rfl
    | append_singleton rs r ih =>
      rw [foldlM_append, ih]
      exact (bind_pure _).trans (splitRecord_exactTotals rs current previous r)
  unfold Comparison.ofRecords Comparison.stored
  rw [hfold]
  exact exists_ofTotals _ _ name current previous

section Reconciliation

def omitted (c : Comparison κ Date Rat) : List κ :=
  (servicesIn (as ++ bs)).filter fun s => s ∉ c.changes.map (·.service)

structure Reconciles (c : Comparison κ Date Rat) : Prop where
  once : (c.changes.map (·.service)).Nodup ∧ ∀ x ∈ c.changes, x.service ∈ servicesIn (as ++ bs)
  rounded : ∀ x ∈ c.changes, x.change = roundRat (difference as bs x.service) 2
  small : ∀ s ∈ omitted as bs c, |difference as bs s| < 1 / 100
  close : |c.totalChange - (c.changes.map (·.change)).sum| ≤
    5 / 1000 * (c.changes.length + 1) + 1 / 100 * (omitted as bs c).length

lemma abs_roundRat_cent_le (q : Rat) : |roundRat q 2 - q| ≤ 5 / 1000 :=
  (abs_roundRat_sub_le q 2).trans_eq (by norm_num)

theorem abs_sum_difference_sub_le (l : List κ) :
    |(l.map (difference as bs)).sum - ((l.filter (isChanged as bs)).map fun s => roundRat (difference as bs s) 2).sum| ≤
      5 / 1000 * (l.filter (isChanged as bs)).length + 1 / 100 * (l.filter fun s => !isChanged as bs s).length := by
  induction l with
  | nil => simp
  | cons s l ih =>
    have hrou := abs_roundRat_cent_le (difference as bs s)
    rw [abs_le] at ih hrou ⊢
    cases h : isChanged as bs s with
    | true =>
      simp only [map_cons, sum_cons, filter_cons, h, Bool.not_true, Bool.false_eq_true, if_true, if_false, length_cons,
        Nat.cast_add, Nat.cast_one]
      constructor <;> linarith
    | false =>
      have hsma := abs_lt.mp (not_le.mp (of_decide_eq_false h))
      simp only [map_cons, sum_cons, filter_cons, h, Bool.not_false, Bool.false_eq_true, if_true, if_false, length_cons,
        Nat.cast_add, Nat.cast_one]
      constructor <;> linarith

lemma sum_difference : ((servicesIn (as ++ bs)).map (difference as bs)).sum = total as - total bs := by
  have hsum : ∀ rs : Ledger κ, (∀ r ∈ rs, r ∈ as ++ bs) →
      ((servicesIn (as ++ bs)).map (spentOn rs)).sum = total rs := fun rs hrs =>
    sum_spentOn (nodup_servicesIn _) fun r hr => mem_servicesIn.mpr ⟨r, hrs r hr, rfl⟩
  have hspl : ((servicesIn (as ++ bs)).map (difference as bs)).sum + total bs = total as := by
    rw [← hsum bs fun r hr => mem_append_right _ hr, ← hsum as fun r hr => mem_append_left _ hr, ← sum_map_add]
    simp only [difference, sub_add_cancel]
  exact eq_sub_of_add_eq hspl

variable {as bs}

lemma Explains.reconciles {c : Comparison κ Date Rat} (h : Explains as bs c) : Reconciles as bs c := by
  have hser : (c.changes.map (·.service)).Perm ((servicesIn (as ++ bs)).filter (isChanged as bs)) := by
    refine (h.changes.map _).trans (Perm.of_eq ?_)
    rw [map_map]
    exact map_id _
  have homi : omitted as bs c = (servicesIn (as ++ bs)).filter fun s => !isChanged as bs s := by
    refine filter_congr fun s hs => ?_
    grind
  have hlen : c.changes.length = ((servicesIn (as ++ bs)).filter (isChanged as bs)).length := by
    rw [← hser.length_eq, length_map]
  have hcha : (c.changes.map (·.change)).sum =
      (((servicesIn (as ++ bs)).filter (isChanged as bs)).map fun s => roundRat (difference as bs s) 2).sum := by
    rw [(h.changes.map _).sum_eq, map_map]
    rfl
  refine ⟨⟨hser.nodup_iff.mpr ((nodup_servicesIn _).filter _), fun x hx => ?_⟩, fun x hx => ?_, fun s hs => ?_, ?_⟩
  · exact (mem_filter.mp (hser.mem_iff.mp (mem_map_of_mem hx))).1
  · obtain ⟨s, -, rfl⟩ := mem_map.mp (h.changes.mem_iff.mp hx)
    rfl
  · rw [homi] at hs
    exact not_le.mp (of_decide_eq_false ((Bool.not_eq_true' _).mp (mem_filter.mp hs).2))
  · have htot := abs_roundRat_cent_le (total as - total bs)
    have hsum := abs_sum_difference_sub_le as bs (servicesIn (as ++ bs))
    rw [sum_difference, ← hcha, ← hlen, ← homi] at hsum
    rw [h.totalChange]
    grind

end Reconciliation

/-- **Changes reconcile with the total.** However records and periods lie, in exact arithmetic the comparison of two
periods reports each service once at most, leaves out only services that changed by less than a cent, and its changes
add up to the total change up to half a cent for each number that is rounded and a cent for each service that is left
out. -/
theorem changes_reconcile :
    (∀ rs : Ledger κ, ∃ c, Comparison.ofRecords name current previous rs = .ok c ∧
      Reconciles (current.recordsIn rs) (previous.recordsOnlyIn current rs) c) ∧
    ∀ fetch : Period Date → Ledger κ, ∃ c,
      Comparison.live (m := Result) name Totals.ofRecords (fun p => .ok (fetch p)) current previous = .ok c ∧
        Reconciles (fetch current) (fetch previous) c := by
  constructor
  · intro rs
    obtain ⟨c, hc, hexp⟩ := exists_ofRecords rs name current previous
    exact ⟨c, hc, hexp.reconciles⟩
  · intro fetch
    obtain ⟨c, hc, hexp⟩ := exists_ofTotals (fetch current) (fetch previous) name current previous
    have hlive : Comparison.live (m := Result) name Totals.ofRecords (fun p => .ok (fetch p)) current previous =
        Comparison.ofTotals name current previous (exactTotals (fetch current)) (exactTotals (fetch previous)) := by
      unfold Comparison.live
      simp only [ofRecords_eq_exactTotals]
      rfl
    exact ⟨c, hlive.trans hc, hexp.reconciles⟩

def Direction.opposite : Direction → Direction
  | .increase => .decrease
  | .decrease => .increase
  | .unchanged => .unchanged

def Change.sides (x : Change κ Rat) : κ × Rat × Rat × Rat × Direction :=
  (x.service, x.current, x.previous, x.change, x.direction)

def Change.mirrored (x : Change κ Rat) : κ × Rat × Rat × Rat × Direction :=
  (x.service, x.previous, x.current, -x.change, x.direction.opposite)

structure Mirrors (c c' : Comparison κ Date Rat) : Prop where
  totalChange : c'.totalChange = -c.totalChange
  direction : c'.direction = c.direction.opposite
  changes : (c'.changes.map Change.sides).Perm (c.changes.map Change.mirrored)
  increases : (c'.increases.map Change.sides).Perm (c.decreases.map Change.mirrored)
  decreases : (c'.decreases.map Change.sides).Perm (c.increases.map Change.mirrored)
  added : (c'.added.map Change.sides).Perm (c.removed.map Change.mirrored)
  removed : (c'.removed.map Change.sides).Perm (c.added.map Change.mirrored)

lemma Direction.ofWhole_neg (a : Rat) : ofWhole (-a) = (ofWhole a).opposite := by
  unfold ofWhole
  rcases lt_trichotomy a 0 with h | rfl | h
  · simp [h, h.le.not_gt, opposite]
  · simp [opposite]
  · simp [h, h.le.not_gt, opposite]

lemma Direction.of_neg {a : Rat} (h : a ≠ 0) : of (-a) = (of a).opposite := by
  unfold of
  rcases h.lt_or_gt with h | h
  · simp [h, h.le.not_gt, opposite]
  · simp [h, h.le.not_gt, opposite]

lemma difference_swap : difference bs as s = -difference as bs s :=
  (neg_sub _ _).symm

lemma Explains.mirrors {as bs : Ledger κ} {c c' : Comparison κ Date Rat} (h : Explains as bs c) (h' : Explains bs as c') :
    Mirrors c c' := by
  have hsid : ∀ s, isChanged as bs s = true → (changeOf bs as s).sides = (changeOf as bs s).mirrored := by
    intro s hs
    have hne : difference as bs s ≠ 0 := by
      intro hzero
      have hcent := of_decide_eq_true hs
      rw [hzero, abs_zero] at hcent
      norm_num at hcent
    simp only [Change.sides, Change.mirrored, changeOf, difference_swap as bs, roundRat_neg, Direction.of_neg hne]
  have hcan : isChanged bs as = isChanged as bs := by
    funext s
    simp only [isChanged, difference_swap as bs, abs_neg]
  have hser : (servicesIn (bs ++ as)).Perm (servicesIn (as ++ bs)) :=
    (perm_ext_iff_of_nodup (nodup_servicesIn _) (nodup_servicesIn _)).mpr fun s => by
      simp only [mem_servicesIn, mem_append, or_comm]
  have hcha : (c'.changes.map Change.sides).Perm (c.changes.map Change.mirrored) := by
    refine ((h'.changes.map _).trans ?_).trans (h.changes.map _).symm
    rw [map_map, map_map, hcan]
    refine ((hser.filter _).map _).trans (Perm.of_eq (map_congr_left fun s hs => ?_))
    exact hsid s (mem_filter.mp hs).2
  have hfil : ∀ {p q : Change κ Rat → Bool} (r : κ × Rat × Rat × Rat × Direction → Bool),
      (∀ x, p x = r x.sides) → (∀ x, q x = r x.mirrored) →
      ((c'.changes.filter p).map Change.sides).Perm ((c.changes.filter q).map Change.mirrored) := by
    intro p q r hp hq
    have hp' : p = r ∘ Change.sides := funext hp
    have hq' : q = r ∘ Change.mirrored := funext hq
    rw [hp', hq', ← filter_map, ← filter_map]
    exact hcha.filter r
  have hopp : ∀ d e : Direction, (d == e.opposite) = (d.opposite == e) := by
    intro d e; cases d <;> cases e <;> rfl
  refine ⟨?_, ?_, hcha, ?_, ?_, ?_, ?_⟩
  · rw [h'.totalChange, h.totalChange, ← roundRat_neg, neg_sub]
  · rw [h'.direction, h.direction, ← Direction.ofWhole_neg, neg_sub]
  · exact hfil (fun t => t.2.2.2.2 == .increase) (fun _ => rfl) fun x => hopp x.direction .increase
  · exact hfil (fun t => t.2.2.2.2 == .decrease) (fun _ => rfl) fun x => hopp x.direction .decrease
  · exact hfil (fun t => Arithmetic.same t.2.2.1 Arithmetic.zero && Comparison.isPositive t.2.1) (fun _ => rfl)
      fun _ => rfl
  · exact hfil (fun t => Arithmetic.same t.2.1 Arithmetic.zero && Comparison.isPositive t.2.2.1) (fun _ => rfl)
      fun _ => rfl

/-- **Drill-down is antisymmetric.** If no day is in both periods, the comparison the other way round, in exact
arithmetic, tells the same changes with their sides exchanged, and so it exchanges increases with decreases and new
services with those that are gone. -/
theorem comparison_antisymm {p q : Period Date} (h : ∀ d, p.contains d = true → q.contains d = false)
    (rs : Ledger κ) :
    ∃ c c', Comparison.ofRecords name p q rs = .ok c ∧ Comparison.ofRecords name q p rs = .ok c' ∧ Mirrors c c' := by
  have honly : q.recordsOnlyIn p rs = q.recordsIn rs := by
    refine filter_congr fun r _ => ?_
    grind
  have honly' : p.recordsOnlyIn q rs = p.recordsIn rs := by
    refine filter_congr fun r _ => ?_
    grind
  obtain ⟨c, hc, hexp⟩ := exists_ofRecords rs name p q
  obtain ⟨c', hc', hexp'⟩ := exists_ofRecords rs name q p
  rw [honly] at hexp
  rw [honly'] at hexp'
  exact ⟨c, c', hc, hc', hexp.mirrors hexp'⟩

/-- A week against the week before it. -/
theorem comparison_antisymm_weeks : ∃ c c',
    Comparison.ofRecords id ⟨⟨2026, 2, 8⟩, ⟨2026, 2, 15⟩⟩ ⟨⟨2026, 2, 1⟩, ⟨2026, 2, 8⟩⟩
        [⟨⟨2026, 2, 3⟩, "EC2", 5⟩, ⟨⟨2026, 2, 10⟩, "S3", 7 / 3⟩] = .ok c ∧
      Comparison.ofRecords id ⟨⟨2026, 2, 1⟩, ⟨2026, 2, 8⟩⟩ ⟨⟨2026, 2, 8⟩, ⟨2026, 2, 15⟩⟩
        [⟨⟨2026, 2, 3⟩, "EC2", 5⟩, ⟨⟨2026, 2, 10⟩, "S3", 7 / 3⟩] = .ok c' ∧ Mirrors c c' := by
  refine comparison_antisymm id (fun d hd => ?_) _
  have haft : (⟨2026, 2, 8⟩ : Date).le d = true := (Bool.and_eq_true_iff.mp hd).1
  have hbef : d.lt ⟨2026, 2, 8⟩ = false := (Bool.not_eq_true' _).mp haft
  exact (congrArg _ hbef).trans (Bool.and_false _)

end Cost

end CloudSpend
