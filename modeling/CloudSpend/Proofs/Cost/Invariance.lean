import CloudSpend.Proofs.Cost.Detection
import CloudSpend.Proofs.Numeral.Nearest

/-! # What a detector does not look at -/

namespace CloudSpend

open List Value

namespace Numeral

lemma eq_zero_of_beq {x : Float} (h : (x == 0) = true) : x = 0 ∨ x = -0 := by
  obtain ⟨-, -, heq | ⟨heq, -⟩ | ⟨heq, -⟩⟩ := Float.beq_iff_ne_nan_and_eq.mp h
  · exact .inl heq
  · exact .inl heq
  · exact .inr heq

lemma beq_zero_of_ofInt? {k : Nat} {x : Float} (hk : k ≠ 0) (h : ofInt? k = some x) : (x == 0) = false := by
  have hone : Nat.log2 1 = 0 := by decide
  obtain ⟨e, m, -, -, -, -, hm, hbin⟩ := of_nearest? (by omega) one_ne_zero (by omega) h
  have hzero : ∀ x ∈ [(0 : Float), -0], ∃ negative e, Binary.ofFloat x = .finite negative 0 e := by
    simp only [mem_cons, not_mem_nil, or_false, forall_eq_or_imp, forall_eq]
    exact ⟨⟨_, _, rfl⟩, ⟨_, _, rfl⟩⟩
  rw [Bool.eq_false_iff]
  intro hbeq
  obtain ⟨negative, e', hx⟩ := hzero x (by simpa using eq_zero_of_beq hbeq)
  grind

end Numeral

namespace Cost

variable {rs rs' : List Expense} {rows rows' : List Value} {d : Detector Value} {t e today first : Date}
  {target : Value} {n : Int} {s : String}

lemma mean_ne_zero {xs : List Float} (hne : xs ≠ []) (hlen : xs.length ≤ 999999999) :
    ∃ z, Arithmetic.mean (xs.map float) = .ok (.float z) := by
  obtain ⟨total, count, hcou, hmean⟩ := mean_eq_div hne hlen
  have hzero : (count == 0) = false := by
    unfold intToFloat at hcou
    split at hcou
    · next hx =>
        cases hcou
        exact Numeral.beq_zero_of_ofInt? (length_pos_iff.mpr hne).ne' hx
    · cases hcou
  have hdiv : (float total).div (.float count) = .ok (.float (total / count)) := if_neg (by simp [hzero])
  exact ⟨_, hmean.trans hdiv⟩

lemma lt_cent_of_beq_zero {x : Float} (h : (x == 0) = true) :
    (float x).lt (Arithmetic.ofDecimal 1 2) = .ok true := by
  rcases Numeral.eq_zero_of_beq h with rfl | rfl <;> rfl

theorem not_isUndefined (k : Nat) (hk : k ≤ 999999999) : ¬ IsUndefined d t k rs := by
  intro h
  have hne : pastSums rs t k ≠ [] := by
    intro hnil
    have hkno := h.known
    rw [hnil] at hkno
    exact absurd hkno (by decide)
  obtain ⟨average, hmean⟩ := mean_ne_zero hne ((length_pastSums_le rs t k).trans hk)
  have haer : averageBefore rs t k = .ok (.float average) := hmean
  obtain ⟨difference, hsub⟩ := sub_float (isFloatOrZero_costOn rs t) average
  have hzero : (average == 0) = false := by
    rw [Bool.eq_false_iff]
    intro hzero
    cases (lt_cent_of_beq_zero hzero).symm.trans (h.considerable _ haer)
  have hdiv : (float difference).div (.float average) = .ok (.float (difference / average)) :=
    if_neg (by simp [hzero])
  have hquo := h.quotient
  rw [haer] at hquo
  simp only [bind, Except.bind, hsub, hdiv] at hquo
  cases hquo

def verdict (d : Detector Value) (t : Date) (rs : List Expense) (s : String) : Option (Anomaly Value Value Value) :=
  (d.assess (date t) (text s) (daySums (ofService rs s))).toOption.join

section Verdict

variable (hd : IsNumeric d) (hlookback : d.lookback.int? = some n) (ht : t.ordinal ≤ Date.maxOrdinal)
include hd hlookback ht

lemma judged_verdict (hfir : t.before n = .ok first) (rs : List Expense) (s : String) :
    d.assess (date t) (text s) (daySums (ofService rs s)) = .ok (verdict d t rs s) ∧
      Judged d t n.toNat (ofService rs s) s (verdict d t rs s) := by
  have hbou := moved_of_before hfir
  unfold verdict
  rcases assess_daySums hd hlookback ht hfir (ofService rs s) s with ⟨-, hund⟩ | ⟨o, ho, hjud⟩
  · exact absurd hund (not_isUndefined _ (by omega))
  · rw [ho]
    exact ⟨rfl, hjud⟩

lemma assessAll_eq_verdicts (hfir : t.before n = .ok first) (services : List String) :
    d.assessAll (date t) (Entries.tabulate text services fun s => daySums (ofService rs s)) =
      .ok (services.filterMap (verdict d t rs)) := by
  induction services with
  | nil => rfl
  | cons s services ih =>
    have hcons : d.assessAll (date t) (Entries.tabulate text (s :: services) fun s =>
        daySums (ofService rs s)) = (do
      let a ← d.assess (date t) (text s) (daySums (ofService rs s))
      let as ← d.assessAll (date t) (Entries.tabulate text services fun s => daySums (ofService rs s))
      return a.toList ++ as) := rfl
    rw [hcons, (judged_verdict hd hlookback ht hfir rs s).1, ih, filterMap_cons]
    cases verdict d t rs s <;> rfl

theorem detectRows_eq_ranked (hrows : Forall₂ Tells rows rs) (htar : target.orYesterday today = .ok (.date t)) :
    d.detectRows today target (.list rows) =
      (t.before n).map fun _ => Detector.ranked ((servicesOf rs).filterMap (verdict d t rs)) := by
  rw [detectRows_eq hrows hlookback htar]
  cases hfir : t.before n with
  | error fault => rfl
  | ok first =>
    have hhis : d.inHistory (date t) (historyOf rs) = (d.assessAll (date t)
      (Entries.tabulate text (servicesOf rs) fun s => daySums (ofService rs s))).map Detector.ranked := rfl
    exact hhis.trans (by rw [assessAll_eq_verdicts hd hlookback ht hfir]; rfl)

end Verdict

theorem verdict_congr (hlookback : d.lookback.int? = some n) (ht : t.ordinal ≤ Date.maxOrdinal)
    (hfir : t.before n = .ok first) (h : ∀ e, e = t ∨ e ∈ earlier t n.toNat →
      (ofService rs s).filter (·.day == e) = (ofService rs' s).filter (·.day == e)) :
    verdict d t rs s = verdict d t rs' s := by
  have hmem : ∀ (rs : List Expense) (e : Date), e ∈ daysOf rs ↔ rs.filter (·.day == e) ≠ [] := by
    intro rs e
    simp [daysOf, filter_eq_nil_iff]
  have hdays : ∀ e, e = t ∨ e ∈ earlier t n.toNat → (e ∈ daysOf (ofService rs s) ↔ e ∈ daysOf (ofService rs' s)) :=
    fun e he => by rw [hmem, hmem, h e he]
  have hspe : ∀ e, e = t ∨ e ∈ earlier t n.toNat → spent (ofService rs s) e = spent (ofService rs' s) e :=
    fun e he => by rw [spent, spent, h e he]
  have hpast : pastSums (ofService rs s) t n.toNat = pastSums (ofService rs' s) t n.toNat := by
    have hfil : (earlier t n.toNat).filter (· ∈ daysOf (ofService rs s)) =
        (earlier t n.toNat).filter (· ∈ daysOf (ofService rs' s)) :=
      filter_congr fun e he => by simp only [hdays e (.inr he)]
    rw [pastSums, pastSums, hfil]
    exact map_congr_left fun e he => hspe e (.inr (mem_filter.mp he).1)
  unfold verdict Detector.assess
  rw [get?_daySums, get?_daySums, lookbackAmounts_eq hlookback ht hfir, lookbackAmounts_eq hlookback ht hfir, hpast]
  simp only [hdays t (.inl rfl), hspe t (.inl rfl)]

lemma perm_servicesOf (h : rs.Perm rs') : (servicesOf rs).Perm (servicesOf rs') := by
  refine (perm_ext_iff_of_nodup (nodup_eraseDups _) (nodup_eraseDups _)).mpr fun s => ?_
  simp only [mem_eraseDups, mem_map, h.mem_iff]

lemma filter_day_of_perm (h : rs.Perm rs')
    (hdis : rs.Pairwise fun r r' => ¬ (r.service = r'.service ∧ r.day = r'.day)) (s : String) (e : Date) :
    (ofService rs s).filter (·.day == e) = (ofService rs' s).filter (·.day == e) := by
  have hperm : ((ofService rs s).filter (·.day == e)).Perm ((ofService rs' s).filter (·.day == e)) :=
    (h.filter _).filter _
  have hpair : ((ofService rs s).filter (·.day == e)).Pairwise fun r r' => ¬ (r.service = r'.service ∧ r.day = r'.day) :=
    (hdis.filter _).filter _
  have hall : ∀ r ∈ (ofService rs s).filter (·.day == e), r.service = s ∧ r.day = e := by
    intro r hr
    simpa [ofService, and_comm] using (mem_filter.mp hr).imp_left fun hr => (mem_filter.mp hr).2
  generalize (ofService rs s).filter (·.day == e) = l at hperm hpair hall
  rcases l with _ | ⟨r, _ | ⟨r', l⟩⟩
  · exact hperm.nil_eq
  · exact hperm.singleton_eq
  all_goals grind

/-- **The order of records does not matter.** If no two records of a report tell of one service and one day, a detector
finds the same anomalies in every rearrangement of the report, to the last binary digit. -/
theorem detectRows_perm (hperm : rows.Perm rows') (hrows : Forall₂ Tells rows rs)
    (hdistinct : rs.Pairwise fun r r' => ¬ (r.service = r'.service ∧ r.day = r'.day)) (hd : IsNumeric d)
    (hlookback : d.lookback.int? = some n) (htarget : target.orYesterday today = .ok (.date t)) (ht : t.ordinal ≤ Date.maxOrdinal) :
    (∀ fault, t.before n = .error fault → d.detectRows today target (.list rows) = .error fault ∧
      d.detectRows today target (.list rows') = .error fault) ∧
    ∀ first, t.before n = .ok first → ∃ as as', d.detectRows today target (.list rows) = .ok as ∧
      d.detectRows today target (.list rows') = .ok as' ∧ as.Perm as' := by
  obtain ⟨rs', hrows', hrs⟩ := perm_comp_forall₂ hperm.symm hrows
  rw [detectRows_eq_ranked hd hlookback ht hrows htarget, detectRows_eq_ranked hd hlookback ht hrows' htarget]
  refine ⟨fun fault hfau => by rw [hfau]; exact ⟨rfl, rfl⟩, fun first hfir => ?_⟩
  have hver : verdict d t rs = verdict d t rs' := funext fun s =>
    verdict_congr hlookback ht hfir fun e _ => filter_day_of_perm hrs.symm hdistinct s e
  rw [hfir]
  refine ⟨_, _, rfl, rfl, ?_⟩
  calc Detector.ranked ((servicesOf rs).filterMap (verdict d t rs))
    _ ~ (servicesOf rs).filterMap (verdict d t rs) := perm_ranked _
    _ ~ (servicesOf rs').filterMap (verdict d t rs') := hver ▸ (perm_servicesOf hrs.symm).filterMap _
    _ ~ Detector.ranked ((servicesOf rs').filterMap (verdict d t rs')) := (perm_ranked _).symm

/-- A report read backwards. -/
theorem detectRows_perm_reverse : ∃ as as',
    Detector.default.detectRows ⟨2026, 2, 16⟩ .null (.list ((spike.drop 1).map rowOf)) = .ok as ∧
      Detector.default.detectRows ⟨2026, 2, 16⟩ .null (.list ((spike.drop 1).map rowOf).reverse) = .ok as' ∧
      as.Perm as' := by
  have hdis : (spike.drop 1).Pairwise fun r r' => ¬ (r.service = r'.service ∧ r.day = r'.day) := by decide
  have hperm : ((spike.drop 1).map rowOf).Perm ((spike.drop 1).map rowOf).reverse := (reverse_perm _).symm
  exact (detectRows_perm (n := 7) (t := ⟨2026, 2, 15⟩) hperm (tells_rows _) hdis ⟨rfl, rfl, rfl, rfl⟩ rfl rfl
    (by decide)).2 ⟨2026, 2, 8⟩ rfl

/-- Near the start of the calendar neither order of two records has a result. -/
theorem detectRows_perm_first_days :
    ¬ ∃ as as', Detector.default.detectRows ⟨2026, 2, 16⟩ (.date ⟨1, 1, 3⟩)
        (.list ([⟨⟨1, 1, 2⟩, "EC2", 5⟩, ⟨⟨1, 1, 3⟩, "S3", 7⟩].map rowOf)) = .ok as ∧
      Detector.default.detectRows ⟨2026, 2, 16⟩ (.date ⟨1, 1, 3⟩)
        (.list ([⟨⟨1, 1, 3⟩, "S3", 7⟩, ⟨⟨1, 1, 2⟩, "EC2", 5⟩].map rowOf)) = .ok as' ∧ as.Perm as' := by
  rintro ⟨as, as', h, -⟩
  cases h

def recent (s : String) (t : Date) (n : Int) (r : Expense) : Bool :=
  r.service == s && decide (0 ≤ r.day.daysTo t) && decide (r.day.daysTo t ≤ n)

lemma filter_day_of_recent (hlow : 0 ≤ e.daysTo t) (hhigh : e.daysTo t ≤ n) (rs : List Expense) :
    (ofService rs s).filter (·.day == e) = (rs.filter (recent s t n)).filter (·.day == e) := by
  rw [ofService, filter_filter, filter_filter]
  refine filter_congr fun r _ => ?_
  by_cases hday : r.day = e
  · simp [recent, hday, hlow, hhigh]
  all_goals grind

lemma daysTo_of_mem_earlier {k : Nat} (h : e ∈ earlier t k) : 0 ≤ e.daysTo t ∧ e.daysTo t ≤ k := by
  obtain ⟨i, hi, he⟩ := mem_filterMap.mp h
  have hk := mem_range.mp hi
  unfold Date.addDays? at he
  dsimp only at he
  split at he
  · next hran =>
      simp only [Bool.and_eq_true, decide_eq_true_eq] at hran
      cases he
      have hord := (Date.ofOrdinal_spec (n := ((t.ordinal : Int) + -(i + 1)).toNat) (by omega) (by omega)).2
      unfold Date.daysTo
      omega
  · cases he

section Report

variable (hd : IsNumeric d) (hlookback : d.lookback.int? = some n) (ht : t.ordinal ≤ Date.maxOrdinal)
include hd hlookback ht

lemma mem_ranked_iff (hfir : t.before n = .ok first) {a : Anomaly Value Value Value} (ha : a.service = .text s) :
    a ∈ Detector.ranked ((servicesOf rs).filterMap (verdict d t rs)) ↔ verdict d t rs s = some a := by
  have hjud := fun s => (judged_verdict hd hlookback ht hfir rs s).2
  rw [(perm_ranked _).mem_iff, mem_filterMap]
  constructor
  · rintro ⟨s', -, hver⟩
    cases ((hjud s').told a hver).2.symm.trans ha
    exact hver
  · intro hver
    obtain ⟨_, hdev, -⟩ := ((hjud s).severity _).mp (congrArg (Option.map (·.severity)) hver)
    exact ⟨s, mem_services_of_deviates hdev, hver⟩

lemma verdict_of_recent (hfir : t.before n = .ok first)
    (hsame : rs.filter (recent s t n) = rs'.filter (recent s t n)) : verdict d t rs s = verdict d t rs' s := by
  by_cases hn : 0 ≤ n
  · refine verdict_congr hlookback ht hfir fun e he => ?_
    have hwin : 0 ≤ e.daysTo t ∧ e.daysTo t ≤ n := by
      rcases he with rfl | he
      · exact ⟨(Int.sub_self _).ge, (Int.sub_self _).le.trans hn⟩
      · have hdays := daysTo_of_mem_earlier he
        omega
    rw [filter_day_of_recent hwin.1 hwin.2, filter_day_of_recent hwin.1 hwin.2, hsame]
  · -- Without a day to look back at nothing is ever reported.
    have hnone : ∀ rs, verdict d t rs s = none := by
      intro rs
      have hjud := (judged_verdict hd hlookback ht hfir rs s).2
      cases hver : verdict d t rs s with
      | none => rfl
      | some a =>
        obtain ⟨_, hdev, -⟩ := (hjud.severity _).mp (congrArg (Option.map (·.severity)) hver)
        have hlen := hdev.known.trans (length_pastSums_le _ _ _)
        unfold leastHistory at hlen
        omega
    rw [hnone, hnone]

end Report

/-- **Detection is local.** Two reports that tell the same of a service, in the same order, on the day in question and
the days of the window have the same entry for it, or both have none, whatever else they tell. -/
theorem detectRows_local (hrows : Forall₂ Tells rows rs) (hrows' : Forall₂ Tells rows' rs') (s : String)
    (hsame : rs.filter (recent s t n) = rs'.filter (recent s t n)) (hd : IsNumeric d)
    (hlookback : d.lookback.int? = some n) (htarget : target.orYesterday today = .ok (.date t))
    (ht : t.ordinal ≤ Date.maxOrdinal) :
    (∀ fault, t.before n = .error fault → d.detectRows today target (.list rows) = .error fault ∧
      d.detectRows today target (.list rows') = .error fault) ∧
    ∀ first, t.before n = .ok first → ∃ as as', d.detectRows today target (.list rows) = .ok as ∧
      d.detectRows today target (.list rows') = .ok as' ∧ ∀ a, a.service = .text s → (a ∈ as ↔ a ∈ as') := by
  rw [detectRows_eq_ranked hd hlookback ht hrows htarget, detectRows_eq_ranked hd hlookback ht hrows' htarget]
  refine ⟨fun fault hfau => by rw [hfau]; exact ⟨rfl, rfl⟩, fun first hfir => ?_⟩
  rw [hfir]
  refine ⟨_, _, rfl, rfl, fun a ha => ?_⟩
  rw [mem_ranked_iff hd hlookback ht hfir ha, mem_ranked_iff hd hlookback ht hfir ha,
    verdict_of_recent hd hlookback ht hfir hsame]

/-- Without the records of another service and of the days before the window. -/
theorem detectRows_local_spike : ∃ as as',
    Detector.default.detectRows ⟨2026, 2, 16⟩ .null (.list (spike.map rowOf)) = .ok as ∧
      Detector.default.detectRows ⟨2026, 2, 16⟩ .null
        (.list ((⟨⟨2026, 2, 7⟩, "EC2", 99⟩ :: spike.filter (·.service == "EC2")).map rowOf)) = .ok as' ∧
      ∀ a, a.service = .text "EC2" → (a ∈ as ↔ a ∈ as') := by
  have hsame : spike.filter (recent "EC2" ⟨2026, 2, 15⟩ 7) =
      ((⟨⟨2026, 2, 7⟩, "EC2", 99⟩ : Expense) :: spike.filter (·.service == "EC2")).filter (recent "EC2" ⟨2026, 2, 15⟩ 7) :=
    rfl
  exact (detectRows_local (n := 7) (t := ⟨2026, 2, 15⟩) (tells_rows spike) (tells_rows _) "EC2" hsame
    ⟨rfl, rfl, rfl, rfl⟩ rfl rfl (by decide)).2 ⟨2026, 2, 8⟩ rfl

end Cost

end CloudSpend
