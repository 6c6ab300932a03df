import CloudSpend.Proofs.Cluster.Namespaces
import CloudSpend.Proofs.Cost.Reconciliation

/-! # Shares of the bill -/

namespace CloudSpend.Cluster

open Cost List Result

def perUnit (whole : Rat) : Rat := if 0 < whole then whole⁻¹ else 0

variable {part whole : Rat}

lemma perUnit_nonneg (whole : Rat) : 0 ≤ perUnit whole := by
  unfold perUnit
  split
  · next h => exact inv_nonneg.mpr h.le
  · exact le_rfl

lemma mul_perUnit_le_one (h : part ≤ whole) : part * perUnit whole ≤ 1 := by
  unfold perUnit
  split
  · next hwho => exact (div_eq_mul_inv part whole).symm.trans_le ((div_le_one hwho).mpr h)
  · norm_num

lemma share_eq_ok (part whole : Rat) : share part whole = .ok (part * perUnit whole) := by
  unfold share perUnit
  rw [gt_eq_ok, zero_eq]
  by_cases h : 0 < whole
  · simp only [h, decide_true, if_pos, ← div_eq_mul_inv, ← div_eq_ok part whole h.ne']
    rfl
  · simp only [h, decide_false, if_neg, not_false_eq_true, mul_zero]
    rfl

lemma percent_eq_ok (part whole : Rat) : percent part whole = .ok (part * perUnit whole * 100) := by
  unfold percent perUnit
  rw [gt_eq_ok, zero_eq]
  by_cases h : 0 < whole
  · simp only [h, decide_true, if_pos, ← div_eq_mul_inv, div_eq_ok part whole h.ne', bind, Except.bind]
    rfl
  · simp only [h, decide_false, if_neg, not_false_eq_true, mul_zero, zero_mul]
    rfl

lemma midpoint_eq_ok (x y : Rat) : midpoint x y = .ok ((x + y) / 2) :=
  div_eq_ok (x + y) ((2 : Int) : Rat) (by norm_num)

lemma idleCost_eq_ok (bill part : Rat) : idleCost bill (part * 100) = .ok (bill / 2 * (1 - part)) := by
  unfold idleCost
  have hdiv : Arithmetic.div (part * 100) (Arithmetic.ofInt 100) = .ok part :=
    (div_eq_ok _ ((100 : Int) : Rat) (by norm_num)).trans (by norm_num)
  rw [hdiv]
  change Except.ok (bill * (1 - part) * mkRat 5 10) = _
  rw [Rat.mkRat_eq_div]
  norm_num
  ring

lemma priceOf_pos {machine : Value} {price : Nat × Nat} (h : priceOf machine = .ok price) : 0 < price.1 := by
  have hall : ∀ e ∈ hourlyPrices, 0 < e.2.1 := by decide
  unfold priceOf at h
  split at h
  · cases h
  · cases h
  · next s =>
      cases hget : Entries.get? hourlyPrices s with
      | none =>
        rw [hget] at h
        cases h
        decide
      | some q =>
        rw [hget] at h
        cases h
        exact hall _ (Entries.mem_of_get? hget)
  · cases h
    decide

lemma Node.monthlyCost_pos {n : Node Rat} {c : Rat} (h : n.monthlyCost = .ok c) : 0 < c := by
  obtain ⟨⟨mantissa, places⟩, hpri, h⟩ := of_bind_ok h
  have hpos := priceOf_pos hpri
  cases h
  have hten : 0 < Numeral.tenTo places := by simp [Numeral.tenTo]
  change 0 < mkRat mantissa (Numeral.tenTo places) * 730
  rw [Rat.mkRat_eq_div]
  positivity

lemma monthlyCost_pos {nodes : List (Node Rat)} {bill : Rat} (h : monthlyCost nodes = .ok bill) :
    0 ≤ bill ∧ (nodes ≠ [] → 0 < bill) := by
  have hfold : ∀ (nodes : List (Node Rat)) (start : Rat),
      nodes.foldlM (fun total n => do Arithmetic.add total (← n.monthlyCost)) start = .ok bill →
        start ≤ bill ∧ (nodes ≠ [] → start < bill) := by
    intro nodes
    induction nodes with
    | nil =>
      intro start h
      cases h
      exact ⟨le_rfl, nofun⟩
    | cons n nodes ih =>
      intro start h
      rw [foldlM_cons] at h
      obtain ⟨next, hnext, h⟩ := of_bind_ok h
      obtain ⟨c, hc, hnext⟩ := of_bind_ok hnext
      have hpos := Node.monthlyCost_pos hc
      cases hnext
      have hrest := (ih _ h).1
      exact ⟨by linarith, fun _ => by linarith⟩
  exact hfold nodes 0 h

variable {m : Metrics Rat} {bill : Rat}

def requestCost (bill cpu memory cpuRequest memoryRequest : Rat) : Rat :=
  bill * ((cpuRequest * perUnit cpu + memoryRequest * perUnit memory) / 2)

lemma sum_requestCost (cpu memory : Rat) (pods : List (Pod Rat)) :
    (pods.map fun p => requestCost bill cpu memory p.cpuRequest p.memoryRequest).sum =
      requestCost bill cpu memory (pods.map (·.cpuRequest)).sum (pods.map (·.memoryRequest)).sum := by
  induction pods with
  | nil => simp [requestCost]
  | cons p pods ih =>
    rw [map_cons, sum_cons, ih]
    simp only [requestCost, map_cons, sum_cons]
    ring

lemma rawCost_of_ofUsage {cpu memory : Rat} {space : Value} {u : Usage Rat} {c : NamespaceCost Rat}
    (h : NamespaceCost.ofUsage bill cpu memory space u = .ok c) :
    c.rawCost = requestCost bill cpu memory u.cpuRequest u.memoryRequest ∧ c.cost = roundRat c.rawCost 2 := by
  simp only [NamespaceCost.ofUsage, bind_eq_ok, share_eq_ok, midpoint_eq_ok] at h
  obtain ⟨_, h1, _, h2, _, h3, cost, hcost, _, -, _, -, _, -, _, hrou, _, -, h⟩ := h
  cases h1
  cases h2
  cases h3
  cases hcost
  cases hrou
  cases h
  exact ⟨rfl, rfl⟩

variable {text : Rat → Result String} {cpu : Rat}

lemma saved_bounds {request suggested saved : Rat} (h : Arithmetic.larger Arithmetic.zero (request - suggested) = .ok saved)
    (hreq : 0 ≤ request) (hsug : 0 ≤ suggested) : 0 ≤ saved ∧ saved ≤ request := by
  cases h
  split
  · next hpos => exact ⟨(of_decide_eq_true hpos).le, by linarith⟩
  · exact ⟨le_rfl, hreq⟩

theorem savings_of_ofPod? {p : Pod Rat} {r : Rightsizing Rat} (h : Rightsizing.ofPod? text bill cpu p = .ok (some r))
    (hp : 0 ≤ p.cpuRequest) (hbill : 0 ≤ bill) : r.savings = roundRat r.rawSavings 2 ∧ 0 ≤ r.rawSavings ∧
      r.rawSavings ≤ p.cpuRequest * (bill * perUnit cpu) := by
  unfold Rightsizing.ofPod? at h
  split at h
  · cases h
  · simp only [bind_eq_ok] at h
    obtain ⟨cpuPart, -, memoryPart, -, wasteful, -, h⟩ := h
    split at h
    · simp only [Rightsizing.ofParts, bind_eq_ok, share_eq_ok] at h
      obtain ⟨r', ⟨_, -, n, -, _, -, _, -, left, hleft, saved, hsav, _, hsha, savings, hsvi, h⟩, hr⟩ := h
      obtain ⟨_, -, _, -, _, -, _, -, _, -, _, -, _, hrou, h⟩ := h
      have hlea : (0 : Rat) ≤ (max n leastCpu : Int) := Int.cast_nonneg (le_max_of_le_right (by decide))
      cases hleft
      obtain ⟨hnon, hle⟩ := saved_bounds hsav hp hlea
      cases hsha
      cases hsvi
      cases hrou
      cases h
      cases hr
      have hpri : 0 ≤ bill * perUnit cpu := mul_nonneg hbill (perUnit_nonneg cpu)
      exact ⟨rfl, mul_nonneg hnon hpri, mul_le_mul_of_nonneg_right hle hpri⟩
    · cases h

lemma savings_of_ofPods {pods : List (Pod Rat)} {rs : List (Rightsizing Rat)}
    (h : Rightsizing.ofPods text bill cpu pods = .ok rs) (hpods : ∀ p ∈ pods, 0 ≤ p.cpuRequest) (hbill : 0 ≤ bill) :
    (∀ r ∈ rs, r.savings = roundRat r.rawSavings 2 ∧ 0 ≤ r.rawSavings) ∧
      (rs.map (·.rawSavings)).sum ≤ (pods.map (·.cpuRequest)).sum * (bill * perUnit cpu) := by
  induction pods generalizing rs with
  | nil =>
    cases h
    simp
  | cons p pods ih =>
    obtain ⟨r?, hr, h⟩ := of_bind_ok h
    obtain ⟨rest, hrest, h⟩ := of_bind_ok h
    cases h
    obtain ⟨hnon, hsum⟩ := ih hrest fun q hq => hpods q (mem_cons_of_mem p hq)
    have hp := hpods p mem_cons_self
    rw [map_cons, sum_cons, add_mul]
    cases r? with
    | none =>
      have hcost := mul_nonneg hp (mul_nonneg hbill (perUnit_nonneg cpu))
      exact ⟨hnon, hsum.trans (le_add_of_nonneg_left hcost)⟩
    | some r =>
      obtain ⟨hrou, hr, hle⟩ := savings_of_ofPod? hr hp hbill
      grind

/-- The costs of namespaces before rounding, and what suggestions save before rounding, are no more than the bill. -/
theorem shares_le_bill (text : Rat → Result String) (hbill : m.bill = .ok bill)
    (hpods : ∀ p ∈ m.pods, 0 ≤ p.cpuRequest)
    (hcpu : (m.pods.map (·.cpuRequest)).sum ≤ (m.nodes.map (·.cpu)).sum)
    (hmemory : (m.pods.map (·.memoryRequest)).sum ≤ (m.nodes.map (·.memory)).sum) :
    (∀ costs, namespaceCosts m = .ok costs →
      (∀ c ∈ costs, c.cost = roundRat c.rawCost 2) ∧ (costs.map (·.rawCost)).sum ≤ bill) ∧
    ∀ rs, rightsizing text m = .ok rs → (∀ r ∈ rs, r.savings = roundRat r.rawSavings 2 ∧ 0 ≤ r.rawSavings) ∧
      (rs.map (·.rawSavings)).sum ≤ bill := by
  have hnon := (monthlyCost_pos (behind_eq_ok hbill)).1
  have hcap : ∀ c, m.cpu = .ok c → c = (m.nodes.map (·.cpu)).sum := fun c h =>
    Except.ok.inj ((behind_eq_ok h).symm.trans (sum_eq_ok _))
  refine ⟨fun costs hcos => ?_, fun rs hrs => ?_⟩
  · obtain ⟨hsum, hrou, -⟩ := sum_of_namespaceCosts hcos (f := (·.rawCost)) (P := fun c => c.cost = roundRat c.rawCost 2)
      (Q := fun _ => True)
      (g := fun u => requestCost bill (m.nodes.map (·.cpu)).sum (m.nodes.map (·.memory)).sum u.cpuRequest u.memoryRequest)
      (w := fun p => requestCost bill (m.nodes.map (·.cpu)).sum (m.nodes.map (·.memory)).sum p.cpuRequest p.memoryRequest)
      (by simp [requestCost, Usage.empty]) (fun p _ u u' _ h => ⟨by cases h; simp only [requestCost]; ring, trivial⟩)
      fun hb hc hm h _ => by
        cases hbill.symm.trans hb
        rw [hcap _ hc, Except.ok.inj ((behind_eq_ok hm).symm.trans (sum_eq_ok _))] at h
        exact rawCost_of_ofUsage h
    refine ⟨hrou, hsum.trans_le ?_⟩
    have hmem := mul_perUnit_le_one hmemory
    have hone := mul_perUnit_le_one hcpu
    rw [sum_requestCost, requestCost]
    nlinarith
  · obtain ⟨bill', hbill', hrs⟩ := of_bind_ok hrs
    obtain ⟨cpu, hc, hrs⟩ := of_bind_ok hrs
    obtain ⟨found, hfou, hrs⟩ := of_bind_ok hrs
    cases hrs
    cases hbill.symm.trans hbill'
    have hperm := Arithmetic.descending_perm (·.savings) found
    obtain ⟨hall, hsum⟩ := savings_of_ofPods (behind_eq_ok hfou) hpods hnon
    rw [(hperm.map _).sum_eq]
    refine ⟨fun r hr => hall r (hperm.mem_iff.mp hr), hsum.trans ?_⟩
    have hone := mul_perUnit_le_one (hcpu.trans_eq (hcap cpu hc).symm)
    nlinarith

def modestMetrics : Metrics Rat :=
  { nodes := [⟨"m5.large", 2000, 8000⟩]
    pods := [⟨"a", none, 1000, 100, 4000, 500, 0, 0⟩, ⟨"b", some "web", 500, 400, 2000, 1500, 0, 0⟩] }

lemma exists_of_modest : ∃ bill costs rs s, modestMetrics.bill = .ok bill ∧ namespaceCosts modestMetrics = .ok costs ∧
    rightsizing (fun _ => .ok "") modestMetrics = .ok rs ∧ Summary.ofMetrics modestMetrics = .ok s := by
  have hsome : modestMetrics.bill.toOption.isSome ∧ (namespaceCosts modestMetrics).toOption.isSome ∧
      (rightsizing (fun _ => .ok "") modestMetrics).toOption.isSome ∧ (Summary.ofMetrics modestMetrics).toOption.isSome := by
    decide +kernel
  obtain ⟨bill, hbill⟩ := exists_of_isSome hsome.1
  obtain ⟨costs, hcos⟩ := exists_of_isSome hsome.2.1
  obtain ⟨rs, hrs⟩ := exists_of_isSome hsome.2.2.1
  obtain ⟨s, hs⟩ := exists_of_isSome hsome.2.2.2
  exact ⟨bill, costs, rs, s, hbill, hcos, hrs, hs⟩

theorem shares_le_bill_of_modest : ∃ bill costs rs, modestMetrics.bill = .ok bill ∧
    namespaceCosts modestMetrics = .ok costs ∧ rightsizing (fun _ => .ok "") modestMetrics = .ok rs ∧
    (costs.map (·.rawCost)).sum ≤ bill ∧ (rs.map (·.rawSavings)).sum ≤ bill := by
  obtain ⟨bill, costs, rs, -, hbill, hcos, hrs, -⟩ := exists_of_modest
  obtain ⟨hcost, hsav⟩ := shares_le_bill _ hbill (by decide) (by norm_num [modestMetrics])
    (by norm_num [modestMetrics])
  exact ⟨bill, costs, rs, hbill, hcos, hrs, (hcost costs hcos).2, (hsav rs hrs).2⟩

/-- The cost of what lies idle is at most half of the bill, and no less than nothing exactly if pods use no more than
nodes offer. -/
theorem idle_cost_nonneg_iff {s : Summary Rat} (hused : ∀ p ∈ m.pods, 0 ≤ p.cpuUsage) (h : Summary.ofMetrics m = .ok s) :
    ∃ bill idle : Rat, m.bill = .ok bill ∧ s.monthlyCost = roundRat bill 2 ∧ s.idleCost = roundRat idle 2 ∧
      idle ≤ bill / 2 ∧ s.idleCost ≤ s.monthlyCost / 2 + 3 / 400 ∧
      (0 ≤ idle ↔ (0 < (m.nodes.map (·.cpu)).sum →
        (m.pods.map (·.cpuUsage)).sum ≤ (m.nodes.map (·.cpu)).sum)) := by
  simp only [Summary.ofMetrics, bind_eq_ok, percent_eq_ok] at h
  obtain ⟨cpu, hcpu, used, hsum, _, -, _, -, _, hpart, _, -, bill, hbill, idle, hidle, _, -, h⟩ := h
  obtain ⟨_, -, _, -, _, hmon, _, hrou, h⟩ := h
  cases hmon
  cases hrou
  cases hpart
  cases h
  obtain rfl := Except.ok.inj ((behind_eq_ok hcpu).symm.trans (sum_eq_ok _))
  obtain rfl := Except.ok.inj ((behind_eq_ok hsum).symm.trans (sum_eq_ok _))
  obtain ⟨hnon, hpos⟩ := monthlyCost_pos (behind_eq_ok hbill)
  rw [idleCost_eq_ok] at hidle
  cases hidle
  have hused := sum_nonneg (l := m.pods.map (·.cpuUsage)) (by simpa using hused)
  generalize (m.pods.map (·.cpuUsage)).sum = used at *
  have hpart := mul_nonneg hused (perUnit_nonneg (m.nodes.map (·.cpu)).sum)
  have hhalf : bill / 2 * (1 - used * perUnit (m.nodes.map (·.cpu)).sum) ≤ bill / 2 := by nlinarith
  refine ⟨bill, _, hbill, rfl, rfl, hhalf, ?_, ?_⟩
  · have hidle := abs_le.mp (abs_roundRat_cent_le (bill / 2 * (1 - used * perUnit (m.nodes.map (·.cpu)).sum)))
    have hmon := abs_le.mp (abs_roundRat_cent_le bill)
    linarith
  · by_cases hcap : 0 < (m.nodes.map (·.cpu)).sum
    · have hbill := hpos fun hnil => by simp [hnil] at hcap
      simp only [perUnit, hcap, if_pos, forall_const]
      rw [mul_nonneg_iff_of_pos_left (half_pos hbill), sub_nonneg, ← div_eq_mul_inv, div_le_one hcap]
    · simpa [perUnit, hcap] using div_nonneg hnon zero_le_two

theorem idle_cost_nonneg_of_modest : ∃ s bill idle, Summary.ofMetrics modestMetrics = .ok s ∧
    modestMetrics.bill = .ok bill ∧ s.idleCost = roundRat idle 2 ∧ 0 ≤ idle ∧ idle ≤ bill / 2 := by
  obtain ⟨-, -, -, s, -, -, -, hs⟩ := exists_of_modest
  obtain ⟨bill, idle, hbill, -, hidle, hhalf, -, hnon⟩ := idle_cost_nonneg_iff (by decide) hs
  exact ⟨s, bill, idle, hs, hbill, hidle, hnon.mpr fun _ => by norm_num [modestMetrics], hhalf⟩

def busyReport : Push :=
  ⟨"c", [("nodes", .list [.object [("instance_type", "m5.large"), ("allocatable_cpu_millicores", .int 1000)]]),
    ("pods", .list [.object [("cpu_usage_millicores", .int 2000)]])], default⟩

theorem idle_cost_negative_of_busy : ((afterPushes [busyReport]).summaries.toOption.map
    (·.map fun e => (e.field "idle_cost" >>= (·.lt (.int 0))).toOption)) = some [some true] := by
  decide

end CloudSpend.Cluster
