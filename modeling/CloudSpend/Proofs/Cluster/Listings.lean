import CloudSpend.Proofs.Cluster.Bill

/-! # What is listed of a cluster -/

namespace CloudSpend.Cluster

open Cost List Result

def overprovisioned (p : Pod Rat) : Bool :=
  (0 < p.cpuRequest ∧ 2 * p.cpuUsage < p.cpuRequest) ∨ (0 < p.memoryRequest ∧ 2 * p.memoryUsage < p.memoryRequest)

def isListed (p : Pod Rat) : Bool := p.cpuRequest ≠ 0 ∧ overprovisioned p

structure IsFor (p : Pod Rat) (r : Rightsizing Rat) : Prop where
  pod : r.pod = p.name
  space : r.space = p.space.getD ""
  cpu : r.cpuRequest = p.cpuRequest
  memory : r.memoryRequest = p.memoryRequest

variable {text : Rat → Result String} {m : Metrics Rat} {bill : Rat}

def partOf (used request : Rat) : Rat := if 0 < request then used / request else 1

lemma usedPart_eq_ok (used request : Rat) : usedPart used request = .ok (partOf used request) := by
  unfold usedPart partOf
  rw [gt_eq_ok, zero_eq]
  by_cases h : 0 < request
  · simp only [h, decide_true, if_pos, ← div_eq_ok used request h.ne']
    rfl
  · simp only [h, decide_false, if_neg, not_false_eq_true]
    rfl

lemma partOf_lt_iff (used request : Rat) : partOf used request < 1 / 2 ↔ 0 < request ∧ 2 * used < request := by
  unfold partOf
  split
  · next h =>
      rw [div_lt_iff₀ h]
      grind
  · next h =>
      norm_num
      exact fun hpos => absurd hpos h

lemma isWasteful_eq_ok (p : Pod Rat) : isWasteful (partOf p.cpuUsage p.cpuRequest)
    (partOf p.memoryUsage p.memoryRequest) = .ok (overprovisioned p) := by
  have hhalf : (Arithmetic.ofDecimal 5 1 : Rat) = 1 / 2 := by simp [Arithmetic.ofDecimal, Rat.mkRat_eq_div, Numeral.tenTo]; norm_num
  unfold isWasteful overprovisioned
  rw [hhalf]
  simp only [← partOf_lt_iff]
  change (if decide (_ < _) = true then Except.ok true else Except.ok (decide (_ < _))) = _
  split <;> simp_all

lemma exists_ofParts (htext : ∀ x, ∃ t, text x = .ok t) (bill cpu : Rat) (p : Pod Rat) (cpuPart memoryPart : Rat) :
    ∃ r, Rightsizing.ofParts text bill cpu p cpuPart memoryPart = .ok r ∧ IsFor p r := by
  unfold Rightsizing.ofParts
  rw [share_eq_ok]
  choose t ht using htext
  simp only [ht]
  exact ⟨_, rfl, ⟨rfl, rfl, rfl, rfl⟩⟩

lemma exists_ofPod? (htext : ∀ x, ∃ t, text x = .ok t) (bill cpu : Rat) (p : Pod Rat) :
    ∃ r?, Rightsizing.ofPod? text bill cpu p = .ok r? ∧ Forall₂ IsFor ([p].filter isListed) r?.toList := by
  unfold Rightsizing.ofPod?
  by_cases hzero : p.cpuRequest = 0
  · exact ⟨none, by simp [hzero, Arithmetic.same, zero_eq, pure, Except.pure], by simp [isListed, hzero]⟩
  have hsame : (Arithmetic.same p.cpuRequest Arithmetic.zero) = false := decide_eq_false hzero
  rw [hsame, usedPart_eq_ok, usedPart_eq_ok]
  simp only [Bool.false_eq_true, if_false, bind, Except.bind, isWasteful_eq_ok]
  cases hover : overprovisioned p with
  | false => exact ⟨none, rfl, by simp [isListed, hover]⟩
  | true =>
    have hfil : [p].filter isListed = [p] := by simp [isListed, hzero, hover]
    obtain ⟨r, hr, hfor⟩ := exists_ofParts htext bill cpu p (partOf p.cpuUsage p.cpuRequest)
      (partOf p.memoryUsage p.memoryRequest)
    rw [hfil, if_pos rfl, hr]
    exact ⟨some r, rfl, .cons hfor .nil⟩

lemma exists_ofPods (htext : ∀ x, ∃ t, text x = .ok t) (bill cpu : Rat) (pods : List (Pod Rat)) :
    ∃ found, Rightsizing.ofPods text bill cpu pods = .ok found ∧ Forall₂ IsFor (pods.filter isListed) found := by
  induction pods with
  | nil => exact ⟨[], rfl, .nil⟩
  | cons p pods ih =>
    obtain ⟨r?, hr, hfor⟩ := exists_ofPod? htext bill cpu p
    obtain ⟨found, hfou, hall⟩ := ih
    have hspl : (p :: pods).filter isListed = [p].filter isListed ++ pods.filter isListed := filter_append [p] pods
    refine ⟨r?.toList ++ found, ?_, hspl ▸ rel_append hfor hall⟩
    rw [Rightsizing.ofPods, hr, hfou]
    rfl

/-- In exact arithmetic a smaller request is suggested for exactly the pods that use less than half of what they
request of a resource and request processing capacity, for each once, in descending order of what is saved and
otherwise in the order of the pods. -/
theorem rightsizing_lists_iff (hbill : m.bill = .ok bill) (hpods : m.podFault = none)
    (htext : ∀ x, ∃ t, text x = .ok t) :
    ∃ rs found, rightsizing text m = .ok rs ∧ Forall₂ IsFor (m.pods.filter isListed) found ∧ rs.Perm found ∧
      rs.Pairwise (fun a b => b.savings ≤ a.savings) ∧
      (∀ v, rs.filter (·.savings = v) = found.filter (·.savings = v)) ∧
      (rs.length = (m.pods.filter overprovisioned).length ↔
        ∀ p ∈ m.pods, overprovisioned p = true → p.cpuRequest ≠ 0) := by
  have hnod : m.nodeFault = none := by
    obtain ⟨_, -, h⟩ := of_bind_ok hbill
    cases hfau : m.nodeFault with
    | none => rfl
    | some f => simp [hfau] at h
  have hcpu : m.cpu = .ok (m.nodes.map (·.cpu)).sum := by
    rw [Metrics.cpu, sum_eq_ok, Metrics.allNodes, hnod]
    rfl
  obtain ⟨found, hfou, hall⟩ := exists_ofPods htext bill (m.nodes.map (·.cpu)).sum m.pods
  obtain ⟨hsor, hsta⟩ := Arithmetic.descending_spec (fun _ _ => rfl) (fun _ _ => rfl)
    (fun r : Rightsizing Rat => r.savings) found
  have hperm := Arithmetic.descending_perm (fun r : Rightsizing Rat => r.savings) found
  refine ⟨_, found, ?_, hall, hperm, hsor, hsta, ?_⟩
  · have hsug : m.allPods (Rightsizing.ofPods text bill (m.nodes.map (·.cpu)).sum m.pods) = .ok found := by
      rw [Metrics.allPods, hpods, hfou]
      rfl
    simp only [rightsizing, hbill, hcpu, hsug, bind, Except.bind]
    rfl
  · have hlis : m.pods.filter isListed = (m.pods.filter overprovisioned).filter (·.cpuRequest ≠ 0) := by
      rw [filter_filter]
      exact filter_congr fun p _ => by simp [isListed]
    rw [hperm.length_eq, ← hall.length_eq, hlis, length_filter_eq_length_iff]
    simp

theorem rightsizing_lists_of_modest : ∃ bill rs found, modestMetrics.bill = .ok bill ∧
    rightsizing (fun _ => .ok "") modestMetrics = .ok rs ∧
      Forall₂ IsFor (modestMetrics.pods.filter isListed) found ∧ rs.Perm found ∧
      rs.length = (modestMetrics.pods.filter overprovisioned).length := by
  obtain ⟨bill, -, -, -, hbill, -⟩ := exists_of_modest
  obtain ⟨rs, found, hrs, hall, hperm, -, -, hlen⟩ := rightsizing_lists_iff hbill rfl fun _ => ⟨"", rfl⟩
  exact ⟨bill, rs, found, hbill, hrs, hall, hperm, hlen.mpr (by simp [modestMetrics])⟩

def memoryPod : Row := [("pods", .list [.object [("name", "cache"), ("memory_request_bytes", .int 1000),
  ("memory_usage_bytes", .int 100)]])]

theorem memory_pod_not_listed : (Store.rightsizing [("c", memoryPod)] "c").toOption.map length = some 0 ∧
    overprovisioned ⟨"cache", none, 0, 0, 1000, 100, 0, 0⟩ = true := by
  decide +kernel

lemma exists_part : ∀ q ∈ amounts, ∃ part : Usage Value → Value, part .empty = .int 0 ∧
    (∀ c : NamespaceCost Value, c.toValue.field q.1 = .ok (part c.usage)) ∧
    ∀ p u u', u.add p = .ok u' → (part u).add (q.2 p) = .ok (part u') := by
  have hadd : ∀ (p : Pod Value) (u u' : Usage Value), u.add p = .ok u' →
      u.cpuRequest.add p.cpuRequest = .ok u'.cpuRequest ∧ u.cpuUsage.add p.cpuUsage = .ok u'.cpuUsage ∧
      u.memoryRequest.add p.memoryRequest = .ok u'.memoryRequest ∧
      u.memoryUsage.add p.memoryUsage = .ok u'.memoryUsage := by
    intro p u u' h
    simp only [Usage.add, bind_eq_ok] at h
    obtain ⟨_, hcpu, _, hcpu', _, -, _, hmem, _, hmem', _, -, h⟩ := h
    cases h
    exact ⟨hcpu, hcpu', hmem, hmem'⟩
  simp only [amounts, forall_mem_cons, not_mem_nil, false_imp_iff, implies_true, and_true]
  exact ⟨⟨(·.cpuRequest), rfl, fun _ => rfl, fun p u u' h => (hadd p u u' h).1⟩,
    ⟨(·.cpuUsage), rfl, fun _ => rfl, fun p u u' h => (hadd p u u' h).2.1⟩,
    ⟨(·.memoryRequest), rfl, fun _ => rfl, fun p u u' h => (hadd p u u' h).2.2.1⟩,
    ⟨(·.memoryUsage), rfl, fun _ => rfl, fun p u u' h => (hadd p u u' h).2.2.2⟩⟩

lemma sum_integers {vs : List Value} (h : ∀ v ∈ vs, ∃ n, v = .int n) :
    Arithmetic.sum vs = .ok (.int (vs.map integer).sum) := by
  have hvs : vs = vs.map fun v => .int (integer v) := by
    refine (map_id vs).symm.trans (map_congr_left fun v hv => ?_)
    obtain ⟨n, rfl⟩ := h v hv
    rfl
  rw [← sum_map_int integer vs, ← hvs]

lemma mapM_field {name : String} {f : NamespaceCost Value → Value}
    (h : ∀ c : NamespaceCost Value, c.toValue.field name = .ok (f c)) (costs : List (NamespaceCost Value)) :
    (costs.map NamespaceCost.toValue).mapM (·.field name) = .ok (costs.map f) := by
  induction costs with
  | nil => rfl
  | cons c costs ih =>
    rw [map_cons, mapM_cons, ih, h]
    rfl

lemma exists_float_of_ofUsage {bill cpu memory space : Value} {u : Usage Value} {c : NamespaceCost Value}
    (h : NamespaceCost.ofUsage bill cpu memory space u = .ok c) : ∃ x, c.cost = .float x := by
  have hdiv : ∀ {v w part : Value}, v.div w = .ok part → ∃ y, part = .float y := by
    intro v w part h
    unfold Value.div at h
    grind
  have hmul : ∀ {v w : Value} {y : Float}, v.mul (.float y) = .ok w → ∃ x, w = .float x := by
    intro v w y h
    cases v <;> simp [Value.mul, Value.pair?, Value.int?, Except.map] at h
    all_goals grind
  simp only [NamespaceCost.ofUsage, midpoint, bind_eq_ok] at h
  obtain ⟨_, -, _, -, mid, ⟨_, -, hmid⟩, cost, hcost, _, -, _, -, _, -, rounded, hrou, _, -, h⟩ := h
  cases h
  obtain ⟨y, rfl⟩ := hdiv hmid
  obtain ⟨x, rfl⟩ := hmul hcost
  obtain ⟨z, hz⟩ := Numeral.exists_roundTo?_eq x 2
  have hround : (Value.float x).round 2 = .ok (.float z) := by simp [Value.round, hz]
  exact ⟨z, Except.ok.inj (hrou.symm.trans hround)⟩

lemma exists_costs_of_namespaceCosts {m : Metrics Value} {costs : List (NamespaceCost Value)}
    (h : namespaceCosts m = .ok costs) : ∃ xs : List Float, costs.map (·.cost) = xs.map .float ∧
      ((∀ x ∈ xs, x.isNaN = false) → xs.Pairwise fun x y => y ≤ x) := by
  obtain ⟨cs, hcs, h⟩ := of_bind_ok h
  cases h
  simp only [Metrics.costs, bind_eq_ok] at hcs
  obtain ⟨_, -, _, -, _, -, _, -, hcs⟩ := hcs
  have hfloat : ∀ c ∈ cs, ∃ x, c.cost = .float x := by
    intro c hc
    obtain ⟨e, -, he⟩ := exists_of_mem_of_forall₂ (Billing.forall₂_of_mapM hcs) hc
    exact exists_float_of_ofUsage he
  choose! num hnum using hfloat
  have hperm := Arithmetic.descending_perm (·.cost) cs
  refine ⟨(Arithmetic.descending (·.cost) cs).map num, ?_, fun hnan => ?_⟩
  · rw [map_map]
    exact map_congr_left fun c hc => hnum c (hperm.mem_iff.mp hc)
  · refine pairwise_map.mpr (Arithmetic.descending_floats hnum fun c hc => ?_)
    exact hnan _ (mem_map_of_mem (hperm.mem_iff.mpr hc))

/-- The rows of namespaces have different names, and what they tell of integers adds up to what there
is in all pods. Their costs are binary numbers, in descending order unless one of them is a NaN. -/
theorem namespaces_conserved {s : Store} {cluster : Value} {rows : List Value} (h : s.namespaceCosts cluster = .ok rows)
    (hints : ∀ q ∈ amounts, ∀ p ∈ s.podsOf cluster, ∃ n, q.2 p = .int n) :
    (∃ spaces, rows.mapM (·.field "namespace") = .ok spaces ∧ spaces.Pairwise fun v w => (v == w) = false) ∧
    (∃ counts, rows.mapM (·.field "pod_count") = .ok counts ∧
      Arithmetic.sum counts = .ok (.int (s.podsOf cluster).length)) ∧
    (∀ q ∈ amounts, ∃ parts, rows.mapM (·.field q.1) = .ok parts ∧
      Arithmetic.sum parts = Arithmetic.sum ((s.podsOf cluster).map q.2)) ∧
    ∃ costs : List Float, rows.mapM (·.field "estimated_monthly_cost") = .ok (costs.map .float) ∧
      ((∀ x ∈ costs, x.isNaN = false) → costs.Pairwise fun x y => y ≤ x) := by
  unfold Store.namespaceCosts at h
  unfold Store.podsOf at hints ⊢
  cases hrep : Entries.get? s cluster with
  | none =>
    rw [hrep] at h
    cases h
    exact ⟨⟨[], rfl, .nil⟩, ⟨[], rfl, rfl⟩, fun q _ => ⟨[], rfl, rfl⟩, [], rfl, fun _ => .nil⟩
  | some report =>
    rw [hrep] at h hints
    obtain ⟨costs, hcos, h⟩ := of_bind_ok h
    cases h
    obtain ⟨hcou, -⟩ := counts_of_namespaceCosts hcos
    obtain ⟨xs, hxs, hsor⟩ := exists_costs_of_namespaceCosts hcos
    refine ⟨⟨_, mapM_field (f := (·.space)) (fun _ => rfl) costs, ?_⟩,
      ⟨_, mapM_field (f := fun c => .int c.usage.podCount) (fun _ => rfl) costs, ?_⟩, fun q hq => ?_,
      xs, hxs ▸ mapM_field (f := (·.cost)) (fun _ => rfl) costs, hsor⟩
    · exact (sum_of_namespaceCosts (M := Nat) (g := fun _ => 0) (w := fun _ => 0) (Q := fun _ => True) (f := fun _ => 0)
        (P := fun _ => True) hcos ⟨rfl, trivial⟩ (fun _ _ _ _ _ _ => ⟨rfl, trivial⟩) fun _ _ _ _ _ => ⟨rfl, trivial⟩).2.2.1
    · have hsum := sum_ints (costs.map (·.usage.podCount))
      rwa [map_map, hcou] at hsum
    · obtain ⟨part, hemp, hfie, hadd⟩ := exists_part q hq
      obtain ⟨hsum, hall, -⟩ := sum_of_namespaceCosts (g := fun u => integer (part u)) (w := fun p => integer (q.2 p))
        (f := fun c => integer (part c.usage)) (Q := fun u => ∃ n, part u = .int n)
        (P := fun c => ∃ n, part c.usage = .int n) hcos ⟨by rw [hemp]; rfl, 0, hemp⟩
        (fun p hp u u' hu h => by
          obtain ⟨k, hk⟩ := hints q hq p hp
          obtain ⟨n, hn⟩ := hu
          have hnext := hadd p u u' h
          rw [hk, hn] at hnext
          rw [hk, hn, ← Except.ok.inj hnext]
          exact ⟨rfl, _, rfl⟩)
        fun _ _ _ hc hu => by rw [(told_of_ofUsage hc).2]; exact ⟨rfl, hu⟩
      refine ⟨_, mapM_field (f := fun c => part c.usage) hfie costs, ?_⟩
      rw [sum_integers (by simpa using hall), sum_integers (by simpa using hints q hq), map_map, map_map]
      exact congrArg (fun n : Int => Except.ok (Value.int n)) hsum

def twoSpaces : Row := [
  ("nodes", .list [.object [("instance_type", "m5.large"), ("allocatable_cpu_millicores", .int 1000)]]),
  ("pods", .list [.object [("cpu_request_millicores", .int 100), ("cpu_usage_millicores", .int 5)],
    .object [("namespace", "web"), ("cpu_request_millicores", .int 300), ("cpu_usage_millicores", .int 3)],
    .object [("namespace", "default"), ("memory_usage_bytes", .int 7)]])]

def isNumeral : Value → Bool
  | .float x => !x.isNaN
  | _ => false

theorem namespaces_conserved_of_two : ∃ rows, Store.namespaceCosts [("c", twoSpaces)] "c" = .ok rows ∧
    rows.length = 2 ∧
    (∃ parts, rows.mapM (·.field "cpu_usage_millicores") = .ok parts ∧ Arithmetic.sum parts = .ok (.int 8)) ∧
    ∃ costs : List Float, rows.mapM (·.field "estimated_monthly_cost") = .ok (costs.map .float) ∧
      costs.Pairwise fun x y => y ≤ x := by
  have hrun : (Metrics.ofReport twoSpaces).costs.toOption.map (fun cs =>
      (cs.length, cs.all fun c => isNumeral c.cost)) = some (2, true) := by decide +kernel
  obtain ⟨cs, hcs, htold⟩ := Option.map_eq_some_iff.mp hrun
  obtain ⟨hlen, hnum⟩ := Prod.mk.inj htold
  have hperm := Arithmetic.descending_perm (·.cost) cs
  have hok : Store.namespaceCosts [("c", twoSpaces)] "c" =
      .ok ((Arithmetic.descending (·.cost) cs).map NamespaceCost.toValue) := by
    change (namespaceCosts (Metrics.ofReport twoSpaces) >>= fun costs => .ok (costs.map NamespaceCost.toValue)) = _
    rw [namespaceCosts, eq_ok_of_toOption hcs]
    rfl
  have hints : ∀ q ∈ amounts, ∀ p ∈ Store.podsOf [("c", twoSpaces)] "c", ∃ n, q.2 p = .int n := fun q hq p hp =>
    (isSized_of_all (by decide +kernel) p hp q hq).elim fun n hn => ⟨n, hn.1⟩
  obtain ⟨-, -, hsum, costs, hcosts, hsor⟩ := namespaces_conserved hok hints
  refine ⟨_, hok, by simp [hperm.length_eq, hlen], hsum _ (mem_cons_of_mem _ mem_cons_self), costs, hcosts, hsor ?_⟩
  rw [mapM_field (f := (·.cost)) (fun _ => rfl)] at hcosts
  intro x hx
  have hmem : Value.float x ∈ (Arithmetic.descending (·.cost) cs).map (·.cost) :=
    Except.ok.inj hcosts ▸ mem_map_of_mem hx
  obtain ⟨c, hc, hcx⟩ := mem_map.mp hmem
  have hc := all_eq_true.mp hnum c (hperm.mem_iff.mp hc)
  simpa [hcx, isNumeral] using hc

end CloudSpend.Cluster
