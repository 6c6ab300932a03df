import CloudSpend.Proofs.Cluster.Reports
import CloudSpend.Proofs.Cluster.Rightsizing
import Mathlib

/-! # Pods by namespace -/

namespace CloudSpend

open List

section Put

variable {κ α : Type} [BEq κ] {es : List (κ × α)} {key : κ}

theorem Entries.put_cases (hcomm : ∀ e ∈ es, (e.1 == key) = (key == e.1)) (a : α) :
    (∃ l1 k old l2, es = l1 ++ (k, old) :: l2 ∧ put es key a = l1 ++ (k, a) :: l2 ∧ get? es key = some old ∧
      (es.map Prod.fst).any (key == ·) = true) ∨
    put es key a = es ++ [(key, a)] ∧ get? es key = none ∧ (es.map Prod.fst).any (key == ·) = false := by
  induction es with
  | nil => exact .inr ⟨rfl, rfl, rfl⟩
  | cons e es ih =>
    have hhead := hcomm e mem_cons_self
    cases hkey : key == e.1 with
    | true =>
      refine .inl ⟨[], e.1, e.2, es, rfl, by simp [put, hhead, hkey], ?_, by simp [hkey]⟩
      rw [get?, lookup_cons, hkey]
    | false =>
      rcases ih fun e' he' => hcomm e' (mem_cons_of_mem e he') with
        ⟨l1, k, old, l2, rfl, hput, hget, hany⟩ | ⟨hput, hget, hany⟩
      · refine .inl ⟨e :: l1, k, old, l2, rfl, by simp [put, hhead, hkey, hput], ?_, by rw [map_cons, any_cons, hkey, hany]; rfl⟩
        rwa [get?, lookup_cons, hkey]
      · refine .inr ⟨by simp [put, hhead, hkey, hput], ?_, by rw [map_cons, any_cons, hkey, hany]; rfl⟩
        rwa [get?, lookup_cons, hkey]

end Put

variable {v : Value}

lemma Value.beq_comm_of_asKey {w : Value} (hv : v.asKey = .ok v) (hw : w.asKey = .ok w) : (v == w) = (w == v) := by
  have hflo : ∀ x y : Float, (x == y) = (y == x) := by
    intro x y
    have h := fun a b : Float => Float.Model.UnpackedFloat.beq_iff_ne_notANumber_and_eq a.toModel.unpack b.toModel.unpack
    exact Bool.eq_iff_iff.mpr ((h x y).trans (.trans (by grind) (h y x).symm))
  change v.same w = w.same v
  cases v <;> cases w <;> simp_all [asKey, same, sameNumber, int?, Bool.beq_comm]

lemma Value.text_beq_iff {s : String} :
    (((.text s : Value) == v) = true ↔ v = .text s) ∧ ((v == .text s) = true ↔ v = .text s) := by
  change (same _ _ = true ↔ _) ∧ (same _ _ = true ↔ _)
  cases v <;> simp [same, sameNumber, int?]
  exact eq_comm

lemma Result.exists_of_isSome {α : Type} {x : Result α} (h : x.toOption.isSome = true) : ∃ a, x = .ok a :=
  (Option.isSome_iff_exists.mp h).imp fun _ => eq_ok_of_toOption

namespace Cluster

variable {α : Type} {pods : List (Pod α)}

def firsts (vs : List Value) : List Value :=
  vs.foldl (fun found v => if found.any (fun w => v == w) then found else found ++ [v]) []

lemma firsts_concat (vs : List Value) (v : Value) :
    firsts (vs ++ [v]) = if (firsts vs).any (fun w => v == w) then firsts vs else firsts vs ++ [v] := by
  simp [firsts]

lemma eq_firsts_of_namespaces {unnamed : Value} {spaces : List Value} (h : namespaces unnamed pods = .ok spaces) :
    spaces = firsts (pods.map (·.space.getD unnamed)) := by
  induction pods using reverseRecOn generalizing spaces with
  | nil =>
    cases h
    rfl
  | append_singleton pods p ih =>
    rw [namespaces, foldlM_append] at h
    obtain ⟨before, hbef, h⟩ := Result.of_bind_ok h
    rw [map_append, map_singleton, firsts_concat, ← ih hbef]
    simp only [foldlM_cons, foldlM_nil, bind_pure] at h
    split at h
    · cases h
    · cases h
    · exact (Except.ok.inj h).symm

variable [Arithmetic α] {found : List (Value × Usage α)}
  {M : Type} {g : Usage α → M} {w : Pod α → M} {costs : List (NamespaceCost α)} {m : Metrics α}

lemma usageByNamespace_concat {p : Pod α} (h : usageByNamespace (pods ++ [p]) = .ok found) :
    ∃ before key u, usageByNamespace pods = .ok before ∧ p.space.getD "default" = key ∧ key.asKey = .ok key ∧
      ((Entries.get? before key).getD .empty).add p = .ok u ∧ found = Entries.put before key u := by
  rw [usageByNamespace, foldlM_append] at h
  obtain ⟨before, hbef, h⟩ := Result.of_bind_ok h
  simp only [foldlM_cons, foldlM_nil, bind_pure] at h
  split at h
  · cases h
  · cases h
  · next hlist hobj =>
      cases hadd : ((Entries.get? before (p.space.getD "default")).getD Usage.empty).add p with
      | error f =>
        rw [hadd] at h
        cases h
      | ok u =>
        rw [hadd] at h
        refine ⟨before, _, u, hbef, rfl, ?_, hadd, (Except.ok.inj h).symm⟩
        unfold Value.asKey
        grind

theorem usageByNamespace_spec [AddCommMonoid M] {Q : Usage α → Prop} (hemp : g .empty = 0 ∧ Q .empty)
    (hadd : ∀ p ∈ pods, ∀ u u', Q u → u.add p = .ok u' → g u' = g u + w p ∧ Q u')
    (h : usageByNamespace pods = .ok found) :
    found.map Prod.fst = firsts (pods.map (·.space.getD "default")) ∧
      (∀ e ∈ found, e.1.asKey = .ok e.1 ∧ Q e.2) ∧ (found.map (g ·.2)).sum = (pods.map w).sum := by
  induction pods using reverseRecOn generalizing found with
  | nil =>
    cases h
    exact ⟨rfl, nofun, rfl⟩
  | append_singleton pods p ih =>
    obtain ⟨before, key, u, hbef, rfl, hkey, hu, rfl⟩ := usageByNamespace_concat h
    obtain ⟨hkeys, hall, hsum⟩ := ih (fun q hq => hadd q (mem_append_left _ hq)) hbef
    have hlast := hadd p (mem_append_right _ mem_cons_self)
    rw [map_append, map_singleton, firsts_concat, map_append, sum_append, ← hkeys, ← hsum]
    rcases Entries.put_cases (fun e he => Value.beq_comm_of_asKey (hall e he).1 hkey) u with
      ⟨l1, k, old, l2, rfl, hput, hget, hany⟩ | ⟨hput, hget, hany⟩
    · rw [hget] at hu
      obtain ⟨hg, hQ⟩ := hlast old u (hall (k, old) (by simp)).2 hu
      rw [hput, hany]
      simp only [forall_mem_append, forall_mem_cons] at hall
      grind
    all_goals grind

lemma pairwise_firsts (vs : List Value) : (firsts vs).Pairwise fun w v => (v == w) = false := by
  induction vs using reverseRecOn with
  | nil => exact .nil
  | append_singleton vs v ih =>
    rw [firsts_concat]
    grind

def labels (pods : List (Pod α)) : List Value := firsts (pods.filterMap (·.space))

omit [Arithmetic α] in
theorem firsts_perm (name : String) (pods : List (Pod α)) :
    (firsts (pods.map (·.space.getD (.text name)))).Perm
      (if pods.any (·.space.isNone) && !(labels pods).any (fun w => .text name == w) then .text name :: labels pods
        else labels pods) := by
  induction pods using reverseRecOn with
  | nil => exact .refl _
  | append_singleton pods p ih =>
    have hself : ((.text name : Value) == .text name) = true := Value.text_beq_iff.1.mpr rfl
    have hany := fun v : Value => ih.any_eq (f := fun w => v == w)
    rw [map_append, map_singleton, firsts_concat, any_append, hany]
    generalize firsts (pods.map _) = named at ih ⊢
    cases hspa : p.space with
    | none =>
      have hlab : labels (pods ++ [p]) = labels pods := by simp [labels, hspa]
      have hnew := (perm_append_singleton (.text name) named).trans (ih.cons (.text name))
      grind
    | some v =>
      have hlab : labels (pods ++ [p]) = firsts (pods.filterMap (·.space) ++ [v]) := by simp [labels, hspa]
      rw [hlab, firsts_concat, ← labels]
      have hnew := ih.append_right [v]
      by_cases hv : v = .text name
      · have hlast : named.Perm (.text name :: labels pods) → named.Perm (labels pods ++ [.text name]) :=
          fun h => h.trans (perm_append_singleton _ _).symm
        grind
      · have hne : (v == .text name) = false ∧ ((.text name : Value) == v) = false := by
          simp only [← Bool.not_eq_true, Value.text_beq_iff.1, Value.text_beq_iff.2, hv, not_false_eq_true, and_self]
        grind

lemma any_firsts_iff (name : String) (vs : List Value) :
    (firsts vs).any (fun w => .text name == w) = true ↔ .text name ∈ vs := by
  induction vs using reverseRecOn with
  | nil => simp [firsts]
  | append_singleton vs v ih =>
    rw [firsts_concat]
    split
    · grind
    · rw [any_append, Bool.or_eq_true, ih, mem_append, any_cons, any_nil, Bool.or_false, Value.text_beq_iff.1,
        mem_singleton, eq_comm]

def Ambiguous (pods : List (Pod α)) : Prop :=
  (∃ p ∈ pods, p.space = none) ∧
    ¬ ((∃ p ∈ pods, p.space = some (.text "")) ↔ ∃ p ∈ pods, p.space = some (.text "default"))

omit [Arithmetic α] in
lemma length_firsts_eq_iff (pods : List (Pod α)) : (firsts (pods.map (·.space.getD ""))).length =
    (firsts (pods.map (·.space.getD "default"))).length ↔ ¬ Ambiguous pods := by
  have hused : ∀ name, (labels pods).any (fun w => .text name == w) = true ↔ ∃ p ∈ pods, p.space = some (.text name) :=
    fun name => (any_firsts_iff name _).trans mem_filterMap
  have hnone : pods.any (·.space.isNone) = true ↔ ∃ p ∈ pods, p.space = none := by simp
  rw [(firsts_perm "" pods).length_eq, (firsts_perm "default" pods).length_eq, Ambiguous, ← hused, ← hused, ← hnone]
  grind

lemma told_of_ofUsage {bill cpu memory : α} {space : Value} {u : Usage α} {c : NamespaceCost α}
    (h : NamespaceCost.ofUsage bill cpu memory space u = .ok c) : c.space = space ∧ c.usage = u := by
  simp only [NamespaceCost.ofUsage, Result.bind_eq_ok] at h
  obtain ⟨_, -, _, -, _, -, _, -, _, -, _, -, _, -, _, -, _, -, h⟩ := h
  cases h
  exact ⟨rfl, rfl⟩

lemma sum_of_namespaceCosts [AddCommMonoid M] {Q : Usage α → Prop}
    {f : NamespaceCost α → M} (h : namespaceCosts m = .ok costs) (hemp : g .empty = 0 ∧ Q .empty)
    (hadd : ∀ p ∈ m.pods, ∀ u u', Q u → u.add p = .ok u' → g u' = g u + w p ∧ Q u') {P : NamespaceCost α → Prop}
    (hf : ∀ {bill cpu memory space u c}, m.bill = .ok bill → m.cpu = .ok cpu → m.memory = .ok memory →
      NamespaceCost.ofUsage bill cpu memory space u = .ok c → Q u → f c = g u ∧ P c) :
    (costs.map f).sum = (m.pods.map w).sum ∧ (∀ c ∈ costs, P c) ∧
      (costs.map (·.space)).Pairwise (fun v w => (v == w) = false) ∧
      costs.length = (firsts (m.pods.map (·.space.getD "default"))).length := by
  obtain ⟨cs, hcs, h⟩ := Result.of_bind_ok h
  cases h
  obtain ⟨bill, hbill, hcs⟩ := Result.of_bind_ok hcs
  obtain ⟨cpu, hcpu, hcs⟩ := Result.of_bind_ok hcs
  obtain ⟨memory, hmem, hcs⟩ := Result.of_bind_ok hcs
  obtain ⟨found, hfou, hcs⟩ := Result.of_bind_ok hcs
  obtain ⟨hkeys, hQ, hsum⟩ := usageByNamespace_spec hemp hadd (behind_eq_ok hfou)
  have hall := ((forall₂_and_left _ _).mpr ⟨hQ, Billing.forall₂_of_mapM hcs⟩).imp fun e c hc =>
    have htold := hf hbill hcpu hmem hc.2 hc.1.2
    And.intro htold.2 (And.intro htold.1 (told_of_ofUsage hc.2).1)
  have hperm := Arithmetic.descending_perm (·.cost) cs
  obtain ⟨hP, htold⟩ := (forall₂_and_left cs found).mp hall.flip
  have hcos : cs.map f = found.map (g ·.2) :=
    forall₂_eq_eq_eq ▸ forall₂_map_left_iff.mpr (forall₂_map_right_iff.mpr (htold.imp fun _ _ h => h.1))
  have hspa : cs.map (·.space) = found.map Prod.fst :=
    forall₂_eq_eq_eq ▸ forall₂_map_left_iff.mpr (forall₂_map_right_iff.mpr (htold.imp fun _ _ h => h.2))
  have hdis : (cs.map (·.space)).Pairwise fun v w => (v == w) = false ∧ (w == v) = false := by
    rw [hspa, hkeys]
    refine (pairwise_firsts _).imp_of_mem fun hv hw h => ?_
    rw [← hkeys] at hv hw
    obtain ⟨e, he, rfl⟩ := mem_map.mp hv
    obtain ⟨e', he', rfl⟩ := mem_map.mp hw
    exact ⟨(Value.beq_comm_of_asKey (hQ e he).1 (hQ e' he').1).trans h, h⟩
  have hsor := ((hperm.map (·.space)).pairwise_iff fun h => And.symm h).mpr hdis
  exact ⟨by rw [(hperm.map _).sum_eq, hcos, hsum], fun c hc => hP c (hperm.mem_iff.mp hc), hsor.imp And.left,
    by rw [hperm.length_eq, ← hkeys, ← hspa, length_map]⟩

lemma counts_of_ofMetrics {s : Summary α} (h : Summary.ofMetrics m = .ok s) :
    s.podCount = m.pods.length ∧ s.namespaceCount = (firsts (m.pods.map (·.space.getD ""))).length := by
  simp only [Summary.ofMetrics, Result.bind_eq_ok] at h
  obtain ⟨_, -, _, -, _, -, _, -, _, -, _, -, _, -, _, -, spaces, hspa, _, -, _, -, _, -, _, -, h⟩ := h
  cases h
  exact ⟨rfl, congrArg length (eq_firsts_of_namespaces hspa)⟩

lemma counts_of_namespaceCosts (h : namespaceCosts m = .ok costs) :
    (costs.map (·.usage.podCount)).sum = m.pods.length ∧
      costs.length = (firsts (m.pods.map (·.space.getD "default"))).length := by
  have hadd : ∀ p ∈ m.pods, ∀ u u' : Usage α, True → u.add p = .ok u' → u'.podCount = u.podCount + 1 ∧ True := by
    intro p _ u u' _ h
    simp only [Usage.add, Result.bind_eq_ok] at h
    obtain ⟨_, -, _, -, _, -, _, -, _, -, _, -, h⟩ := h
    cases h
    exact ⟨rfl, trivial⟩
  obtain ⟨hsum, -, -, hlen⟩ := sum_of_namespaceCosts h ⟨rfl, trivial⟩ hadd fun _ _ _ hc _ =>
    ⟨congrArg Usage.podCount (told_of_ofUsage hc).2, trivial⟩
  exact ⟨by simpa using hsum, hlen⟩

lemma sum_map_int {β : Type} (f : β → Int) (xs : List β) :
    Arithmetic.sum (xs.map fun x => Value.int (f x)) = .ok (.int (xs.map f).sum) := by
  have hfold : ∀ start : Int, (xs.map fun x => Value.int (f x)).foldlM Arithmetic.add (.int start) =
      .ok (.int (start + (xs.map f).sum)) := by
    induction xs with
    | nil => simp [pure, Except.pure]
    | cons x xs ih =>
      intro start
      rw [map_cons, foldlM_cons, map_cons, sum_cons, ← Int.add_assoc]
      exact ih (start + f x)
  exact (hfold 0).trans (by rw [Int.zero_add])

lemma sum_ints (ns : List Nat) : Arithmetic.sum (ns.map fun n : Nat => Value.int n) = .ok (.int ns.sum) := by
  rw [sum_map_int, ← Nat.cast_list_sum]

/-- However many reports have arrived, the overview and the costs of a cluster's namespaces tell of the same pods; and
of as many namespaces unless it is ambiguous where the pods without one belong. -/
theorem namespace_views_agree_iff (ps : List Push) {entries : List Value} (h : (afterPushes ps).summaries = .ok entries) :
    Forall₂ (fun (c : String) entry => entry.field "cluster_id" = .ok (.text c) ∧
      ∀ rows, (afterPushes ps).namespaceCosts c = .ok rows →
        (∃ counts, rows.mapM (·.field "pod_count") = .ok counts ∧ Arithmetic.sum counts = entry.field "pod_count") ∧
        (entry.field "namespace_count" = .ok (.int rows.length) ↔ ¬ Ambiguous ((afterPushes ps).podsOf c)))
      (reporters ps) entries := by
  rw [afterPushes_eq, summaries_named] at h
  have hall := (forall₂_and_left _ _).mpr ⟨fun c hc => hc, Billing.forall₂_of_mapM h⟩
  refine hall.imp fun c entry hent => ?_
  obtain ⟨hc, hent⟩ := hent
  obtain ⟨s, hs, hent⟩ := Result.of_bind_ok hent
  cases hent
  refine ⟨rfl, fun rows hrows => ?_⟩
  have hget : Entries.get? (afterPushes ps) (.text c) = some (keptOf ps c) := by
    rw [afterPushes_eq, get?_named, if_pos hc]
  unfold Store.namespaceCosts at hrows
  unfold Store.podsOf
  rw [hget] at hrows ⊢
  obtain ⟨costs, hcos, hrows⟩ := Result.of_bind_ok hrows
  cases hrows
  obtain ⟨hsum, hlen⟩ := counts_of_namespaceCosts hcos
  obtain ⟨hpods, hspa⟩ := counts_of_ofMetrics hs
  refine ⟨⟨(costs.map (·.usage.podCount)).map fun n : Nat => Value.int n, ?_, ?_⟩, ?_⟩
  · have hfie : ∀ costs : List (NamespaceCost Value), (costs.map NamespaceCost.toValue).mapM (·.field "pod_count") =
        .ok ((costs.map (·.usage.podCount)).map fun n : Nat => Value.int n) := by
      intro costs
      induction costs with
      | nil => rfl
      | cons c costs ih =>
        rw [map_cons, mapM_cons, ih]
        rfl
    exact hfie costs
  · rw [sum_ints, hsum, ← hpods]
    rfl
  · have hcou : ∀ n : Nat, (Except.ok (.int s.namespaceCount) : Result Value) = .ok (.int n) ↔ s.namespaceCount = n := by
      simp
    rw [length_map, hlen, ← length_firsts_eq_iff, Option.getD_some, ← hspa]
    exact hcou _

def mixedReport : Push :=
  ⟨"c", [("pods", .list [.object [("name", "a")], .object [("name", "b"), ("namespace", "default")]])], default⟩

lemma told_of_mixed :
    ((afterPushes [mixedReport]).summaries.toOption.map (·.map fun e => (e.field "namespace_count").toOption.bind Value.int?)) =
      some [some 2] ∧
    ((afterPushes [mixedReport]).namespaceCosts "c").toOption.map List.length = some 1 := by
  decide +kernel

theorem namespace_views_agree_of_mixed : ∃ entries, (afterPushes [mixedReport]).summaries = .ok entries ∧
    Forall₂ (fun (c : String) entry => entry.field "cluster_id" = .ok (.text c) ∧
      ∀ rows, (afterPushes [mixedReport]).namespaceCosts c = .ok rows → (entry.field "namespace_count" =
        .ok (.int rows.length) ↔ ¬ Ambiguous ((afterPushes [mixedReport]).podsOf c))) ["c"] entries := by
  obtain ⟨entries, hent, -⟩ := Option.map_eq_some_iff.mp told_of_mixed.1
  have hlist := Result.eq_ok_of_toOption hent
  exact ⟨entries, hlist, (namespace_views_agree_iff _ hlist).imp fun _ _ h => ⟨h.1, fun rows hrows => (h.2 rows hrows).2⟩⟩

/-- Of that cluster the overview tells two namespaces, but there are costs of one. -/
theorem namespace_views_differ_of_mixed :
    ((afterPushes [mixedReport]).summaries.toOption.map (·.map fun e => (e.field "namespace_count").toOption.bind Value.int?)) =
      some [some 2] ∧
    ((afterPushes [mixedReport]).namespaceCosts "c").toOption.map List.length = some 1 :=
  told_of_mixed

end Cluster

end CloudSpend
