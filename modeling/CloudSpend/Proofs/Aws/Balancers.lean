import CloudSpend.Aws.Waste
import CloudSpend.Proofs.Source.StoredOnce

/-! # Idle load balancers -/

namespace CloudSpend.Aws.Waste

open Run List

structure Group where
  arn : String
  states : List String

structure Balancer where
  arn : String
  name : String
  type : String
  dns : String
  groups : List Group

def Group.toValue (g : Group) : Value := .object [("TargetGroupArn", .text g.arn)]

def Group.health (g : Group) : Value := .object [("TargetHealthDescriptions",
  .list (g.states.map fun s => .object [("TargetHealth", .object [("State", .text s)])]))]

namespace Balancer

def toValue (b : Balancer) : Value := .object [("LoadBalancerArn", .text b.arn), ("LoadBalancerName", .text b.name),
  ("Type", .text b.type), ("DNSName", .text b.dns)]

def isUsed (b : Balancer) : Bool := b.groups.any fun g => !g.states.isEmpty

def isHealthy (b : Balancer) : Bool := b.groups.any fun g => g.states.contains "healthy"

lemma isUsed_of_isHealthy {b : Balancer} (h : b.isHealthy = true) : b.isUsed = true := by
  obtain ⟨g, hg, hhea⟩ := any_eq_true.mp h
  refine any_eq_true.mpr ⟨g, hg, ?_⟩
  cases hsta : g.states with
  | nil => simp [hsta] at hhea
  | cons s ss => rfl

end Balancer

structure Serves (region : Value) (bs : List Balancer) (o : Outside) : Prop where
  balancers : ∀ log, o.aws log (.method "elbv2" "describe_load_balancers" region false []) =
    .ok (.object [("LoadBalancers", .list (bs.map Balancer.toValue))])
  groups : ∀ b ∈ bs, ∀ log, o.aws log (.method "elbv2" "describe_target_groups" region false
    [("LoadBalancerArn", .text b.arn)]) = .ok (.object [("TargetGroups", .list (b.groups.map Group.toValue))])
  health : ∀ b ∈ bs, ∀ g ∈ b.groups, ∀ log, o.aws log (.method "elbv2" "describe_target_health" region false
    [("TargetGroupArn", .text g.arn)]) = .ok g.health

def Reports (region : Value) (bs : List Balancer) (found : List Finding) : Prop :=
  Forall₂ (fun b f => idleBalancer region (.text b.name) b.toValue = .ok f) bs found

variable {region : Value} {bs : List Balancer} {w : World}

lemma yields_hasTargets {gs : List Group} (h : ∀ g ∈ gs, ∀ log, w.outside.aws log (.method "elbv2"
    "describe_target_health" region false [("TargetGroupArn", .text g.arn)]) = .ok g.health) :
    Yields w (hasTargets region (gs.map Group.toValue)) (.ok (gs.any fun g => !g.states.isEmpty)) := by
  induction gs with
  | nil => exact yields_pure false
  | cons g gs ih =>
    rw [map_cons, hasTargets, any_cons]
    refine .bind_ok (yields_liftM (.ok (Value.text g.arn))) (.bind_ok (yields_callAws (h g mem_cons_self)) ?_)
    refine .bind_ok (yields_liftM (.ok (Value.list _))) ?_
    cases hsta : g.states with
    | nil => exact ih fun g hg => h g (mem_cons_of_mem _ hg)
    | cons s ss => exact yields_pure true

lemma exists_idleBalancer (region : Value) (b : Balancer) :
    ∃ f, idleBalancer region (.text b.name) b.toValue = .ok f := ⟨_, rfl⟩

lemma exists_yields_idleBalancers (h : Serves region bs w.outside) :
    ∃ found, Yields w (idleBalancers region) (.ok found) ∧ Reports region (bs.filter fun b => !b.isUsed) found := by
  choose find hfind using exists_idleBalancer region
  refine ⟨(bs.map fun b => if b.isUsed then none else some (find b)).filterMap id, ?_, ?_⟩
  · have hrep := (yields_callAws h.balancers).orRefused (.object [])
    refine .bind_ok hrep (.bind_ok (yields_liftM (.ok (bs.map Balancer.toValue))) (.bind_ok ?_ (yields_pure _)))
    rw [mapM_map]
    refine .mapM_ok fun b hb => .bind_ok (yields_liftM (.ok (Value.text b.arn))) ?_
    refine .bind_ok (yields_liftM (.ok (Value.text b.name))) (Yields.orRefused (r := .ok _) ?_ none)
    refine .bind_ok (yields_callAws (h.groups b hb)) (.bind_ok (yields_liftM (.ok (b.groups.map Group.toValue))) ?_)
    refine .bind_ok (yields_hasTargets (h.health b hb)) ?_
    change Yields w (if b.isUsed = true then _ else _) _
    split
    · exact yields_pure none
    · exact .bind_ok (hfind b ▸ yields_liftM _) (yields_pure _)
  · clear h
    induction bs with
    | nil => exact .nil
    | cons b bs ih =>
      cases hused : b.isUsed with
      | true => simpa [hused] using ih
      | false => simpa [hused, Reports] using And.intro (hfind b) ih

/-- **Registered is not healthy.** The load balancers that are reported are those without a registered target, and
these are the ones without a healthy target exactly if none has registered targets only that are not healthy. -/
theorem idleBalancers_iff (w : World) (h : Serves region bs w.outside) :
    ∃ found w', exec (idleBalancers region) w = (.ok found, w') ∧
      Reports region (bs.filter fun b => !b.isUsed) found ∧
      (Reports region (bs.filter fun b => !b.isHealthy) found ↔ ∀ b ∈ bs, b.isUsed = true → b.isHealthy = true) := by
  obtain ⟨found, hyie, hrep⟩ := exists_yields_idleBalancers h
  obtain ⟨w', hexec, -⟩ := hyie w rfl
  refine ⟨found, w', hexec, hrep, fun hcla b hb hused => ?_, fun hall => ?_⟩
  · have hsub : (bs.filter fun b => !b.isUsed) <+ bs.filter fun b => !b.isHealthy := by
      refine monotone_filter_right bs fun b hb => ?_
      simp only [Bool.not_eq_true', ← Bool.not_eq_true] at hb ⊢
      exact fun hhea => hb (Balancer.isUsed_of_isHealthy hhea)
    have hsame := hsub.eq_of_length (hrep.length_eq.trans hcla.length_eq.symm)
    by_contra hill
    have hmem : b ∈ bs.filter fun b => !b.isUsed := hsame ▸ mem_filter.mpr ⟨hb, by simpa using hill⟩
    simp [hused] at hmem
  · have hsame : (bs.filter fun b => !b.isUsed) = bs.filter fun b => !b.isHealthy := by
      refine filter_congr fun b hb => congrArg not (Bool.eq_iff_iff.mpr ⟨hall b hb, Balancer.isUsed_of_isHealthy⟩)
    exact hsame ▸ hrep

def tellingOf (b : Balancer) : AwsCall → Value
  | .method _ "describe_load_balancers" _ _ _ => .object [("LoadBalancers", .list [b.toValue])]
  | .method _ "describe_target_groups" _ _ _ => .object [("TargetGroups", .list (b.groups.map Group.toValue))]
  | _ => ((b.groups.map Group.health).head?).getD .null

def servingWorld (b : Balancer) : World :=
  { Source.worldWith [] with outside := { (Source.worldWith []).outside with aws := fun _ c => .ok (tellingOf b c) } }

def failingBalancer : Balancer := ⟨"b", "web", "application", "web.example", [⟨"g", ["unhealthy"]⟩]⟩

lemma serves_failing : Serves "r" [failingBalancer] (servingWorld failingBalancer).outside where
  balancers _ := rfl
  groups b hb _ := by
    rw [mem_singleton.mp hb]
    rfl
  health b hb g hg _ := by
    rw [mem_singleton.mp hb] at hg
    rw [mem_singleton.mp hg]
    rfl

theorem idleBalancers_iff_failing : ∃ found w', exec (idleBalancers "r") (servingWorld failingBalancer) = (.ok found, w') ∧
    found = [] ∧ ¬Reports "r" ([failingBalancer].filter fun b => !b.isHealthy) found := by
  obtain ⟨found, w', hexec, hrep, hiff⟩ := idleBalancers_iff _ serves_failing
  refine ⟨found, w', hexec, ?_, fun h => ?_⟩
  · cases hrep
    rfl
  · exact absurd (hiff.mp h _ mem_cons_self rfl) (by decide)

theorem failing_balancer_not_reported : failingBalancer.isHealthy = false ∧
    (exec (idleBalancers "r") (servingWorld failingBalancer)).1.toOption.map (·.length) = some 0 := by
  exact ⟨by decide, by decide⟩

end CloudSpend.Aws.Waste
