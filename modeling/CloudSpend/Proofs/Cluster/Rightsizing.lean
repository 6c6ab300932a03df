import CloudSpend.Proofs.Cluster.Sizes
import CloudSpend.Proofs.Data.Ranking
import CloudSpend.Proofs.Source.Ingest

/-! # Suggested requests -/

namespace CloudSpend.Cluster

open Numeral Result Rightsizing Value

def twice (usage : Value) : Result Int := usage.mul (.int 2) >>= toInt

def Store.podsOf (s : Store) (cluster : Value) : List (Pod Value) :=
  (Metrics.ofReport ((Entries.get? s cluster).getD [])).pods

variable {text : Value → Result String} {bill cpu cpuPart memoryPart : Value} {p : Pod Value}
  {ps : List (Pod Value)} {r : Rightsizing Value} {rs : List (Rightsizing Value)}

def amounts : List (String × (Pod Value → Value)) :=
  [("cpu_request_millicores", (·.cpuRequest)), ("cpu_usage_millicores", (·.cpuUsage)),
    ("memory_request_bytes", (·.memoryRequest)), ("memory_usage_bytes", (·.memoryUsage))]

def integer (v : Value) : Int := v.int?.getD 0

def IsSized (p : Pod Value) : Prop := ∀ q ∈ amounts, ∃ n : Nat, q.2 p = .int n ∧ n < 2 ^ 53

lemma isSized_of_all (h : (ps.all fun p => amounts.all fun q => (q.2 p).kind == .int &&
    decide (0 ≤ integer (q.2 p) ∧ integer (q.2 p) < 2 ^ 53)) = true) : ∀ p ∈ ps, IsSized p := by
  intro p hp q hq
  have hint := List.all_eq_true.mp (List.all_eq_true.mp h p hp) q hq
  cases hv : q.2 p <;> simp_all [Value.kind, integer, int?]
  exact (Int.eq_ofNat_of_zero_le hint.1).imp fun n hn => ⟨hn, by omega⟩

lemma behind_eq_ok {α : Type} {fault : Option Fault} {found : Result α} {a : α}
    (h : Metrics.behind fault found = .ok a) : found = .ok a := by
  obtain ⟨b, hb, h⟩ := of_bind_ok h
  cases fault with
  | some f => cases h
  | none =>
    cases h
    exact hb

end CloudSpend.Cluster
