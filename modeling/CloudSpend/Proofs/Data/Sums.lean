import CloudSpend.Data.Arithmetic
import CloudSpend.Proofs.Data.Entries

/-! # Sums by key -/

namespace CloudSpend

open List Arithmetic

variable {ρ ι κ α β : Type}

structure Adds [Add β] [OfNat β 0] [Arithmetic α] (start : α) (number : β → α) : Prop where
  first : ∀ x, add start (number x) = .ok (number (0 + x))
  next : ∀ x y, add (number x) (number y) = .ok (number (x + y))

variable [DecidableEq ι] [Add β] [OfNat β 0] (key : ρ → ι) (amount : ρ → β)

def plainSum (xs : List β) : β := xs.foldl (· + ·) 0

def sumOn (rs : List ρ) (i : ι) : β := plainSum ((rs.filter (key · = i)).map amount)

def sumsBy (rs : List ρ) : List (ι × β) := (rs.map key).eraseDups.map fun i => (i, sumOn key amount rs i)

lemma map_sumsBy (number : β → α) (name : ι → κ) (rs : List ρ) : (sumsBy key amount rs).map (Prod.map name number) =
    Entries.tabulate name (rs.map key).eraseDups fun i => number (sumOn key amount rs i) := by
  simp [sumsBy, Entries.tabulate]

variable [BEq κ] [Arithmetic α] {start : α} {number : β → α} {name : ι → κ}
  (hadd : Adds start number) (hname : ∀ i j, (name i == name j) = decide (i = j))

include hadd hname

lemma accumulate_sumsBy (rs : List ρ) (r : ρ) :
    accumulate start ((sumsBy key amount rs).map (Prod.map name number)) (name (key r)) (number (amount r)) =
      .ok ((sumsBy key amount (rs ++ [r])).map (Prod.map name number)) := by
  have hsum : add ((Entries.get? ((sumsBy key amount rs).map (Prod.map name number)) (name (key r))).getD start)
      (number (amount r)) = .ok (number (sumOn key amount rs (key r) + amount r)) := by
    rw [map_sumsBy, Entries.get?_tabulate hname]
    split
    · exact hadd.next _ _
    next hnew =>
      have hnone : rs.filter (key · = key r) = [] := by
        simp only [filter_eq_nil_iff, decide_eq_true_eq]
        exact fun r' hr' heq => hnew (mem_eraseDups.mpr (heq ▸ mem_map_of_mem hr'))
      rw [sumOn, hnone]
      exact hadd.first _
  have hsums : (fun i => if i = key r then number (sumOn key amount rs (key r) + amount r) else
      number (sumOn key amount rs i)) = fun i => number (sumOn key amount (rs ++ [r]) i) := by
    funext i
    by_cases h : i = key r
    · simp [sumOn, plainSum, h]
    · simp [sumOn, h, Ne.symm h]
  rw [accumulate, hsum, Except.map, map_sumsBy, map_sumsBy, Entries.put_tabulate hname (nodup_eraseDups _), hsums,
    map_append, map_singleton, eraseDups_concat]

lemma foldlM_accumulate (rs : List ρ) :
    rs.foldlM (fun t r => accumulate start t (name (key r)) (number (amount r))) [] =
      .ok ((sumsBy key amount rs).map (Prod.map name number)) := by
  induction rs using reverseRecOn with
  | nil => rfl
  | append_singleton rs r ih =>
    rw [foldlM_append, ih]
    exact (bind_pure _).trans (accumulate_sumsBy key amount hadd hname rs r)

end CloudSpend
