import CloudSpend.Data.Arithmetic
import Mathlib.Data.Prod.Lex
import Mathlib.Order.Lattice

/-! # Rankings -/

namespace CloudSpend

open List

namespace Ranking

variable {β : Type} (below : β → β → Bool)

lemma insert_perm (xs : List β) (x : β) : (insert below xs x).Perm (x :: xs) := by
  unfold insert
  exact perm_middle.trans (.cons x (.of_eq (take_append_drop _ xs)))

lemma foldl_insert_perm (run rest : List β) : (rest.foldl (insert below) run).Perm (run ++ rest) := by
  induction rest generalizing run with
  | nil => simp
  | cons x rest ih =>
    exact (ih _).trans (((insert_perm below run x).append_right rest).trans perm_middle.symm)

lemma splitRun_perm (xs : List β) : ((splitRun below xs).1 ++ (splitRun below xs).2).Perm xs := by
  fun_cases splitRun below xs with
  | case1 a b rest hfal =>
    exact ((reverse_perm _).append_right _).trans (.of_eq (take_append_drop _ _))
  | case2 a b rest hris => exact .of_eq (take_append_drop _ _)
  | case3 xs h => simp

lemma byPlacing_perm (xs : List β) : (byPlacing below xs).Perm xs :=
  (foldl_insert_perm below _ _).trans (splitRun_perm below xs)

end Ranking

lemma Arithmetic.descending_perm {α β : Type} [Arithmetic α] (key : β → α) (xs : List β) :
    (descending key xs).Perm xs := by
  unfold descending
  split
  · exact xs.mergeSort_perm _
  · exact (reverse_perm _).trans ((Ranking.byPlacing_perm _ _).trans (reverse_perm _))

theorem Arithmetic.descending_spec {α β : Type} [LinearOrder α] [Arithmetic α]
    (hlt : ∀ x y : α, lt x y = .ok (decide (x < y))) (hle : ∀ x y : α, le x y = .ok (decide (x ≤ y)))
    (key : β → α) (xs : List β) : (descending key xs).Pairwise (fun a b => key b ≤ key a) ∧
      ∀ v, (descending key xs).filter (key · = v) = xs.filter (key · = v) := by
  have hsort : descending key xs = xs.mergeSort fun a b => decide (key b ≤ key a) := by
    simp [descending, isOrdered, below, hlt, hle, ← decide_not]
  have htra : ∀ a b c : β, decide (key b ≤ key a) → decide (key c ≤ key b) → decide (key c ≤ key a) := by
    simp only [decide_eq_true_eq]
    exact fun a b c hab hbc => le_trans hbc hab
  have htot : ∀ a b : β, decide (key b ≤ key a) || decide (key a ≤ key b) := by
    simpa using fun a b => le_total (key b) (key a)
  have hperm := descending_perm key xs
  rw [hsort] at hperm ⊢
  refine ⟨by simpa using pairwise_mergeSort htra htot xs, fun v => ?_⟩
  have hties : (xs.filter (key · = v)).Pairwise fun a b => decide (key b ≤ key a) := by
    refine pairwise_iff_forall_sublist.mpr fun hsub => ?_
    grind
  have hsub := (sublist_mergeSort htra htot hties filter_sublist).filter (key · = v)
  simp only [filter_filter, Bool.and_self] at hsub
  exact (hsub.eq_of_length (hperm.filter _).length_eq.symm).symm

/-! ### Binary numbers as keys -/

open Float.Model (UnpackedFloat)

def place : UnpackedFloat → Int ×ₗ Int ×ₗ Int
  | .infinity .negative => toLex (-2, toLex (0, 0))
  | .finite .negative m e _ => toLex (-1, toLex (-e, -m))
  | .zero _ => toLex (0, toLex (0, 0))
  | .notANumber => toLex (0, toLex (0, 0))
  | .finite .positive m e _ => toLex (1, toLex (e, m))
  | .infinity .positive => toLex (2, toLex (0, 0))

lemma isGE_then_iff (e e' : Int) (m m' : Nat) :
    ((compare e e').then (compare m m')).isGE = true ↔ e' < e ∨ e = e' ∧ m' ≤ m := by
  rw [← Ordering.isLE_swap, Ordering.swap_then, Ordering.isLE_then_iff_or, Int.compare_swap, Nat.compare_swap]
  simp only [Int.compare_eq_lt, Int.compare_eq_eq, Nat.isLE_compare]
  omega

lemma lt_iff_place {u v : UnpackedFloat} (hu : u ≠ .notANumber) (hv : v ≠ .notANumber) :
    (u.lt v = true ↔ place u < place v) ∧ (u.le v = true ↔ place u ≤ place v) := by
  rcases u with (_ | _) | _ | _ | ⟨_ | _, m, e, _⟩ <;> rcases v with (_ | _) | _ | _ | ⟨_ | _, m', e', _⟩ <;>
    first
    | exact absurd rfl hu
    | exact absurd rfl hv
    | clear hu hv
      dsimp only [place, UnpackedFloat.lt, UnpackedFloat.le, UnpackedFloat.compare]
      simp [Prod.Lex.toLex_lt_toLex, Prod.Lex.toLex_le_toLex, Ordering.then_eq_lt,
        Ordering.then_eq_gt, Ordering.isLE_then_iff_or, isGE_then_iff, Int.compare_eq_lt,
        Int.compare_eq_gt, Nat.compare_eq_lt, Nat.compare_eq_gt, Nat.isLE_compare] <;> decide

variable {x y : Float}

lemma unpack_ne (h : x.isNaN = false) : x.toModel.unpack ≠ .notANumber := by
  intro hx
  have hnan : x.toModel.unpack.isNaN = false := h
  rw [hx] at hnan
  cases hnan

lemma Value.lt_float (x y : Float) : (Value.float x).lt (.float y) = .ok (decide (x < y)) := by
  unfold lt precedes
  simp only [isNumber, Bool.and_self, if_true, compareNumbers?]
  grind

lemma Value.below_float (hx : x.isNaN = false) (hy : y.isNaN = false) :
    Arithmetic.below (Value.float x) (.float y) = decide (place x.toModel.unpack < place y.toModel.unpack) := by
  have hlt : x < y ↔ x.toModel.unpack.lt y.toModel.unpack = true := decide_eq_true_iff
  simp only [Arithmetic.below, Arithmetic.lt, lt_float, hlt, (lt_iff_place (unpack_ne hx) (unpack_ne hy)).1]

lemma Value.isOrdered_float (hx : x.isNaN = false) : Arithmetic.isOrdered (Value.float x) = true := by
  have hlt : ¬ x < x := by
    have hlt : x < x ↔ x.toModel.unpack.lt x.toModel.unpack = true := decide_eq_true_iff
    rw [hlt, (lt_iff_place (unpack_ne hx) (unpack_ne hx)).1]
    exact lt_irrefl _
  have hsame : (x == x) = true := by
    change x.toModel.unpack.beq x.toModel.unpack = true
    have hne := unpack_ne hx
    generalize x.toModel.unpack = u at hne
    change (u.compare u == some .eq) = true
    rcases u with (_ | _) | _ | _ | ⟨_ | _, m, e, _⟩ <;>
      first | rfl | exact absurd rfl hne | (dsimp only [UnpackedFloat.compare]; simp)
  simp [Arithmetic.isOrdered, Arithmetic.le, Value.le, precedes, isNumber, compareNumbers?, hlt, hsame]

theorem Arithmetic.descending_floats {β : Type} {key : β → Value} {xs : List β} {num : β → Float}
    (hkey : ∀ b ∈ xs, key b = .float (num b)) (hnum : ∀ b ∈ xs, (num b).isNaN = false) :
    (descending key xs).Pairwise fun a b => num b ≤ num a := by
  have hord : (xs.all fun b => isOrdered (key b)) = true := by
    refine all_eq_true.mpr fun b hb => ?_
    rw [hkey b hb, Value.isOrdered_float (hnum b hb)]
  have hmap := map_mergeSort (f := fun b => place (num b).toModel.unpack) (l := xs)
    (r := fun a b => !below (key a) (key b)) (s := fun p q => decide (q ≤ p)) (by
      intro a ha b hb
      rw [hkey a ha, hkey b hb, Value.below_float (hnum a ha) (hnum b hb), ← decide_not]
      simp only [not_lt])
  have hsor : ((xs.mergeSort fun a b => !below (key a) (key b)).map
      fun b => place (num b).toModel.unpack).Pairwise fun p q => q ≤ p := by
    rw [hmap]
    exact (pairwise_mergeSort (fun p q r hpq hqr => decide_eq_true
        ((of_decide_eq_true hqr).trans (of_decide_eq_true hpq)))
      (fun p q => by simpa using le_total q p) _).imp of_decide_eq_true
  rw [descending, if_pos hord]
  refine (pairwise_map.mp hsor).imp_of_mem fun {a b} ha hb hab => ?_
  have ha := hnum a (mem_mergeSort.mp ha)
  have hb := hnum b (mem_mergeSort.mp hb)
  have hle : num b ≤ num a ↔ (num b).toModel.unpack.le (num a).toModel.unpack = true := decide_eq_true_iff
  exact hle.mpr ((lt_iff_place (unpack_ne hb) (unpack_ne ha)).2.mpr hab)

end CloudSpend
