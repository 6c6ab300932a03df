import CloudSpend.Numeral.Binary
import Mathlib.Tactic.Linarith
import Mathlib.Tactic.Ring

/-! # Rounding stays among the finite numbers -/

namespace CloudSpend.Numeral

def largest (exponent : Nat) : Nat := (2 ^ 53 - 1) * 2 ^ exponent

lemma largest_lt (k : Nat) : largest k < 2 ^ (k + 53) := by
  rw [largest, pow_add, Nat.mul_comm (2 ^ k)]
  exact Nat.mul_lt_mul_of_pos_right (by norm_num) (Nat.two_pow_pos k)

lemma roundDiv_le {num den q : Nat} (h : num ≤ q * den) : roundDiv num den ≤ q := by
  rcases Nat.eq_zero_or_pos den with rfl | hden
  · obtain rfl : num = 0 := by simpa using h
    exact Nat.zero_le q
  have hq : num / den ≤ q := Nat.div_le_of_le_mul (by rwa [Nat.mul_comm])
  unfold roundDiv
  dsimp only
  rcases Nat.lt_or_eq_of_le hq with hlt | heq
  · split_ifs <;> omega
  · -- The quotient is reached, so nothing remains to be rounded.
    have hmod : num % den = 0 := by
      have hsum := Nat.div_add_mod num den
      rw [heq, Nat.mul_comm] at hsum
      omega
    rw [hmod, if_pos (by omega)]
    exact heq.le

lemma le_roundDiv {num den q : Nat} (hden : 0 < den) (h : q * den ≤ num) : q ≤ roundDiv num den := by
  have hq : q ≤ num / den := (Nat.le_div_iff_mul_le hden).mpr h
  unfold roundDiv
  dsimp only
  split_ifs <;> omega

lemma mantissaAt_eq (num den : Nat) (e : Int) :
    mantissaAt num den e = roundDiv (num * 2 ^ (-e).toNat) (den * 2 ^ e.toNat) := by
  unfold mantissaAt
  split
  · rw [show (-e).toNat = 0 by omega, pow_zero, Nat.mul_one]
    rfl
  · rw [show e.toNat = 0 by omega, pow_zero, Nat.mul_one]
    rfl

variable {num den k : Nat} {e : Int} {m : Nat}

lemma le_exponentOf (num den : Nat) : (num.log2 : Int) - den.log2 - 53 ≤ exponentOf num den := by
  unfold exponentOf
  dsimp only
  split_ifs <;> omega

lemma exponentOf_bounds (hnum : num ≠ 0) (hden : den ≠ 0) (he : e = exponentOf num den) (hnor : -1074 < e) :
    2 ^ 52 * (den * 2 ^ e.toNat) ≤ num * 2 ^ (-e).toNat ∧ num * 2 ^ (-e).toNat < 2 ^ 53 * (den * 2 ^ e.toNat) := by
  have hnum0 := Nat.log2_self_le hnum
  have hden0 := Nat.log2_self_le hden
  have hnum1 : num < 2 ^ (num.log2 + 1) := Nat.lt_log2_self
  have hden1 : den < 2 ^ (den.log2 + 1) := Nat.lt_log2_self
  obtain ⟨g, hg⟩ : ∃ g : Int, g = num.log2 - den.log2 - 52 := ⟨_, rfl⟩
  have hfits : (if 0 ≤ g then den * twoTo g.toNat * twoTo 52 ≤ num else den * twoTo 52 ≤ num * twoTo (-g).toNat) ↔
      2 ^ 52 * (den * 2 ^ g.toNat) ≤ num * 2 ^ (-g).toNat := by
    split
    · rw [show (-g).toNat = 0 by omega, pow_zero, Nat.mul_one, Nat.mul_comm]
      rfl
    · rw [show g.toNat = 0 by omega, pow_zero, Nat.mul_one, Nat.mul_comm den]
      rfl
  unfold exponentOf at he
  simp only [← hg, hfits] at he
  by_cases hfit : 2 ^ 52 * (den * 2 ^ g.toNat) ≤ num * 2 ^ (-g).toNat
  · obtain rfl : e = g := by rw [if_pos hfit] at he; omega
    refine ⟨hfit, ?_⟩
    calc num * 2 ^ (-e).toNat < 2 ^ (num.log2 + 1) * 2 ^ (-e).toNat := by gcongr
      _ = 2 ^ 53 * (2 ^ den.log2 * 2 ^ e.toNat) := by rw [← pow_add, ← pow_add, ← pow_add]; congr 1; omega
      _ ≤ 2 ^ 53 * (den * 2 ^ e.toNat) := by gcongr
  · -- The guess is one too high.
    obtain rfl : e = g - 1 := by rw [if_neg hfit] at he; omega
    constructor
    · calc 2 ^ 52 * (den * 2 ^ (g - 1).toNat) ≤ 2 ^ 52 * (2 ^ (den.log2 + 1) * 2 ^ (g - 1).toNat) := by gcongr
        _ = 2 ^ num.log2 * 2 ^ (-(g - 1)).toNat := by rw [← pow_add, ← pow_add, ← pow_add]; congr 1; omega
        _ ≤ num * 2 ^ (-(g - 1)).toNat := by gcongr
    · have hlt := Nat.not_le.mp hfit
      rcases le_or_gt g 0 with hsign | hsign
      · rw [show (-(g - 1)).toNat = (-g).toNat + 1 by omega, show (g - 1).toNat = g.toNat by omega, pow_succ,
          ← Nat.mul_assoc]
        omega
      · rw [show 2 ^ g.toNat = 2 ^ (g - 1).toNat * 2 by rw [← pow_succ]; congr 1; omega, ← Nat.mul_assoc den] at hlt
        rw [show (-(g - 1)).toNat = (-g).toNat by omega]
        omega

lemma exponentOf_le (hnum : num ≠ 0) (hden : den ≠ 0) (h : num ≤ largest k * den) :
    exponentOf num den ≤ k := by
  by_contra hlt
  obtain ⟨hlow, -⟩ := exponentOf_bounds hnum hden rfl (by omega)
  rw [show (-exponentOf num den).toNat = 0 by omega, pow_zero, Nat.mul_one] at hlow
  have hpow : 2 ^ (k + 53) * den ≤ num := calc
    2 ^ (k + 53) * den = 2 ^ 52 * (den * 2 ^ (k + 1)) := by ring
    _ ≤ 2 ^ 52 * (den * 2 ^ (exponentOf num den).toNat) := by gcongr <;> omega
    _ ≤ num := hlow
  exact absurd (hpow.trans h) (Nat.not_le.mpr (Nat.mul_lt_mul_of_pos_right (largest_lt k) (Nat.pos_of_ne_zero hden)))

lemma mantissaAt_lt (h : num ≤ largest k * den) : mantissaAt num den k < 2 ^ 53 := by
  have hrou : roundDiv num (den * twoTo k) ≤ 2 ^ 53 - 1 := by
    refine roundDiv_le ?_
    rwa [Nat.mul_comm den, ← Nat.mul_assoc]
  rw [mantissaAt, if_pos (Int.natCast_nonneg k), Int.toNat_natCast]
  omega

lemma exists_pack?_eq (he : e ≤ 971) (hm : e = 971 → m < 2 ^ 53) :
    ∃ word, pack? m e = some word := by
  unfold pack?
  split
  · exact ⟨_, rfl⟩
  · dsimp only
    by_cases hfull : m = twoTo 53
    · have hlt : e < 971 := lt_of_le_of_ne he fun heq => absurd hfull (hm heq).ne
      have hfie : ¬2047 ≤ (e + 1 + 1075).toNat := by omega
      simp [hfull, hfie]
    · have hfie : ¬2047 ≤ (e + 1075).toNat := by omega
      simp [hfull, hfie]

lemma exists_nearest?_eq (negative : Bool) (hden : den ≠ 0) (h : num ≤ largest 971 * den) :
    ∃ x, nearest? negative num den = some x := by
  unfold nearest?
  dsimp only
  split
  · exact ⟨_, rfl⟩
  · next hnum =>
      have he : exponentOf num den ≤ (971 : Nat) := exponentOf_le (by simpa using hnum) hden h
      have hm : exponentOf num den = (971 : Nat) → mantissaAt num den (exponentOf num den) < 2 ^ 53 := by
        intro heq
        rw [heq]
        exact mantissaAt_lt h
      obtain ⟨word, hword⟩ := exists_pack?_eq he hm
      rw [hword]
      exact ⟨_, rfl⟩

lemma of_ofBits_eq_finite {bits : Nat} {negative : Bool}
    (h : Binary.ofBits bits = .finite negative m e) : m ≤ 2 ^ 53 - 1 ∧ e ≤ 971 ∧ (-1074 < e → 2 ^ 52 ≤ m) := by
  have hfra : bits % twoTo 52 < 2 ^ 52 := Nat.mod_lt _ (Nat.two_pow_pos 52)
  have hfie : bits / twoTo 52 % 2048 < 2048 := Nat.mod_lt _ (by norm_num)
  have htwo : twoTo 52 = 2 ^ 52 := rfl
  unfold Binary.ofBits at h
  dsimp only at h
  split at h
  · split at h <;> cases h
  · next hmax =>
      have hne : bits / twoTo 52 % 2048 ≠ 2047 := by simpa using hmax
      split at h
      · grind
      · obtain ⟨-, rfl, rfl⟩ := Binary.finite.inj h
        exact ⟨by omega, by omega, by omega⟩

lemma ratio_le (hm : m ≤ 2 ^ 53 - 1) (he : e ≤ k) :
    (ratio m e).1 ≤ largest k * (ratio m e).2 := by
  unfold ratio
  split
  · have hpow : twoTo e.toNat ≤ 2 ^ k := Nat.pow_le_pow_right (by norm_num) (by omega)
    rw [Nat.mul_one]
    exact Nat.mul_le_mul hm hpow
  · have hval : m ≤ largest k := hm.trans (Nat.le_mul_of_pos_right _ (Nat.two_pow_pos k))
    exact hval.trans (Nat.le_mul_of_pos_right _ (Nat.two_pow_pos _))

lemma exists_roundTo?_eq (x : Float) (places : Nat) : ∃ y, roundTo? x places = some y := by
  unfold roundTo?
  cases hx : Binary.ofFloat x with
  | nan => exact ⟨x, rfl⟩
  | infinite negative => exact ⟨x, rfl⟩
  | finite negative m e =>
    obtain ⟨hm, he, -⟩ := of_ofBits_eq_finite hx
    have hrat : (ratio m e).1 ≤ largest 971 * (ratio m e).2 := ratio_le hm he
    refine exists_nearest?_eq negative (Nat.pow_pos (by norm_num)).ne' (roundDiv_le ?_)
    calc (ratio m e).1 * tenTo places ≤ largest 971 * (ratio m e).2 * tenTo places :=
          Nat.mul_le_mul_right _ hrat
      _ = largest 971 * tenTo places * (ratio m e).2 := Nat.mul_right_comm _ _ _

end CloudSpend.Numeral
