import CloudSpend.Proofs.Numeral.Rounding
import Mathlib

/-! # The binary number nearest to a fraction -/

namespace CloudSpend.Numeral

open Float.Model (Format UnpackedFloat)
open Float.Model.UnpackedFloat

variable {w : UInt64} {num den m m0 : Nat} {e e0 : Int} {negative : Bool}

lemma toNat_unpackExponent (w : UInt64) :
    (@unpackExponent Format.binary64 w.toBitVec).toNat = w.toNat / 2 ^ 52 % 2048 := by
  rw [unpackExponent_def, BitVec.extractLsb'_toNat, Nat.shiftRight_eq_div_pow]
  rfl

lemma ofFloat_ofBits (h : w.toNat / 2 ^ 52 % 2048 ≠ 2047) :
    Binary.ofFloat (Float.ofBits w) = Binary.ofBits w.toNat := by
  have hword : (Float.ofBits w).toBits.toBitVec =
      if @isNaNBits Format.binary64 w.toBitVec then packedNaN Format.binary64 else w.toBitVec :=
    @pack_unpack Format.binary64 w.toBitVec (by decide)
  rw [if_neg] at hword
  · rw [Binary.ofFloat, UInt64.toBitVec_inj.mp hword]
  · intro hnan
    have hmax := (of_decide_eq_true hnan).1
    exact h ((toNat_unpackExponent w).symm.trans (congrArg BitVec.toNat hmax))

lemma ofFloat_word {word : Nat} (he : -1074 ≤ e) (he' : e ≤ 971) (hm : 2 ^ 52 ≤ m)
    (hm' : m < 2 ^ 53) (hword : word = (e + 1075).toNat * 2 ^ 52 + (m - 2 ^ 52)) :
    Binary.ofFloat (Float.ofBits (UInt64.ofNat ((if negative then twoTo 63 else 0) + word))) = .finite negative m e := by
  obtain ⟨s, hs, hsign⟩ : ∃ s, (negative = false ∧ s = 0 ∨ negative = true ∧ s = 2 ^ 63) ∧
      (if negative then twoTo 63 else 0) = s := by
    cases negative
    · exact ⟨_, .inl ⟨rfl, rfl⟩, rfl⟩
    · exact ⟨_, .inr ⟨rfl, rfl⟩, rfl⟩
  have hnat : (UInt64.ofNat (s + word)).toNat = s + word := by
    rw [UInt64.toNat_ofNat', Nat.mod_eq_of_lt (by omega)]
  have hfie : (s + word) / 2 ^ 52 % 2048 = (e + 1075).toNat := by omega
  rw [hsign, ofFloat_ofBits (by omega), hnat, Binary.ofBits]
  simp only [show twoTo 52 = 2 ^ 52 from rfl, hfie, beq_iff_eq]
  rw [if_neg (by omega), if_neg (by omega), Binary.finite.injEq]
  refine ⟨?_, by omega, by omega⟩
  rcases hs with ⟨rfl, rfl⟩ | ⟨rfl, rfl⟩
  all_goals simp [twoTo]; omega

lemma quotient?_natCast (m n : Nat) : quotient? m n = nearest? false m n := by
  have hsig : ∀ m : Nat, decide ((m : Int) < 0) = false := fun m => decide_eq_false (by omega)
  rw [quotient?, hsig, hsig]
  rfl

lemma of_nearest? {y : Float} (hnum : num ≠ 0) (hden : den ≠ 0) (hlog : den.log2 < num.log2 + 1021)
    (h : nearest? negative num den = some y) : ∃ (e : Int) (m : Nat),
      (num.log2 : Int) - den.log2 - 53 ≤ e ∧ m = roundDiv (num * 2 ^ (-e).toNat) (den * 2 ^ e.toNat) ∧
        2 ^ 52 * (den * 2 ^ e.toNat) ≤ num * 2 ^ (-e).toNat ∧ num * 2 ^ (-e).toNat < 2 ^ 53 * (den * 2 ^ e.toNat) ∧
        2 ^ 52 ≤ m ∧ Binary.ofFloat y = if m = 2 ^ 53 then .finite negative (2 ^ 52) (e + 1) else .finite negative m e := by
  unfold nearest? at h
  rw [if_neg (by simpa using hnum)] at h
  obtain ⟨word, hpack, rfl⟩ := Option.map_eq_some_iff.mp h
  have hlow := le_exponentOf num den
  obtain ⟨hlwe, hupp⟩ := exponentOf_bounds hnum hden rfl (by omega)
  rw [mantissaAt_eq] at hpack
  have hm := le_roundDiv (Nat.mul_pos (Nat.pos_of_ne_zero hden) (Nat.two_pow_pos _)) hlwe
  have hm' := roundDiv_le hupp.le
  refine ⟨_, _, hlow, rfl, hlwe, hupp, hm, ?_⟩
  generalize roundDiv _ _ = m at *
  generalize exponentOf num den = e at *
  simp only [pack?, show twoTo 52 = 2 ^ 52 from rfl, show twoTo 53 = 2 ^ 53 from rfl] at hpack
  rw [if_neg (by omega)] at hpack
  by_cases hfull : m = 2 ^ 53
  · simp only [hfull, beq_self_eq_true, if_true, Option.ite_none_left_eq_some, Option.some.injEq] at hpack
    rw [if_pos hfull]
    exact ofFloat_word (by omega) (by omega) (by omega) (by omega) (by omega)
  · simp only [hfull, beq_iff_eq, if_false, Option.ite_none_left_eq_some, Option.some.injEq] at hpack
    rw [if_neg hfull]
    exact ofFloat_word (by omega) (by omega) (by omega) (by omega) (by omega)

/-! ### Magnitudes -/

lemma unpack_abs (x : Float) : x.abs.toModel.unpack = x.toModel.unpack.abs := by
  have hplus : ∀ b : BitVec Format.binary64.numBits, (unpack Format.binary64 b).abs =
      unpack Format.binary64 (packComponents Format.binary64 .positive (unpackExponent b) (unpackMantissa b)) := by
    intro b
    simp only [unpack, unpackExponent_packComponents, unpackMantissa_packComponents, unpackSign_packComponents,
      Sign.ofBitVec_toBitVec]
    split_ifs <;> rfl
  show unpack _ (pack _ (unpack _ _).abs) = (unpack _ _).abs
  rw [hplus, pack_unpack _ (by decide)]
  split
  · next hnan =>
      obtain ⟨hmax, hman⟩ := of_decide_eq_true hnan
      rw [unpack_packedNaN, unpack, if_pos hmax, if_neg hman]
  · rfl

lemma abs_lt_iff {hm0 : 0 < m0} (he0 : -1074 < e0) (h : Binary.ofBits w.toNat = .finite negative m e) :
    (unpack Format.binary64 w.toBitVec).abs.lt (.finite .positive m0 e0 hm0) = true ↔ e < e0 ∨ e = e0 ∧ m < m0 := by
  have hman : (@unpackMantissa Format.binary64 w.toBitVec).toNat = w.toNat % 2 ^ 52 := by
    rw [unpackMantissa_def, BitVec.extractLsb'_toNat]
    rfl
  have hhid : (1#1 ++ @unpackMantissa Format.binary64 w.toBitVec).toNat = w.toNat % 2 ^ 52 + 2 ^ 52 := by
    rw [BitVec.toNat_append, Nat.shiftLeft_eq, hman, Nat.mul_comm,
      ← Nat.two_pow_add_eq_or_of_lt (Nat.mod_lt _ (by decide))]
    exact Nat.add_comm _ _
  have hbias : (Format.binary64.exponentBias : Int) + Format.binary64.mantissaBitsWithoutImplicit = 1075 := rfl
  simp only [Binary.ofBits, twoTo, Nat.pow_eq, ← hman, ← toNat_unpackExponent, beq_iff_eq] at h
  unfold unpack
  dsimp only
  rw [hbias]
  split_ifs with hmax hnan hzero hnone
  · rw [hmax] at h
    grind
  · rw [hmax] at h
    grind
  · rw [hzero] at h
    obtain ⟨-, -, rfl⟩ := Binary.finite.inj h
    exact iff_of_true rfl (.inl he0)
  · rw [hzero] at h
    obtain ⟨-, -, rfl⟩ := Binary.finite.inj h
    refine iff_of_true ?_ (.inl he0)
    simp [UnpackedFloat.abs, UnpackedFloat.lt, UnpackedFloat.compare, Ordering.then_eq_lt, Int.compare_eq_lt, he0, hzero]
  · have hfin : (@unpackExponent Format.binary64 w.toBitVec).toNat ≠ 2047 := fun h => hmax (BitVec.eq_of_toNat_eq h)
    have hnor : (@unpackExponent Format.binary64 w.toBitVec).toNat ≠ 0 := fun h => hzero (BitVec.eq_of_toNat_eq h)
    rw [if_neg hfin, if_neg hnor] at h
    obtain ⟨-, rfl, rfl⟩ := Binary.finite.inj h
    simp [UnpackedFloat.abs, UnpackedFloat.lt, UnpackedFloat.compare, Ordering.then_eq_lt, Int.compare_eq_lt,
      Nat.compare_eq_lt, hhid, hman]

end CloudSpend.Numeral
