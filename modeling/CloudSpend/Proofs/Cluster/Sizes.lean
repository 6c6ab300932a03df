import CloudSpend.Cluster.Store
import CloudSpend.Proofs.Numeral.Integer
import CloudSpend.Proofs.Numeral.Nearest

/-! # Sizes and their texts -/

namespace CloudSpend

namespace Numeral

variable {num num' den k n : Nat}

lemma roundDiv_mul_right {c : Nat} (hc : 0 < c) (num den : Nat) : roundDiv (num * c) (den * c) = roundDiv num den := by
  unfold roundDiv
  dsimp only
  rw [Nat.mul_div_mul_right _ _ hc, Nat.mul_mod_mul_right, ← Nat.mul_assoc]
  simp only [Nat.mul_lt_mul_right hc]

lemma roundDiv_mul_self (hden : 0 < den) (q : Nat) : roundDiv (q * den) den = q :=
  Nat.le_antisymm (roundDiv_le le_rfl) (le_roundDiv hden le_rfl)

lemma roundDiv_mono (h : num ≤ num') : roundDiv num den ≤ roundDiv num' den := by
  have hquo := Nat.div_le_div_right (c := den) h
  have hsum := Nat.div_add_mod num den
  have hsum' := Nat.div_add_mod num' den
  unfold roundDiv
  dsimp only
  rcases hquo.eq_or_lt with heq | hlt
  · rw [heq] at hsum ⊢
    split_ifs <;> omega
  · split_ifs <;> omega

lemma roundDiv_near (hden : 0 < den) (num : Nat) :
    2 * (roundDiv num den * den) ≤ 2 * num + den ∧ 2 * num ≤ 2 * (roundDiv num den * den) + den := by
  have hsum := Nat.div_add_mod num den
  have hmod := Nat.mod_lt num hden
  have hnext : (num / den + 1) * den = den * (num / den) + den := by ring
  have hsame : num / den * den = den * (num / den) := Nat.mul_comm _ _
  unfold roundDiv
  dsimp only
  split_ifs <;> omega

lemma padded_one (n : Nat) : padded 1 n = Nat.toDigits 10 n := by
  have hpos := List.length_pos_iff.mpr (Nat.toDigits_ne_nil (n := n) (b := 10))
  simp [padded, Nat.sub_eq_zero_of_le hpos]

lemma le_largest (k : Nat) : 2 ^ 53 - 1 ≤ largest k := Nat.le_mul_of_pos_right _ (Nat.two_pow_pos k)

lemma fixed_quotient (hk : 0 < k) (hk' : k < 1000) (hn : n ≠ 0) (h : n < 2 ^ 53) :
    ∃ x, quotient? n (2 ^ k : Nat) = some x ∧ (fixed x 0).toList = Nat.toDigits 10 (roundDiv n (2 ^ k)) := by
  have hden : 0 < 2 ^ k := Nat.two_pow_pos k
  have hlar : n ≤ largest 971 * 2 ^ k := calc
    n ≤ 2 ^ 53 - 1 := by omega
    _ ≤ largest 971 := le_largest 971
    _ ≤ largest 971 * 2 ^ k := Nat.le_mul_of_pos_right _ hden
  obtain ⟨x, hx⟩ := exists_nearest?_eq false hden.ne' hlar
  refine ⟨x, (quotient?_natCast n (2 ^ k)).trans hx, ?_⟩
  have hlog : (2 ^ k).log2 = k := Nat.log2_two_pow
  obtain ⟨e, m, -, hm, hlow, hupp, -, hbin⟩ := of_nearest? hn hden.ne' (by omega) hx
  have hexp : e ≤ -k := by
    have hpow : 2 ^ (52 + (k + e.toNat)) < 2 ^ (53 + (-e).toNat) := by
      rw [pow_add, pow_add 2 53, pow_add]
      exact hlow.trans_lt (Nat.mul_lt_mul_of_pos_right h (Nat.two_pow_pos _))
    have := (Nat.pow_lt_pow_iff_right (by decide)).mp hpow
    omega
  obtain ⟨i, hi⟩ : ∃ i, (-e).toNat = k + i := ⟨(-e).toNat - k, by omega⟩
  rw [show e.toNat = 0 by omega, pow_zero, Nat.mul_one, hi, pow_add, Nat.mul_left_comm, Nat.mul_comm (2 ^ k)] at hm hupp
  rw [roundDiv_mul_self hden] at hm
  have hfits : m < 2 ^ 53 := hm ▸ Nat.lt_of_mul_lt_mul_right hupp
  rw [if_neg hfits.ne] at hbin
  have hrat : ratio m e = (n * 2 ^ i, 2 ^ k * 2 ^ i) := by
    rw [ratio, if_neg (by omega), hm, hi, twoTo, Nat.pow_eq, pow_add]
  simp [fixed, hbin, hrat, placesText, scaled, padded_one, roundDiv_mul_right]

end Numeral

namespace Cluster

open List Numeral Value

structure Size where
  number : Nat
  unit : Nat
  deriving DecidableEq

def Size.bytes (s : Size) : Nat := s.number * s.unit

def unitOf? : List Char → Option Nat
  | ['B'] => some 1
  | ['K', 'i'] => some (2 ^ 10)
  | ['M', 'i'] => some (2 ^ 20)
  | ['G', 'i'] => some (2 ^ 30)
  | _ => none

def Size.ofText? (s : String) : Option Size :=
  (unitOf? (s.toList.dropWhile Char.isDigit)).map fun unit => ⟨digitsValue (s.toList.takeWhile Char.isDigit), unit⟩

def unitFor (n : Nat) : Nat :=
  if 2 ^ 30 ≤ n then 2 ^ 30 else if 2 ^ 20 ≤ n then 2 ^ 20 else if 2 ^ 10 ≤ n then 2 ^ 10 else 1

def Size.shown (n : Nat) : Size := ⟨roundDiv n (unitFor n), unitFor n⟩

variable {a b n unit : Nat} {name : List Char} {s : String}

lemma ofText?_eq (hunit : unitOf? name = some unit) (h : s.toList = Nat.toDigits 10 n ++ name) :
    Size.ofText? s = some ⟨n, unit⟩ := by
  have hdig : ∀ c ∈ Nat.toDigits 10 n, c.isDigit = true := fun c hc => isDigit_of_mem_decimal hc
  have hname : name.takeWhile Char.isDigit = [] ∧ name.dropWhile Char.isDigit = name := by
    unfold unitOf? at hunit
    split at hunit
    all_goals first | exact ⟨rfl, rfl⟩ | cases hunit
  rw [Size.ofText?, h, takeWhile_append_of_pos hdig, dropWhile_append_of_pos hdig, hname.1, hname.2, hunit,
    append_nil, digitsValue_toDigits]
  rfl

lemma ge_int (m n : Nat) : (int m).ge (.int n) = .ok (decide (n ≤ m)) := by
  simp only [ge, le, precedes, isNumber, compareNumbers?, int?, Bool.and_self, if_true]
  rcases Nat.lt_trichotomy n m with h | rfl | h
  · simp [Int.compare_eq_lt.mpr (Int.ofNat_lt.mpr h), h.le]
  · simp
  · simp [Int.compare_eq_gt.mpr (Int.ofNat_lt.mpr h), h.not_ge]

section Step

variable {k : Nat} {size : Int} (hsize : size = (2 ^ k : Nat)) (name : String) (rest : List (Int × String))

include hsize

lemma formatIn_of_lt (h : ¬ 2 ^ k ≤ n) : formatIn (.int n) ((size, name) :: rest) = formatIn (.int n) rest := by
  rw [hsize, formatIn, ge_int, decide_eq_false h]
  rfl

lemma formatIn_of_le (hk : 0 < k) (hk' : k < 1000) (hn : n < 2 ^ 53) (h : 2 ^ k ≤ n) :
    ∃ s, formatIn (.int n) ((size, name) :: rest) = .ok s ∧
      s.toList = Nat.toDigits 10 (roundDiv n (2 ^ k)) ++ name.toList := by
  subst hsize
  have hpos := Nat.two_pow_pos k
  obtain ⟨x, hx, htext⟩ := fixed_quotient hk hk' (by omega) hn
  have hdiv : (Value.int n).div (.int (2 ^ k : Nat)) = .ok (.float x) := by
    have hzero : ¬ ((2 ^ k : Nat) : Int) = 0 := by omega
    simp only [div, pair?, int?, hx, beq_iff_eq, hzero, if_false]
  refine ⟨fixed x 0 ++ name, ?_, by rw [String.toList_append, htext]⟩
  rw [formatIn, ge_int, decide_eq_true h, hdiv]
  rfl

end Step

lemma ofText?_formatBytes (h : n < 2 ^ 53) :
    ∃ s, formatBytes (.int n) = .ok s ∧ Size.ofText? s = some (.shown n) := by
  have hgi : (1073741824 : Int) = (2 ^ 30 : Nat) := rfl
  have hmi : (1048576 : Int) = (2 ^ 20 : Nat) := rfl
  have hki : (1024 : Int) = (2 ^ 10 : Nat) := rfl
  rw [formatBytes, byteUnits, Size.shown, unitFor]
  split_ifs with hg hm hk
  · obtain ⟨s, hs, htext⟩ := formatIn_of_le hgi "Gi" _ (by decide) (by decide) h hg
    exact ⟨s, hs, ofText?_eq rfl htext⟩
  · rw [formatIn_of_lt hgi _ _ hg]
    obtain ⟨s, hs, htext⟩ := formatIn_of_le hmi "Mi" _ (by decide) (by decide) h hm
    exact ⟨s, hs, ofText?_eq rfl htext⟩
  · rw [formatIn_of_lt hgi _ _ hg, formatIn_of_lt hmi _ _ hm]
    obtain ⟨s, hs, htext⟩ := formatIn_of_le hki "Ki" _ (by decide) (by decide) h hk
    exact ⟨s, hs, ofText?_eq rfl htext⟩
  · rw [formatIn_of_lt hgi _ _ hg, formatIn_of_lt hmi _ _ hm,
      formatIn_of_lt hki _ _ hk]
    refine ⟨_, rfl, ofText?_eq (rfl : unitOf? ['B'] = _) ?_⟩
    have hone : roundDiv n 1 = n := by simpa using roundDiv_mul_self one_pos n
    have htext : (toString (n : Int)).toList = Nat.toDigits 10 n := by
      rw [toList_toString_int, if_neg (by omega)]
      rfl
    rw [hone, String.toList_append, ← htext]
    rfl

lemma unitFor_le (hab : a ≤ b) :
    unitFor a = unitFor b ∨ unitFor a ∣ unitFor b ∧ a ≤ unitFor b ∧ unitFor b ≤ b := by
  unfold unitFor
  split_ifs <;> omega

lemma unitFor_pos (n : Nat) : 0 < unitFor n := by
  unfold unitFor
  split_ifs <;> decide

lemma bytes_shown_mono (hab : a ≤ b) : (Size.shown a).bytes ≤ (Size.shown b).bytes := by
  simp only [Size.bytes, Size.shown]
  rcases unitFor_le hab with heq | ⟨⟨c, hc⟩, ha, hb⟩
  · rw [heq]
    exact Nat.mul_le_mul_right _ (roundDiv_mono hab)
  · rw [Nat.mul_comm] at hc
    calc roundDiv a (unitFor a) * unitFor a ≤ c * unitFor a := Nat.mul_le_mul_right _ (roundDiv_le (hc ▸ ha))
      _ = 1 * unitFor b := by rw [hc, Nat.one_mul]
      _ ≤ roundDiv b (unitFor b) * unitFor b :=
          Nat.mul_le_mul_right _ (le_roundDiv (unitFor_pos b) (by rwa [Nat.one_mul]))

/-- The texts of two numbers of bytes denote sizes in the same order, and the size is off by at most half its unit. -/
theorem formatBytes_monotone_and_near {a b : Int} (ha : 0 ≤ a) (hab : a ≤ b) (hb : b < 2 ^ 53) :
    ∃ s t m n, formatBytes (.int a) = .ok s ∧ formatBytes (.int b) = .ok t ∧ Size.ofText? s = some m ∧
      Size.ofText? t = some n ∧ m.bytes ≤ n.bytes ∧ 2 * |(n.bytes : Int) - b| ≤ n.unit := by
  lift a to Nat using ha
  lift b to Nat using by omega
  obtain ⟨s, hs, hm⟩ := ofText?_formatBytes (n := a) (by omega)
  obtain ⟨t, ht, hn⟩ := ofText?_formatBytes (n := b) (by omega)
  refine ⟨s, t, _, _, hs, ht, hm, hn, bytes_shown_mono (by omega), ?_⟩
  obtain ⟨hhigh, hlow⟩ := roundDiv_near (unitFor_pos b) b
  rw [Int.abs_eq_natAbs]
  simp only [Size.bytes, Size.shown]
  omega

/-- The last size below a unit is written as one of the unit below it, times 1024. -/
theorem formatBytes_monotone_and_near_of_seam :
    ∃ s t m n, formatBytes (.int 1048575) = .ok s ∧ formatBytes (.int 1048576) = .ok t ∧ Size.ofText? s = some m ∧
      Size.ofText? t = some n ∧ m.bytes ≤ n.bytes ∧ 2 * |(n.bytes : Int) - 1048576| ≤ n.unit :=
  formatBytes_monotone_and_near (by decide) (by decide) (by decide)

end Cluster

end CloudSpend
