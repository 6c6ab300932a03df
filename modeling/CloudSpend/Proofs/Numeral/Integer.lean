import CloudSpend.Data.Arithmetic
import CloudSpend.Proofs.Text.Characters

/-! # Integers read back from their numerals -/

namespace CloudSpend.Numeral

open List
open CloudSpend.Text

lemma joinDigits?_of_forall_isDigit (after : Bool) {ds : List Char} (h : ∀ c ∈ ds, c.isDigit) :
    joinDigits? after ds = some ds := by
  induction ds generalizing after with
  | nil => simp [joinDigits?]
  | cons d ds ih =>
    have hd : d.isDigit := h d (by simp)
    have hne : d ≠ '_' := by rintro rfl; simp at hd
    have hds : joinDigits? d.isDigit ds = some ds := ih _ fun c hc => h c (by simp [hc])
    rw [joinDigits?]
    · rw [hds]; rfl
    · exact hne

lemma digitsValue_toDigits (n : Nat) : digitsValue (Nat.toDigits 10 n) = n := by
  have h : digitsValue (Nat.toDigits 10 n) = Nat.ofDigitChars 10 (Nat.toDigits 10 n) 0 := by
    rw [Nat.ofDigitChars_eq_foldl]
    rfl
  rw [h, Nat.ofDigitChars_ten_toDigits]

variable {c : Char}

lemma isDigit_of_mem_decimal {n : Nat} (h : c ∈ Nat.toDigits 10 n) : c.isDigit :=
  Nat.isDigit_of_mem_toDigits (by decide) (by decide) h

lemma toList_toString_int (n : Int) :
    (toString n).toList =
      if n < 0 then '-' :: Nat.toDigits 10 n.natAbs else Nat.toDigits 10 n.natAbs := by
  cases n with
  | ofNat m => simp [toString, Int.repr]
  | negSucc m => simp [toString, Int.repr]

lemma sign_or_digit_of_mem {n : Int} (h : c ∈ (toString n).toList) :
    c = '-' ∨ c.isDigit := by
  rw [toList_toString_int] at h
  split at h
  · rcases mem_cons.mp h with rfl | h
    · exact Or.inl rfl
    · exact Or.inr (isDigit_of_mem_decimal h)
  · exact Or.inr (isDigit_of_mem_decimal h)

lemma plainChar_of_sign_or_digit (h : c = '-' ∨ c.isDigit) : plainChar c = c := by
  rcases h with rfl | h
  · rfl
  · have hle : c.toNat ≤ 57 := by
      simp only [Char.isDigit, Bool.and_eq_true, decide_eq_true_eq] at h
      simpa using UInt32.le_iff_toNat_le.mp h.2
    have hlt : c.toNat < 128 := by omega
    simp [plainChar, hlt]

lemma isAsciiBlank_of_sign_or_digit (h : c = '-' ∨ c.isDigit) :
    isAsciiBlank c = false := by
  by_contra hb
  simp only [isAsciiBlank, Bool.not_eq_false, Bool.or_eq_true, beq_iff_eq] at hb
  rcases hb with ((((rfl | rfl) | rfl) | rfl) | rfl) | rfl <;> simp at h

lemma plain_toString_int (n : Int) : plain (toString n) = (toString n).toList := by
  have hmap : (toString n).toList.map plainChar = (toString n).toList := by
    rw [map_congr_left fun c hc => plainChar_of_sign_or_digit (sign_or_digit_of_mem hc),
      map_id']
  have hbla : ∀ c ∈ (toString n).toList, isAsciiBlank c = false :=
    fun c hc => isAsciiBlank_of_sign_or_digit (sign_or_digit_of_mem hc)
  unfold plain
  rw [hmap]
  exact dropWhile_ends (fun c hc => hbla c (mem_of_mem_head? hc))
    (fun c hc => hbla c (mem_of_mem_getLast? hc))

lemma takeSign_toString_int (n : Int) :
    takeSign (toString n).toList = (decide (n < 0), Nat.toDigits 10 n.natAbs) := by
  rw [toList_toString_int]
  split
  · next h => simp [takeSign, h]
  · next h =>
      obtain ⟨d, ds, hds⟩ := exists_cons_of_ne_nil (Nat.toDigits_ne_nil (n := n.natAbs) (b := 10))
      have hd : d.isDigit := isDigit_of_mem_decimal (n := n.natAbs) (by simp [hds])
      have hmin : d ≠ '-' := by rintro rfl; simp at hd
      have hplus : d ≠ '+' := by rintro rfl; simp at hd
      rw [hds, takeSign.eq_3 (d :: ds) (by simp [hmin]) (by simp [hplus]), decide_eq_false h]

lemma readInt_toString (n : Int) (h : (Nat.toDigits 10 n.natAbs).length ≤ maxDigits) :
    readInt (toString n) = .ok n := by
  have hdig : ∀ c ∈ Nat.toDigits 10 n.natAbs, c.isDigit := fun c hc => isDigit_of_mem_decimal hc
  have hall : (Nat.toDigits 10 n.natAbs).all Char.isDigit = true := all_eq_true.mpr hdig
  have hne : (Nat.toDigits 10 n.natAbs).isEmpty = false := by simp
  unfold readInt
  rw [plain_toString_int, takeSign_toString_int]
  simp only [joinDigits?_of_forall_isDigit false hdig, hall, hne, digitsValue_toDigits]
  grind

lemma toInt_toString (n : Int) (h : (Nat.toDigits 10 n.natAbs).length ≤ maxDigits) :
    (Value.text (toString n)).toInt = .ok n := by
  simp only [Value.toInt, readInt_toString n h]

end CloudSpend.Numeral
