import CloudSpend.Data.Fault
import CloudSpend.Text.Case
import Mathlib.Data.List.TakeWhile
import Mathlib.Tactic.Common

/-! # Texts as lists of characters -/

namespace CloudSpend.Text

open List String

variable {p : Char → Bool} {cs : List Char} {s : String} {c : Char}

lemma dropWhile_of_head (h : ∀ c ∈ cs.head?, p c = false) : cs.dropWhile p = cs := by
  cases cs with
  | nil => rfl
  | cons c cs => simp [h c (by simp)]

lemma dropWhile_ends (hhead : ∀ c ∈ cs.head?, p c = false)
    (hlast : ∀ c ∈ cs.getLast?, p c = false) :
    ((cs.dropWhile p).reverse.dropWhile p).reverse = cs := by
  rw [dropWhile_of_head hhead, dropWhile_of_head (by simpa using hlast), reverse_reverse]

lemma trim_eq_self (hhead : ∀ c ∈ s.toList.head?, isBlank c = false)
    (hlast : ∀ c ∈ s.toList.getLast?, isBlank c = false) : trim s = s := by
  unfold trim trimEnd trimStart
  rw [dropWhile_ends hhead hlast, ofList_toList]

lemma mem_upper_of_mem (h : c ∈ s.toList) (hc : upperChar c = [c]) : c ∈ (upper s).toList := by
  rw [upper, toList_ofList, mem_flatMap]
  exact ⟨c, h, by simp [hc]⟩

def IsAscii (s : String) : Prop := ∀ c ∈ s.toList, c.toNat < 128

lemma toList_loop_eq (bs : ByteArray) (i : Nat) (r : List UInt8) :
    ByteArray.toList.loop bs i r = r.reverse ++ bs.data.toList.drop i := by
  fun_induction ByteArray.toList.loop bs i r with
  | case1 i r hlt ih =>
    have hget : bs.data.toList.drop i = bs.get! i :: bs.data.toList.drop (i + 1) := by
      have hi : i < bs.data.toList.length := by simpa using hlt
      have hbyte : bs.get! i = bs.data[i] := getElem!_pos bs.data i (by simpa using hlt)
      rw [drop_eq_getElem_cons hi, hbyte, Array.getElem_toList]
    rw [ih, hget]
    simp
  | case2 i r hle =>
    have hdrop : bs.data.toList.drop i = [] := by simpa using hle
    rw [hdrop, append_nil]

lemma toUTF8_toList_eq (s : String) : s.toUTF8.toList = s.toList.flatMap utf8EncodeChar := by
  have hbyt : s.toUTF8 = (s.toList.flatMap utf8EncodeChar).toByteArray := by
    rw [toUTF8_eq_toByteArray, ← utf8Encode_toList, utf8Encode]
  rw [ByteArray.toList, toList_loop_eq, hbyt]
  simp

lemma utf8EncodeChar_of_ascii (h : c.toNat < 128) : utf8EncodeChar c = [c.val.toUInt8] := by
  apply utf8EncodeChar_eq_singleton
  rw [Char.utf8Size_eq_one_iff, UInt32.le_iff_toNat_le]
  exact Nat.le_of_lt_succ h

lemma flatMap_utf8EncodeChar_of_ascii (h : ∀ c ∈ cs, c.toNat < 128) :
    (cs.flatMap utf8EncodeChar).map UInt8.toNat = cs.map Char.toNat := by
  induction cs with
  | nil => rfl
  | cons c cs ih =>
    have hc : c.toNat < 128 := h c (by simp)
    have hbyte : c.val.toUInt8.toNat = c.toNat := by
      rw [UInt32.toNat_toUInt8]
      exact Nat.mod_eq_of_lt (by simpa using Nat.lt_trans hc (by decide))
    rw [flatMap_cons, utf8EncodeChar_of_ascii hc, map_append, map_cons, map_nil,
      ih fun d hd => h d (by simp [hd]), hbyte]
    rfl

lemma halves?_of_isAscii (h : IsAscii s) : halves? s = none := by
  have hnone : ∀ c ∈ s.toList, (half? c).isNone = true := by
    intro c hc
    have hlt := h c hc
    have hle : ¬ 0x10D800 ≤ c.toNat := by omega
    simp [half?, hle]
  have hall : s.toList.takeWhile (fun c => (half? c).isNone) = s.toList :=
    takeWhile_eq_self_iff.mpr hnone
  simp [halves?, hall]

lemma bytes_of_isAscii (h : IsAscii s) : bytes s = .ok (s.toList.map Char.toNat) := by
  unfold bytes
  rw [halves?_of_isAscii h, toUTF8_toList_eq, flatMap_utf8EncodeChar_of_ascii h]

lemma utf8ByteSize_of_isAscii (h : IsAscii s) : s.utf8ByteSize = s.toList.length := by
  have hlen : (s.toList.flatMap String.utf8EncodeChar).length = s.toList.length := by
    simpa using congrArg List.length (flatMap_utf8EncodeChar_of_ascii h)
  rw [← String.size_toByteArray, ← String.utf8Encode_toList, List.utf8Encode]
  simpa using hlen

end CloudSpend.Text
