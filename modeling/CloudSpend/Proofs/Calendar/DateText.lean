import CloudSpend.Calendar.Days
import CloudSpend.Text.Search
import Mathlib.Algebra.Group.Nat.Defs
import Mathlib.Tactic.Common

/-! # Days, their written forms and their numbers -/

namespace CloudSpend

open List

theorem append_lt_append_iff {a b s t : List Char} (h : a.length = b.length) :
    a ++ s < b ++ t ↔ a < b ∨ a = b ∧ s < t := by
  induction a generalizing b with
  | nil =>
    obtain rfl : b = [] := length_eq_zero_iff.mp h.symm
    simp
  | cons c a ih =>
    cases b with
    | nil => simp at h
    | cons d b =>
      have hlen : a.length = b.length := by simpa using h
      simp only [cons_append, cons_lt_cons_iff, ih hlen, List.cons.injEq]
      tauto

lemma Text.replaceFrom_eq_filter (c : Char) (cs : List Char) :
    replaceFrom [c] [] 0 cs = cs.filter (· != c) := by
  induction cs with
  | nil => rfl
  | cons d cs ih =>
    rw [replaceFrom]
    grind

namespace Numeral

variable {width n m : Nat}

lemma padded_succ (hwid : 0 < width) (n : Nat) :
    padded (width + 1) n = padded width (n / 10) ++ [Nat.digitChar (n % 10)] := by
  unfold padded
  by_cases hn : n < 10
  · have hzero : n / 10 = 0 := Nat.div_eq_of_lt hn
    obtain ⟨k, rfl⟩ : ∃ k, width = k + 1 := ⟨width - 1, by omega⟩
    rw [hzero, Nat.mod_eq_of_lt hn, Nat.toDigits_of_lt_base hn, Nat.toDigits_zero]
    simp [replicate_succ']
  · rw [Nat.toDigits_of_base_le (by decide) (Nat.not_lt.mp hn)]
    simp

lemma isDigit_of_mem_padded {c : Char} (h : c ∈ padded width n) : c.isDigit := by
  unfold padded at h
  rcases mem_append.mp h with h | h
  · rw [eq_of_mem_replicate h]
    decide
  · exact Nat.isDigit_of_mem_toDigits (by decide) (by decide) h

lemma length_padded (hwid : 0 < width) (hn : n < 10 ^ width) : (padded width n).length = width := by
  have hle : (Nat.toDigits 10 n).length ≤ width :=
    (Nat.length_toDigits_le_iff (by decide) hwid).mpr hn
  simp [padded, hle]

lemma digitChar_lt_digitChar_iff {a b : Nat} (ha : a < 10) (hb : b < 10) :
    Nat.digitChar a < Nat.digitChar b ↔ a < b := by
  have hall : ∀ a : Fin 10, ∀ b : Fin 10, Nat.digitChar a < Nat.digitChar b ↔ a.1 < b.1 := by decide
  exact hall ⟨a, ha⟩ ⟨b, hb⟩

lemma ofDigitChars_padded (width n : Nat) : Nat.ofDigitChars 10 (padded width n) 0 = n := by
  rw [padded, Nat.ofDigitChars_append, Nat.ofDigitChars_replicate_zero, Nat.mul_zero,
    Nat.ofDigitChars_ten_toDigits]

lemma padded_inj (h : padded width m = padded width n) : m = n := by
  rw [← ofDigitChars_padded width m, h, ofDigitChars_padded]

lemma padded_lt_padded_iff (k : Nat) (hm : m < 10 ^ (k + 1)) (hn : n < 10 ^ (k + 1)) :
    padded (k + 1) m < padded (k + 1) n ↔ m < n := by
  induction k generalizing m n with
  | zero =>
    have hm' : m < 10 := by simpa using hm
    have hn' : n < 10 := by simpa using hn
    have hdig := digitChar_lt_digitChar_iff hm' hn'
    simp [padded, Nat.toDigits_of_lt_base hm', Nat.toDigits_of_lt_base hn',
      cons_lt_cons_iff, hdig]
  | succ k ih =>
    have hpow : 10 ^ (k + 1 + 1) = 10 ^ (k + 1) * 10 := by rw [Nat.pow_succ]
    have hm' : m / 10 < 10 ^ (k + 1) := by omega
    have hn' : n / 10 < 10 ^ (k + 1) := by omega
    have hlen : (padded (k + 1) (m / 10)).length = (padded (k + 1) (n / 10)).length := by
      rw [length_padded k.succ_pos hm', length_padded k.succ_pos hn']
    have hdig : Nat.digitChar (m % 10) < Nat.digitChar (n % 10) ↔ m % 10 < n % 10 :=
      digitChar_lt_digitChar_iff (Nat.mod_lt _ (by decide)) (Nat.mod_lt _ (by decide))
    have heq : padded (k + 1) (m / 10) = padded (k + 1) (n / 10) ↔ m / 10 = n / 10 :=
      ⟨padded_inj, fun h => by rw [h]⟩
    rw [padded_succ k.succ_pos, padded_succ k.succ_pos, append_lt_append_iff hlen, ih hm' hn', heq,
      cons_lt_cons_iff, hdig]
    simp only [not_lt_nil, and_false, or_false]
    omega

end Numeral

namespace Date

def IsDay (d : Date) : Prop := ofParts d.year d.month d.day = .ok d

instance (d : Date) : Decidable d.IsDay := inferInstanceAs (Decidable (_ = _))

def digits (d : Date) : List Char :=
  Numeral.padded 4 d.year ++ Numeral.padded 2 d.month ++ Numeral.padded 2 d.day

lemma daysInMonth_le (year month : Nat) : daysInMonth year month ≤ 31 := by
  unfold daysInMonth
  split
  · split <;> decide
  · split <;> decide

lemma IsDay.bounds {d : Date} (h : d.IsDay) :
    d.year < 10 ^ 4 ∧ d.month < 10 ^ 2 ∧ d.day < 10 ^ 2 := by
  have hdays := daysInMonth_le d.year d.month
  unfold IsDay ofParts at h
  grind

variable {d e : Date}

lemma length_year (hd : d.IsDay) : (Numeral.padded 4 d.year).length = 4 :=
  Numeral.length_padded (by decide) hd.bounds.1

lemma length_month (hd : d.IsDay) : (Numeral.padded 2 d.month).length = 2 :=
  Numeral.length_padded (by decide) hd.bounds.2.1

lemma length_day (hd : d.IsDay) : (Numeral.padded 2 d.day).length = 2 :=
  Numeral.length_padded (by decide) hd.bounds.2.2

lemma length_digits (hd : d.IsDay) : d.digits.length = 8 := by
  simp [digits, length_year hd, length_month hd, length_day hd]

lemma isDigit_of_mem_digits {c : Char} (h : c ∈ d.digits) : c.isDigit := by
  unfold digits at h
  rcases mem_append.mp h with h | h
  · rcases mem_append.mp h with h | h
    · exact Numeral.isDigit_of_mem_padded h
    · exact Numeral.isDigit_of_mem_padded h
  · exact Numeral.isDigit_of_mem_padded h

lemma digits_inj (hd : d.IsDay) (he : e.IsDay) (h : d.digits = e.digits) : d = e := by
  unfold digits at h
  obtain ⟨hfro, hday⟩ := append_inj' h (by rw [length_day hd, length_day he])
  obtain ⟨hyear, hmon⟩ := append_inj' hfro (by rw [length_month hd, length_month he])
  cases d
  cases e
  simp only [Date.mk.injEq]
  exact ⟨Numeral.padded_inj hyear, Numeral.padded_inj hmon, Numeral.padded_inj hday⟩

lemma toList_text (d : Date) :
    d.text.toList = Numeral.padded 4 d.year ++
      '-' :: (Numeral.padded 2 d.month ++ '-' :: Numeral.padded 2 d.day) := by
  simp [text]

lemma replace_text (d : Date) : Text.replace d.text "-" "" = String.ofList d.digits := by
  have hkept : ∀ width n, (Numeral.padded width n).filter (· != '-') = Numeral.padded width n := by
    intro width n
    rw [filter_eq_self]
    intro c hc
    have hdig := Numeral.isDigit_of_mem_padded hc
    rw [bne_iff_ne]
    rintro rfl
    exact absurd hdig (by decide)
  have hfil : Text.replaceFrom "-".toList "".toList 0 d.text.toList = d.text.toList.filter (· != '-') :=
    Text.replaceFrom_eq_filter '-' _
  unfold Text.replace digits
  rw [hfil, toList_text]
  simp [filter_append, hkept]

lemma text_lt_text_iff (hd : d.IsDay) (he : e.IsDay) : d.text < e.text ↔ d.lt e = true := by
  have hyear : Numeral.padded 4 d.year < Numeral.padded 4 e.year ↔ d.year < e.year :=
    Numeral.padded_lt_padded_iff 3 hd.bounds.1 he.bounds.1
  have hmon : Numeral.padded 2 d.month < Numeral.padded 2 e.month ↔ d.month < e.month :=
    Numeral.padded_lt_padded_iff 1 hd.bounds.2.1 he.bounds.2.1
  have hday : Numeral.padded 2 d.day < Numeral.padded 2 e.day ↔ d.day < e.day :=
    Numeral.padded_lt_padded_iff 1 hd.bounds.2.2 he.bounds.2.2
  have hyea : (Numeral.padded 4 d.year).length = (Numeral.padded 4 e.year).length := by
    rw [length_year hd, length_year he]
  have hmnt : (Numeral.padded 2 d.month).length = (Numeral.padded 2 e.month).length := by
    rw [length_month hd, length_month he]
  have hsame : ∀ {width m n : Nat}, Numeral.padded width m = Numeral.padded width n ↔ m = n :=
    ⟨Numeral.padded_inj, fun h => by rw [h]⟩
  have hlis : d.text < e.text ↔ d.text.toList < e.text.toList := Iff.rfl
  unfold lt
  rw [hlis, toList_text, toList_text, append_lt_append_iff hyea,
    cons_lt_cons_iff, append_lt_append_iff hmnt,
    cons_lt_cons_iff, hyear, hmon, hday, hsame, hsame]
  simp

lemma daysBeforeYear_eq {a b c d : Nat} (hb : b ≤ 3) (hc : c ≤ 24) (hd : d ≤ 3) :
    daysBeforeYear (a * 400 + b * 100 + c * 4 + d + 1) = a * 146097 + b * 36524 + c * 1461 + d * 365 := by
  unfold daysBeforeYear
  dsimp only
  omega

variable {month n : Nat}

lemma daysBeforeMonth_succ (year : Nat) (h : 1 ≤ month) :
    daysBeforeMonth year (month + 1) = daysBeforeMonth year month + daysInMonth year month := by
  obtain ⟨m, rfl⟩ := Nat.exists_eq_add_of_le' h
  unfold daysBeforeMonth
  simp only [Nat.add_sub_cancel, range_succ, map_append, map_cons, map_nil, foldl_append,
    foldl_cons, foldl_nil]

lemma daysBeforeMonth_end (year : Nat) : daysBeforeMonth year 13 = if isLeap year then 366 else 365 := by
  cases hleap : isLeap year <;> simp [daysBeforeMonth, daysInMonth, range_succ, hleap]

lemma monthAndDay_spec (year : Nat) {fuel : Nat} (hmon : 1 ≤ month) (hfuel : fuel + month = 12)
    (hn : daysBeforeMonth year month + n < daysBeforeMonth year 13) : let found := monthAndDay year fuel month n
    (1 ≤ found.1 ∧ found.1 ≤ 12) ∧ (1 ≤ found.2 ∧ found.2 ≤ daysInMonth year found.1) ∧
      daysBeforeMonth year found.1 + found.2 = daysBeforeMonth year month + n + 1 := by
  induction fuel generalizing month n with
  | zero =>
    obtain rfl : month = 12 := by omega
    have hend : daysBeforeMonth year 13 = daysBeforeMonth year 12 + daysInMonth year 12 :=
      daysBeforeMonth_succ year (by omega)
    simp only [monthAndDay]
    omega
  | succ fuel ih =>
    simp only [monthAndDay]
    split
    · dsimp only
      omega
    · have hsucc := daysBeforeMonth_succ year hmon
      grind

lemma exists_year (k : Nat) : ∃ year r, 1 ≤ year ∧ (k < maxOrdinal → year ≤ 9999) ∧
    daysBeforeYear year + r = k ∧ r < daysBeforeMonth year 13 ∧
    ofOrdinal (k + 1) = ⟨year, (monthAndDay year 11 1 r).1, (monthAndDay year 11 1 r).2⟩ := by
  obtain ⟨q, hq⟩ : ∃ q, q = k % 146097 := ⟨_, rfl⟩
  obtain ⟨b, hb⟩ : ∃ b, b = min (q / 36524) 3 := ⟨_, rfl⟩
  obtain ⟨q', hq'⟩ : ∃ q', q' = q - b * 36524 := ⟨_, rfl⟩
  obtain ⟨d, hd⟩ : ∃ d, d = min (q' % 1461 / 365) 3 := ⟨_, rfl⟩
  have hlast : q' ≤ 36524 ∧ (q' = 36524 → b = 3) := by omega
  have hlast' : q' % 1461 - d * 365 ≤ 365 ∧ (q' % 1461 - d * 365 = 365 → d = 3) := by omega
  have hsta : daysBeforeYear (k / 146097 * 400 + b * 100 + q' / 1461 * 4 + d + 1) = _ :=
    daysBeforeYear_eq (by omega) (by omega) (by omega)
  refine ⟨k / 146097 * 400 + b * 100 + q' / 1461 * 4 + d + 1, q' % 1461 - d * 365, by omega, fun hk => ?_,
    by omega, ?_, by simp only [ofOrdinal, Nat.add_sub_cancel, hd, hq', hb, hq]⟩
  · rw [maxOrdinal] at hk
    omega
  · rw [daysBeforeMonth_end]
    split
    · omega
    · next hleap =>
        simp only [isLeap, Bool.and_eq_true, Bool.or_eq_true, beq_iff_eq, bne_iff_ne, not_and_or, not_or] at hleap
        omega

lemma ofOrdinal_spec (h : 1 ≤ n) (hn : n ≤ maxOrdinal) : (ofOrdinal n).IsDay ∧ (ofOrdinal n).ordinal = n := by
  obtain ⟨k, rfl⟩ := Nat.exists_eq_add_of_le' h
  obtain ⟨year, r, hpos, hyear, hk, hr, hdate⟩ := exists_year k
  have hfir : daysBeforeMonth year 1 = 0 := rfl
  obtain ⟨hmon, hday, hsum⟩ := monthAndDay_spec year (Nat.le_refl 1) (rfl : 11 + 1 = 12)
    (by rwa [hfir, Nat.zero_add])
  rw [hdate]
  constructor
  · have hbou := hyear (Nat.lt_of_succ_le hn)
    rw [IsDay, ofParts, if_neg (by simp; omega), if_neg (by simp; omega), if_neg (by simp; omega)]
  · rw [ordinal]
    dsimp only
    omega

lemma text_inj (hd : d.IsDay) (he : e.IsDay) (h : d.text = e.text) : d = e := by
  have hdig := congrArg (Text.replace · "-" "") h
  simp only [replace_text] at hdig
  exact digits_inj hd he (String.ofList_injective hdig)

lemma before_eq_ok (h : d.before 30 = .ok e) :
    ∃ n, 1 ≤ n ∧ n ≤ maxOrdinal ∧ n + 30 = d.ordinal ∧ e = ofOrdinal n := by
  have hmov : d.before 30 = d.moved (-30) := rfl
  rw [hmov, moved, addDays?] at h
  grind

lemma ordinal_eq_of_before {d' e' : Date} (h : d.before 30 = .ok e) (h' : d'.before 30 = .ok e')
    (htext : e.text = e'.text) : d.ordinal = d'.ordinal := by
  obtain ⟨n, hn, hmax, hd, rfl⟩ := before_eq_ok h
  obtain ⟨n', hn', hmax', hd', rfl⟩ := before_eq_ok h'
  obtain ⟨hday, hord⟩ := ofOrdinal_spec hn hmax
  obtain ⟨hday', hord'⟩ := ofOrdinal_spec hn' hmax'
  rw [← hd, ← hd', ← hord, ← hord', text_inj hday hday' htext]

end Date

end CloudSpend
