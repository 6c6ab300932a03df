import CloudSpend.Api.Endpoint
import CloudSpend.Proofs.Calendar.DateText
import CloudSpend.Proofs.Numeral.Integer

/-! # What can be sent -/

namespace CloudSpend

open List String

namespace Text

def IsWhole (s : String) : Prop := ∀ c ∈ s.toList, half? c = none

lemma halves?_eq_none_iff (s : String) : halves? s = none ↔ IsWhole s := by
  let p : Char → Bool := fun c => (half? c).isNone
  have hdrop : s.toList.drop (s.toList.takeWhile p).length = s.toList.dropWhile p := by
    calc s.toList.drop (s.toList.takeWhile p).length
        = (s.toList.takeWhile p ++ s.toList.dropWhile p).drop (s.toList.takeWhile p).length := by
          rw [List.takeWhile_append_dropWhile]
      _ = s.toList.dropWhile p := List.drop_left
  have hhal : halves? s = (((s.toList.dropWhile p).takeWhile fun c => (half? c).isSome).head?.bind
      half?).map fun unit => ((s.toList.takeWhile p).length,
        ((s.toList.dropWhile p).takeWhile fun c => (half? c).isSome).length, unit) := by
    rw [← hdrop]
    rfl
  have hall : s.toList.dropWhile p = [] ↔ IsWhole s := by
    rw [List.dropWhile_eq_nil_iff]
    simp [p, IsWhole]
  rw [hhal, ← hall]
  cases hrest : s.toList.dropWhile p with
  | nil => simp
  | cons c rest =>
    have hhead := List.head?_dropWhile_not p s.toList
    rw [hrest] at hhead
    have hsome : (half? c).isSome = true := by
      have hc : ¬ p c = true := by simpa using hhead
      simpa [p, Option.isNone_iff_eq_none, Option.isSome_iff_ne_none] using hc
    obtain ⟨unit, hunit⟩ := Option.isSome_iff_exists.mp hsome
    simp [hunit]

variable {s t : String} {n : Nat} {c : Char}

lemma exists_bytes (h : IsWhole s) : ∃ bs, bytes s = .ok bs := by
  unfold bytes
  rw [(halves?_eq_none_iff s).mpr h]
  exact ⟨_, rfl⟩

lemma IsAscii.isWhole (h : IsAscii s) : IsWhole s :=
  (halves?_eq_none_iff s).mp (halves?_of_isAscii h)

lemma IsWhole.append (hs : IsWhole s) (ht : IsWhole t) : IsWhole (s ++ t) := by
  intro c hc
  rw [toList_append] at hc
  exact (mem_append.mp hc).elim (hs c) (ht c)

lemma IsAscii.append (hs : IsAscii s) (ht : IsAscii t) : IsAscii (s ++ t) := by
  intro c hc
  rw [toList_append] at hc
  exact (mem_append.mp hc).elim (hs c) (ht c)

instance : DecidablePred IsAscii := fun s => decidableBAll _ s.toList

lemma toNat_lt_of_mem_toDigits {b : Nat} (h : c ∈ Nat.toDigits b n) : c.toNat < 128 := by
  have hdig : ∀ d, (Nat.digitChar d).toNat < 128 := by
    have hsma : ∀ d < 16, (Nat.digitChar d).toNat < 128 := by decide
    intro d
    by_cases hd : d < 16
    · exact hsma d hd
    · obtain ⟨k, rfl⟩ := Nat.exists_eq_add_of_le' (Nat.not_lt.mp hd)
      have hstar : Nat.digitChar (k + 16) = '*' := by simp [Nat.digitChar]
      rw [hstar]
      decide
  have hcore : ∀ (fuel n : Nat) (ds : List Char), (∀ c ∈ ds, c.toNat < 128) →
      ∀ c ∈ Nat.toDigitsCore b fuel n ds, c.toNat < 128 := by
    intro fuel
    induction fuel with
    | zero => exact fun n ds hds => hds
    | succ fuel ih =>
      intro n ds hds
      have hmore : ∀ c ∈ Nat.digitChar (n % b) :: ds, c.toNat < 128 := by
        simpa using ⟨hdig _, hds⟩
      unfold Nat.toDigitsCore
      dsimp only
      split
      · exact hmore
      · exact ih _ _ hmore
  exact hcore _ _ [] (by simp) c h

lemma isAscii_hex (width n : Nat) : ∀ c ∈ hex width n, c.toNat < 128 := by
  intro c hc
  rcases mem_append.mp hc with hc | hc
  · rw [eq_of_mem_replicate hc]
    decide
  · exact toNat_lt_of_mem_toDigits hc

lemma isAscii_groupIdentifier {ds : List Char} (h : ∀ c ∈ ds, c.toNat < 128) :
    IsAscii (Form.groupIdentifier ds) := by
  have hpart : ∀ start count, IsAscii (ofList ((ds.drop start).take count)) := by
    intro start count c hc
    rw [toList_ofList] at hc
    exact h c (mem_of_mem_drop (mem_of_mem_take hc))
  have hdash : IsAscii "-" := by decide
  exact ((((((((hpart _ _).append hdash).append (hpart _ _)).append hdash).append (hpart _ _)).append
    hdash).append (hpart _ _)).append hdash).append (hpart _ _)

lemma toNat_lt_of_mem_padded {width : Nat} (h : c ∈ Numeral.padded width n) : c.toNat < 128 := by
  rcases mem_append.mp h with hc | hc
  · rw [eq_of_mem_replicate hc]
    decide
  · exact toNat_lt_of_mem_toDigits hc

lemma isAscii_ofList {cs : List Char} (h : ∀ c ∈ cs, c.toNat < 128) : IsAscii (ofList cs) := by
  intro c hc
  rw [toList_ofList] at hc
  exact h c hc

end Text

open Text

lemma Timestamp.isAscii_text (t : Timestamp) : IsAscii t.text := by
  have hdate : IsAscii t.date.text := by
    refine isAscii_ofList fun c hc => ?_
    simp only [mem_append, mem_singleton] at hc
    rcases hc with (((hc | rfl) | hc) | rfl) | hc
    · exact toNat_lt_of_mem_padded hc
    · decide
    · exact toNat_lt_of_mem_padded hc
    · decide
    · exact toNat_lt_of_mem_padded hc
  have hoff : IsAscii ((t.offset.map offsetText).getD "") := by
    cases t.offset with
    | none => decide
    | some seconds =>
      refine isAscii_ofList fun c hc => ?_
      simp only [mem_append, mem_singleton] at hc
      rcases hc with (((hc | hc) | rfl) | hc) | hc
      · rw [hc]
        split <;> decide
      · exact toNat_lt_of_mem_padded hc
      · decide
      · exact toNat_lt_of_mem_padded hc
      · split at hc
        · simp at hc
        · rcases mem_cons.mp hc with rfl | hc
          · decide
          · exact toNat_lt_of_mem_padded hc
  have hclo : IsAscii (ofList (Numeral.padded 2 t.hour ++ [':'] ++ Numeral.padded 2 t.minute ++
      [':'] ++ Numeral.padded 2 t.second ++
      (if t.micro == 0 then [] else '.' :: Numeral.padded 6 t.micro))) := by
    refine isAscii_ofList fun c hc => ?_
    simp only [mem_append, mem_singleton] at hc
    rcases hc with ((((hc | rfl) | hc) | rfl) | hc) | hc
    · exact toNat_lt_of_mem_padded hc
    · decide
    · exact toNat_lt_of_mem_padded hc
    · decide
    · exact toNat_lt_of_mem_padded hc
    · split at hc
      · simp at hc
      · rcases mem_cons.mp hc with rfl | hc
        · decide
        · exact toNat_lt_of_mem_padded hc
  exact (hdate.append (by decide)).append (hclo.append hoff)

inductive IsSendable : Value → Prop where
  | null : IsSendable .null
  | bool (b : Bool) : IsSendable (.bool b)
  | int (n : Int) : IsSendable (.int n)
  | text {s : String} (h : IsWhole s) : IsSendable (.text s)
  | list {xs : List Value} (h : ∀ v ∈ xs, IsSendable v) : IsSendable (.list xs)
  | object {es : List (String × Value)} (hkeys : ∀ e ∈ es, IsWhole e.1) (h : ∀ e ∈ es, IsSendable e.2) :
      IsSendable (.object es)

namespace IsSendable

lemma texts {ss : List String} (h : ∀ s ∈ ss, IsWhole s) : IsSendable (Value.texts ss) := by
  refine .list fun v hv => ?_
  obtain ⟨s, hs, rfl⟩ := mem_map.mp hv
  exact .text (h s hs)

variable {xs : List Value} {es : List (String × Value)} {v : Value} {level : Nat}

lemma renderItems_eq (h : ∀ v ∈ xs, Api.render v = .ok v) : Api.renderItems xs = .ok xs := by
  induction xs with
  | nil => rfl
  | cons v xs ih =>
    simp only [Api.renderItems, h v mem_cons_self, ih fun w hw => h w (mem_cons_of_mem v hw)]
    rfl

lemma renderEntries_eq (h : ∀ e ∈ es, Api.render e.2 = .ok e.2) : Api.renderEntries es = .ok es := by
  induction es with
  | nil => rfl
  | cons e es ih =>
    simp only [Api.renderEntries, h e mem_cons_self,
      ih fun d hd => h d (mem_cons_of_mem e hd)]
    rfl

lemma render_eq (h : IsSendable v) : Api.render v = .ok v := by
  induction h with
  | null => rfl
  | bool b => rfl
  | int n => rfl
  | text h => rfl
  | list _ ih => simp [Api.render, renderItems_eq ih, Except.map]
  | object _ _ ih => simp [Api.render, renderEntries_eq ih, Except.map]

lemma mem_escapeChar {ascii : Bool} {c d : Char} (h : d ∈ Json.escapeChar ascii c) :
    d = c ∨ d.toNat < 128 := by
  have hcode : ∀ {n : Nat}, d ∈ '\\' :: 'u' :: hex 4 n → d.toNat < 128 := by
    intro n hd
    simp only [mem_cons] at hd
    rcases hd with rfl | rfl | hd
    · decide
    · decide
    · exact isAscii_hex 4 n d hd
  have hpair : ∀ {e : Char}, e.toNat < 128 → d ∈ ['\\', e] → d.toNat < 128 := by
    intro e he hd
    simp only [mem_cons, not_mem_nil, or_false] at hd
    rcases hd with rfl | rfl
    · decide
    · exact he
  unfold Json.escapeChar at h
  split at h
  · next hc =>
      refine .inr (hpair ?_ h)
      simp only [Bool.or_eq_true, beq_iff_eq] at hc
      rcases hc with rfl | rfl <;> decide
  grind

lemma isWhole_quoteIn (ascii : Bool) {s : String} (h : IsWhole s) : IsWhole (Json.quoteIn ascii s) := by
  have hasc : ∀ d : Char, d.toNat < 128 → half? d = none := by
    intro d hd
    have hle : ¬ 0x10D800 ≤ d.toNat := by omega
    simp [half?, hle]
  intro c hc
  rw [Json.quoteIn, toList_ofList] at hc
  simp only [mem_cons, mem_append, mem_flatMap, not_mem_nil, or_false] at hc
  rcases hc with rfl | ⟨d, hd, hc⟩ | rfl
  · rfl
  · rcases mem_escapeChar hc with rfl | hlt
    · exact h c hd
    · exact hasc c hlt
  · rfl

lemma isWhole_separators (level : Nat) : IsWhole Json.Style.direct.comma ∧
    IsWhole Json.Style.direct.colon ∧ IsWhole (Json.breakLine .direct level) :=
  ⟨IsAscii.isWhole (by decide), IsAscii.isWhole (by decide), IsAscii.isWhole fun _ hc => nomatch hc⟩

lemma isWhole_writeItems (h : ∀ v ∈ xs, IsWhole (Json.writeAt .direct level v)) :
    IsWhole (Json.writeItems .direct level xs) := by
  obtain ⟨hcom, -, hbre⟩ := isWhole_separators level
  induction xs with
  | nil => exact IsAscii.isWhole (by rw [Json.writeItems]; decide)
  | cons v rest ih =>
    have hv := h v mem_cons_self
    have hrest := ih fun w hw => h w (mem_cons_of_mem v hw)
    cases rest with
    | nil =>
      rw [Json.writeItems]
      exact hv
    | cons w more =>
      rw [Json.writeItems]
      · exact ((hv.append hcom).append hbre).append hrest
      · simp

lemma isWhole_writeEntries (hkeys : ∀ e ∈ es, IsWhole e.1)
    (h : ∀ e ∈ es, IsWhole (Json.writeAt .direct level e.2)) :
    IsWhole (Json.writeEntries .direct level es) := by
  obtain ⟨hcom, hcol, hbre⟩ := isWhole_separators level
  induction es with
  | nil => exact IsAscii.isWhole (by rw [Json.writeEntries]; decide)
  | cons e rest ih =>
    have he := ((isWhole_quoteIn false (hkeys e mem_cons_self)).append hcol).append
      (h e mem_cons_self)
    have hrest := ih (fun d hd => hkeys d (mem_cons_of_mem e hd))
      fun d hd => h d (mem_cons_of_mem e hd)
    cases rest with
    | nil =>
      rw [Json.writeEntries]
      exact he
    | cons d more =>
      rw [Json.writeEntries]
      · exact ((he.append hcom).append hbre).append hrest
      · simp

lemma isWhole_writeList (h : ∀ v ∈ xs, ∀ level, IsWhole (Json.writeAt .direct level v)) (level : Nat) :
    IsWhole (Json.writeAt .direct level (.list xs)) := by
  cases xs with
  | nil => exact IsAscii.isWhole (by rw [Json.writeAt]; decide)
  | cons v rest =>
    have hopen : IsWhole "[" := IsAscii.isWhole (by decide)
    have hclo : IsWhole "]" := IsAscii.isWhole (by decide)
    rw [Json.writeAt]
    · exact (((hopen.append (isWhole_separators _).2.2).append
        (isWhole_writeItems fun w hw => h w hw _)).append (isWhole_separators _).2.2).append hclo
    · simp

lemma isWhole_writeObject (hkeys : ∀ e ∈ es, IsWhole e.1)
    (h : ∀ e ∈ es, ∀ level, IsWhole (Json.writeAt .direct level e.2)) (level : Nat) :
    IsWhole (Json.writeAt .direct level (.object es)) := by
  cases es with
  | nil => exact IsAscii.isWhole (by rw [Json.writeAt]; decide)
  | cons e rest =>
    have hopen : IsWhole "\x7b" := IsAscii.isWhole (by decide)
    have hclo : IsWhole "\x7d" := IsAscii.isWhole (by decide)
    rw [Json.writeAt]
    · exact (((hopen.append (isWhole_separators _).2.2).append (isWhole_writeEntries hkeys
        fun d hd => h d hd _)).append (isWhole_separators _).2.2).append hclo
    · simp

lemma isWhole_writeAt (h : IsSendable v) : ∀ level, IsWhole (Json.writeAt .direct level v) := by
  induction h with
  | null => exact fun _ => IsAscii.isWhole (by rw [Json.writeAt]; decide)
  | bool b => exact fun _ => IsAscii.isWhole (by rw [Json.writeAt]; cases b <;> decide)
  | int n =>
    intro level
    rw [Json.writeAt]
    refine IsAscii.isWhole fun c hc => ?_
    rw [Numeral.toList_toString_int] at hc
    split at hc
    · rcases mem_cons.mp hc with rfl | hc
      · decide
      · exact toNat_lt_of_mem_toDigits hc
    · exact toNat_lt_of_mem_toDigits hc
  | text h =>
    intro level
    rw [Json.writeAt]
    exact isWhole_quoteIn _ h
  | list _ ih => exact isWhole_writeList ih
  | object hkeys _ ih => exact isWhole_writeObject hkeys ih

lemma sendable_eq (h : IsSendable v) : Api.sendable v = .ok v := by
  obtain ⟨bs, hbs⟩ := exists_bytes (h.isWhole_writeAt 0)
  rw [Api.sendable, Json.writeIn, hbs]
  rfl

end IsSendable

end CloudSpend
