import CloudSpend.Data.Json
import CloudSpend.Proofs.Data.Entries

/-! # What is read as JSON can be written -/

namespace CloudSpend.Json

variable {xs : List Value} {es : List (String × Value)} {v : Value}

lemma foreignInList?_eq_none : foreignInList? xs = none ↔ ∀ v ∈ xs, foreign? v = none := by
  induction xs with
  | nil => simp [foreignInList?]
  | cons v xs ih => simp [foreignInList?, Option.or_eq_none_iff, ih]

lemma foreignInTable?_eq_none : foreignInTable? es = none ↔ ∀ e ∈ es, foreign? e.2 = none := by
  induction es with
  | nil => simp [foreignInTable?]
  | cons e es ih => simp [foreignInTable?, Option.or_eq_none_iff, ih]

lemma foreign?_list (h : ∀ v ∈ xs, foreign? v = none) : foreign? (.list xs) = none := by
  rw [foreign?]
  exact foreignInList?_eq_none.mpr h

lemma foreign?_object (h : ∀ e ∈ es, foreign? e.2 = none) : foreign? (.object es) = none := by
  rw [foreign?]
  exact foreignInTable?_eq_none.mpr h

lemma foreign?_of_scalar {pos : Nat} {cs : List Char} {rest : Nat × List Char}
    (h : scalar pos cs = .ok (v, rest)) : foreign? v = none := by
  unfold scalar at h
  split at h
  · next step hfou =>
      obtain ⟨word, hword, hstep⟩ := List.exists_of_findSome?_eq_some hfou
      obtain ⟨after, -, hval⟩ := Option.map_eq_some_iff.mp hstep
      have hwor : ∀ word ∈ words, foreign? word.2 = none := by
        simp [words, foreign?]
      grind
  · unfold number at h
    split at h
    · cases h
    · dsimp only at h
      split at h
      · split at h
        · cases h
        · cases h
          rfl
      · cases h
        rfl

lemma foreign?_of_step (fuel : Nat) :
    (∀ {room pos : Nat} {cs : List Char} {v : Value} {rest : Nat × List Char},
      value fuel room pos cs = .ok (v, rest) → foreign? v = none) ∧
    (∀ {room pos : Nat} {acc : List Value} {cs : List Char} {v : Value} {rest : Nat × List Char},
      (∀ x ∈ acc, foreign? x = none) → items fuel room pos acc cs = .ok (v, rest) → foreign? v = none) ∧
    (∀ {room pos : Nat} {acc : List (String × Value)} {cs : List Char} {v : Value} {rest : Nat × List Char},
      (∀ e ∈ acc, foreign? e.2 = none) → entries fuel room pos acc cs = .ok (v, rest) → foreign? v = none) := by
  induction fuel with
  | zero =>
    refine ⟨fun h => ?_, fun _ h => ?_, fun _ h => ?_⟩
    · rw [value] at h
      cases h
    · rw [items] at h
      cases h
    · rw [entries] at h
      cases h
  | succ fuel ih =>
    obtain ⟨ihvalue, ihitems, ihentries⟩ := ih
    refine ⟨fun {room pos cs v rest} h => ?_, fun {room pos acc cs v rest} hacc h => ?_,
      fun {room pos acc cs v rest} hacc h => ?_⟩
    · unfold value at h
      split at h
      · cases h
      · cases hcha : chars pos fuel (pos + 1) [] ‹_› with
        | error e => simp [hcha, Except.map] at h
        | ok step =>
          rw [hcha] at h
          cases h
          rfl
      · split at h
        · cases h
        · split at h
          · cases h
            rfl
          · exact ihitems (by simp) h
      · split at h
        · cases h
        · split at h
          · cases h
            rfl
          · exact ihentries (by simp) h
      · exact foreign?_of_scalar h
    · unfold items at h
      split at h
      · cases h
      · next x pos' rest' hval =>
          have hall : ∀ y ∈ x :: acc, foreign? y = none := List.forall_mem_cons.mpr ⟨ihvalue hval, hacc⟩
          split at h
          · cases h
            exact foreign?_list fun y hy => hall y (List.mem_reverse.mp hy)
          · exact ihitems hall h
          · cases h
    · unfold entries at h
      split at h
      · split at h
        · cases h
        · next key pos' rest' hcha =>
            split at h
            · dsimp only at h
              split at h
              · cases h
              · next x pos'' rest'' hval =>
                  have hall : ∀ e ∈ Entries.put acc key x, foreign? e.2 = none := by
                    intro e he
                    rcases Entries.mem_or_eq_of_mem_put he with he | rfl
                    · exact hacc e he
                    · exact ihvalue hval
                  split at h
                  · cases h
                    exact foreign?_object hall
                  · exact ihentries hall h
                  · cases h
            · cases h
      · cases h

lemma read_empty : read "" = .error (Problem.fault [] (.at "Expecting value" 0)) := by
  have hval : value 2 maxDepth 0 [] = .error (.at "Expecting value" 0) := by simp only [value]
  have hcha : readChars [] = .error (.at "Expecting value" 0) := by
    simp only [readChars, skip, List.length_nil, Nat.mul_zero, Nat.zero_add, hval]
  have hread : read "" = decodeChars [] := rfl
  rw [hread, decodeChars, hcha]
  rfl

lemma encode_of_read {s : String} (h : read s = .ok v) : encode v = .ok (write v) := by
  have hfor : foreign? v = none := by
    unfold read at h
    split at h
    · cases h
    · unfold decodeChars readChars at h
      dsimp only at h
      split at h
      · cases h
      · next x pos rest hval =>
          split at h
          · cases h
            exact (foreign?_of_step _).1 hval
          · cases h
  rw [encode, hfor]

end CloudSpend.Json
