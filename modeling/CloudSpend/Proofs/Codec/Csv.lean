import CloudSpend.Codec.Csv
import CloudSpend.Proofs.Data.Entries

/-! # Rows of separated values -/

namespace CloudSpend.Codec.Csv

open State

def overlong : Fault := .csv "field larger than field limit (131072)"

variable {s s' : State} {c : Char} {e : Fault} {phase : Phase} {text : String}

lemma error_of_add (h : s.add c phase = .error e) : e = overlong := by
  unfold add at h
  split at h
  · exact (Except.error.inj h).symm
  · cases h

lemma error_of_beginField (h : s.beginField c = .error e) : e = overlong := by
  unfold beginField at h
  split at h
  · cases h
  · split at h
    · cases h
    · split at h
      · cases h
      · exact error_of_add h

lemma error_of_read (hpha : s.phase ≠ .lineEnd) (h : s.read c = .error e) : e = overlong := by
  unfold State.read at h
  split at h
  · split at h
    · cases h
    · exact error_of_beginField h
  · exact error_of_beginField h
  · split at h
    · cases h
    · split at h
      · cases h
      · exact error_of_add h
  · split at h
    · cases h
    · exact error_of_add h
  · split at h
    · exact error_of_add h
    · split at h
      · cases h
      · split at h
        · cases h
        · exact error_of_add h
  · exact absurd ‹_› hpha

lemma phase_of_add (h : s.add c phase = .ok s') : s'.phase = phase := by
  unfold add at h
  split at h
  · cases h
  · cases h
    rfl

lemma phase_of_beginField (hc : isLineEnd c = false) (h : s.beginField c = .ok s') : s'.phase ≠ .lineEnd := by
  unfold beginField at h
  rw [hc, if_neg Bool.false_ne_true] at h
  split at h
  · cases h
    simp
  · split at h
    · cases h
      simp [save]
    · simp [phase_of_add h]

lemma phase_of_read (hpha : s.phase ≠ .lineEnd) (hc : isLineEnd c = false) (h : s.read c = .ok s') :
    s'.phase ≠ .lineEnd := by
  unfold State.read at h
  split at h
  · rw [hc, if_neg Bool.false_ne_true] at h
    exact phase_of_beginField hc h
  · exact phase_of_beginField hc h
  · rw [hc, if_neg Bool.false_ne_true] at h
    split at h
    · cases h
      simp [save]
    · simp [phase_of_add h]
  · split at h
    · cases h
      simp
    · simp [phase_of_add h]
  · rw [hc] at h
    split at h
    · simp [phase_of_add h]
    · split at h
      · cases h
        simp [save]
      · simp [phase_of_add h]
  · exact absurd ‹_› hpha

lemma phase_endLine (s : State) : s.endLine.1.phase ≠ .lineEnd := by
  unfold endLine
  split
  · simp [*]
  · simp
  · simp
  · simp
  · simp
  · simp

lemma error_of_scan {cs : List Char} (hcs : '\r' ∉ cs) (hpha : s.phase ≠ .lineEnd) {begun : Bool}
    (h : scan s begun cs = .error e) : e = overlong := by
  induction cs generalizing s begun with
  | nil => cases h
  | cons c cs ih =>
    obtain ⟨hc, hcs⟩ : c ≠ '\r' ∧ '\r' ∉ cs := by simpa [eq_comm] using hcs
    rw [scan] at h
    cases hread : s.read c with
    | error e' =>
      rw [hread] at h
      cases h
      exact error_of_read hpha hread
    | ok s' =>
      rw [hread] at h
      change (if c == '\n' then scan s'.endLine.1 false cs >>= fun found => .ok (s'.endLine.2.toList ++ found)
        else scan s' true cs) = .error e at h
      split at h
      · cases hscan : scan s'.endLine.1 false cs with
        | error e' =>
          rw [hscan] at h
          cases h
          exact ih hcs (phase_endLine s') hscan
        | ok found =>
          rw [hscan] at h
          cases h
      · next hfeed =>
          have hend : isLineEnd c = false := by simpa [isLineEnd, hc] using hfeed
          exact ih hcs (phase_of_read hpha hend hread) h

lemma not_mem_unifyLines (cs : List Char) : '\r' ∉ unifyLines cs := by
  fun_induction unifyLines cs with
  | case1 cs ih => simpa using ih
  | case2 cs _ ih => simpa using ih
  | case3 c cs _ hc ih => simp [ih, Ne.symm hc]
  | case4 => simp

lemma error_of_fileRows (h : fileRows text = .error e) : e = overlong := by
  unfold fileRows rows at h
  cases hrec : records (unified text) with
  | ok found =>
    rw [hrec] at h
    cases found <;> cases h
  | error e' =>
    rw [hrec] at h
    cases h
    unfold records unified at hrec
    rw [String.toList_ofList] at hrec
    exact error_of_scan (not_mem_unifyLines _) (by simp) hrec

def IsCell (e : String × Value) : Prop := e.1 ≠ surplusKey → (∃ s, e.2 = .text s) ∨ e.2 = .null

lemma isCell_of_mem_row {header fields : List String} {es : Row} (h : row header fields = .object es) :
    ∀ e ∈ es, IsCell e := by
  have hnam : ∀ e ∈ Entries.merge [] (header.zip
      (fields.map Value.text ++ List.replicate (header.length - fields.length) .null)), IsCell e := by
    intro e he _
    rcases Entries.mem_or_mem_of_mem_merge he with he | he
    · cases he
    · rcases List.mem_append.mp (List.of_mem_zip he).2 with htext | hnull
      · obtain ⟨s, -, hs⟩ := List.mem_map.mp htext
        exact .inl ⟨s, hs.symm⟩
      · exact .inr (List.eq_of_mem_replicate hnull)
  unfold row at h
  obtain rfl := Value.object.inj h
  intro e he
  split at he
  · exact hnam e he
  · rcases Entries.mem_or_eq_of_mem_put he with he | rfl
    · exact hnam e he
    · exact fun hne => absurd rfl hne

lemma isCell_of_mem_fileRows {rs : List Value} (h : fileRows text = .ok rs) :
    ∀ r ∈ rs, ∃ es, r = .object es ∧ ∀ e ∈ es, IsCell e := by
  unfold fileRows rows at h
  cases hrec : records (unified text) with
  | error e =>
    rw [hrec] at h
    cases h
  | ok found =>
    rw [hrec] at h
    cases found with
    | nil =>
      cases h
      simp
    | cons header rest =>
      obtain rfl := Except.ok.inj h
      intro r hr
      obtain ⟨fields, -, rfl⟩ := List.mem_map.mp hr
      exact ⟨_, rfl, isCell_of_mem_row rfl⟩

end CloudSpend.Codec.Csv
