import CloudSpend.Proofs.Storage.Files

/-! # What is written, and what is there in the end -/

namespace CloudSpend.Storage

open List

structure Writing where
  path : Path
  content : Content

def Path.isWritable (p : Path) : Bool :=
  match Text.bytes p.text with
  | .error _ => false
  | .ok bytes => !bytes.contains 0 && decide (bytes.length < Files.maxPath)
      && p.parts.all fun n => decide (n.utf8ByteSize ≤ Files.maxName)

namespace Files

def fileAt (fs : Files) (place : List String) : Option Content :=
  match Entries.get? fs place with
  | some .directory => none
  | found => found

def lastAt : List Writing → List String → Option Content
  | [], _ => none
  | w :: ws, place =>
    (lastAt ws place).or (if w.path.isWritable && w.path.parts == place then some w.content else none)

lemma lastAt_append (vs ws : List Writing) (place : List String) :
    lastAt (vs ++ ws) place = (lastAt ws place).or (lastAt vs place) := by
  induction vs with
  | nil => simp [lastAt]
  | cons v vs ih => rw [cons_append, lastAt, lastAt, ih, Option.or_assoc]

variable {ws : List Writing} {place q parts : List String} {c : Content} {fs : Files} {p : Path}

lemma exists_of_lastAt (h : lastAt ws place = some c) : ∃ w ∈ ws, w.path.parts = place ∧ w.content = c := by
  induction ws with
  | nil => cases h
  | cons w ws ih =>
    rw [lastAt, Option.or_eq_some_iff] at h
    grind

lemma exists_lastAt {e : Writing} (he : e ∈ ws) (hwri : e.path.isWritable = true) :
    ∃ c, lastAt ws e.path.parts = some c := by
  induction ws with
  | nil => cases he
  | cons w ws ih =>
    rw [lastAt]
    cases hlast : lastAt ws e.path.parts with
    | some c => exact ⟨c, by simp⟩
    | none =>
      rcases mem_cons.mp he with rfl | he
      · exact ⟨e.content, by simp [hwri]⟩
      · obtain ⟨c, hc⟩ := ih he
        rw [hc] at hlast
        cases hlast

def IsProper (n : String) : Prop := n = "/" ∨ Path.IsName n ∧ n ≠ ".."

def Tidy (fs : Files) : Prop := ∀ place ∈ fs.map Prod.fst, ∀ n ∈ place, IsProper n

lemma Tidy.put (h : Tidy fs) (hpla : ∀ n ∈ place, IsProper n) (c : Content) : Tidy (fs.put place c) := by
  intro q hq
  by_cases hmem : place ∈ fs.map Prod.fst
  · rw [Files.put, Entries.map_fst_put_of_mem hmem] at hq
    exact h q hq
  · rw [Files.put, Entries.map_fst_put_of_not_mem hmem, mem_append, mem_singleton] at hq
    rcases hq with hq | rfl
    · exact h q hq
    · exact hpla

lemma Tidy.isName_of_mem_names (h : Tidy fs) {n : String} (hn : n ∈ fs.names place) :
    Path.IsName n ∧ n ≠ ".." := by
  rw [names_eq, mem_eraseDups, mem_filter, bne_iff_ne, mem_filterMap] at hn
  obtain ⟨⟨q, hq, hnext⟩, hroot⟩ := hn
  have hmem : n ∈ q := by
    unfold nextName at hnext
    split at hnext
    · exact mem_of_mem_drop (mem_of_mem_head? hnext)
    · cases hnext
  exact (h q hq n hmem).resolve_left hroot

lemma isProper_of_locate (hp : ∀ n ∈ p.parts, Path.IsName n) (h : fs.locate p = .ok place) :
    ∀ n ∈ place, IsProper n := by
  refine Result.foldlM_invariant (P := fun place => ∀ n ∈ place, IsProper n) (fun n hn => ?_) ?_ (locate_eq_ok.mp h).2
  · split at hn
    · cases hn
    · exact .inl (mem_singleton.mp hn)
  · intro m hm start next hsta hstep n hn
    obtain ⟨-, -, rfl⟩ := step_eq_ok.mp hstep
    split at hn
    · -- A step upwards takes a name away.
      split at hn
      · exact hsta n hn
      · exact hsta n ((dropLast_sublist _).subset hn)
    · next hdots =>
      rcases mem_append.mp hn with hn | hn
      · exact hsta n hn
      · rw [mem_singleton.mp hn]
        exact .inr ⟨hp m hm, hdots⟩

structure Written (fs : Files) (ws : List Writing) (fs' : Files) : Prop where
  fileAt_eq : ∀ place, fs'.fileAt place = (lastAt ws place).or (fs.fileAt place)
  tidy : Tidy fs → Tidy fs'

lemma Written.refl (fs : Files) : Written fs [] fs := ⟨fun _ => rfl, fun h => h⟩

lemma Written.append {fs1 fs2 fs3 : Files} {vs : List Writing} (h1 : Written fs1 vs fs2)
    (h2 : Written fs2 ws fs3) : Written fs1 (vs ++ ws) fs3 where
  fileAt_eq place := by rw [h2.fileAt_eq, h1.fileAt_eq, lastAt_append, Option.or_assoc]
  tidy h := h2.tidy (h1.tidy h)

lemma fileAt_put_of_ne (fs : Files) (h : q ≠ place) (c : Content) :
    (fs.put place c).fileAt q = fs.fileAt q := by
  unfold fileAt
  rw [put, Entries.get?_put_of_ne _ h]

lemma fileAt_put_self (fs : Files) (place : List String) (hc : c ≠ .directory) :
    (fs.put place c).fileAt place = some c := by
  unfold fileAt
  rw [put, Entries.get?_put_self]
  grind

lemma le_maxName_of_foldlM_step (h : parts.foldlM fs.step place = .ok q) :
    ∀ n ∈ parts, n.utf8ByteSize ≤ maxName := by
  induction parts generalizing place with
  | nil => simp
  | cons m parts ih =>
    rw [foldlM_cons] at h
    obtain ⟨next, hstep, h⟩ := Result.of_bind_ok h
    exact forall_mem_cons.mpr ⟨(step_eq_ok.mp hstep).2.1, ih h⟩

lemma isWritable_of_locate (h : fs.locate p = .ok place) : p.isWritable = true := by
  obtain ⟨⟨bytes, hbyt, hzero, hlen⟩, h⟩ := locate_eq_ok.mp h
  simpa only [Path.isWritable, hbyt, hzero, hlen, decide_true, Bool.not_false, Bool.and_self, Bool.true_and,
    all_eq_true, decide_eq_true_eq] using le_maxName_of_foldlM_step h

lemma locate_of_isWritable (hdots : ".." ∉ parts) (hdir : fs.isDirectory parts.dropLast = true)
    (h : (⟨"", parts⟩ : Path).isWritable = true) : fs.locate ⟨"", parts⟩ = .ok parts := by
  unfold Path.isWritable at h
  split at h
  · cases h
  · next bytes hbyt =>
    simp only [Bool.and_eq_true, Bool.not_eq_true', decide_eq_true_eq, all_eq_true] at h
    obtain ⟨⟨hzero, hlen⟩, hnam⟩ := h
    exact locate_eq_ok.mpr ⟨⟨bytes, hbyt, hzero, hlen⟩,
      foldlM_step_of_isDirectory hdots hnam (by simpa using hdir)⟩

lemma written_putAt (hpar : ∀ n ∈ parts, Path.IsName n ∧ n ≠ "..")
    (hdir : fs.isDirectory parts.dropLast = true) (hc : c ≠ .directory) :
    Written fs [⟨⟨"", parts⟩, c⟩] (fs.putAt ⟨"", parts⟩ c) := by
  have hdots : ".." ∉ parts := fun hmem => (hpar _ hmem).2 rfl
  unfold putAt
  cases hloc : fs.locate ⟨"", parts⟩ with
  | error o =>
    have hwri : (⟨"", parts⟩ : Path).isWritable = false := by
      rw [Bool.eq_false_iff]
      intro h
      rw [locate_of_isWritable hdots hdir h] at hloc
      cases hloc
    exact ⟨fun place => by simp [lastAt, hwri], fun h => h⟩
  | ok place =>
    have hwri := isWritable_of_locate hloc
    obtain rfl := eq_of_locate hdots hloc
    refine ⟨fun q => ?_, fun h => h.put (fun n hn => .inr (hpar n hn)) c⟩
    by_cases hq : q = place
    · subst hq
      rw [fileAt_put_self _ _ hc]
      simp [lastAt, hwri]
    · have hne : (place == q) = false := by simpa using Ne.symm hq
      rw [fileAt_put_of_ne _ hq]
      simp [lastAt, hne]

lemma written_makeOne {fs' : Files} (hp : ∀ n ∈ p.parts, Path.IsName n) (h : fs.makeOne p = .ok (.ok fs')) :
    Written fs [] fs' := by
  unfold makeOne at h
  split at h
  · cases h
  · next place hloc =>
      split at h
      · cases h
        exact .refl fs
      · cases h
      · next hget =>
          cases h
          refine ⟨fun q => ?_, fun ht => ht.put (isProper_of_locate hp hloc) _⟩
          by_cases hq : q = place
          · subst hq
            have hnone : fs.fileAt q = none := by simp [fileAt, get?_eq_none hget]
            rw [hnone, fileAt, put, Entries.get?_put_self]
            rfl
          · exact fileAt_put_of_ne fs hq _

lemma written_makeDirectories (bound : Nat) (fs : Files) (hp : ∀ n ∈ p.parts, Path.IsName n) :
    Written fs [] (makeDirectories bound fs p).1 := by
  induction bound generalizing p with
  | zero => exact .refl fs
  | succ bound ih =>
    have hpar : ∀ n ∈ p.parent.parts, Path.IsName n := fun n hn =>
      hp n ((dropLast_sublist _).subset hn)
    unfold makeDirectories
    split
    · next hmade => exact written_makeOne hp hmade
    · exact .refl fs
    · have hfir := ih hpar
      rcases hrec : makeDirectories bound fs p.parent with ⟨fs1, e | u⟩
      · rw [hrec] at hfir
        exact hfir
      · rw [hrec] at hfir
        dsimp only
        split
        · next hmade => exact hfir.append (written_makeOne hp hmade)
        · exact hfir
        · exact hfir
    · exact .refl fs

end Files

end CloudSpend.Storage
