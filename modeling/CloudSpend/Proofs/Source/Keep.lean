import CloudSpend.Proofs.Billing.Records
import CloudSpend.Proofs.Outside.Run
import CloudSpend.Proofs.Storage.Files
import CloudSpend.Source.Basic

/-! # What storing an export changes -/

namespace CloudSpend

open List
open Run Storage

namespace Run

lemma exec_makeDirectory (p : Path) (w : World) :
    exec (makeDirectory p) w =
      ((Files.makeDirectories (p.parts.length + 1) w.files p).2,
        { w with files := (Files.makeDirectories (p.parts.length + 1) w.files p).1 }) := by
  unfold makeDirectory
  rw [exec_bind_ok (exec_get w)]
  rcases Files.makeDirectories (p.parts.length + 1) w.files p with ⟨fs, made⟩
  rw [exec_bind_ok (exec_set _ _), exec_liftM]

variable {w w' : World} {u : Unit}

lemma exec_writeTable_of_ok {t : Billing.Table} (h : w.outside.writes w.tables t = .ok ()) :
    exec (writeTable t) w = (.ok (), { w with
      tables := w.tables ++ [t]
      files := w.files.putAt (Path.ofText t.path) (.table t.kept) }) := by
  rw [writeTable, exec_bind_ok (exec_get w), h, exec_bind_ok (exec_liftM _ w), exec_set]

lemma exec_writeTable_of_error {t : Billing.Table} {e : Fault} (h : w.outside.writes w.tables t = .error e) :
    exec (writeTable t) w = (.error e, w) := by
  rw [writeTable, exec_bind_ok (exec_get w), h]
  exact exec_bind_of_error (exec_liftM _ w) _

lemma leaves_writeTable {β : Type} {view : World → β}
    (hview : ∀ w tables files, view { w with tables, files } = view w) (t : Billing.Table) : Leaves view (writeTable t) := by
  refine ⟨fun w => ?_⟩
  cases hwrites : w.outside.writes w.tables t with
  | error e => exact congrArg (view ·.2) (exec_writeTable_of_error hwrites)
  | ok => exact (congrArg (view ·.2) (exec_writeTable_of_ok hwrites)).trans (hview w _ _)

lemma exec_writeTable_eq_ok {t : Billing.Table} (h : exec (writeTable t) w = (.ok u, w')) :
    w' = { w with
      tables := w.tables ++ [t]
      files := w.files.putAt (Path.ofText t.path) (.table t.kept) } := by
  cases hwrites : w.outside.writes w.tables t with
  | error e => cases (exec_writeTable_of_error hwrites).symm.trans h
  | ok => exact (congrArg Prod.snd ((exec_writeTable_of_ok hwrites).symm.trans h)).symm

lemma of_exec_makeDirectory {parts : List String} (hpar : ∀ n ∈ parts, Path.IsPlain n)
    (h : exec (makeDirectory ⟨"", parts⟩) w = (.ok u, w')) :
    ∃ fs, w' = { w with files := fs } ∧ fs.get? parts = some .directory ∧
      Files.Extends w.files fs parts := by
  have hdots : ".." ∉ parts := fun hmem => (hpar _ hmem).ne_dots rfl
  rw [exec_makeDirectory] at h
  obtain ⟨hmade, rfl⟩ := Prod.mk.inj h
  exact ⟨_, rfl, Files.makeDirectories_spec (Nat.lt_succ_self _) hdots (Prod.ext rfl hmade)⟩

lemma of_exec_writeRows {path : String} {rows : List Value} (hrows : rows ≠ [])
    (h : exec (writeRows (.text path) rows) w = (.ok u, w')) :
    ∃ rs w1, rows.mapM Billing.Table.cells = .ok rs ∧
      exec (makeDirectory (Path.ofText path).parent) w = (.ok (), w1) ∧
      w' = { w1 with
        tables := w1.tables ++ [⟨path, Billing.Table.columnsOf rs, none⟩]
        files := w1.files.putAt (Path.ofText path) (.table (Billing.Table.columnsOf rs)) } := by
  unfold writeRows at h
  obtain ⟨ts, hsto, h⟩ := exec_liftM_bind_eq_ok h
  rw [Billing.Table.store_eq _ hrows] at hsto
  obtain ⟨rs, hcel, rfl⟩ := Result.map_eq_ok.mp hsto
  have hpath : exec (liftM (Path.ofValue (.text path)) : Run Path) w = (.ok (Path.ofText path), w) := rfl
  simp only [forIn_cons, forIn_nil, bind_assoc, pure_bind] at h
  rw [exec_bind_ok hpath] at h
  obtain ⟨⟨⟩, w1, hmade, h⟩ := exec_bind_eq_ok.mp h
  obtain ⟨⟨⟩, w2, hwrite, h⟩ := exec_bind_eq_ok.mp h
  cases h
  exact ⟨rs, w1, hcel, hmade, exec_writeTable_eq_ok hwrite⟩

end Run

namespace Source

inductive Stored (fs : Files) (place : List String) (file : String) : List (List Value) → Files → Prop
  | nothing : Stored fs place file [] fs
  | table {fs1 : Files} {rs : List (List Value)} (hrecords : rs ≠ []) (hext : Files.Extends fs fs1 place)
      (hdir : fs1.get? place = some .directory) :
      Stored fs place file rs (fs1.put (place ++ [file]) (.table (Billing.Table.columnsOf rs)))

variable {parts : List String} {file : String} {rows : List Value} {w w' : World}

lemma stored_of_writeRows (hrows : rows ≠ []) (hpar : ∀ n ∈ parts, Path.IsPlain n)
    (hcou : parts.length < 15) (hfile : Path.IsPlain file) {u : Unit}
    (h : exec (writeRows (.text (Path.text ⟨"", parts ++ [file]⟩)) rows) w = (.ok u, w')) :
    ∃ rs, rows.mapM Billing.Table.cells = .ok rs ∧ w'.outside = w.outside ∧
      Stored w.files parts file rs w'.files := by
  have hall : ∀ n ∈ parts ++ [file], Path.IsPlain n := by
    grind
  have hread : Path.ofText (Path.text ⟨"", parts ++ [file]⟩) = ⟨"", parts ++ [file]⟩ :=
    Path.ofText_text (by simp) fun n hn => (hall n hn).toIsName
  obtain ⟨rs, w1, hcel, hmade, rfl⟩ := of_exec_writeRows hrows h
  have hpre : (Path.parent ⟨"", parts ++ [file]⟩) = ⟨"", parts⟩ := by simp [Path.parent]
  rw [hread, hpre] at hmade
  obtain ⟨fs1, rfl, hdir, hext⟩ := of_exec_makeDirectory hpar hmade
  have hloc : fs1.locate ⟨"", parts ++ [file]⟩ = .ok (parts ++ [file]) := by
    apply Files.locate_of_isPlain fs1 hall
    · rw [length_append, length_singleton]
      exact hcou
    · rw [dropLast_concat]
      exact Files.isDirectory_of_get? hdir
  have hput : fs1.putAt ⟨"", parts ++ [file]⟩ (.table (Billing.Table.columnsOf rs)) =
      fs1.put (parts ++ [file]) (.table (Billing.Table.columnsOf rs)) := by
    unfold Files.putAt
    rw [hloc]
  refine ⟨rs, hcel, rfl, ?_⟩
  rw [hread, hput]
  exact .table (Billing.ne_nil_of_mapM hcel hrows) hext hdir

lemma Stored.of_extends {fs fs1 fs' : Files} {place : List String} {rs : List (List Value)}
    (hne : rs ≠ []) (hext : Files.Extends fs fs1 place) (h : Stored fs1 place file rs fs') :
    Stored fs place file rs fs' := by
  cases h with
  | nothing => exact absurd rfl hne
  | table hrec hext' hdir => exact .table hrec (hext.trans hext' (prefix_refl _)) hdir

variable {cloud : Billing.Cloud} {name : String} {r : Nat × Option String}

lemma of_exec_keep {d : Path} (h : exec (keep cloud d (.ok name) rows) w = (.ok r, w')) :
    ∃ charges, cloud.charges rows = .ok charges ∧ r.1 = charges.length ∧ (charges = [] ∧ w' = w ∨
      charges ≠ [] ∧ ∃ w1, exec (makeDirectory d) w = (.ok (), w1) ∧ exec (writeRows
        (.text (d.join (name ++ ".parquet")).text) (charges.map fun c => .object c.toRow)) w1 = (.ok (), w')) := by
  unfold keep at h
  by_cases hrows : rows.isEmpty
  · rw [if_pos hrows, exec_pure] at h
    cases h
    rw [isEmpty_iff.mp hrows]
    exact ⟨[], rfl, rfl, .inl ⟨rfl, rfl⟩⟩
  rw [if_neg hrows] at h
  obtain ⟨charges, hcha, h⟩ := exec_liftM_bind_eq_ok h
  by_cases hemp : charges.isEmpty
  · rw [if_pos hemp, exec_pure] at h
    cases h
    obtain rfl := isEmpty_iff.mp hemp
    exact ⟨[], hcha, rfl, .inl ⟨rfl, rfl⟩⟩
  rw [if_neg hemp] at h
  obtain ⟨⟨⟩, w1, hmade, h⟩ := exec_bind_eq_ok.mp h
  rw [exec_bind_ok (exec_liftM (.ok name) w1)] at h
  obtain ⟨⟨⟩, w2, hwri, h⟩ := exec_bind_eq_ok.mp h
  cases h
  exact ⟨charges, hcha, rfl, .inr ⟨by simpa using hemp, w1, hmade, hwri⟩⟩

lemma keep_spec (hpar : ∀ n ∈ parts, Path.IsPlain n) (hcou : parts.length < 15)
    (hname : Path.IsPlain (name ++ ".parquet"))
    (h : exec (keep cloud ⟨"", parts⟩ (.ok name) rows) w = (.ok r, w')) : w'.outside = w.outside ∧
      Stored w.files parts (name ++ ".parquet") (rows.filterMap cloud.record) w'.files := by
  obtain ⟨charges, hcha, -, ⟨rfl, rfl⟩ | ⟨hne, w1, hmade, hwri⟩⟩ := of_exec_keep h
  · rw [← Billing.Cloud.eq_filterMap_record hcha .nil]
    exact ⟨rfl, .nothing⟩
  rw [Path.join_of_isName _ hname.toIsName] at hwri
  have hval : (charges.map fun c => Value.object c.toRow) ≠ [] := by
    simpa using hne
  obtain ⟨fs1, rfl, -, hext⟩ := of_exec_makeDirectory hpar hmade
  obtain ⟨rs, hcel, hout, hsto⟩ :=
    stored_of_writeRows hval hpar hcou hname hwri
  have hrec : rs = rows.filterMap cloud.record :=
    Billing.Cloud.eq_filterMap_record hcha
      (forall₂_map_left_iff.mp (Billing.forall₂_of_mapM hcel))
  rw [← hrec]
  exact ⟨hout, hsto.of_extends (Billing.ne_nil_of_mapM hcel hval) hext⟩

end Source

end CloudSpend
