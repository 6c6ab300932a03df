import CloudSpend.Proofs.Billing.Flaws
import CloudSpend.Proofs.Source.StoredOnce
import CloudSpend.Source.CostReport
import Mathlib

/-! # Taking over local files -/

namespace CloudSpend

open List
open Storage (Path)
open Run

namespace Billing

section collect

variable {α β : Type} {f : α → Result (Option β)} {xs : List α} {ys : List β}

lemma exists_collect_eq_ok (h : ∀ x ∈ xs, ∃ found, f x = .ok found) : ∃ ys, collect f xs = .ok ys := by
  induction xs with
  | nil => exact ⟨[], rfl⟩
  | cons x xs ih =>
    obtain ⟨⟨found, hx⟩, hxs⟩ := forall_mem_cons.mp h
    obtain ⟨ys, hys⟩ := ih hxs
    exact ⟨found.toList ++ ys, by rw [collect, hx, hys]; rfl⟩

lemma of_collect_eq_ok (h : collect f xs = .ok ys) :
    (∀ x ∈ xs, ∃ found, f x = .ok found) ∧ ∀ y, y ∈ ys ↔ ∃ x ∈ xs, f x = .ok (some y) := by
  induction xs generalizing ys with
  | nil =>
    cases h
    simp
  | cons x xs ih =>
    obtain ⟨found, rest, hx, hxs, rfl⟩ := collect_cons_eq_ok h
    grind

end collect

namespace Cloud

variable {c : Cloud} {rows : List Value}

def toRows (charges : List Charge) : List Value := charges.map fun charge => .object charge.toRow

lemma exists_charges_of_not_fails (h : ∀ row ∈ rows, ¬c.Fails row) :
    ∃ charges, c.charges rows = .ok charges ∧ (toRows charges).mapM Table.cells = .ok (rows.filterMap c.record) := by
  have hchar : ∀ row ∈ rows, ∃ found, c.charge row = .ok found := by
    intro row hrow
    cases hcha : c.charge row with
    | error e => exact absurd (.inl ⟨e, hcha⟩) (h row hrow)
    | ok found => exact ⟨found, rfl⟩
  obtain ⟨charges, hcar⟩ := exists_collect_eq_ok hchar
  have hcel : ∀ row ∈ toRows charges, ∃ r, Table.cells row = .ok r := by
    intro value hval
    obtain ⟨charge, hcha, rfl⟩ := mem_map.mp hval
    obtain ⟨row, hrow, hfou⟩ := ((of_collect_eq_ok hcar).2 charge).mp hcha
    cases hcel : Table.cells (.object charge.toRow) with
    | error e => exact absurd (.inr ⟨charge, e, hfou, hcel⟩) (h row hrow)
    | ok r => exact ⟨r, rfl⟩
  obtain ⟨rs, hrs⟩ := exists_mapM_eq_ok hcel
  refine ⟨charges, hcar, ?_⟩
  rw [hrs, eq_filterMap_record hcar (forall₂_map_left_iff.mp (forall₂_of_mapM hrs))]

lemma error_of_fails {row : Value} (hrow : row ∈ rows) (hfai : c.Fails row) :
    (∃ e, c.charges rows = .error e) ∨
      ∃ charges e, c.charges rows = .ok charges ∧ charges ≠ [] ∧ (toRows charges).mapM Table.cells = .error e := by
  cases hcha : c.charges rows with
  | error e => exact .inl ⟨e, rfl⟩
  | ok charges =>
    obtain ⟨hall, hmem⟩ := of_collect_eq_ok hcha
    rcases hfai with ⟨e, he⟩ | ⟨charge, e, hcar, he⟩
    · obtain ⟨found, hfou⟩ := hall row hrow
      cases hfou.symm.trans he
    have hin : charge ∈ charges := (hmem charge).mpr ⟨row, hrow, hcar⟩
    cases hcel : (toRows charges).mapM Table.cells with
    | error e => exact .inr ⟨charges, e, rfl, ne_nil_of_mem hin, hcel⟩
    | ok rs =>
      obtain ⟨r, hr⟩ := exists_eq_ok_of_mapM hcel (mem_map_of_mem hin)
      cases hr.symm.trans he

end Cloud

end Billing

namespace Run

variable {path : String} {rows : List Value}

lemma exec_writeRows (hrows : rows ≠ []) {rs : List (List Value)}
    (hcel : rows.mapM Billing.Table.cells = .ok rs) {w w1 : World}
    (hmade : exec (makeDirectory (Path.ofText path).parent) w = (.ok (), w1)) :
    exec (writeRows (.text path) rows) w =
      exec (writeTable { path := path, columns := Billing.Table.columnsOf rs, source := none }) w1 := by
  have hdis : (Value.text path).display = path := rfl
  have hpath : exec (liftM (Path.ofValue (.text path)) : Run Path) w = (.ok (Path.ofText path), w) := rfl
  have hsto : Billing.Table.store path rows =
      .ok [{ path := path, columns := Billing.Table.columnsOf rs, source := none }] := by
    rw [Billing.Table.store_eq path hrows, hcel]
    rfl
  unfold writeRows
  rw [hdis, hsto, exec_bind_ok (exec_liftM _ w)]
  simp only [forIn_cons, forIn_nil, bind_assoc, pure_bind]
  rw [exec_bind_ok hpath, exec_bind_ok hmade, bind_pure_unit]

lemma exec_writeRows_of_error (hrows : rows ≠ []) {e : Fault}
    (hcel : rows.mapM Billing.Table.cells = .error e) (w : World) :
    exec (writeRows (.text path) rows) w = (.error e, w) := by
  have hdis : (Value.text path).display = path := rfl
  have hsto : Billing.Table.store path rows = .error e := by
    rw [Billing.Table.store_eq path hrows, hcel]
    rfl
  unfold writeRows
  rw [hdis, hsto]
  exact exec_bind_of_error (exec_liftM _ w) _

end Run

namespace Source

section keep

variable {cloud : Billing.Cloud} {directory : Path} {name : String} {rows : List Value} {w : World}

def tablePath (directory : Path) (name : String) : String := (directory.join (name ++ ".parquet")).text

def HasRoom (directory : Path) (name : String) (w : World) : Prop :=
  ∃ w1 w2, exec (makeDirectory directory) w = (.ok (), w1) ∧
    exec (makeDirectory (Path.ofText (tablePath directory name)).parent) w1 = (.ok (), w2) ∧
    ∀ columns, w2.outside.writes w2.tables ⟨tablePath directory name, columns, none⟩ = .ok ()

def tablesOf (path : String) (records : List (List Value)) : List Billing.Table :=
  if records.isEmpty then [] else [{ path := path, columns := Billing.Table.columnsOf records, source := none }]

lemma exec_keep {charges : List Billing.Charge} (hcha : cloud.charges rows = .ok charges) :
    exec (keep cloud directory (.ok name) rows) w =
      exec (if charges.isEmpty then pure (0, none) else do
        makeDirectory directory
        writeRows (.text (tablePath directory name)) (Billing.Cloud.toRows charges)
        pure (charges.length, some (tablePath directory name))) w := by
  unfold keep
  by_cases hrows : rows.isEmpty
  · obtain rfl := isEmpty_iff.mp hrows
    cases hcha
    rfl
  have hlift : exec (liftM (cloud.charges rows) : Run (List Billing.Charge)) w = (.ok charges, w) := by
    rw [hcha, exec_liftM]
  have hname : (liftM (Except.ok name : Result String) : Run String) = pure name := rfl
  rw [if_neg hrows, exec_bind_ok hlift]
  simp only [hname, pure_bind]
  rfl

lemma makeDirectory_tables {p : Path} {w1 : World} {r : Result Unit} (h : exec (makeDirectory p) w = (r, w1)) :
    w1.tables = w.tables := by
  rw [exec_makeDirectory] at h
  obtain ⟨-, rfl⟩ := Prod.mk.inj h
  rfl

lemma exec_keep_of_not_fails (h : ∀ row ∈ rows, ¬cloud.Fails row) (hroom : HasRoom directory name w) :
    ∃ path w', exec (keep cloud directory (.ok name) rows) w = (.ok ((rows.filterMap cloud.record).length, path), w') ∧
      w'.tables = w.tables ++ tablesOf (tablePath directory name) (rows.filterMap cloud.record) := by
  obtain ⟨charges, hcha, hcel⟩ := Billing.Cloud.exists_charges_of_not_fails h
  have hlen : charges.length = (rows.filterMap cloud.record).length := by
    rw [← (Billing.forall₂_of_mapM hcel).length_eq, Billing.Cloud.toRows, length_map]
  rw [exec_keep hcha]
  by_cases hnone : charges = []
  · subst hnone
    have hrec : rows.filterMap cloud.record = [] := length_eq_zero_iff.mp hlen.symm
    exact ⟨none, w, by rw [hrec]; rfl, by rw [hrec]; simp [tablesOf]⟩
  · obtain ⟨w1, w2, hmade, hmade', hwrites⟩ := hroom
    have hrows : Billing.Cloud.toRows charges ≠ [] := by simpa [Billing.Cloud.toRows] using hnone
    have hrec := Billing.ne_nil_of_mapM hcel hrows
    have hwri := exec_writeRows hrows hcel hmade'
    rw [exec_writeTable_of_ok (hwrites _)] at hwri
    rw [if_neg (by simpa using hnone), exec_bind_ok hmade, exec_bind_ok hwri, hlen]
    refine ⟨_, _, rfl, ?_⟩
    rw [makeDirectory_tables hmade', makeDirectory_tables hmade, tablesOf, if_neg (by simpa using hrec)]

lemma exec_keep_of_fails {row : Value} (hrow : row ∈ rows) (hfai : cloud.Fails row) :
    ∃ e w', exec (keep cloud directory (.ok name) rows) w = (.error e, w') ∧ w'.tables = w.tables := by
  rcases Billing.Cloud.error_of_fails hrow hfai with ⟨e, he⟩ | ⟨charges, e, hcha, hnone, hcel⟩
  · have hrows : ¬rows.isEmpty = true := by simpa using ne_nil_of_mem hrow
    refine ⟨e, w, ?_, rfl⟩
    unfold keep
    rw [if_neg hrows, he]
    exact exec_bind_of_error (exec_liftM _ w) _
  · have hrows : Billing.Cloud.toRows charges ≠ [] := by simpa [Billing.Cloud.toRows] using hnone
    rw [exec_keep hcha, if_neg (by simpa using hnone)]
    rcases hmade : exec (makeDirectory directory) w with ⟨e | ⟨⟩, w1⟩
    · exact ⟨e, w1, exec_bind_of_error hmade _, makeDirectory_tables hmade⟩
    · rw [exec_bind_ok hmade]
      exact ⟨e, w1, exec_bind_of_error (exec_writeRows_of_error hrows hcel w1) _, makeDirectory_tables hmade⟩

end keep

inductive FileSource where
  | report (c : CostReport)
  | query (b : BigQuery)
  | blobs (b : BlobStorage)

namespace FileSource

def cloud : FileSource → Billing.Cloud
  | report _ => .aws
  | query _ => .gcp
  | blobs _ => .azure

def directory : FileSource → Path
  | report c => c.directory
  | query b => b.directory
  | blobs b => b.directory

def name : FileSource → Path → String
  | report _, path => "cur_" ++ Text.replace path.stem ".csv" ""
  | query _, path => "gcp_" ++ path.stem
  | blobs _, path => "azure_" ++ path.stem

def read : FileSource → Path → Run String
  | report _, path => if path.suffix == ".gz" then readCompressed path else readText path path.text
  | query _, path => readText path path.text
  | blobs _, path => Codec.Csv.withoutMark <$> readText path path.text

def ingestFile : FileSource → Value → Run Nat
  | report c => c.ingestFile
  | query b => b.ingestFile
  | blobs b => b.ingestFile

structure Opens (l : FileSource) (file : Value) (w : World) (path : Path) (text : String) : Prop where
  named : Path.ofValue file = .ok path
  there : ∃ content, exec (look path) w = (.ok (some content), w)
  holds : exec (l.read path) w = (.ok text, w)

variable {l : FileSource} {file : Value} {w : World} {path : Path} {text : String}

lemma Opens.exec_ingestFile (h : l.Opens file w path text) :
    exec (l.ingestFile file) w = exec (do
      let rows ← liftM (Codec.Csv.fileRows text)
      return (← keep l.cloud l.directory (.ok (l.name path)) rows).1) w := by
  obtain ⟨hpath, ⟨content, hlook⟩, htext⟩ := h
  have hnam : exec (liftM (Path.ofValue file) : Run Path) w = (.ok path, w) := by rw [hpath, exec_liftM]
  cases l with
  | report c =>
    rw [ingestFile, CostReport.ingestFile, exec_bind_ok hnam, exec_bind_ok hlook, if_neg (by simp)]
    rw [read] at htext
    by_cases hsuf : path.suffix == ".gz"
    · rw [if_pos hsuf] at htext ⊢
      rw [exec_bind_ok htext]
      rfl
    · rw [if_neg hsuf] at htext ⊢
      rw [exec_bind_ok htext]
      rfl
  | query b =>
    rw [read] at htext
    rw [ingestFile, BigQuery.ingestFile, exec_bind_ok hnam, exec_bind_ok hlook, if_neg (by simp),
      exec_bind_ok htext]
    rfl
  | blobs b =>
    rw [read, map_eq_pure_bind] at htext
    obtain ⟨raw, w1, hraw, hmark⟩ := exec_bind_eq_ok.mp htext
    cases hmark
    rw [ingestFile, BlobStorage.ingestFile, exec_bind_ok hnam, exec_bind_ok hlook, if_neg (by simp),
      exec_bind_ok hraw]
    rfl

lemma Opens.exec_ingestFile_of_rows (h : l.Opens file w path text) {rows : List Value}
    (hrows : Codec.Csv.fileRows text = .ok rows) :
    exec (l.ingestFile file) w =
      exec (keep l.cloud l.directory (.ok (l.name path)) rows >>= fun kept => pure kept.1) w := by
  have hlift : exec (liftM (Codec.Csv.fileRows text) : Run (List Value)) w = (.ok rows, w) := by
    rw [hrows, exec_liftM]
  rw [h.exec_ingestFile, exec_bind_ok hlift]

/-- A file is stored as a whole or not at all. Its rows cannot be read only if a field is too long. Else the rows that
have a record are the due ones without a flaw. If there is a due row with a flaw, taking the file over fails and no
table is written. -/
theorem ingestFile_stores_unless_flawed (hopens : l.Opens file w path text)
    (hroom : HasRoom l.directory (l.name path) w) :
    (∀ e, Codec.Csv.fileRows text = .error e →
      e = Codec.Csv.overlong ∧ exec (l.ingestFile file) w = (.error e, w)) ∧
    ∀ rows, Codec.Csv.fileRows text = .ok rows →
      (∀ row ∈ rows, ∃ es, row = .object es ∧
        ((l.cloud.record row).isSome ↔ l.cloud.Due es ∧ ¬l.cloud.Flawed es)) ∧
      ((∃ es, .object es ∈ rows ∧ l.cloud.Due es ∧ l.cloud.Flawed es) →
        ∃ e w', exec (l.ingestFile file) w = (.error e, w') ∧ w'.tables = w.tables) ∧
      ((¬∃ es, .object es ∈ rows ∧ l.cloud.Due es ∧ l.cloud.Flawed es) →
        ∃ w', exec (l.ingestFile file) w = (.ok (rows.filterMap l.cloud.record).length, w') ∧
          w'.tables = w.tables ++ tablesOf (tablePath l.directory (l.name path)) (rows.filterMap l.cloud.record)) := by
  refine ⟨fun e he => ⟨Codec.Csv.error_of_fileRows he, ?_⟩, fun rows hrows => ?_⟩
  · rw [hopens.exec_ingestFile, he]
    exact exec_bind_of_error (exec_liftM _ w) _
  have hcel := Codec.Csv.isCell_of_mem_fileRows hrows
  rw [hopens.exec_ingestFile_of_rows hrows]
  refine ⟨fun row hrow => ?_, ?_, fun hnone => ?_⟩
  · obtain ⟨es, rfl, hes⟩ := hcel row hrow
    exact ⟨es, rfl, Billing.Cloud.record_isSome_iff hes⟩
  · rintro ⟨es, hrow, hdue, hflaw⟩
    obtain ⟨es', hobj, hes⟩ := hcel _ hrow
    cases hobj
    obtain ⟨e, w', hkeep, htab⟩ := exec_keep_of_fails hrow (Billing.Cloud.fails_of_due hes hdue hflaw)
    exact ⟨e, w', exec_bind_of_error hkeep _, htab⟩
  · have hfai : ∀ row ∈ rows, ¬l.cloud.Fails row := by
      intro row hrow hfai
      obtain ⟨es, rfl, hes⟩ := hcel row hrow
      obtain ⟨hdue, hflaw⟩ := (Billing.Cloud.fails_iff hes).mp hfai
      exact hnone ⟨es, hrow, hdue, hflaw⟩
    obtain ⟨kept, w', hkeep, htab⟩ := exec_keep_of_not_fails hfai hroom
    exact ⟨w', by rw [exec_bind_ok hkeep, exec_pure], htab⟩

def localExport : FileSource := .query ⟨.null, .null, Path.ofText "data/billing/gcp"⟩

def worldWithFile (text : String) : World := { worldWith [] with files := [(["g.csv"], .text text)] }

lemma opens_worldWithFile (text : String) :
    localExport.Opens "g.csv" (worldWithFile text) ⟨"", ["g.csv"]⟩ text := by
  refine ⟨congrArg Except.ok (by decide), ⟨.text text, ?_⟩, ?_⟩ <;> cbv

def oddRow : String := "cost,usage_start_time\n5,2026-01-01\nmuch,never,again\n"

def oddRows : List Value :=
  [.object [("cost", "5"), ("usage_start_time", "2026-01-01")],
    .object [("cost", "much"), ("usage_start_time", "never"), (Codec.Csv.surplusKey, .list ["again"])]]

lemma hasRoom_worldWithFile :
    HasRoom localExport.directory (localExport.name ⟨"", ["g.csv"]⟩) (worldWithFile oddRow) := by
  obtain ⟨⟨⟩, hfir⟩ := exists_exec_of_toBool (x := makeDirectory localExport.directory) (w := worldWithFile oddRow)
    (by decide +kernel)
  obtain ⟨⟨⟩, hsec⟩ := exists_exec_of_toBool (w := (exec (makeDirectory localExport.directory) (worldWithFile oddRow)).2)
    (x := makeDirectory (Path.ofText (tablePath localExport.directory (localExport.name ⟨"", ["g.csv"]⟩))).parent)
    (by decide +kernel)
  exact ⟨_, _, hfir, hsec, fun _ => rfl⟩

theorem ingestFile_stores_unless_flawed_odd_row :
    localExport.Opens "g.csv" (worldWithFile oddRow) ⟨"", ["g.csv"]⟩ oddRow ∧
      HasRoom localExport.directory (localExport.name ⟨"", ["g.csv"]⟩) (worldWithFile oddRow) ∧
      ∃ w', exec (localExport.ingestFile "g.csv") (worldWithFile oddRow) = (.ok 1, w') ∧ w'.tables.length = 1 := by
  refine ⟨opens_worldWithFile oddRow, hasRoom_worldWithFile, ?_⟩
  obtain ⟨-, -, hsto⟩ :=
    (ingestFile_stores_unless_flawed (opens_worldWithFile oddRow) hasRoom_worldWithFile).2 oddRows rfl
  have hhar : ¬∃ es, .object es ∈ oddRows ∧ localExport.cloud.Due es ∧ localExport.cloud.Flawed es := by
    rintro ⟨es, hmem, hdue, hflaw⟩
    simp only [oddRows, mem_cons, not_mem_nil, or_false, Value.object.injEq] at hmem
    rcases hmem with rfl | rfl
    · cases hflaw with
      | day h => exact h ⟨2026, 1, 1⟩ (by rfl)
      | surplus hclo => cases hclo
      | tags hclo => cases hclo
    · exact absurd hdue.amount (by decide)
  obtain ⟨w', hrun, htab⟩ := hsto hhar
  have hcou : (oddRows.filterMap localExport.cloud.record).length = 1 := by decide
  have hnone : ¬(oddRows.filterMap localExport.cloud.record).isEmpty = true := by
    rw [isEmpty_iff_length_eq_zero, hcou]
    decide
  refine ⟨w', by rw [hrun, hcou], ?_⟩
  rw [htab, tablesOf, if_neg hnone]
  rfl

/-- A row that is due, but too short to have a day, stops the storing of the row before it. -/
theorem short_row_stops_storing :
    (exec (localExport.ingestFile "g.csv") (worldWithFile "cost,usage_start_time\n5,2026-01-01\n")).2.tables.length
        = 1 ∧
      (exec (localExport.ingestFile "g.csv") (worldWithFile "cost,usage_start_time\n5,2026-01-01\n7\n")).1.toBool
        = false ∧
      (exec (localExport.ingestFile "g.csv")
        (worldWithFile "cost,usage_start_time\n5,2026-01-01\n7\n")).2.tables.length = 0 := by
  decide +kernel

end FileSource

end Source

end CloudSpend
