import CloudSpend.Proofs.Source.Feed
import Mathlib.Algebra.Order.BigOperators.Group.List
import Mathlib.Algebra.Order.Group.Nat
import Mathlib.Data.List.Dedup
import Mathlib.Data.List.Perm.Basic

/-! # How often a row of an export is stored -/

namespace CloudSpend.Source

open List

section counting

variable {α β γ : Type}

lemma flatMap_comm_perm (us : List α) (rows : List β) (h : α → β → List γ) :
    (us.flatMap fun u => rows.flatMap (h u)).Perm (rows.flatMap fun r => us.flatMap fun u => h u r) := by
  induction us with
  | nil => simp
  | cons u us ih =>
    simp only [flatMap_cons]
    exact (ih.append_left _).trans (flatMap_append_perm rows _ _)

lemma filterMap_filter_eq_flatMap (rows : List β) (p : β → Bool) (g : β → Option γ) :
    (rows.filter p).filterMap g = rows.flatMap fun r => if p r then (g r).toList else [] := by
  induction rows with
  | nil => rfl
  | cons r rows ih =>
    grind

variable {us : List α}

lemma length_filter_le_one_iff (hus : us.Nodup) (p : α → Bool) :
    (us.filter p).length ≤ 1 ↔ ∀ u ∈ us, ∀ v ∈ us, p u → p v → u = v := by
  have hnod : (us.filter p).Nodup := hus.filter p
  have hmem : ∀ {u}, u ∈ us.filter p ↔ u ∈ us ∧ p u = true := mem_filter
  constructor
  · intro hlen u hu v hv hpu hpv
    have hu' := hmem.mpr ⟨hu, hpu⟩
    have hv' := hmem.mpr ⟨hv, hpv⟩
    obtain ⟨x, hx⟩ := length_eq_one_iff.mp (Nat.le_antisymm hlen (length_pos_of_mem hu'))
    rw [hx, mem_singleton] at hu' hv'
    rw [hu', hv']
  · intro huni
    match hfil : us.filter p with
    | [] => simp
    | [u] => simp
    | u :: v :: rest =>
      rw [hfil] at hnod
      have hu := hmem.mp (hfil ▸ mem_cons_self : u ∈ us.filter p)
      have hv := hmem.mp (hfil ▸ mem_cons_of_mem _ mem_cons_self : v ∈ us.filter p)
      grind

def copies (us : List α) (p : α → Bool) (o : Option γ) : List γ :=
  us.flatMap fun u => if p u then o.toList else []

def once (us : List α) (p : α → Bool) (o : Option γ) : List γ := if us.any p then o.toList else []

lemma copies_none (us : List α) (p : α → Bool) : copies us p (none : Option γ) = [] := by
  simp [copies]

lemma copies_some (us : List α) (p : α → Bool) (x : γ) :
    copies us p (some x) = replicate (us.filter p).length x := by
  unfold copies
  induction us with
  | nil => rfl
  | cons u us ih =>
    grind

lemma once_some (us : List α) (p : α → Bool) (x : γ) :
    once us p (some x) = if us.filter p = [] then [] else [x] := by
  unfold once
  by_cases hany : us.any p
  · have hne : us.filter p ≠ [] := by
      obtain ⟨u, hu, hpu⟩ := any_eq_true.mp hany
      exact ne_nil_of_mem (mem_filter.mpr ⟨hu, hpu⟩)
    simp [hany, hne]
  · have hnil : us.filter p = [] := by
      simpa [filter_eq_nil_iff] using hany
    simp [hany, hnil]

lemma length_once_le (us : List α) (p : α → Bool) (o : Option γ) :
    (once us p o).length ≤ (copies us p o).length := by
  cases o with
  | none => simp [once]
  | some x =>
    rw [once_some, copies_some, length_replicate]
    split
    · exact Nat.zero_le _
    · next hne => exact length_pos_iff.mpr hne

lemma copies_eq_once_iff (hus : us.Nodup) (p : α → Bool) (o : Option γ) :
    copies us p o = once us p o ↔ (o.isSome → ∀ u ∈ us, ∀ v ∈ us, p u → p v → u = v) := by
  cases o with
  | none => simp [copies_none, once]
  | some x =>
    rw [← length_filter_le_one_iff hus, once_some, copies_some]
    match us.filter p with
    | [] => simp
    | [u] => simp
    | u :: v :: rest => simp [replicate_succ]

lemma copies_eq_once_of_length_le {p : α → Bool} {o : Option γ}
    (h : (copies us p o).length ≤ (once us p o).length) : copies us p o = once us p o := by
  cases o with
  | none => simp [copies_none, once]
  | some x =>
    rw [once_some, copies_some] at h ⊢
    match hfil : us.filter p with
    | [] => simp
    | [u] => simp
    | u :: v :: rest => simp [hfil] at h

lemma flatMap_copies_perm_iff (us : List α) (rows : List β) (P : α → β → Bool) (g : β → Option γ) :
    (rows.flatMap fun r => copies us (P · r) (g r)).Perm (rows.flatMap fun r => once us (P · r) (g r)) ↔
      ∀ r ∈ rows, copies us (P · r) (g r) = once us (P · r) (g r) := by
  constructor
  · -- no item has fewer copies than one, so none can have more
    intro hperm r hr
    have hlen : (rows.map fun r => (copies us (P · r) (g r)).length).sum =
        (rows.map fun r => (once us (P · r) (g r)).length).sum := by
      simpa only [length_flatMap] using hperm.length_eq
    apply copies_eq_once_of_length_le
    by_contra hlt
    have hsum := sum_lt_sum (fun r => (once us (P · r) (g r)).length)
      (fun r => (copies us (P · r) (g r)).length) (fun r _ => length_once_le us (P · r) (g r))
      ⟨r, hr, Nat.not_le.mp hlt⟩
    omega
  · intro h
    rw [flatMap_congr h]

theorem flatMap_perm_filter_iff (hus : us.Nodup) (rows : List β) (P : α → β → Bool) (g : β → Option γ) :
    (us.flatMap fun u => (rows.filter (P u)).filterMap g).Perm
        ((rows.filter fun r => us.any fun u => P u r).filterMap g) ↔
      ∀ r ∈ rows, (g r).isSome → ∀ u ∈ us, ∀ v ∈ us, P u r → P v r → u = v := by
  have hcop : (us.flatMap fun u => (rows.filter (P u)).filterMap g).Perm
      (rows.flatMap fun r => copies us (P · r) (g r)) := by
    simp only [filterMap_filter_eq_flatMap]
    exact flatMap_comm_perm us rows _
  have honce : (rows.filter fun r => us.any fun u => P u r).filterMap g =
      rows.flatMap fun r => once us (P · r) (g r) := filterMap_filter_eq_flatMap rows _ g
  rw [honce, hcop.congr_left, flatMap_copies_perm_iff]
  simp only [copies_eq_once_iff hus]

end counting

open Run Storage Billing

def tableAt (fs : Files) (place : List String) : Option (List (String × List Value)) :=
  match fs.get? place with
  | some (.table columns) => some columns
  | _ => none

def viewTables (provider : String) (w : World) : List (List (String × List Value)) :=
  let p := Path.ofText (Analytics.directory provider)
  match (exec (namesWith p ".parquet") w).1 with
  | .ok names => names.filterMap fun n => tableAt w.files (p.parts ++ [n])
  | .error _ => []

def viewRecords (provider : String) (w : World) : List (List Value) :=
  (viewTables provider w).flatMap Table.records

variable {parts : List String} {w : World} {ws : List Window} {α : Type}

lemma exec_namesWith (hpar : ∀ n ∈ parts, Path.IsPlain n) (hcou : parts.length ≤ 15)
    (hdir : w.files.get? parts = some .directory) (ending : String) :
    exec (namesWith ⟨"", parts⟩ ending) w = (.ok (w.files.withEnding parts ending), w) := by
  have hloc : w.files.locate ⟨"", parts⟩ = .ok parts :=
    Files.locate_of_isPlain w.files hpar hcou
      (Files.isDirectory_of_above (Files.isDirectory_of_get? hdir) ( dropLast_prefix parts))
  have hlook : exec (look ⟨"", parts⟩) w = (.ok (some .directory), w) := by
    unfold look Files.look
    rw [exec_bind_ok (exec_get w), exec_liftM, hloc]
    simp only [hdir]
  unfold namesWith
  rw [exec_bind_ok hlook]
  simp only
  rw [exec_bind_ok (exec_get w), exec_pure, hloc]
  rfl

lemma eq_nil_of_exec_namesWith (hpar : ".." ∉ parts) {ending : String} {w' : World}
    {names : List String} (hnone : w.files.withEnding parts ending = [])
    (h : exec (namesWith ⟨"", parts⟩ ending) w = (.ok names, w')) : names = [] := by
  unfold namesWith at h
  obtain ⟨found, w1, hlook, h⟩ := exec_bind_eq_ok.mp h
  obtain ⟨-, rfl⟩ := Prod.mk.inj hlook
  split at h
  · rw [exec_bind_ok (exec_get w), exec_pure] at h
    cases hloc : w.files.locate ⟨"", parts⟩ with
    | error e =>
      rw [hloc] at h
      exact (Except.ok.inj (Prod.mk.inj h).1).symm
    | ok place =>
      obtain rfl := Files.eq_of_locate hpar hloc
      rw [hloc] at h
      exact (Except.ok.inj (Prod.mk.inj h).1).symm.trans hnone
  · exact (Except.ok.inj (Prod.mk.inj h).1).symm

def withSpan (ws : List Window) (W : Window) : List Window := if W ∈ ws then ws else ws ++ [W]

lemma mem_withSpan {V W : Window} : V ∈ withSpan ws W ↔ V ∈ ws ∨ V = W := by
  unfold withSpan
  grind

lemma nodup_withSpan (h : ws.Nodup) (W : Window) : (withSpan ws W).Nodup := by
  unfold withSpan
  grind

structure Holds (f : Feed) (o : Outside) (fs : Files) (ws : List Window) : Prop where
  nodup : ws.Nodup
  names_eq : fs.withEnding f.place ".parquet" = ws.map f.file
  table_eq : ∀ W ∈ ws, Entries.get? fs (f.place ++ [f.file W]) =
    some (.table (Table.columnsOf (f.recordsIn o W)))
  isDirectory : ws ≠ [] → fs.get? f.place = some .directory

namespace Holds

variable {f : Feed} {o : Outside} {fs : Files} {ws : List Window}

lemma nil (h : fs.withEnding f.place ".parquet" = []) : Holds f o fs [] where
  nodup := nodup_nil
  names_eq := h
  table_eq := fun _ hW => absurd hW not_mem_nil
  isDirectory := fun hne => absurd rfl hne

lemma records_columnsOf_recordsIn (f : Feed) (o : Outside) (W : Window) :
    Table.records (Table.columnsOf (f.recordsIn o W)) = f.recordsIn o W := by
  apply Table.records_columnsOf
  intro r hr
  obtain ⟨row, -, hrec⟩ := mem_filterMap.mp hr
  exact f.length_of_record hrec

variable {w : World} {fs1 : Files}

lemma viewRecords_eq (h : Holds f o w.files ws) :
    viewRecords f.provider w = ws.flatMap (f.recordsIn o) := by
  have hpla : ∀ n ∈ f.place, Path.IsPlain n := fun _ => Feed.isPlain_of_mem_place
  have hcou : f.place.length ≤ 15 := by simp [Feed.place]
  unfold viewRecords viewTables
  simp only [f.ofText_directory]
  by_cases hne : ws = []
  · subst hne
    split
    · next names hnam =>
        have hdots : ".." ∉ f.place := fun hmem => (hpla _ hmem).ne_dots rfl
        rw [eq_nil_of_exec_namesWith hdots h.names_eq (Prod.ext hnam rfl)]
        rfl
    · rfl
  · have htab : (ws.map f.file).filterMap (fun n => tableAt w.files (f.place ++ [n])) =
        ws.map fun W => Table.columnsOf (f.recordsIn o W) := by
      rw [filterMap_map, ← filterMap_eq_map]
      apply filterMap_congr
      intro W hW
      have htbl := Files.get?_of_entry (h.table_eq W hW)
      simp [tableAt, htbl]
    rw [exec_namesWith hpla hcou (h.isDirectory hne), h.names_eq]
    simp only [htab, flatMap_map, records_columnsOf_recordsIn]

lemma file_mem_names_iff (h : Holds f o fs ws) (W : Window) : f.file W ∈ fs.names f.place ↔ W ∈ ws := by
  have hend : f.file W ∈ fs.names f.place ↔ f.file W ∈ fs.withEnding f.place ".parquet" := by
    simp [Files.withEnding, f.endsWith_file W]
  rw [hend, h.names_eq, mem_map]
  constructor
  · rintro ⟨V, hV, hfile⟩
    rwa [← f.file_inj hfile]
  · exact fun hW => ⟨W, hW, rfl⟩

lemma withEnding_put (h : Holds f o fs ws) (hext : Files.Extends fs fs1 f.place) (W : Window)
    (c : Content) :
    (fs1.put (f.place ++ [f.file W]) c).withEnding f.place ".parquet" = (withSpan ws W).map f.file := by
  have hsla : f.file W ≠ "/" := by
    intro hfile
    exact (f.isPlain_file W).slash_not_mem (by simp [hfile])
  have hnam := h.names_eq
  unfold Files.withEnding at hnam ⊢
  unfold withSpan
  rw [Files.names_put_child fs1 f.place hsla c, hext.names_eq f.place (prefix_refl _)]
  by_cases hW : W ∈ ws
  · rw [if_pos ((h.file_mem_names_iff W).mpr hW), if_pos hW, hnam]
  · have hend : [f.file W].filter (fun n => Text.endsWith n ".parquet") = [f.file W] := by
      simp [f.endsWith_file W]
    rw [if_neg (mt (h.file_mem_names_iff W).mp hW), if_neg hW, filter_append, hnam, hend,
      map_append, map_singleton]

lemma put (h : Holds f o fs ws) (hext : Files.Extends fs fs1 f.place)
    (hdir : fs1.get? f.place = some .directory) (W : Window) :
    Holds f o (fs1.put (f.place ++ [f.file W]) (.table (Table.columnsOf (f.recordsIn o W))))
      (withSpan ws W) where
  nodup := nodup_withSpan h.nodup W
  names_eq := h.withEnding_put hext W _
  table_eq := by
    intro V hV
    by_cases hVW : V = W
    · subst hVW
      exact Entries.get?_put_self _ _ _
    · have hpla : f.place ++ [f.file V] ≠ f.place ++ [f.file W] := by
        intro heq
        exact hVW (f.file_inj (by simpa using heq))
      have hV' : V ∈ ws := (mem_withSpan.mp hV).resolve_right hVW
      rw [Files.put, Entries.get?_put_of_ne _ hpla]
      exact hext.get?_eq _ _ (h.table_eq V hV')
  isDirectory := fun _ => Files.get?_put_child hdir _ _

lemma step {W : Window} {fs' : Files} {rs : List (List Value)} (h : Holds f o fs ws)
    (hrs : rs = f.recordsIn o W) (hsto : Stored fs f.place (f.file W) rs fs') :
    ∃ ws', Holds f o fs' ws' ∧ ∀ V, V ∈ ws' ↔ V ∈ ws ∨ V = W ∧ f.recordsIn o V ≠ [] := by
  cases hsto with
  | nothing =>
    grind
  | @table fs1 _ hne hext hdir =>
    subst hrs
    refine ⟨withSpan ws W, h.put hext hdir W, fun V => ?_⟩
    rw [mem_withSpan]
    refine or_congr_right ⟨?_, And.left⟩
    rintro rfl
    exact ⟨rfl, hne⟩

theorem run (hdir : f.directory = Path.ofText (Analytics.directory f.provider)) (vs : List Window)
    {w' : World} {os : List Value} (h : Holds f o w.files ws) (hrows : f.rows w.outside = f.rows o)
    (hrun : exec (vs.mapM f.ingest) w = (.ok os, w')) :
    ∃ ws', Holds f o w'.files ws' ∧ ∀ V, V ∈ ws' ↔ V ∈ ws ∨ V ∈ vs ∧ f.recordsIn o V ≠ [] := by
  induction vs generalizing w ws os with
  | nil =>
    cases hrun
    exact ⟨ws, h, fun V => by simp⟩
  | cons W vs ih =>
    rw [mapM_cons] at hrun
    obtain ⟨v, w1, hfir, hrun⟩ := exec_bind_eq_ok.mp hrun
    obtain ⟨rest, w2, hrest, hrun⟩ := exec_bind_eq_ok.mp hrun
    cases hrun
    obtain ⟨hsame, hsto⟩ := Feed.ingest_spec hdir hfir
    have hrec : f.recordsIn w.outside W = f.recordsIn o W := by
      unfold Feed.recordsIn
      rw [hrows]
    obtain ⟨ws1, h1, hmem1⟩ := h.step hrec hsto
    grind

end Holds

lemma flatMap_filter_ne_nil {β : Type} (as : List α) (g : α → List β) :
    (as.filter fun a => !(g a).isEmpty).flatMap g = as.flatMap g := by
  induction as with
  | nil => rfl
  | cons a as ih =>
    rw [flatMap_cons, ← ih]
    cases hg : g a <;> simp [hg]

/-- Over any sequence of spans that were taken over, starting without tables, the view of the provider holds the
records of each different span. -/
theorem view_holds_rows_once_iff (f : Feed) (ws : List Window) {w w' : World} {os : List Value}
    (hdir : f.directory = Path.ofText (Analytics.directory f.provider))
    (hempty : w.files.withEnding f.place ".parquet" = [])
    (hrun : exec (ws.mapM f.ingest) w = (.ok os, w')) :
    (∀ W row d, d.IsDay → f.HasDay row d → f.holds W row = W.contains d) ∧
    (viewRecords f.provider w').Perm (ws.dedup.flatMap (f.recordsIn w.outside)) ∧
    ((viewRecords f.provider w').Perm
        (((f.rows w.outside).filter fun row => ws.any fun W => f.holds W row).filterMap f.record) ↔
      ∀ row ∈ f.rows w.outside, (f.record row).isSome →
        ∀ V ∈ ws, ∀ W ∈ ws, f.holds V row → f.holds W row → V = W) := by
  obtain ⟨stored, hhol, hmem⟩ := Holds.run hdir ws (Holds.nil hempty) rfl hrun
  have hspa : stored.Perm (ws.dedup.filter fun W => !(f.recordsIn w.outside W).isEmpty) := by
    rw [perm_ext_iff_of_nodup hhol.nodup (ws.nodup_dedup.filter _)]
    intro V
    simp [hmem, mem_filter]
  have hview : (viewRecords f.provider w').Perm (ws.dedup.flatMap (f.recordsIn w.outside)) := by
    rw [hhol.viewRecords_eq, ← flatMap_filter_ne_nil ws.dedup]
    exact hspa.flatMap_right _
  refine ⟨fun W row d => f.holds_eq_contains W, hview, ?_⟩
  have hcou := flatMap_perm_filter_iff ws.nodup_dedup (f.rows w.outside) f.holds f.record
  have hany : ∀ row, (ws.dedup.any fun W => f.holds W row) = ws.any fun W => f.holds W row := by
    intro row
    rw [Bool.eq_iff_iff, any_eq_true, any_eq_true]
    simp only [mem_dedup]
  simp only [hany, mem_dedup] at hcou
  rw [← hcou]
  exact ⟨fun h => hview.symm.trans h, fun h => hview.trans h⟩

lemma exists_exec_of_toBool {x : Run α} (h : (exec x w).1.toBool = true) :
    ∃ a, exec x w = (.ok a, (exec x w).2) := by
  rcases hx : exec x w with ⟨e | a, w'⟩
  · rw [hx] at h
    cases h
  · exact ⟨a, rfl⟩

def worldWith (blobs : List (String × Option String)) : World where
  outside := {
    web := fun _ _ => .error .noRows
    aws := fun _ _ => .error .noRows
    pages := 0
    engine := fun _ _ => .error .noRows
    snowflake := .error .noRows
    bigQuery := .ok []
    blobs := blobs
    listsBlobs := true
    azureToken := .error .noRows
    signsOracle := true
    mail := none }
  now := default

def january : Window := ⟨⟨2026, 1, 1⟩, ⟨2026, 2, 1⟩, by decide, by decide⟩

def february : Window := ⟨⟨2026, 2, 1⟩, ⟨2026, 3, 1⟩, by decide, by decide⟩

def midwinter : Window := ⟨⟨2026, 1, 15⟩, ⟨2026, 2, 15⟩, by decide, by decide⟩

def usageRow (amount : Float) (day : Date) : Value :=
  .object [("cost", .float amount), ("usage_start_time", .date day)]

def usageDay (row : Value) : Date :=
  match row.getD "usage_start_time" .null with
  | .ok (.date d) => d
  | _ => default

def monthlyRows : Feed :=
  .dataset ⟨.null, "billing", Path.ofText (Analytics.directory "gcp")⟩
    [usageRow 12.5 ⟨2026, 1, 20⟩, usageRow 3 ⟨2026, 2, 20⟩] usageDay

/-- Months do not overlap, and a month that is taken over again replaces its table. -/
theorem view_holds_rows_once_of_months :
    ∃ w' os, exec ([january, february, january].mapM monthlyRows.ingest) (worldWith []) = (.ok os, w') ∧
      (viewRecords "gcp" w').Perm
        (((monthlyRows.rows (worldWith []).outside).filter fun row =>
          [january, february, january].any fun W => monthlyRows.holds W row).filterMap
            monthlyRows.record) := by
  have hok : (exec ([january, february, january].mapM monthlyRows.ingest) (worldWith [])).1.toBool =
      true := by
    decide +kernel
  obtain ⟨os, hrun⟩ := exists_exec_of_toBool hok
  have honce := (view_holds_rows_once_iff monthlyRows _ rfl rfl hrun).2.2
  have hdis : ∀ row ∈ monthlyRows.rows (worldWith []).outside, ∀ V ∈ [january, february, january],
      ∀ W ∈ [january, february, january],
        monthlyRows.holds V row → monthlyRows.holds W row → V = W := by
    decide
  exact ⟨_, os, hrun, honce.mpr fun row hrow _ => hdis row hrow⟩

def costFiles : Feed :=
  .container ⟨"", "", "", "acc", "exports", Path.ofText (Analytics.directory "azure")⟩ ""

def oneCost : List (String × Option String) := [("costs.csv", some "Date,Cost\n2026-01-20,12.5\n")]

/-- Two spans that overlap in the day of the row: the view counts the row twice. -/
theorem view_counts_row_twice :
    (exec ([january, midwinter].mapM costFiles.ingest) (worldWith oneCost)).1.toBool = true ∧
      (viewRecords "azure"
        (exec ([january, midwinter].mapM costFiles.ingest) (worldWith oneCost)).2).length = 2 ∧
      (((costFiles.rows (worldWith oneCost).outside).filter fun row =>
        [january, midwinter].any fun W => costFiles.holds W row).filterMap
          costFiles.record).length = 1 := by
  decide +kernel

end CloudSpend.Source
