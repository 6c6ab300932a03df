import CloudSpend.Analytics.CostQuery
import CloudSpend.Proofs.Calendar.DateText
import CloudSpend.Proofs.Outside.Asking
import CloudSpend.Proofs.Source.Keep
import CloudSpend.Source.BigQuery
import CloudSpend.Source.BlobStorage

/-! # Exports taken over by spans of days -/

namespace CloudSpend.Source

open List
open Run Storage

lemma spanName_text (first last : Date) :
    spanName (.text first.text) (.text last.text) =
      .ok (String.ofList first.digits ++ "_" ++ String.ofList last.digits) := by
  have hname : ∀ d : Date, nameDay (.text d.text) = .ok (String.ofList d.digits) := by
    intro d
    have hday : nameDay (.text d.text) = .ok (Text.replace d.text "-" "") := rfl
    rw [hday, d.replace_text]
  unfold spanName
  rw [hname, hname]
  rfl

structure Window where
  start : Date
  stop : Date
  isDay_start : start.IsDay
  isDay_stop : stop.IsDay
  deriving DecidableEq

namespace Window

def contains (W : Window) (d : Date) : Bool := W.start.le d && d.lt W.stop

def name (W : Window) : String := String.ofList W.start.digits ++ "_" ++ String.ofList W.stop.digits

lemma spanName_eq (W : Window) : spanName (.text W.start.text) (.text W.stop.text) = .ok W.name :=
  spanName_text W.start W.stop

lemma toList_name (W : Window) : W.name.toList = W.start.digits ++ '_' :: W.stop.digits := by
  simp [name]

lemma length_name (W : Window) : W.name.toList.length = 17 := by
  simp [toList_name, Date.length_digits W.isDay_start, Date.length_digits W.isDay_stop]

lemma name_inj {V W : Window} (h : V.name = W.name) : V = W := by
  have hlist : V.start.digits ++ '_' :: V.stop.digits = W.start.digits ++ '_' :: W.stop.digits := by
    rw [← toList_name, ← toList_name, h]
  have hlen : V.start.digits.length = W.start.digits.length := by
    rw [Date.length_digits V.isDay_start, Date.length_digits W.isDay_start]
  obtain ⟨hsta, hrest⟩ := append_inj hlist hlen
  have hsta' := Date.digits_inj V.isDay_start W.isDay_start hsta
  have hstop' := Date.digits_inj V.isDay_stop W.isDay_stop (cons.inj hrest).2
  cases V
  cases W
  simp_all

lemma isPlain_file (W : Window) {label : String} (hlab : Path.IsPlain label)
    (hlen : label.toList.length ≤ 200) : Path.IsPlain (label ++ W.name ++ ".parquet") := by
  have htot : (label ++ W.name ++ ".parquet").toList.length = label.toList.length + 25 := by
    have hend : ".parquet".toList.length = 8 := rfl
    rw [String.toList_append, String.toList_append, length_append, length_append, W.length_name,
      hend]
  apply Path.IsPlain.of_chars
  · omega
  · omega
  · intro c hc
    rw [String.toList_append, String.toList_append, mem_append, mem_append, toList_name,
      mem_append, mem_cons] at hc
    have hdig : ∀ {d : Date}, c ∈ d.digits → Path.isPlainChar c = true := by
      intro d hd
      have h := Date.isDigit_of_mem_digits hd
      simp only [Char.isDigit, Bool.and_eq_true, decide_eq_true_eq, UInt32.le_iff_toNat_le] at h
      refine Path.isPlainChar_iff.mpr ⟨?_, ?_, ?_⟩
      · rintro rfl
        exact absurd h.1 (by decide)
      · exact Nat.lt_of_lt_of_le (by decide) h.1
      · exact Nat.lt_of_le_of_lt h.2 (by decide)
    rcases hc with (hc | hc | rfl | hc) | hc
    · refine Path.isPlainChar_iff.mpr ⟨?_, hlab.ascii c hc⟩
      rintro rfl
      exact hlab.slash_not_mem hc
    · exact hdig hc
    · decide
    · exact hdig hc
    · have hall : ".parquet".toList.all Path.isPlainChar = true := by decide
      exact all_eq_true.mp hall c hc

end Window

lemma eq_filter_of_filterM {α : Type} {p : α → Result Bool} {xs ys : List α}
    (h : xs.filterM p = .ok ys) : ys = xs.filter fun x => (p x).toOption.getD false := by
  have haux : ∀ {xs acc zs : List α}, filterAuxM p xs acc = .ok zs →
      zs = (xs.filter fun x => (p x).toOption.getD false).reverse ++ acc := by
    intro xs
    induction xs with
    | nil =>
      intro acc zs h
      cases h
      rfl
    | cons x xs ih =>
      intro acc zs h
      unfold filterAuxM at h
      obtain ⟨b, hx, h⟩ := Result.of_bind_ok h
      cases b with
      | false => simpa [hx, Except.toOption] using ih h
      | true => simpa [hx, Except.toOption] using ih h
  unfold filterM at h
  obtain ⟨zs, hkept, h⟩ := Result.of_bind_ok h
  cases h
  rw [haux hkept]
  simp

lemma filterM_eq_ok {α : Type} {f : α → Result Bool} {test : α → Bool} {as : List α} (hf : ∀ a ∈ as, f a = .ok (test a)) :
    as.filterM f = .ok (as.filter test) := by
  have hloop : ∀ (as acc : List α), (∀ a ∈ as, f a = .ok (test a)) →
      filterAuxM f as acc = .ok ((as.filter test).reverse ++ acc) := by
    intro as
    induction as with
    | nil => exact fun acc _ => rfl
    | cons a as ih =>
      intro acc hf
      rw [filterAuxM, hf a mem_cons_self, filter_cons]
      change filterAuxM f as _ = _
      rw [ih _ fun a ha => hf a (mem_cons_of_mem _ ha)]
      cases test a <;> simp
  rw [filterM, hloop as [] hf]
  exact congrArg Except.ok (by simp)

namespace BlobStorage

def listed (o : Outside) : Value → List String
  | .text s => if o.listsBlobs then (o.blobs.map (·.1)).filter fun name => Text.startsWith name s else []
  | _ => []

def exportFiles (o : Outside) (names : Value) : List String :=
  ((listed o names).filter fun n => Text.endsWith n ".csv").mergeSort fun a b => !(b < a)

def fileRows (o : Outside) (name : String) : List Value :=
  match (Entries.get? o.blobs name).join with
  | some text => (Codec.Csv.rows (Codec.Csv.withoutMark text)).toOption.getD []
  | none => []

def exportRows (o : Outside) (names : Value) : List Value :=
  (exportFiles o names).flatMap (fileRows o)

instance quiet_openContainer (b : BlobStorage) : Quiet b.openContainer := by
  unfold openContainer connect noteClientSecret
  dsimp only
  infer_instance

lemma exists_exec_openContainer (b : BlobStorage) (w : World) :
    ∃ w1, exec b.openContainer w = (.ok (), w1) := by
  have hcon : ∃ w1, exec b.connect w = (.ok (), w1) := by
    unfold connect
    apply exists_exec_connectOnce
    intro w
    split
    · exact ⟨_, rfl⟩
    · exact ⟨_, rfl⟩
  obtain ⟨w1, h1⟩ := hcon
  unfold openContainer
  rw [exec_bind_ok h1]
  exact ⟨_, exec_noteCloud _ _⟩

lemma exec_recover_list (start : Value) (w : World) :
    exec (recover (list start) fun _ => return []) w =
      (.ok (listed w.outside start), { w with clouds := w.clouds ++ [.list ["list", start]] }) := by
  unfold list
  rw [exec_recover, exec_bind_ok (exec_noteCloud _ w), exec_bind_ok (exec_get _)]
  simp only
  cases hlis : w.outside.listsBlobs with
  | false => cases start <;> simp [listed, hlis]
  | true =>
    cases hblo : w.outside.blobs with
    | nil => cases start <;> simp [listed, hlis, hblo]
    | cons e es => cases start <;> simp [listed, hlis, hblo]

variable {b : BlobStorage} {w0 w w' : World}

lemma yields_openContainer : Yields w0 b.openContainer (.ok ()) := by
  intro w hw
  obtain ⟨w1, hopen⟩ := exists_exec_openContainer b w
  exact ⟨w1, hopen, ((quiet_openContainer b).view_eq hopen).trans hw⟩

lemma yields_files (names : Value) : Yields w0 (b.files names) (.ok (exportFiles w0.outside names)) := by
  unfold files
  refine yields_openContainer.bind_ok (.bind_ok ?_ (yields_pure _))
  intro w hw
  rw [← outside_eq_of_settled hw]
  exact ⟨_, exec_recover_list names w, hw⟩

lemma yields_rows (name : String) : Yields w0 (b.rows (.text name)) (.ok (fileRows w0.outside name)) := by
  unfold rows fileRows
  refine yields_openContainer.bind_ok ?_
  intro w hw
  rw [exec_recover, exec_bind_ok (exec_noteCloud _ w), exec_bind_ok (exec_get _), ← outside_eq_of_settled hw]
  simp only [Value.text?, Option.bind_some]
  refine ⟨{ w with clouds := w.clouds ++ [.list ["get", .text name]] }, ?_, hw⟩
  cases (Entries.get? w.outside.blobs name).join with
  | none => rfl
  | some text =>
    simp only [exec_liftM]
    cases Codec.Csv.rows (Codec.Csv.withoutMark text) with
    | error e => rfl
    | ok found => rfl

instance quiet_files (b : BlobStorage) (names : Value) : Quiet (b.files names) :=
  quiet_of_yields fun _ => yields_files names

instance quiet_rows (b : BlobStorage) (name : String) : Quiet (b.rows (.text name)) :=
  quiet_of_yields fun _ => yields_rows name

variable {W : Window}

def chosen (W : Window) (o : Outside) (names : Value) : Result (List (List Value)) :=
  (exportFiles o names).mapM fun f => (fileRows o f).filterM (isBetween (.text W.start.text) (.text W.stop.text))

lemma exec_ingest (names : Value) : ∃ w1, settled w1 = settled w ∧
    exec (b.ingest (.text W.start.text) (.text W.stop.text) names) w = exec (do
      let parts ← liftM (chosen W w.outside names)
      let (count, path) ← keep .azure b.directory (.ok ("azure_" ++ W.name)) parts.flatten
      return .object [("rows_ingested", count), ("files_processed", (exportFiles w.outside names).length),
        ("output_path", Value.ofText? path)]) w1 := by
  obtain ⟨w1, hfil, hw1⟩ := yields_files names w rfl
  have hcho : Yields w ((exportFiles w.outside names).mapM fun f => do
      let rows ← b.rows (.text f)
      liftM (rows.filterM (isBetween (.text W.start.text) (.text W.stop.text)) : Result (List Value)))
      (chosen W w.outside names) := .mapM fun f _ => (yields_rows f).bind_ok (yields_liftM _)
  obtain ⟨w2, hrows, hw2⟩ := hcho w1 hw1
  refine ⟨w2, hw2, ?_⟩
  unfold ingest
  rw [exec_bind_ok hfil, exec_bind, hrows, exec_bind, exec_liftM, W.spanName_eq]
  rfl

def holds (W : Window) (row : Value) : Bool :=
  (isBetween (.text W.start.text) (.text W.stop.text) row).toOption.getD false

lemma flatten_of_chosen {o : Outside} {names : Value} {parts : List (List Value)}
    (h : chosen W o names = .ok parts) : parts.flatten = (exportRows o names).filter (holds W) := by
  have hpar := Billing.forall₂_of_mapM h
  rw [exportRows, filter_flatMap]
  clear h
  generalize exportFiles o names = files at hpar ⊢
  induction hpar with
  | nil => rfl
  | cons hfile _ ih =>
    rw [flatten_cons, flatMap_cons, ih, eq_filter_of_filterM hfile]
    rfl

lemma of_exec_ingest {names v : Value}
    (h : exec (b.ingest (.text W.start.text) (.text W.stop.text) names) w = (.ok v, w')) :
    ∃ w1 r, w1.files = w.files ∧ w1.outside = w.outside ∧
      exec (keep .azure b.directory (.ok ("azure_" ++ W.name))
        ((exportRows w.outside names).filter (holds W))) w1 = (.ok r, w') := by
  obtain ⟨w1, hw1, hing⟩ := exec_ingest names
  rw [hing] at h
  obtain ⟨parts, w2, hpar, h⟩ := exec_bind_eq_ok.mp h
  have hcho : chosen W w.outside names = .ok parts := congrArg Prod.fst hpar
  obtain rfl : w1 = w2 := congrArg Prod.snd hpar
  obtain ⟨r, w3, hkeep, h⟩ := exec_bind_eq_ok.mp h
  obtain ⟨-, rfl⟩ := Prod.mk.inj h
  rw [flatten_of_chosen hcho] at hkeep
  exact ⟨w1, r, congrArg (·.1) hw1, outside_eq_of_settled hw1, hkeep⟩

def dayCell (row : Value) : Result Value := do
  (← row.getD "Date" (← row.getD "UsageDateTime" "")).take 10

lemma isBetween_eq_contains (W : Window) {row : Value} {d : Date} (hd : d.IsDay)
    (hrow : dayCell row = .ok (.text d.text)) :
    isBetween (.text W.start.text) (.text W.stop.text) row = .ok (W.contains d) := by
  have hbet : isBetween (.text W.start.text) (.text W.stop.text) row = (do
      let day ← dayCell row
      if !day.truthy then return false
      if ← Value.le (.text W.start.text) day then day.lt (.text W.stop.text) else return false) := by
    unfold isBetween dayCell
    simp only [bind_assoc]
  have htru : (Value.text d.text).truthy = true := by
    have hne : d.text ≠ "" := by
      intro h
      have hlist := d.toList_text
      rw [h] at hlist
      simp at hlist
    simpa [Value.truthy] using hne
  have hsta : Value.le (.text W.start.text) (.text d.text) =
      .ok (!decide (d.text < W.start.text)) := by
    simp [Value.le, Value.precedes]
  have hstop : Value.lt (.text d.text) (.text W.stop.text) =
      .ok (decide (d.text < W.stop.text)) := by
    simp [Value.lt, Value.precedes]
  have hlow : decide (d.text < W.start.text) = d.lt W.start := by
    rw [Bool.eq_iff_iff, decide_eq_true_eq, Date.text_lt_text_iff hd W.isDay_start]
  have hhigh : decide (d.text < W.stop.text) = d.lt W.stop := by
    rw [Bool.eq_iff_iff, decide_eq_true_eq, Date.text_lt_text_iff hd W.isDay_stop]
  unfold Window.contains Date.le
  rw [hbet, hrow]
  simp only [bind, Except.bind, htru, hsta, hstop, hlow, hhigh]
  cases d.lt W.start <;> rfl

lemma holds_eq_contains (W : Window) {row : Value} {d : Date} (hd : d.IsDay)
    (hrow : dayCell row = .ok (.text d.text)) : holds W row = W.contains d := by
  rw [holds, isBetween_eq_contains W hd hrow]
  rfl

end BlobStorage

namespace BigQuery

instance quiet_connect (b : BigQuery) : Quiet b.connect := by
  unfold connect
  refine @quiet_connectOnce _ ?_
  split
  · refine (leaves_liftM _).bind fun text => ?_
    split <;> infer_instance
  · infer_instance

lemma of_exec_ingest {b : BigQuery} {W : Window} {rows : List Value} {v : Value} {w w' : World}
    (hrows : w.outside.bigQuery = .ok rows)
    (h : exec (b.ingest (.text W.start.text) (.text W.stop.text)) w = (.ok v, w')) :
    ∃ tables w1 r, rows.mapM tableOf = .ok tables ∧ w1.files = w.files ∧ 
      exec (keep .gcp b.directory (.ok ("gcp_" ++ W.name)) tables) w1 = (.ok r, w') := by
  unfold ingest at h
  obtain ⟨_, w1, hcon, h⟩ := exec_bind_eq_ok.mp h
  have hfil := Quiet.files_eq hcon
  have hout := Quiet.outside_eq hcon
  obtain ⟨answer, w2, hque, h⟩ := exec_bind_eq_ok.mp h
  unfold query at hque
  rw [exec_bind_ok (exec_noteCloud _ w1), exec_bind_ok (exec_get _), exec_liftM, hout, hrows]
    at hque
  obtain ⟨hans, rfl⟩ := Prod.mk.inj hque
  cases hans
  obtain ⟨tables, w3, hlift, h⟩ := exec_bind_eq_ok.mp h
  obtain ⟨htab, rfl⟩ := Prod.mk.inj hlift
  obtain ⟨r, w4, hkeep, h⟩ := exec_bind_eq_ok.mp h
  obtain ⟨-, rfl⟩ := Prod.mk.inj h
  rw [W.spanName_eq] at hkeep
  refine ⟨tables, _, r, htab, ?_, hkeep⟩
  exact hfil

end BigQuery

inductive Feed where
  | dataset (source : BigQuery) (rows : List Value) (day : Value → Date)
  | container (source : BlobStorage) (names : Value)

namespace Feed

def provider : Feed → String
  | dataset _ _ _ => "gcp"
  | container _ _ => "azure"

def label : Feed → String
  | dataset _ _ _ => "gcp_"
  | container _ _ => "azure_"

def directory : Feed → Path
  | dataset source _ _ => source.directory
  | container source _ => source.directory

def rows : Feed → Outside → List Value
  | dataset _ rows _, _ => rows
  | container _ names, o => BlobStorage.exportRows o names

def holds : Feed → Window → Value → Bool
  | dataset _ _ day, W, row => W.contains (day row)
  | container _ _, W, row => BlobStorage.holds W row

def HasDay : Feed → Value → Date → Prop
  | dataset _ _ day, row, d => day row = d
  | container _ _, row, d => BlobStorage.dayCell row = .ok (.text d.text)

def record : Feed → Value → Option (List Value)
  | dataset _ _ _, row => (BigQuery.tableOf row).toOption.bind Billing.Cloud.gcp.record
  | container _ _, row => Billing.Cloud.azure.record row

def ingest : Feed → Window → Run Value
  | dataset source rows day, W => do
    modify fun w => { w with outside := { w.outside with
      bigQuery := .ok (rows.filter fun row => W.contains (day row)) } }
    source.ingest (.text W.start.text) (.text W.stop.text)
  | container source names, W => source.ingest (.text W.start.text) (.text W.stop.text) names

def recordsIn (f : Feed) (o : Outside) (W : Window) : List (List Value) :=
  ((f.rows o).filter (f.holds W)).filterMap f.record

def place (f : Feed) : List String := ["data", "billing", f.provider]

def file (f : Feed) (W : Window) : String := f.label ++ W.name ++ ".parquet"

lemma ofText_directory (f : Feed) : Path.ofText (Analytics.directory f.provider) = ⟨"", f.place⟩ := by
  cases f with
  | dataset source rows day =>
    show Path.ofText (Analytics.directory "gcp") = ⟨"", ["data", "billing", "gcp"]⟩
    rfl
  | container source names =>
    show Path.ofText (Analytics.directory "azure") = ⟨"", ["data", "billing", "azure"]⟩
    rfl

variable {row : Value} {f : Feed} {W : Window}

lemma holds_eq_contains (f : Feed) (W : Window) {d : Date} (hd : d.IsDay) (hrow : f.HasDay row d) :
    f.holds W row = W.contains d := by
  cases f with
  | dataset source rows day => exact congrArg W.contains hrow
  | container source names => exact BlobStorage.holds_eq_contains W hd hrow

lemma length_of_record (f : Feed) {r : List Value} (h : f.record row = some r) :
    r.length = Billing.Table.schema.length := by
  cases f with
  | dataset source rows day =>
    obtain ⟨table, -, hrec⟩ := Option.bind_eq_some_iff.mp h
    exact Billing.Cloud.length_of_record hrec
  | container source names => exact Billing.Cloud.length_of_record h

lemma isPlain_of_mem_place {n : String} (h : n ∈ f.place) : Path.IsPlain n := by
  have hall : ∀ n ∈ ["data", "billing", "gcp", "azure"], n.toList.length ≤ 255 ∧ 3 ≤ n.toList.length ∧
      n.toList.all Path.isPlainChar = true := by decide
  have hmem : n ∈ ["data", "billing", "gcp", "azure"] := by
    cases f <;> simp only [place, provider, mem_cons, not_mem_nil, or_false] at h <;>
      rcases h with rfl | rfl | rfl <;> simp
  obtain ⟨hsho, hlong, hcha⟩ := hall n hmem
  exact Path.IsPlain.of_chars hsho hlong (all_eq_true.mp hcha)

lemma isPlain_file (f : Feed) (W : Window) : Path.IsPlain (f.file W) := by
  have hlab : ∀ label ∈ ["gcp_", "azure_"], label.toList.length ≤ 200 ∧ 3 ≤ label.toList.length ∧
      label.toList.all Path.isPlainChar = true := by decide
  have hmem : f.label ∈ ["gcp_", "azure_"] := by
    cases f with
    | dataset source rows day => exact mem_cons_self
    | container source names => exact mem_cons_of_mem _ mem_cons_self
  obtain ⟨hsho, hlong, hcha⟩ := hlab _ hmem
  exact W.isPlain_file (Path.IsPlain.of_chars (by omega) hlong (all_eq_true.mp hcha)) hsho

lemma file_inj (f : Feed) {V : Window} (h : f.file V = f.file W) : V = W := by
  have hlist := congrArg String.toList h
  unfold file at hlist
  simp only [String.toList_append, append_assoc] at hlist
  have hrest := append_cancel_left hlist
  exact Window.name_inj (String.toList_inj.mp (append_cancel_right hrest))

lemma endsWith_file (f : Feed) (W : Window) : Text.endsWith (f.file W) ".parquet" = true := by
  unfold Text.endsWith file
  rw [String.toList_append, isSuffixOf_iff_suffix]
  exact suffix_append _ _

lemma filterMap_record_of_mapM {rows tables : List Value} (h : rows.mapM BigQuery.tableOf = .ok tables) :
    tables.filterMap Billing.Cloud.gcp.record =
      rows.filterMap fun row => (BigQuery.tableOf row).toOption.bind Billing.Cloud.gcp.record := by
  have hrows := Billing.forall₂_of_mapM h
  clear h
  induction hrows with
  | nil => rfl
  | cons hrow _ ih =>
    rw [filterMap_cons, filterMap_cons, hrow, ih]
    rfl

lemma ingest_spec (hdir : f.directory = Path.ofText (Analytics.directory f.provider)) {w w' : World}
    {v : Value} (h : exec (f.ingest W) w = (.ok v, w')) : f.rows w'.outside = f.rows w.outside ∧
      Stored w.files f.place (f.file W) (f.recordsIn w.outside W) w'.files := by
  have hpla := f.isPlain_file W
  have hpar : ∀ n ∈ f.place, Path.IsPlain n := fun _ => isPlain_of_mem_place
  have hcou : f.place.length < 15 := by simp [place]
  rw [ofText_directory] at hdir
  cases f with
  | dataset source rows day =>
    have hsou : source.directory = ⟨"", ["data", "billing", "gcp"]⟩ := hdir
    unfold ingest at h
    rw [exec_bind_ok (exec_modify _ w)] at h
    obtain ⟨tables, w1, r, htab, hfil, hkeep⟩ := BigQuery.of_exec_ingest rfl h
    rw [hsou] at hkeep
    obtain ⟨-, hsto⟩ := keep_spec hpar hcou hpla hkeep
    rw [filterMap_record_of_mapM htab, hfil] at hsto
    exact ⟨rfl, hsto⟩
  | container source names =>
    have hsou : source.directory = ⟨"", ["data", "billing", "azure"]⟩ := hdir
    obtain ⟨w1, r, hfil, hout, hkeep⟩ := BlobStorage.of_exec_ingest h
    rw [hsou] at hkeep
    obtain ⟨hout', hsto⟩ := keep_spec hpar hcou hpla hkeep
    rw [hfil] at hsto
    rw [hout', hout]
    exact ⟨rfl, hsto⟩

end Feed

end CloudSpend.Source
