import CloudSpend.Proofs.Connector.Fetch
import CloudSpend.Proofs.Source.Ingest

/-! # What connectors write -/

namespace CloudSpend.Connector

open List Result
open Run Storage

inductive IsTableName (first last : Date) : String → String → Prop
  | period (p : String) : IsTableName first last "aws" ("cur_" ++ p ++ ".parquet")
  | span {provider : String} (h : provider = "gcp" ∨ provider = "azure") : IsTableName first last provider
      (provider ++ "_" ++ String.ofList first.digits ++ "_" ++ String.ofList last.digits ++ ".parquet")
  | imported {name : String} (h : Text.endsWith name ".parquet" = true) : IsTableName first last "custom" name
  | costs {provider : String} (h : provider ∉ ["aws", "gcp", "azure", "custom"]) :
      IsTableName first last provider (provider ++ "_costs.parquet")

def placeOf (provider : String) : List String := ["data", "billing", provider]

def IsTable (first last : Date) (provider : String) (p : Path) : Prop :=
  ∃ name, p = ⟨"", placeOf provider ++ [name]⟩ ∧ IsTableName first last provider name

def reported (provider : String) (ws : List Writing) : Nat :=
  if provider = "custom" then ws.length else recordCount ws

def Takes (k : Connector) : Prop :=
  ∀ config (first last : Date) (w : World), Files.Tidy w.files →
    Writes (IsTable first last k.key) (k.ingest config first last .null) w fun outcome _ ws =>
      outcome.succeeded = true → outcome.rows = .int (reported k.key ws)

variable {key : String} {validate : Value → Run Validation} {config settings : Value}
  {keys : List (String × String)} {k : Connector}

lemma IsKey.isName (h : IsKey key) : Path.IsName key ∧ key ≠ ".." := by
  simp only [IsKey, mem_cons, not_mem_nil, or_false, not_or] at h
  exact ⟨⟨h.2.1, h.2.2.1, h.1⟩, h.2.2.2⟩

lemma isName_of_mem_placeOf (h : IsKey key) : ∀ m ∈ placeOf key, Path.IsName m ∧ m ≠ ".." := by
  have hdata : IsKey "data" := by decide
  have hbil : IsKey "billing" := by decide
  simp [placeOf, hdata.isName, hbil.isName, h.isName]

lemma directory_null (h : IsKey key) : Source.directory .null key = .ok ⟨"", placeOf key⟩ := by
  have hbase : Path.ofText Source.billingDirectory = ⟨"", ["data", "billing"]⟩ := by decide
  have hdir : Source.directory .null key = .ok ((Path.ofText Source.billingDirectory).join key) := rfl
  rw [hdir, hbase, Path.join_of_isName _ h.isName.1]
  rfl

lemma writes_recovered {In : Path → Prop} {x : Run Ingestion} {w : World} (hkey : key ≠ "custom")
    (hx : Writes In x w fun outcome _ ws => outcome.rows = .int (recordCount ws)) :
    Writes In (recover x fun e => pure { succeeded := false, message := e.message }) w fun outcome _ ws =>
      outcome.succeeded = true → outcome.rows = .int (reported key ws) := by
  refine (hx.recover _).mono ?_
  rintro outcome w' ws (hrows | ⟨e, rfl⟩) hsuc
  · rw [hrows, reported, if_neg hkey]
  · cases hsuc

lemma takes_standard {fetch : Value → Value → Value → Run Value}
    {lines : Value → Date → Value → Result (List Line)}
    (h : IsKey key ∧ key ∉ ["aws", "gcp", "azure", "custom"])
    (hfet : ∀ config start stop, Quiet (fetch config start stop)) :
    (standard key validate fetch lines).Takes := by
  intro config first last w _
  obtain ⟨hkey, hoth⟩ := h
  have hcus : key ≠ "custom" := by
    rintro rfl
    exact hoth (by decide)
  have hsla : '/' ∉ (key ++ "_costs").toList := by
    rw [String.toList_append, mem_append, not_or]
    exact ⟨hkey.1, by decide⟩
  have hfile : Path.IsName (key ++ "_costs.parquet") ∧ key ++ "_costs.parquet" ≠ ".." := by
    simpa [String.append_assoc] using Path.isName_file hsla
  have hpla := isName_of_mem_placeOf hkey
  have hall : ∀ m ∈ placeOf key ++ [key ++ "_costs.parquet"], Path.IsName m ∧ m ≠ ".." := by
    grind
  have hin : IsTable first last key ⟨"", placeOf key ++ [key ++ "_costs.parquet"]⟩ := ⟨_, rfl, .costs hoth⟩
  refine writes_recovered hcus ?_
  refine .quiet_bind fun raw w1 _ => .quiet_bind fun today w2 _ => .liftM_bind fun ls _ => ?_
  split
  · exact writes_pure rfl
  · rw [directory_null hkey]
    refine .liftM_bind fun directory hdre => ?_
    obtain rfl := Except.ok.inj hdre
    refine (writes_makeDirectory hpla _ _).bind ?_
    rintro _ w3 _ - ⟨hdir, rfl⟩
    rw [Path.join_of_isName _ hfile.1]
    have hpath : Path.ofText (Path.text ⟨"", placeOf key ++ [key ++ "_costs.parquet"]⟩) =
        ⟨"", placeOf key ++ [key ++ "_costs.parquet"]⟩ :=
      Path.ofText_text (by simp) fun m hm => (hall m hm).1
    refine (writes_writeTable (t := table _ ls) hpath hall hin hdir).bind_quiet ?_
    rintro _ w4 _ outcome w5 ⟨-, rfl⟩ hrun
    cases hrun
    simp [recordCount, Content.recordCount, Billing.Table.kept, table, columnNames]

lemma takes_exporting {name countKey : String} {ingest : Value → Value → Value → Run Value}
    (hcus : key ≠ "custom")
    (h : ∀ config (first last : Date) w, Writes (IsTable first last key) (ingest config first last) w fun v _ ws => v.getD countKey (.int 0) = .ok (.int (recordCount ws))) :
    (exporting key name validate ingest countKey).Takes := by
  intro config first last w _
  refine writes_recovered hcus ?_
  refine .quiet_bind fun _ w1 _ => ?_
  refine (h config first last w1).bind_quiet ?_
  intro v w2 ws outcome w3 hcou hrun
  rw [hcou] at hrun
  cases hrun
  rfl

lemma get_of_renamed (h : renamed config keys = .ok settings) (hkey : key ∉ keys.map Prod.fst) :
    settings.get key = .ok .null := by
  obtain ⟨es, hes, h⟩ := of_bind_ok h
  obtain rfl := Except.ok.inj h
  cases hget : Entries.get? es key with
  | none => simp [Value.get, Value.getD, hget]
  | some v =>
    obtain ⟨k, hk, hent⟩ :=
      exists_of_mem_of_forall₂ (Billing.forall₂_of_mapM hes) (Entries.mem_of_get? hget)
    obtain ⟨_, -, hent⟩ := of_bind_ok hent
    have hname : k.1 = key := congrArg Prod.fst (Except.ok.inj hent)
    exact absurd (mem_map.mpr ⟨k, hk, hname⟩) hkey

lemma eq_of_renamed {d : Path} (h : renamed config keys = .ok settings)
    (hout : "output_dir" ∉ keys.map Prod.fst) (hkey : IsKey key) (hd : Source.IsDirectoryOf settings key d) :
    d = ⟨"", placeOf key⟩ := by
  obtain ⟨output, hget, hd⟩ := hd
  rw [get_of_renamed h hout] at hget
  obtain rfl := Except.ok.inj hget
  rw [directory_null hkey] at hd
  exact (Except.ok.inj hd).symm

lemma takes_aws : aws.Takes := by
  refine takes_exporting (by decide) fun config first last w => ?_
  refine .liftM_bind fun report hrep => ?_
  obtain ⟨settings, hset, hrep⟩ := of_bind_ok hrep
  have hkey : IsKey "aws" := by decide
  have hdir := eq_of_renamed hset (by decide) hkey
    (Source.CostReport.isDirectoryOf_of_configure hrep)
  exact Source.CostReport.writes_ingest hdir (isName_of_mem_placeOf hkey) fun p => ⟨_, rfl, .period p⟩

lemma takes_gcp : gcp.Takes := by
  refine takes_exporting (by decide) fun config first last w => ?_
  refine .liftM_bind fun source hsou => ?_
  obtain ⟨settings, hset, hsou⟩ := of_bind_ok hsou
  have hkey : IsKey "gcp" := by decide
  have hdir := eq_of_renamed hset (by decide) hkey
    (Source.BigQuery.isDirectoryOf_of_configure hsou)
  refine .liftM_bind fun start hsta => ?_
  obtain rfl := Except.ok.inj hsta
  refine .liftM_bind fun stop hstop => ?_
  obtain rfl := Except.ok.inj hstop
  exact Source.BigQuery.writes_ingest hdir (isName_of_mem_placeOf hkey) ⟨_, rfl, .span (.inl rfl)⟩

lemma takes_azure : azure.Takes := by
  refine takes_exporting (by decide) fun config first last w => ?_
  refine .liftM_bind fun source hsou => ?_
  obtain ⟨settings, hset, hsou⟩ := of_bind_ok hsou
  have hkey : IsKey "azure" := by decide
  have hdir := eq_of_renamed hset (by decide) hkey
    (Source.BlobStorage.isDirectoryOf_of_configure hsou)
  refine .liftM_bind fun start hsta => ?_
  obtain rfl := Except.ok.inj hsta
  refine .liftM_bind fun stop hstop => ?_
  obtain rfl := Except.ok.inj hstop
  exact Source.BlobStorage.writes_ingest hdir (isName_of_mem_placeOf hkey) _
    ⟨_, rfl, .span (.inr rfl)⟩

namespace Import

lemma isName_of_exec_namesWith {p : Path} {ending : String} {names : List String} {w w' : World}
    (hw : Files.Tidy w.files) (h : exec (namesWith p ending) w = (.ok names, w')) :
    ∀ n ∈ names, (Path.IsName n ∧ n ≠ "..") ∧ Text.endsWith n ending = true := by
  unfold namesWith at h
  obtain ⟨content, w1, hlook, h⟩ := exec_bind_eq_ok.mp h
  obtain ⟨-, rfl⟩ := Prod.mk.inj hlook
  split at h
  · rw [exec_bind_ok (exec_get w), exec_pure] at h
    obtain rfl := Except.ok.inj (Prod.mk.inj h).1
    intro n hn
    cases hloc : w.files.locate p with
    | error o => simp [hloc, Except.toOption] at hn
    | ok place =>
      have hmem : n ∈ w.files.withEnding place ending := by simpa [hloc, Except.toOption] using hn
      obtain ⟨hnam, hend⟩ := mem_filter.mp hmem
      exact ⟨hw.isName_of_mem_names hnam, hend⟩
  · cases h
    simp

def Ready (w : World) : Prop := w.files.isDirectory (placeOf "custom") = true ∧ Files.Tidy w.files

def IsImported (n : String) : Prop := (Path.IsName n ∧ n ≠ "..") ∧ Text.endsWith n ".parquet" = true

variable {first last : Date} {w : World} {n : String}

lemma isName_of_isImported (hn : IsImported n) : ∀ m ∈ placeOf "custom" ++ [n], Path.IsName m ∧ m ≠ ".." := by
  intro m hm
  rcases mem_append.mp hm with hm | hm
  · exact isName_of_mem_placeOf (by decide) m hm
  · rw [mem_singleton.mp hm]
    exact hn.1

lemma writes_copyTable (hn : IsImported n) (source : Path) (hw : Ready w) :
    Writes (IsTable first last "custom") (copyTable source (Path.join ⟨"", placeOf "custom"⟩ n)) w
      fun _ w' ws => Ready w' ∧ ws.length = 1 := by
  rw [Path.join_of_isName _ hn.1.1]
  unfold copyTable
  refine .quiet_bind fun w1 w2 hget => ?_
  cases hget
  have hthr : ∀ e : Fault, Writes (IsTable first last "custom") (throw e : Run Unit) w
      fun _ w' ws => Ready w' ∧ ws.length = 1 := fun e =>
    (Quiet.writes (leaves_throw e) _ w).mono fun _ _ _ h => by cases h.1
  dsimp only
  split
  · exact .quiet_bind fun _ _ h => by cases h
  split
  · exact hthr _
  · next content hne _ =>
      obtain ⟨hwri, hdir⟩ := written_child (isName_of_isImported hn) hw.1 hne
      unfold Writes Ready
      rw [exec_set]
      dsimp only
      refine ⟨_, fun e he => ?_, hwri, fun _ _ => ⟨⟨hdir, hwri.tidy hw.2⟩, rfl⟩⟩
      rw [mem_singleton.mp he]
      exact ⟨n, rfl, .imported hn.2⟩
  · exact hthr _

lemma writes_convert (hn : IsImported n) (source : Path) (hw : Ready w) :
    Writes (IsTable first last "custom") (convert source (Path.join ⟨"", placeOf "custom"⟩ n)) w
      fun b w' ws => Ready w' ∧ ws.length = b.toNat := by
  rw [Path.join_of_isName _ hn.1.1]
  unfold convert
  refine .quiet_bind fun content w1 hlook => ?_
  obtain ⟨-, rfl⟩ := Prod.mk.inj hlook
  have hfal : Writes (IsTable first last "custom") (pure false : Run Bool) w
      fun b w' ws => Ready w' ∧ ws.length = b.toNat := writes_pure ⟨hw, rfl⟩
  split
  · next s =>
      split
      · exact hfal
      · have hall := isName_of_isImported hn
        have hpath : Path.ofText (Path.text ⟨"", placeOf "custom" ++ [n]⟩) = ⟨"", placeOf "custom" ++ [n]⟩ :=
          Path.ofText_text (by simp) fun m hm => (hall m hm).1
        refine (writes_writeTable (t := ⟨_, [], some s⟩) hpath hall ⟨n, rfl, .imported hn.2⟩ hw.1).bind ?_
        rintro _ w1 _ hwri ⟨hdir, rfl⟩
        exact writes_pure ⟨⟨hdir, hwri.tidy hw.2⟩, rfl⟩
  · exact hfal

lemma isImported_stem (hn : Path.IsName n) : IsImported ((Path.splitName n).1 ++ ".parquet") := by
  have hstem : '/' ∉ (Path.splitName n).1.toList := by
    unfold Path.splitName
    dsimp only
    split
    · exact hn.slash_not_mem
    · rw [String.toList_ofList]
      exact fun hmem => hn.slash_not_mem (mem_of_mem_take hmem)
  refine ⟨Path.isName_file hstem, ?_⟩
  simp [Text.endsWith]

end Import

lemma takes_custom : custom.Takes := by
  intro config first last w hw
  show Writes (IsTable first last "custom") (Import.ingest config first last .null) w _
  unfold Import.ingest
  refine .liftM_bind fun source _ => ?_
  rw [directory_null (by decide)]
  refine .liftM_bind fun target htar => ?_
  obtain rfl := Except.ok.inj htar
  refine (writes_makeDirectory (isName_of_mem_placeOf (by decide)) _ w).bind ?_
  rintro _ w1 _ hmade ⟨hdir, rfl⟩
  have hrea : Import.Ready w1 := ⟨hdir, hmade.tidy hw⟩
  refine .quiet_bind fun tables w2 htab => ?_
  have hrea2 : Import.Ready w2 := by
    rw [Import.Ready, Quiet.files_eq htab]
    exact hrea
  have hnam := Import.isName_of_exec_namesWith hrea.2 htab
  refine (writes_forIn (fun n hn w hw => Import.writes_copyTable (hnam n hn) _ hw) hrea2).bind ?_
  rintro _ w3 copied - ⟨hrea3, hcop⟩
  refine .quiet_bind fun files w4 hfil => ?_
  have hrea4 : Import.Ready w4 := by
    rw [Import.Ready, Quiet.files_eq hfil]
    exact hrea3
  have hsep := Import.isName_of_exec_namesWith hrea3.2 hfil
  refine (writes_filterM (fun f hf w hw => ?_) hrea4).bind_quiet ?_
  · rw [mem_mergeSort, mem_map] at hf
    obtain ⟨name, hname, rfl⟩ := hf
    exact Import.writes_convert (Import.isImported_stem (hsep name hname).1.1) _ hw
  · rintro converted w5 ws outcome w6 ⟨-, hcon⟩ hrun hsuc
    cases hrun
    simp [custom, reported, hcop, hcon]

lemma takes_kubernetes : kubernetes.Takes := fun _ _ _ _ _ => writes_pure fun _ => rfl

lemma takes_announced (key : String) : (announced key).Takes := fun _ _ _ _ _ => writes_pure nofun

lemma takes_of_mem (hk : k ∈ all) : k.Takes :=
  forall_mem_all takes_aws takes_azure takes_gcp takes_kubernetes takes_standard (takes_announced _)
    (takes_announced _) takes_custom k hk

lemma key_of_find {provider : String} (h : find (.text provider) = .ok k) : k ∈ all ∧ k.key = provider := by
  unfold find at h
  split at h
  · next c hc =>
      cases h
      have hfou := find?_some hc
      have hkey : Value.same (.text k.key) (.text provider) = true := hfou
      exact ⟨mem_of_find?_eq_some hc, by simpa [Value.same] using hkey⟩
  · obtain ⟨_, -, h⟩ := of_bind_ok h
    cases h

end CloudSpend.Connector
