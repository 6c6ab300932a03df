import CloudSpend.Proofs.Outside.Writes
import CloudSpend.Proofs.Source.Feed
import CloudSpend.Source.CostReport

/-! # What the sources of billing exports write -/

namespace CloudSpend

open Run Storage Billing.Table List

variable {α β : Type} {x : Result α} {f : α → Result β} {b : β} {s : String}

lemma exists_of_mem_of_forall₂ {R : α → β → Prop} {xs : List α} {ys : List β} (h : List.Forall₂ R xs ys)
    {y : β} (hy : y ∈ ys) : ∃ x ∈ xs, R x y := by
  induction h with
  | nil => cases hy
  | cons hxy _ ih =>
    grind

namespace Storage

def Content.recordCount : Content → Nat
  | .table ((_, cells) :: _) => cells.length
  | _ => 0

def recordCount : List Writing → Nat
  | [] => 0
  | e :: ws => e.content.recordCount + recordCount ws

lemma recordCount_append (vs ws : List Writing) : recordCount (vs ++ ws) = recordCount vs + recordCount ws := by
  induction vs with
  | nil => simp [recordCount]
  | cons v vs ih => rw [cons_append, recordCount, recordCount, ih, Nat.add_assoc]

lemma recordCount_flatten {ns : List Nat} {wss : List (List Writing)}
    (h : List.Forall₂ (fun n ws => recordCount ws = n) ns wss) (start : Nat) :
    start + recordCount wss.flatten = ns.foldl (· + ·) start := by
  induction h generalizing start with
  | nil => rfl
  | cons hn _ ih => rw [flatten_cons, recordCount_append, hn, ← Nat.add_assoc, ih, foldl_cons]

end Storage

lemma Storage.Path.isName_file (h : '/' ∉ s.toList) :
    Path.IsName (s ++ ".parquet") ∧ s ++ ".parquet" ≠ ".." := by
  have hne : ∀ m : String, m.toList.length < 8 → s ++ ".parquet" ≠ m := by
    rintro m hm rfl
    have hend : ".parquet".toList.length = 8 := rfl
    rw [String.toList_append, length_append, hend] at hm
    omega
  have hsla : '/' ∉ (s ++ ".parquet").toList := by
    rw [String.toList_append, mem_append, not_or]
    exact ⟨h, by decide⟩
  exact ⟨⟨hne "" (by decide), hne "." (by decide), hsla⟩, hne ".." (by decide)⟩

lemma Text.not_mem_of_mem_split {c : Char} {piece : String} (h : piece ∈ Text.split s (String.singleton c)) :
    c ∉ piece.toList := by
  have hpec : ∀ (cs current : List Char), c ∉ current →
      ∀ piece ∈ Text.splitFrom [c] 0 current cs, c ∉ piece := by
    intro cs
    induction cs with
    | nil => simp [Text.splitFrom]
    | cons d cs ih =>
      intro current hcur piece hpie
      rw [Text.splitFrom] at hpie
      by_cases hd : c = d
      · rw [if_pos (by simp [hd]), mem_cons] at hpie
        rcases hpie with rfl | hpie
        · simpa using hcur
        · exact ih [] not_mem_nil piece hpie
      all_goals grind
  rw [Text.split, String.toList_singleton, mem_map] at h
  obtain ⟨cs, hcs, rfl⟩ := h
  rw [String.toList_ofList]
  exact hpec _ [] not_mem_nil cs hcs

lemma Date.slash_not_mem_digits (d : Date) : '/' ∉ d.digits := fun hmem =>
  absurd (Date.isDigit_of_mem_digits hmem) (by decide)

variable {In : Path → Prop} {w : World} {place : List String}

lemma Run.writes_writeRows {path : String} {n : String} {rows : List Value} (hrows : rows ≠ [])
    (hpath : Path.ofText path = ⟨"", place ++ [n]⟩) (hpla : ∀ m ∈ place ++ [n], Path.IsName m ∧ m ≠ "..")
    (hin : In ⟨"", place ++ [n]⟩) :
    Writes In (writeRows (.text path) rows) w fun _ _ ws => recordCount ws = rows.length := by
  unfold writeRows
  refine .liftM_bind fun ts hsto => ?_
  rw [store_eq _ hrows] at hsto
  obtain ⟨rs, hcel, rfl⟩ := Result.map_eq_ok.mp hsto
  have hlen : rs.length = rows.length := (Billing.forall₂_of_mapM hcel).length_eq.symm
  simp only [forIn_cons, forIn_nil, bind_assoc, pure_bind]
  refine .liftM_bind fun p hp => ?_
  obtain rfl : p = Path.ofText path := (Except.ok.inj hp).symm
  have hpar : (Path.ofText path).parent = ⟨"", place⟩ := by simp [hpath, Path.parent]
  rw [hpar]
  have hdre : ∀ m ∈ place, Path.IsName m ∧ m ≠ ".." := fun m hm => hpla m (mem_append_left _ hm)
  refine (writes_makeDirectory hdre In w).bind ?_
  rintro _ w1 _ - ⟨hdir, rfl⟩
  refine (writes_writeTable hpath hpla hin hdir).bind_quiet ?_
  rintro _ w2 _ _ w3 ⟨-, rfl⟩ -
  rw [nil_append, ← hlen]
  simp [recordCount, Content.recordCount, kept, columnsOf, schema]

namespace Source

def IsDirectoryOf (settings : Value) (key : String) (d : Path) : Prop :=
  ∃ output, settings.get "output_dir" = .ok output ∧ directory output key = .ok d

variable {settings : Value} {b : BlobStorage} {first last : Date}

lemma CostReport.isDirectoryOf_of_configure {c : CostReport} (h : configure settings = .ok c) :
    IsDirectoryOf settings "aws" c.directory := by
  simp only [configure, Result.bind_eq_ok] at h
  obtain ⟨_, -, _, -, _, -, _, -, _, -, output, hout, d, hd, h⟩ := h
  cases h
  exact ⟨output, hout, hd⟩

lemma BigQuery.isDirectoryOf_of_configure {b : BigQuery} (h : configure settings = .ok b) :
    IsDirectoryOf settings "gcp" b.directory := by
  simp only [configure, Result.bind_eq_ok] at h
  obtain ⟨_, -, _, -, output, hout, d, hd, h⟩ := h
  cases h
  exact ⟨output, hout, hd⟩

lemma BlobStorage.isDirectoryOf_of_configure (h : configure settings = .ok b) :
    IsDirectoryOf settings "azure" b.directory := by
  simp only [configure, Result.bind_eq_ok] at h
  obtain ⟨_, -, _, -, _, -, _, -, _, -, output, hout, d, hd, h⟩ := h
  cases h
  exact ⟨output, hout, hd⟩

lemma writes_keep {cloud : Billing.Cloud} {name : Result String} {rows : List Value}
    (hpla : ∀ m ∈ place, Path.IsName m ∧ m ≠ "..")
    (hname : ∀ n, name = .ok n → '/' ∉ n.toList ∧ In ⟨"", place ++ [n ++ ".parquet"]⟩) :
    Writes In (keep cloud ⟨"", place⟩ name rows) w fun r _ ws => recordCount ws = r.1 := by
  have hnone : Writes In (pure (0, none) : Run (Nat × Option String)) w fun r _ ws => recordCount ws = r.1 :=
    writes_pure rfl
  unfold keep
  by_cases hrows : rows.isEmpty
  · rw [if_pos hrows]
    exact hnone
  rw [if_neg hrows]
  refine .liftM_bind fun charges _ => ?_
  by_cases hemp : charges.isEmpty
  · rw [if_pos hemp]
    exact hnone
  rw [if_neg hemp]
  refine (writes_makeDirectory hpla In w).bind ?_
  rintro _ w1 _ - ⟨-, rfl⟩
  refine .liftM_bind fun n hn => ?_
  obtain ⟨hsla, hin⟩ := hname n hn
  have hfile := Path.isName_file hsla
  have hall : ∀ m ∈ place ++ [n ++ ".parquet"], Path.IsName m ∧ m ≠ ".." := by
    grind
  have hval : (charges.map fun c => Value.object c.toRow) ≠ [] := by
    simpa [List.isEmpty_iff] using hemp
  rw [Path.join_of_isName _ hfile.1]
  have hpath := Path.ofText_text (by simp) fun m hm => (hall m hm).1
  refine (writes_writeRows hval hpath hall hin).bind_quiet ?_
  rintro _ w3 ws r w4 hcou hrun
  cases hrun
  rw [nil_append, hcou, length_map]

namespace CostReport

instance quiet_connect (c : CostReport) : Quiet c.connect := by
  unfold connect
  infer_instance

instance quiet_periods (c : CostReport) : Quiet c.periods := leaves_bind

instance quiet_files (c : CostReport) (period : Value) : Quiet (c.files period) := leaves_bind

instance quiet_rows (c : CostReport) (key : String) : Quiet (c.rows key) := leaves_bind

variable {p : String} {c : CostReport}

lemma slash_not_mem_of_period? {folder : String} (h : period? folder = some p) : '/' ∉ p.toList := by
  unfold period? at h
  dsimp only at h
  split at h
  · obtain rfl := Option.some.inj h
    rw [getLastD_eq_getLast?]
    cases hlast : (Text.split _ "/").getLast? with
    | none => simp
    | some piece => exact Text.not_mem_of_mem_split (mem_of_getLast? hlast)
  · cases h

lemma slash_not_mem_of_exec_periods {found : List String} {w' : World}
    (h : exec c.periods w = (.ok found, w')) : ∀ p ∈ found, '/' ∉ p.toList := by
  unfold periods at h
  obtain ⟨_, w1, -, h⟩ := exec_bind_eq_ok.mp h
  obtain ⟨listing, w2, -, h⟩ := exec_bind_eq_ok.mp h
  rw [exec_liftM, periodsIn] at h
  obtain ⟨prefixes, -, h⟩ := Result.of_bind_ok (Prod.mk.inj h).1
  obtain ⟨folders, -, h⟩ := Result.of_bind_ok h
  obtain ⟨names, hnam, h⟩ := Result.of_bind_ok h
  obtain rfl := Except.ok.inj h
  intro p hp
  rw [mem_mergeSort, mem_filterMap] at hp
  obtain ⟨_, hname, rfl⟩ := hp
  obtain ⟨entry, -, hent⟩ := exists_of_mem_of_forall₂ (Billing.forall₂_of_mapM hnam) hname
  obtain ⟨field, -, hent⟩ := Result.of_bind_ok hent
  obtain ⟨folder, -, hent⟩ := Result.of_bind_ok hent
  exact slash_not_mem_of_period? (Except.ok.inj hent)

lemma writes_ingestPeriod (hdir : c.directory = ⟨"", place⟩)
    (hpla : ∀ m ∈ place, Path.IsName m ∧ m ≠ "..") (hin : ∀ p, In ⟨"", place ++ ["cur_" ++ p ++ ".parquet"]⟩)
    (hp : '/' ∉ p.toList) : Writes In (c.ingestPeriod (.text p)) w fun n _ ws => recordCount ws = n := by
  unfold ingestPeriod
  refine .quiet_bind fun files w1 _ => .quiet_bind fun rows w2 _ => ?_
  rw [hdir]
  refine (writes_keep hpla fun n hn => ?_).bind_quiet ?_
  · obtain rfl := Except.ok.inj hn
    refine ⟨?_, hin p⟩
    rw [String.toList_append, mem_append, not_or]
    exact ⟨by decide, hp⟩
  · rintro r w3 ws _ w4 hcou hrun
    cases hrun
    exact hcou

lemma writes_ingest (hdir : c.directory = ⟨"", place⟩) (hpla : ∀ m ∈ place, Path.IsName m ∧ m ≠ "..")
    (hin : ∀ p, In ⟨"", place ++ ["cur_" ++ p ++ ".parquet"]⟩) :
    Writes In (c.ingest .null .null) w fun v _ ws =>
      v.getD "total_rows" (.int 0) = .ok (.int (recordCount ws)) := by
  unfold ingest
  refine .quiet_bind fun found w1 hfou => ?_
  have hsla := slash_not_mem_of_exec_periods hfou
  rw [if_neg (by simp [Value.truthy]), pure_bind]
  have hall := writes_mapM (I := fun _ => True) (R := fun n ws => recordCount ws = n) (w := w1)
    (fun p hp w _ => (writes_ingestPeriod (w := w) hdir hpla hin (hsla p hp)).mono
      fun _ _ _ hcou => ⟨trivial, hcou⟩) trivial
  refine hall.bind_quiet ?_
  rintro counts w2 ws v w3 ⟨-, wss, hcun, rfl⟩ hrun
  cases hrun
  rw [← Nat.zero_add (recordCount _), recordCount_flatten hcun]
  rfl

end CostReport

lemma slash_not_mem_spanName {label name : String} (hlab : '/' ∉ label.toList)
    (h : (do return label ++ (← spanName (.text first.text) (.text last.text)) : Result String) = .ok name) :
    name = label ++ String.ofList first.digits ++ "_" ++ String.ofList last.digits ∧ '/' ∉ name.toList := by
  rw [spanName_text] at h
  obtain rfl := Except.ok.inj h
  refine ⟨by simp only [String.append_assoc], ?_⟩
  have hfir := first.slash_not_mem_digits
  have hlast := last.slash_not_mem_digits
  simp [hlab, hfir, hlast]

lemma BigQuery.writes_ingest {b : BigQuery} (hdir : b.directory = ⟨"", place⟩)
    (hpla : ∀ m ∈ place, Path.IsName m ∧ m ≠ "..")
    (hin : In ⟨"", place ++ ["gcp_" ++ String.ofList first.digits ++ "_" ++ String.ofList last.digits ++ ".parquet"]⟩) :
    Writes In (b.ingest (.text first.text) (.text last.text)) w fun v _ ws =>
      v.getD "rows_ingested" (.int 0) = .ok (.int (recordCount ws)) := by
  have hque : ∀ sql params, Quiet (BigQuery.query sql params) := fun _ _ => leaves_bind
  unfold BigQuery.ingest
  refine .quiet_bind fun _ w1 _ => .quiet_bind fun rows w2 _ => .liftM_bind fun tables _ => ?_
  rw [hdir]
  refine (writes_keep hpla fun name hname => ?_).bind_quiet ?_
  · obtain ⟨rfl, hsla⟩ := slash_not_mem_spanName (by decide) hname
    exact ⟨hsla, hin⟩
  · rintro r w3 ws v w4 hcou hrun
    cases hrun
    rw [hcou]
    rfl

lemma BlobStorage.writes_ingest (hdir : b.directory = ⟨"", place⟩)
    (hpla : ∀ m ∈ place, Path.IsName m ∧ m ≠ "..") (names : Value)
    (hin : In ⟨"", place ++ ["azure_" ++ String.ofList first.digits ++ "_" ++ String.ofList last.digits ++ ".parquet"]⟩) :
    Writes In (b.ingest (.text first.text) (.text last.text) names) w fun v _ ws =>
      v.getD "rows_ingested" (.int 0) = .ok (.int (recordCount ws)) := by
  unfold BlobStorage.ingest
  refine .quiet_bind fun files w1 _ => .quiet_bind fun chosen w2 _ => ?_
  rw [hdir]
  refine (writes_keep hpla fun name hname => ?_).bind_quiet ?_
  · obtain ⟨rfl, hsla⟩ := slash_not_mem_spanName (by decide) hname
    exact ⟨hsla, hin⟩
  · rintro r w3 ws v w4 hcou hrun
    cases hrun
    rw [hcou]
    rfl

end Source

end CloudSpend
