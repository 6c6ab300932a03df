import CloudSpend.Proofs.Connector.Fetch
import CloudSpend.Proofs.Source.StoredOnce

/-! # Costs are taken over as a whole or not at all -/

namespace CloudSpend.Connector

open Run Storage

def Line.entry (l : Line) : String → Value
  | "provider" => .text l.provider
  | "service" => l.service
  | "usage_date" => l.usageDate
  | "amount" => l.amount
  | "currency" => l.currency
  | "region" => l.region
  | "account_id" => l.accountId
  | "usage_type" => l.usageType
  | "usage_quantity" => l.usageQuantity
  | "tags" => "\x7b\x7d"
  | _ => .null

structure Tabulates (t : Billing.Table) (ls : List Line) : Prop where
  names : t.columns.map Prod.fst = ["provider", "service", "usage_date", "amount", "currency", "region",
    "account_id", "resource_id", "usage_type", "usage_quantity", "tags"]
  length : ∀ column ∈ t.columns, column.2.length = ls.length
  cells : ∀ column ∈ t.columns, ∀ (i : Nat) (h : i < ls.length), column.2[i]? = some (ls[i].entry column.1)

lemma storedCell_toRow (l : Line) :
    ∀ name ∈ columnNames, storedCell name ((Entries.get? l.toRow name).getD .null) = l.entry name := by
  simp only [columnNames, List.forall_mem_cons]
  exact ⟨rfl, rfl, rfl, rfl, rfl, rfl, rfl, rfl, rfl, rfl, rfl, fun _ h => absurd h List.not_mem_nil⟩

lemma tabulates_table (path : String) (ls : List Line) : Tabulates (table path ls) ls := by
  have hcol : ∀ column ∈ (table path ls).columns, column.2 = ls.map fun l => l.entry column.1 := by
    intro column hmem
    obtain ⟨name, hname, rfl⟩ := List.mem_map.mp hmem
    exact List.map_congr_left fun l _ => storedCell_toRow l name hname
  refine ⟨rfl, fun column hmem => ?_, fun column hmem i hi => ?_⟩
  all_goals grind

structure IsUsual (k : Connector) : Prop where
  ingest : k.ingest = pipeline k.key k.fetch k.lines
  fetch : ∀ config start stop, Quiet (k.fetch config start stop)

def Normalises (k : Connector) (config start stop : Value) (w w₁ : World) (ls : List Line) : Prop :=
  ∃ raw, exec (k.fetch config start stop) w = (.ok raw, w₁) ∧ k.lines config w₁.now.date raw = .ok ls

def CanKeep (k : Connector) (output : Value) (w : World) (ls : List Line) : Prop :=
  ∃ d w₂, Source.directory output k.key = .ok d ∧ exec (makeDirectory d) w = (.ok (), w₂) ∧
    w₂.outside.writes w₂.tables (table (d.join (k.key ++ "_costs.parquet")).text ls) = .ok ()

inductive Ended (k : Connector) (config start stop output : Value) (w : World) : Ingestion → World → Prop where
  | failed {w' : World} (message : String) (htables : w'.tables = w.tables)
      (hwhy : ∀ {w₁ ls}, k.Normalises config start stop w w₁ ls → ls ≠ [] ∧ ¬k.CanKeep output w₁ ls) :
      Ended k config start stop output w { succeeded := false, message } w'
  | nothing {w₁ : World} (message : String) (htables : w₁.tables = w.tables)
      (hlines : k.Normalises config start stop w w₁ []) :
      Ended k config start stop output w { succeeded := true, message } w₁
  | stored {w₁ w' : World} {ls : List Line} (message path : String)
      (hlines : k.Normalises config start stop w w₁ ls) (hls : ls ≠ []) (hkeep : k.CanKeep output w₁ ls)
      (htables : w'.tables = w.tables ++ [table path ls]) :
      Ended k config start stop output w { succeeded := true, rows := ls.length, message, path := some path } w'

variable {k : Connector} {config start stop output : Value} {w : World} {ls : List Line} {w₁ : World}

lemma Normalises.unique {w2 : World} {ls' : List Line} (h : k.Normalises config start stop w w₁ ls)
    (h' : k.Normalises config start stop w w2 ls') : w2 = w₁ ∧ ls' = ls := by
  obtain ⟨raw, hfet, hlin⟩ := h
  obtain ⟨raw', hfet', hlin'⟩ := h'
  grind

lemma IsUsual.ended_of_normalises (hk : k.IsUsual)
    (hlin : k.Normalises config start stop w w₁ ls) (hls : ls ≠ []) (htab : w₁.tables = w.tables) :
    ∃ outcome w', exec (k.ingest config start stop output) w = (.ok outcome, w') ∧
      Ended k config start stop output w outcome w' := by
  obtain ⟨raw, hfet, hraw⟩ := hlin
  have hlin : k.Normalises config start stop w w₁ ls := ⟨raw, hfet, hraw⟩
  have hwhy : ¬k.CanKeep output w₁ ls → ∀ {w2 ls'}, k.Normalises config start stop w w2 ls' →
      ls' ≠ [] ∧ ¬k.CanKeep output w2 ls' := by
    intro hnot w2 ls' h'
    obtain ⟨rfl, rfl⟩ := hlin.unique h'
    exact ⟨hls, hnot⟩
  rw [hk.ingest, pipeline, exec_recover, exec_bind_ok hfet, exec_bind_ok (exec_today _), hraw,
    exec_bind_ok (exec_liftM _ _), if_neg (by simpa using hls)]
  cases hd : Source.directory output k.key with
  | error e =>
    refine ⟨_, _, rfl, .failed _ htab (hwhy ?_)⟩
    rintro ⟨d, _, hd', -⟩
    cases hd.symm.trans hd'
  | ok d =>
    rw [exec_bind_ok (exec_liftM _ _)]
    have htables : ∀ {r w₂}, exec (makeDirectory d) w₁ = (r, w₂) → w₂.tables = w.tables := by
      intro r w₂ hmade
      rw [exec_makeDirectory] at hmade
      exact (congrArg (·.2.tables) hmade).symm.trans htab
    rcases hmade : exec (makeDirectory d) w₁ with ⟨e | ⟨⟩, w₂⟩
    · rw [exec_bind_of_error hmade]
      refine ⟨_, _, rfl, .failed _ (htables hmade) (hwhy ?_)⟩
      rintro ⟨d', _, hd', hmade', -⟩
      obtain rfl := Except.ok.inj (hd.symm.trans hd')
      cases hmade.symm.trans hmade'
    rw [exec_bind_ok hmade]
    cases hwrites : w₂.outside.writes w₂.tables (table (d.join (k.key ++ "_costs.parquet")).text ls) with
    | error e =>
      rw [exec_bind_of_error (exec_writeTable_of_error hwrites)]
      refine ⟨_, _, rfl, .failed _ (htables hmade) (hwhy ?_)⟩
      rintro ⟨d', _, hd', hmade', hwrites'⟩
      obtain rfl := Except.ok.inj (hd.symm.trans hd')
      cases hmade.symm.trans hmade'
      cases hwrites.symm.trans hwrites'
    | ok =>
      rw [exec_bind_ok (exec_writeTable_of_ok hwrites)]
      exact ⟨_, _, rfl, .stored _ _ hlin hls ⟨d, w₂, hd, hmade, hwrites⟩ (congrArg (· ++ [_]) (htables hmade))⟩

lemma IsUsual.ended (hk : k.IsUsual) (config start stop output : Value) (w : World) :
    ∃ outcome w', exec (k.ingest config start stop output) w = (.ok outcome, w') ∧
      Ended k config start stop output w outcome w' := by
  rcases hfet : exec (k.fetch config start stop) w with ⟨e | raw, w₁⟩
  all_goals have htab := (hk.fetch config start stop).tables_eq hfet
  · refine ⟨{ succeeded := false, message := e.message }, w₁, ?_, .failed _ htab ?_⟩
    · rw [hk.ingest, pipeline, exec_recover, exec_bind, hfet]
      rfl
    · rintro w2 ls ⟨raw, hfet', -⟩
      cases hfet.symm.trans hfet'
  · cases hraw : k.lines config w₁.now.date raw with
    | error e =>
      refine ⟨{ succeeded := false, message := e.message }, w₁, ?_, .failed _ htab ?_⟩
      · rw [hk.ingest, pipeline, exec_recover, exec_bind_ok hfet, exec_bind_ok (exec_today _), hraw]
        rfl
      · rintro w2 ls ⟨raw', hfet', hraw'⟩
        grind
    | ok ls =>
      by_cases hls : ls = []
      · subst hls
        rw [hk.ingest, pipeline, exec_recover, exec_bind_ok hfet, exec_bind_ok (exec_today _), hraw]
        exact ⟨_, _, rfl, .nothing _ htab ⟨raw, hfet, hraw⟩⟩
      · exact hk.ended_of_normalises ⟨raw, hfet, hraw⟩ hls htab

def unusualKeys : List String := ["aws", "gcp", "azure", "kubernetes", "custom", "cloudflare", "vercel"]

lemma isUsual_of_mem (hk : k ∈ all) (hkey : k.key ∉ unusualKeys) : k.IsUsual := by
  have hunu : ∀ k : Connector, k.key ∈ unusualKeys → k.key ∉ unusualKeys → k.IsUsual :=
    fun _ hin hnot => absurd hin hnot
  have hall : ∀ k ∈ all, k.key ∉ unusualKeys → k.IsUsual :=
    forall_mem_all (hunu aws (by decide)) (hunu azure (by decide)) (hunu gcp (by decide))
      (hunu kubernetes (by decide)) (fun _ hfet _ => ⟨rfl, hfet⟩) (hunu cloudflare (by decide))
      (hunu vercel (by decide)) (hunu custom (by decide))
  exact hall k hk hkey

/-- Taking over costs in the usual way is never a fault. It succeeds exactly if the costs can be fetched and normalised
and, where there are some, their table can be written. -/
theorem ingestion_all_or_nothing (hk : k ∈ all) (hkey : k.key ∉ unusualKeys)
    (config start stop output : Value) (w : World) :
    ∃ outcome w', exec (k.ingest config start stop output) w = (.ok outcome, w') ∧
      (outcome.succeeded = true ↔
        ∃ w₁ ls, k.Normalises config start stop w w₁ ls ∧ (ls = [] ∨ k.CanKeep output w₁ ls)) ∧
      (outcome.succeeded = false → outcome.rows = .int 0 ∧ w'.tables = w.tables) ∧
      (outcome.succeeded = true → ∃ w₁ ls, k.Normalises config start stop w w₁ ls ∧
        outcome.rows = .int ls.length ∧
        (ls = [] → w'.tables = w.tables) ∧
        (ls ≠ [] → ∃ t, w'.tables = w.tables ++ [t] ∧ outcome.path = some t.path ∧ Tabulates t ls)) := by
  obtain ⟨outcome, w', hrun, hend⟩ := (isUsual_of_mem hk hkey).ended config start stop output w
  refine ⟨outcome, w', hrun, ?_⟩
  cases hend with
  | failed message htab hwhy =>
    grind
  | nothing message htab hlin =>
    grind
  | @stored w₁ w' ls message path hlin hls hdir htab =>
    refine ⟨iff_of_true rfl ⟨_, _, hlin, .inr hdir⟩, fun h => absurd h.symm Bool.false_ne_true,
      fun _ => ?_⟩
    exact ⟨_, _, hlin, rfl, fun h => absurd h hls,
      fun _ => ⟨table path ls, htab, rfl, tabulates_table path ls⟩⟩

def chargedTwice : World :=
  let charges : Value := .list [.object [("product_name", "infra_hosts"), ("cost", .int 5)],
    .object [("product_name", "logs"), ("cost", .int 7)]]
  let reply : Value := .object [("data", .list [.object
    [("attributes", .object [("date", "2026-01-01"), ("charges", charges)])]])]
  { Source.worldWith [] with outside := { (Source.worldWith []).outside with
    web := fun _ _ => .ok { status := 200, body := .json reply } } }

def chargedInVain : World :=
  { chargedTwice with outside := { chargedTwice.outside with writes := fun _ _ => .error (.runtime "disk full") } }

/-- Two charges become the two entries of each column of one table, or nothing is written of them. -/
theorem ingestion_all_or_nothing_two_charges :
    datadog ∈ all ∧ datadog.key ∉ unusualKeys ∧
      (∃ outcome w' ls t, exec (datadog.ingest (.object [("api_key", "k"), ("app_key", "a")])
          (.date ⟨2026, 1, 1⟩) (.date ⟨2026, 2, 1⟩) .null) chargedTwice = (.ok outcome, w') ∧
        outcome.succeeded = true ∧ ls.length = 2 ∧ w'.tables = [t] ∧ Tabulates t ls) ∧
      ∃ outcome w', exec (datadog.ingest (.object [("api_key", "k"), ("app_key", "a")])
          (.date ⟨2026, 1, 1⟩) (.date ⟨2026, 2, 1⟩) .null) chargedInVain = (.ok outcome, w') ∧
        outcome.succeeded = false ∧ outcome.rows = .int 0 ∧ w'.tables = [] := by
  have hmem : datadog ∈ all := by simp [all]
  have hkey : datadog.key ∉ unusualKeys := by decide
  have htaken := ingestion_all_or_nothing hmem hkey (.object [("api_key", "k"), ("app_key", "a")]) (.date ⟨2026, 1, 1⟩)
    (.date ⟨2026, 2, 1⟩) .null
  obtain ⟨outcome, w', hrun, -, -, hsto⟩ := htaken chargedTwice
  obtain ⟨lost, w₂, hrun₂, -, hlost, -⟩ := htaken chargedInVain
  have htold : (exec (datadog.ingest (.object [("api_key", "k"), ("app_key", "a")]) (.date ⟨2026, 1, 1⟩)
      (.date ⟨2026, 2, 1⟩) .null) chargedTwice).1.toOption.map (fun o => (o.succeeded, o.rows.int?)) =
        some (true, some 2) := by decide +kernel
  have htold₂ : (exec (datadog.ingest (.object [("api_key", "k"), ("app_key", "a")]) (.date ⟨2026, 1, 1⟩)
      (.date ⟨2026, 2, 1⟩) .null) chargedInVain).1.toOption.map (·.succeeded) = some false := by decide +kernel
  rw [hrun] at htold
  rw [hrun₂] at htold₂
  obtain ⟨hsuc, hrows⟩ := Prod.mk.inj (Option.some.inj htold)
  obtain ⟨w₁, ls, -, hlen, -, htab⟩ := hsto hsuc
  have hls : ls.length = 2 := by
    rw [hlen] at hrows
    exact_mod_cast Option.some.inj hrows
  obtain ⟨t, htbl, -, htbu⟩ := htab (by rintro rfl; cases hls)
  obtain ⟨hnone, hsame⟩ := hlost (Option.some.inj htold₂)
  exact ⟨hmem, hkey, ⟨outcome, w', ls, t, hrun, hsuc, hls, htbl, htbu⟩,
    lost, w₂, hrun₂, Option.some.inj htold₂, hnone, hsame⟩

end CloudSpend.Connector
