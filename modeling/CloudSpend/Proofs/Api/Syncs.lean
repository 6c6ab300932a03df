import CloudSpend.Proofs.Api.Accounts

/-! # Synchronisations one after the other -/

namespace CloudSpend

open Handler List
open Run Storage

section Leaves

variable {γ : Type} {view : World → γ}

lemma Analytics.leaves_refresh (h : ∀ (w : World) events, view { w with engine := events } = view w) :
    Leaves view refresh := by
  have hexe : ∀ sql params, Leaves view (execute sql params) := fun _ _ => leaves_get_set fun _ => h _ _
  have htab : ∀ provider, Leaves view (hasTables provider) := fun _ => leaves_bind
  have hvie : Leaves view makeViews := leaves_bind
  exact leaves_bind

lemma Webhook.leaves_dispatch {registry : Registry} (h : ∀ (w : World) (r : Web.Request), (∃ hook ∈ registry,
      r.url = .text hook.url) → view { w with web := w.web ++ [r] } = view w)
    (receivers : List Web.Request → Web.Request → Result Web.Reply) (event : String) (data : Value) :
    Leaves view (dispatch receivers registry event data) := by
  refine Leaves.bind (Leaves.closed.forIn fun hook hhook _ => ?_) inferInstance
  have hsend : ∀ body, Leaves view (deliver receivers hook body) := by
    intro body
    have hto : ∀ content headers, Leaves view (sendTo receivers { method := "POST", url := hook.url, content, headers }) :=
      fun _ _ => leaves_sendTo fun w => h w _ ⟨hook, mem_of_mem_filter hhook, rfl⟩
    unfold deliver
    infer_instance
  exact Leaves.bind (leaves_get.bind inferInstance) inferInstance

end Leaves

instance Handler.leaves_files {α : Type} {x : Run α} [hx : Quiet x] : Leaves (·.world.files) (liftM x : Handler α) :=
  ⟨fun s => congrArg Prod.fst (hx.out s.world)⟩

namespace Api

open Connector (Ingestion IsTable placeOf reported)
open Handler (exec)
open Store (cell textCell)

lemma writes_ingest (row : Row) (first last : Date) {w : World} (hw : Files.Tidy w.files) :
    Writes (IsTable first last (textCell row "provider")) (ingest row first last) w fun outcome _ ws =>
      outcome.succeeded = true → outcome.rows = .int (reported (textCell row "provider") ws) := by
  refine .liftM_bind fun k hk => ?_
  obtain ⟨hmem, hkey⟩ := Connector.key_of_find hk
  rw [← hkey]
  exact Connector.takes_of_mem hmem (settingsOf row) first last w hw

variable {row : Row} {s s' : Service}

lemma leaves_files_concludeSync (c : Call) (row : Row) (r : Result Ingestion) :
    Leaves (·.world.files) (concludeSync c row r) := by
  have hnote : ∀ changes, Leaves (·.world.files) (reviseCloudAccount row changes) := fun changes =>
    (leaves_world_update _ _ changes).of_comp World.files
  have href : Quiet Analytics.refresh := Analytics.leaves_refresh fun _ _ => rfl
  have hdis : ∀ receivers registry event data, Quiet (Webhook.dispatch receivers registry event data) := fun _ _ =>
    Webhook.leaves_dispatch (fun _ _ _ => rfl) _
  have htell : ∀ event data, Leaves (·.world.files) (tell event data) := fun _ _ => leaves_bind
  cases r <;> exact leaves_bind

lemma succeeded_of_exec_concludeSync {c : Call} {r : Result Ingestion} {rows : Value} {message : String}
    (h : exec (concludeSync c row r) s = (.ok (syncAnswer "success" rows message), s')) :
    ∃ outcome, r = .ok outcome ∧ outcome.succeeded = true ∧ outcome.rows = rows := by
  cases r with
  | error e =>
    obtain ⟨_, _, -, h⟩ := exec_bind_eq_ok.mp h
    obtain ⟨h, -⟩ := Prod.mk.inj h
    simp [syncAnswer] at h
  | ok outcome =>
    obtain ⟨_, _, -, h⟩ := exec_bind_eq_ok.mp h
    obtain ⟨_, _, -, h⟩ := exec_bind_eq_ok.mp h
    obtain ⟨_, _, -, h⟩ := exec_bind_eq_ok.mp h
    obtain ⟨_, _, -, h⟩ := exec_bind_eq_ok.mp h
    obtain ⟨h, -⟩ := Prod.mk.inj h
    cases hsuc : outcome.succeeded with
    | false => simp [syncAnswer, hsuc] at h
    | true =>
      simp only [syncAnswer, hsuc, if_true, Except.ok.injEq, Value.object.injEq, cons.injEq,
        Prod.mk.injEq, true_and, and_true] at h
      exact ⟨outcome, rfl, hsuc, h.1⟩

theorem cases_syncIntegration (c : Call) (s : Service) :
    ((exec (syncIntegration c) s).2.world.files = s.world.files ∧
        ∃ e, (exec (syncIntegration c) s).1 = .error e) ∨
      ∃ row row' first last, (exec (integrationOf c) s).1 = .ok row ∧
        cell row' "provider" = cell row "provider" ∧ syncDays c s.world.now.date = .ok (first, last) ∧
        (exec (syncIntegration c) s).2.world.files = (Run.exec (ingest row' first last) s.world).2.files ∧
        ∀ rows message, (exec (syncIntegration c) s).1 = .ok (syncAnswer "success" rows message) →
          ∃ outcome, (Run.exec (ingest row' first last) s.world).1 = .ok outcome ∧
            outcome.succeeded = true ∧ outcome.rows = rows := by
  unfold syncIntegration
  have hwor : (exec (integrationOf c) s).2.world = s.world := Leaves.out s
  rcases hrow : exec (integrationOf c) s with ⟨e | row, s1⟩
  · rw [hrow] at hwor
    rw [exec_bind_of_error hrow]
    exact .inl ⟨congrArg World.files hwor, e, rfl⟩
  rw [hrow] at hwor
  rw [exec_bind_ok hrow, exec_bind_ok (exec_today s1), hwor]
  rcases hdays : syncDays c s.world.now.date with e | ⟨first, last⟩
  · rw [exec_bind_of_error (exec_liftM_result (.error e) s1)]
    exact .inl ⟨congrArg World.files hwor, e, rfl⟩
  rw [exec_bind_ok (exec_liftM_result (.ok (first, last)) s1)]
  dsimp only
  have hwor' : (exec (reviseCloudAccount row [("status", "syncing")]) s1).2.world = s.world :=
    ((leaves_world_update _ _ _).out s1).trans hwor
  rcases hrow' : exec (reviseCloudAccount row [("status", "syncing")]) s1 with ⟨e | row', s2⟩
  · rw [hrow'] at hwor'
    rw [exec_bind_of_error hrow']
    exact .inl ⟨congrArg World.files hwor', e, rfl⟩
  rw [hrow'] at hwor'
  have hatt : exec (liftM (Run.attempt (ingest row' first last))) s2 =
      (.ok (Run.exec (ingest row' first last) s.world).1,
        { s2 with world := (Run.exec (ingest row' first last) s.world).2 }) := by
    rw [exec_liftM_run, Run.exec_attempt, hwor']
  rw [exec_bind_ok hrow', exec_bind_ok hatt]
  have hpro : cell row' "provider" = cell row "provider" := by
    rw [(exec_update_eq_ok hrow').1, cell_of_syncing _ (by decide)]
  refine .inr ⟨row, row', first, last, rfl, hpro, rfl, ?_, ?_⟩
  · exact (leaves_files_concludeSync c row' _).out _
  · exact fun rows message h => succeeded_of_exec_concludeSync (Prod.ext h rfl)

structure Sync where
  service : Service
  call : Call

namespace Sync

def answer (y : Sync) : Result Value := (y.service.transact (syncIntegration y.call)).1

def after (y : Sync) : Service := (y.service.transact (syncIntegration y.call)).2

def files (y : Sync) : Files := y.service.world.files

def filesAfter (y : Sync) : Files := y.after.world.files

def provider? (y : Sync) : Option String :=
  (exec (integrationOf y.call) y.service).1.toOption.map fun row => textCell row "provider"

def days? (y : Sync) : Option (Date × Date) := (syncDays y.call y.service.world.now.date).toOption

structure Deposits (y : Sync) (ws : List Writing) : Prop where
  written : Files.Written y.files ws y.filesAfter
  table : ∀ e ∈ ws, ∃ provider ∈ y.provider?, ∃ days ∈ y.days?, IsTable days.1 days.2 provider e.path
  reported : ∀ rows message, y.answer = .ok (syncAnswer "success" rows message) →
    ∃ provider ∈ y.provider?, rows = .int (reported provider ws)

lemma answer_eq (y : Sync) : y.answer = (exec (syncIntegration y.call) y.service).1 := by
  unfold answer Service.transact Handler.exec
  rcases (syncIntegration y.call).run.run y.service with ⟨e | a, s⟩ <;> rfl

lemma filesAfter_eq (y : Sync) :
    y.filesAfter = (exec (syncIntegration y.call) y.service).2.world.files := by
  unfold filesAfter after Service.transact Handler.exec
  rcases (syncIntegration y.call).run.run y.service with ⟨e | a, s⟩ <;> rfl

lemma exists_deposits (y : Sync) (htidy : Files.Tidy y.files) : ∃ ws, y.Deposits ws := by
  rcases cases_syncIntegration y.call y.service with
    ⟨hfil, e, he⟩ | ⟨row, row', first, last, hrow, hcell, hdays, hfil, hsuc⟩
  · refine ⟨[], ?_, fun e he => absurd he not_mem_nil, fun rows message h => ?_⟩
    · rw [filesAfter_eq, hfil]
      exact .refl _
    · rw [answer_eq, he] at h
      cases h
  · obtain ⟨ws, hin, hwri, hpost⟩ := writes_ingest row' first last htidy
    have hpro : textCell row' "provider" ∈ y.provider? := by
      simp [provider?, hrow, textCell, hcell, Except.toOption]
    have hdays? : (first, last) ∈ y.days? := by simp [days?, hdays, Except.toOption]
    refine ⟨ws, ?_, fun e he => ⟨_, hpro, _, hdays?, hin e he⟩, fun rows message h => ?_⟩
    · rw [filesAfter_eq, hfil]
      exact hwri
    · rw [answer_eq] at h
      grind

def Follows (y z : Sync) : Prop := z.files = y.filesAfter

def filesAtEnd (y : Sync) (later : List Sync) : Files := (later.getLastD y).filesAfter

lemma exists_deposits_later {y : Sync} {later : List Sync} (hcha : (y :: later).IsChain Follows)
    (htidy : Files.Tidy y.filesAfter) :
    ∃ wss, List.Forall₂ Deposits later wss ∧ Files.Written y.filesAfter wss.flatten (y.filesAtEnd later) := by
  induction later generalizing y with
  | nil => exact ⟨[], .nil, .refl _⟩
  | cons z later ih =>
    obtain ⟨hfol, hcha⟩ := isChain_cons_cons.mp hcha
    have htidy' : Files.Tidy z.files := by
      rw [hfol]
      exact htidy
    obtain ⟨ws, hws⟩ := exists_deposits z htidy'
    obtain ⟨wss, hwss, hwri⟩ := ih hcha (hws.written.tidy htidy')
    refine ⟨ws :: wss, .cons hws hwss, ?_⟩
    have hfir := hws.written
    rw [hfol] at hfir
    rw [filesAtEnd, getLastD_cons]
    exact hfir.append hwri

lemma provider_eq_of_isTable {first last : Date} {provider provider' name : String} {p : Path}
    (h : IsTable first last provider p) (hp : p.parts = placeOf provider' ++ [name]) : provider = provider' := by
  obtain ⟨_, rfl, -⟩ := h
  simp only [placeOf, cons_append, nil_append, cons.injEq] at hp
  exact hp.2.2.1

end Sync

/-- Of the tables that a synchronisation wrote, those are there at the end of a run that were not
replaced, and the ones that later synchronisations of other providers write replace none. -/
theorem synced_tables_kept_iff {y : Sync} {later : List Sync} (hchain : (y :: later).IsChain Sync.Follows)
    (htidy : Files.Tidy y.files) :
    ∃ ws wss, y.Deposits ws ∧ List.Forall₂ Sync.Deposits later wss ∧
      (∀ e ∈ ws, e.path.isWritable = true →
        ((y.filesAtEnd later).fileAt e.path.parts = some e.content ↔
          Files.lastAt (ws ++ wss.flatten) e.path.parts = some e.content)) ∧
      ((∀ z ∈ later, z.provider? ≠ y.provider?) → ∀ provider ∈ y.provider?, ∀ name,
        (y.filesAtEnd later).fileAt (placeOf provider ++ [name]) =
          y.filesAfter.fileAt (placeOf provider ++ [name])) := by
  obtain ⟨ws, hws⟩ := y.exists_deposits htidy
  obtain ⟨wss, hwss, hlat⟩ := Sync.exists_deposits_later hchain (hws.written.tidy htidy)
  refine ⟨ws, wss, hws, hwss, fun e he hwri => ?_, fun hoth provider hpro name => ?_⟩
  · obtain ⟨c, hc⟩ := Files.exists_lastAt (mem_append_left wss.flatten he) hwri
    rw [(hws.written.append hlat).fileAt_eq, hc]
    rfl
  · have hnone : Files.lastAt wss.flatten (placeOf provider ++ [name]) = none := by
      cases hlast : Files.lastAt wss.flatten (placeOf provider ++ [name]) with
      | none => rfl
      | some c =>
        obtain ⟨e, he, hpla, -⟩ := Files.exists_of_lastAt hlast
        obtain ⟨vs, hvs, he⟩ := mem_flatten.mp he
        obtain ⟨z, hz, hdep⟩ := exists_of_mem_of_forall₂ hwss hvs
        obtain ⟨provider', hpro', days, -, htab⟩ := hdep.table e he
        obtain rfl := Sync.provider_eq_of_isTable htab hpla
        exact absurd (hpro'.trans hpro.symm) (hoth z hz)
    rw [hlat.fileAt_eq, hnone]
    rfl

def chargingWorld : World where
  outside := {
    web := fun asked _ => .ok { status := 200, body := .json (.object [("data", .list [.object
      [("attributes", .object [("date", .text (Date.text ⟨2026, 1, asked.length + 1⟩)),
        ("charges", .list [.object [("cost", .int 5)]])])]])]) }
    aws := fun _ _ => .error .noRows
    pages := 0
    engine := fun _ _ => .error .noRows
    snowflake := .error .noRows
    bigQuery := .error .noRows
    blobs := []
    listsBlobs := false
    azureToken := .error .noRows
    signsOracle := false
    mail := none }
  now := { date := ⟨2026, 1, 15⟩, hour := 12 }

def integrationEntry (id provider : String) : Store.Entry :=
  ⟨.cloudAccounts, Store.Table.fill .cloudAccounts chargingWorld.now id
    [("provider", .text provider), ("account_identifier", .text id), ("status", "active"),
     ("connection_config", .object [("api_key", "k"), ("app_key", "a")])]⟩

def firstSync (provider provider' : String) : Sync where
  service := { world := chargingWorld, store := [integrationEntry "1" provider, integrationEntry "2" provider'] }
  call := { params := ["1"], query := [], body := [], given := [], user := [] }

def nextSync (y : Sync) : Sync where
  service := y.after
  call := { y.call with params := ["2"] }

def tableDays (fs : Files) : List (List String × List (Option String)) :=
  fs.filterMap fun f => match f.2 with
    | .table columns => some (f.1, ((Entries.get? columns "usage_date").getD []).map Value.text?)
    | _ => none

def Sync.answerText (y : Sync) : Option String := y.answer.toOption.map (Json.writeIn .compact)

/-- The costs of one provider stay when those of another one are taken over. -/
theorem synced_tables_kept_two_providers :
    let y := firstSync "datadog" "linode"
    let place := placeOf "datadog" ++ ["datadog_costs.parquet"]
    tableDays y.filesAfter = [(place, [some "2026-01-01"])] ∧
      (y.filesAtEnd [nextSync y]).fileAt place = y.filesAfter.fileAt place := by
  refine ⟨by decide +kernel, ?_⟩
  have hcha : [firstSync "datadog" "linode", nextSync (firstSync "datadog" "linode")].IsChain Sync.Follows :=
    .cons_cons rfl (.singleton _)
  obtain ⟨ws, wss, -, -, -, hkept⟩ := synced_tables_kept_iff hcha fun _ hpla => by cases hpla
  exact hkept (by decide +kernel) "datadog" (by decide +kernel) _

/-- Of two integrations of one provider, each of which is synchronised with success, only the records of
the one that was synchronised last are there. -/
theorem records_replaced_by_other_integration :
    let y := firstSync "datadog" "datadog"
    let z := nextSync y
    let place := placeOf "datadog" ++ ["datadog_costs.parquet"]
    let success := "\x7b\"status\":\"success\",\"rows_ingested\":1," ++
      "\"message\":\"Ingested 1 records from datadog.\"\x7d"
    [y.answerText, z.answerText] = [some success, some success] ∧
      tableDays y.filesAfter = [(place, [some "2026-01-01"])] ∧
      tableDays z.filesAfter = [(place, [some "2026-01-02"])] := by
  decide +kernel

end Api

end CloudSpend
