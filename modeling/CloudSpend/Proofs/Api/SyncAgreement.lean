import CloudSpend.Proofs.Api.SyncState
import CloudSpend.Proofs.Webhook.Delivery

/-! # The two ways to synchronise an account -/

namespace CloudSpend

open Handler List Run

def asked (hooks : Webhook.Registry) (w : World) :
    List Web.Request × List AwsCall × List Value × List Value :=
  (w.web.filter fun r => !hooks.any fun h => r.url.text? == some h.url, w.aws, w.snowflake, w.clouds)

variable {hooks : Webhook.Registry}

lemma asked_refresh (w : World) : asked hooks (exec Analytics.refresh w).2 = asked hooks w :=
  (Analytics.leaves_refresh fun _ _ => rfl).out w

lemma leaves_asked_dispatch (receivers : List Web.Request → Web.Request → Result Web.Reply) (event : String)
    (data : Value) : Leaves (asked hooks) (Webhook.dispatch receivers hooks event data) := by
  refine Webhook.leaves_dispatch (fun w r hr => ?_) receivers event data
  obtain ⟨h, hhook, hurl⟩ := hr
  have htold : (hooks.any fun h' => r.url.text? == some h'.url) = true :=
    any_eq_true.mpr ⟨h, hhook, by rw [hurl]; exact beq_self_eq_true _⟩
  simp [asked, filter_append, htold]

namespace Api

open Handler (exec)
open Store (Table cell textCell holds)

variable {c : Call} {s : Service} {id key : String} {row changes : Row} {front back : List Row}

def exportingClouds : List String := ["aws", "gcp", "azure"]

def toldOf : Result Value → Bool × Value
  | .ok rows => (true, rows)
  | .error _ => (false, .int 0)

def toldBy : Result Connector.Ingestion → Bool × Value
  | .ok outcome => (outcome.succeeded, outcome.rows)
  | .error _ => (false, .int 0)

lemma exec_ingest_exporting (key name countKey : String) (validate : Value → Run Connector.Validation)
    (source : Value → Value → Value → Run Value) (config start stop path : Value) (w : World) :
    let taken := Run.exec (do
      Run.disconnect
      let outcome ← source config start stop
      liftM (outcome.getD countKey (.int 0))) w
    let ingested := Run.exec ((Connector.exporting key name validate source countKey).ingest config start stop path) w
    ingested.2 = taken.2 ∧ toldBy ingested.1 = toldOf taken.1 := by
  have hdis : Run.exec Run.disconnect w = (.ok (), { w with connected := false }) := rfl
  simp only [Connector.exporting, Run.exec_recover, Run.exec_bind_ok hdis, Run.exec_bind]
  rcases Run.exec (source config start stop) { w with connected := false } with ⟨err | outcome, w1⟩
  · exact ⟨rfl, rfl⟩
  · dsimp only
    cases outcome.getD countKey (.int 0) with
    | error err => exact ⟨rfl, rfl⟩
    | ok rows => exact ⟨rfl, rfl⟩

variable {first first' : Date} {last settings : Value} {account : Row} {α : Type} {name : String}
  {d? start? stop? : Option Date}

lemma takeOver_of_cloud {last : Date} (hclo : key ∈ exportingClouds) :
    ∃ name validate source countKey, Connector.find (.text key) =
        .ok (Connector.exporting key name validate source countKey) ∧
      takeOver key settings (.text first.text) (.text last.text) = (do
        disconnect
        let outcome ← source settings first last
        liftM (outcome.getD countKey (.int 0))) := by
  have hday : ∀ {α : Type} (d : Date) (f : String → Run α), (liftM (Value.dayText d) : Run String) >>= f = f d.text :=
    fun _ _ => rfl
  simp only [exportingClouds, mem_cons, not_mem_nil, or_false] at hclo
  rcases hclo with rfl | rfl | rfl
  · refine ⟨_, _, _, _, rfl, ?_⟩
    simp only [takeOver, Connector.Aws.ingest, bind_assoc, pick, Connector.renamed]
  · refine ⟨_, _, _, _, rfl, ?_⟩
    simp only [takeOver, Connector.Gcp.ingest, bind_assoc, pick, pickSame, Connector.renamed, hday, map_cons,
      map_nil]
  · refine ⟨_, _, _, _, rfl, ?_⟩
    simp only [takeOver, Connector.Azure.ingest, bind_assoc, pick, pickSame, Connector.renamed, hday]

lemma exec_ingest_of_cloud (hkey : cell row "provider" = .text key) (hclo : key ∈ exportingClouds)
    (first last : Date) (w : World) :
    let taken := exec (takeOver key (settingsOf row) (.text first.text) (.text last.text)) w
    let ingested := exec (ingest row first last) w
    ingested.2 = taken.2 ∧ toldBy ingested.1 = toldOf taken.1 := by
  obtain ⟨name, validate, source, countKey, hfind, htake⟩ := takeOver_of_cloud hclo
  have hpro : (textCell row "provider" : Value) = .text key := by rw [textCell, hkey]; rfl
  unfold ingest
  rw [htake, hpro, hfind]
  exact exec_ingest_exporting key name countKey validate source (settingsOf row) first last .null w

lemma takeOver_of_other {first : Value} (hoth : key ∉ exportingClouds) :
    takeOver key settings first last = (do
      disconnect
      return .int 0) := by
  simp only [exportingClouds, mem_cons, not_mem_nil, or_false, not_or] at hoth
  unfold takeOver
  grind

structure IsAccount (id key : String) (row : Row) : Prop where
  isRow : Table.IsRow .cloudAccounts row
  id : cell row "id" = .text id
  provider : cell row "provider" = .text key
  known : key ∈ Store.providers.members
  status : ∃ status ∈ Store.syncStates.members, cell row "status" = .text status

lemma IsAccount.strangeWord? (h : IsAccount id key row) : Table.strangeWord? .cloudAccounts row = none := by
  obtain ⟨status, hmem, hsta⟩ := h.status
  have hpro : Store.providers.members.contains key = true := contains_iff_mem.mpr h.known
  have hsat : Store.syncStates.members.contains status = true := contains_iff_mem.mpr hmem
  refine findSome?_eq_none_iff.mpr fun c hc => ?_
  simp only [Table.columns, mem_cons, not_mem_nil, or_false] at hc
  rcases hc with rfl | rfl | rfl | rfl | rfl | rfl | rfl | rfl | rfl | rfl | rfl | rfl
  case inr.inl => simp only [Store.Column.must, h.provider, hpro, if_true]
  case inr.inr.inr.inr.inl => simp only [Store.Column.always, hsta, hsat, if_true]
  all_goals rfl

structure IsNote (changes : Row) : Prop where
  names : ∀ e ∈ changes, e.1 ∈ syncColumns
  storable : ∀ e ∈ changes, ∀ n, e.2 ≠ .int n
  status : ∃ status ∈ Store.syncStates.members, Entries.get? changes "status" = some (.text status)

lemma isNote_syncing : IsNote [("status", "syncing")] where
  names := by simp [syncColumns]
  storable := by simp
  status := ⟨"syncing", by decide, rfl⟩

lemma isNote_concluded (now : Timestamp) (outcome : Except String Value) : IsNote (concludedCells now outcome) where
  names := by cases outcome <;> simp [concludedCells, syncedCells, failedCells, syncColumns]
  storable := by cases outcome <;> simp [concludedCells, syncedCells, failedCells]
  status := by
    cases outcome with
    | ok rows => exact ⟨"active", by decide, rfl⟩
    | error message => exact ⟨"error", by decide, rfl⟩

lemma IsNote.get?_eq_none (h : IsNote changes) (hkey : key ∉ syncColumns) :
    Entries.get? changes key = none := by
  refine lookup_eq_none_iff.mpr fun p hp => ?_
  rw [bne_iff_ne]
  rintro rfl
  exact hkey (h.names p hp)

lemma IsNote.plain (h : IsNote changes) : Store.Plain .cloudAccounts changes where
  plain p hp := by
    have hall : ∀ name ∈ syncColumns, Table.isPlain .cloudAccounts name = true := by decide
    exact hall _ (h.names p hp)
  filled c hc hreq v hv := by
    have hall : ∀ c ∈ Table.columns .cloudAccounts, c.required = true → c.name ∈ syncColumns →
        c = .always "status" (.word Store.syncStates) "pending" := by simp +decide [Table.columns]
    obtain ⟨status, hmem, hsta⟩ := h.status
    obtain rfl := hall c hc hreq (h.names _ (Entries.mem_of_get? hv))
    rw [show (Store.Column.always "status" (.word Store.syncStates) "pending").name = "status" from rfl, hsta] at hv
    obtain rfl := Option.some.inj hv
    rfl

lemma IsAccount.noted (h : IsAccount id key row) (hnote : IsNote changes) (now : Timestamp) :
    IsAccount id key (Table.revise .cloudAccounts now changes row) where
  isRow := Store.isRow_revise h.isRow now _
  id := (Store.cell_revise_of_none (by decide) (hnote.get?_eq_none (by decide)) now).trans h.id
  provider := (Store.cell_revise_of_none (by decide) (hnote.get?_eq_none (by decide)) now).trans h.provider
  known := h.known
  status := by
    obtain ⟨status, hmem, hsta⟩ := hnote.status
    exact ⟨status, hmem, cell_status_revise h.isRow hmem hsta now⟩

structure Holding (id key : String) (front back : List Row) (row : Row) (s : Service) : Prop where
  sound : s.store.sound = true
  rows : accounts s = front ++ row :: back
  isAccount : IsAccount id key row

namespace Holding

lemma mem (h : Holding id key front back row s) : row ∈ accounts s := by simp [h.rows]

lemma inWorld (h : Holding id key front back row s) (w : World) :
    Holding id key front back row { s with world := w } := ⟨h.sound, h.rows, h.isAccount⟩

lemma holds_iff (h : Holding id key front back row s) {row' : Row} (hrow' : row' ∈ accounts s) :
    holds "id" (.text id) row' = true ↔ row' = row := by
  have hiff := Store.holds_id_iff h.sound (by decide : ["id"] ∈ Table.keys .cloudAccounts) h.mem h.isAccount.id hrow'
  rwa [h.isAccount.id] at hiff

lemma exec_byId (h : Holding id key front back row s) (what : String) :
    exec (byId .cloudAccounts what id) s = (.ok row, s) := by
  have hsel : exec (select .cloudAccounts (holds "id" (.text id))) s = (.ok [row], s) := by
    have hfou := Store.select_key h.sound (by decide) h.rows h.isAccount.id
    rw [h.isAccount.id] at hfou
    rw [exec_select, hfou]
    intro row' hrow' hid
    rw [(h.holds_iff hrow').mp hid]
    exact h.isAccount.strangeWord?
  have hfind : exec (find? .cloudAccounts "id" (.text id)) s = (.ok (some row), s) :=
    exec_bind_ok hsel _
  exact exec_bind_ok hfind _

lemma exec_revise (h : Holding id key front back row s) (hnote : IsNote changes) :
    ∃ s', exec (reviseCloudAccount row changes) s = (.ok (Table.revise .cloudAccounts s.world.now changes row), s') ∧
      Holding id key front back (Table.revise .cloudAccounts s.world.now changes row) s' ∧
      s'.world = s.world ∧ s'.webhooks = s.webhooks := by
  have hread : ∀ row' ∈ s.store.rows .cloudAccounts, holds "id" (cell row "id") row' = true →
      Table.strangeWord? .cloudAccounts (Table.revise .cloudAccounts s.world.now changes row') = none := by
    intro row' hrow' hid
    rw [h.isAccount.id] at hid
    rw [(h.holds_iff hrow').mp hid]
    exact (h.isAccount.noted hnote _).strangeWord?
  have hexec := exec_update_of_plain h.sound hnote.plain
    (fun p hp n hn => absurd hn (hnote.storable p hp n)) hread
  refine ⟨_, hexec, ⟨?_, ?_, h.isAccount.noted hnote _⟩, rfl, rfl⟩
  · exact Store.sound_reviseWhere h.sound hnote.plain _ _
  · exact Store.rows_revise_id h.sound (by decide) h.rows h.isAccount.id _ _

end Holding

def ingestedRows (answer : Value) : Option Value :=
  answer.object?.bind fun es => Entries.get? es "rows_ingested"

def Noted (id key : String) (front back : List Row) (account : Row) (told : Bool × Value) (s : Service) : Prop :=
  ∃ row, Holding id key front back row s ∧ cell row "status" = .text (if told.1 then "active" else "error") ∧
    cell row "last_sync_rows" = if told.1 then .text told.2.display else cell account "last_sync_rows"

lemma exec_conclude (h : Holding id key front back row s)
    (hrows : cell row "last_sync_rows" = cell account "last_sync_rows") (outcome : Except String Value)
    (told : Bool × Value)
    (htold : told.1 = false ∧ (∃ message, outcome = .error message) ∨ told.1 = true ∧ outcome = .ok told.2) :
    ∃ s', exec (discard (reviseCloudAccount row (concludedCells s.world.now outcome))) s = (.ok (), s') ∧
      Noted id key front back account told s' ∧ s'.world = s.world ∧ s'.webhooks = s.webhooks := by
  obtain ⟨s', hexec, hhol, hwor, hhoo⟩ := h.exec_revise (isNote_concluded s.world.now outcome)
  refine ⟨s', exec_discard_of_ok hexec, ⟨_, hhol, ?_⟩, hwor, hhoo⟩
  rcases htold with ⟨hfai, message, rfl⟩ | ⟨hsuc, rfl⟩
  · rw [hfai]
    exact ⟨cell_status_revise h.isAccount.isRow (by decide) rfl _,
      (Store.cell_revise_of_none (by decide) rfl _).trans hrows⟩
  · rw [hsuc]
    refine ⟨cell_status_revise h.isAccount.isRow (by decide) rfl _, ?_⟩
    exact Store.cell_revise_of_text (c := .may "last_sync_rows" .text) h.isAccount.isRow (by simp [Table.columns]) rfl
      rfl _

lemma exec_syncing (h : Holding id key front back account s) {x : Row → Run α} (hx : OfSettings x)
    (conclude : Row → Result α → Handler Value) :
    ∃ row s₁, Holding id key front back row s₁ ∧ cell row "last_sync_rows" = cell account "last_sync_rows" ∧
      s₁.world = (Run.exec (x account) s.world).2 ∧ s₁.webhooks = s.webhooks ∧
      exec (reviseCloudAccount account [("status", "syncing")] >>= fun row =>
        liftM (attempt (x row)) >>= conclude row) s =
          exec (conclude row (Run.exec (x account) s.world).1) s₁ := by
  obtain ⟨s₁, hrev, h1, hwor, hhoo⟩ := h.exec_revise isNote_syncing
  refine ⟨_, { s₁ with world := (Run.exec (x account) s.world).2 }, h1.inWorld _,
    Store.cell_revise_of_none (by decide) rfl _, rfl, hhoo, ?_⟩
  have hatt : exec (liftM (attempt (x (Table.revise .cloudAccounts s.world.now [("status", "syncing")]
      account)))) s₁ = (.ok (Run.exec (x account) s.world).1,
        { s₁ with world := (Run.exec (x account) s.world).2 }) := by
    rw [exec_liftM_run, exec_attempt, hwor, hx (cell_of_syncing _ (by decide)) (cell_of_syncing _ (by decide))]
  rw [exec_bind_ok hrev, exec_bind_ok hatt]

def concludeTakeOver (row : Row) : Result Value → Handler Value
  | .ok rows => do
    discard (reviseCloudAccount row (syncedCells (← Handler.now) rows))
    return syncAnswer "success" rows ("Synced " ++ rows.display ++ " billing records from " ++ textCell row "provider")
  | .error e => do
    discard (reviseCloudAccount row (failedCells e.message))
    return syncAnswer "error" (.int 0) e.message

lemma exec_concludeTakeOver (h : Holding id key front back row s)
    (hrows : cell row "last_sync_rows" = cell account "last_sync_rows") (taken : Result Value) :
    ∃ answer s', exec (concludeTakeOver row taken) s = (.ok answer, s') ∧
      ingestedRows answer = some (toldOf taken).2 ∧ Noted id key front back account (toldOf taken) s' ∧
      s'.world = s.world := by
  cases taken with
  | error err =>
    obtain ⟨s', hexec, hnot, hwor, -⟩ := exec_conclude h hrows (.error err.message) (false, .int 0)
      (.inl ⟨rfl, _, rfl⟩)
    exact ⟨_, s', exec_bind_ok hexec _, rfl, hnot, hwor⟩
  | ok rows =>
    obtain ⟨s', hexec, hnot, hwor, -⟩ := exec_conclude h hrows (.ok rows) (true, rows) (.inr ⟨rfl, rfl⟩)
    have hnow : exec (concludeTakeOver row (.ok rows)) s = _ := Handler.exec_bind_ok (Handler.exec_now s) _
    exact ⟨_, s', hnow.trans (exec_bind_ok hexec _), rfl, hnot, hwor⟩

lemma exec_syncCloudAccount (h : Holding c.param key front back account s) {first : Value}
    (hspan : syncSpan c s.world.now.date = .ok (first, last)) :
    let taken := Run.exec (takeOverAccount account first last) s.world
    ∃ answer s', exec (syncCloudAccount c) s = (.ok answer, s') ∧
      ingestedRows answer = some (toldOf taken.1).2 ∧ Noted c.param key front back account (toldOf taken.1) s' ∧
      s'.world = taken.2 := by
  intro taken
  obtain ⟨row, s₁, h1, hrows, hwor, -, hexec⟩ :=
    exec_syncing h (ofSettings_takeOverAccount first last) concludeTakeOver
  obtain ⟨answer, s', hans, hing, hnot, hwor'⟩ := exec_concludeTakeOver h1 hrows taken.1
  refine ⟨answer, s', ?_, hing, hnot, hwor'.trans hwor⟩
  rw [syncCloudAccount, cloudAccountOf, exec_bind_ok (h.exec_byId _), exec_bind_ok (Handler.exec_today s),
    exec_bind_ok (exec_liftM_of_eq hspan s)]
  exact hexec.trans hans

lemma exists_exec_tell (event : String) {data : Row} (hdata : Json.foreign? (.object data) = none) (s : Service) :
    ∃ w, exec (tell event data) s = (.ok (), { s with world := w }) ∧
      asked s.webhooks w = asked s.webhooks s.world := by
  exact ⟨_, exec_tell event hdata s, (leaves_asked_dispatch s.receivers event _).view_eq
    (Webhook.exec_dispatch s.receivers s.webhooks event hdata s.world)⟩

lemma exec_concludeSync (h : Holding id key front back row s)
    (hrows : cell row "last_sync_rows" = cell account "last_sync_rows") (c : Call)
    {result : Result Connector.Ingestion} (hcou : ∀ outcome, result = .ok outcome → IsCount outcome.rows) :
    ∃ answer s', exec (concludeSync c row result) s = (.ok answer, s') ∧
      ingestedRows answer = some (toldBy result).2 ∧ Noted id key front back account (toldBy result) s' ∧
      asked s.webhooks s'.world = asked s.webhooks s.world := by
  cases result with
  | error err =>
    obtain ⟨s', hexec, hnot, hwor, -⟩ := exec_conclude h hrows (.error err.message) (false, .int 0)
      (.inl ⟨rfl, _, rfl⟩)
    exact ⟨_, s', exec_bind_ok hexec _, rfl, hnot, by rw [hwor]⟩
  | ok outcome =>
    have hcel : (if outcome.succeeded then syncedCells s.world.now outcome.rows else failedCells outcome.message) =
        concludedCells s.world.now (ingestionOutcome (.ok outcome)) := by
      cases hsuc : outcome.succeeded <;> simp [ingestionOutcome, concludedCells, hsuc]
    have htold : outcome.succeeded = false ∧ (∃ message, ingestionOutcome (.ok outcome) = .error message) ∨
        outcome.succeeded = true ∧ ingestionOutcome (.ok outcome) = .ok outcome.rows := by
      cases hsuc : outcome.succeeded <;> simp [ingestionOutcome, hsuc]
    obtain ⟨s₁, hcon, ⟨row', h1, hnot⟩, hwor, hhoo⟩ :=
      exec_conclude h hrows (ingestionOutcome (.ok outcome)) (outcome.succeeded, outcome.rows) htold
    rw [← hcel] at hcon
    have href : exec (discard (liftM (attempt Analytics.refresh) : Handler (Result Unit))) s₁ =
        (.ok (), { s₁ with world := (Run.exec Analytics.refresh s₁.world).2 }) := rfl
    have hdata : Json.foreign? (.object [("integration_id", .text c.param), ("provider", cell row "provider"),
        ("rows_ingested", outcome.rows), ("message", .text outcome.message)]) = none := by
      obtain ⟨n, hn⟩ := hcou outcome rfl
      simp [Json.foreign?, Json.foreignInTable?, h.isAccount.provider, hn]
    obtain ⟨w, htell, hask⟩ := exists_exec_tell (if outcome.succeeded then "sync.completed" else "sync.failed")
      hdata { s₁ with world := (Run.exec Analytics.refresh s₁.world).2 }
    refine ⟨syncAnswer (if outcome.succeeded then "success" else "error") outcome.rows outcome.message,
      { s₁ with world := w }, ?_, rfl, ⟨row', h1.inWorld w, hnot⟩, ?_⟩
    · rw [concludeSync, exec_bind_ok (exec_now s), exec_bind_ok hcon,
        exec_bind_ok href, exec_bind_ok htell]
      rfl
    · rw [← hhoo, ← hwor]
      exact hask.trans (asked_refresh _)

lemma exec_syncIntegration (h : Holding c.param key front back account s) {last : Date}
    (hdays : syncDays c s.world.now.date = .ok (first, last)) :
    let ingested := Run.exec (ingest account first last) s.world
    ∃ answer s', exec (syncIntegration c) s = (.ok answer, s') ∧
      ingestedRows answer = some (toldBy ingested.1).2 ∧
      Noted c.param key front back account (toldBy ingested.1) s' ∧
      asked s.webhooks s'.world = asked s.webhooks ingested.2 := by
  intro ingested
  obtain ⟨row, s₁, h1, hrows, hwor, hhoo, hexec⟩ := exec_syncing h (ofSettings_ingest first last) (concludeSync c)
  obtain ⟨answer, s', hans, hing, hnot, hask⟩ := exec_concludeSync h1 hrows c
    (fun outcome hout => gives_ingest account first last _ _ _ (Prod.ext hout rfl))
  rw [hhoo, hwor] at hask
  refine ⟨answer, s', ?_, hing, hnot, hask⟩
  rw [syncIntegration, integrationOf, exec_bind_ok (h.exec_byId _), exec_bind_ok (Handler.exec_today s),
    exec_bind_ok (exec_liftM_of_eq hdays s)]
  exact hexec.trans hans

def GivesDay (c : Call) (name : String) : Option Date → Prop
  | none => (c.arg name).truthy = false
  | some d => c.arg name = .text d.text ∧ Date.read d.text = .ok d

def firstDay (start? : Option Date) (base : Date) : Result Date :=
  match start? with
  | some first => .ok first
  | none => base.before 30

lemma GivesDay.truthy (h : GivesDay c name d?) : (c.arg name).truthy = d?.isSome := by
  cases d? with
  | none => exact h
  | some d =>
    obtain ⟨harg, hread⟩ := h
    have hfil : d.text ≠ "" := by
      intro hbla
      rw [hbla] at hread
      cases hread
    simpa [harg, Value.truthy] using hfil

lemma dateArg?_of_givesDay (h : GivesDay c name d?) : dateArg? c name = .ok d? := by
  have htru : (cell c.query name).truthy = d?.isSome := h.truthy
  unfold dateArg? textCell
  cases d? with
  | none =>
    cases hcell : cell c.query name with
    | text t =>
      obtain rfl : t = "" := by simpa [hcell, Value.truthy] using htru
      rfl
    | _ => rfl
  | some d =>
    obtain ⟨harg, hread⟩ := h
    have hcell : cell c.query name = .text d.text := harg
    have hfil : d.text ≠ "" := by simpa [hcell, Value.truthy] using htru
    have htext : (Value.text d.text).text?.getD "" = d.text := rfl
    rw [hcell, htext]
    split
    · next hbla => exact absurd hbla hfil
    · rw [hread]
      rfl

lemma syncDays_eq (hsta : GivesDay c "start_date" start?) (hstop : GivesDay c "end_date" stop?)
    (today : Date) :
    syncDays c today = (firstDay start? (stop?.getD today)).map fun first => (first, stop?.getD today) := by
  unfold syncDays
  rw [dateArg?_of_givesDay hsta, dateArg?_of_givesDay hstop]
  cases start? with
  | some first => rfl
  | none =>
    cases (stop?.getD today).before 30 <;> rfl

lemma syncSpan_eq (hsta : GivesDay c "start_date" start?) (hstop : GivesDay c "end_date" stop?)
    (today : Date) :
    syncSpan c today = (firstDay start? today).map fun first => (.text first.text, .text (stop?.getD today).text) := by
  have hlast : (c.arg "end_date").orElse (.text today.text) = .text (stop?.getD today).text := by
    rw [Value.orElse, hstop.truthy]
    cases stop? with
    | none => rfl
    | some d => exact hstop.1
  unfold syncSpan
  rw [hlast, hsta.truthy]
  cases start? with
  | some first =>
    rw [hsta.1]
    rfl
  | none =>
    simp only [firstDay, bind, Except.bind]
    cases today.before 30 <;> rfl

lemma text_firstDay_eq_iff {base today : Date} (hfir : firstDay start? base = .ok first)
    (hfir' : firstDay start? today = .ok first') :
    first.text = first'.text ↔ start?.isSome = true ∨ today.daysTo base = 0 := by
  cases start? with
  | some day =>
    cases hfir
    cases hfir'
    simp
  | none =>
    simp only [firstDay] at hfir hfir'
    simp only [Option.isSome_none, Bool.false_eq_true, false_or, Date.daysTo]
    constructor
    · intro htext
      have hord := Date.ordinal_eq_of_before hfir hfir' htext
      omega
    · intro hzero
      have hord : base.ordinal = today.ordinal := by omega
      have hsame : base.before 30 = today.before 30 := by
        simp only [Date.before, Date.moved, Date.addDays?, hord]
      rw [hsame, hfir'] at hfir
      cases hfir
      rfl

def syncNotes (s : Service) : List (Value × Value) :=
  (accounts s).map fun row => (cell row "status", cell row "last_sync_rows")

structure Agree (hooks : Webhook.Registry) (answer₁ answer₂ : Value) (s₁ s₂ : Service) : Prop where
  asked : asked hooks s₁.world = asked hooks s₂.world
  rows : ingestedRows answer₁ = ingestedRows answer₂
  notes : syncNotes s₁ = syncNotes s₂

lemma agree_iff {told1 told2 : Bool × Value} {answer₁ answer₂ : Value} {s₁ s₂ : Service}
    (hrows1 : ingestedRows answer₁ = some told1.2) (hnot1 : Noted id key front back account told1 s₁)
    (hrows2 : ingestedRows answer₂ = some told2.2) (hnot2 : Noted id key front back account told2 s₂) :
    Agree hooks answer₁ answer₂ s₁ s₂ ↔ asked hooks s₁.world = asked hooks s₂.world ∧ told1 = told2 := by
  obtain ⟨row1, h1, hsta1, hcou1⟩ := hnot1
  obtain ⟨row2, h2, hsta2, hcou2⟩ := hnot2
  have hnte : syncNotes s₁ = syncNotes s₂ ↔
      cell row1 "status" = cell row2 "status" ∧ cell row1 "last_sync_rows" = cell row2 "last_sync_rows" := by
    simp [syncNotes, h1.rows, h2.rows]
  constructor
  · intro h
    refine ⟨h.asked, Prod.ext ?_ ?_⟩
    · have hsta := (hnte.mp h.notes).1
      grind
    · have hrows := h.rows
      rw [hrows1, hrows2] at hrows
      exact Option.some.inj hrows
  · rintro ⟨hask, rfl⟩
    refine ⟨hask, hrows1.trans hrows2.symm, hnte.mpr ⟨hsta1.trans hsta2.symm, hcou1.trans hcou2.symm⟩⟩

def refreshes (w : World) : Bool := (exec Analytics.refresh w).1.isOk

lemma told_takeOverAccount (hooks : Webhook.Registry) {first : Value}
    (hkey : cell account "provider" = .text key) (w : World) :
    let taken := exec (takeOver key (settingsOf account) first last) w
    let all := exec (takeOverAccount account first last) w
    asked hooks all.2 = asked hooks taken.2 ∧
      toldOf all.1 = if refreshes taken.2 then toldOf taken.1 else (false, .int 0) := by
  have hpro : textCell account "provider" = key := by rw [textCell, hkey]; rfl
  unfold takeOverAccount
  rw [hpro]
  rcases htak : exec (takeOver key (settingsOf account) first last) w with ⟨err | rows, w1⟩
  · rw [exec_bind_of_error htak]
    refine ⟨rfl, ?_⟩
    split <;> rfl
  · rw [exec_bind_ok htak]
    have hret : asked hooks _ = _ := asked_refresh w1
    rcases href : exec Analytics.refresh w1 with ⟨err | _, w2⟩
    · have hfai : refreshes w1 = false := by rw [refreshes, href]; rfl
      rw [href] at hret
      rw [exec_bind_of_error href]
      exact ⟨hret, by rw [hfai]; rfl⟩
    · have hsuc : refreshes w1 = true := by rw [refreshes, href]; rfl
      rw [href] at hret
      rw [exec_bind_ok href]
      exact ⟨hret, by rw [hsuc]; rfl⟩

lemma toldOf_eq_iff (taken : Result Value) (refreshed : Bool) :
    (if refreshed then toldOf taken else (false, .int 0)) = toldOf taken ↔
      ¬(taken.isOk = true ∧ refreshed = false) := by
  cases taken <;> cases refreshed <;> simp [toldOf, Except.isOk, Except.toBool]

def reachBigQuery (settings : Value) : Run Source.BigQuery := do
  disconnect
  let source ← liftM (do Source.BigQuery.configure (← pickSame settings
    ["service_account_json", "billing_dataset"]) : Result _)
  source.connect
  return source

def costQuery (source : Source.BigQuery) (first last : Value) : Value :=
  .object [("sql", .text (Source.BigQuery.costSql source.dataset)),
    ("params", .list [.list ["start_date", "DATE", first], .list ["end_date", "DATE", last]])]

def storeCosts (source : Source.BigQuery) (first last : Value) (rows : List Value) : Run Value := do
  let rows ← liftM (rows.mapM Source.BigQuery.tableOf)
  let (count, path) ← Source.keep .gcp source.directory (do return "gcp_" ++ (← Source.spanName first last)) rows
  liftM ((Value.object [("rows_ingested", count), ("output_path", Value.ofText? path)]).getD "rows_ingested" (.int 0))

lemma leaves_storeCosts (source : Source.BigQuery) (first last : Value) (rows : List Value) :
    Leaves (·.clouds) (storeCosts source first last rows) := by
  have hmake : ∀ p, Leaves (·.clouds) (makeDirectory p) := fun _ => ⟨fun _ => rfl⟩
  have htab : ∀ t, Leaves (·.clouds) (writeTable t) := leaves_writeTable fun _ _ _ => rfl
  have hwri : ∀ path rows, Leaves (·.clouds) (writeRows path rows) := fun _ _ => leaves_bind
  have hkeep : ∀ name rows, Leaves (·.clouds) (Source.keep .gcp source.directory name rows) := by
    intro name rows
    unfold Source.keep
    infer_instance
  exact leaves_bind

lemma takeOver_gcp (settings first last : Value) :
    takeOver "gcp" settings first last = reachBigQuery settings >>= fun source =>
      Source.BigQuery.query (Source.BigQuery.costSql source.dataset)
        [.list ["start_date", "DATE", first], .list ["end_date", "DATE", last]] >>= fun rows =>
      storeCosts source first last rows := by
  simp only [takeOver, reachBigQuery, Source.BigQuery.ingest, storeCosts, bind_assoc, pure_bind]

lemma clouds_takeOver_gcp {w w1 : World} {source : Source.BigQuery}
    (h : exec (reachBigQuery settings) w = (.ok source, w1)) (first last : Value) :
    (exec (takeOver "gcp" settings first last) w).2.clouds = w1.clouds ++ [costQuery source first last] := by
  have hque : exec (Source.BigQuery.query (Source.BigQuery.costSql source.dataset)
      [.list ["start_date", "DATE", first], .list ["end_date", "DATE", last]]) w1 =
        (w1.outside.bigQuery, { w1 with clouds := w1.clouds ++ [costQuery source first last] }) := rfl
  rw [takeOver_gcp, exec_bind_ok h]
  cases hans : w1.outside.bigQuery with
  | error err =>
    rw [hans] at hque
    rw [exec_bind_of_error hque]
  | ok rows =>
    rw [hans] at hque
    rw [exec_bind_ok hque]
    exact (leaves_storeCosts source first last rows).out _

section Outcome

variable (hooks) (account : Row) (key : String) (first first' last : Date) (w : World)

def takenFrom : Result Value × World :=
  exec (takeOver key (settingsOf account) (.text first'.text) (.text last.text)) w

def SameOutcome : Prop :=
  asked hooks (takenFrom account key first' last w).2 = asked hooks (exec (ingest account first last) w).2 ∧
    (if refreshes (takenFrom account key first' last w).2 then toldOf (takenFrom account key first' last w).1
      else (false, .int 0)) = toldBy (exec (ingest account first last) w).1

variable {account key first first' last}

theorem sameOutcome_iff_of_window (hkey : cell account "provider" = .text key) (hclo : key ∈ exportingClouds)
    (hwin : key = "aws" ∨ first.text = first'.text) :
    SameOutcome hooks account key first first' last w ↔
      ¬((takenFrom account key first' last w).1.isOk = true ∧
        refreshes (takenFrom account key first' last w).2 = false) := by
  have hsame : takenFrom account key first last w = takenFrom account key first' last w := by
    rcases hwin with rfl | htext
    · simp only [takenFrom, takeOver]
    · rw [takenFrom, takenFrom, htext]
  obtain ⟨hwor, htold⟩ := exec_ingest_of_cloud hkey hclo first last w
  rw [← takenFrom, hsame] at hwor htold
  rw [← toldOf_eq_iff, SameOutcome, hwor, htold]
  exact and_iff_right rfl

lemma sameOutcome_gcp_iff (hkey : cell account "provider" = .text "gcp") (hwin : first.text ≠ first'.text) :
    SameOutcome hooks account "gcp" first first' last w ↔
      (exec (reachBigQuery (settingsOf account)) w).1.isOk = false := by
  obtain ⟨hwor, htold⟩ := exec_ingest_of_cloud hkey (by decide) first last w
  rw [SameOutcome, hwor, htold]
  rcases hrea : exec (reachBigQuery (settingsOf account)) w with ⟨err | source, w1⟩
  · have hfai : ∀ day : Date, exec (takeOver "gcp" (settingsOf account) (.text day.text) (.text last.text)) w =
        (.error err, w1) := by
      intro day
      rw [takeOver_gcp, exec_bind_of_error hrea]
    rw [takenFrom, hfai, hfai]
    simp [toldOf, Except.isOk, Except.toBool]
  · refine iff_of_false ?_ (by simp [Except.isOk, Except.toBool])
    rintro ⟨hask, -⟩
    have hclo := congrArg (·.2.2.2) hask
    simp only [asked, takenFrom, clouds_takeOver_gcp hrea, costQuery] at hclo
    exact hwin (by simpa using hclo.symm)

lemma sameOutcome_other_iff (hoth : key ∉ exportingClouds) :
    SameOutcome hooks account key first first' last w ↔
      asked hooks (exec (ingest account first last) w).2 = asked hooks w ∧
        toldBy (exec (ingest account first last) w).1 = (refreshes { w with connected := false }, .int 0) := by
  have htak : takenFrom account key first' last w = (.ok (.int 0), { w with connected := false }) := by
    rw [takenFrom, takeOver_of_other hoth]
    rfl
  have htold : (if refreshes { w with connected := false } then toldOf (.ok (.int 0)) else (false, .int 0)) =
      (refreshes { w with connected := false }, .int 0) := by
    cases refreshes { w with connected := false } <;> rfl
  rw [SameOutcome, htak, htold]
  exact and_congr eq_comm eq_comm

end Outcome

lemma exists_exec_syncs {last : Date} (h : Holding c.param key front back account s)
    (hdays : syncDays c s.world.now.date = .ok (first, last))
    (hspan : syncSpan c s.world.now.date = .ok (.text first'.text, .text last.text)) :
    ∃ answer₁ answer₂ s₁ s₂, exec (syncCloudAccount c) s = (.ok answer₁, s₁) ∧
      exec (syncIntegration c) s = (.ok answer₂, s₂) ∧
      (Agree s.webhooks answer₁ answer₂ s₁ s₂ ↔ SameOutcome s.webhooks account key first first' last s.world) := by
  obtain ⟨answer₁, s₁, hexec₁, hrows1, hnot1, hwor1⟩ := exec_syncCloudAccount h hspan
  obtain ⟨answer₂, s₂, hexec₂, hrows2, hnot2, hask2⟩ := exec_syncIntegration h hdays
  refine ⟨answer₁, answer₂, s₁, s₂, hexec₁, hexec₂, ?_⟩
  obtain ⟨hask, htold⟩ := told_takeOverAccount s.webhooks h.isAccount.provider s.world
  rw [agree_iff hrows1 hnot1 hrows2 hnot2, hwor1, hask2, hask, htold]
  rfl

lemma exec_syncIntegration_of_error (h : Holding c.param key front back account s) {err : Fault}
    (hdays : syncDays c s.world.now.date = .error err) : exec (syncIntegration c) s = (.error err, s) := by
  rw [syncIntegration, integrationOf, exec_bind_ok (h.exec_byId _), exec_bind_ok (Handler.exec_today s),
    exec_bind_of_error (exec_liftM_of_eq hdays s)]

/-- Both endpoints for the synchronisation of an account answer, unless the window of a connector would start before
the first year. Their windows are the same if a first day is given or the last day is today. -/
theorem syncs_agree_iff {account : Row} {start? stop? : Option Date} {first' : Date} (hsound : s.store.sound = true)
    (haccount : account ∈ accounts s) (hisAccount : IsAccount c.param key account)
    (hstart : GivesDay c "start_date" start?) (hstop : GivesDay c "end_date" stop?)
    (hfirst' : firstDay start? s.world.now.date = .ok first') :
    let last := stop?.getD s.world.now.date
    let taken := takenFrom account key first' last s.world
    (∀ err, firstDay start? last = .error err → exec (syncIntegration c) s = (.error err, s)) ∧
    ∀ first, firstDay start? last = .ok first →
      let ingested := Run.exec (ingest account first last) s.world
      (first.text = first'.text ↔ start?.isSome = true ∨ s.world.now.date.daysTo last = 0) ∧
      ∃ answer₁ answer₂ s₁ s₂, exec (syncCloudAccount c) s = (.ok answer₁, s₁) ∧
        exec (syncIntegration c) s = (.ok answer₂, s₂) ∧
        (key ∈ exportingClouds → key = "aws" ∨ first.text = first'.text →
          (Agree s.webhooks answer₁ answer₂ s₁ s₂ ↔ ¬(taken.1.isOk = true ∧ refreshes taken.2 = false))) ∧
        (key = "gcp" → first.text ≠ first'.text →
          (Agree s.webhooks answer₁ answer₂ s₁ s₂ ↔
            (Run.exec (reachBigQuery (settingsOf account)) s.world).1.isOk = false)) ∧
        (key ∉ exportingClouds →
          (Agree s.webhooks answer₁ answer₂ s₁ s₂ ↔
            asked s.webhooks ingested.2 = asked s.webhooks s.world ∧
              toldBy ingested.1 = (refreshes { s.world with connected := false }, .int 0))) := by
  intro last taken
  obtain ⟨front, back, hrows⟩ := append_of_mem haccount
  have h : Holding c.param key front back account s := ⟨hsound, hrows, hisAccount⟩
  have hdays := syncDays_eq hstart hstop s.world.now.date
  have hspan := syncSpan_eq hstart hstop s.world.now.date
  rw [hfirst'] at hspan
  refine ⟨fun err herr => exec_syncIntegration_of_error h (by rw [hdays, herr]; rfl), fun first hfirst => ?_⟩
  rw [hfirst] at hdays
  obtain ⟨answer₁, answer₂, s₁, s₂, hexec₁, hexec₂, hagr⟩ := exists_exec_syncs h hdays hspan
  refine ⟨text_firstDay_eq_iff hfirst hfirst', answer₁, answer₂, s₁, s₂, hexec₁, hexec₂, ?_, ?_, ?_⟩
  · intro hclo hwin
    rw [hagr]
    exact sameOutcome_iff_of_window _ _ hisAccount.provider hclo hwin
  · rintro rfl hwin
    rw [hagr]
    exact sameOutcome_gcp_iff _ _ hisAccount.provider hwin
  · intro hoth
    rw [hagr]
    exact sameOutcome_other_iff _ _ hoth

def exportService : Service where
  world := { chargingWorld with outside := { chargingWorld.outside with
    bigQuery := .ok [.object [("cost", .int 5), ("usage_start_time", "2026-01-05")]] } }
  store := [integrationEntry "1" "gcp"]

def exportCall (query : Row) : Call where
  params := ["1"]
  query := query
  body := []
  given := []
  user := []

lemma isAccount_export : IsAccount "1" "gcp" (integrationEntry "1" "gcp").row where
  isRow := Store.isRow_fill _ _ _ _
  id := rfl
  provider := Store.same_text_iff.mp (by decide +kernel)
  known := by decide
  status := ⟨"active", by decide, Store.same_text_iff.mp (by decide +kernel)⟩

lemma firstDay_export : firstDay none exportService.world.now.date = .ok ⟨2025, 12, 16⟩ :=
  Result.eq_ok_of_toOption (by decide)

/-- Without days both endpoints take over the charge. -/
theorem syncs_agree_of_no_days :
    ∃ answer₁ answer₂ s₁ s₂, exec (syncCloudAccount (exportCall [])) exportService = (.ok answer₁, s₁) ∧
      exec (syncIntegration (exportCall [])) exportService = (.ok answer₂, s₂) ∧
      Agree [] answer₁ answer₂ s₁ s₂ := by
  have hno : ∀ name, GivesDay (exportCall []) name none := fun _ => rfl
  have href : refreshes (takenFrom (integrationEntry "1" "gcp").row "gcp" ⟨2025, 12, 16⟩
      exportService.world.now.date exportService.world).2 = true := by decide +kernel
  obtain ⟨-, hall⟩ := syncs_agree_iff (c := exportCall []) (s := exportService) (by decide) mem_cons_self
    isAccount_export (hno _) (hno _) firstDay_export
  obtain ⟨-, answer₁, answer₂, s₁, s₂, hexec₁, hexec₂, hclo, -, -⟩ := hall _ firstDay_export
  refine ⟨answer₁, answer₂, s₁, s₂, hexec₁, hexec₂, (hclo (by decide) (.inr rfl)).mpr ?_⟩
  rintro ⟨-, hfai⟩
  exact absurd (href.symm.trans hfai) (by decide)

/-- If only the last day is given, one endpoint asks BigQuery for a window that starts after it, and the other one for
the thirty days before it. -/
theorem syncs_disagree_of_last_day :
    ∃ answer₁ answer₂ s₁ s₂,
      exec (syncCloudAccount (exportCall [("end_date", "2025-12-10")])) exportService = (.ok answer₁, s₁) ∧
      exec (syncIntegration (exportCall [("end_date", "2025-12-10")])) exportService = (.ok answer₂, s₂) ∧
      ¬Agree [] answer₁ answer₂ s₁ s₂ := by
  have hread : Date.read (Date.text ⟨2025, 12, 10⟩) = .ok ⟨2025, 12, 10⟩ := Result.eq_ok_of_toOption (by decide)
  have hstop : GivesDay (exportCall [("end_date", "2025-12-10")]) "end_date" (some ⟨2025, 12, 10⟩) :=
    ⟨Store.same_text_iff.mp (by decide), hread⟩
  have hspan : syncSpan (exportCall [("end_date", "2025-12-10")]) exportService.world.now.date =
      .ok (.text (Date.text ⟨2025, 12, 16⟩), .text (Date.text ⟨2025, 12, 10⟩)) := by
    have hsta : GivesDay (exportCall [("end_date", "2025-12-10")]) "start_date" none := rfl
    rw [syncSpan_eq hsta hstop, firstDay_export]
    rfl
  have hdays : syncDays (exportCall [("end_date", "2025-12-10")]) exportService.world.now.date =
      .ok (⟨2025, 11, 10⟩, ⟨2025, 12, 10⟩) := Result.eq_ok_of_toOption (by decide)
  have hhol : Holding "1" "gcp" [] [] (integrationEntry "1" "gcp").row exportService :=
    ⟨by decide, rfl, isAccount_export⟩
  obtain ⟨answer₁, answer₂, s₁, s₂, hexec₁, hexec₂, hagr⟩ :=
    exists_exec_syncs (c := exportCall [("end_date", "2025-12-10")]) hhol hdays hspan
  refine ⟨answer₁, answer₂, s₁, s₂, hexec₁, hexec₂, fun h => ?_⟩
  have hrea := (sameOutcome_gcp_iff _ _ isAccount_export.provider (by decide)).mp (hagr.mp h)
  exact absurd hrea (by decide)

end Api

end CloudSpend
