import CloudSpend.Proofs.Api.Requests
import CloudSpend.Proofs.Connector.Ingest

/-! # What requests do to accounts -/

namespace CloudSpend

open Handler List Store Store.Column Table
open Store (Table cell textCell holds)

namespace Handler

variable {t : Table} {s s' : Service}

variable {test : Row → Bool} {row changes : Row} {what : String} {β : Type} {f : Row → Handler β} {b : β}

lemma exec_select_eq_ok {rs : List Row} (h : exec (select t test) s = (.ok rs, s')) :
    rs = s.store.select t test := by
  obtain ⟨found, s1, hfou, h⟩ := exec_bind_eq_ok.mp h
  cases hfou
  obtain ⟨hrea, -⟩ := Prod.mk.inj h
  unfold readable at hrea
  split at hrea
  · cases hrea
  · exact (Except.ok.inj hrea).symm

lemma exec_find?_eq_ok {column : String} {v : Value} (h : exec (find? t column v) s = (.ok (some row), s')) :
    s.store.select t (holds column v) = [row] := by
  obtain ⟨rs, s1, hsel, h⟩ := exec_bind_eq_ok.mp h
  obtain rfl := exec_select_eq_ok hsel
  unfold only? at h
  split at h
  · cases h
  · next one hone =>
      cases h
      exact hone
  · cases h

lemma exec_found_eq_ok {row? : Option Row} (h : exec (found what row?) s = (.ok row, s')) :
    row? = some row := by
  cases row? with
  | none => cases h
  | some found =>
    cases h
    rfl

lemma exec_byId_bind_eq_ok {id : String} (h : exec (byId t what id >>= f) s = (.ok b, s')) :
    ∃ row ∈ s.store.rows t, cell row "id" = .text id ∧ exec (f row) s = (.ok b, s') := by
  obtain ⟨row, s1, hrow, h⟩ := exec_bind_eq_ok.mp h
  rw [Leaves.eq hrow] at h
  obtain ⟨row?, s2, hfind, hfou⟩ := exec_bind_eq_ok.mp hrow
  rw [exec_found_eq_ok hfou] at hfind
  obtain ⟨hmem, hid⟩ := of_select_eq (exec_find?_eq_ok hfind)
  exact ⟨row, hmem, same_text_iff.mp hid, h⟩

lemma exec_byToken_bind_eq_ok {token : Value} (h : exec (byToken t token >>= f) s = (.ok b, s')) :
    ∃ row, s.store.Names t token row ∧ exec (f row) s = (.ok b, s') := by
  obtain ⟨row, s1, hrow, h⟩ := exec_bind_eq_ok.mp h
  rw [Leaves.eq hrow] at h
  obtain ⟨row?, s2, hfind, hfou⟩ := exec_bind_eq_ok.mp hrow
  rw [exec_found_eq_ok hfou] at hfind
  unfold findText? at hfind
  split at hfind
  · cases hfind
  · exact ⟨row, exec_find?_eq_ok hfind, h⟩

lemma exec_update_eq_ok {row' : Row} (h : exec (update t row changes) s = (.ok row', s')) :
    row' = t.revise s.world.now changes row ∧
      s' = { s with store := s.store.reviseWhere t (holds "id" (cell row "id")) s.world.now changes } := by
  unfold update at h
  rw [exec_bind_ok (exec_now s)] at h
  obtain ⟨_, s1, hsto, h⟩ := exec_bind_eq_ok.mp h
  obtain ⟨_, s2, hcha, h⟩ := exec_bind_eq_ok.mp h
  obtain ⟨_, s3, hrer, h⟩ := exec_bind_eq_ok.mp h
  cases h
  rw [Leaves.eq hsto] at hcha
  obtain ⟨store, hupd, rfl⟩ := exec_change_eq_ok hcha
  obtain ⟨-, rfl⟩ := checked_eq_ok.mp hupd
  exact ⟨rfl, Leaves.eq hrer⟩

lemma exec_update_of_plain (hs : s.store.sound = true) (hpla : Store.Plain t changes)
    (hsto : ∀ p ∈ changes, ∀ n, p.2 = .int n → isStored n = true)
    (hread : ∀ row' ∈ s.store.rows t, holds "id" (cell row "id") row' = true → t.strangeWord? (t.revise s.world.now changes row') = none) :
    exec (update t row changes) s = (.ok (t.revise s.world.now changes row),
      { s with store := s.store.reviseWhere t (holds "id" (cell row "id")) s.world.now changes }) := by
  have hreq : exec (requireStorable changes) s = (.ok (), s) := by
    unfold requireStorable
    rw [if_pos]
    · rfl
    all_goals grind
  have hcha : exec (change fun store => store.update t (cell row "id") s.world.now changes) s =
      (.ok (), { s with store := s.store.reviseWhere t (holds "id" (cell row "id")) s.world.now changes }) := by
    rw [exec_change, update_of_plain hs hpla]
  unfold update
  rw [exec_bind_ok (exec_now s), exec_bind_ok hreq, exec_bind_ok hcha]
  have hrer : exec (reread t row)
      { s with store := s.store.reviseWhere t (holds "id" (cell row "id")) s.world.now changes } =
      (.ok (), { s with store := s.store.reviseWhere t (holds "id" (cell row "id")) s.world.now changes }) := by
    have hdis : reread t row = select t (holds "id" (cell row "id")) >>= fun _ => pure ⟨⟩ := rfl
    rw [hdis, exec_bind_ok (exec_select ?_)]
    · rfl
    · rw [rows_reviseWhere]
      grind
  rw [exec_bind_ok hrer]
  rfl

lemma exec_insert_eq_ok {given : Row} (h : exec (insert t given) s = (.ok row, s')) :
    (∃ id, row = t.fill s.world.now id (t.stated given)) ∧ s'.store = s.store ++ [⟨t, row⟩] ∧
      s'.store.sound = true ∧ t.misfit? row = none := by
  obtain ⟨row1, s1, hrow, h⟩ := exec_bind_eq_ok.mp h
  obtain ⟨_, s2, hrer, h⟩ := exec_bind_eq_ok.mp h
  cases h
  rw [Leaves.eq hrer]
  obtain ⟨id, w, -, ⟨e, hrun⟩ | ⟨store, ⟨hins, hfits⟩, hrun⟩⟩ := exec_place t (t.stated given) s
  · rw [hrun] at hrow
    cases hrow
  · rw [hrun] at hrow
    cases hrow
    obtain ⟨hsou, rfl⟩ := checked_eq_ok.mp hins
    exact ⟨⟨id, rfl⟩, rfl, hsou, hfits⟩

end Handler

lemma Entries.get?_filter {es : Row} {key : String} {v : Value} {p : String × Value → Bool}
    (h : get? es key = some v) (hp : p (key, v) = true) : get? (es.filter p) key = some v := by
  unfold get? at h ⊢
  induction es with
  | nil => cases h
  | cons e es ih =>
    grind

namespace Api

open Handler (exec)

variable {e : Endpoint} {r : Request} {c : Call} {s s' : Service} {v : Value}

def accounts (s : Service) : List Row := s.store.rows .cloudAccounts

def revised (id : Value) (now : Timestamp) (changes : Row) (rows : List Row) : List Row :=
  rows.map fun row => if holds "id" id row then revise .cloudAccounts now changes row else row

variable {P : Row → Prop} {rows : List Row} {changes row given account : Row} {α : Type} {h : Handler α}
  {outcome : Result α} {status key : String}

lemma forall_revised (h : ∀ row ∈ rows, P row) {id : Value} {now : Timestamp}
    (hcha : ∀ row, P row → P (revise .cloudAccounts now changes row)) :
    ∀ row ∈ revised id now changes rows, P row := by
  intro row' hrow'
  obtain ⟨row, hrow, rfl⟩ := mem_map.mp hrow'
  split
  · exact hcha row (h row hrow)
  · exact h row hrow

lemma accounts_of_exec_revise {row' : Row} (h : exec (reviseCloudAccount row changes) s = (.ok row', s')) :
    row' = revise .cloudAccounts s.world.now changes row ∧
      accounts s' = revised (cell row "id") s.world.now changes (accounts s) ∧ s'.world = s.world := by
  obtain ⟨hrow, rfl⟩ := exec_update_eq_ok h
  exact ⟨hrow, rows_reviseWhere _ _ _ _ _, rfl⟩

lemma accounts_of_exec_discard_revise {u : PUnit}
    (h : exec (discard (reviseCloudAccount row changes)) s = (.ok u, s')) :
    accounts s' = revised (cell row "id") s.world.now changes (accounts s) := by
  obtain ⟨row', s1, hrun, hu⟩ := exec_bind_eq_ok.mp h
  cases hu
  exact (accounts_of_exec_revise hrun).2.1

instance (x : Run α) : Leaves accounts (liftM x : Handler α) := ⟨fun _ => rfl⟩

instance (event : String) (data : Row) : Leaves accounts (tell event data) := leaves_bind

lemma accounts_eq_of_leaves [hlea : Leaves accounts h] (hrun : exec h s = (outcome, s')) :
    accounts s' = accounts s := hlea.view_eq hrun

lemma normal_status (h : status ∈ syncStates.members) :
    (Store.CellKind.word syncStates).normal (.text status) = .text status := by
  have hall : ∀ a ∈ syncStates.members, (syncStates.find? a).getD a = a := by
    decide +kernel
  exact congrArg Value.text (hall status h)

lemma cell_status_revise (hrow : Table.IsRow .cloudAccounts row) (hsta : status ∈ syncStates.members)
    (h : Entries.get? changes "status" = some (.text status)) (now : Timestamp) :
    cell (revise .cloudAccounts now changes row) "status" = .text status :=
  cell_revise_of_text (c := .always "status" (.word syncStates) "pending") hrow
    (by simp [columns]) h (normal_status hsta) now

def blankKeys : List String := ["last_sync_at", "last_sync_rows", "sync_error", "workspace_id"]

structure IsNew (row : Row) : Prop where
  isRow : Table.IsRow .cloudAccounts row
  status : cell row "status" = "pending" ∨ cell row "status" = "active"
  blank : ∀ key ∈ blankKeys, cell row key = .null

lemma isNew_fill (now : Timestamp) (id : String)
    (hsta : Entries.get? given "status" = some (.text "pending") ∨ Entries.get? given "status" = some (.text "active"))
    (hbla : ∀ key ∈ blankKeys, Entries.get? given key = none) :
    IsNew (fill .cloudAccounts now id given) where
  isRow := isRow_fill _ _ _ _
  status := by
    have hcell := cell_fill_eq (t := .cloudAccounts)
      (c := .always "status" (.word syncStates) "pending") (by simp [columns]) now id given
    rw [show (always "status" (.word syncStates) "pending").name = "status" from rfl] at hcell
    rw [hcell]
    rcases hsta with hsta | hsta
    · exact .inl (by simpa [filled, always, hsta] using normal_status (by decide))
    · exact .inr (by simpa [filled, always, hsta] using normal_status (by decide))
  blank key hkey := by
    have hmay : ∃ kind, may key kind ∈ columns .cloudAccounts := by
      simp only [blankKeys, mem_cons, not_mem_nil, or_false] at hkey
      rcases hkey with rfl | rfl | rfl | rfl
      · exact ⟨.moment, by simp [columns]⟩
      · exact ⟨.text, by simp [columns]⟩
      · exact ⟨.text, by simp [columns]⟩
      · exact ⟨.identifier, by simp [columns]⟩
    obtain ⟨kind, hmem⟩ := hmay
    have hcell := cell_fill_eq hmem now id given
    rw [show (may key kind).name = key from rfl] at hcell
    rw [hcell]
    simp [filled, may, hbla key hkey]

inductive Edited (rows : List Row) : List Row → Prop where
  | same : Edited rows rows
  | added {row : Row} (hid : ∀ account ∈ rows, ∀ a, cell account "id" = .text a → cell row "id" ≠ .text a)
      (hrow : IsNew row) : Edited rows (rows ++ [row])
  | renamed (id : Value) (now : Timestamp) {changes : Row}
      (h : ∀ p ∈ changes, p.1 ∈ ["display_name", "connection_config"]) :
      Edited rows (revised id now changes rows)
  | disconnected (id : Value) (now : Timestamp) :
      Edited rows (revised id now [("status", "disconnected")] rows)

lemma Edited.forall {rows' : List Row} (hedi : Edited rows rows') (h : ∀ row ∈ rows, P row)
    (hnew : ∀ row, IsNew row → P row)
    (hren : ∀ row now changes, (∀ p ∈ changes, p.1 ∈ ["display_name", "connection_config"]) → P row → P (revise .cloudAccounts now changes row))
    (hdis : ∀ row now, P row → P (revise .cloudAccounts now [("status", "disconnected")] row)) :
    ∀ row ∈ rows', P row := by
  cases hedi with
  | same => exact h
  | added _ hrow =>
    grind
  | renamed id now hcha => exact forall_revised h fun row hrow => hren row now _ hcha hrow
  | disconnected id now => exact forall_revised h fun row hrow => hdis row now hrow

lemma cell_of_renamed (h : ∀ p ∈ changes, p.1 ∈ ["display_name", "connection_config"])
    (hkey : key ∉ ["display_name", "connection_config", "updated_at"]) (now : Timestamp) :
    cell (revise .cloudAccounts now changes row) key = cell row key := by
  simp only [mem_cons, not_mem_nil, or_false, not_or] at h hkey
  refine cell_revise_of_none hkey.2.2 (lookup_eq_none_iff.mpr fun p hp => ?_) now
  grind

lemma edited_of_leaves (_ : Leaves accounts h) (hrun : exec h s = (outcome, s')) :
    Edited (accounts s) (accounts s') := by
  rw [accounts_eq_of_leaves hrun]
  exact .same

lemma edited_of_exec_insert (h : exec (Handler.insert .cloudAccounts given) s = (.ok row, s'))
    (hsta : Entries.get? given "status" = some (.text "pending") ∨ Entries.get? given "status" = some (.text "active"))
    (hbla : ∀ p ∈ given, p.1 ∉ blankKeys) : Edited (accounts s) (accounts s') := by
  obtain ⟨⟨id, rfl⟩, hsto, hsou, -⟩ := exec_insert_eq_ok h
  have hrows : accounts s' = accounts s ++
      [fill .cloudAccounts s.world.now id (stated .cloudAccounts given)] := by
    simp [accounts, hsto, Store.rows]
  rw [hrows]
  refine .added (fun account hacc a hid => ?_) (isNew_fill _ _ ?_ fun key hkey => ?_)
  · rw [hsto] at hsou
    exact ne_of_hasKey_append (hasKey_of_sound hsou (by decide)) (mem_rows.mp hacc) hid
  · exact hsta.imp (fun h => Entries.get?_filter h (by decide)) fun h => Entries.get?_filter h (by decide)
  · cases hget : Entries.get? (stated .cloudAccounts given) key with
    | none => rfl
    | some v => exact absurd hkey (hbla _ (mem_of_mem_filter (Entries.mem_of_get? hget)))

def syncPaths : List String := ["/api/v2/cloud_accounts/:id/sync", "/api/v2/integrations/:id/sync"]

lemma edited_of_mem_cloudAccountEndpoints (he : e ∈ cloudAccountEndpoints) (hpath : e.path ∉ syncPaths)
    (htak : e.Takes r c) (hrun : exec (e.run c) s = (.ok v, s')) : Edited (accounts s) (accounts s') := by
  simp only [cloudAccountEndpoints, mem_cons, not_mem_nil, or_false] at he
  rcases he with rfl | rfl | rfl | rfl | rfl | rfl
  · exact edited_of_leaves leaves_bind hrun
  · -- the body of the request has no field on synchronisations
    dsimp only [addCloudAccount] at hrun
    split at hrun
    · simp at hrun
    · obtain ⟨row, s1, hins, hrun⟩ := exec_bind_eq_ok.mp hrun
      rw [accounts_eq_of_leaves hrun]
      refine edited_of_exec_insert hins (.inl rfl) fun p hp => ?_
      rcases mem_cons.mp hp with rfl | hp
      · decide
      · obtain ⟨shape, default, hfie, -⟩ := entry_of_takes htak rfl hp
        simp only [mem_cons, not_mem_nil, or_false, Form.required, Form.maybe, Form.withDefault,
          Prod.mk.injEq] at hfie
        rcases hfie with ⟨hname, -⟩ | ⟨hname, -⟩ | ⟨hname, -⟩ | ⟨hname, -⟩ <;> rw [hname] <;> decide
  · exact edited_of_leaves leaves_bind hrun
  · obtain ⟨row, -, -, hrun⟩ := exec_byId_bind_eq_ok hrun
    obtain ⟨row', s2, hrev, hrun⟩ := exec_bind_eq_ok.mp hrun
    rw [accounts_eq_of_leaves hrun, (accounts_of_exec_revise hrev).2.1]
    refine .renamed _ _ fun p hp => ?_
    obtain ⟨shape, default, hfie, -⟩ := entry_of_takes htak rfl (mem_of_mem_filter hp)
    simp only [mem_cons, not_mem_nil, or_false, Form.maybe, Prod.mk.injEq] at hfie ⊢
    grind
  · obtain ⟨row, -, -, hrun⟩ := exec_byId_bind_eq_ok hrun
    obtain ⟨_, s2, hrev, hrun⟩ := exec_bind_eq_ok.mp hrun
    cases hrun
    rw [accounts_of_exec_discard_revise hrev]
    exact .disconnected _ _
  · exact absurd (by decide) hpath

lemma edited_of_exec_connectProvider (hrun : exec (connectProvider c) s = (.ok v, s')) :
    Edited (accounts s) (accounts s') := by
  unfold connectProvider at hrun
  dsimp only at hrun
  split at hrun
  · cases hrun
  · split at hrun
    · simp at hrun
    · obtain ⟨outcome, s1, hche, hrun⟩ := exec_bind_eq_ok.mp hrun
      have hsame := accounts_eq_of_leaves hche
      split at hrun
      · cases hrun
      · split at hrun
        · simp at hrun
        · obtain ⟨row, s2, hins, hrun⟩ := exec_bind_eq_ok.mp hrun
          obtain ⟨_, s3, htell, hrun⟩ := exec_bind_eq_ok.mp hrun
          rw [accounts_eq_of_leaves hrun, accounts_eq_of_leaves htell, ← hsame]
          exact edited_of_exec_insert hins (.inr rfl) (by simp [blankKeys])

lemma edited_of_mem_integrationEndpoints (he : e ∈ integrationEndpoints) (hpath : e.path ∉ syncPaths)
    (hrun : exec (e.run c) s = (.ok v, s')) : Edited (accounts s) (accounts s') := by
  simp only [integrationEndpoints, mem_cons, not_mem_nil, or_false] at he
  rcases he with rfl | rfl | rfl | rfl | rfl | rfl
  · exact edited_of_leaves (leaves_pure _) hrun
  · exact edited_of_leaves leaves_bind hrun
  · exact edited_of_exec_connectProvider hrun
  · exact edited_of_leaves leaves_bind hrun
  · exact absurd (by decide) hpath
  · obtain ⟨row, -, -, hrun⟩ := exec_byId_bind_eq_ok hrun
    obtain ⟨_, s1, hrev, hrun⟩ := exec_bind_eq_ok.mp hrun
    obtain ⟨_, s2, htell, hrun⟩ := exec_bind_eq_ok.mp hrun
    cases hrun
    rw [accounts_eq_of_leaves htell, accounts_of_exec_discard_revise hrev]
    exact .disconnected _ _

lemma edited_of_served (h : Served r e c) (hpath : e.path ∉ syncPaths)
    (hrun : exec (e.run c) s = (.ok v, s')) : Edited (accounts s) (accounts s') := by
  rcases leaves_rows_or_mem_group .cloudAccounts (mem_of_route h.route) with hlea | ⟨g, hg, he⟩
  · exact edited_of_leaves (hlea c) hrun
  · have hgro : groups.filter (·.2.contains .cloudAccounts) =
        [(cloudAccountEndpoints, [.cloudAccounts]), (integrationEndpoints, [.cloudAccounts])] := rfl
    simp only [hgro, mem_cons, not_mem_nil, or_false] at hg
    rcases hg with rfl | rfl
    · exact edited_of_mem_cloudAccountEndpoints he hpath h.takes hrun
    · exact edited_of_mem_integrationEndpoints he hpath hrun

def ingestionOutcome : Result Connector.Ingestion → Except String Value
  | .error err => .error err.message
  | .ok outcome => if outcome.succeeded then .ok outcome.rows else .error outcome.message

def takeOverAccount (account : Row) (first last : Value) : Run Value := do
  let rows ← takeOver (textCell account "provider") (settingsOf account) first last
  Analytics.refresh
  return rows

def OfSettings (x : Row → Run α) : Prop :=
  ∀ {row row'}, cell row "provider" = cell row' "provider" →
    cell row "connection_config" = cell row' "connection_config" → x row = x row'

lemma ofSettings_ingest (first last : Date) : OfSettings fun row => ingest row first last := by
  intro row row' hpro hset
  simp only [ingest, settingsOf, textCell, hpro, hset]

lemma ofSettings_takeOverAccount (first last : Value) : OfSettings fun row => takeOverAccount row first last := by
  intro row row' hpro hset
  simp only [takeOverAccount, settingsOf, textCell, hpro, hset]

inductive Fetched (account : Row) (w : World) : Except String Value → Prop where
  | ingested (first last : Date) :
      Fetched account w (ingestionOutcome (Run.exec (ingest account first last) w).1)
  | takenOver (first last : Value) :
      Fetched account w ((Run.exec (takeOverAccount account first last) w).1.mapError Fault.message)

def concludedCells (now : Timestamp) : Except String Value → Row
  | .ok rows => syncedCells now rows
  | .error message => failedCells message

inductive Synced (s : Service) (id : String) : List Row → Prop where
  | intro {account : Row} (haccount : account ∈ accounts s) (hid : cell account "id" = .text id)
      {outcome : Except String Value} (hfetched : Fetched account s.world outcome) (now : Timestamp) :
      Synced s id (revised (.text id) now (concludedCells now outcome)
        (revised (.text id) s.world.now [("status", "syncing")] (accounts s)))

lemma cell_of_syncing (now : Timestamp) (hkey : key ∈ ["id", "provider", "connection_config"]) :
    cell (revise .cloudAccounts now [("status", "syncing")] account) key = cell account key := by
  simp only [mem_cons, not_mem_nil, or_false] at hkey
  rcases hkey with rfl | rfl | rfl <;> exact cell_revise_of_none (by decide) rfl now

lemma accounts_of_exec_concludeSync {outcome : Result Connector.Ingestion}
    (h : exec (concludeSync c row outcome) s = (.ok v, s')) :
    accounts s' = revised (cell row "id") s.world.now (concludedCells s.world.now (ingestionOutcome outcome))
      (accounts s) := by
  cases outcome with
  | error err =>
    obtain ⟨_, s1, hrev, h⟩ := exec_bind_eq_ok.mp h
    cases h
    exact accounts_of_exec_discard_revise hrev
  | ok outcome =>
    rw [concludeSync, exec_bind_ok (exec_now s)] at h
    obtain ⟨_, s1, hrev, h⟩ := exec_bind_eq_ok.mp h
    obtain ⟨_, s2, href, h⟩ := exec_bind_eq_ok.mp h
    obtain ⟨_, s3, htell, h⟩ := exec_bind_eq_ok.mp h
    cases h
    rw [accounts_eq_of_leaves htell, accounts_eq_of_leaves href, accounts_of_exec_discard_revise hrev]
    cases hsuc : outcome.succeeded <;> simp [ingestionOutcome, concludedCells, hsuc]

theorem synced_of_exec_syncing {id : String} {x : Row → Run α} {told : Result α → Except String Value}
    {conclude : Row → Result α → Handler Value} (hacc : account ∈ accounts s)
    (hid : cell account "id" = .text id) (hx : OfSettings x)
    (hfet : Fetched account s.world (told (Run.exec (x account) s.world).1))
    (hcon : ∀ {row outcome s v s'}, exec (conclude row outcome) s = (.ok v, s') → accounts s' = revised (cell row "id") s.world.now (concludedCells s.world.now (told outcome)) (accounts s))
    (h : exec (reviseCloudAccount account [("status", "syncing")] >>= fun row => liftM (Run.attempt (x row)) >>= conclude row) s = (.ok v, s')) :
    Synced s id (accounts s') := by
  obtain ⟨row, s1, hrev, h⟩ := exec_bind_eq_ok.mp h
  obtain ⟨hrow, hsyn, hwor⟩ := accounts_of_exec_revise hrev
  have hcell : ∀ key ∈ ["id", "provider", "connection_config"], cell row key = cell account key := by
    rw [hrow]
    exact fun key hkey => cell_of_syncing _ hkey
  obtain ⟨outcome, s2, hatt, h⟩ := exec_bind_eq_ok.mp h
  have hsame := accounts_eq_of_leaves hatt
  rw [exec_liftM_run, Run.exec_attempt, hwor, hx (hcell _ (by decide)) (hcell _ (by decide))] at hatt
  obtain ⟨hout, -⟩ := Prod.mk.inj hatt
  rw [hcon h, hsame, hsyn, hcell "id" (by decide), hid, ← Except.ok.inj hout]
  exact .intro hacc hid hfet _

lemma synced_of_exec_syncIntegration (h : exec (syncIntegration c) s = (.ok v, s')) :
    Synced s c.param (accounts s') := by
  obtain ⟨account, hacc, hid, h⟩ := exec_byId_bind_eq_ok h
  rw [exec_bind_ok (exec_today s)] at h
  obtain ⟨⟨first, last⟩, -, h⟩ := exec_liftM_bind_eq_ok h
  exact synced_of_exec_syncing hacc hid (ofSettings_ingest first last) (.ingested first last)
    accounts_of_exec_concludeSync h

lemma synced_of_exec_syncCloudAccount (h : exec (syncCloudAccount c) s = (.ok v, s')) :
    Synced s c.param (accounts s') := by
  obtain ⟨account, hacc, hid, h⟩ := exec_byId_bind_eq_ok h
  rw [exec_bind_ok (exec_today s)] at h
  obtain ⟨⟨first, last⟩, -, h⟩ := exec_liftM_bind_eq_ok h
  refine synced_of_exec_syncing hacc hid (ofSettings_takeOverAccount first last) (.takenOver first last) ?_ h
  intro row outcome s v s' h
  cases outcome with
  | ok rows =>
    rw [exec_bind_ok (exec_now s)] at h
    obtain ⟨_, s3, hrev, h⟩ := exec_bind_eq_ok.mp h
    cases h
    exact accounts_of_exec_discard_revise hrev
  | error err =>
    obtain ⟨_, s3, hrev, h⟩ := exec_bind_eq_ok.mp h
    cases h
    exact accounts_of_exec_discard_revise hrev

def accountPaths : List String := ["/api/v2/cloud_accounts/:id", "/api/v2/integrations/:id"]

lemma mem_endpoints_of_account (he : e ∈ cloudAccountEndpoints ∨ e ∈ integrationEndpoints) : e ∈ endpoints := by
  rcases he with he | he <;> simp only [endpoints, mem_append, he, or_true, true_or]

lemma sync_of_mem (he : e ∈ endpoints) (hpath : e.path ∈ syncPaths) :
    e.signedIn = false ∧ e.status = 200 ∧ (e.run = syncCloudAccount ∨ e.run = syncIntegration) := by
  have hall : ∀ e ∈ endpoints, e.path ∈ syncPaths → e.method = "POST" := by decide +kernel
  have hmet := hall e he hpath
  simp only [syncPaths, mem_cons, not_mem_nil, or_false] at hpath
  rcases hpath with hpath | hpath
  · obtain rfl := eq_of_path he
      (mem_endpoints_of_account (.inl (get_mem cloudAccountEndpoints ⟨5, by decide⟩))) hmet hpath
    exact ⟨rfl, rfl, .inl rfl⟩
  · obtain rfl := eq_of_path he
      (mem_endpoints_of_account (.inr (get_mem integrationEndpoints ⟨4, by decide⟩))) hmet hpath
    exact ⟨rfl, rfl, .inr rfl⟩

lemma synced_of_served (h : Served r e c) (hpath : e.path ∈ syncPaths)
    (hrun : exec (e.run c) s = (.ok v, s')) : Synced s c.param (accounts s') := by
  rcases (sync_of_mem (mem_of_route h.route) hpath).2.2 with hsync | hsync
  · rw [hsync] at hrun
    exact synced_of_exec_syncCloudAccount hrun
  · rw [hsync] at hrun
    exact synced_of_exec_syncIntegration hrun

def Request.syncs (r : Request) (id : String) : Bool :=
  match route endpoints r with
  | .ok (e, params) => syncPaths.contains e.path && params.headD "" == id
  | .error _ => false

def Request.disconnects (r : Request) (id : String) : Bool :=
  match route endpoints r with
  | .ok (e, params) => e.method == "DELETE" && accountPaths.contains e.path && params.headD "" == id
  | .error _ => false

theorem accounts_answer (s : Service) (r : Request) :
    Edited (accounts s) (accounts (answer endpoints s r).2) ∨
      ∃ id response, r.syncs id = true ∧ (answer endpoints s r).1 = .ok response ∧ response.status = 200 ∧
        Synced s id (accounts (answer endpoints s r).2) := by
  have hans := answered s r
  generalize answer endpoints s r = answered at hans ⊢
  cases hans with
  | elsewhere | unknown | aside | failed => exact .inl .same
  | @done e c v s' response hser hrun hrep =>
    by_cases hpath : e.path ∈ syncPaths
    · refine .inr ⟨c.param, response, ?_, rfl, ?_, synced_of_served hser hpath hrun⟩
      · simp [Request.syncs, hser.route, hpath, Call.param]
      · rw [Endpoint.status_of_reply hrep, (sync_of_mem (mem_of_route hser.route) hpath).2.1]
    · exact .inl (edited_of_served hser hpath hrun)

def afterSteps (s : Service) (steps : List (World × Request)) : Service :=
  steps.foldl (fun s step => (answer endpoints { s with world := step.1 } step.2).2) s

lemma afterSteps_cons (s : Service) (w : World) (r : Request) (steps : List (World × Request)) :
    afterSteps s ((w, r) :: steps) = afterSteps (answer endpoints { s with world := w } r).2 steps :=
  rfl

lemma afterSteps_append (s : Service) (steps steps' : List (World × Request)) :
    afterSteps s (steps ++ steps') = afterSteps (afterSteps s steps) steps' :=
  foldl_append

lemma afterSteps_invariant {P : Service → Prop}
    (hstep : ∀ s w r, P s → P (answer endpoints { s with world := w } r).2) (h : P s)
    (steps : List (World × Request)) : P (afterSteps s steps) := by
  induction steps generalizing s with
  | nil => exact h
  | cons step steps ih => exact ih (hstep s step.1 step.2 h)

def syncRequest : Request where
  method := "POST"
  path := "/api/v2/integrations/1/sync"

def disconnectRequest : Request where
  method := "DELETE"
  path := "/api/v2/integrations/1"

lemma route_syncRequest : route endpoints syncRequest = .ok ({
    method := "POST"
    path := "/api/v2/integrations" ++ "/:id" ++ "/sync"
    query := syncFields
    run := syncIntegration }, ["1"]) :=
  route_of_mem (mem_endpoints_of_account (.inr (by simp [integrationEndpoints]))) rfl (by decide)

lemma route_disconnectRequest : route endpoints disconnectRequest = .ok ({
    method := "DELETE"
    path := "/api/v2/integrations" ++ "/:id"
    run := disconnectIntegration }, ["1"]) :=
  route_of_mem (mem_endpoints_of_account (.inr (by simp [integrationEndpoints]))) rfl (by decide)

lemma answer_syncRequest (s : Service) : answer endpoints s syncRequest =
    let done := s.transact (Endpoint.serve {
      method := "POST"
      path := "/api/v2/integrations" ++ "/:id" ++ "/sync"
      query := syncFields
      run := syncIntegration } ["1"] syncRequest)
    (reply done.1, done.2) :=
  answer_of_route (isElsewhere_of_route route_syncRequest) route_syncRequest s

lemma answer_disconnectRequest (s : Service) : answer endpoints s disconnectRequest =
    let done := s.transact (Endpoint.serve {
      method := "DELETE"
      path := "/api/v2/integrations" ++ "/:id"
      run := disconnectIntegration } ["1"] disconnectRequest)
    (reply done.1, done.2) :=
  answer_of_route (isElsewhere_of_route route_disconnectRequest) route_disconnectRequest s

end Api

end CloudSpend
