import CloudSpend.Proofs.Api.Accounts

/-! # References lead to rows -/

namespace CloudSpend

open Handler List Store Access.Session
open Store (Table Entry cell holds)

def Handler.KeepsSound {α : Type} (h : Handler α) : Prop :=
  ∀ s, s.store.sound = true → (exec h s).2.store.sound = true

lemma Leaves.keepsSound {α : Type} {h : Handler α} (hh : Leaves Service.store h) : KeepsSound h :=
  fun s hs => (congrArg Store.sound (hh.out s)).trans hs

namespace Handler

variable {α β : Type} {ts : List Table}

lemma KeepsSound.bind {x : Handler α} {f : α → Handler β} (hx : KeepsSound x) (hf : ∀ a, KeepsSound (f a)) :
    KeepsSound (x >>= f) := by
  intro s hs
  have hfir := hx s hs
  rw [exec_bind]
  rcases hrun : exec x s with ⟨e | a, s1⟩
  · rwa [hrun] at hfir
  · rw [hrun] at hfir
    exact hf a s1 hfir

variable {h : Handler α}

lemma keepsSound_change {f : Store → Result Store} (hf : ∀ {s s'}, f s = .ok s' → s'.sound = true) :
    KeepsSound (change f) := by
  intro s hs
  rw [exec_change]
  cases h : f s.store with
  | error e => exact hs
  | ok store => exact hf h

lemma Built.keepsSound (hh : Built ts h) : KeepsSound h := by
  induction hh with
  | asks hh =>
    intro s hs
    obtain ⟨w, hw⟩ := hh s
    rw [hw]
    exact hs
  | bind _ _ hx hf => exact hx.bind hf
  | @insert t _ given =>
    have hpla : KeepsSound (place t (t.stated given)) := by
      intro s hs
      obtain ⟨id, w, -, ⟨e, hrun⟩ | ⟨store, ⟨hins, -⟩, hrun⟩⟩ := exec_place t (t.stated given) s
      · rw [hrun]
        exact hs
      · rw [hrun]
        obtain ⟨hsou, rfl⟩ := checked_eq_ok.mp hins
        exact hsou
    exact hpla.bind fun _ => leaves_bind.keepsSound
  | @update t _ row changes =>
    refine leaves_now.keepsSound.bind fun _ => (leaves_requireStorable _).keepsSound.bind fun _ => ?_
    refine (keepsSound_change fun h => ?_).bind fun _ => leaves_bind.keepsSound
    obtain ⟨hsou, rfl⟩ := checked_eq_ok.mp h
    exact hsou
  | @delete t _ row =>
    refine leaves_now.keepsSound.bind fun _ => keepsSound_change fun h => ?_
    obtain ⟨-, -, hsou, rfl⟩ := delete_eq_ok.mp h
    exact hsou

end Handler

namespace Api

open Handler (exec Built KeepsSound)

variable {e : Endpoint} {r : Request} {c : Call} {s s' : Service}

lemma keepsSound_of_mem (he : e ∈ endpoints) (c : Call) : KeepsSound (e.run c) := by
  rcases group_of_mem he with ⟨g, hg, he⟩ | hbui | ⟨hrun, -⟩ | ⟨hrun, -⟩ | ⟨hrun, -⟩
  · exact (built_of_mem_group hg (fun _ _ => not_mem_nil) he c).keepsSound
  · exact (hbui [] c).keepsSound
  all_goals rw [hrun]
  · exact (leaves_pushReport c).keepsSound
  · exact (leaves_addWebhook c).keepsSound
  · exact (leaves_removeWebhook c).keepsSound

lemma sound_answer (hs : s.store.sound = true) (r : Request) : (answer endpoints s r).2.store.sound = true := by
  have hans := answered s r
  generalize answer endpoints s r = answered at hans ⊢
  cases hans with
  | elsewhere | unknown | aside | failed => exact hs
  | @done e c v s' response hser hrun hrep =>
    have hsou := keepsSound_of_mem (mem_of_route hser.route) c s hs
    rwa [hrun] at hsou

def Unplaced (rows : List Row) : Prop := ∀ row ∈ rows, cell row "workspace_id" = .null

variable {rows' : List Row} {id message token : String} {t : Table} {store : Store} {v : Value}

lemma unplaced_of_edited {rows : List Row} (h : Unplaced rows) (hedi : Edited rows rows') :
    Unplaced rows' := by
  refine hedi.forall h (fun _ hnew => hnew.blank _ (by decide)) ?_ ?_
  · intro row now changes hcha hrow
    rw [cell_of_renamed hcha (by decide), hrow]
  · intro row now hrow
    rw [cell_revise_of_none (by decide) rfl, hrow]

lemma unplaced_of_synced (h : Unplaced (accounts s)) (hsyn : Synced s id rows') : Unplaced rows' := by
  have hcon : ∀ now outcome, Entries.get? (concludedCells now outcome) "workspace_id" = none := by
    intro now outcome
    cases outcome <;> rfl
  cases hsyn with
  | intro hacc hid hfet now =>
    refine forall_revised (forall_revised h fun row hrow => ?_) fun row hrow => ?_
    · rw [cell_revise_of_none (by decide) rfl, hrow]
    · rw [cell_revise_of_none (by decide) (hcon _ _), hrow]

lemma unplaced_answer (h : Unplaced (accounts s)) (r : Request) : Unplaced (accounts (answer endpoints s r).2) := by
  rcases accounts_answer s r with hedi | ⟨id, response, -, -, -, hsyn⟩
  · exact unplaced_of_edited h hedi
  · exact unplaced_of_synced h hsyn

def references : List (Table × String × Table) :=
  (Table.all.flatMap fun t => t.columns.filterMap fun c => c.target.map fun u => (t, c.name, u)) ++
    [(.cloudAccounts, "workspace_id", .workspaces)]

example : ∀ q ∈ [(.costReports, "folder_id", .folders), (.costReports, "saved_filter_id", .savedFilters),
    (.folders, "parent_folder_id", .folders), (.segments, "parent_segment_id", .segments),
    (.accessGrants, "team_id", .teams), (.unitCosts, "cost_report_id", .costReports)], q ∈ references := by decide

lemma mem_references {u : Table} {column : String} (h : (t, column, u) ∈ references) :
    (∃ c ∈ t.columns, c.name = column ∧ c.target = some u) ∨
      (t = .cloudAccounts ∧ column = "workspace_id" ∧ u = .workspaces) := by
  simp only [references, mem_append, mem_flatMap, mem_filterMap, Option.map_eq_some_iff,
    mem_singleton, Prod.mk.injEq] at h
  grind

def Complete (store : Store) : Prop :=
  ∀ t column u, (t, column, u) ∈ references → ∀ row ∈ store.rows t,
    cell row column = .null ∨ ∃ row' ∈ store.rows u, holds "id" (cell row column) row' = true

lemma complete_of_sound (hs : s.store.sound = true) (hunp : Unplaced (accounts s)) : Complete s.store := by
  intro t column u href row hrow
  rcases mem_references href with ⟨c, hc, rfl, htar⟩ | ⟨rfl, rfl, rfl⟩
  · cases hnull : (cell row c.name).isNull with
    | true => exact .inl (isNull_iff.mp hnull)
    | false =>
      right
      obtain ⟨row', hrow', hid⟩ := exists_of_sound hs (mem_rows.mp hrow) hc htar hnull
      exact ⟨row', mem_rows.mpr hrow', hid⟩
  · exact .inl (hunp row hrow)

def deletion (t : Table) (message : String) (c : Call) : Handler Value := do
  delete t (← byToken t (.text c.param))
  return done message

structure Vanished (t : Table) (id : Value) (store : Store) : Prop where
  row : ∀ row ∈ store.rows t, holds "id" id row = false
  reference : ∀ u column, (u, column, t) ∈ references → ∀ row ∈ store.rows u, cell row column ≠ id

lemma ne_null_of_sound (hs : store.sound = true) {row : Row} (hrow : row ∈ store.rows t) {c : Store.Column}
    (hc : c ∈ t.columns) (hreq : c.required = true) : cell row c.name ≠ .null := by
  intro hnull
  have hadm := admits_of_sound hs (mem_rows.mp hrow) hc
  simp [Store.Column.admits, hnull, Value.isNull, hreq] at hadm

lemma vanished_of_left {id : Value} {now : Timestamp} (hid : id ≠ .null)
    (hcom : Complete (store.left t id now)) : Vanished t id (store.left t id now) where
  row row hrow := not_holds_id_of_mem_left (mem_rows.mp hrow)
  reference u column href row hrow hcell := by
    rcases hcom u column t href row hrow with hnull | ⟨row', hrow', hheld⟩
    · exact hid (hcell.symm.trans hnull)
    · rw [hcell, not_holds_id_of_mem_left (mem_rows.mp hrow')] at hheld
      cases hheld

lemma exec_deletion_eq_ok (h : exec (deletion t message c) s = (.ok v, s')) :
    ∃ row, s.store.Names t (.text c.param) row ∧ s'.store = s.store.left t (cell row "id") s.world.now := by
  obtain ⟨row, hnam, h⟩ := exec_byToken_bind_eq_ok h
  obtain ⟨_, s1, hdel, h⟩ := exec_bind_eq_ok.mp h
  cases h
  rw [Handler.delete, exec_bind_ok (exec_now s)] at hdel
  obtain ⟨store, hleft, rfl⟩ := exec_change_eq_ok hdel
  exact ⟨row, hnam, (delete_eq_ok.mp hleft).2.2.2⟩

lemma vanished_of_exec_deletion (hid : ∃ c ∈ t.columns, c.name = "id" ∧ c.required = true)
    (hs : s.store.sound = true) (h : exec (deletion t message c) s = (.ok v, s'))
    (hcom : Complete s'.store) :
    ∃ row ∈ s.store.rows t, cell row "token" = .text c.param ∧ Vanished t (cell row "id") s'.store := by
  obtain ⟨row, hnam, hleft⟩ := exec_deletion_eq_ok h
  obtain ⟨hrow, htok⟩ := of_select_eq hnam
  obtain ⟨column, hcol, hname, hreq⟩ := hid
  have hfil := ne_null_of_sound hs hrow hcol hreq
  rw [hname] at hfil
  rw [hleft] at hcom ⊢
  exact ⟨row, hrow, same_text_iff.mp htok, vanished_of_left hfil hcom⟩

def deletions : List (Table × String × String) :=
  [(.workspaces, "/api/v2/workspaces/:token", "Workspace deleted"),
   (.folders, "/api/v2/folders/:token", "Folder deleted"),
   (.segments, "/api/v2/segments/:token", "Segment deleted"),
   (.teams, "/api/v2/teams/:token", "Team deleted"),
   (.savedFilters, "/api/v2/saved_filters/:token", "Saved filter deleted"),
   (.costReports, "/api/v2/cost_reports/:token", "Cost report deleted")]

def deletionEndpoint (t : Table) (path message : String) : Endpoint :=
  { method := "DELETE", path, signedIn := true, run := deletion t message }

lemma mem_endpoints_of_resource {res : Resource} (hres : res ∈ resources) (he : e ∈ res.endpoints) :
    e ∈ endpoints := by
  have hall : e ∈ resourceEndpoints := by
    simp only [resourceEndpoints, mem_append]
    exact .inl (.inr (mem_flatMap.mpr ⟨res, hres, he⟩))
  simp only [endpoints, mem_append]
  simp only [hall, true_or, or_true]

lemma deletionEndpoint_mem_endpoints (res : Resource) (hdel : res.deleted = some message) :
    deletionEndpoint res.table (res.path ++ "/:token") message ∈ res.endpoints := by
  simp only [Resource.endpoints, hdel, Option.toList_some, map_cons, map_nil, mem_append]
  exact .inr (mem_singleton.mpr rfl)

lemma deletionEndpoint_mem : ∀ q ∈ deletions, deletionEndpoint q.1 q.2.1 q.2.2 ∈ endpoints := by
  intro q hq
  simp only [deletions, mem_cons, not_mem_nil, or_false] at hq
  rcases hq with rfl | rfl | rfl | rfl | rfl | rfl
  · have hmem : deletionEndpoint .workspaces "/api/v2/workspaces/:token" "Workspace deleted" ∈ workspaceEndpoints := by
      simp only [workspaceEndpoints, mem_cons]
      exact .inr (.inr (.inr (.inr (.inl rfl))))
    simp only [endpoints, resourceEndpoints, mem_append, hmem, true_or, or_true]
  · exact mem_endpoints_of_resource (by simp [resources]) (deletionEndpoint_mem_endpoints folders rfl)
  · exact mem_endpoints_of_resource (by simp [resources]) (deletionEndpoint_mem_endpoints segments rfl)
  · exact mem_endpoints_of_resource (by simp [resources]) (deletionEndpoint_mem_endpoints teams rfl)
  · exact mem_endpoints_of_resource (by simp [resources]) (deletionEndpoint_mem_endpoints savedFilters rfl)
  · exact mem_endpoints_of_resource (by simp [resources]) (deletionEndpoint_mem_endpoints costReports rfl)

lemma eq_deletionEndpoint {q : Table × String × String} (hq : q ∈ deletions) (he : e ∈ endpoints)
    (hmet : e.method = "DELETE") (hpath : e.path = q.2.1) : e = deletionEndpoint q.1 q.2.1 q.2.2 :=
  eq_of_path he (deletionEndpoint_mem q hq) hmet hpath

lemma exec_of_answer {response : Response} (h : (answer endpoints s r).1 = .ok response)
    (hsta : response.status = 200) (href : ∀ err, reply (.error err) ≠ .ok response) :
    ∃ e c v, Served r e c ∧ exec (e.run c) s = (.ok v, (answer endpoints s r).2) ∧ e.reply v = .ok response := by
  have hans := answered s r
  revert h hans
  generalize answer endpoints s r = answered
  intro h hans
  cases hans with
  | elsewhere =>
    cases h
    cases hsta
  | unknown => exact absurd h (href _)
  | @aside e params outcome _ hout =>
    cases outcome with
    | ok response' =>
      cases h
      exact absurd (hout.symm.trans hsta) (by decide)
    | error err => exact absurd h (href err)
  | @done e c v s' response' hser hrun hrep =>
    cases h
    exact ⟨e, c, v, hser, hrun, hrep⟩
  | failed => exact absurd h (href _)

lemma exec_of_answer_done (h : (answer endpoints s r).1 = .ok ⟨200, done message⟩) :
    ∃ e c v, Served r e c ∧ exec (e.run c) s = (.ok v, (answer endpoints s r).2) := by
  have href : ∀ err, reply (.error err) ≠ .ok ⟨200, done message⟩ := by
    intro err hrep
    obtain ⟨status, detail, -, hres⟩ := eq_http_of_reply hrep
    simp [done] at hres
  obtain ⟨e, c, v, hser, hrun, -⟩ := exec_of_answer h rfl href
  exact ⟨e, c, v, hser, hrun⟩

/-- After every run of requests from a sound store in which no account is in a workspace, whatever the worlds in which
they are made, every reference is empty or leads to a row that is there. -/
theorem references_lead_to_rows (hsound : s.store.sound = true) (hunplaced : Unplaced (accounts s))
    (steps : List (World × Request)) :
    Complete (afterSteps s steps).store ∧
      ∀ t path message, (t, path, message) ∈ deletions → ∀ w r token, r.finds "DELETE" path [token] = true →
        (answer endpoints { afterSteps s steps with world := w } r).1 = .ok ⟨200, done message⟩ →
        ∃ row ∈ (afterSteps s steps).store.rows t, cell row "token" = .text token ∧
          Vanished t (cell row "id") (afterSteps s (steps ++ [(w, r)])).store := by
  have hinv : ∀ steps, (afterSteps s steps).store.sound = true ∧ Unplaced (accounts (afterSteps s steps)) :=
    afterSteps_invariant (P := fun s => s.store.sound = true ∧ Unplaced (accounts s))
      (fun s w r hs => ⟨sound_answer (s := { s with world := w }) hs.1 r,
        unplaced_answer (s := { s with world := w }) hs.2 r⟩) ⟨hsound, hunplaced⟩
  refine ⟨complete_of_sound (hinv steps).1 (hinv steps).2, ?_⟩
  intro t path message hdel w r token hfin hans
  obtain ⟨-, e', hrou, hmet, hpath⟩ := route_of_finds hfin
  obtain ⟨e, c, v, hser, hrun⟩ := exec_of_answer_done hans
  obtain ⟨rfl, hpar⟩ : e' = e ∧ [token] = c.params := by
    simpa using hrou.symm.trans hser.route
  rw [eq_deletionEndpoint hdel (mem_of_route hrou) hmet hpath] at hrun
  have hpra : c.param = token := by rw [Call.param, ← hpar]; rfl
  have haft := hinv (steps ++ [(w, r)])
  rw [afterSteps_append, afterSteps_cons] at haft ⊢
  have hid : ∀ q ∈ deletions, ∃ c ∈ q.1.columns, c.name = "id" ∧ c.required = true := by decide
  have hbef : ({ afterSteps s steps with world := w } : Service).store.sound = true := (hinv steps).1
  obtain ⟨row, hrow, htok, hvan⟩ := vanished_of_exec_deletion (hid _ hdel) hbef hrun
    (complete_of_sound haft.1 haft.2)
  exact ⟨row, hrow, hpra ▸ htok, hvan⟩

def tells (message : String) : Result Response → Bool
  | .ok ⟨200, .object [("message", .text m)]⟩ => m == message
  | _ => false

lemma eq_of_tells {answer : Result Response} (h : tells message answer = true) :
    answer = .ok ⟨200, done message⟩ := by
  unfold tells at h
  split at h
  · rw [beq_iff_eq.mp h]
    rfl
  · cases h

def filedService : Service where
  world := silentWorld
  store := [userEntry "a",
    ⟨.workspaces, Table.fill .workspaces silentWorld.now "w"
      [("name", "Plans"), ("token", "ws_a"), ("created_by", "a")]⟩,
    ⟨.folders, Table.fill .folders silentWorld.now "f"
      [("token", "fldr_a"), ("workspace_id", "w"), ("title", "Old")]⟩,
    ⟨.costReports, Table.fill .costReports silentWorld.now "r"
      [("token", "rpt_a"), ("workspace_id", "w"), ("folder_id", "f"), ("title", "Costs")]⟩]

def deleteFolder : Request where
  method := "DELETE"
  path := "/api/v2/folders/fldr_a"
  credential := sessionOf "a"

lemma finds_deleteFolder : deleteFolder.finds "DELETE" "/api/v2/folders/:token" ["fldr_a"] = true := by
  have hpar : (deletionEndpoint .folders "/api/v2/folders/:token" "Folder deleted").params? deleteFolder.path =
      some ["fldr_a"] := by decide
  have hfin := finds_of_mem (deletionEndpoint_mem _ (mem_cons_of_mem _ mem_cons_self)) rfl hpar
  exact hfin

lemma tells_deleteFolder : tells "Folder deleted" (answer endpoints filedService deleteFolder).1 = true := by
  have hwork : tells "Folder deleted" (reply (filedService.transact
      ((deletionEndpoint .folders "/api/v2/folders/:token" "Folder deleted").work ["fldr_a"] deleteFolder
        (userEntry "a").row)).1) = true := by decide
  obtain ⟨hhere, hrou⟩ := route_of_finds_mem
    (deletionEndpoint_mem _ (mem_cons_of_mem _ mem_cons_self)) finds_deleteFolder
  rw [answer_of_user hhere hrou rfl (exec_currentUser_session rfl rfl)]
  exact hwork

/-- The report that was in a folder does not refer to it once it is deleted. -/
theorem references_lead_to_rows_without_folder :
    filedService.store.sound = true ∧ Unplaced (accounts filedService) ∧
      ∃ row ∈ filedService.store.rows .folders, cell row "token" = "fldr_a" ∧
        Vanished .folders (cell row "id") (afterSteps filedService [(silentWorld, deleteFolder)]).store := by
  have hsou : filedService.store.sound = true := by decide
  have hunp : Unplaced (accounts filedService) := by
    exact forall_mem_nil _
  refine ⟨hsou, hunp, ?_⟩
  exact (references_lead_to_rows hsou hunp []).2 _ _ _ (mem_cons_of_mem _ mem_cons_self) silentWorld
    deleteFolder "fldr_a" finds_deleteFolder (eq_of_tells tells_deleteFolder)

end Api

end CloudSpend
