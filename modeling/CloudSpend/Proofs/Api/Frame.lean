import CloudSpend.Api.All
import CloudSpend.Proofs.Api.Handler
import CloudSpend.Proofs.Store.Deletion

/-! # What endpoints leave as they are -/

namespace CloudSpend

open List
open Store (Table Entry cell holds)

namespace Store

def of (ts : List Table) (s : Store) : Store := s.filter fun e => ts.contains e.table

variable {ts : List Table} {s s' : Store} {t : Table}

lemma rows_of (ht : t ∈ ts) (s : Store) : (s.of ts).rows t = s.rows t := by
  simp only [of, rows, filter_filter]
  grind

lemma of_insert (ht : t ∉ ts) {row : Row} (h : s.insert t row = .ok s') : s'.of ts = s.of ts := by
  obtain ⟨-, rfl⟩ := checked_eq_ok.mp h
  simp [of, ht]

lemma of_reviseWhere (ht : t ∉ ts) (s : Store) (test : Row → Bool) (now : Timestamp) (changes : Row) :
    (s.reviseWhere t test now changes).of ts = s.of ts := by
  unfold reviseWhere of
  induction s with
  | nil => rfl
  | cons e s ih =>
    grind

variable {id : Value} {now : Timestamp}

lemma of_update (ht : t ∉ ts) {changes : Row} (h : s.update t id now changes = .ok s') :
    s'.of ts = s.of ts := by
  obtain ⟨-, rfl⟩ := checked_eq_ok.mp h
  exact of_reviseWhere ht s _ now changes

def Table.reach (t : Table) : List Table :=
  let gone := t :: t.owned.map Reference.table
  gone ++ (gone.flatMap Table.released).map Reference.table

lemma Table.mem_reach (t : Table) : t ∈ t.reach := mem_append_left _ mem_cons_self

lemma Entry.table_mem_of_goesWith {e : Entry} (h : e.goesWith t id = true) :
    e.table ∈ t :: t.owned.map Reference.table := by
  simp only [goesWith, refersBy, Bool.or_eq_true, Bool.and_eq_true, any_eq_true, beq_iff_eq] at h
  grind

lemma of_delete (ht : ∀ u ∈ t.reach, u ∉ ts) (h : s.delete t id now = .ok s') : s'.of ts = s.of ts := by
  obtain ⟨-, -, -, rfl⟩ := delete_eq_ok.mp h
  have hrel : ∀ q ∈ s.releases t id, q.1.table ∉ ts := by
    intro q hq
    obtain ⟨e, he, hq⟩ := mem_flatMap.mp hq
    obtain ⟨r, hr, rfl⟩ := mem_map.mp hq
    have hmem := e.table_mem_of_goesWith (mem_filter.mp he).2
    refine ht _ (mem_append_right _ (mem_map.mpr ⟨r, ?_, rfl⟩))
    exact mem_flatMap.mpr ⟨e.table, hmem, hr⟩
  have hfold : ∀ (qs : List (Reference × Value)) (s : Store), (∀ q ∈ qs, q.1.table ∉ ts) →
      of ts (qs.foldl (unlink now) s) = s.of ts := by
    intro qs
    induction qs with
    | nil => exact fun _ _ => rfl
    | cons q qs ih =>
      intro s hqs
      rw [foldl_cons, ih _ fun r hr => hqs r (mem_cons_of_mem q hr)]
      exact of_reviseWhere (hqs q mem_cons_self) s _ _ _
  rw [left_eq_foldl, hfold _ _ hrel, of, of, filter_filter]
  refine filter_congr fun e _ => ?_
  cases hgoes : e.goesWith t id with
  | false => simp
  | true => simp [ht _ (mem_append_left _ (e.table_mem_of_goesWith hgoes))]

end Store

namespace Handler

def kept (ts : List Table) (s : Service) : Store × Webhook.Registry × Cluster.Store :=
  (s.store.of ts, s.webhooks, s.clusters)

variable {γ : Type} {view : Service → γ}

instance leaves_findText? (t : Table) (column : String) (v : Value) : Leaves view (findText? t column v) := by
  unfold findText?
  infer_instance

instance leaves_byToken (t : Table) (token : Value) : Leaves view (byToken t token) := leaves_bind

class inductive Built (ts : List Table) : {α : Type} → Handler α → Prop where
  | asks {α : Type} {h : Handler α} (hh : ∀ s, ∃ w, (exec h s).2 = { s with world := w }) : Built ts h
  | bind {α β : Type} {x : Handler α} {f : α → Handler β} (hx : Built ts x) (hf : ∀ a, Built ts (f a)) :
      Built ts (x >>= f)
  | insert {t : Table} (ht : t ∉ ts) (given : Row) : Built ts (insert t given)
  | update {t : Table} (ht : t ∉ ts) (row changes : Row) : Built ts (update t row changes)
  | delete {t : Table} (ht : ∀ u ∈ t.reach, u ∉ ts) (row : Row) : Built ts (delete t row)

variable {α β : Type} {ts : List Table}

instance {x : Handler α} {f : α → Handler β} [hx : Built ts x] [hf : ∀ a, Built ts (f a)] : Built ts (x >>= f) :=
  .bind hx hf

instance built_run (x : Run α) : Built ts (liftM x : Handler α) := .asks fun _ => ⟨_, rfl⟩

instance : Built ts newId := .asks fun _ => ⟨_, rfl⟩

instance (token : Nat → String) : Built ts (newToken token) := .asks fun _ => ⟨_, rfl⟩

instance (priority := low) {h : Handler α} [hh : Leaves (fun s => s) h] : Built ts h :=
  .asks fun s => ⟨s.world, hh.out s⟩

lemma Built.closed : Closed (Built ts) := ⟨fun _ => inferInstance, .bind⟩

instance {x : Handler α} [hx : Built ts x] : Built ts (discard x) := Built.closed.discard hx

instance {f : α → Handler β} [hf : ∀ a, Built ts (f a)] (as : List α) : Built ts (as.mapM f) := Built.closed.mapM hf as

instance {c : Prop} [Decidable c] {x y : Handler α} [Built ts x] [Built ts y] : Built ts (if c then x else y) := by
  split <;> assumption

lemma leaves_change {f : Store → Result Store} (hf : ∀ {s s'}, f s = .ok s' → s'.of ts = s.of ts) :
    Leaves (kept ts) (change f) := by
  refine leaves_of_exec fun s => ?_
  rw [exec_change]
  cases h : f s.store with
  | error e => rfl
  | ok store => exact congrArg (·, s.webhooks, s.clusters) (hf h)

lemma Built.leaves {h : Handler α} (hh : Built ts h) : Leaves (kept ts) h := by
  induction hh with
  | asks hh =>
    refine leaves_of_exec fun s => ?_
    obtain ⟨w, hw⟩ := hh s
    rw [hw]
    rfl
  | bind _ _ hx hf => exact hx.bind hf
  | insert ht given =>
    rename_i t
    have hpla : Leaves (kept ts) (place t (t.stated given)) := by
      refine leaves_of_exec fun s => ?_
      obtain ⟨id, w, -, ⟨e, hrun⟩ | ⟨store, ⟨hins, -⟩, hrun⟩⟩ := exec_place t (t.stated given) s
      · rw [hrun]
        rfl
      · rw [hrun]
        exact congrArg (·, s.webhooks, s.clusters) (Store.of_insert ht hins)
    exact leaves_bind
  | update ht row changes =>
    have hcha := fun id time changes => leaves_change (f := fun s => s.update _ id time changes) (Store.of_update ht)
    exact leaves_update_of_change _ row changes
  | delete ht row => exact leaves_now.bind fun _ => leaves_change fun h => Store.of_delete ht h

end Handler

namespace Api

open Handler

section Reading

variable {γ : Type} {view : Service → γ}

instance (row : Row) (x : Shown) : Leaves view (x.read row) := by
  unfold Shown.read
  split <;> infer_instance

instance (shown : List Shown) (row : Row) : Leaves view (describe shown row) := leaves_bind

instance (t : Table) (test : Row → Bool) (page : Page) : Leaves view (paged t test page) := leaves_bind

instance (t : Table) (plural : String) (shown : List Shown) (test : Row → Bool) (c : Call) :
    Leaves view (listing t plural shown test c) := leaves_bind

instance : Leaves view (getThe Service) := leaves_get

instance (account : Row) (test : Date → Bool) : Leaves view (costRows account test) := leaves_bind

instance (c : Call) : Leaves view (accountOf c) := leaves_byId _ _ _

instance (c : Call) : Leaves view (cloudAccountOf c) := leaves_byId _ _ _

instance (c : Call) : Leaves view (integrationOf c) := leaves_byId _ _ _

instance (r : Resource) (c : Call) : Leaves view (r.find c) := leaves_byToken _ _

instance (row : Row) : Leaves view (describeIntegration row) := leaves_bind

instance (c : Call) : Leaves view (askedDays c) := by
  refine leaves_today.bind fun today => ?_
  split <;> infer_instance

instance leaves_currentUser (credential : Option String) : Leaves view (currentUser credential) := by
  have hsub : ∀ token, Leaves view (subject? token) := fun _ => leaves_bind
  have hact : ∀ id, Leaves view (activeUser? id) := fun _ => leaves_bind
  unfold currentUser
  split
  · exact leaves_throw _
  · refine (hsub _).bind fun id? => ?_
    split
    · exact leaves_throw _
    · refine (hact _).bind fun user? => ?_
      split <;> infer_instance

end Reading

variable {ts : List Table} {e : Endpoint}

variable {t : Table} {g : List Endpoint × List Table}

/-! Each endpoint is built of steps that are known to be such, one after the other, but for the case distinctions
between them. -/

lemma built_of_mem_userEndpoints (hts : Table.users ∉ ts) (he : e ∈ [signUp, signIn, whoAmI]) (c : Call) :
    Built ts (e.run c) := by
  have hins := Built.insert hts
  simp only [mem_cons, not_mem_nil, or_false] at he
  rcases he with rfl | rfl | rfl
  all_goals repeat' first | infer_instance | refine .bind inferInstance fun _ => ?_ | split

lemma built_of_mem_apiTokenEndpoints (hts : Table.apiTokens ∉ ts) (he : e ∈ apiTokenEndpoints) (c : Call) :
    Built ts (e.run c) := by
  have hins := Built.insert hts
  have hupd := Built.update hts
  simp only [apiTokenEndpoints, mem_cons, not_mem_nil, or_false] at he
  rcases he with rfl | rfl | rfl
  all_goals exact .bind inferInstance inferInstance

lemma built_of_mem_accountEndpoints (hts : Table.awsAccounts ∉ ts) (he : e ∈ accountEndpoints) (c : Call) :
    Built ts (e.run c) := by
  have hins := Built.insert hts
  have hupd := Built.update hts
  have hrea : ∀ arn externalId, Built ts (roleCanRead arn externalId) := fun _ _ => built_run _
  simp only [accountEndpoints, mem_cons, not_mem_nil, or_false] at he
  rcases he with rfl | rfl | rfl | rfl | rfl
  all_goals dsimp only [connectAccount, listAccounts, disconnectAccount, explainSetup, connectRole]
  all_goals repeat' first | infer_instance | refine .bind inferInstance fun _ => ?_ | split

lemma built_of_mem_spendingEndpoints (he : e ∈ spendingEndpoints) (c : Call) : Built ts (e.run c) := by
  have hsta : Built ts startExplorer := built_run _
  have hcom : ∀ rows current previous, Built ts (compareCosts rows current previous) := fun _ _ _ =>
    .bind (built_run _) inferInstance
  simp only [spendingEndpoints, mem_cons, not_mem_nil, or_false] at he
  rcases he with rfl | rfl | rfl | rfl | rfl | rfl
  all_goals repeat' first | infer_instance | refine .bind inferInstance fun _ => ?_ | split | dsimp only

lemma built_of_mem_findingEndpoints (hts : ∀ t ∈ [Table.anomalies, .recommendations], t ∉ ts)
    (he : e ∈ findingEndpoints) (c : Call) : Built ts (e.run c) := by
  have hano := Built.update (hts .anomalies (by decide))
  have hrec := Built.update (hts .recommendations (by decide))
  simp only [findingEndpoints, mem_cons, not_mem_nil, or_false] at he
  rcases he with rfl | rfl | rfl | rfl
  all_goals exact .bind inferInstance inferInstance

lemma built_of_mem_budgetEndpoints (hts : ∀ t ∈ [Table.budgets, .alertConfigs], ∀ u ∈ t.reach, u ∉ ts)
    (he : e ∈ budgetEndpoints) (c : Call) : Built ts (e.run c) := by
  have hbud := hts .budgets (by decide)
  have hale := hts .alertConfigs (by decide)
  have hupd := Built.update (hbud _ (Table.mem_reach _))
  have hins := Built.insert (hbud _ (Table.mem_reach _))
  have hcon := Built.insert (hale _ (Table.mem_reach _))
  have hdel := Built.delete hbud
  have hdrop := Built.delete hale
  have hche : ∀ budget, Built ts (checkBudget budget) := fun _ => .bind inferInstance inferInstance
  simp only [budgetEndpoints, mem_cons, not_mem_nil, or_false] at he
  rcases he with rfl | rfl | rfl | rfl | rfl | rfl | rfl | rfl
  all_goals exact .bind inferInstance inferInstance

instance leaves_readReport {γ : Type} {view : Service → γ} (c : Call) : Leaves view (readReport.run c) := leaves_bind

instance leaves_overview {γ : Type} {view : Service → γ} (c : Call) : Leaves view (overview.run c) := leaves_bind

lemma built_of_mem_reportEndpoints (hts : Table.sharedReports ∉ ts) (he : e ∈ reportEndpoints) (c : Call) :
    Built ts (e.run c) := by
  have hins := Built.insert hts
  simp only [reportEndpoints, mem_cons, not_mem_nil, or_false] at he
  rcases he with rfl | rfl | rfl
  · exact .bind inferInstance inferInstance
  · infer_instance
  · infer_instance

lemma built_of_mem_queryEndpoints (he : e ∈ queryEndpoints) (c : Call) : Built ts (e.run c) := by
  simp only [queryEndpoints, mem_cons, not_mem_nil, or_false] at he
  rcases he with rfl | rfl | rfl
  · exact built_run _
  · exact built_run _
  · exact inferInstanceAs (Built ts (liftM _))

namespace Resource

variable {r : Resource} (hr : ∀ u ∈ r.table.reach, u ∉ ts) (c : Call)

instance built_list : Built ts (r.list c) := by
  unfold list
  infer_instance

variable {γ : Type} {view : Service → γ}

instance (l : Link) : Leaves view (follow c l) := by
  unfold follow
  infer_instance

instance (keepsNull : Bool) (l : Link) : Leaves view (relink keepsNull c l) := by
  unfold relink
  infer_instance

include hr

lemma built_create : Built ts (r.create c) := by
  have hins := Built.insert (hr _ r.table.mem_reach)
  refine .bind inferInstance fun _ => .bind inferInstance fun _ => ?_
  dsimp only
  split <;> infer_instance

lemma built_change (v : Revision) : Built ts (r.change v c) := by
  have hupd := Built.update (hr _ r.table.mem_reach)
  exact .bind inferInstance inferInstance

lemma built_of_mem_endpoints (he : e ∈ r.endpoints) : Built ts (e.run c) := by
  have hdel := Built.delete hr
  simp only [endpoints, mem_append, mem_cons, not_mem_nil, or_false, mem_map,
    Option.mem_toList] at he
  rcases he with (((rfl | rfl) | he) | ⟨v, -, rfl⟩) | ⟨message, -, rfl⟩
  · exact built_list c
  · exact built_create hr c
  · split at he
    · obtain rfl := mem_singleton.mp he
      exact .bind inferInstance inferInstance
    · simp at he
  · exact built_change hr c v
  · exact .bind inferInstance inferInstance

end Resource

lemma built_of_mem_workspaceEndpoints (hts : ∀ u ∈ Table.workspaces.reach, u ∉ ts)
    (he : e ∈ workspaceEndpoints) (c : Call) : Built ts (e.run c) := by
  have hins := Built.insert (hts _ (Table.mem_reach _))
  have hupd := Built.update (hts _ (Table.mem_reach _))
  have hdel := Built.delete hts
  simp only [workspaceEndpoints, mem_cons, not_mem_nil, or_false] at he
  rcases he with rfl | rfl | rfl | rfl | rfl
  all_goals exact .bind inferInstance inferInstance

def resourceTables : List Table :=
  [Table.workspaces, .costReports, .folders, .savedFilters, .dashboards, .segments, .teams, .accessGrants,
    .virtualTags, .resourceReports, .networkFlowReports, .commitmentReports, .efficiencyReports, .dataExports,
    .unitCosts].flatMap Table.reach

lemma built_of_mem_resourceEndpoints (hts : ∀ u ∈ resourceTables, u ∉ ts) (he : e ∈ resourceEndpoints)
    (c : Call) : Built ts (e.run c) := by
  have htab : ∀ r ∈ resources, ∀ u ∈ r.table.reach, u ∈ resourceTables := by decide
  rcases mem_append.mp he with he | he
  · rcases mem_append.mp he with he | he
    · exact built_of_mem_workspaceEndpoints (fun u hu => hts u (mem_append_left _ hu)) he c
    · obtain ⟨r, hr, he⟩ := mem_flatMap.mp he
      exact Resource.built_of_mem_endpoints (fun u hu => hts u (htab r hr u hu)) c he
  · obtain rfl := mem_singleton.mp he
    have hrea : ∀ u ∈ Table.unitCosts.reach, u ∈ resourceTables := by decide
    have hdel := Built.delete fun u hu => hts u (hrea u hu)
    exact .bind inferInstance inferInstance

/-! #### Accounts of any cloud and integrations -/

section CloudAccounts

variable (hts : Table.cloudAccounts ∉ ts)
include hts

lemma built_reviseCloudAccount (row changes : Row) : Built ts (reviseCloudAccount row changes) :=
  .update hts row changes

lemma built_of_mem_cloudAccountEndpoints (he : e ∈ cloudAccountEndpoints) (c : Call) : Built ts (e.run c) := by
  have hins := Built.insert hts
  have hrev := built_reviseCloudAccount hts
  have hadd : Built ts (addCloudAccount c) := by
    unfold addCloudAccount
    infer_instance
  simp only [cloudAccountEndpoints, mem_cons, not_mem_nil, or_false] at he
  rcases he with rfl | rfl | rfl | rfl | rfl | rfl
  all_goals repeat' first | infer_instance | refine .bind inferInstance fun _ => ?_ | split

omit hts in
instance built_tell (event : String) (data : Row) : Built ts (tell event data) := .bind inferInstance inferInstance

lemma built_of_mem_integrationEndpoints (he : e ∈ integrationEndpoints) (c : Call) : Built ts (e.run c) := by
  have hins := Built.insert hts
  have hrev := built_reviseCloudAccount hts
  have hcon : ∀ row r, Built ts (concludeSync c row r) := fun row r => by
    cases r <;> exact .bind inferInstance inferInstance
  have hcnn : Built ts (connectProvider c) := by
    unfold connectProvider
    repeat' first | infer_instance | refine .bind inferInstance fun _ => ?_ | split | dsimp only
  simp only [integrationEndpoints, mem_cons, not_mem_nil, or_false] at he
  rcases he with rfl | rfl | rfl | rfl | rfl | rfl
  all_goals repeat' first | infer_instance | refine .bind inferInstance fun _ => ?_

end CloudAccounts

def groups : List (List Endpoint × List Table) :=
  [(rootEndpoints, []), ([signUp, signIn, whoAmI], [.users]), (apiTokenEndpoints, [.apiTokens]),
   (accountEndpoints, [.awsAccounts]), (spendingEndpoints, []), (findingEndpoints, [.anomalies, .recommendations]),
   (budgetEndpoints, [Table.budgets, .alertConfigs].flatMap Table.reach), (reportEndpoints, [.sharedReports]),
   (resourceEndpoints, resourceTables), (cloudAccountEndpoints, [.cloudAccounts]),
   (integrationEndpoints, [.cloudAccounts]), ([integrationOverview], []), (queryEndpoints, [])]

lemma built_of_mem_group (hg : g ∈ groups) (hts : ∀ t ∈ g.2, t ∉ ts) (he : e ∈ g.1) (c : Call) :
    Built ts (e.run c) := by
  simp only [groups, mem_cons, not_mem_nil, or_false] at hg
  rcases hg with rfl | rfl | rfl | rfl | rfl | rfl | rfl | rfl | rfl | rfl | rfl | rfl | rfl
  · simp only [rootEndpoints, mem_cons, not_mem_nil, or_false] at he
    rcases he with rfl | rfl <;> exact inferInstanceAs (Built ts (pure _))
  · exact built_of_mem_userEndpoints (hts _ mem_cons_self) he c
  · exact built_of_mem_apiTokenEndpoints (hts _ mem_cons_self) he c
  · exact built_of_mem_accountEndpoints (hts _ mem_cons_self) he c
  · exact built_of_mem_spendingEndpoints he c
  · exact built_of_mem_findingEndpoints hts he c
  · exact built_of_mem_budgetEndpoints (fun t ht u hu => hts u (mem_flatMap.mpr ⟨t, ht, hu⟩)) he c
  · exact built_of_mem_reportEndpoints (hts _ mem_cons_self) he c
  · exact built_of_mem_resourceEndpoints hts he c
  · exact built_of_mem_cloudAccountEndpoints (hts _ mem_cons_self) he c
  · exact built_of_mem_integrationEndpoints (hts _ mem_cons_self) he c
  · rw [mem_singleton.mp he]
    exact .bind inferInstance inferInstance
  · exact built_of_mem_queryEndpoints he c

lemma built_or_mem_group (t : Table) (hg : g ∈ groups) (he : e ∈ g.1) :
    (∀ c, Built [t] (e.run c)) ∨ g ∈ groups.filter (·.2.contains t) := by
  by_cases ht : t ∈ g.2
  · exact .inr (mem_filter.mpr ⟨hg, contains_iff_mem.mpr ht⟩)
  · refine .inl (built_of_mem_group hg (fun u hu hut => ?_) he)
    rw [mem_singleton.mp hut] at hu
    exact ht hu

theorem group_of_mem (he : e ∈ endpoints) :
    (∃ g ∈ groups, e ∈ g.1) ∨ (∀ ts c, Built ts (e.run c)) ∨
      (e.run = pushReport ∧ e.query = [Form.required "cluster_id" .anyText] ∧
        e.body = some Cluster.payload ∧ e.answer = .any) ∨
      (e.run = addWebhook ∧ e.body = some Webhook.shape ∧ e.answer = .any) ∨
      (e.run = removeWebhook ∧ e.answer = .any) := by
  have hgro : endpoints = groups.flatMap Prod.fst ++ clusterEndpoints ++ webhookEndpoints := by
    simp only [endpoints, signInEndpoints, groups, flatMap_cons, flatMap_nil, append_nil,
      append_assoc]
  rw [hgro, mem_append, mem_append] at he
  rcases he with (he | he) | he
  · exact .inl (mem_flatMap.mp he)
  · simp only [clusterEndpoints, mem_cons, not_mem_nil, or_false] at he
    have hask : ∀ ts f, Built ts (askClusters f) := fun _ _ => .bind inferInstance inferInstance
    grind
  · simp only [webhookEndpoints, mem_cons, not_mem_nil, or_false] at he
    rcases he with rfl | rfl | rfl | rfl
    · exact .inr (.inl fun _ _ => .bind inferInstance inferInstance)
    · exact .inr (.inr (.inr (.inl ⟨rfl, rfl, rfl⟩)))
    · exact .inr (.inl fun ts _ => inferInstanceAs (Built ts (pure _)))
    · exact .inr (.inr (.inr (.inr ⟨rfl, rfl⟩)))

lemma leaves_rows_of_built {α : Type} {h : Handler α} (hbui : Built [t] h) :
    Leaves (fun s => s.store.rows t) h := by
  refine ⟨fun s => ?_⟩
  have hkept := congrArg (fun k => Store.rows k.1 t) (hbui.leaves.out s)
  simpa only [kept, Store.rows_of (mem_singleton_self t)] using hkept

section

variable (c : Call)

instance (hooks : Webhook.Registry) : Leaves Service.store (setWebhooks hooks) := ⟨fun _ => rfl⟩

instance (x : Run Webhook.Hook) : Leaves Service.store (liftM x : Handler Webhook.Hook) := ⟨fun _ => rfl⟩

instance leaves_pushReport : Leaves Service.store (pushReport c) :=
  leaves_now.bind fun _ => Leaves.bind ⟨fun _ => rfl⟩ inferInstance

instance leaves_addWebhook : Leaves Service.store (addWebhook c) := leaves_bind

instance leaves_removeWebhook : Leaves Service.store (removeWebhook c) := leaves_bind

end

lemma leaves_rows_or_mem_group (t : Table) (he : e ∈ endpoints) :
    (∀ c, Leaves (fun s => s.store.rows t) (e.run c)) ∨ ∃ g ∈ groups.filter (·.2.contains t), e ∈ g.1 := by
  rcases group_of_mem he with ⟨g, hg, he⟩ | hbui | ⟨hrun, -⟩ | ⟨hrun, -⟩ | ⟨hrun, -⟩
  · rcases built_or_mem_group t hg he with hbui | hg
    · exact .inl fun c => leaves_rows_of_built (hbui c)
    · exact .inr ⟨g, hg, he⟩
  · exact .inl fun c => leaves_rows_of_built (hbui _ c)
  all_goals rw [hrun]
  · exact .inl fun c => (leaves_pushReport c).of_comp fun s => s.rows t
  · exact .inl fun c => (leaves_addWebhook c).of_comp fun s => s.rows t
  · exact .inl fun c => (leaves_removeWebhook c).of_comp fun s => s.rows t

end Api

end CloudSpend
