import CloudSpend.Proofs.Api.Atomicity
import CloudSpend.Proofs.Api.SyncAgreement

/-! # Whether webhooks make a difference -/

namespace CloudSpend

open Handler Json Store.CellKind
open Store (Table cell)

def Service.rehooked (s : Service) (hooks : Webhook.Registry)
    (receivers : List Web.Request → Web.Request → Result Web.Reply) : Service :=
  { s with webhooks := hooks, receivers }

namespace Handler

variable {α β : Type} {x y : Handler α} {f : α → Handler β} {φ : Service → Service} {hooks : Webhook.Registry}
  {receivers : List Web.Request → Web.Request → Result Web.Reply}

lemma ignores_result (r : Result α) : Ignores φ (liftM r : Handler α) := fun _ => rfl

section Reading

variable (hφ : ∀ s, (φ s).store = s.store)

include hφ

lemma ignores_select (t : Table) (test : Row → Bool) : Ignores φ (select t test) := by
  intro s
  change (t.readable ((φ s).store.select t test), φ s) = _
  rw [hφ]
  rfl

lemma ignores_find? (t : Table) (column : String) (v : Value) : Ignores φ (find? t column v) := by
  refine (ignores_select hφ t _).bind fun rows => ?_
  unfold only?
  split
  · exact ignores_pure _
  · exact ignores_pure _
  · exact ignores_throw _

lemma ignores_byId (t : Table) (what id : String) : Ignores φ (byId t what id) := by
  refine (ignores_find? hφ t _ _).bind fun row? => ?_
  cases row? with
  | none => exact ignores_throw _
  | some row => exact ignores_pure _

lemma ignores_describe (shown : List Api.Shown) (row : Row) : Ignores φ (Api.describe shown row) := by
  refine (Ignores.closed.mapM (fun part => ?_) shown).bind fun _ => ignores_result _
  unfold Api.Shown.read
  split
  · exact ignores_pure _
  · exact ignores_pure _
  · exact (ignores_find? hφ _ _ _).bind fun _ => ignores_pure _

end Reading

lemma store_rehooked (s : Service) : (s.rehooked hooks receivers).store = s.store := rfl

lemma ignores_now : Ignores (·.rehooked hooks receivers) now := fun _ => rfl

lemma ignores_run (x : Run α) : Ignores (·.rehooked hooks receivers) (liftM x : Handler α) := fun _ => rfl

lemma ignores_change (g : Store → Result Store) : Ignores (·.rehooked hooks receivers) (change g) := by
  intro s
  change exec _ _ = ((exec _ s).1, (exec _ s).2.rehooked hooks receivers)
  rw [exec_change, exec_change, store_rehooked]
  cases g s.store <;> rfl

lemma ignores_requireStorable (row : Row) : Ignores φ (requireStorable row) := by
  unfold requireStorable
  dsimp only
  split
  · exact ignores_pure _
  · exact ignores_throw _

lemma ignores_reread (t : Table) (row : Row) : Ignores (·.rehooked hooks receivers) (reread t row) :=
  (ignores_select store_rehooked t _).discard

lemma ignores_update (t : Table) (row changes : Row) : Ignores (·.rehooked hooks receivers) (update t row changes) :=
  ignores_now.bind fun _ => (ignores_requireStorable _).bind fun _ => (ignores_change _).bind fun _ =>
    (ignores_reread t row).bind fun _ => ignores_pure _

lemma ignores_insert (t : Table) (given : Row) : Ignores (·.rehooked hooks receivers) (insert t given) := by
  refine Ignores.bind ?_ fun row => (ignores_reread t row).bind fun _ => ignores_pure _
  unfold place
  split
  all_goals
    refine Ignores.bind ?_ fun id => (ignores_requireStorable _).bind fun _ => ignores_now.bind fun time => ?_
    rotate_left
    · dsimp only
      split
      · exact (ignores_throw _).bind fun _ => (ignores_change _).bind fun _ => ignores_pure _
      · exact (ignores_change _).bind fun _ => ignores_pure _
  · exact (ignores_run _).bind fun _ => ignores_pure _
  · exact ignores_pure _

variable {s : Service}

def Unmoved (x : Handler α) (s : Service) : Prop :=
  ∀ hooks receivers, (exec x (s.rehooked hooks receivers)).1 = (exec x s).1 ∧
    (exec x (s.rehooked hooks receivers)).2.store = (exec x s).2.store

lemma unmoved_throw (e : Fault) : Unmoved (throw e : Handler α) s := fun _ _ => ⟨rfl, rfl⟩

lemma unmoved_bind (hx : ∀ hooks receivers, Ignores (·.rehooked hooks receivers) x)
    (hf : ∀ a t, exec x s = (.ok a, t) → Unmoved (f a) t) : Unmoved (x >>= f) s := by
  intro hooks receivers
  have hsame : exec x (s.rehooked hooks receivers) = ((exec x s).1, (exec x s).2.rehooked hooks receivers) :=
    hx hooks receivers s
  rw [exec_bind, exec_bind, hsame]
  rcases hrun : exec x s with ⟨e | a, t⟩
  · exact ⟨rfl, rfl⟩
  · exact hf a t hrun hooks receivers

lemma unmoved_tell_bind (event : String) {data : Row} (hdata : foreign? (.object data) = none)
    {f : Unit → Handler β} (hf : ∀ φ, (∀ s, (φ s).store = s.store) → Ignores φ (f ())) :
    Unmoved (Api.tell event data >>= f) s := by
  intro hooks receivers
  obtain ⟨w, hw, -⟩ := Api.exists_exec_tell event hdata s
  obtain ⟨w', hw', -⟩ := Api.exists_exec_tell event hdata (s.rehooked hooks receivers)
  have hrest := hf (fun t => { t.rehooked hooks receivers with world := w' }) (fun _ => rfl) { s with world := w }
  rw [exec_bind_ok hw, exec_bind_ok hw']
  have hsame := congrArg Prod.fst hrest
  have hsto := congrArg (fun p => p.2.store) hrest
  exact ⟨hsame, hsto⟩

lemma transact_of_unmoved (h : Unmoved x s) (hooks : Webhook.Registry)
    (receivers : List Web.Request → Web.Request → Result Web.Reply) :
    ((s.rehooked hooks receivers).transact x).1 = (s.transact x).1 ∧
      ((s.rehooked hooks receivers).transact x).2.store = (s.transact x).2.store := by
  obtain ⟨hsame, hsto⟩ := h hooks receivers
  rcases hrun : exec x s with ⟨e | a, t⟩ <;> rcases hrun' : exec x (s.rehooked hooks receivers) with ⟨e' | a', t'⟩ <;>
    rw [hrun, hrun'] at hsame hsto
  · rw [transact_of_error hrun, transact_of_error hrun']
    exact ⟨hsame, rfl⟩
  · cases hsame
  · cases hsame
  · rw [transact_of_ok hrun, transact_of_ok hrun']
    exact ⟨hsame, hsto⟩

end Handler

namespace Api

open Handler (exec Unmoved)

variable {c : Call} {s : Service} {e : Endpoint} {r : Request} {params : List String} {row : Row}

lemma foreign?_of_text {t : Table} {column : Store.Column} (hcol : column ∈ t.columns)
    (hkind : column.kind = .text ∧ column.filler = .nothing) {now : Timestamp} {id : String} {given : Row}
    (hfits : t.misfit? (t.fill now id given) = none) :
    foreign? (cell (t.fill now id given) column.name) = none := by
  have hhol := List.findSome?_eq_none_iff.mp hfits column hcol
  rw [Store.cell_fill_eq hcol, Store.filled, hkind.1, hkind.2] at hhol ⊢
  split at hhol
  · next v _ =>
      cases v with
      | float x => cases hx : Numeral.columnText? x <;> simp [normal, Value.ofText?, hx, foreign?]
      | list | object => simp [normal, canHold] at hhol
      | null | bool | int | text | date | timestamp => rfl
  · rfl

lemma unmoved_connect : Unmoved (connectProvider c) s := by
  unfold connectProvider
  dsimp only
  split
  · exact unmoved_throw _
  · split
    · exact unmoved_bind (fun _ _ => ignores_throw _) fun _ _ h => by cases h
    refine unmoved_bind (fun _ _ => ignores_run _) fun checked t _ => ?_
    split
    · exact unmoved_throw _
    split
    · exact unmoved_bind (fun _ _ => ignores_throw _) fun _ _ h => by cases h
    refine unmoved_bind (fun _ _ => ignores_insert _ _) fun row u hrow => ?_
    refine unmoved_tell_bind _ ?_ fun φ hφ => ignores_describe hφ _ _
    obtain ⟨⟨id, hfill⟩, -, -, hfits⟩ := exec_insert_eq_ok hrow
    have hid : cell row "id" = .text id := by
      rw [hfill]
      refine Store.cell_fill_id List.mem_cons_self rfl _ id (get?_eq_none_of_forall fun p hp hname => ?_)
      simpa [Prod.ext_iff, hname] using List.mem_of_mem_filter hp
    have hname : foreign? (cell row "display_name") = none := by
      rw [hfill] at hfits ⊢
      exact foreign?_of_text (by simp [Table.columns] : .may "display_name" .text ∈ Table.columns .cloudAccounts)
        ⟨rfl, rfl⟩ hfits
    simp [foreign?, foreignInTable?, hid, hname]

lemma mem_of_exec_integrationOf {t : Service} (h : exec (integrationOf c) s = (.ok row, t)) :
    row ∈ accounts s := by
  have hbind : exec (integrationOf c >>= pure) s = (.ok row, t) := by rwa [bind_pure]
  obtain ⟨row', hmem, -, hpure⟩ := exec_byId_bind_eq_ok hbind
  cases hpure
  exact hmem

lemma unmoved_disconnect (hpla : ∀ row ∈ accounts s, foreign? (cell row "provider") = none) :
    Unmoved (disconnectIntegration c) s := by
  refine unmoved_bind (fun _ _ => ignores_byId store_rehooked _ _ _) fun row t hrow => ?_
  have hpro := hpla row (mem_of_exec_integrationOf hrow)
  refine unmoved_bind (fun _ _ => (ignores_update _ _ _).discard) fun _ u _ => ?_
  exact unmoved_tell_bind _ (by simp [foreign?, foreignInTable?, hpro])
    fun _ _ => ignores_pure _

lemma unmoved_concludeSync (hpro : foreign? (cell row "provider") = none)
    {outcome : Result Connector.Ingestion} (hcou : ∀ told, outcome = .ok told → IsCount told.rows) :
    Unmoved (concludeSync c row outcome) s := by
  cases outcome with
  | error err => exact unmoved_bind (fun _ _ => (ignores_update _ _ _).discard) fun _ _ _ _ _ => ⟨rfl, rfl⟩
  | ok told =>
    obtain ⟨n, hn⟩ := hcou told rfl
    refine unmoved_bind (fun _ _ => ignores_now) fun now t _ => ?_
    refine unmoved_bind (fun _ _ => (ignores_update _ _ _).discard) fun _ u _ => ?_
    refine unmoved_bind (fun _ _ => (ignores_run _).discard) fun _ v _ => ?_
    exact unmoved_tell_bind _ (by simp [foreign?, foreignInTable?, hpro, hn])
      fun _ _ => ignores_pure _

lemma unmoved_sync (hpla : ∀ row ∈ accounts s, foreign? (cell row "provider") = none) :
    Unmoved (syncIntegration c) s := by
  refine unmoved_bind (fun _ _ => ignores_byId store_rehooked _ _ _) fun account t hacc => ?_
  have haco := hpla account (mem_of_exec_integrationOf hacc)
  refine unmoved_bind (fun _ _ _ => rfl) fun today u _ => ?_
  refine unmoved_bind (fun _ _ => ignores_result _) fun days v _ => ?_
  refine unmoved_bind (fun _ _ => ignores_update _ _ _) fun row x hrow => ?_
  refine unmoved_bind (fun _ _ => ignores_run _) fun outcome y hout => ?_
  have hpro : foreign? (cell row "provider") = none := by
    rw [(exec_update_eq_ok hrow).1, cell_of_syncing _ (by decide)]
    exact haco
  refine unmoved_concludeSync hpro fun told htold => ?_
  have hing := Except.ok.inj (Prod.mk.inj hout).1
  exact gives_ingest row _ _ _ _ _ (Prod.ext (hing.trans htold) rfl)

lemma unmoved_serve (hsig : e.signedIn = false) (h : ∀ c, Unmoved (e.run c) s) :
    Unmoved (e.serve params r) s := by
  intro hooks receivers
  rw [Endpoint.serve_eq, hsig, if_neg Bool.false_ne_true, pure_bind]
  unfold Endpoint.work
  split
  · exact ⟨rfl, rfl⟩
  · next query body _ =>
      have hrun := h ⟨params, query, body, (r.body.object?.getD []).map (·.1), []⟩ hooks receivers
      rw [exec_reply, exec_reply]
      grind

def heardRequests : List (String × String) :=
  [("POST", "/api/v2/integrations/connect"), ("POST", "/api/v2/integrations/:id/sync"),
   ("DELETE", "/api/v2/integrations/:id")]

/-- Whatever is outside and whichever webhooks there are, a request to connect, synchronise or disconnect an
integration is answered as it would be with other webhooks, or with none, and with other outcomes of the deliveries to
them, and the same is stored. -/
theorem answer_eq_of_webhooks {method path : String} (hheard : (method, path) ∈ heardRequests)
    (hfinds : r.finds method path params = true)
    (hplain : ∀ row ∈ accounts s, Json.foreign? (cell row "provider") = none) (hooks : Webhook.Registry)
    (receivers : List Web.Request → Web.Request → Result Web.Reply) :
    (answer endpoints (s.rehooked hooks receivers) r).1 = (answer endpoints s r).1 ∧
      (answer endpoints (s.rehooked hooks receivers) r).2.store = (answer endpoints s r).2.store := by
  obtain ⟨hhere, e, hrou, hmet, hpath⟩ := route_of_finds hfinds
  have hmem : ∀ i, integrationEndpoints.get i ∈ endpoints := fun i =>
    mem_endpoints_of_account (.inr (List.get_mem _ _))
  have hser : Unmoved (e.serve params r) s := by
    simp only [heardRequests, List.mem_cons, Prod.mk.injEq, List.not_mem_nil, or_false] at hheard
    rcases hheard with ⟨rfl, rfl⟩ | ⟨rfl, rfl⟩ | ⟨rfl, rfl⟩
    · obtain rfl : e = integrationEndpoints.get ⟨2, by decide⟩ :=
        eq_of_path (mem_of_route hrou) (hmem _) hmet hpath
      exact unmoved_serve rfl fun c => unmoved_connect
    · obtain rfl : e = integrationEndpoints.get ⟨4, by decide⟩ :=
        eq_of_path (mem_of_route hrou) (hmem _) hmet hpath
      exact unmoved_serve rfl fun c => unmoved_sync hplain
    · obtain rfl : e = integrationEndpoints.get ⟨5, by decide⟩ :=
        eq_of_path (mem_of_route hrou) (hmem _) hmet hpath
      exact unmoved_serve rfl fun c => unmoved_disconnect hplain
  obtain ⟨hsame, hsto⟩ := transact_of_unmoved hser hooks receivers
  rw [answer_of_route hhere hrou, answer_of_route hhere hrou]
  exact ⟨congrArg reply hsame, hsto⟩

def eagerHook : Webhook.Hook := ⟨"1", "hook", Webhook.events, some "secret", none, true, default⟩

def failingReceivers : List Web.Request → Web.Request → Result Web.Reply := fun _ _ => .ok ⟨500, .text "", ""⟩

/-- A delivery that fails makes no difference to a disconnection. -/
theorem answer_eq_of_failed_delivery :
    disconnectRequest.finds "DELETE" "/api/v2/integrations/:id" ["1"] = true ∧
      (∀ row ∈ accounts unsyncedService, Json.foreign? (cell row "provider") = none) ∧
      (answer endpoints (unsyncedService.rehooked [eagerHook] failingReceivers) disconnectRequest).1 =
        (answer endpoints unsyncedService disconnectRequest).1 ∧
      (answer endpoints (unsyncedService.rehooked [eagerHook] failingReceivers) disconnectRequest).2.store =
        (answer endpoints unsyncedService disconnectRequest).2.store := by
  have hfin : disconnectRequest.finds "DELETE" "/api/v2/integrations/:id" ["1"] = true := by
    rw [Request.finds, route_disconnectRequest]
    decide
  have hpla : ∀ row ∈ accounts unsyncedService, Json.foreign? (cell row "provider") = none := by decide
  exact ⟨hfin, hpla, answer_eq_of_webhooks (by decide) hfin hpla [eagerHook] failingReceivers⟩

end Api

end CloudSpend
