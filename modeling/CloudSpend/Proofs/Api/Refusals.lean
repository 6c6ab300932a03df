import CloudSpend.Proofs.Api.Accounts

/-! # Refusals -/

namespace CloudSpend

open List Result
open Store (Table cell textCell holds)

namespace Result

variable {α β : Type} {r s : Result α}

class Fails (r : Result α) : Prop where
  out : ∀ status detail, r = .error (.http status detail) → 400 ≤ status

instance fails_ok (a : α) : Fails (.ok a) := ⟨nofun⟩

instance (a : α) : Fails (pure a) := fails_ok a

instance fails_bind {f : α → Result β} [hr : Fails r] [hf : ∀ a, Fails (f a)] : Fails (r >>= f) := by
  cases r with
  | error err => exact ⟨fun status detail h => hr.out status detail (by cases h; rfl)⟩
  | ok a => exact hf a

instance [hr : Fails r] (f : α → β) : Fails (r.map f) := by
  cases r with
  | error err => exact ⟨fun status detail h => hr.out status detail (by cases h; rfl)⟩
  | ok a => exact fails_ok _

lemma fails_mapError {ε : Type} (x : Except ε α) {f : ε → Fault} (hf : ∀ e status detail, f e ≠ .http status detail) :
    Fails (x.mapError f) := by
  cases x with
  | error e => exact ⟨fun status detail h => absurd (Except.error.inj h) (hf e status detail)⟩
  | ok a => exact fails_ok a

end Result

section Failing

variable {σ α β : Type} {x : ExceptT Fault (StateM σ) α}

class Failing (x : ExceptT Fault (StateM σ) α) : Prop where
  out : ∀ s, Fails (x.run.run s).1

instance failing_pure (a : α) : Failing (pure a : ExceptT Fault (StateM σ) α) := ⟨fun _ => fails_ok a⟩

lemma Failing.bind {f : α → ExceptT Fault (StateM σ) β} (hx : Failing x) (hf : ∀ a, Failing (f a)) :
    Failing (x >>= f) := by
  constructor
  intro s
  have hout := hx.out s
  rcases hrun : x.run.run s with ⟨err | a, s1⟩
  · rw [run_bind_of_error hrun]
    rw [hrun] at hout
    exact ⟨fun status detail h => hout.out status detail (by cases h; rfl)⟩
  · rw [run_bind_of_ok hrun]
    exact (hf a).out s1

instance failing_bind {f : α → ExceptT Fault (StateM σ) β} [hx : Failing x] [hf : ∀ a, Failing (f a)] :
    Failing (x >>= f) := hx.bind hf

lemma Failing.closed : Closed (Failing (σ := σ)) := ⟨failing_pure, .bind⟩

instance [hx : Failing x] : Failing (discard x) := Failing.closed.discard hx

instance (x : Run α) : Failing (Run.attempt x) := ⟨fun _ => fails_ok _⟩

instance {r : Result α} [h : Fails r] : Failing (liftM r : Run α) := ⟨fun _ => h⟩

instance {r : Result α} [h : Fails r] : Failing (liftM r : Handler α) := ⟨fun _ => h⟩

instance {x : Run α} [hx : Failing x] : Failing (liftM x : Handler α) := ⟨fun s => hx.out s.world⟩

end Failing

instance Webhook.failing_dispatch (receivers : List Web.Request → Web.Request → Result Web.Reply) (r : Registry)
    (event : String) (data : Value) : Failing (dispatch receivers r event data) := by
  have hnow : Failing Run.now := ⟨fun _ => fails_ok _⟩
  have hbody : ∀ now, Fails (body event now data) := by
    refine fun now => ⟨fun status detail h => ?_⟩
    unfold body Json.encode at h
    split at h <;> cases h
  have hdel : ∀ h body, Failing (deliver receivers h body) := by
    refine fun h body => ⟨fun w => ?_⟩
    show Fails (Run.exec (Run.recover _ _) w).1
    rw [Run.exec_recover]
    split <;> exact fails_ok _
  exact Failing.bind (x := forIn _ _ _) (Failing.closed.forIn fun _ _ _ => inferInstance) inferInstance

namespace Handler

instance : Failing now := ⟨fun _ => fails_ok _⟩

instance : Failing today := ⟨fun _ => fails_ok _⟩

instance failing_select (t : Table) (test : Row → Bool) : Failing (select t test) := by
  have hrea : ∀ rows, Fails (t.readable rows) := by
    refine fun rows => ⟨fun status detail h => ?_⟩
    unfold Table.readable at h
    split at h
    · next f hf =>
        obtain ⟨row, -, hrow⟩ := exists_of_findSome?_eq_some hf
        cases h
        exact absurd hrow Store.strangeWord?_ne_refused
    · cases h
  exact Failing.bind ⟨fun _ => fails_ok _⟩ inferInstance

instance failing_byId (t : Table) (what id : String) : Failing (byId t what id) := by
  have honly : ∀ rows, Failing (only? rows) := by
    intro rows
    unfold only?
    split
    · infer_instance
    · infer_instance
    · exact ⟨fun _ => ⟨nofun⟩⟩
  have hfou : ∀ row?, Failing (found what row?)
    | none => ⟨fun _ => ⟨fun _ _ h => by cases h; decide⟩⟩
    | some row => failing_pure row
  exact Failing.bind failing_bind inferInstance

instance failing_update (t : Table) (row changes : Row) : Failing (update t row changes) := by
  have hsto : Failing (requireStorable changes) := by
    unfold requireStorable
    dsimp only
    split
    · infer_instance
    · exact ⟨fun _ => ⟨nofun⟩⟩
  have hcha : ∀ time, Failing (change fun s => s.update t (cell row "id") time changes) := by
    refine fun time => ⟨fun s => ⟨fun status detail (h : (exec _ s).1 = _) => ?_⟩⟩
    rw [exec_change] at h
    cases hupd : s.store.update t (cell row "id") time changes with
    | ok store => simp [hupd] at h
    | error fault =>
      obtain rfl : fault = .http status detail := by simpa [hupd] using h
      exact absurd hupd Store.checked_ne_refused
  unfold update reread
  infer_instance

end Handler

namespace Api

mutual

theorem fails_render : ∀ v : Value, Fails (render v)
  | .null | .bool _ | .int _ | .text _ | .date _ | .timestamp _ => fails_ok _
  | .float x => by
      rw [render]
      split
      · exact fails_ok _
      · exact ⟨nofun⟩
  | .list items => by
      have := fails_renderItems items
      rw [render]
      infer_instance
  | .object entries => by
      have := fails_renderEntries entries
      rw [render]
      infer_instance

theorem fails_renderItems : ∀ items : List Value, Fails (renderItems items)
  | [] => by
      rw [renderItems]
      exact fails_ok _
  | v :: rest => by
      have := fails_render v
      have := fails_renderItems rest
      rw [renderItems]
      exact fails_bind

theorem fails_renderEntries : ∀ entries : List (String × Value), Fails (renderEntries entries)
  | [] => by
      rw [renderEntries]
      exact fails_ok _
  | (k, v) :: rest => by
      have := fails_render v
      have := fails_renderEntries rest
      rw [renderEntries]
      exact fails_bind

end

instance Endpoint.fails_reply (e : Endpoint) (v : Value) : Fails (e.reply v) := by
  have hval : Fails (e.answer.validate v) := fails_mapError _ fun _ _ _ h => nomatch h
  have hsen : ∀ v, Fails (sendable v) := by
    intro v
    have hbyt : ∀ s, Fails (Text.bytes s) := by
      refine fun s => ⟨fun status detail h => ?_⟩
      unfold Text.bytes at h
      split at h <;> cases h
    unfold sendable
    infer_instance
  have := fails_render
  exact fails_bind

open Handler (exec)

instance (event : String) (data : Row) : Failing (tell event data) :=
  Failing.bind ⟨fun _ => fails_ok _⟩ fun _ => inferInstance

instance fails_before (d : Date) (days : Int) : Fails (d.before days) := by
  have hspan : Fails (Span.ofDays days) := by
    refine ⟨fun status detail h => ?_⟩
    unfold Span.ofDays Span.ofMicros at h
    grind
  have hmov : ∀ n, Fails (d.moved n) := by
    refine fun n => ⟨fun status detail h => ?_⟩
    unfold Date.moved at h
    split at h <;> cases h
  exact fails_bind

instance fails_syncDays (c : Call) (today : Date) : Fails (syncDays c today) := by
  have hdate : ∀ name, Fails (dateArg? c name) := by
    intro name
    have := fun x : Except _ Date => fails_mapError x (f := Fault.notDate (textCell c.query name)) nofun
    unfold dateArg?
    split <;> infer_instance
  refine @fails_bind _ _ _ _ inferInstance fun last => @fails_bind _ _ _ _ inferInstance fun first => ?_
  split
  · exact fails_ok _
  · exact fails_bind

instance fails_syncSpan (c : Call) (today : Date) : Fails (syncSpan c today) := by
  unfold syncSpan
  dsimp only
  split
  · exact fails_ok _
  · exact fails_bind

instance (row changes : Row) : Failing (reviseCloudAccount row changes) := Handler.failing_update _ _ _

instance (c : Call) : Failing (cloudAccountOf c) := Handler.failing_byId _ _ _

instance (c : Call) : Failing (integrationOf c) := Handler.failing_byId _ _ _

instance failing_concludeSync (c : Call) (row : Row) (outcome : Result Connector.Ingestion) :
    Failing (concludeSync c row outcome) := by
  cases outcome <;> exact failing_bind

lemma failing_syncIntegration (c : Call) : Failing (syncIntegration c) := failing_bind

lemma failing_syncCloudAccount (c : Call) : Failing (syncCloudAccount c) := by
  refine .bind inferInstance fun _ => .bind inferInstance fun _ => .bind inferInstance fun _ =>
    .bind inferInstance fun _ => .bind inferInstance fun outcome => ?_
  cases outcome <;> exact failing_bind

variable {e : Endpoint} {r : Request} {s : Service} {response : Response} {id : String}

theorem served_of_answer {params : List String} (hrou : route endpoints r = .ok (e, params))
    (hsig : e.signedIn = false) (hfai : ∀ c, Failing (e.run c))
    (h : (answer endpoints s r).1 = .ok response) (hsta : response.status = 200) :
    ∃ c v, c.params = params ∧ Served r e c ∧ exec (e.run c) s = (.ok v, (answer endpoints s r).2) := by
  have href : ∀ {err : Fault}, Fails (.error err : Result Value) → reply (.error err) ≠ .ok response := by
    intro err herr hrep
    obtain ⟨status, detail, rfl, rfl⟩ := eq_http_of_reply hrep
    have hfil := herr.out status detail rfl
    dsimp only at hsta
    omega
  have hans := answered s r
  revert h hans
  generalize answer endpoints s r = answered
  intro h hans
  cases hans with
  | elsewhere =>
    cases h
    cases hsta
  | unknown hunk =>
    rw [hrou] at hunk
    cases hunk
  | @aside e' params' outcome hasi hout =>
    rw [hrou] at hasi
    cases hasi
    cases outcome with
    | ok response' =>
      cases h
      exact absurd (hout.symm.trans hsta) (by decide)
    | error err =>
      rw [Endpoint.SetsAside, hsig] at hout
      cases hout
  | @done e' c v s' response' hser hrun hrep =>
    have hsame := hser.route
    rw [hrou] at hsame
    cases hsame
    exact ⟨c, v, rfl, hser, hrun⟩
  | @failed e' c s' err hser hrun =>
    have hsame := hser.route
    rw [hrou] at hsame
    cases hsame
    refine absurd h (href ?_)
    rcases hrun with hrun | ⟨v, -, hrep⟩
    · exact ⟨fun status detail h => (hfai c).out s |>.out status detail ((congrArg Prod.fst hrun).trans (by cases h; rfl))⟩
    · exact ⟨fun status detail h => (e.fails_reply v).out status detail (hrep.trans (by cases h; rfl))⟩

lemma synced_of_answer (hr : r.syncs id = true) (h : (answer endpoints s r).1 = .ok response)
    (hsta : response.status = 200) : Synced s id (accounts (answer endpoints s r).2) := by
  unfold Request.syncs at hr
  split at hr
  · next e params hrou =>
      simp only [Bool.and_eq_true, contains_iff_mem, beq_iff_eq] at hr
      obtain ⟨hpath, rfl⟩ := hr
      obtain ⟨hsig, -, hsync⟩ := sync_of_mem (mem_of_route hrou) hpath
      have hfai : ∀ c, Failing (e.run c) := by
        rcases hsync with hsync | hsync
        · rw [hsync]
          exact failing_syncCloudAccount
        · rw [hsync]
          exact failing_syncIntegration
      obtain ⟨c, v, rfl, hser, hrun⟩ := served_of_answer hrou hsig hfai h hsta
      exact synced_of_served hser hpath hrun
  · cases hr

lemma accounts_of_exec_disconnect {what : String} {f : Row → Handler Value} {v : Value} {s' : Service}
    [∀ row, Leaves accounts (f row)]
    (h : exec (Handler.byId .cloudAccounts what id >>= fun row =>
      discard (reviseCloudAccount row [("status", "disconnected")]) >>= fun _ => f row) s = (.ok v, s')) :
    (∃ account ∈ accounts s, cell account "id" = .text id) ∧
      accounts s' = revised (.text id) s.world.now [("status", "disconnected")] (accounts s) := by
  obtain ⟨account, hacc, hid, h⟩ := Handler.exec_byId_bind_eq_ok h
  obtain ⟨_, s1, hrev, h⟩ := Handler.exec_bind_eq_ok.mp h
  rw [accounts_eq_of_leaves h, accounts_of_exec_discard_revise hrev, hid]
  exact ⟨⟨account, hacc, hid⟩, rfl⟩

lemma disconnected_of_answer (hr : r.disconnects id = true) (h : (answer endpoints s r).1 = .ok response)
    (hsta : response.status = 200) :
    (∃ account ∈ accounts s, cell account "id" = .text id) ∧
      accounts (answer endpoints s r).2 =
        revised (.text id) s.world.now [("status", "disconnected")] (accounts s) := by
  unfold Request.disconnects at hr
  split at hr
  · next e params hrou =>
      simp only [Bool.and_eq_true, contains_iff_mem, beq_iff_eq] at hr
      obtain ⟨⟨hmet, hpath⟩, rfl⟩ := hr
      simp only [accountPaths, mem_cons, not_mem_nil, or_false] at hpath
      rcases hpath with hpath | hpath
      · obtain rfl := eq_of_path (mem_of_route hrou)
          (mem_endpoints_of_account (.inl (get_mem cloudAccountEndpoints ⟨4, by decide⟩))) hmet hpath
        have hfai : ∀ c, Failing (do
            discard (reviseCloudAccount (← cloudAccountOf c) [("status", "disconnected")])
            return done "Account disconnected successfully") := fun c => failing_bind
        obtain ⟨c, v, rfl, -, hrun⟩ := served_of_answer hrou rfl hfai h hsta
        exact accounts_of_exec_disconnect hrun
      · obtain rfl := eq_of_path (mem_of_route hrou)
          (mem_endpoints_of_account (.inr (get_mem integrationEndpoints ⟨5, by decide⟩))) hmet hpath
        have hfai : ∀ c, Failing (disconnectIntegration c) := fun c => failing_bind
        obtain ⟨c, v, rfl, -, hrun⟩ := served_of_answer hrou rfl hfai h hsta
        exact accounts_of_exec_disconnect hrun
  · cases hr

end Api

end CloudSpend
