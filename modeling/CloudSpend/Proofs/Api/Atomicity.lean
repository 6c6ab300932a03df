import CloudSpend.Proofs.Api.Sendable
import CloudSpend.Proofs.Api.Syncs

/-! # Requests that fail -/

namespace CloudSpend

open Handler List Entries Text.IsAscii
open Text (IsWhole)

namespace Form.Shape

variable {v w : Value}

lemma text_of_check (h : anyText.check w = .ok v) : ∃ s, v = .text s ∧ IsWhole s := by
  cases w with
  | text s =>
    rw [anyText, check] at h
    split at h
    · next hfits =>
        simp only [Bool.and_eq_true, Option.isNone_iff_eq_none] at hfits
        exact ⟨s, by simpa using h.symm, (Text.halves?_eq_none_iff s).mp hfits.2⟩
    · cases h
  | _ => simp [anyText, check] at h

lemma list_of_check {item : Shape} (h : (list item).check w = .ok v) : ∃ xs, v = .list xs := by
  cases w with
  | list ws =>
    rw [check] at h
    obtain ⟨xs, -, hxs⟩ := Result.map_eq_ok.mp h
    exact ⟨xs, hxs.symm⟩
  | _ => simp [check] at h

end Form.Shape

lemma Webhook.isSendable_of_exec_create {body : Row} {hook : Hook} {w w' : World}
    (hbody : ∀ key s, get? body key = some (.text s) → IsWhole s)
    (h : Run.exec (create body) w = (.ok hook, w')) : IsSendable hook.toValue := by
  let text? (key : String) : Option String := (get? body key).bind Value.text?
  have htext : ∀ key s, text? key = some s → IsWhole s := by
    intro key s hs
    obtain ⟨v, hv, hs⟩ := Option.bind_eq_some_iff.mp hs
    cases v with
    | text _ =>
      cases hs
      exact hbody key s hv
    | _ => cases hs
  have hadd : IsWhole ((text? "url").getD "") := by
    cases hurl : text? "url" with
    | none => exact isWhole (by decide)
    | some s => exact htext _ s hurl
  have hdes : IsSendable (Value.ofText? (text? "description")) := by
    cases hsome : text? "description" with
    | none => exact .null
    | some s => exact .text (htext _ s hsome)
  unfold create at h
  dsimp only at h
  split at h
  · simp at h
  · next hkno =>
      obtain ⟨n, w1, -, h⟩ := Run.exec_bind_eq_ok.mp h
      obtain ⟨now, w2, -, h⟩ := Run.exec_bind_eq_ok.mp h
      simp only [Run.exec_pure, Prod.mk.injEq, Except.ok.injEq] at h
      obtain ⟨rfl, -⟩ := h
      have hkeys : ∀ k ∈ ["id", "url", "events", "description", "active", "created_at"], Text.IsAscii k := by
        decide
      have heve : ∀ e ∈ Webhook.events, Text.IsAscii e := by decide
      refine .object (fun e he => (hkeys e.1 ?_).isWhole) fun e he => ?_
      · grind
      · simp only [List.mem_cons, List.not_mem_nil, or_false] at he
        rcases he with rfl | rfl | rfl | rfl | rfl | rfl
        · exact .text (Text.isAscii_groupIdentifier (Text.isAscii_hex _ _)).isWhole
        · exact .text hadd
        · refine .texts fun event heen => (heve event ?_).isWhole
          simp only [Bool.not_eq_true', Bool.not_eq_false, List.isEmpty_iff,
            List.filter_eq_nil_iff] at hkno
          simpa using hkno event heen
        · exact hdes
        · exact .bool true
        · exact .text now.isAscii_text.isWhole

namespace Api

open Handler (exec Built)

def memory (s : Service) : Webhook.Registry × Cluster.Store := (s.webhooks, s.clusters)

def IsOrderly (h : Handler Value) : Prop :=
  ∀ s, match exec h s with
    | (.error _, s') => memory s' = memory s
    | (.ok v, _) => IsSendable v

lemma Endpoint.exists_reply {e : Endpoint} (he : e.answer = .any) {v : Value} (hv : IsSendable v) :
    ∃ response, e.reply v = .ok response := by
  have hval : e.answer.validate v = .ok v := by
    rw [he]
    rfl
  refine ⟨⟨e.status, v⟩, ?_⟩
  simp only [Endpoint.reply, hval, hv.render_eq, hv.sendable_eq, bind, Except.bind]
  rfl

lemma isOrderly_addWebhook {c : Call}
    (hbody : ∀ key s, get? c.body key = some (.text s) → IsWhole s) : IsOrderly (addWebhook c) := by
  intro s
  unfold addWebhook
  rw [exec_bind, exec_liftM_run]
  rcases hcre : Run.exec (Webhook.create c.body) s.world with ⟨err | hook, w⟩
  · rfl
  · exact Webhook.isSendable_of_exec_create hbody hcre

lemma isSendable_done {message : String} (h : IsWhole message) : IsSendable (done message) := by
  refine .object (fun e he => ?_) fun e he => ?_
  · rw [mem_singleton.mp he]
    exact isWhole (s := "message") (by decide)
  · rw [mem_singleton.mp he]
    exact .text h

lemma isOrderly_removeWebhook (c : Call) : IsOrderly (removeWebhook c) := by
  intro s
  unfold removeWebhook
  rw [exec_bind_ok (exec_get s), exec_bind, exec_liftM_result]
  rcases s.webhooks.remove (.text c.param) with err | hooks
  · rfl
  · exact isSendable_done (isWhole (by decide))

lemma isOrderly_pushReport {c : Call}
    (hque : ∀ key s, get? c.query key = some (.text s) → IsWhole s)
    (hbody : ∀ key ∈ ["nodes", "pods"], ∀ v, get? c.body key = some v → ∃ xs, v = .list xs) :
    IsOrderly (pushReport c) := by
  have hsize : ∀ key ∈ ["nodes", "pods"], ∃ n, ((get? c.body key).getD (.list [])).size = .ok n := by
    intro key hkey
    cases hget : get? c.body key with
    | none => exact ⟨0, rfl⟩
    | some v =>
      obtain ⟨xs, rfl⟩ := hbody key hkey v hget
      exact ⟨xs.length, rfl⟩
  obtain ⟨nodes, hnod⟩ := hsize "nodes" (by decide)
  obtain ⟨pods, hpods⟩ := hsize "pods" (by decide)
  have hclu : IsWhole (Store.textCell c.query "cluster_id") := by
    rw [Store.textCell, Store.cell]
    cases hget : get? c.query "cluster_id" with
    | none => exact isWhole (by decide)
    | some v =>
      cases v with
      | text s => exact hque _ s hget
      | _ => exact isWhole (s := "") (by decide)
  intro s
  have hack : Cluster.acknowledge (Store.textCell c.query "cluster_id") c.body =
      .ok (.object [("status", "ok"), ("cluster_id", .text (Store.textCell c.query "cluster_id"))]) := by
    simp only [Cluster.acknowledge, hnod, hpods, bind, Except.bind]
    rfl
  unfold pushReport
  dsimp only
  rw [exec_bind_ok (exec_now s), exec_bind, exec_modify]
  dsimp only
  rw [exec_liftM_result, hack]
  refine .object (fun e he => ?_) fun e he => ?_
  · simp only [mem_cons, not_mem_nil, or_false] at he
    rcases he with rfl | rfl
    · exact isWhole (s := "status") (by decide)
    · exact isWhole (s := "cluster_id") (by decide)
  · simp only [mem_cons, not_mem_nil, or_false] at he
    rcases he with rfl | rfl
    · exact .text (isWhole (by decide))
    · exact .text hclu

variable {e : Endpoint} {r : Request} {c : Call}

lemma leaves_memory_or_isOrderly (he : e ∈ endpoints) (htak : e.Takes r c) :
    Leaves memory (e.run c) ∨ (e.answer = .any ∧ IsOrderly (e.run c)) := by
  have hmem : ∀ {ts}, Built ts (e.run c) → Leaves memory (e.run c) := fun h => h.leaves.of_comp Prod.snd
  rcases group_of_mem he with ⟨g, hg, he⟩ | hbui | ⟨hrun, hque, hbody, hany⟩ | ⟨hrun, hbody, hany⟩ |
    ⟨hrun, hany⟩
  · exact .inl (hmem (built_of_mem_group hg (fun _ _ => not_mem_nil) he c))
  · exact .inl (hmem (hbui [] c))
  · refine .inr ⟨hany, ?_⟩
    rw [hrun]
    refine isOrderly_pushReport (fun key s hget => ?_) fun key hkey v hget => ?_
    · obtain ⟨shape, default, hfie, hval⟩ := param_of_takes htak (mem_of_get? hget)
      rw [hque, mem_singleton] at hfie
      cases hfie
      rcases hval with ⟨w, hche⟩ | hdef
      · obtain ⟨t, ht, hwho⟩ := Form.Shape.text_of_check hche
        cases ht
        exact hwho
      · cases hdef
    · obtain ⟨shape, default, hfie, hval⟩ := entry_of_takes htak hbody (mem_of_get? hget)
      simp only [mem_cons, not_mem_nil, or_false, Form.required, Form.withDefault, Form.maybe,
        Prod.mk.injEq] at hfie hkey
      rcases hkey with rfl | rfl
      all_goals
        simp only [String.reduceEq, false_and, or_false, false_or, true_and] at hfie
        obtain ⟨rfl, rfl⟩ := hfie
        rcases hval with ⟨w, hche⟩ | hdef
        · exact Form.Shape.list_of_check hche
        · exact ⟨[], by simpa using hdef.symm⟩
  · refine .inr ⟨hany, ?_⟩
    rw [hrun]
    refine isOrderly_addWebhook fun key s hget => ?_
    obtain ⟨shape, default, hfie, hval⟩ := entry_of_takes htak hbody (mem_of_get? hget)
    have hwho : ∀ {w}, Form.Shape.anyText.check w = .ok (.text s) → IsWhole s := by
      intro w hche
      obtain ⟨t, ht, hwho⟩ := Form.Shape.text_of_check hche
      cases ht
      exact hwho
    simp only [mem_cons, not_mem_nil, or_false, Form.required, Form.maybe, Prod.mk.injEq] at hfie
    rcases hfie with ⟨-, rfl, rfl⟩ | ⟨-, rfl, rfl⟩ | ⟨-, rfl, rfl⟩ | ⟨-, rfl, rfl⟩
    · grind
    · rcases hval with ⟨w, hche⟩ | hdef
      · obtain ⟨xs, hxs⟩ := Form.Shape.list_of_check hche
        cases hxs
      · cases hdef
    all_goals
      rcases hval with ⟨w, hche⟩ | hdef
      · rw [Form.Shape.check] at hche
        split at hche
        · cases hche
        · exact hwho hche
      · cases hdef
  · refine .inr ⟨hany, ?_⟩
    rw [hrun]
    exact isOrderly_removeWebhook c

lemma memory_of_failed {s s' : Service} {err : Fault} (h : Served r e c)
    (hrun : exec (e.run c) s = (.error err, s') ∨
      ∃ v, exec (e.run c) s = (.ok v, s') ∧ e.reply v = .error err) : memory s' = memory s := by
  rcases leaves_memory_or_isOrderly (mem_of_route h.route) h.takes with hlea | ⟨hany, hord⟩
  · rcases hrun with hrun | ⟨v, hrun, -⟩ <;> exact hlea.view_eq hrun
  · have hends := hord s
    rcases hrun with hrun | ⟨v, hrun, hrep⟩
    · rwa [hrun] at hends
    · rw [hrun] at hends
      obtain ⟨response, hsent⟩ := Endpoint.exists_reply hany hends
      rw [hsent] at hrep
      cases hrep

/-- A request that is not answered, or with a status of a failure, changes no row, no webhook and no
report of a cluster. -/
theorem failed_request_changes_nothing (s : Service) (r : Request)
    (h : ∀ response, (answer endpoints s r).1 = .ok response → 400 ≤ response.status) :
    let after := (answer endpoints s r).2
    after.store = s.store ∧ after.webhooks = s.webhooks ∧ after.clusters = s.clusters := by
  have hsta : ∀ e ∈ endpoints, e.status < 400 := by decide +kernel
  have hans := answered s r
  revert h hans
  generalize answer endpoints s r = answered
  intro h hans
  cases hans with
  | elsewhere | unknown | aside => exact ⟨rfl, rfl, rfl⟩
  | done hser hrun hrep =>
    have hfai := h _ rfl
    rw [Endpoint.status_of_reply hrep] at hfai
    exact absurd (hsta _ (mem_of_route hser.route)) (Nat.not_lt.mpr hfai)
  | failed hser hrun =>
    obtain ⟨hhoo, hclu⟩ := Prod.mk.inj (memory_of_failed hser hrun)
    exact ⟨rfl, hhoo, hclu⟩

def untoldService : Service where
  world := { chargingWorld with outside := { chargingWorld.outside with
    web := fun _ _ => .error (.runtime (String.ofList [Char.ofNat 0x10D800])) } }
  store := [integrationEntry "1" "datadog"]

/-- That the integration failed is stored before the answer cannot be sent, and then it is as it was. -/
theorem failed_request_changes_nothing_after_update :
    (accounts (exec (syncIntegration ⟨["1"], [], [], [], []⟩) untoldService).2).map
        (Store.textCell · "status") = ["error"] ∧
      (answer endpoints untoldService syncRequest).1.toOption.isNone = true ∧
      (answer endpoints untoldService syncRequest).2.store = untoldService.store := by
  have hnone : (answer endpoints untoldService syncRequest).1.toOption.isNone = true := by
    rw [answer_syncRequest]
    decide +kernel
  refine ⟨by decide +kernel, hnone, (failed_request_changes_nothing _ _ fun response hok => ?_).1⟩
  rw [hok] at hnone
  cases hnone

end Api

end CloudSpend
