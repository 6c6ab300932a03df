import CloudSpend.Proofs.Api.Isolation

/-! # Delivery to webhooks -/

namespace CloudSpend

open List Run

lemma Run.world_sendTo (answers : List Web.Request → Web.Request → Result Web.Reply) (r : Web.Request) (w : World) :
    (exec (sendTo answers r) w).2 = { w with web := w.web ++ [r] } := by
  unfold sendTo
  rw [exec_bind_ok (exec_get w), exec_bind_ok (exec_set w _)]
  exact (leaves_bind : Leaves (fun w : World => w) _).out _

lemma Run.exec_recover_discard {α : Type} (x : Run α) (w : World) :
    exec (recover (discard x) fun _ => pure ()) w = (.ok (), (exec x w).2) := by
  have hdis : discard x = x >>= fun _ => pure PUnit.unit := rfl
  rw [exec_recover, hdis]
  rcases h : exec x w with ⟨e | a, w'⟩
  · rw [exec_bind_of_error h]
    rfl
  · rw [exec_bind_ok h]
    rfl

namespace Webhook

def post (text : String) (h : Hook) : Web.Request where
  method := "POST"
  url := h.url
  content := some (.text text)
  headers := some (.object (headers h.secret text))

def told (event : String) (now : Timestamp) (data : Value) : String :=
  Json.write (.object [("event", .text event), ("timestamp", .text now.text), ("data", data)])

variable (receivers : List Web.Request → Web.Request → Result Web.Reply)

lemma exec_deliver (h : Hook) (text : String) (w : World) :
    exec (deliver receivers h text) w = (.ok (), { w with web := w.web ++ [post text h] }) := by
  refine (exec_recover_discard _ w).trans ?_
  rw [world_sendTo]
  rfl

lemma exec_dispatch (r : Registry) (event : String) {data : Value} (hdata : Json.foreign? data = none) (w : World) :
    exec (dispatch receivers r event data) w =
      (.ok (), { w with web := w.web ++ (r.interested event).map (post (told event w.now data)) }) := by
  have hfor : Json.foreign? (.object [("event", .text event), ("timestamp", .text w.now.text), ("data", data)]) =
      none := by simp [Json.foreign?, Json.foreignInTable?, hdata]
  have hbody : body event w.now data = .ok (told event w.now data) := by
    rw [body, Json.encode, hfor]
    rfl
  unfold dispatch
  generalize r.interested event = hooks
  refine exec_bind_ok (a := PUnit.unit) ?_ _
  induction hooks generalizing w with
  | nil => simp
  | cons h hooks ih =>
    have hnow : exec Run.now w = (.ok w.now, w) := rfl
    have hlift : exec (liftM (body event w.now data)) w = (.ok (told event w.now data), w) := by rw [hbody, exec_liftM]
    rw [forIn_cons, exec_bind_ok ((exec_bind_ok hnow _).trans
      ((exec_bind_ok hlift _).trans (exec_bind_ok (exec_deliver receivers h _ w) _)))]
    grind

lemma signed_iff (secret : Option String) (text : String) :
    Entries.has (headers secret text) "X-CloudPulse-Signature" = true ↔ ∃ key, secret = some key ∧ key ≠ "" := by
  unfold headers
  cases secret with
  | none => simp [Entries.has]
  | some key => by_cases hkey : key = "" <;> simp [Entries.has, hkey]

inductive Event where
  | registered (h : Hook)
  | deleted (id : String)

def Event.apply (r : Registry) : Event → Registry
  | registered h => r ++ [h]
  | deleted id => r.filter fun h => !(id == h.id)

def isDeleted (h : Hook) : List Event → Bool
  | [] => false
  | .registered _ :: later => isDeleted h later
  | .deleted id :: later => id == h.id || isDeleted h later

def live : List Event → Registry
  | [] => []
  | .registered h :: later => if isDeleted h later then live later else h :: live later
  | .deleted _ :: later => live later

lemma foldl_apply (log : List Event) (r : Registry) :
    log.foldl Event.apply r = (r.filter fun h => !isDeleted h log) ++ live log := by
  induction log generalizing r with
  | nil =>
    rw [live, append_nil]
    exact (filter_eq_self.mpr fun _ _ => rfl).symm
  | cons e log ih =>
    rw [foldl_cons, ih]
    cases e with
    | registered h => cases hgone : isDeleted h log <;> simp [Event.apply, live, isDeleted, hgone]
    | deleted id => simp only [Event.apply, live, filter_filter, isDeleted, Bool.not_or, Bool.and_comm]

end Webhook

namespace Api

open Handler
open Webhook (live post)

inductive Change where
  | register (c : Call)
  | delete (c : Call)

namespace Change

def run : Change → Handler Value
  | register c => addWebhook c
  | delete c => removeWebhook c

def event? (w : World) : Change → Option Webhook.Event
  | register c => (Run.exec (Webhook.create c.body) w).1.toOption.map .registered
  | delete c => some (.deleted c.param)

end Change

def afterChanges (s : Service) (changes : List (World × Change)) : Service :=
  changes.foldl (fun s p => (exec p.2.run { s with world := p.1 }).2) s

lemma webhooks_change (s : Service) (change : Change) :
    (exec change.run s).2.webhooks = (change.event? s.world).toList.foldl Webhook.Event.apply s.webhooks := by
  cases change with
  | register c =>
    dsimp only [Change.run, addWebhook, Change.event?]
    rw [Handler.exec_bind, exec_liftM_run]
    rcases Run.exec (Webhook.create c.body) s.world with ⟨err | hook, w⟩ <;> rfl
  | delete c =>
    dsimp only [Change.run, removeWebhook, Change.event?]
    rw [exec_bind_ok (exec_get s), Handler.exec_bind, exec_liftM_result, Webhook.Registry.remove]
    by_cases hhas : s.webhooks.has (.text c.param) = true
    · rw [if_pos hhas]
      rfl
    · rw [if_neg hhas]
      refine (filter_eq_self.mpr fun h hh => ?_).symm
      simp only [Webhook.Registry.has, any_eq_true, not_exists, not_and, beq_iff_eq] at hhas
      simpa using fun heq => hhas h hh (congrArg some heq)

lemma exec_tell (event : String) {data : Row} (hdata : Json.foreign? (.object data) = none) (s : Service) :
    exec (tell event data) s = (.ok (), { s with world := { s.world with
      web := s.world.web ++ (s.webhooks.interested event).map (post (Webhook.told event s.world.now (.object data))) } }) := by
  have hget : exec (getThe Service) s = (.ok s, s) := rfl
  unfold tell
  rw [exec_bind_ok hget, exec_liftM_run, Webhook.exec_dispatch _ _ event hdata]

/-- Whatever has been registered and deleted, an event is told once to each active webhook that is there and has it among
its events, in the order of the registrations and to no other, signed if there is a secret; the answers of the
receivers change nothing, and the registrations stay as they are. -/
theorem told_once {s : Service} (hs : s.webhooks = []) (changes : List (World × Change)) (w : World) (event : String)
    {data : Row} (hdata : Json.foreign? (.object data) = none) :
    let s' := { afterChanges s changes with world := w }
    let hooks := (live (changes.filterMap fun p => p.2.event? p.1)).filter fun h => h.active && h.events.contains event
    exec (tell event data) s' =
        (.ok (), { s' with world := { w with web := w.web ++ hooks.map (post (Webhook.told event w.now (.object data))) } }) ∧
      ∀ (h : Webhook.Hook) text, Entries.has (Webhook.headers h.secret text) "X-CloudPulse-Signature" = true ↔
        ∃ key, h.secret = some key ∧ key ≠ "" := by
  intro s' hooks
  have hlog : (afterChanges s changes).webhooks = live (changes.filterMap fun p => p.2.event? p.1) := by
    have hfold : ∀ s : Service, (afterChanges s changes).webhooks =
        (changes.filterMap fun p => p.2.event? p.1).foldl Webhook.Event.apply s.webhooks := by
      induction changes with
      | nil => exact fun _ => rfl
      | cons p changes ih =>
        intro s
        have hstep := webhooks_change { s with world := p.1 } p.2
        rw [afterChanges, foldl_cons, ← afterChanges, ih, hstep, filterMap_cons]
        cases p.2.event? p.1 <;> rfl
    rw [hfold, hs, Webhook.foldl_apply, filter_nil, nil_append]
  have hhoo : s'.webhooks.interested event = hooks := congrArg (Webhook.Registry.interested · event) hlog
  exact ⟨hhoo ▸ exec_tell event hdata s', fun h text => Webhook.signed_iff h.secret text⟩

def subscribe (url : String) (secret : Value) : Change :=
  .register ⟨[], [], [("url", .text url), ("events", .list ["sync.failed", "sync.failed"]), ("secret", secret)], [], []⟩

def twoRegistered : List (World × Change) :=
  [(silentWorld, subscribe "http://a" .null), ({ silentWorld with ids := 1 }, subscribe "http://b" "k"),
    (silentWorld, .delete ⟨["00000000-0000-0000-0000-000000000001"], [], [], [], []⟩)]

theorem told_once_of_deleted : (exec (tell "sync.failed" []) { afterChanges { world := silentWorld } twoRegistered with
    world := silentWorld }).2.world.web.map (·.url.text?) = [some "http://b"] := by
  rw [(told_once rfl twoRegistered silentWorld "sync.failed" rfl).1]
  decide

end Api

end CloudSpend
