import CloudSpend.Proofs.Api.Refusals
import CloudSpend.Proofs.Api.SyncState

/-! # Disconnected accounts -/

namespace CloudSpend.Api

open List Store Entries
open Store (Table cell textCell holds)

variable {s : Service} {id status : String} {rows rows' : List Row}

structure HasStatus (id status : String) (rows : List Row) : Prop where
  kept : ∃ row ∈ rows, cell row "id" = .text id
  status : ∀ row ∈ rows, cell row "id" = .text id → cell row "status" = .text status

def IsDisconnected (id : String) (s : Service) : Prop :=
  HasStatus id "disconnected" (accounts s) ∧
    ∀ row ∈ s.store.select .cloudAccounts isConnected, cell row "id" ≠ .text id

def Request.Synchronises (r : Request) (id : String) (s : Service) : Prop :=
  r.syncs id = true ∧ ∃ response, (answer endpoints s r).1 = .ok response ∧ response.status = 200

def concludedStatus : Except String Value → String
  | .ok _ => "active"
  | .error _ => "error"

lemma isRow_of_edited (h : ∀ row ∈ rows, Table.IsRow .cloudAccounts row) (hedi : Edited rows rows') :
    ∀ row ∈ rows', Table.IsRow .cloudAccounts row :=
  hedi.forall h (fun _ hnew => hnew.isRow) (fun _ now _ _ hrow => isRow_revise hrow now _)
    fun _ now hrow => isRow_revise hrow now _

lemma isRow_of_synced (h : ∀ row ∈ accounts s, Table.IsRow .cloudAccounts row) (hsyn : Synced s id rows) :
    ∀ row ∈ rows, Table.IsRow .cloudAccounts row := by
  cases hsyn with
  | intro _ _ _ now =>
    exact forall_revised (forall_revised h fun _ hrow => isRow_revise hrow _ _)
      fun _ hrow => isRow_revise hrow now _

lemma isRow_afterSteps (h : ∀ row ∈ accounts s, Table.IsRow .cloudAccounts row)
    (steps : List (World × Request)) :
    ∀ row ∈ accounts (afterSteps s steps), Table.IsRow .cloudAccounts row := by
  refine afterSteps_invariant (P := fun s => ∀ row ∈ accounts s, Table.IsRow .cloudAccounts row) ?_ h steps
  intro s w r hs
  rcases accounts_answer { s with world := w } r with hedi | ⟨id, response, -, -, -, hsyn⟩
  · exact isRow_of_edited hs hedi
  · exact isRow_of_synced (s := { s with world := w }) hs hsyn

variable {v : Value} {now : Timestamp} {changes : Row}

lemma cell_id_revised {row : Row} (hid : get? changes "id" = none) :
    cell (if holds "id" v row then Table.revise .cloudAccounts now changes row else row) "id" =
      cell row "id" := by
  split
  · exact cell_revise_of_none (by decide) hid now
  · rfl

lemma hasStatus_revised (hkept : ∃ row ∈ rows, cell row "id" = .text id)
    (hid : get? changes "id" = none)
    (hsta : ∀ row ∈ rows, cell row "id" = .text id → cell (if holds "id" v row then Table.revise .cloudAccounts now changes row else row) "status" = .text status) :
    HasStatus id status (revised v now changes rows) where
  kept := by
    obtain ⟨row, hrow, hrwi⟩ := hkept
    exact ⟨_, mem_map_of_mem hrow, (cell_id_revised hid).trans hrwi⟩
  status row' hrow' hrwi := by
    obtain ⟨row, hrow, rfl⟩ := mem_map.mp hrow'
    exact hsta row hrow ((cell_id_revised hid).symm.trans hrwi)

lemma hasStatus_given (hrows : ∀ row ∈ rows, Table.IsRow .cloudAccounts row)
    (hkept : ∃ row ∈ rows, cell row "id" = .text id) (hid : get? changes "id" = none)
    (hsta : status ∈ syncStates.members)
    (hgiv : get? changes "status" = some (.text status)) :
    HasStatus id status (revised (.text id) now changes rows) := by
  refine hasStatus_revised hkept hid fun row hrow hrwi => ?_
  have hhol : holds "id" (.text id) row = true := same_text_iff.mpr hrwi
  rw [if_pos hhol]
  exact cell_status_revise (hrows row hrow) hsta hgiv now

lemma concludedStatus_eq (outcome : Except String Value) :
    concludedStatus outcome = "active" ∨ concludedStatus outcome = "error" := by
  cases outcome <;> simp [concludedStatus]

theorem hasStatus_of_synced (hrows : ∀ row ∈ accounts s, Table.IsRow .cloudAccounts row)
    (hsyn : Synced s id rows) :
    ∃ account ∈ accounts s, cell account "id" = .text id ∧ ∃ outcome, Fetched account s.world outcome ∧
      HasStatus id (concludedStatus outcome) rows := by
  cases hsyn with
  | @intro account hacc hid outcome hfet now =>
    refine ⟨account, hacc, hid, outcome, hfet, ?_⟩
    have hsar : HasStatus id "syncing"
        (revised (.text id) s.world.now [("status", "syncing")] (accounts s)) :=
      hasStatus_given hrows ⟨account, hacc, hid⟩ rfl (by decide) rfl
    have hsti : ∀ row ∈ revised (.text id) s.world.now [("status", "syncing")] (accounts s),
        Table.IsRow .cloudAccounts row := forall_revised hrows fun _ hrow => isRow_revise hrow _ _
    have hmem : concludedStatus outcome ∈ syncStates.members := by
      rcases concludedStatus_eq outcome with hsta | hsta <;> rw [hsta] <;> decide
    exact hasStatus_given hsti hsar.kept (by cases outcome <;> rfl) hmem (by cases outcome <;> rfl)

lemma hasStatus_of_disconnected {r : Request} {response : Response}
    (hrows : ∀ row ∈ accounts s, Table.IsRow .cloudAccounts row) (hr : r.disconnects id = true)
    (h : (answer endpoints s r).1 = .ok response) (hsta : response.status = 200) :
    (∀ row ∈ accounts (answer endpoints s r).2, Table.IsRow .cloudAccounts row) ∧
      HasStatus id "disconnected" (accounts (answer endpoints s r).2) := by
  obtain ⟨hkept, hacc⟩ := disconnected_of_answer hr h hsta
  rw [hacc]
  exact ⟨forall_revised hrows fun _ hrow => isRow_revise hrow _ _,
    hasStatus_given hrows hkept rfl (by decide) rfl⟩

namespace HasStatus

lemma eq {status' : String} (h : HasStatus id status rows) (h' : HasStatus id status' rows) :
    status = status' := by
  obtain ⟨row, hrow, hid⟩ := h.kept
  exact Value.text.inj ((h.status row hrow hid).symm.trans (h'.status row hrow hid))

lemma isDisconnected (h : HasStatus id "disconnected" (accounts s)) : IsDisconnected id s := by
  refine ⟨h, fun row hrow hid => ?_⟩
  obtain ⟨hmem, hcon⟩ := mem_filter.mp hrow
  have hdis : holds "status" "disconnected" row = true :=
    same_text_iff.mpr (h.status row hmem hid)
  rw [isConnected, hdis] at hcon
  cases hcon

lemma revised (h : HasStatus id status rows) (hid : get? changes "id" = none)
    (hsta : ∀ row ∈ rows, cell row "id" = .text id → holds "id" v row = true →
      cell (Table.revise .cloudAccounts now changes row) "status" = cell row "status") :
    HasStatus id status (revised v now changes rows) := by
  refine hasStatus_revised h.kept hid fun row hrow hrwi => ?_
  split
  · next hhol => rw [hsta row hrow hrwi hhol, h.status row hrow hrwi]
  · exact h.status row hrow hrwi

lemma edited (h : HasStatus id "disconnected" rows) (hedi : Edited rows rows') :
    HasStatus id "disconnected" rows' := by
  cases hedi with
  | same => exact h
  | @added row hid hnew =>
    obtain ⟨account, hacc, haco⟩ := h.kept
    refine ⟨⟨account, mem_append_left _ hacc, haco⟩, fun row' hrow' hrwi => ?_⟩
    rcases mem_append.mp hrow' with hrow' | hrow'
    · exact h.status row' hrow' hrwi
    all_goals grind
  | renamed v now hcha =>
    refine h.revised ?_ fun row _ _ _ => cell_of_renamed hcha (by decide) now
    exact lookup_eq_none_iff.mpr fun p hp => by
      grind
  | disconnected v now =>
    refine h.revised rfl fun row hrow hrwi _ => ?_
    have hsame : Table.revise .cloudAccounts now [("status", "disconnected")] row = row :=
      if_pos (by simpa using same_text_iff.mpr (h.status row hrow hrwi))
    rw [hsame]

lemma synced {other : String} (h : HasStatus id status (accounts s)) (hoth : other ≠ id)
    (hsyn : Synced s other rows) : HasStatus id status rows := by
  have hnot : ∀ {row : Row}, cell row "id" = .text id → holds "id" (.text other) row ≠ true := by
    intro row hid hhol
    exact hoth (Value.text.inj ((same_text_iff.mp hhol).symm.trans hid))
  cases hsyn with
  | @intro _ _ _ outcome _ now =>
    refine (h.revised rfl fun row _ hid hhol => absurd hhol (hnot hid)).revised ?_
      fun row _ hid hhol => absurd hhol (hnot hid)
    cases outcome <;> rfl

lemma answer {r : Request} (h : HasStatus id "disconnected" (accounts s)) (hnot : ¬ r.Synchronises id s) :
    HasStatus id "disconnected" (accounts (answer endpoints s r).2) := by
  rcases accounts_answer s r with hedi | ⟨other, response, hsyn, hok, hsta, hsnc⟩
  · exact h.edited hedi
  · refine h.synced ?_ hsnc
    rintro rfl
    exact hnot ⟨hsyn, response, hok, hsta⟩

lemma afterSteps {steps : List (World × Request)} (h : HasStatus id "disconnected" (accounts s))
    (hnot : ∀ earlier w r later, steps = earlier ++ (w, r) :: later →
      ¬ r.Synchronises id { afterSteps s earlier with world := w }) :
    HasStatus id "disconnected" (accounts (afterSteps s steps)) := by
  induction steps generalizing s with
  | nil => exact h
  | cons step steps ih =>
    refine ih (h.answer (s := { s with world := step.1 }) (hnot [] step.1 step.2 steps rfl)) ?_
    intro earlier w r later hste
    exact hnot (step :: earlier) w r later (by rw [hste, cons_append])

end HasStatus

/-- After an account was disconnected, it is disconnected in all states of a run exactly if no request of the run
synchronises it. -/
theorem disconnected_until_synced {r : Request} {response : Response}
    (hrows : ∀ row ∈ accounts s, Table.IsRow .cloudAccounts row) (hr : r.disconnects id = true)
    (h : (answer endpoints s r).1 = .ok response) (hstatus : response.status = 200)
    (steps : List (World × Request)) :
    let s₀ := (answer endpoints s r).2
    ((∀ earlier, earlier <+: steps → IsDisconnected id (afterSteps s₀ earlier)) ↔
        ∀ earlier w r' later, steps = earlier ++ (w, r') :: later →
          ¬ r'.Synchronises id { afterSteps s₀ earlier with world := w }) ∧
      ∀ earlier w r' later, steps = earlier ++ (w, r') :: later →
        r'.Synchronises id { afterSteps s₀ earlier with world := w } →
        ∃ account ∈ accounts (afterSteps s₀ earlier), cell account "id" = .text id ∧
          ∃ outcome, Fetched account w outcome ∧
            HasStatus id (concludedStatus outcome) (accounts (afterSteps s₀ (earlier ++ [(w, r')]))) := by
  obtain ⟨hrows₀, hdis⟩ := hasStatus_of_disconnected hrows hr h hstatus
  intro s₀
  have hsync : ∀ earlier w r', r'.Synchronises id { afterSteps s₀ earlier with world := w } →
      ∃ account ∈ accounts (afterSteps s₀ earlier), cell account "id" = .text id ∧
        ∃ outcome, Fetched account w outcome ∧
          HasStatus id (concludedStatus outcome) (accounts (afterSteps s₀ (earlier ++ [(w, r')]))) := by
    rintro earlier w r' ⟨hsyn, response', hok, hstatus'⟩
    rw [afterSteps_append]
    exact hasStatus_of_synced (s := { afterSteps s₀ earlier with world := w })
      (isRow_afterSteps hrows₀ earlier) (synced_of_answer hsyn hok hstatus')
  refine ⟨⟨fun hall earlier w r' later hste hsnc => ?_, fun hnot earlier hear => ?_⟩,
    fun earlier w r' _ _ => hsync earlier w r'⟩
  · obtain ⟨_, _, _, outcome, _, hcon⟩ := hsync earlier w r' hsnc
    obtain ⟨hsti, -⟩ := hall (earlier ++ [(w, r')]) ⟨later, by rw [hste, append_assoc]; rfl⟩
    have hend := hcon.eq hsti
    rcases concludedStatus_eq outcome with hstatus | hstatus <;> simp [hstatus] at hend
  · obtain ⟨rest, hrest⟩ := hear
    refine (hdis.afterSteps fun before w r' after hspl => ?_).isDisconnected
    grind

lemma answer_disconnectRequest_unsynced : ∃ response,
    (answer endpoints unsyncedService disconnectRequest).1 = .ok response ∧ response.status = 200 := by
  have hok : (answer endpoints unsyncedService disconnectRequest).1.toOption.map Response.status = some 200 := by
    rw [answer_disconnectRequest]
    decide +kernel
  revert hok
  generalize (answer endpoints unsyncedService disconnectRequest).1 = answered
  intro hok
  cases answered with
  | error err => cases hok
  | ok response => exact ⟨response, rfl, Option.some.inj hok⟩

theorem disconnected_until_synced_twice :
    IsDisconnected "1" (afterSteps (answer endpoints unsyncedService disconnectRequest).2
      [(silentWorld, disconnectRequest)]) := by
  have hrows : ∀ row ∈ accounts unsyncedService, Table.IsRow .cloudAccounts row := by
    have hacc : accounts unsyncedService = [(integrationEntry "1" "datadog").row] := rfl
    rw [hacc]
    simpa using (isNew_integrationEntry "1" "datadog").isRow
  have hdis : disconnectRequest.disconnects "1" = true := by
    rw [Request.disconnects, route_disconnectRequest]
    decide
  have hsyn : disconnectRequest.syncs "1" = false := by
    rw [Request.syncs, route_disconnectRequest]
    decide
  obtain ⟨response, hans, hsta⟩ := answer_disconnectRequest_unsynced
  refine (disconnected_until_synced hrows hdis hans hsta _).1.mpr ?_ _ (prefix_refl _)
  rintro earlier w r later hste ⟨hr, -⟩
  have hmem : (w, r) ∈ [(silentWorld, disconnectRequest)] := by simp [hste]
  rw [(Prod.mk.inj (mem_singleton.mp hmem)).2, hsyn] at hr
  cases hr

def disconnectAndSync : List (World × Request) := [(chargingWorld, disconnectRequest), (chargingWorld, syncRequest)]

def askedKeys (w : World) : List String :=
  w.web.filterMap fun asked => match asked.headers with
    | some (.object fields) => some (textCell fields "DD-API-KEY")
    | _ => none

/-- The integration is disconnected at first, and active in the end: costs were asked for with the key that it
had kept. -/
theorem active_after_disconnection :
    (accounts (afterSteps unsyncedService [(chargingWorld, disconnectRequest)])).map
        (textCell · "status") = ["disconnected"] ∧
      (accounts (afterSteps unsyncedService disconnectAndSync)).map (textCell · "status") = ["active"] ∧
      askedKeys (afterSteps unsyncedService disconnectAndSync).world = ["k"] := by
  rw [disconnectAndSync, afterSteps_cons, afterSteps_cons, answer_disconnectRequest, afterSteps_cons,
    answer_syncRequest]
  decide +kernel

end CloudSpend.Api
