import CloudSpend.Proofs.Api.Syncs
import CloudSpend.Proofs.Numeral.Integer

/-! # What accounts say of their synchronisations -/

namespace CloudSpend.Api

open List Store Table
open Run (Gives)
open Store (Table cell textCell holds)

lemma gives_ingest (row : Row) (first last : Date) :
    Gives (fun outcome => IsCount outcome.rows) (ingest row first last) :=
  .bind_of (.result fun _ hk => (Connector.key_of_find hk).1) fun _ hk => Connector.counts_of_mem hk _ _ _ _

lemma gives_takeOver (provider : String) (settings first last : Value) :
    Gives IsCount (takeOver provider settings first last) := by
  have hcou : ∀ {key v}, HasCount key v → Gives IsCount (liftM (v.getD key (.int 0))) := by
    rintro key v ⟨n, hn⟩
    rw [hn]
    exact .result fun rows hrows => ⟨n, (Except.ok.inj hrows).symm⟩
  unfold takeOver
  refine .bind fun _ => ?_
  split
  · exact .bind fun _ => (Source.CostReport.gives_ingest _ _ _).bind_of fun _ hv => hcou hv
  · exact .bind fun _ => (Source.BigQuery.gives_ingest _ _ _).bind_of fun _ hv => hcou hv
  · exact .bind fun _ => (Source.BlobStorage.gives_ingest _ _ _ _).bind_of fun _ hv => hcou hv
  · exact .pure ⟨0, rfl⟩

lemma isCount_of_fetched {account : Row} {w : World} {outcome : Except String Value}
    (h : Fetched account w outcome) {rows : Value} (hrows : outcome = .ok rows) : IsCount rows := by
  cases h with
  | ingested first last =>
    rcases hrun : Run.exec (ingest account first last) w with ⟨err | result, w'⟩
    · simp [hrun, ingestionOutcome] at hrows
    · have hcou := gives_ingest account first last _ _ _ hrun
      rw [hrun, ingestionOutcome] at hrows
      split at hrows
      · cases hrows
        exact hcou
      · cases hrows
  | takenOver first last =>
    have hgiv : Gives IsCount (takeOverAccount account first last) :=
      (gives_takeOver _ _ _ _).bind_of fun _ hcou => .bind fun _ => .pure hcou
    rcases hrun : Run.exec (takeOverAccount account first last) w with ⟨err | result, w'⟩
    · simp [hrun, Except.mapError] at hrows
    · obtain rfl : result = rows := by simpa [hrun, Except.mapError] using hrows
      exact hgiv _ _ _ hrun

structure Settled (row : Row) : Prop where
  isRow : Table.IsRow .cloudAccounts row
  ended : cell row "status" ≠ "syncing"
  active : cell row "status" = "active" → cell row "sync_error" = .null
  failed : cell row "status" = "error" → cell row "sync_error" ≠ .null
  dated : cell row "last_sync_at" = .null ↔ cell row "last_sync_rows" = .null
  counted : cell row "last_sync_rows" ≠ .null → ∃ n : Nat, cell row "last_sync_rows" = .text (toString n)

def syncColumns : List String := ["status", "sync_error", "last_sync_at", "last_sync_rows"]

variable {rows rows' : List Row} {row : Row} {s : Service}

lemma IsNew.settled (h : IsNew row) : Settled row where
  isRow := h.isRow
  ended hsta := by
    rcases h.status with hnew | hnew <;> simp [hnew] at hsta
  active _ := h.blank _ (by decide)
  failed hsta := by
    rcases h.status with hnew | hnew <;> simp [hnew] at hsta
  dated := iff_of_true (h.blank _ (by decide)) (h.blank _ (by decide))
  counted hrows := absurd (h.blank _ (by decide)) hrows

lemma settled_synced (hrow : Table.IsRow .cloudAccounts row) (now : Timestamp) (n : Nat) :
    Settled (revise .cloudAccounts now (syncedCells now (.int n)) row) := by
  have hsta : cell (revise .cloudAccounts now (syncedCells now (.int n)) row) "status" =
      .text "active" := cell_status_revise hrow (by decide) rfl now
  have hrows : cell (revise .cloudAccounts now (syncedCells now (.int n)) row) "last_sync_rows" =
      .text (toString n) :=
    cell_revise_of_text (c := .may "last_sync_rows" .text) hrow (by simp [columns]) rfl rfl now
  have herr : cell (revise .cloudAccounts now (syncedCells now (.int n)) row) "sync_error" = .null := by
    have hgiv : Entries.get? (syncedCells now (.int n)) "sync_error" = some .null := rfl
    rcases cell_revise_of_some (c := .may "sync_error" .text) hrow (by simp [columns]) hgiv now
      with hcell | ⟨hsame, hcell⟩
    · exact hcell
    · exact hcell.trans (same_null_iff.mp hsame)
  have hat : cell (revise .cloudAccounts now (syncedCells now (.int n)) row) "last_sync_at" ≠ .null := by
    have hgiv : Entries.get? (syncedCells now (.int n)) "last_sync_at" = some (.timestamp now) := rfl
    rcases cell_revise_of_some (c := .may "last_sync_at" .moment) hrow (by simp [columns]) hgiv
      now with hcell | ⟨hsame, hcell⟩
    · intro hnull
      cases hcell.symm.trans hnull
    · intro hnull
      rw [hcell.symm.trans hnull] at hsame
      cases hsame
  constructor
  · exact isRow_revise hrow now _
  all_goals grind

namespace Settled

variable {row : Row} (h : Settled row) (now : Timestamp)
include h

lemma of_cells {row' : Row} (hrow : Table.IsRow .cloudAccounts row')
    (hcell : ∀ key ∈ syncColumns, cell row' key = cell row key) : Settled row' := by
  have hsta := hcell "status" (by decide)
  have herr := hcell "sync_error" (by decide)
  have hat := hcell "last_sync_at" (by decide)
  have hrows := hcell "last_sync_rows" (by decide)
  constructor
  · exact hrow
  · rw [hsta]
    exact h.ended
  · rw [hsta, herr]
    exact h.active
  · rw [hsta, herr]
    exact h.failed
  · rw [hat, hrows]
    exact h.dated
  · rw [hrows]
    exact h.counted

lemma renamed {changes : Row} (hcha : ∀ p ∈ changes, p.1 ∈ ["display_name", "connection_config"]) :
    Settled (revise .cloudAccounts now changes row) := by
  refine h.of_cells (isRow_revise h.isRow now changes) fun key hkey => cell_of_renamed hcha ?_ now
  revert key
  decide

lemma disconnected : Settled (revise .cloudAccounts now [("status", "disconnected")] row) := by
  have hsta : cell (revise .cloudAccounts now [("status", "disconnected")] row) "status" =
      .text "disconnected" := cell_status_revise h.isRow (by decide) rfl now
  have hat : cell (revise .cloudAccounts now [("status", "disconnected")] row) "last_sync_at" =
      cell row "last_sync_at" := cell_revise_of_none (by decide) rfl now
  have hrows : cell (revise .cloudAccounts now [("status", "disconnected")] row) "last_sync_rows" =
      cell row "last_sync_rows" := cell_revise_of_none (by decide) rfl now
  constructor
  · exact isRow_revise h.isRow now _
  · simp [hsta]
  · simp [hsta]
  · simp [hsta]
  · rw [hat, hrows]
    exact h.dated
  · rw [hrows]
    exact h.counted

lemma of_failed {started : Row} (hrow : Table.IsRow .cloudAccounts started)
    (hkept : ∀ key ∈ ["last_sync_at", "last_sync_rows"], cell started key = cell row key) (message : String) :
    Settled (revise .cloudAccounts now (failedCells message) started) := by
  have hsta : cell (revise .cloudAccounts now (failedCells message) started) "status" =
      .text "error" := cell_status_revise hrow (by decide) rfl now
  have herr : cell (revise .cloudAccounts now (failedCells message) started) "sync_error" =
      .text message :=
    cell_revise_of_text (c := .may "sync_error" .text) hrow (by simp [columns]) rfl rfl now
  have hat : cell (revise .cloudAccounts now (failedCells message) started) "last_sync_at" =
      cell row "last_sync_at" := (cell_revise_of_none (by decide) rfl now).trans (hkept _ (by decide))
  have hrows : cell (revise .cloudAccounts now (failedCells message) started) "last_sync_rows" =
      cell row "last_sync_rows" := (cell_revise_of_none (by decide) rfl now).trans (hkept _ (by decide))
  constructor
  · exact isRow_revise hrow now _
  · simp [hsta]
  · simp [hsta]
  · simp [herr]
  · rw [hat, hrows]
    exact h.dated
  · rw [hrows]
    exact h.counted

lemma concluded (later : Timestamp) {outcome : Except String Value}
    (hcou : ∀ rows, outcome = .ok rows → IsCount rows) :
    Settled (revise .cloudAccounts later (concludedCells later outcome)
      (revise .cloudAccounts now [("status", "syncing")] row)) := by
  have hrow := isRow_revise h.isRow now [("status", "syncing")]
  cases outcome with
  | ok rows =>
    obtain ⟨n, rfl⟩ := hcou rows rfl
    exact settled_synced hrow later n
  | error message =>
    refine h.of_failed later hrow (fun key hkey => ?_) message
    simp only [mem_cons, not_mem_nil, or_false] at hkey
    rcases hkey with rfl | rfl <;> exact cell_revise_of_none (by decide) rfl now

end Settled

lemma settled_of_edited (h : ∀ row ∈ rows, Settled row) (hedi : Edited rows rows') :
    ∀ row ∈ rows', Settled row := by
  refine hedi.forall h (fun _ hnew => hnew.settled) ?_ ?_
  · intro row now changes hcha hrow
    exact hrow.renamed now hcha
  · intro row now hrow
    exact hrow.disconnected now

lemma settled_of_synced {id : String} (h : ∀ row ∈ accounts s, Settled row) (hsyn : Synced s id rows') :
    ∀ row ∈ rows', Settled row := by
  cases hsyn with
  | intro hacc hid hfet now =>
    intro row' hrow'
    obtain ⟨started, hsta, rfl⟩ := mem_map.mp hrow'
    obtain ⟨row, hrow, rfl⟩ := mem_map.mp hsta
    cases hhol : holds "id" (.text id) row with
    | true =>
      have hsti : holds "id" (.text id)
          (revise .cloudAccounts s.world.now [("status", "syncing")] row) = true := by
        rw [holds, cell_of_syncing _ (by decide)]
        exact hhol
      simp only [hsti, if_true]
      exact (h row hrow).concluded _ _ fun rows hrows => isCount_of_fetched hfet hrows
    | false =>
      simp only [hhol, Bool.false_eq_true, if_false]
      exact h row hrow

lemma settled_answer (h : ∀ row ∈ accounts s, Settled row) (r : Request) :
    ∀ row ∈ accounts (answer endpoints s r).2, Settled row := by
  rcases accounts_answer s r with hedi | ⟨id, response, -, -, -, hsyn⟩
  · exact settled_of_edited h hedi
  · exact settled_of_synced h hsyn

lemma settled_afterSteps (h : ∀ row ∈ accounts s, Settled row) (steps : List (World × Request)) :
    ∀ row ∈ accounts (afterSteps s steps), Settled row :=
  afterSteps_invariant (P := fun s => ∀ row ∈ accounts s, Settled row)
    (fun s w r hs => settled_answer (s := { s with world := w }) hs r) h steps

lemma exists_syncedRows (h : ∀ row ∈ rows, Settled row)
    (hsho : ∀ row ∈ rows, (textCell row "last_sync_rows").length ≤ Numeral.maxDigits) :
    ∃ total, syncedRows rows = .ok total := by
  have hread : ∀ row ∈ rows.filter fun row => (cell row "last_sync_rows").truthy,
      ∃ count, (cell row "last_sync_rows").toInt = .ok count := by
    intro row hrow
    obtain ⟨hmem, htru⟩ := mem_filter.mp hrow
    have hfil : cell row "last_sync_rows" ≠ .null := by
      intro hnull
      rw [hnull] at htru
      cases htru
    obtain ⟨n, hn⟩ := (h row hmem).counted hfil
    have hlen := hsho row hmem
    rw [textCell, hn] at hlen
    have hdig : (toString (n : Int)).toList = Nat.toDigits 10 n := by
      rw [Numeral.toList_toString_int, if_neg (Int.not_lt.mpr (Int.natCast_nonneg n)), Int.natAbs_natCast]
    refine ⟨n, ?_⟩
    rw [hn]
    refine Numeral.toInt_toString (n : Int) ?_
    rw [Int.natAbs_natCast, ← hdig, String.length_toList]
    exact hlen
  obtain ⟨counts, hcou⟩ := Billing.exists_mapM_eq_ok hread
  exact ⟨counts.foldl (· + ·) 0, by rw [syncedRows, hcou]; rfl⟩

/-- From settled accounts on, all accounts are settled after every run of requests, whatever the worlds in
which they are made, and the number of rows that the connected ones took over can be told if none of the
single numbers is too long to be read. -/
theorem accounts_settled {s : Service} (h : ∀ row ∈ accounts s, Settled row) (steps : List (World × Request)) :
    (∀ row ∈ accounts (afterSteps s steps), Settled row) ∧
      ((∀ row ∈ accounts (afterSteps s steps), (textCell row "last_sync_rows").length ≤ Numeral.maxDigits) →
        ∃ total, syncedRows ((accounts (afterSteps s steps)).filter isConnected) = .ok total) := by
  have hset := settled_afterSteps h steps
  refine ⟨hset, fun hsho => ?_⟩
  exact exists_syncedRows (fun row hrow => hset row (mem_of_mem_filter hrow))
    fun row hrow => hsho row (mem_of_mem_filter hrow)

def unsyncedService : Service where
  world := chargingWorld
  store := [integrationEntry "1" "datadog"]

def successAndFailure : List (World × Request) := [(chargingWorld, syncRequest), (silentWorld, syncRequest)]

lemma isNew_integrationEntry (id provider : String) : IsNew (integrationEntry id provider).row := by
  dsimp only [integrationEntry]
  exact isNew_fill _ _ (.inr rfl) fun key hkey => by
    simp only [blankKeys, mem_cons, not_mem_nil, or_false] at hkey
    rcases hkey with rfl | rfl | rfl | rfl <;> rfl

/-- After a success and a failure the account says what went wrong, and how many rows there were before. -/
theorem accounts_settled_after_failure :
    (accounts (afterSteps unsyncedService successAndFailure)).map
        (fun row => (textCell row "status", textCell row "last_sync_rows")) = [("error", "1")] ∧
      (∀ row ∈ accounts (afterSteps unsyncedService successAndFailure), Settled row) := by
  have hnew : ∀ row ∈ accounts unsyncedService, Settled row := by
    have hacc : accounts unsyncedService = [(integrationEntry "1" "datadog").row] := rfl
    rw [hacc]
    simpa using (isNew_integrationEntry "1" "datadog").settled
  refine ⟨?_, (accounts_settled hnew successAndFailure).1⟩
  rw [successAndFailure, afterSteps_cons, answer_syncRequest, afterSteps_cons, answer_syncRequest]
  decide +kernel

end CloudSpend.Api
