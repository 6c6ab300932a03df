import CloudSpend.Proofs.Api.Accounts
import CloudSpend.Proofs.Aws.Pagination
import CloudSpend.Proofs.Cost.Detection
import CloudSpend.Task.Sync

/-! # Taking over costs, run after run -/

namespace CloudSpend

open Handler List Result Store Entries Run Store.CellKind
open Store (Table cell holds)

def World.numbered (w : World) (n : Nat) : World := { w with ids := n }

namespace Run

variable {n : Nat}

lemma fst_exec_of_ignores {α : Type} {φ : World → World} {x : Run α} (hx : Ignores φ x) (w : World) :
    (exec x (φ w)).1 = (exec x w).1 := (Prod.ext_iff.mp (hx w)).1

lemma ignores_walk {α : Type} (args : Row) (read : Value → Result (List α)) (token : Value) (bound : Nat) :
    Ignores (·.numbered n) (Aws.CostExplorer.walk args read token bound) := by
  induction bound generalizing token with
  | zero => exact fun _ => rfl
  | succ bound ih =>
    refine .bind (fun _ => rfl) fun page => .bind (fun _ => rfl) fun here => .bind (fun _ => rfl) fun next => ?_
    split
    · exact (ih next).bind fun _ _ => rfl
    · exact fun _ => rfl

lemma ignores_fetchLines (first last : Date) : Ignores (·.numbered n) (Task.fetchLines first last) :=
  .bind (fun _ => rfl) fun _ => .bind (fun _ => rfl) fun _ => .bind (fun _ => rfl) fun args w =>
    ignores_walk args _ _ w.outside.pages w

end Run

namespace Handler

variable {α : Type} {t : Table} {s s' : Service} {row : Row} {u : PUnit}

lemma leaves_numbered_insert (given : Row) : Leaves (·.world.numbered 0) (insert t given) := by
  have hcha : ∀ f, Leaves (·.world.numbered 0) (change f) := fun f => (leaves_world_change f).of_comp (·.numbered 0)
  have hid : Leaves (·.world.numbered 0) newId := ⟨fun _ => rfl⟩
  have hpla : Leaves (·.world.numbered 0) (place t (t.stated given)) := by
    unfold place
    split
    all_goals
      refine Leaves.bind inferInstance fun id => Leaves.bind inferInstance fun _ => leaves_now.bind fun _ => ?_
      dsimp only
      split <;> infer_instance
  exact leaves_bind

lemma exec_discard_eq_ok {x : Handler α} (h : exec (discard x) s = (.ok u, s')) : ∃ a, exec x s = (.ok a, s') := by
  obtain ⟨a, s₁, hx, h⟩ := exec_bind_eq_ok.mp h
  cases h
  exact ⟨a, hx⟩

lemma exec_clear_eq_ok {test : Row → Bool} (h : exec (clear t test) s = (.ok u, s')) :
    s' = { s with store := s.store.filter fun e => !(e.table == t && test e.row) } := by
  obtain ⟨store, hcle, rfl⟩ := exec_change_eq_ok h
  obtain ⟨-, rfl⟩ := checked_eq_ok.mp hcle
  rfl

def IsNew (t : Table) (given row : Row) : Prop := ∃ now id, row = t.fill now id (t.stated given)

structure Replaced (t : Table) (test : Row → Bool) (givens : List Row) (s s' : Service) : Prop where
  rows : ∃ new, s'.store.rows t = (s.store.rows t).filter (fun row => !test row) ++ new ∧
    List.Forall₂ (IsNew t) givens new
  others : ∀ u, u ≠ t → s'.store.rows u = s.store.rows u
  world : s'.world.numbered 0 = s.world.numbered 0

lemma replaced_of_insertAll {f : α → Row} {as : List α} (h : exec (do
    for a in as do discard (insert t (f a))) s = (.ok u, s')) :
    Replaced t (fun _ => false) (as.map f) s s' := by
  obtain ⟨_, s₁, hloop, hend⟩ := exec_bind_eq_ok.mp h
  cases hend
  clear h
  induction as generalizing s with
  | nil =>
    cases hloop
    exact ⟨⟨[], by simp, .nil⟩, fun _ _ => rfl, rfl⟩
  | cons a as ih =>
    rw [forIn_cons] at hloop
    obtain ⟨_, s₁, hstep, hloop⟩ := exec_bind_eq_ok.mp hloop
    obtain ⟨_, s₂, hdis, hyie⟩ := exec_bind_eq_ok.mp hstep
    cases hyie
    obtain ⟨row, hrow⟩ := exec_discard_eq_ok hdis
    obtain ⟨⟨id, hfill⟩, hsto, -⟩ := exec_insert_eq_ok hrow
    have hwor := (leaves_numbered_insert (t := t) (f a)).view_eq hrow
    obtain ⟨⟨new, hnew, hgiv⟩, hoth, hwor'⟩ := ih hloop
    refine ⟨⟨row :: new, ?_, .cons ⟨_, id, hfill⟩ hgiv⟩, fun u hu => ?_, hwor'.trans hwor⟩
    · rw [hnew, hsto, rows_append, if_pos rfl]
      simp
    · rw [hoth u hu, hsto, rows_append, if_neg (Ne.symm hu)]

end Handler

namespace Store

variable {t : Table} {test : Row → Bool}

lemma rows_clear (s : Store) (t u : Table) (test : Row → Bool) :
    rows (s.filter fun e => !(e.table == t && test e.row)) u =
      if u = t then (s.rows t).filter fun row => !test row else s.rows u := by
  unfold rows
  rw [filter_filter]
  split
  · next h =>
      subst h
      rw [filter_map, filter_filter]
      congr 1
      refine filter_congr fun e _ => ?_
      cases e.table == u <;> simp
  all_goals grind

end Store

namespace Handler.IsNew

variable {t : Table} {given row : Row} {c : Store.Column} {v w : Value} {i : Nat}

lemma cell_eq (h : IsNew t given row) (hc : t.columns[i]? = some c) (hkind : c.kind ≠ .document)
    (hnod : (given.map Prod.fst).Nodup) (hgiv : get? given c.name = some v)
    (hopen : c.filler = .nothing ∧ w = .null ∨ c.filler = .value w) :
    cell row c.name = if v.isNull then w else c.kind.normal v := by
  obtain ⟨now, id, rfl⟩ := h
  have hmem := mem_of_getElem? hc
  have hdoc : (t.columns.any fun d => d.name == c.name && d.kind == .document) = false := by
    rw [any_eq_false]
    intro d hd hboth
    simp only [Bool.and_eq_true, beq_iff_eq] at hboth
    exact hkind (eq_of_name hmem hd hboth.1 ▸ hboth.2)
  have hget : get? (t.stated given) c.name = if v.isNull then none else some v := by
    rw [Table.stated, get?_filter_of_nodup hnod, hgiv]
    simp only [hdoc, Bool.or_false, Option.filter_some]
    cases v.isNull <;> rfl
  rw [cell_fill_eq hmem, filled, hget]
  grind

lemma cell_of_nothing (h : IsNew t given row) (hc : t.columns[i]? = some c) (hgiv : get? given c.name = some v)
    (hkind : c.kind ≠ .document := by decide) (hnot : c.filler = .nothing := by rfl)
    (hnod : (given.map Prod.fst).Nodup := by simp [Task.anomalyCells]) : cell row c.name = c.kind.normal v := by
  rw [h.cell_eq hc hkind hnod hgiv (.inl ⟨hnot, rfl⟩)]
  cases v with
  | null => cases c.kind <;> rfl
  | _ => rfl

end Handler.IsNew

namespace Task

open Aws.CostExplorer (Answers Charge costPage isPage_costPage scriptWorld plays_scriptWorld)
open Handler (exec Replaced IsNew exec_bind_eq_ok)

variable {s s' : Service} {account : Row} {first last : Date} {lines : List Value} {u : PUnit}
  {found : List (Cost.Anomaly Value Value Value)}
  {givens new : List Row} {t : Table} {cells row : Row} {column id : String} {made : Row × Bool} {v number : Value} {α : Type} {taken : Taken} {day : Date}

lemma replaced_of_clear {test : Row → Bool} {s₁ : Service}
    (hcle : exec (clear t test) s = (.ok u, s₁)) (h : Replaced t (fun _ => false) givens s₁ s') :
    Replaced t test givens s s' := by
  obtain ⟨⟨new, hnew, hgiv⟩, hoth, hwor⟩ := h
  rw [exec_clear_eq_ok hcle] at hnew hoth hwor
  refine ⟨⟨new, ?_, hgiv⟩, fun u hu => ?_, hwor⟩
  · rw [hnew, rows_clear, if_pos rfl]
    simp
  · rw [hoth u hu, rows_clear, if_neg hu]

def covers (id : Value) (first last : Date) (row : Row) : Bool :=
  ofAccount id row && dated (within first last) row

lemma exec_replaceCosts_eq_ok (h : exec (replaceCosts account first last lines) s = (.ok u, s')) :
    ∃ givens, lines.mapM (recordCells account) = .ok givens ∧
      Replaced .costRecords (covers (cell account "id") first last) givens s s' := by
  obtain ⟨_, s₁, hcle, h⟩ := exec_bind_eq_ok.mp h
  obtain ⟨givens, hgiv, h⟩ := exec_liftM_bind_eq_ok h
  have hloop := replaced_of_insertAll (f := id) h
  rw [map_id] at hloop
  exact ⟨givens, hgiv, replaced_of_clear hcle hloop⟩

def isAnomaly (id day : Value) (row : Row) : Bool :=
  ofAccount id row && dated (fun d => Value.date d == day) row

lemma exec_replaceAnomalies_eq_ok (h : exec (replaceAnomalies account found) s = (.ok u, s')) {day : Value}
    (hday : ∀ a ∈ found, a.day = day) :
    Replaced .anomalies (fun row => !found.isEmpty && isAnomaly (cell account "id") day row)
      (found.map (anomalyCells account)) s s' := by
  cases found with
  | nil => exact replaced_of_insertAll h
  | cons a as =>
    obtain ⟨_, s₁, hcle, h⟩ := exec_bind_eq_ok.mp h
    rw [hday a mem_cons_self] at hcle
    exact replaced_of_clear hcle (replaced_of_insertAll h)

lemma exec_findOrMake_eq_ok (h : exec (findOrMake t column v cells) s = (.ok made, s')) :
    (s' = s ∧ s.store.select t (holds column (text.normal v)) = [made.1]) ∨
      (s.store.select t (holds column (text.normal v)) = [] ∧
        text.canHold v = true ∧
        exec (insert t ((column, v) :: cells)) s = (.ok made.1, s')) := by
  obtain ⟨row?, s₁, hfind, h⟩ := exec_bind_eq_ok.mp h
  obtain rfl := Leaves.eq hfind
  unfold findText? at hfind
  split at hfind
  · cases hfind
  · next hcan =>
      cases row? with
      | some row =>
        cases h
        exact .inl ⟨rfl, exec_find?_eq_ok hfind⟩
      | none =>
        obtain ⟨row, s₂, hins, h⟩ := exec_bind_eq_ok.mp h
        cases h
        refine .inr ⟨?_, by simpa using hcan, hins⟩
        obtain ⟨rows, s3, hsel, hnone⟩ := exec_bind_eq_ok.mp hfind
        rw [← exec_select_eq_ok hsel]
        unfold only? at hnone
        split at hnone
        · rfl
        · cases hnone
        · cases hnone

def told (row : Row) : List Value := ["date", "service", "amount", "currency"].map (cell row)

def heldDay (line : Value) : Result Date := do readDate (← line.field "date")

def heldLine (line : Value) : Result (List Value) := do
  let day ← heldDay line
  let service ← line.field "service"
  let amount ← line.field "amount"
  let unit ← line.field "currency"
  return [.date day, text.normal service, Store.CellKind.number.normal amount,
    if unit.isNull then .text "USD" else text.normal unit]

lemma told_of_isNew {line : Value} {given : Row} (hcel : recordCells account line = .ok given)
    (hrow : IsNew .costRecords given row) (hid : cell account "id" = .text id) :
    heldLine line = .ok (told row) ∧ cell row "aws_account_id" = .text id ∧
      ∃ day, heldDay line = .ok day ∧ cell row "date" = .date day := by
  obtain ⟨dateField, hdat, hcel⟩ := of_bind_ok hcel
  obtain ⟨day, hday, hcel⟩ := of_bind_ok hcel
  obtain ⟨service, hser, hcel⟩ := of_bind_ok hcel
  obtain ⟨key, hkey, hcel⟩ := of_bind_ok hcel
  obtain ⟨amount, hamo, hcel⟩ := of_bind_ok hcel
  obtain ⟨unit, hunit, hcel⟩ := of_bind_ok hcel
  cases hcel
  have hsame : key = service := by cases service <;> cases hkey <;> rfl
  subst hsame
  have hacc : cell row "aws_account_id" = identifier.normal (cell account "id") :=
    hrow.cell_of_nothing (i := 1) rfl rfl
  rw [hid] at hacc
  have hdate : cell row "date" = .date day := hrow.cell_of_nothing (i := 2) rfl rfl
  have hname : cell row "service" = text.normal key := hrow.cell_of_nothing (i := 3) rfl rfl
  have hcost : cell row "amount" = Store.CellKind.number.normal amount := hrow.cell_of_nothing (i := 4) rfl rfl
  have hcur : cell row "currency" = if unit.isNull then .text "USD" else text.normal unit :=
    hrow.cell_eq (i := 5) rfl (by decide) (by simp) rfl (.inr rfl)
  have hheld : heldDay line = .ok day := by
    rw [heldDay, hdat]
    exact hday
  refine ⟨?_, hacc, day, hheld, hdate⟩
  simp only [heldLine, told, List.map, hheld, hser, hamo, hunit, hdate, hname, hcost, hcur, bind,
    Except.bind]
  rfl

def answers (w : World) : Result (Value × List Value) :=
  (exec (do
    let identity ← aws "sts" "get_caller_identity" .null []
    let number ← liftM (identity.field "Account")
    let first ← liftM ((← today).before 30)
    return (number, ← fetchLines first (← today))) w).1

lemma answers_numbered (w : World) (n : Nat) : answers (w.numbered n) = answers w := by
  refine fst_exec_of_ignores (φ := (·.numbered n)) ?_ w
  exact .bind (fun _ => rfl) fun _ => .bind (fun _ => rfl) fun _ => .bind (fun _ => rfl) fun _ =>
    .bind (fun _ => rfl) fun _ => .bind (fun _ => rfl) fun _ => (ignores_fetchLines _ _).bind fun _ _ => rfl

section Charges

open Aws.CostExplorer

variable {pages : List Value} {last : Value} {charges : List (List Charge)} {w : World}

def IsStored (c : Charge) (cells : List Value) : Prop :=
  ∃ day, Date.read c.start = .ok day ∧ cells = [.date day, .text c.service,
    Store.CellKind.number.normal (.float ((Numeral.roundTo? c.amount 4).getD c.amount)), .text c.unit]

lemma isStored_of_heldLine {c : Charge} {cells : List Value} (h : heldLine c.line = .ok cells) : IsStored c cells := by
  have hday : heldDay c.line = (Date.read c.start).mapError (Fault.notDate c.start) := rfl
  obtain ⟨day, hread, h⟩ := of_bind_ok h
  cases h
  rw [hday] at hread
  refine ⟨day, ?_, rfl⟩
  cases hdate : Date.read c.start with
  | error why => rw [hdate] at hread; cases hread
  | ok day' => rw [hdate] at hread; cases hread; rfl

lemma lines_of_answers {lines : List Value} (h : Answers w pages last charges)
    (hans : answers w = .ok (number, lines)) : lines = keptLines charges := by
  obtain ⟨w', hrun⟩ : ∃ w', Run.exec _ w = (.ok (number, lines), w') := ⟨_, Prod.ext hans rfl⟩
  obtain ⟨identity, w₁, hide, hrun⟩ := Run.exec_bind_eq_ok.mp hrun
  obtain ⟨_, w₂, hnum, hrun⟩ := Run.exec_bind_eq_ok.mp hrun
  obtain rfl : w₁ = w₂ := congrArg Prod.snd hnum
  rw [exec_bind_ok (Run.exec_today _)] at hrun
  obtain ⟨first, w₃, hfirst, hrun⟩ := Run.exec_bind_eq_ok.mp hrun
  obtain rfl : w₁ = w₃ := congrArg Prod.snd hfirst
  rw [exec_bind_ok (Run.exec_today _)] at hrun
  obtain ⟨_, w₄, hfetch, hrun⟩ := Run.exec_bind_eq_ok.mp hrun
  cases hrun
  obtain ⟨_, w₅, hstart, hfetch⟩ := Run.exec_bind_eq_ok.mp hfetch
  have hasked : costCalls w₁ = costCalls w :=
    (congrArg (fun r => costCalls r.2) hide).symm.trans (costCalls_concat w rfl)
  have hopened : costCalls w₅ = costCalls w₁ :=
    (congrArg (fun r => costCalls r.2) hstart).symm.trans (costCalls_concat { w₁ with connected := false } rfl)
  have houtside : w₅.outside = w.outside :=
    (congrArg (·.2.outside) hstart : w₁.outside = w₅.outside).symm.trans (congrArg (·.2.outside) hide).symm
  obtain ⟨args, hargs⟩ : ∃ args, groupedArgs ⟨.date first, .date w₁.now.date⟩ "DAILY" "DIMENSION" "SERVICE" = .ok args :=
    ⟨_, rfl⟩
  have hread := exec_byService (a := .usual "us-east-1") (h.congr houtside (hopened.trans hasked)) hargs rfl
  exact Except.ok.inj (congrArg Prod.fst (hfetch.symm.trans hread))

end Charges

def hasNumber (number : Value) : Row → Bool := holds "aws_account_id" (text.normal number)

lemma eq_numbered {w w' : World} (h : w.numbered 0 = w'.numbered 0) : w = w'.numbered w.ids := by
  obtain ⟨⟩ := w
  simp only [World.numbered, World.mk.injEq] at h ⊢
  simpa using h

lemma kept_of_findOrMake (h : exec (findOrMake t column v cells) s = (.ok made, s')) :
    (∀ u, u ≠ t → s'.store.rows u = s.store.rows u) ∧ s'.world.numbered 0 = s.world.numbered 0 := by
  rcases exec_findOrMake_eq_ok h with ⟨rfl, -⟩ | ⟨-, -, hins⟩
  · exact ⟨fun _ _ => rfl, rfl⟩
  · refine ⟨fun u hu => ?_, (leaves_numbered_insert (t := t) ((column, v) :: cells)).view_eq hins⟩
    rw [(exec_insert_eq_ok hins).2.1, rows_append, if_neg (Ne.symm hu)]

lemma normal_text (h : text.canHold v = true) :
    text.normal v = .null ∨ ∃ a, text.normal v = .text a := by
  cases v with
  | null => exact .inl rfl
  | float x =>
    rw [normal]
    cases Numeral.columnText? x with
    | none => exact .inl rfl
    | some a => exact .inr ⟨a, rfl⟩
  | list | object => cases h
  | _ => exact .inr ⟨_, rfl⟩

lemma located_of_localAccount {user : Row} (h : exec (localAccount number user) s = (.ok made, s'))
    (hid : ∀ row, s.store.select .awsAccounts (hasNumber number) = [row] → ∃ a, cell row "id" = .text a) :
    (∃ a, cell made.1 "id" = .text a) ∧ s'.store.select .awsAccounts (hasNumber number) = [made.1] ∧
      ∀ row, s.store.select .awsAccounts (hasNumber number) = [row] → made.1 = row := by
  rcases exec_findOrMake_eq_ok h with ⟨rfl, hsel⟩ | ⟨hnone, hcan, hins⟩
  · refine ⟨hid _ hsel, hsel, fun row hrow => ?_⟩
    exact head_eq_of_cons_eq (hsel.symm.trans hrow)
  · obtain ⟨⟨id, hfill⟩, hsto, hsou, -⟩ := exec_insert_eq_ok hins
    have hnew : IsNew .awsAccounts _ made.1 := ⟨_, id, hfill⟩
    have hnum : cell made.1 "aws_account_id" = text.normal number := hnew.cell_of_nothing (i := 2) rfl rfl
    have hadm := admits_of_sound hsou (e := ⟨.awsAccounts, made.1⟩) (c := .must "aws_account_id" .text)
      (by simp [hsto]) (by simp [Table.columns])
    have htext : ∃ a, text.normal number = .text a := by
      refine (normal_text hcan).resolve_left fun hnull => ?_
      have hcell : cell made.1 (Store.Column.must "aws_account_id" .text).name = .null := hnum.trans hnull
      rw [hcell] at hadm
      cases hadm
    obtain ⟨a, ha⟩ := htext
    have hhol : hasNumber number made.1 = true := by
      rw [hasNumber, holds, hnum, ha]
      exact same_text_iff.mpr rfl
    have hid : cell made.1 "id" = .text id := by
      rw [hfill]
      refine cell_fill_id (c := .id) (by simp [Table.columns]) rfl _ _ ?_
      rw [Table.stated, get?_filter_of_nodup (by simp)]
      rfl
    refine ⟨⟨id, hid⟩, ?_, fun row hrow => ?_⟩
    · have hsel : s'.store.select .awsAccounts (hasNumber number) =
          s.store.select .awsAccounts (hasNumber number) ++ [made.1] := by
        rw [Store.select, hsto, rows_append, if_pos rfl, filter_append]
        simp [hhol, Store.select]
      rw [hsel]
      exact congrArg (· ++ [made.1]) hnone
    · exact absurd (hnone.symm.trans hrow) (by simp)

structure Took (s : Service) (taken : Taken) (s' : Service) : Prop where
  answered : answers s.world = .ok (taken.number, taken.lines)
  last : taken.last = s.world.now.date
  first : taken.last.before 30 = .ok taken.first
  detected : Cost.Detector.default.detectRows taken.last .null (.list taken.lines) = .ok taken.found
  id : ∃ a, cell taken.account.1 "id" = .text a
  account : ∀ row, s.store.select .awsAccounts (hasNumber taken.number) = [row] → taken.account.1 = row
  kept : ∃ row, s'.store.select .awsAccounts (hasNumber taken.number) = [row] ∧
    cell row "id" = cell taken.account.1 "id"
  costs : ∃ givens new, taken.lines.mapM (recordCells taken.account.1) = .ok givens ∧
    List.Forall₂ (IsNew .costRecords) givens new ∧ s'.store.rows .costRecords =
      (s.store.rows .costRecords).filter (fun row => !covers (cell taken.account.1 "id") taken.first taken.last row) ++
        new
  anomalies : ∃ day new, taken.last.before 1 = .ok day ∧ (∀ a ∈ taken.found, a.day = .date day) ∧
    List.Forall₂ (IsNew .anomalies) (taken.found.map (anomalyCells taken.account.1)) new ∧
    s'.store.rows .anomalies = (s.store.rows .anomalies).filter (fun row =>
      !(!taken.found.isEmpty && isAnomaly (cell taken.account.1 "id") (.date day) row)) ++ new

lemma exists_select_noted {store : Store} (h : store.select .awsAccounts (hasNumber number) = [account])
    (id : Value) (now : Timestamp) (time : Value) :
    ∃ row, (store.reviseWhere .awsAccounts (holds "id" id) now [("last_sync_at", time)]).select .awsAccounts
      (hasNumber number) = [row] ∧ cell row "id" = cell account "id" := by
  let noted (row : Row) : Row :=
    if holds "id" id row then Table.awsAccounts.revise now [("last_sync_at", time)] row else row
  have hcell : ∀ key, key ≠ "updated_at" → get? [("last_sync_at", time)] key = none → ∀ row,
      cell (noted row) key = cell row key := by
    intro key hkey hget row
    dsimp only [noted]
    split
    · exact cell_revise_of_none hkey hget now
    · rfl
  have hnum : hasNumber number ∘ noted = hasNumber number := by
    funext row
    simp only [Function.comp_apply, hasNumber, holds, hcell "aws_account_id" (by decide) rfl]
  refine ⟨noted account, ?_, hcell "id" (by decide) rfl account⟩
  rw [Store.select, rows_reviseWhere]
  rw [filter_map, hnum]
  exact congrArg (List.map noted) h

def IsIdentified (s : Service) : Prop := ∀ number lines, answers s.world = .ok (number, lines) → ∀ row,
  s.store.select .awsAccounts (hasNumber number) = [row] → ∃ a, cell row "id" = .text a

lemma took_of_exec (hs : IsIdentified s) (h : exec takeOver s = (.ok taken, s')) :
    Took s taken s' := by
  obtain ⟨identity, s₁, hide, h⟩ := exec_bind_eq_ok.mp h
  obtain ⟨number, hnum, h⟩ := exec_liftM_bind_eq_ok h
  obtain ⟨user, s3, huser, h⟩ := exec_bind_eq_ok.mp h
  obtain ⟨account, s4, hacc, h⟩ := exec_bind_eq_ok.mp h
  rw [Handler.exec_bind_ok (Handler.exec_today s4)] at h
  obtain ⟨first, hfir, h⟩ := exec_liftM_bind_eq_ok h
  obtain ⟨lines, s5, hlin, h⟩ := exec_bind_eq_ok.mp h
  obtain ⟨_, s6, hcos, h⟩ := exec_bind_eq_ok.mp h
  obtain ⟨found, hfou, h⟩ := exec_liftM_bind_eq_ok h
  obtain ⟨_, s7, hano, h⟩ := exec_bind_eq_ok.mp h
  rw [Handler.exec_bind_ok (Handler.exec_now s7)] at h
  obtain ⟨_, s8, hupd, h⟩ := exec_bind_eq_ok.mp h
  cases h
  have hsto1 : s₁.store = s.store := congrArg (·.2.store) hide.symm
  obtain ⟨huse, hwor3⟩ := kept_of_findOrMake huser
  obtain ⟨haco, hwor4⟩ := kept_of_findOrMake hacc
  have hsto5 : s5.store = s4.store := congrArg (·.2.store) hlin.symm
  obtain ⟨givens, hgve, hcos⟩ := exec_replaceCosts_eq_ok hcos
  obtain ⟨t, hyes, hdays⟩ := Cost.day_of_detectRows hfou
  obtain ⟨day, hday, rfl⟩ := Result.map_eq_ok.mp hyes
  have hfin := exec_replaceAnomalies_eq_ok hano hdays
  obtain ⟨_, hupd⟩ := Handler.exec_discard_eq_ok hupd
  obtain ⟨-, hend⟩ := Handler.exec_update_eq_ok hupd
  have hwor : s4.world = s₁.world.numbered s4.world.ids := eq_numbered (hwor4.trans hwor3)
  have hnow : s4.world.now = s.world.now := by
    rw [hwor]
    exact congrArg (·.2.world.now) hide.symm
  have hans : answers s.world = .ok (number, lines) := by
    have hask : Run.exec (Run.aws "sts" "get_caller_identity" .null []) s.world = (.ok identity, s₁.world) :=
      Prod.ext (congrArg (·.1) hide) (congrArg (·.2.world) hide)
    have hfet : (Run.exec (fetchLines first s4.world.now.date) s4.world).1 = .ok lines := congrArg (·.1) hlin
    have hsame : (Run.exec _ (s₁.world.numbered s4.world.ids)).1 = _ :=
      fst_exec_of_ignores (ignores_fetchLines first s4.world.now.date) s₁.world
    rw [← hwor] at hsame
    rw [hsame] at hfet
    have hnow1 : s₁.world.now = s4.world.now := hnow.trans (congrArg (·.2.world.now) hide) |>.symm
    rw [answers, exec_bind_ok hask, hnum, exec_bind_ok (exec_liftM _ _), exec_bind_ok (Run.exec_today _),
      hnow1, hfir, exec_bind_ok (exec_liftM _ _), exec_bind_ok (Run.exec_today _), hnow1, Run.exec_bind]
    cases hrun : Run.exec (fetchLines first s4.world.now.date) s₁.world with
    | mk r w =>
      rw [hrun] at hfet
      cases hfet
      rfl
  have hsel : s3.store.select .awsAccounts (hasNumber number) = s.store.select .awsAccounts (hasNumber number) := by
    rw [Store.select, huse _ (by decide), hsto1]
    rfl
  obtain ⟨hid, haft, hbef⟩ := located_of_localAccount hacc (hsel ▸ hs number lines hans)
  have hrows : ∀ u, u ≠ .users → u ≠ .awsAccounts → s5.store.rows u = s.store.rows u := by
    grind
  refine ⟨hans, congrArg Timestamp.date hnow, hfir, hfou, hid, hsel ▸ hbef, ?_, ?_, ?_⟩
  · have hlast : s7.store.select .awsAccounts (hasNumber number) = [account.1] := by
      rw [Store.select, hfin.others _ (by decide), hcos.others _ (by decide), hsto5]
      exact haft
    rw [hend]
    exact exists_select_noted hlast _ _ _
  · obtain ⟨new, hnew, hgiv⟩ := hcos.rows
    refine ⟨givens, new, hgve, hgiv, ?_⟩
    rw [hend, Store.rows_reviseWhere_of_ne _ (by decide), hfin.others _ (by decide), hnew,
      hrows _ (by decide) (by decide)]
  · obtain ⟨new, hnew, hgiv⟩ := hfin.rows
    refine ⟨day, new, hday, hdays, hgiv, ?_⟩
    rw [hend, Store.rows_reviseWhere_of_ne _ (by decide), hnew, hcos.others _ (by decide),
      hrows _ (by decide) (by decide)]

def costsOf (id : Value) (s : Store) : List Row := (s.rows .costRecords).filter (ofAccount id)

def othersOf (id : Value) (s : Store) : List Row := (s.rows .costRecords).filter fun row => !ofAccount id row

def isOutside (first last : Date) (row : Row) : Bool := !dated (within first last) row

structure Renewed (id : Value) (first last : Date) (fetched : List (List Value)) (s s' : Store) : Prop where
  told : (costsOf id s').map told = ((costsOf id s).filter (isOutside first last)).map told ++ fetched
  outside : (costsOf id s').filter (isOutside first last) = (costsOf id s).filter (isOutside first last)
  others : othersOf id s' = othersOf id s

lemma forall₂_told (hid : cell account "id" = .text id)
    (hgiv : List.Forall₂ (fun line given => recordCells account line = .ok given) lines givens)
    (hnew : List.Forall₂ (IsNew .costRecords) givens new)
    (hdat : ∀ line ∈ lines, ∀ day, heldDay line = .ok day → within first last day = true) :
    List.Forall₂ (fun line cells => heldLine line = .ok cells) lines (new.map told) ∧
      ∀ row ∈ new, covers (cell account "id") first last row = true := by
  induction hgiv generalizing new with
  | nil =>
    cases hnew
    exact ⟨.nil, by simp⟩
  | @cons line given lines givens hgve _ ih =>
    cases hnew with
    | cons hrow hnew =>
      obtain ⟨hheld, hacc, day, hday, hdate⟩ := told_of_isNew hgve hrow hid
      obtain ⟨hrest, hcov⟩ := ih hnew fun line hline => hdat line (mem_cons_of_mem _ hline)
      refine ⟨.cons hheld hrest, forall_mem_cons.mpr ⟨?_, hcov⟩⟩
      rw [covers, ofAccount, holds, hacc, hid, dated, day?, hdate]
      simp [Value.same, hdat line mem_cons_self day hday]

lemma renewed_of_took (h : Took s taken s') (hdat : ∀ line ∈ taken.lines, ∀ day, heldDay line = .ok day →
      within taken.first taken.last day = true) :
    ∃ fetched, List.Forall₂ (fun line cells => heldLine line = .ok cells) taken.lines fetched ∧
      Renewed (cell taken.account.1 "id") taken.first taken.last fetched s.store s'.store := by
  obtain ⟨id, hid⟩ := h.id
  obtain ⟨givens, new, hgiv, hnew, hrows⟩ := h.costs
  obtain ⟨hfet, hcov⟩ := forall₂_told hid (Billing.forall₂_of_mapM hgiv) hnew hdat
  refine ⟨new.map told, hfet, ?_⟩
  have hcve : ∀ row, covers (.text id) taken.first taken.last row =
      (ofAccount (.text id) row && !isOutside taken.first taken.last row) := by
    intro row
    rw [covers, isOutside, Bool.not_not]
  rw [hid] at hrows hcov ⊢
  simp only [hcve] at hrows hcov
  have hmine : new.filter (ofAccount (.text id)) = new :=
    filter_eq_self.mpr fun row hrow => (Bool.and_eq_true_iff.mp (hcov row hrow)).1
  have hins : new.filter (isOutside taken.first taken.last) = [] :=
    filter_eq_nil_iff.mpr fun row hrow => by
      simpa using (Bool.and_eq_true_iff.mp (hcov row hrow)).2
  have hnone : new.filter (fun row => !ofAccount (.text id) row) = [] :=
    filter_eq_nil_iff.mpr fun row hrow => by
      simpa using (Bool.and_eq_true_iff.mp (hcov row hrow)).1
  have hcos : costsOf (.text id) s'.store =
      (costsOf (.text id) s.store).filter (isOutside taken.first taken.last) ++ new := by
    unfold costsOf
    rw [hrows, filter_append, hmine, filter_filter, filter_filter]
    grind
  refine ⟨?_, ?_, ?_⟩
  · rw [hcos, map_append]
  · rw [hcos, filter_append, hins, append_nil, filter_filter]
    simp
  · unfold othersOf
    rw [hrows, filter_append, hnone, append_nil, filter_filter]
    refine filter_congr fun row _ => ?_
    cases ofAccount (.text id) row <;> simp

lemma isIdentified_of_hasIds (h : s.store.HasIds) : IsIdentified s :=
  fun _ _ _ _ hrow => h _ (mem_rows.mp (of_select_eq hrow).1) (.head _)

lemma exec_of_transact {x : Handler α} {a : α} (h : (s.transact x).1 = .ok a) :
    exec x s = (.ok a, (s.transact x).2) := by
  rcases hrun : exec x s with ⟨e | b, s₁⟩
  · rw [transact_of_error hrun] at h
    cases h
  · rw [transact_of_ok hrun] at h ⊢
    cases h
    rfl

lemma renewed_again {taken' : Taken} {fetched : List (List Value)} {n : Nat} {s₂ : Service} (h : Took s taken s')
    (h' : Took { s' with world := s.world.numbered n } taken' s₂)
    (hfet : List.Forall₂ (fun line cells => heldLine line = .ok cells) taken.lines fetched)
    (hdat : ∀ line ∈ taken.lines, ∀ day, heldDay line = .ok day →
      within taken.first taken.last day = true) :
    Renewed (cell taken.account.1 "id") taken.first taken.last fetched s'.store s₂.store := by
  obtain ⟨row, hrow, hid⟩ := h.kept
  have hsame := (h'.answered.symm.trans (answers_numbered s.world n)).trans h.answered
  obtain ⟨hnum, hlin⟩ := Prod.mk.inj (Except.ok.inj hsame)
  have hlast : taken'.last = taken.last := h'.last.trans h.last.symm
  have hfir : taken'.first = taken.first := Except.ok.inj ((hlast ▸ h'.first).symm.trans h.first)
  have hacc := h'.account row (hnum ▸ hrow)
  obtain ⟨fetched', hfet', hren⟩ := renewed_of_took h' (by rwa [hlin, hfir, hlast])
  rw [hacc, hid, hfir, hlast] at hren
  rw [hlin] at hfet'
  have heq : fetched' = fetched :=
    right_unique_forall₂' (fun _ _ _ h h' => Except.ok.inj (h.symm.trans h')) hfet' hfet
  rwa [heq] at hren

/-- **Taking over costs again changes nothing.** A run that fails leaves all records. One that succeeds leaves of its
account the records of other days and the fetched ones, and other accounts keep theirs. -/
theorem synced_records_settled (hids : s.store.HasIds) (n : Nat) :
    (∀ e, (s.transact takeOver).1 = .error e → (syncLocal s).2.store = s.store) ∧
    ∀ taken, (s.transact takeOver).1 = .ok taken →
      (∀ line ∈ taken.lines, ∀ day, heldDay line = .ok day → Store.within taken.first taken.last day = true) →
      answers s.world = .ok (taken.number, taken.lines) ∧ taken.last = s.world.now.date ∧
      taken.last.before 30 = .ok taken.first ∧
      ∃ fetched, List.Forall₂ (fun line cells => heldLine line = .ok cells) taken.lines fetched ∧
        (∀ pages last charges, Aws.CostExplorer.Answers s.world pages last charges →
          List.Forall₂ IsStored (charges.flatten.filter (·.isKept)) fetched) ∧
        let id := cell taken.account.1 "id"
        let once := (syncLocal s).2
        let twice := (syncLocal { once with world := s.world.numbered n }).2
        (costsOf id once.store).map told =
          ((costsOf id s.store).filter (isOutside taken.first taken.last)).map told ++ fetched ∧
        (costsOf id twice.store).map told = (costsOf id once.store).map told ∧
        othersOf id once.store = othersOf id s.store ∧ othersOf id twice.store = othersOf id s.store := by
  have hsync : ∀ s : Service, (syncLocal s).2 = (s.transact takeOver).2 := fun _ => rfl
  refine ⟨fun e h => ?_, fun taken h hdat => ?_⟩
  · rcases hrun : exec takeOver s with ⟨e' | a, s₁⟩
    · rw [hsync, transact_of_error hrun]
    · rw [transact_of_ok hrun] at h
      cases h
  have htook := took_of_exec (isIdentified_of_hasIds hids) (exec_of_transact h)
  obtain ⟨fetched, hfet, hren⟩ := renewed_of_took htook hdat
  refine ⟨htook.answered, htook.last, htook.first, fetched, hfet, fun pages last charges hans => ?_, ?_⟩
  · rw [lines_of_answers hans htook.answered, Aws.CostExplorer.keptLines, forall₂_map_left_iff] at hfet
    exact hfet.imp fun _ _ => isStored_of_heldLine
  intro id once twice
  change Renewed id taken.first taken.last fetched s.store once.store at hren
  have htwi : twice.store = once.store ∨ Renewed id taken.first taken.last fetched once.store twice.store := by
    rcases hrun : exec takeOver { once with world := s.world.numbered n } with ⟨e | taken', s₂⟩
    · exact .inl (congrArg (·.2.store) (transact_of_error hrun))
    · have hide : IsIdentified { once with world := s.world.numbered n } := by
        intro number lines hans row hrow
        have hsame := (hans.symm.trans (answers_numbered s.world n)).trans htook.answered
        obtain ⟨rfl, -⟩ := Prod.mk.inj (Except.ok.inj hsame)
        obtain ⟨row', hrow', hid⟩ := htook.kept
        obtain rfl : row = row' := head_eq_of_cons_eq (hrow.symm.trans hrow')
        exact hid ▸ htook.id
      have htook' := took_of_exec hide hrun
      have hsto : twice.store = s₂.store := congrArg (·.2.store) (transact_of_ok hrun)
      rw [hsto]
      exact .inr (renewed_again htook htook' hfet hdat)
  rcases htwi with hsame | haga
  · rw [hsame]
    exact ⟨hren.told, rfl, hren.others, hren.others⟩
  · refine ⟨hren.told, ?_, hren.others, haga.others.trans hren.others⟩
    calc (costsOf id twice.store).map told
        = ((costsOf id once.store).filter (isOutside taken.first taken.last)).map told ++ fetched := haga.told
      _ = ((costsOf id s.store).filter (isOutside taken.first taken.last)).map told ++ fetched := by
        rw [hren.outside]
      _ = (costsOf id once.store).map told := hren.told.symm

def idleWorld : World :=
  { Api.silentWorld with outside := { Api.silentWorld.outside with
      aws := fun _ call => match call with
        | .method "sts" _ _ _ _ => .ok (.object [("Account", "1")])
        | _ => .ok (.object [])
      pages := 1 } }

def entryOf (t : Table) (id : String) (given : Row) : Store.Entry := ⟨t, t.fill idleWorld.now id given⟩

def costEntry (id account : String) (day : Date) : Store.Entry :=
  entryOf .costRecords id
    [("aws_account_id", .text account), ("date", .date day), ("service", "EC2"), ("amount", .float 5)]

def idleService (more : List Store.Entry) : Service where
  world := idleWorld
  store := [entryOf .users "u" [("email", "dev@cloudpulse.local"), ("hashed_password", "")],
    entryOf .awsAccounts "a" [("user_id", "u"), ("aws_account_id", "1"), ("role_arn", ""), ("external_id", "")],
    entryOf .awsAccounts "b" [("user_id", "u"), ("aws_account_id", "2"), ("role_arn", ""), ("external_id", "")],
    costEntry "c" "a" ⟨2025, 12, 15⟩, costEntry "d" "a" ⟨2026, 1, 10⟩, costEntry "e" "b" ⟨2026, 1, 10⟩] ++ more

lemma hasIds_idleService {more : List Store.Entry} (h : Store.HasIds more) : (idleService more).store.HasIds := by
  intro e he hkey
  rcases mem_append.mp he with he | he
  · simp only [mem_cons, not_mem_nil, or_false] at he
    rcases he with rfl | rfl | rfl | rfl | rfl | rfl <;> exact ⟨_, rfl⟩
  · exact h e he hkey

def isIdle : Result Taken → Bool
  | .ok taken => taken.lines.isEmpty && taken.found.isEmpty && (cell taken.account.1 "id").same "a"
  | .error _ => false

lemma exists_of_isIdle {r : Result Taken} (h : isIdle r = true) :
    ∃ taken, r = .ok taken ∧ taken.lines = [] ∧ taken.found = [] ∧ cell taken.account.1 "id" = .text "a" := by
  cases r with
  | error e => cases h
  | ok taken =>
    simp only [isIdle, Bool.and_eq_true, List.isEmpty_iff] at h
    exact ⟨taken, rfl, h.1.1, h.1.2, Store.same_text_iff.mp h.2⟩

def spikePages : List Value :=
  [costPage "a" "2026-01-11" [("EC2", "10"), ("S3", "0")], costPage "b" "2026-01-12" [("EC2", "10")],
    costPage "c" "2026-01-13" [("EC2", "10")], costPage .null "2026-01-14" [("EC2", "30")]]

def spikeService (more : List Store.Entry) : Service :=
  { idleService more with world := scriptWorld idleWorld spikePages }

def isSpiked : Result Taken → Bool
  | .ok taken => (cell taken.account.1 "id").same "a" && taken.found.length == 1 && taken.lines.all fun line =>
    match heldDay line with
    | .ok day => within taken.first taken.last day
    | .error _ => true
  | .error _ => false

lemma exists_of_isSpiked {r : Result Taken} (h : isSpiked r = true) :
    ∃ taken, r = .ok taken ∧ cell taken.account.1 "id" = .text "a" ∧ taken.found.length = 1 ∧
      ∀ line ∈ taken.lines, ∀ day, heldDay line = .ok day → within taken.first taken.last day = true := by
  cases r with
  | error e => cases h
  | ok taken =>
    simp only [isSpiked, Bool.and_eq_true, beq_iff_eq, all_eq_true] at h
    refine ⟨taken, rfl, same_text_iff.mp h.1.1, h.1.2, fun line hline day hday => ?_⟩
    simpa only [hday] using h.2 line hline

lemma eq_of_isStored {start service unit : String} {day : Date} {x : Float} {cells : List Value}
    (hday : Date.read start = .ok day) (hx : (Numeral.roundTo? x 4).getD x = x ∧ x.isNaN = false ∧ (x == 0) = false)
    (h : IsStored ⟨start, service, x, unit⟩ cells) : cells = [.date day, .text service, .float x, .text unit] := by
  obtain ⟨day', hday', rfl⟩ := h
  cases hday.symm.trans hday'
  simp only [hx.1, normal, realCell, hx.2.1, hx.2.2, Bool.false_eq_true, if_false]

lemma answers_spikeService (more : List Store.Entry) :
    Answers (spikeService more).world (spikePages.take 3) (costPage .null "2026-01-14" [("EC2", "30")])
      [[⟨"2026-01-11", "EC2", 10, "USD"⟩, ⟨"2026-01-11", "S3", 0, "USD"⟩], [⟨"2026-01-12", "EC2", 10, "USD"⟩],
        [⟨"2026-01-13", "EC2", 10, "USD"⟩], [⟨"2026-01-14", "EC2", 30, "USD"⟩]] := by
  have hten : (Value.text "10").toFloat = .ok 10 := Result.eq_ok_of_toOption (by decide +kernel)
  have hnone : (Value.text "0").toFloat = .ok 0 := Result.eq_ok_of_toOption (by decide +kernel)
  have hthirty : (Value.text "30").toFloat = .ok 30 := Result.eq_ok_of_toOption (by decide +kernel)
  exact ⟨⟨spikePages, [], plays_scriptWorld _ _, rfl⟩, all_eq_true.mp rfl, rfl,
    .cons (isPage_costPage _ _ (.cons hten (.cons hnone .nil))) (.cons (isPage_costPage _ _ (.cons hten .nil))
      (.cons (isPage_costPage _ _ (.cons hten .nil)) (.cons (isPage_costPage _ _ (.cons hthirty .nil)) .nil)))⟩

/-- The record of the tenth gives way to the fetched ones; the one of the day before the thirty stays. -/
theorem synced_records_settled_of_spike : ∃ taken, ((spikeService []).transact takeOver).1 = .ok taken ∧
    (costsOf "a" (spikeService []).store).map (cell · "date") = [.date ⟨2025, 12, 15⟩, .date ⟨2026, 1, 10⟩] ∧
    (costsOf "a" (syncLocal (spikeService [])).2.store).map told =
      [([.date ⟨2025, 12, 15⟩, "EC2", .float 5, "USD"] : List Value), [.date ⟨2026, 1, 11⟩, "EC2", .float 10, "USD"],
        [.date ⟨2026, 1, 12⟩, "EC2", .float 10, "USD"], [.date ⟨2026, 1, 13⟩, "EC2", .float 10, "USD"], [.date ⟨2026, 1, 14⟩, "EC2", .float 30, "USD"]] ∧
    othersOf "a" (syncLocal (spikeService [])).2.store = othersOf "a" (spikeService []).store := by
  have hids : (spikeService []).store.HasIds := hasIds_idleService (by simp [Store.HasIds])
  obtain ⟨taken, htak, hid, -, hdays⟩ := exists_of_isSpiked (r := ((spikeService []).transact takeOver).1)
    (by decide +kernel)
  obtain ⟨-, hlast, hfirst, fetched, -, hstored, hsettled⟩ := (synced_records_settled hids 7).2 taken htak hdays
  have hstored := hstored _ _ _ (answers_spikeService [])
  have hread : ∀ s day, (Date.read s).toOption = some day → Date.read s = .ok day := fun _ _ => eq_ok_of_toOption
  have hten : (Numeral.roundTo? 10 4).getD 10 = 10 ∧ (10 : Float).isNaN = false ∧ ((10 : Float) == 0) = false := by decide +kernel
  have hthirty : (Numeral.roundTo? 30 4).getD 30 = 30 ∧ (30 : Float).isNaN = false ∧ ((30 : Float) == 0) = false := by decide +kernel
  have hkept : ¬ (10 : Float) < 0.01 ∧ (0 : Float) < 0.01 ∧ ¬ (30 : Float) < 0.01 := by decide +kernel
  simp only [flatten_cons, flatten_nil, cons_append, nil_append, append_nil, filter_cons, filter_nil, Charge.isKept, hkept,
    decide_true, decide_false, Bool.not_true, Bool.not_false, if_true, Bool.false_eq_true, if_false] at hstored
  obtain ⟨c₁, r₁, h₁, hrest₁, rfl⟩ := forall₂_cons_left_iff.mp hstored
  obtain ⟨c₂, r₂, h₂, hrest₂, rfl⟩ := forall₂_cons_left_iff.mp hrest₁
  obtain ⟨c₃, r₃, h₃, hrest₃, rfl⟩ := forall₂_cons_left_iff.mp hrest₂
  obtain ⟨c₄, r₄, h₄, hrest₄, rfl⟩ := forall₂_cons_left_iff.mp hrest₃
  cases hrest₄
  rw [eq_of_isStored (hread _ ⟨2026, 1, 11⟩ (by decide +kernel)) hten h₁, eq_of_isStored (hread _ ⟨2026, 1, 12⟩ (by decide +kernel)) hten h₂,
    eq_of_isStored (hread _ ⟨2026, 1, 13⟩ (by decide +kernel)) hten h₃,
    eq_of_isStored (hread _ ⟨2026, 1, 14⟩ (by decide +kernel)) hthirty h₄, hid] at hsettled
  obtain ⟨htold, -, hothers, -⟩ := hsettled
  have hbefore : (spikeService []).world.now.date.before 30 = .ok ⟨2025, 12, 16⟩ := eq_ok_of_toOption (by decide +kernel)
  rw [hlast] at hfirst htold
  rw [Except.ok.inj (hfirst.symm.trans hbefore)] at htold
  have hold : ((costsOf "a" (spikeService []).store).filter (isOutside ⟨2025, 12, 16⟩ (spikeService []).world.now.date)).map
      told = [([.date ⟨2025, 12, 15⟩, "EC2", .float 5, "USD"] : List Value)] := rfl
  rw [hold] at htold
  exact ⟨taken, htak, rfl, htold, hothers⟩

def anomaliesOf (id : Value) (day : Date) (s : Store) : List Row :=
  (s.rows .anomalies).filter (isAnomaly id (.date day))

def toldAnomaly (row : Row) : List Value :=
  ["date", "service", "expected_amount", "actual_amount", "deviation_pct", "severity"].map (cell row)

def heldAnomaly (a : Cost.Anomaly Value Value Value) : List Value :=
  [Store.CellKind.day.normal a.day, text.normal a.service, Store.CellKind.number.normal a.expected,
    Store.CellKind.number.normal a.actual, Store.CellKind.number.normal a.deviation, .text a.severity.name]

lemma toldAnomaly_of_isNew {a : Cost.Anomaly Value Value Value}
    (h : IsNew .anomalies (anomalyCells account a) row) (hid : cell account "id" = .text id)
    (hday : a.day = .date day) :
    toldAnomaly row = heldAnomaly a ∧ isAnomaly (cell account "id") (.date day) row = true := by
  have hacc : cell row "aws_account_id" = identifier.normal (cell account "id") :=
    h.cell_of_nothing (i := 1) rfl rfl
  have hdate : cell row "date" = Store.CellKind.day.normal a.day := h.cell_of_nothing (i := 2) rfl rfl
  have hser : cell row "service" = text.normal a.service := h.cell_of_nothing (i := 3) rfl rfl
  have hexp : cell row "expected_amount" = Store.CellKind.number.normal a.expected :=
    h.cell_of_nothing (i := 4) rfl rfl
  have hact : cell row "actual_amount" = Store.CellKind.number.normal a.actual :=
    h.cell_of_nothing (i := 5) rfl rfl
  have hdev : cell row "deviation_pct" = Store.CellKind.number.normal a.deviation :=
    h.cell_of_nothing (i := 6) rfl rfl
  have hsev : cell row "severity" = .text a.severity.name := by
    have hcell : cell row "severity" = (word Store.severities).normal (.text a.severity.name) :=
      h.cell_of_nothing (i := 7) rfl rfl
    have hword : ∀ severity : Cost.Severity,
        (Store.severities.find? severity.name).getD severity.name = severity.name := by
      intro severity
      cases severity <;> decide +kernel
    rw [hcell]
    exact congrArg Value.text (hword _)
  constructor
  · simp only [toldAnomaly, heldAnomaly, List.map, hdate, hser, hexp, hact, hdev, hsev]
  · rw [hday] at hdate
    rw [isAnomaly, Store.ofAccount, holds, hacc, hid, Store.dated, Store.day?, hdate]
    simp [Value.same, normal, Cost.date_beq]

lemma map_toldAnomaly (hid : cell account "id" = .text id) (hdays : ∀ a ∈ found, a.day = .date day)
    (h : List.Forall₂ (IsNew .anomalies) (found.map (anomalyCells account)) new) :
    new.map toldAnomaly = found.map heldAnomaly ∧
      ∀ row ∈ new, isAnomaly (cell account "id") (.date day) row = true := by
  induction found generalizing new with
  | nil =>
    cases h
    exact ⟨rfl, by simp⟩
  | cons a found ih =>
    cases h with
    | @cons _ row _ rows hrow hrest =>
      obtain ⟨htold, hano⟩ := toldAnomaly_of_isNew hrow hid (hdays a mem_cons_self)
      grind

/-- **The anomalies of yesterday are those of the last run that found any.** After a run the stored ones are those that
it found, unless it found none: then those of an earlier run stay. -/
theorem anomalies_mirrored_iff (hids : s.store.HasIds) {taken : Taken} (h : (s.transact takeOver).1 = .ok taken) :
    taken.last = s.world.now.date ∧
    Cost.Detector.default.detectRows taken.last .null (.list taken.lines) = .ok taken.found ∧
    ∃ day, taken.last.before 1 = .ok day ∧
      ((anomaliesOf (cell taken.account.1 "id") day (syncLocal s).2.store).map toldAnomaly =
          taken.found.map heldAnomaly ↔
        taken.found ≠ [] ∨ anomaliesOf (cell taken.account.1 "id") day s.store = []) := by
  have htook := took_of_exec (isIdentified_of_hasIds hids) (exec_of_transact h)
  obtain ⟨id, hid⟩ := htook.id
  obtain ⟨day, new, hday, hdays, hnew, hrows⟩ := htook.anomalies
  obtain ⟨htold, hano⟩ := map_toldAnomaly hid hdays hnew
  have hsto : (syncLocal s).2 = (s.transact takeOver).2 := rfl
  refine ⟨htook.last, htook.detected, day, hday, ?_⟩
  rw [hsto]
  cases hfou : taken.found with
  | nil =>
    rw [hfou] at hrows hnew
    cases hnew
    have hsame : anomaliesOf (cell taken.account.1 "id") day (s.transact takeOver).2.store =
        anomaliesOf (cell taken.account.1 "id") day s.store := by
      unfold anomaliesOf
      rw [hrows]
      simp
    rw [hsame]
    simp
  | cons a found =>
    have hall : anomaliesOf (cell taken.account.1 "id") day (s.transact takeOver).2.store = new := by
      unfold anomaliesOf
      rw [hrows, hfou, filter_append, filter_eq_self.mpr hano, filter_filter,
        filter_eq_nil_iff.mpr]
      all_goals grind
    rw [hall, htold, hfou]
    simp

def staleEntry : Store.Entry := entryOf .anomalies "f" [("aws_account_id", "a"), ("date", .date ⟨2026, 1, 14⟩),
  ("service", "EC2"), ("expected_amount", .float 10), ("actual_amount", .float 25), ("deviation_pct", .float 1.5),
  ("severity", "critical")]

/-- The anomaly that was found gives way to the one of this run. -/
theorem anomalies_mirrored_of_spike : ∃ taken, ((spikeService [staleEntry]).transact takeOver).1 = .ok taken ∧
    taken.last.before 1 = .ok ⟨2026, 1, 14⟩ ∧
    (anomaliesOf "a" ⟨2026, 1, 14⟩ (spikeService [staleEntry]).store).map (cell · "actual_amount") = [.float 25] ∧
    (anomaliesOf "a" ⟨2026, 1, 14⟩ (syncLocal (spikeService [staleEntry])).2.store).map toldAnomaly =
      taken.found.map heldAnomaly ∧ taken.found.length = 1 := by
  have hids : (spikeService [staleEntry]).store.HasIds := hasIds_idleService fun e he _ => ⟨"f", by simp at he; rw [he]; rfl⟩
  obtain ⟨taken, htak, hid, hfound, -⟩ := exists_of_isSpiked (r := ((spikeService [staleEntry]).transact takeOver).1)
    (by decide +kernel)
  obtain ⟨hlast, -, day, hday, hmirrored⟩ := anomalies_mirrored_iff hids htak
  have hyesterday : taken.last.before 1 = .ok ⟨2026, 1, 14⟩ := by
    rw [hlast]
    exact eq_ok_of_toOption (by decide +kernel)
  cases hday.symm.trans hyesterday
  rw [hid] at hmirrored
  exact ⟨taken, htak, hyesterday, rfl, hmirrored.mpr (.inl (ne_nil_of_length_pos (by omega))), hfound⟩

/-- A run that finds nothing leaves the anomaly of an earlier one. -/
theorem anomaly_outlives_run : ∃ taken, ((idleService [staleEntry]).transact takeOver).1 = .ok taken ∧
    taken.found = [] ∧ idleWorld.now.date.before 1 = .ok ⟨2026, 1, 14⟩ ∧
    (anomaliesOf "a" ⟨2026, 1, 14⟩ (syncLocal (idleService [staleEntry])).2.store).length = 1 := by
  obtain ⟨taken, htak, -, hfou, -⟩ := exists_of_isIdle (r := ((idleService [staleEntry]).transact takeOver).1)
    (by decide +kernel)
  exact ⟨taken, htak, hfou, Result.eq_ok_of_toOption (by decide +kernel), by decide +kernel⟩

end Task

end CloudSpend
