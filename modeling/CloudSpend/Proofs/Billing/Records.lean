import CloudSpend.Billing.Export
import CloudSpend.Billing.Table
import CloudSpend.Proofs.Data.Entries
import Mathlib.Data.List.Forall2

/-! # Records of stored tables -/

namespace CloudSpend.Billing

open List

variable {α β : Type} {f : α → Result β} {xs : List α} {ys : List β}

lemma forall₂_of_mapM (h : xs.mapM f = .ok ys) : List.Forall₂ (fun x y => f x = .ok y) xs ys := by
  induction xs generalizing ys with
  | nil =>
    obtain rfl : ys = [] := by simpa [pure, Except.pure] using h.symm
    exact .nil
  | cons x xs ih =>
    rw [mapM_cons] at h
    obtain ⟨y, hy, h⟩ := Result.of_bind_ok h
    obtain ⟨rest, hrest, h⟩ := Result.of_bind_ok h
    cases h
    exact .cons hy (ih hrest)

lemma mapM_of_forall₂ (h : List.Forall₂ (fun x y => f x = .ok y) xs ys) : xs.mapM f = .ok ys := by
  induction h with
  | nil => rfl
  | cons hy _ ih =>
    rw [mapM_cons, hy, ih]
    rfl

lemma mapM_eq_ok {g : α → β} (h : ∀ x ∈ xs, f x = .ok (g x)) : xs.mapM f = .ok (xs.map g) :=
  mapM_of_forall₂ (forall₂_map_right_iff.mpr (forall₂_same.mpr h))

lemma collect_cons_eq_ok {f : α → Result (Option β)} {x : α} (h : collect f (x :: xs) = .ok ys) :
    ∃ found rest, f x = .ok found ∧ collect f xs = .ok rest ∧ ys = found.toList ++ rest := by
  obtain ⟨found, hfou, h⟩ := Result.of_bind_ok h
  obtain ⟨rest, hrest, h⟩ := Result.of_bind_ok h
  exact ⟨found, rest, hfou, hrest, (Except.ok.inj h).symm⟩

lemma exists_mapM_eq_ok (h : ∀ x ∈ xs, ∃ y, f x = .ok y) : ∃ ys, xs.mapM f = .ok ys := by
  induction xs with
  | nil => exact ⟨[], rfl⟩
  | cons x xs ih =>
    obtain ⟨y, hy⟩ := h x mem_cons_self
    obtain ⟨ys, hys⟩ := ih fun z hz => h z (mem_cons_of_mem x hz)
    exact ⟨y :: ys, by rw [mapM_cons, hy, hys]; rfl⟩

lemma exists_eq_ok_of_mapM (h : xs.mapM f = .ok ys) {x : α} (hx : x ∈ xs) : ∃ y, f x = .ok y := by
  have hall := forall₂_of_mapM h
  clear h
  induction hall with
  | nil => cases hx
  | cons hy _ ih =>
    rcases mem_cons.mp hx with rfl | hx
    · exact ⟨_, hy⟩
    · exact ih hx

lemma ne_nil_of_mapM (h : xs.mapM f = .ok ys) (hne : xs ≠ []) : ys ≠ [] := by
  rintro rfl
  exact hne (forall₂_nil_right_iff.mp (forall₂_of_mapM h))

namespace Table

def columnsOf (rs : List (List Value)) : List (String × List Value) :=
  schema.mapIdx fun i column => (column, rs.map fun r => r.getD i .null)

def records (columns : List (String × List Value)) : List (List Value) :=
  (range ((columns.head?.map fun c => c.2.length).getD 0)).map fun j =>
    columns.map fun c => c.2.getD j .null

lemma records_columnsOf {rs : List (List Value)} (h : ∀ r ∈ rs, r.length = schema.length) :
    records (columnsOf rs) = rs := by
  have hsize : ((columnsOf rs).head?.map fun c => c.2.length).getD 0 = rs.length := by
    simp [columnsOf, schema]
  unfold records
  rw [hsize]
  apply ext_getElem (by simp)
  intro j _ hj
  have hlen := h rs[j] (getElem_mem hj)
  rw [getElem_map, getElem_range]
  apply ext_getElem (by simp [columnsOf, hlen])
  intro i hi _
  have hi' : i < rs[j].length := by simpa [columnsOf, hlen] using hi
  simp [columnsOf, hj, hi']

lemma length_cells {row : Value} {r : List Value} (h : cells row = .ok r) :
    r.length = schema.length :=
  (forall₂_of_mapM h).length_eq.symm

lemma store_eq (path : String) {rows : List Value} (h : rows ≠ []) :
    store path rows = (rows.mapM cells).map fun rs =>
      [{ path := path, columns := columnsOf rs, source := none }] := by
  have hemp : rows.isEmpty = false := by simpa using h
  unfold store ofRows
  rw [hemp]
  cases rows.mapM cells <;> rfl

end Table

namespace Cloud

def record (cloud : Cloud) (row : Value) : Option (List Value) :=
  match cloud.charge row with
  | .ok (some c) => (Table.cells (.object c.toRow)).toOption
  | _ => none

variable {cloud : Cloud}

lemma length_of_record {row : Value} {r : List Value} (h : cloud.record row = some r) :
    r.length = Table.schema.length := by
  unfold record at h
  split at h
  · next c _ =>
      exact Table.length_cells (Result.eq_ok_of_toOption h)
  · cases h

lemma eq_filterMap_record {rows : List Value} {charges : List Charge} {rs : List (List Value)}
    (hcha : cloud.charges rows = .ok charges)
    (hcel : List.Forall₂ (fun (c : Charge) r => Table.cells (.object c.toRow) = .ok r) charges rs) :
    rs = rows.filterMap cloud.record := by
  unfold Cloud.charges at hcha
  induction rows generalizing charges rs with
  | nil =>
    obtain rfl : charges = [] := by simpa [collect] using hcha.symm
    cases hcel
    rfl
  | cons row rows ih =>
    obtain ⟨found, rest, hrow, hrest, rfl⟩ := collect_cons_eq_ok hcha
    cases found with
    | none =>
      have hrec : cloud.record row = none := by simp [record, hrow]
      rw [filterMap_cons_none hrec]
      exact ih hrest (by simpa using hcel)
    | some c =>
      obtain ⟨r, rs, hcell, htail, rfl⟩ := forall₂_cons_left_iff.mp hcel
      have hrec : cloud.record row = some r := by simp [record, hrow, hcell, Except.toOption]
      rw [filterMap_cons_some hrec, ih hrest htail]

end Cloud

end CloudSpend.Billing
