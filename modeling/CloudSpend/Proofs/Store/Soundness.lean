import CloudSpend.Proofs.Data.Entries
import CloudSpend.Store.Basic
import Mathlib.Data.List.Pairwise
import Mathlib.Tactic.Common

/-! # What soundness says of a store -/

namespace CloudSpend.Store

open List Value

variable {v : Value} {a name : String} {s : Store} {t : Table} {row r r' : Row}

lemma same_text_iff : v.same (.text a) = true ↔ v = .text a := by
  cases v <;> simp [same, sameNumber, int?]

lemma text_same_iff : (Value.text a).same v = true ↔ v = .text a := by
  cases v with
  | text s => simp [same, eq_comm (a := s)]
  | _ => simp [same, sameNumber, int?]

lemma mem_rows : row ∈ s.rows t ↔ ⟨t, row⟩ ∈ s := by
  simp only [rows, mem_map, mem_filter, beq_iff_eq]
  constructor
  · rintro ⟨e, ⟨he, rfl⟩, rfl⟩
    exact he
  · intro h
    exact ⟨_, ⟨h, rfl⟩, rfl⟩

lemma has_iff {id : Value} : s.has t id = true ↔ ∃ row, ⟨t, row⟩ ∈ s ∧ holds "id" id row = true := by
  simp only [has, any_eq_true, mem_rows]

lemma mem_all (t : Table) : t ∈ Table.all := by cases t <;> decide

lemma id_mem_keys_of_target : ∀ t : Table, ∀ c ∈ t.columns, ∀ u ∈ c.target, ["id"] ∈ u.keys := by
  intro t
  have hall : ∀ t ∈ Table.all, ∀ c ∈ t.columns, ∀ u ∈ c.target, ["id"] ∈ u.keys := by decide
  exact hall t (mem_all t)

section Sound

variable {s : Store} (hs : s.sound = true)
include hs

variable {e : Entry} {c : Column} {t : Table}

lemma admits_of_sound (he : e ∈ s) (hc : c ∈ e.table.columns) : c.admits s (cell e.row c.name) = true := by
  simp only [sound, Bool.and_eq_true, all_eq_true] at hs
  have hadm := hs.1 e he
  simp only [Entry.admitted, all_eq_true] at hadm
  exact hadm c hc

lemma exists_of_sound (he : e ∈ s) (hc : c ∈ e.table.columns) (ht : c.target = some t)
    (hnull : (cell e.row c.name).isNull = false) :
    ∃ row, ⟨t, row⟩ ∈ s ∧ holds "id" (cell e.row c.name) row = true := by
  have hadm := admits_of_sound hs he hc
  rw [Column.admits, hnull, ht] at hadm
  exact has_iff.mp (by simpa using hadm)

lemma hasKey_of_sound {key : List String} (hkey : key ∈ t.keys) : s.hasKey t key = true := by
  simp only [sound, Bool.and_eq_true, all_eq_true] at hs
  exact hs.2 t (mem_all t) key hkey

end Sound

lemma apart_iff_pairwise (ks : List (List Value)) :
    apart ks = true ↔ ks.Pairwise fun k l => sameItems k l = false := by
  induction ks with
  | nil => simp [apart]
  | cons k ks ih => simp [apart, ih]

lemma apart_of_sublist {ks ls : List (List Value)} (h : ks.Sublist ls) (hls : apart ls = true) :
    apart ks = true :=
  (apart_iff_pairwise ks).mpr (((apart_iff_pairwise ls).mp hls).sublist h)

lemma hasKey_iff_pairwise :
    s.hasKey t [name] = true ↔ (s.rows t).Pairwise fun r r' => (cell r name).same (cell r' name) = false := by
  rw [hasKey, apart_iff_pairwise, pairwise_map]
  simp [sameItems]

lemma eq_of_same_cell (hkey : s.hasKey t [name] = true) (hr : ⟨t, r⟩ ∈ s) (hr' : ⟨t, r'⟩ ∈ s)
    (hcell : cell r name = .text a) (hcell' : cell r' name = .text a) : r = r' := by
  let Distinct (r r' : Row) : Prop := ∀ a, cell r name = .text a → cell r' name ≠ .text a
  have hsymm : Std.Symm Distinct := ⟨fun r r' h a hr' hr => h a hr hr'⟩
  have hpai : (s.rows t).Pairwise Distinct := by
    refine (hasKey_iff_pairwise.mp hkey).imp fun {r r'} hne a hr hr' => ?_
    rw [hr, text_same_iff.mpr hr'] at hne
    cases hne
  by_contra hne
  exact hpai.forall (mem_rows.mpr hr) (mem_rows.mpr hr') hne a hcell hcell'

lemma eq_of_same_id (hkey : s.hasKey t ["id"] = true) (hr : ⟨t, r⟩ ∈ s) (hr' : ⟨t, r'⟩ ∈ s)
    (hid : cell r "id" = .text a) (hid' : cell r' "id" = .text a) : r = r' :=
  eq_of_same_cell hkey hr hr' hid hid'

lemma ne_of_hasKey_append (hkey : hasKey (s ++ [⟨t, row⟩]) t [name] = true) (hr : ⟨t, r⟩ ∈ s)
    (hid : cell r name = .text a) : cell row name ≠ .text a := by
  intro hrow
  have hrows : rows (s ++ [⟨t, row⟩]) t = s.rows t ++ [row] := by simp [rows]
  have hpai := hasKey_iff_pairwise.mp hkey
  rw [hrows, pairwise_append] at hpai
  have hne := hpai.2.2 r (mem_rows.mpr hr) row mem_cons_self
  rw [hid, text_same_iff.mpr hrow] at hne
  cases hne

end CloudSpend.Store
