import CloudSpend.Api.Resource
import CloudSpend.Proofs.Api.Confined
import CloudSpend.Proofs.Store.Rows
import Mathlib.Tactic.MkIffOfInductiveProp

/-! # Requests that name nothing of others -/

namespace CloudSpend.Api

open List Store Entries Store.CellKind
open Store (Table Entry Column Tenancy Kin mine cell holds)
open Handler (Confined Named)

def Call.values (c : Call) : List Value :=
  .text c.param :: c.query.map Prod.snd ++ c.body.map Prod.snd

def Discreet (κ : Entry → Value) (user : Value) (s : Store) (c : Call) : Prop :=
  ∀ e ∈ s, e.table.isKept = true → ∀ v ∈ c.values,
    holds "token" (text.normal v) e.row = true ∨ holds "id" v e.row = true → mine κ user e = true

def Scoped (fields : List Form.Field) (c : Call) : Prop :=
  ∀ f ∈ fields, f.1 = "page" ∨ f.1 = "limit" ∨ (c.arg f.1).truthy = true

lemma field_mem_values (c : Call) (name : String) : c.field name ∈ c.values ∨ c.field name = .null := by
  unfold Call.field cell
  cases hget : get? c.body name with
  | none => exact .inr rfl
  | some v =>
    refine .inl (mem_append_right _ ?_)
    exact mem_map.mpr ⟨_, mem_of_get? hget, rfl⟩

lemma arg_mem_values {c : Call} {name : String} (h : (c.arg name).truthy = true) : c.arg name ∈ c.values := by
  unfold Call.arg cell at h ⊢
  cases hget : get? c.query name with
  | none =>
    rw [hget] at h
    cases h
  | some v =>
    refine mem_append_left _ (mem_cons_of_mem _ ?_)
    exact mem_map.mpr ⟨_, mem_of_get? hget, rfl⟩

def HasToken (t : Table) : Prop := ∃ c ∈ t.columns, c.name = "token" ∧ c.required = true

instance (t : Table) : Decidable (HasToken t) := inferInstanceAs (Decidable (∃ c ∈ t.columns, _))

section Named

variable {κ : Entry → Value} {user : Value} {s : Store} {c : Call}

variable {t : Table}

lemma Discreet.named (h : Discreet κ user s c) (ht : t.isKept = true) {v : Value} (hv : v ∈ c.values) :
    Named κ user s t v :=
  fun row hrow htok => h ⟨t, row⟩ hrow ht v hv (.inl htok)

lemma named_null (hs : s.sound = true) (ht : HasToken t) : Named κ user s t .null := by
  intro row hrow htok
  obtain ⟨column, hcol, hname, hreq⟩ := ht
  have hadm := admits_of_sound hs hrow hcol
  have hnull : (cell row column.name).isNull = true := by
    rw [hname]
    rw [holds] at htok
    revert htok
    cases cell row "token" <;>
      simp [normal, Value.same, Value.sameNumber, Value.int?, Value.isNull]
  simp [Column.admits, hnull, hreq] at hadm

lemma Discreet.named_field (h : Discreet κ user s c) (hs : s.sound = true) (ht : t.isKept = true)
    (htok : HasToken t) (name : String) : Named κ user s t (c.field name) := by
  rcases field_mem_values c name with hv | hv
  · exact h.named ht hv
  · rw [hv]
    exact named_null hs htok

end Named

def Own (κ : Entry → Value) (user : Value) (s : Store) (t : Table) (v : Value) : Prop :=
  v = .null ∨ ∃ row, ⟨t, row⟩ ∈ s ∧ mine κ user ⟨t, row⟩ = true ∧ v = cell row "id"

def IsPlain (t : Table) (name : String) : Prop :=
  name ≠ "id" ∧ (∀ q ∈ t.parent?, name ≠ q.2) ∧
    ∀ c ∈ t.columns, c.name = name → ∀ u ∈ c.target, u.isKept = false

instance (t : Table) (name : String) : Decidable (IsPlain t name) := inferInstanceAs (Decidable (_ ∧ _ ∧ _))

@[mk_iff]
structure IsLink (t : Table) (l : Link) : Prop where
  kept : l.table.isKept = true
  token : HasToken l.table
  column : l.column ≠ "id" ∧ ∀ q ∈ t.parent?, l.column ≠ q.2
  target : ∀ c ∈ t.columns, c.name = l.column → c.target = some l.table

instance (t : Table) (l : Link) : Decidable (IsLink t l) := decidable_of_iff' _ (isLink_iff t l)

def Harmless (κ : Entry → Value) (user : Value) (s : Store) (t : Table) (p : String × Value) : Prop :=
  IsPlain t p.1 ∨ ∃ l, IsLink t l ∧ p.1 = l.column ∧ Own κ user s l.table p.2

section Own

variable {κ : Entry → Value} {u : String} {s : Store} (hs : Tenancy κ s)

lemma mine_iff {user : String} {e : Entry} (ht : e.table.isKept = true) :
    mine κ (.text user) e = true ↔ κ e = .text user := by
  rw [mine, ht, Bool.not_true, Bool.false_or, same_text_iff]

include hs

variable {t : Table} {x : Row} {v : Value}

lemma eq_of_holds_id (hkey : ["id"] ∈ t.keys) {y : Row} (hx : ⟨t, x⟩ ∈ s) (hy : ⟨t, y⟩ ∈ s)
    (hid : holds "id" (identifier.normal (cell y "id")) x = true) : x = y := by
  obtain ⟨a, ha⟩ := hs.ids _ hy hkey
  have hnor : identifier.normal (cell y "id") = .text a := by rw [ha]; rfl
  rw [hnor, holds, same_text_iff] at hid
  exact eq_of_same_id (hasKey_of_sound hs.sound hkey) hx hy hid ha

lemma not_holds_id_null (hkey : ["id"] ∈ t.keys) (hx : ⟨t, x⟩ ∈ s) : holds "id" .null x = false := by
  obtain ⟨a, ha⟩ := hs.ids _ hx hkey
  rw [holds, ha]
  rfl

lemma Own.creator_eq (ht : t.isKept = true) (hkey : ["id"] ∈ t.keys) (h : Own κ (.text u) s t v)
    (hx : ⟨t, x⟩ ∈ s) (hid : holds "id" (identifier.normal v) x = true) :
    κ ⟨t, x⟩ = .text u := by
  rcases h with rfl | ⟨y, hy, hmine, rfl⟩
  · have hnull : holds "id" .null x = true := hid
    rw [not_holds_id_null hs hkey hx] at hnull
    cases hnull
  · rw [eq_of_holds_id hs hkey hx hy hid]
    exact (mine_iff ht).mp hmine

lemma Harmless.creator_eq {c : Column} (hc : c ∈ t.columns) (h : Harmless κ (.text u) s t (c.name, v))
    {x : Entry} (hx : x ∈ s) (ht : c.target = some x.table) (hkept : x.table.isKept = true)
    (hid : holds "id" (identifier.normal v) x.row = true) : κ x = .text u := by
  have hkey := id_mem_keys_of_target t c hc _ ht
  rcases h with hpla | ⟨l, hl, hname, hown⟩
  · rw [hpla.2.2 c hc rfl _ ht] at hkept
    cases hkept
  · have htar := hl.target c hc hname
    rw [ht, Option.some.injEq] at htar
    rw [← htar] at hown
    exact hown.creator_eq hs hkept hkey hx hid

end Own

variable {row x : Row} {t u : Table} {column : String} {κ : Entry → Value} {user : Value} {s : Store}

lemma get?_eq_none_of_forall {key : String} (h : ∀ p ∈ row, p.1 ≠ key) : get? row key = none := by
  cases hget : get? row key with
  | none => rfl
  | some v => exact absurd rfl (h _ (mem_of_get? hget))

lemma get?_stated (before : Row) {after : Row} {v : Value} (hbef : ∀ p ∈ before, p.1 ≠ column)
    (hv : v.isNull = false) : get? (t.stated (before ++ (column, v) :: after)) column = some v := by
  have hnone : get? (t.stated before) column = none :=
    get?_eq_none_of_forall fun p hp => hbef p (mem_filter.mp hp).1
  unfold Table.stated get? at hnone ⊢
  rw [filter_append, lookup_append, hnone, filter_cons_of_pos (by simp [hv])]
  simp

lemma Harmless.ne {p : String × Value} (h : Harmless κ user s t p) :
    p.1 ≠ "id" ∧ ∀ q ∈ t.parent?, p.1 ≠ q.2 := by
  rcases h with hpla | ⟨l, hl, hname, -⟩
  · exact ⟨hpla.1, hpla.2.1⟩
  · rw [hname]
    exact hl.column

lemma spares_of_harmless {changes : Row} (h : ∀ p ∈ changes, Harmless κ user s t p) :
    Store.Spares t changes :=
  ⟨get?_eq_none_of_forall fun p hp => (h p hp).ne.1,
    fun q hq => get?_eq_none_of_forall fun p hp => (h p hp).ne.2 q hq⟩

lemma creator_of_parent (hs : Tenancy s.creator s) (hpar : t.parent? = some (u, column))
    (hu : u.isKept = true) (hx : ⟨u, x⟩ ∈ s) (hcell : cell row column = cell x "id") :
    s.creator ⟨t, row⟩ = s.creator ⟨u, x⟩ ∧ ∃ y, s.one? u (cell row column) = some y := by
  obtain ⟨c, hc, -, -, htar⟩ := exists_parentColumn hpar
  have hkey := id_mem_keys_of_target t c hc u htar
  obtain ⟨a, ha⟩ := hs.ids _ hx hkey
  have hsome : (s.one? u (cell row column)).isSome = true := by
    rw [one?, find?_isSome]
    refine ⟨x, mem_rows.mpr hx, ?_⟩
    rw [hcell, holds, ha]
    exact same_text_iff.mpr rfl
  obtain ⟨y, hy⟩ := Option.isSome_iff_exists.mp hsome
  obtain ⟨hmem, hid⟩ := mem_of_one? hy
  rw [hcell, holds, ha, same_text_iff] at hid
  obtain rfl := eq_of_same_id (hasKey_of_sound hs.sound hkey) hmem hx hid ha
  exact ⟨creator_eq_of_one? hpar hu hy, y, hy⟩

def Keeps (s s' : Service) : Prop := ∀ e ∈ s'.store, s'.store.creator e = s.store.creator e

lemma fits_of_parent (hs : Tenancy s.creator s) {user : String} (hpar : t.parent? = some (u, column))
    (hu : u.isKept = true) (hid : ∃ c ∈ t.columns, c.name = "id") (hx : ⟨u, x⟩ ∈ s)
    (hmine : mine s.creator (.text user) ⟨u, x⟩ = true) {given : Row}
    (hget : get? given column = some (cell x "id")) (hnoid : get? given "id" = none)
    (hgiv : ∀ p ∈ given, p.1 = column ∨ Harmless s.creator (.text user) s t p) (now : Timestamp)
    (id : String) : Store.Fits s.creator s ⟨t, t.fill now id given⟩ ∧
      mine s.creator (.text user) ⟨t, t.fill now id given⟩ = true ∧
        cell (t.fill now id given) column = cell x "id" := by
  obtain ⟨c, hc, rfl, -, htar⟩ := exists_parentColumn hpar
  have hkey := id_mem_keys_of_target t c hc u htar
  have hcell : cell (t.fill now id given) c.name = cell x "id" := by
    obtain ⟨a, ha⟩ := hs.ids _ hx hkey
    rw [cell_fill_of_target hc (by simp [htar]), hget, ha]
    rfl
  have hcre : s.creator ⟨t, t.fill now id given⟩ = .text user := by
    rw [(creator_of_parent hs hpar hu hx hcell).1]
    exact (mine_iff hu).mp hmine
  have hkept : t.isKept = true := by rw [Store.Table.isKept, hpar]; rfl
  refine ⟨⟨fun _ => ?_, fun {y} hy d hd ht hyke hyid => ?_⟩, (mine_iff hkept).mpr hcre, hcell⟩
  · obtain ⟨d, hd, hname⟩ := hid
    exact ⟨id, cell_fill_id hd hname now id hnoid⟩
  · rw [hcre]
    have hykey := id_mem_keys_of_target t d hd _ ht
    rw [cell_fill_of_target hd (by simp [ht])] at hyid
    cases hv : get? given d.name with
    | none =>
      rw [hv, not_holds_id_null hs hykey hy] at hyid
      cases hyid
    | some v =>
      rw [hv] at hyid
      rcases hgiv _ (mem_of_get? hv) with hname | hhar
      · have hname' : d.name = c.name := hname
        have htab := target_of_parentColumn hpar d hd hname'
        rw [ht, Option.some.injEq] at htab
        obtain ⟨w, y⟩ := y
        obtain rfl : w = u := htab
        rw [hname', hget, Option.some.injEq] at hv
        rw [← hv] at hyid
        rw [eq_of_holds_id hs hkey hy hx hyid, (mine_iff hu).mp hmine]
      · exact (hhar.creator_eq hs hd hy ht hyke hyid).symm

lemma keeps_of_parent {s s' : Service} (hs : Tenancy s.store.creator s.store)
    (hpar : t.parent? = some (u, column)) (hu : u.isKept = true) (hx : ⟨u, x⟩ ∈ s.store)
    (hcell : cell row column = cell x "id") (hsto : s'.store = s.store ++ [⟨t, row⟩]) : Keeps s s' := by
  intro e he
  rw [hsto] at he ⊢
  rcases mem_append.mp he with he | he
  · exact creator_append hs.sound _ he
  · rw [mem_singleton] at he
    subst he
    obtain ⟨-, y, hy⟩ := creator_of_parent hs hpar hu hx hcell
    rw [creator_append_self hs.sound hpar hu hy]
    exact (creator_eq_of_one? (e := ⟨t, row⟩) hpar hu hy).symm

end CloudSpend.Api
