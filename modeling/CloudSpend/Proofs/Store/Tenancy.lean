import CloudSpend.Proofs.Store.Soundness
import Mathlib.Data.Bool.Basic

/-! # Whose a row is -/

namespace CloudSpend.Store

open List Entries Entry

def Table.parent? : Table → Option (Table × String)
  | .workspaces => some (.users, "created_by")
  | .accessGrants | .teamMembers => some (.teams, "team_id")
  | .unitCosts => some (.costReports, "cost_report_id")
  | .costReports | .folders | .savedFilters | .dashboards | .segments | .teams | .virtualTags
  | .resourceReports | .networkFlowReports | .commitmentReports | .efficiencyReports | .dataExports
  | .workspaceMembers => some (.workspaces, "workspace_id")
  | _ => none

def Table.isKept (t : Table) : Bool := t.parent?.isSome

def Table.rank : Table → Nat
  | .workspaces => 1
  | .accessGrants | .teamMembers | .unitCosts => 3
  | t => if t.isKept then 2 else 0

def one? (s : Store) (t : Table) (id : Value) : Option Row := (s.rows t).find? (holds "id" id)

def creatorAt (s : Store) : Nat → Entry → Value
  | 0, _ => .null
  | n + 1, e => match e.table.parent? with
    | none => .null
    | some (t, column) =>
      if t.isKept then ((s.one? t (cell e.row column)).map fun row => s.creatorAt n ⟨t, row⟩).getD .null
      else cell e.row column

def creator (s : Store) (e : Entry) : Value := s.creatorAt e.table.rank e

variable {t u : Table} {column : String} {c : Column} {d e : Entry} {s : Store} {row : Row}

lemma rank_parent (h : t.parent? = some (u, column)) : t.rank = u.rank + 1 := by
  cases t <;> cases h <;> rfl

lemma exists_parentColumn (h : t.parent? = some (u, column)) :
    ∃ c ∈ t.columns, c.name = column ∧ c.required = true ∧ c.target = some u := by
  cases t <;> cases h <;> decide

lemma target_of_parentColumn (h : t.parent? = some (u, column)) :
    ∀ c ∈ t.columns, c.name = column → c.target = some u := by
  cases t <;> cases h <;> decide

lemma isKept_of_target (hc : c ∈ t.columns) (hu : c.target = some u) (hkept : u.isKept = true) :
    t.isKept = true := by
  have hall : ∀ t ∈ Table.all, ∀ c ∈ t.columns, ∀ u ∈ c.target, u.isKept = true → t.isKept = true := by
    decide
  exact hall t (mem_all t) c hc u hu hkept

structure Kin (d e : Entry) : Prop where
  table : d.table = e.table
  id : cell d.row "id" = cell e.row "id"
  parent : ∀ q ∈ d.table.parent?, cell d.row q.2 = cell e.row q.2

def HasIds (s : Store) : Prop :=
  ∀ e ∈ s, ["id"] ∈ e.table.keys → ∃ a, cell e.row "id" = .text a

structure Linked (κ : Entry → Value) (s : Store) : Prop where
  ids : s.HasIds
  linked : ∀ {d x : Entry}, d ∈ s → x ∈ s → ∀ c ∈ d.table.columns, c.target = some x.table →
    x.table.isKept = true → holds "id" (cell d.row c.name) x.row = true → κ d = κ x

structure Tenancy (κ : Entry → Value) (s : Store) : Prop extends Linked κ s where
  sound : s.sound = true

def mine (κ : Entry → Value) (user : Value) (e : Entry) : Bool :=
  !e.table.isKept || (κ e).same user

lemma creatorAt_congr (s : Store) (n : Nat) (h : Kin d e) : s.creatorAt n d = s.creatorAt n e := by
  cases n with
  | zero => rfl
  | succ n =>
    obtain ⟨htab, -, hpar⟩ := h
    rw [creatorAt, creatorAt, ← htab]
    cases hp : d.table.parent? with
    | none => rfl
    | some q =>
      grind

lemma creator_congr (s : Store) (h : Kin d e) : s.creator d = s.creator e := by
  rw [creator, creator, h.table, creatorAt_congr s _ h]

lemma creatorAt_succ (s : Store) (n : Nat) (hpar : e.table.parent? = some (t, column)) :
    s.creatorAt (n + 1) e =
      if t.isKept then ((s.one? t (cell e.row column)).map fun row => s.creatorAt n ⟨t, row⟩).getD .null
      else cell e.row column := by
  rw [creatorAt, hpar]

lemma creator_workspace (s : Store) (row : Row) : s.creator ⟨.workspaces, row⟩ = cell row "created_by" :=
  rfl

lemma creator_eq_of_one? (hpar : e.table.parent? = some (t, column)) (ht : t.isKept = true)
    (hone : s.one? t (cell e.row column) = some row) : s.creator e = s.creator ⟨t, row⟩ := by
  rw [creator, rank_parent hpar, creatorAt_succ s _ hpar, if_pos ht, hone]
  rfl

lemma checked_eq_ok {s' : Store} : checked s = .ok s' ↔ s.sound = true ∧ s' = s := by
  unfold checked
  split
  · next h => simp [h, eq_comm]
  · next h => simp [h]

lemma checked_ne_refused {status : Nat} {detail : String} : checked s ≠ .error (.http status detail) := by
  unfold checked
  split <;> simp

section Part

variable {κ : Entry → Value} {user : Value} {s : Store}

lemma mine_of_not_isKept (h : e.table.isKept = false) : mine κ user e = true := by
  simp [mine, h]

lemma Linked.mine_eq (h : Linked κ s) {x : Entry} (hd : d ∈ s) (hx : x ∈ s)
    (hc : c ∈ d.table.columns) (ht : c.target = some x.table) (hkept : x.table.isKept = true)
    (hid : holds "id" (cell d.row c.name) x.row = true) : mine κ user d = mine κ user x := by
  rw [mine, mine, isKept_of_target hc ht hkept, hkept, h.linked hd hx c hc ht hkept hid]

lemma rows_filter_sublist (s : Store) (p : Entry → Bool) (t : Table) :
    (rows (s.filter p) t).Sublist (s.rows t) :=
  ((filter_sublist (p := p) (l := s)).filter _).map _

lemma Tenancy.sound_filter (h : Tenancy κ s) : Store.sound (s.filter (mine κ user)) = true := by
  simp only [Store.sound, Bool.and_eq_true, all_eq_true]
  constructor
  · intro e he
    obtain ⟨hmem, hmine⟩ := mem_filter.mp he
    simp only [admitted, all_eq_true]
    intro c hc
    have hadm := admits_of_sound h.sound hmem hc
    unfold Column.admits at hadm ⊢
    split
    · next hnull => simpa [hnull] using hadm
    · next hnull =>
        rw [if_neg hnull] at hadm
        cases htar : c.target with
        | none => rfl
        | some t =>
          rw [htar] at hadm
          obtain ⟨row, hrow, hid⟩ := has_iff.mp (by simpa using hadm)
          have hpart : mine κ user ⟨t, row⟩ = true := by
            cases hkept : t.isKept with
            | false => exact mine_of_not_isKept hkept
            | true => rw [← h.mine_eq hmem hrow hc htar hkept hid, hmine]
          simpa using has_iff.mpr ⟨row, mem_filter.mpr ⟨hrow, hpart⟩, hid⟩
  · intro t ht key hkey
    exact apart_of_sublist ((rows_filter_sublist s _ t).map _) (hasKey_of_sound h.sound hkey)

lemma select_filter {test : Row → Bool} (h : ∀ row, ⟨t, row⟩ ∈ s → test row = true → mine κ user ⟨t, row⟩ = true) :
    Store.select (s.filter (mine κ user)) t test = s.select t test := by
  simp only [select, rows, filter_map, filter_filter]
  congr 1
  refine filter_congr fun e he => ?_
  by_cases htest : (e.table == t) = true ∧ test e.row = true
  · obtain ⟨htab, hrow⟩ := htest
    obtain rfl := beq_iff_eq.mp htab
    simp [h e.row he hrow, hrow]
  · rw [not_and_or] at htest
    rcases htest with htest | htest <;> simp [htest]

end Part

section Insert

variable {κ : Entry → Value} {user : Value} {s : Store} {e : Entry}

structure Fits (κ : Entry → Value) (s : Store) (e : Entry) : Prop where
  id : ["id"] ∈ e.table.keys → ∃ a, cell e.row "id" = .text a
  linked : ∀ {x : Entry}, x ∈ s → ∀ c ∈ e.table.columns, c.target = some x.table →
    x.table.isKept = true → holds "id" (cell e.row c.name) x.row = true → κ e = κ x

lemma Tenancy.append (h : Tenancy κ s) (he : Fits κ s e) (hsou : Store.sound (s ++ [e]) = true) :
    Tenancy κ (s ++ [e]) where
  sound := hsou
  ids d hd hkey := by
    rcases mem_append.mp hd with hd | hd
    · exact h.ids d hd hkey
    · rw [mem_singleton] at hd
      subst hd
      exact he.id hkey
  linked {d x} hd hx c hc ht hkept hid := by
    have hkey := id_mem_keys_of_target d.table c hc _ ht
    rcases mem_append.mp hd with hd' | hd' <;> rcases mem_append.mp hx with hx' | hx'
    · exact h.linked hd' hx' c hc ht hkept hid
    · -- No row can have referred to the new one: it would have led to a row with its identifier.
      rw [mem_singleton] at hx'
      subst hx'
      obtain ⟨a, ha⟩ := he.id hkey
      have hcell : cell d.row c.name = .text a := by
        rw [holds, ha] at hid
        exact text_same_iff.mp hid
      obtain ⟨row, hrow, hrwi⟩ := exists_of_sound h.sound hd' hc ht (by rw [hcell]; rfl)
      rw [hcell, holds, same_text_iff] at hrwi
      exact absurd ha (ne_of_hasKey_append (hasKey_of_sound hsou hkey) hrow hrwi)
    · rw [mem_singleton] at hd'
      subst hd'
      exact he.linked hx' c hc ht hkept hid
    · rw [mem_singleton] at hd' hx'
      rw [hd', hx']

theorem Tenancy.insert (h : Tenancy κ s) (hrow : Fits κ s ⟨t, row⟩)
    (hmine : mine κ user ⟨t, row⟩ = true) {s' : Store} (hins : s.insert t row = .ok s') :
    Tenancy κ s' ∧ insert (s.filter (mine κ user)) t row = .ok (s'.filter (mine κ user)) ∧
      s'.filter (fun e => !mine κ user e) = s.filter (fun e => !mine κ user e) ∧ s' = s ++ [⟨t, row⟩] := by
  obtain ⟨hsou, rfl⟩ := checked_eq_ok.mp hins
  have hten := h.append hrow hsou
  have hpart : filter (mine κ user) (s ++ [⟨t, row⟩]) = s.filter (mine κ user) ++ [⟨t, row⟩] := by
    simp [filter_append, hmine]
  refine ⟨hten, checked_eq_ok.mpr ⟨?_, hpart⟩, by simp [filter_append, hmine], rfl⟩
  rw [← hpart]
  exact hten.sound_filter

end Insert

lemma get?_map {f : String × Value → String × Value} (hf : ∀ e, (f e).1 = e.1) (key : String) :
    get? (row.map f) key = (get? row key).map fun v => (f (key, v)).2 := by
  unfold get?
  induction row with
  | nil => rfl
  | cons e row ih =>
    grind

lemma cell_revise (t : Table) (now : Timestamp) (changes row : Row) (key : String) :
    cell (t.revise now changes row) key = cell row key ∨
      ∃ c ∈ t.columns, c.name = key ∧ (c.stamped = true ∨
        ∃ v, get? changes key = some v ∧
          cell (t.revise now changes row) key = c.kind.normal v) := by
  unfold Table.revise
  split
  · exact .inl rfl
  · rw [cell, get?_map]
    swap
    · -- Every cell keeps its name, whatever is put into it.
      grind
    cases hcell : get? row key with
    | none => exact .inl (by simp [cell, hcell])
    | some w =>
      cases hfind : t.columns.find? fun c => c.name == key with
      | none => exact .inl (by simp [cell, hcell, hfind])
      | some c =>
        have hmem : c ∈ t.columns := mem_of_find?_eq_some hfind
        have hname : c.name = key := by simpa using find?_some hfind
        cases hcha : get? changes key with
        | some v => exact .inr ⟨c, hmem, hname, .inr ⟨v, rfl, by simp [hfind, hcha]⟩⟩
        | none =>
          cases hsta : c.stamped with
          | true => exact .inr ⟨c, hmem, hname, .inl hsta⟩
          | false => exact .inl (by simp [cell, hcell, hfind, hcha, hsta])

lemma not_stamped (hc : c ∈ t.columns) (h : c.stamped = true) :
    c.name ≠ "id" ∧ (∀ q ∈ t.parent?, c.name ≠ q.2) ∧
      ∀ d ∈ t.columns, d.target.isSome = true → c.name ≠ d.name := by
  have hall : ∀ t ∈ Table.all, ∀ c ∈ t.columns, c.stamped = true →
      c.name ≠ "id" ∧ (∀ q ∈ t.parent?, c.name ≠ q.2) ∧
        ∀ d ∈ t.columns, d.target.isSome = true → c.name ≠ d.name := by decide
  exact hall t (mem_all t) c hc h

lemma kind_of_target {d : Column} (hc : c ∈ t.columns) (hd : d ∈ t.columns) (ht : d.target.isSome = true)
    (hname : c.name = d.name) : c.kind = .identifier := by
  have hall : ∀ t ∈ Table.all, ∀ c ∈ t.columns, ∀ d ∈ t.columns, d.target.isSome = true →
      c.name = d.name → c.kind = .identifier := by decide
  exact hall t (mem_all t) c hc d hd ht hname

def Spares (t : Table) (changes : Row) : Prop :=
  get? changes "id" = none ∧ ∀ q ∈ t.parent?, get? changes q.2 = none

lemma kin_revise {changes : Row} (h : Spares t changes) (now : Timestamp) (row : Row) :
    Kin ⟨t, t.revise now changes row⟩ ⟨t, row⟩ where
  table := rfl
  id := by
    rcases cell_revise t now changes row "id" with hcell | ⟨c, hc, hname, hsta | ⟨v, hv, -⟩⟩
    · exact hcell
    · exact absurd hname (not_stamped hc hsta).1
    · rw [h.1] at hv
      cases hv
  parent q hq := by
    rcases cell_revise t now changes row q.2 with hcell | ⟨c, hc, hname, hsta | ⟨v, hv, -⟩⟩
    · exact hcell
    · exact absurd hname ((not_stamped hc hsta).2.1 q hq)
    · rw [h.2 q hq] at hv
      cases hv

lemma cell_revise_of_target (hc : c ∈ t.columns) (ht : c.target.isSome = true) (now : Timestamp)
    (changes row : Row) : cell (t.revise now changes row) c.name = cell row c.name ∨
      ∃ v, get? changes c.name = some v ∧
        cell (t.revise now changes row) c.name = CellKind.identifier.normal v := by
  rcases cell_revise t now changes row c.name with hcell | ⟨d, hd, hname, hsta | ⟨v, hv, hcell⟩⟩
  · exact .inl hcell
  · exact absurd hname ((not_stamped hd hsta).2.2 c hc ht)
  · rw [kind_of_target hd hc ht hname] at hcell
    exact .inr ⟨v, hv, hcell⟩

section Revise

variable {κ : Entry → Value} {user : Value} {s : Store} {t : Table} {test : Row → Bool}
  {now : Timestamp} {changes : Row}

def Entry.revised (t : Table) (test : Row → Bool) (now : Timestamp) (changes : Row) (e : Entry) : Entry :=
  if e.table == t && test e.row then { e with row := t.revise now changes e.row } else e

lemma reviseWhere_eq_map (s : Store) (t : Table) (test : Row → Bool) (now : Timestamp) (changes : Row) :
    s.reviseWhere t test now changes = s.map (revised t test now changes) := rfl

lemma Kin.refl (e : Entry) : Kin e e := ⟨rfl, rfl, fun _ _ => rfl⟩

lemma kin_revised (h : Spares t changes) (e : Entry) : Kin (e.revised t test now changes) e := by
  unfold revised
  split
  · next hcond =>
      obtain ⟨rfl, -⟩ : e.table = t ∧ test e.row = true := by simpa using hcond
      exact kin_revise h now e.row
  · exact Kin.refl e

lemma mine_congr (hκ : ∀ {d e}, Kin d e → κ d = κ e) (h : Kin d e) :
    mine κ user d = mine κ user e := by
  rw [mine, mine, h.table, hκ h]

lemma filter_reviseWhere (hκ : ∀ {d e}, Kin d e → κ d = κ e) (h : Spares t changes) :
    (s.reviseWhere t test now changes).filter (mine κ user) =
      reviseWhere (s.filter (mine κ user)) t test now changes := by
  rw [reviseWhere_eq_map, reviseWhere_eq_map, filter_map]
  congr 1
  exact filter_congr fun e _ => mine_congr hκ (kin_revised h e)

lemma filter_not_reviseWhere (hκ : ∀ {d e}, Kin d e → κ d = κ e) (h : Spares t changes)
    (hmine : ∀ row, ⟨t, row⟩ ∈ s → test row = true → mine κ user ⟨t, row⟩ = true) :
    (s.reviseWhere t test now changes).filter (fun e => !mine κ user e) =
      s.filter fun e => !mine κ user e := by
  rw [reviseWhere_eq_map, filter_map]
  have hfil : s.filter ((fun e => !mine κ user e) ∘ revised t test now changes) =
      s.filter fun e => !mine κ user e := by
    refine filter_congr fun e _ => ?_
    rw [Function.comp_apply, mine_congr hκ (kin_revised h e)]
  rw [hfil]
  refine (map_congr_left fun e he => ?_).trans (map_id _)
  obtain ⟨hmem, hnot⟩ := mem_filter.mp he
  unfold revised
  split
  · next hcond =>
      obtain ⟨rfl, htest⟩ : e.table = t ∧ test e.row = true := by simpa using hcond
      rw [hmine e.row hmem htest] at hnot
      cases hnot
  · rfl

lemma Linked.reviseWhere (h : Linked κ s) (hκ : ∀ {d e}, Kin d e → κ d = κ e) (hspa : Spares t changes)
    (hnew : ∀ row, ⟨t, row⟩ ∈ s → test row = true → ∀ c ∈ t.columns, ∀ v, get? changes c.name = some v →
      ∀ x ∈ s, c.target = some x.table → x.table.isKept = true →
        holds "id" (CellKind.identifier.normal v) x.row = true → κ ⟨t, row⟩ = κ x) :
    Linked κ (s.reviseWhere t test now changes) where
  ids e he hkey := by
    rw [reviseWhere_eq_map, mem_map] at he
    obtain ⟨e, he, rfl⟩ := he
    have hkin : Kin (e.revised t test now changes) e := kin_revised hspa e
    rw [hkin.table] at hkey
    rw [hkin.id]
    exact h.ids e he hkey
  linked {d x} hd hx c hc ht hkept hid := by
    rw [reviseWhere_eq_map, mem_map] at hd hx
    obtain ⟨d, hd, rfl⟩ := hd
    obtain ⟨x, hx, rfl⟩ := hx
    have hkin : Kin (d.revised t test now changes) d := kin_revised hspa d
    have hkin' : Kin (x.revised t test now changes) x := kin_revised hspa x
    rw [hkin'.table] at ht hkept
    rw [hkin.table] at hc
    rw [holds, hkin'.id] at hid
    rw [hκ hkin, hκ hkin']
    unfold revised at hid
    split at hid
    · next hcond =>
        obtain ⟨rfl, htest⟩ : d.table = t ∧ test d.row = true := by simpa using hcond
        rcases cell_revise_of_target hc (by simp [ht]) now changes d.row with hcell | ⟨v, hv, hcell⟩
        · rw [hcell] at hid
          exact h.linked hd hx c hc ht hkept hid
        · rw [hcell] at hid
          exact hnew d.row hd htest c hc v hv x hx ht hkept hid
    · exact h.linked hd hx c hc ht hkept hid

theorem Tenancy.update (h : Tenancy κ s) (hκ : ∀ {d e}, Kin d e → κ d = κ e) (hspa : Spares t changes)
    (hrow : ⟨t, row⟩ ∈ s) (hmine : mine κ user ⟨t, row⟩ = true) (hkey : ["id"] ∈ t.keys)
    (hnew : ∀ c ∈ t.columns, ∀ v, get? changes c.name = some v → ∀ x ∈ s, c.target = some x.table →
      x.table.isKept = true → holds "id" (CellKind.identifier.normal v) x.row = true → κ ⟨t, row⟩ = κ x)
    {s' : Store} (hupd : s.update t (cell row "id") now changes = .ok s') :
    Tenancy κ s' ∧
      update (s.filter (mine κ user)) t (cell row "id") now changes = .ok (s'.filter (mine κ user)) ∧
      s'.filter (fun e => !mine κ user e) = s.filter (fun e => !mine κ user e) ∧
      s' = s.reviseWhere t (holds "id" (cell row "id")) now changes := by
  obtain ⟨hsou, rfl⟩ := checked_eq_ok.mp hupd
  obtain ⟨a, ha⟩ := h.ids _ hrow hkey
  have huni : ∀ r, ⟨t, r⟩ ∈ s → holds "id" (cell row "id") r = true → r = row := by
    intro r hr hid
    rw [holds, ha, same_text_iff] at hid
    exact eq_of_same_id (hasKey_of_sound h.sound hkey) hr hrow hid ha
  have hten : Tenancy κ (s.reviseWhere t (holds "id" (cell row "id")) now changes) := by
    refine ⟨h.toLinked.reviseWhere hκ hspa fun r hr hid c hc v hv x hx ht hkept hxid => ?_, hsou⟩
    rw [huni r hr hid]
    exact hnew c hc v hv x hx ht hkept hxid
  refine ⟨hten, ?_, filter_not_reviseWhere hκ hspa fun r hr hid => ?_, rfl⟩
  · rw [Store.update, ← filter_reviseWhere hκ hspa]
    exact checked_eq_ok.mpr ⟨hten.sound_filter, rfl⟩
  · rw [huni r hr hid, hmine]

end Revise

end CloudSpend.Store
