import CloudSpend.Proofs.Store.Deletion

/-! # Cells of new and revised rows -/

namespace CloudSpend.Store

open List Entries

def leavesEmpty (c : Column) : Bool :=
  match c.filler with
  | .nothing => true
  | _ => false

def takesNext (c : Column) : Bool :=
  match c.filler with
  | .nextId => true
  | _ => false

def filled (now : Timestamp) (id : String) (given : Row) (c : Column) : Value :=
  match get? given c.name with
  | some v => c.kind.normal v
  | none => match c.filler with
    | .nothing => .null
    | .value v => v
    | .now => .timestamp now
    | .nextId => .text id

lemma cell_fill {t : Table} {c : Column} (hc : c ∈ t.columns) (now : Timestamp) (id : String) (given : Row) :
    ∃ d ∈ t.columns, d.name = c.name ∧ cell (t.fill now id given) c.name = filled now id given d := by
  have hget : ∀ cs : List Column, get? (cs.map fun d => (d.name, filled now id given d)) c.name =
      (cs.find? fun d => d.name == c.name).map (filled now id given) := by
    intro cs
    unfold get?
    induction cs with
    | nil => rfl
    | cons d cs ih =>
      grind
  have hsome : (t.columns.find? fun d => d.name == c.name).isSome = true := by
    rw [find?_isSome]
    exact ⟨c, hc, beq_self_eq_true _⟩
  obtain ⟨d, hd⟩ := Option.isSome_iff_exists.mp hsome
  refine ⟨d, mem_of_find?_eq_some hd, by simpa using find?_some hd, ?_⟩
  have hfill : t.fill now id given = t.columns.map fun d => (d.name, filled now id given d) := rfl
  rw [cell, hfill, hget, hd]
  rfl

variable {d : Column} {given : Row} {v : Value} {s : Store}

lemma filler_of_name {t : Table} {c : Column} (hc : c ∈ t.columns) (hd : d ∈ t.columns)
    (hname : d.name = c.name) :
    (c.target.isSome = true → leavesEmpty d = true) ∧ (c.name = "id" → takesNext d = true) := by
  have hall : ∀ t ∈ Table.all, ∀ c ∈ t.columns, ∀ d ∈ t.columns, d.name = c.name →
      (c.target.isSome = true → leavesEmpty d = true) ∧ (c.name = "id" → takesNext d = true) := by decide
  exact hall t (mem_all t) c hc d hd hname

lemma cell_fill_of_target {t : Table} {c : Column} (hc : c ∈ t.columns) (ht : c.target.isSome = true)
    (now : Timestamp) (id : String) (given : Row) :
    cell (t.fill now id given) c.name = match get? given c.name with
      | some v => CellKind.identifier.normal v
      | none => .null := by
  obtain ⟨d, hd, hname, hcell⟩ := cell_fill hc now id given
  have hemp := (filler_of_name hc hd hname).1 ht
  rw [hcell, filled, hname, kind_of_target hd hc ht hname]
  cases get? given c.name with
  | some v => rfl
  | none =>
    unfold leavesEmpty at hemp
    split at hemp
    · next h => simp only [h]
    · cases hemp

lemma cell_fill_id {t : Table} {c : Column} (hc : c ∈ t.columns) (hname : c.name = "id") (now : Timestamp)
    (id : String) (hgiv : get? given "id" = none) : cell (t.fill now id given) "id" = .text id := by
  obtain ⟨d, hd, hdna, hcell⟩ := cell_fill hc now id given
  have hnext := (filler_of_name hc hd hdna).2 hname
  rw [hname] at hcell hdna
  rw [hcell, filled, hdna, hgiv]
  unfold takesNext at hnext
  split at hnext
  · next h => simp only [h]
  · cases hnext

variable {t : Table} {c : Column} {row changes : Row}

def Table.IsRow (t : Table) (row : Row) : Prop := row.map Prod.fst = t.columns.map Column.name

lemma nodup_names (t : Table) : (t.columns.map Column.name).Nodup := by
  have hall : ∀ t ∈ Table.all, (t.columns.map Column.name).Nodup := by decide
  exact hall t (mem_all t)

lemma eq_of_name (hc : c ∈ t.columns) (hd : d ∈ t.columns) (h : d.name = c.name) : d = c :=
  inj_on_of_nodup_map (nodup_names t) hd hc h

lemma isRow_fill (t : Table) (now : Timestamp) (id : String) (given : Row) :
    t.IsRow (t.fill now id given) := by
  simp [Table.IsRow, Table.fill]

lemma isRow_revise (h : t.IsRow row) (now : Timestamp) (changes : Row) :
    t.IsRow (t.revise now changes row) := by
  unfold Table.revise
  split
  · exact h
  · rw [Table.IsRow, map_map, ← h]
    refine map_congr_left fun e _ => ?_
    grind

lemma cell_fill_eq (hc : c ∈ t.columns) (now : Timestamp) (id : String) (given : Row) :
    cell (t.fill now id given) c.name = filled now id given c := by
  obtain ⟨d, hd, hname, hcell⟩ := cell_fill hc now id given
  rwa [eq_of_name hc hd hname] at hcell

lemma cell_fill_stated (hc : c ∈ t.columns) (htar : c.target.isSome = true) (hmem : (c.name, v) ∈ given)
    (honly : ∀ p ∈ given, p.1 = c.name → p.2 = v) (hv : v = .null ∨ ∃ a, v = .text a) (now : Timestamp)
    (id : String) : cell (t.fill now id (t.stated given)) c.name = v := by
  rw [cell_fill_of_target hc htar]
  cases hget : get? (t.stated given) c.name with
  | some w =>
    have hw : w = v := honly _ (mem_filter.mp (mem_of_get? hget)).1 rfl
    rw [hw]
    rcases hv with rfl | ⟨a, rfl⟩ <;> rfl
  | none =>
    rcases hv with rfl | ⟨a, rfl⟩
    · rfl
    · have hsta : (c.name, Value.text a) ∈ t.stated given := mem_filter.mpr ⟨hmem, rfl⟩
      exact absurd rfl (bne_iff_ne.mp (lookup_eq_none_iff.mp hget _ hsta))

lemma cell_revise_of_none {key : String} (hkey : key ≠ "updated_at") (h : get? changes key = none)
    (now : Timestamp) : cell (t.revise now changes row) key = cell row key := by
  have hsta : ∀ t ∈ Table.all, ∀ c ∈ t.columns, c.stamped = true → c.name = "updated_at" := by decide
  rcases cell_revise t now changes row key with hcell | ⟨c, hc, rfl, hc' | ⟨v, hv, -⟩⟩
  · exact hcell
  · exact absurd (hsta t (mem_all t) c hc hc') hkey
  · rw [h] at hv
    cases hv

lemma cell_revise_of_changed (hrow : t.IsRow row) (hc : c ∈ t.columns)
    (h : get? changes c.name = some v)
    (hcha : (changes.all fun e => (cell row e.1).same e.2) = false) (now : Timestamp) :
    cell (t.revise now changes row) c.name = c.kind.normal v := by
  have hfind : t.columns.find? (fun d => d.name == c.name) = some c := by
    cases hd : t.columns.find? fun d => d.name == c.name with
    | none => exact absurd (beq_self_eq_true c.name) (find?_eq_none.mp hd c hc)
    | some d =>
      have hname : d.name = c.name := by simpa using find?_some hd
      rw [eq_of_name hc (mem_of_find?_eq_some hd) hname]
  have hmem : c.name ∈ row.map Prod.fst := by
    rw [hrow]
    exact mem_map_of_mem hc
  rw [Table.revise, if_neg (by simp [hcha]), cell, get?_map]
  · cases hget : get? row c.name with
    | none =>
      obtain ⟨e, he, hname⟩ := mem_map.mp hmem
      have hne := lookup_eq_none_iff.mp hget e he
      exact absurd hname.symm (bne_iff_ne.mp hne)
    | some w => simp [hfind, h]
  · intro e
    split
    · split
      · rfl
      · split <;> rfl
    · rfl

lemma cell_revise_of_some (hrow : t.IsRow row) (hc : c ∈ t.columns) (h : get? changes c.name = some v)
    (now : Timestamp) : cell (t.revise now changes row) c.name = c.kind.normal v ∨
      (cell row c.name).same v = true ∧ cell (t.revise now changes row) c.name = cell row c.name := by
  cases hcha : changes.all fun e => (cell row e.1).same e.2 with
  | false => exact .inl (cell_revise_of_changed hrow hc h hcha now)
  | true =>
    refine .inr ⟨all_eq_true.mp hcha _ (mem_of_get? h), ?_⟩
    rw [Table.revise, if_pos hcha]

lemma isNull_iff : v.isNull = true ↔ v = .null := by
  cases v <;> simp [Value.isNull]

lemma same_null_iff : v.same .null = true ↔ v = .null := by
  cases v <;> simp [Value.same, Value.sameNumber, Value.int?]

lemma cell_revise_of_text (hrow : t.IsRow row) (hc : c ∈ t.columns) {a : String}
    (h : get? changes c.name = some (.text a)) (hnor : c.kind.normal (.text a) = .text a)
    (now : Timestamp) : cell (t.revise now changes row) c.name = .text a := by
  rcases cell_revise_of_some hrow hc h now with hcell | ⟨hsame, hcell⟩
  · rw [hcell, hnor]
  · rw [hcell, same_text_iff.mp hsame]

lemma of_select_eq {test : Row → Bool} (h : s.select t test = [row]) : row ∈ s.rows t ∧ test row = true :=
  mem_filter.mp (h ▸ mem_singleton_self row : row ∈ s.select t test)

def Names (s : Store) (t : Table) (token : Value) (row : Row) : Prop :=
  s.select t (holds "token" (CellKind.text.normal token)) = [row]

lemma Names.eq {token : Value} {row' : Row} (h : s.Names t token row) (h' : s.Names t token row') :
    row = row' :=
  head_eq_of_cons_eq (h.symm.trans h')

lemma rows_append (s : Store) (t u : Table) (row : Row) :
    rows (s ++ [⟨u, row⟩]) t = if u = t then s.rows t ++ [row] else s.rows t := by
  unfold rows
  grind

lemma rows_reviseWhere_eq_map (s : Store) (t u : Table) (test : Row → Bool) (now : Timestamp) (changes : Row) :
    (s.reviseWhere t test now changes).rows u =
      (s.filter fun e => e.table == u).map fun e => (e.revised t test now changes).row := by
  have htab : (fun e : Entry => e.table == u) ∘ Entry.revised t test now changes = fun e => e.table == u := by
    funext e
    simp only [Function.comp_apply, Entry.revised]
    split <;> rfl
  rw [reviseWhere_eq_map, rows, filter_map, htab, map_map]
  rfl

lemma rows_reviseWhere (s : Store) (t : Table) (test : Row → Bool) (now : Timestamp) (changes : Row) :
    (s.reviseWhere t test now changes).rows t =
      (s.rows t).map fun row => if test row then t.revise now changes row else row := by
  rw [rows_reviseWhere_eq_map, rows, map_map]
  refine map_congr_left fun e he => ?_
  have hin : (e.table == t) = true := (mem_filter.mp he).2
  simp only [Function.comp_apply, Entry.revised, hin, Bool.true_and]
  split <;> rfl

lemma rows_reviseWhere_of_ne (s : Store) {u : Table} (h : u ≠ t) (test : Row → Bool) (now : Timestamp)
    (changes : Row) : (s.reviseWhere t test now changes).rows u = s.rows u := by
  rw [rows_reviseWhere_eq_map, rows]
  refine map_congr_left fun e he => ?_
  have hout : (e.table == t) = false := by
    rw [beq_iff_eq.mp (mem_filter.mp he).2]
    exact beq_false_of_ne h
  simp [Entry.revised, hout]

section Plain

variable {s : Store} {test : Row → Bool} {now : Timestamp}

def Table.isPlain (t : Table) (name : String) : Bool :=
  !t.keys.any (·.contains name) && t.columns.all fun c => c.name != name || c.target.isNone

structure Plain (t : Table) (changes : Row) : Prop where
  plain : ∀ p ∈ changes, t.isPlain p.1 = true
  filled : ∀ c ∈ t.columns, c.required = true → ∀ v, get? changes c.name = some v →
    (c.kind.normal v).isNull = false

variable {key : List String} {name : String} {u : Table}

lemma Plain.get?_of_key (h : Plain t changes) (hkey : key ∈ t.keys) (hname : name ∈ key) :
    get? changes name = none := by
  cases hget : get? changes name with
  | none => rfl
  | some v =>
    have hpla := h.plain _ (mem_of_get? hget)
    simp only [Table.isPlain, Bool.and_eq_true, Bool.not_eq_true', any_eq_false] at hpla
    exact absurd (contains_iff_mem.mpr hname) (hpla.1 key hkey)

lemma Plain.target_eq_none (h : Plain t changes) (hc : c ∈ t.columns)
    (hget : get? changes c.name = some v) : c.target = none := by
  have hpla := h.plain _ (mem_of_get? hget)
  simp only [Table.isPlain, Bool.and_eq_true, all_eq_true] at hpla
  simpa using hpla.2 c hc

lemma ne_updated_of_key (hkey : key ∈ t.keys) (hname : name ∈ key) : name ≠ "updated_at" := by
  have hall : ∀ t ∈ Table.all, ∀ key ∈ t.keys, ∀ name ∈ key, name ≠ "updated_at" := by decide
  exact hall t (mem_all t) key hkey name hname

lemma Plain.cell_of_key (h : Plain t changes) (hkey : key ∈ t.keys) (hname : name ∈ key) (now : Timestamp)
    (row : Row) : cell (t.revise now changes row) name = cell row name :=
  cell_revise_of_none (ne_updated_of_key hkey hname) (h.get?_of_key hkey hname) now

lemma Plain.map_key_rows (h : Plain t changes) (hkey : key ∈ u.keys) :
    ((s.reviseWhere t test now changes).rows u).map (fun row => key.map (cell row)) =
      (s.rows u).map fun row => key.map (cell row) := by
  by_cases hu : u = t
  · subst hu
    rw [rows_reviseWhere, map_map]
    refine map_congr_left fun row _ => map_congr_left fun name hname => ?_
    dsimp only [Function.comp_apply]
    split
    · exact h.cell_of_key hkey hname now row
    · rfl
  · rw [rows_reviseWhere_of_ne s hu]

lemma Plain.has_eq (h : Plain t changes) (hkey : ["id"] ∈ u.keys) (id : Value) :
    (s.reviseWhere t test now changes).has u id = s.has u id := by
  have hids : ((s.reviseWhere t test now changes).rows u).map (fun row => [cell row "id"]) =
      (s.rows u).map fun row => [cell row "id"] := h.map_key_rows hkey
  have hcel := congrArg (fun ks => ks.any fun k => k.any (·.same id)) hids
  simp only [any_map, Function.comp_def, any_cons, any_nil, Bool.or_false] at hcel
  exact hcel

lemma Column.admits_of_free (hreq : c.required = false) (htar : c.target = none) (s : Store)
    (v : Value) : c.admits s v = true := by
  simp [admits, hreq, htar]

lemma free_of_stamped (hc : c ∈ t.columns) (h : c.stamped = true) : c.required = false ∧ c.target = none := by
  have hall : ∀ t ∈ Table.all, ∀ c ∈ t.columns, c.stamped = true → c.required = false ∧ c.target = none := by
    decide
  exact hall t (mem_all t) c hc h

lemma Plain.admits_revise (h : Plain t changes) (hc : c ∈ t.columns)
    (hadm : c.admits s (cell row c.name) = true) :
    c.admits s (cell (t.revise now changes row) c.name) = true := by
  rcases cell_revise t now changes row c.name with hcell | ⟨d, hd, hname, hsta | ⟨v, hv, hcell⟩⟩
  · rwa [hcell]
  · obtain rfl := eq_of_name hc hd hname
    obtain ⟨hreq, htar⟩ := free_of_stamped hd hsta
    exact Column.admits_of_free hreq htar s _
  · obtain rfl := eq_of_name hc hd hname
    rw [hcell]
    cases hreq : d.required with
    | false => exact Column.admits_of_free hreq (h.target_eq_none hd hv) s _
    | true => simp [Column.admits, h.filled d hd hreq v hv, h.target_eq_none hd hv]

lemma Plain.admitted (h : Plain t changes) {e : Entry} (he : e.admitted s = true) :
    (e.revised t test now changes).admitted (s.reviseWhere t test now changes) = true := by
  have hadm : ∀ c ∈ e.table.columns, ∀ v,
      c.admits (s.reviseWhere t test now changes) v = c.admits s v := by
    intro c hc v
    unfold Column.admits
    cases htar : c.target with
    | none => rfl
    | some u =>
      have hkey : ["id"] ∈ u.keys := id_mem_keys_of_target e.table c hc u htar
      simp only [Option.all_some, h.has_eq hkey]
  simp only [Entry.admitted, all_eq_true] at he ⊢
  unfold Entry.revised
  split
  · next hcond =>
      obtain ⟨rfl, -⟩ : e.table = t ∧ test e.row = true := by simpa using hcond
      intro c hc
      rw [hadm c hc]
      exact h.admits_revise hc (he c hc)
  · intro c hc
    rw [hadm c hc]
    exact he c hc

lemma sound_reviseWhere (hs : s.sound = true) (h : Plain t changes) (test : Row → Bool) (now : Timestamp) :
    (s.reviseWhere t test now changes).sound = true := by
  simp only [sound, Bool.and_eq_true, all_eq_true] at hs ⊢
  refine ⟨fun e he => ?_, fun u hu key hkey => ?_⟩
  · rw [reviseWhere_eq_map] at he
    obtain ⟨d, hd, rfl⟩ := mem_map.mp he
    exact h.admitted (hs.1 d hd)
  · rw [hasKey, h.map_key_rows hkey]
    exact hs.2 u hu key hkey

lemma update_of_plain (hs : s.sound = true) (h : Plain t changes) (id : Value) (now : Timestamp) :
    s.update t id now changes = .ok (s.reviseWhere t (holds "id" id) now changes) :=
  checked_eq_ok.mpr ⟨sound_reviseWhere hs h _ now, rfl⟩

end Plain

section Identifier

variable {s : Store}

variable {a : String} {front back : List Row}

lemma holds_id_iff (hs : s.sound = true) (hkey : ["id"] ∈ t.keys) (hrow : row ∈ s.rows t)
    (hid : cell row "id" = .text a) {row' : Row} (hrow' : row' ∈ s.rows t) :
    holds "id" (cell row "id") row' = true ↔ row' = row := by
  rw [holds, hid, same_text_iff]
  constructor
  · intro hid'
    exact eq_of_same_id (hasKey_of_sound hs hkey) (mem_rows.mp hrow') (mem_rows.mp hrow) hid' hid
  · rintro rfl
    exact hid

lemma holds_key_of_split (hs : s.sound = true) (hkey : [name] ∈ t.keys)
    (hrows : s.rows t = front ++ row :: back) (hid : cell row name = .text a) :
    holds name (cell row name) row = true ∧ (∀ other ∈ front, holds name (cell row name) other = false) ∧
      ∀ other ∈ back, holds name (cell row name) other = false := by
  have hpai := hasKey_iff_pairwise.mp (hasKey_of_sound hs hkey)
  rw [hrows, pairwise_append, pairwise_cons] at hpai
  obtain ⟨-, ⟨hback, -⟩, hfro⟩ := hpai
  refine ⟨by rw [holds, hid, same_text_iff], fun other hoth => ?_, fun other hoth => ?_⟩
  · exact hfro other hoth row mem_cons_self
  · rw [holds, hid, Bool.eq_false_iff, ne_eq, same_text_iff]
    intro hid'
    have hne := hback other hoth
    rw [hid, text_same_iff.mpr hid'] at hne
    cases hne

lemma rows_revise_id (hs : s.sound = true) (hkey : ["id"] ∈ t.keys) (hrows : s.rows t = front ++ row :: back)
    (hid : cell row "id" = .text a) (now : Timestamp) (changes : Row) :
    (s.reviseWhere t (holds "id" (cell row "id")) now changes).rows t =
      front ++ t.revise now changes row :: back := by
  obtain ⟨hself, hfro, hback⟩ := holds_key_of_split hs hkey hrows hid
  have hoth : ∀ others : List Row, (∀ other ∈ others, holds "id" (cell row "id") other = false) →
      others.map (fun other => if holds "id" (cell row "id") other then t.revise now changes other else other) =
        others := by
    intro others hnone
    refine (map_congr_left fun other hohe => ?_).trans (map_id others)
    rw [hnone other hohe]
    rfl
  rw [rows_reviseWhere, hrows, map_append, map_cons, if_pos hself, hoth front hfro,
    hoth back hback]

lemma select_key (hs : s.sound = true) (hkey : [name] ∈ t.keys) (hrows : s.rows t = front ++ row :: back)
    (hid : cell row name = .text a) : s.select t (holds name (cell row name)) = [row] := by
  obtain ⟨hself, hfro, hback⟩ := holds_key_of_split hs hkey hrows hid
  rw [select, hrows, filter_append, filter_cons_of_pos hself,
    filter_eq_nil_iff.mpr fun other hoth => by simp [hfro other hoth],
    filter_eq_nil_iff.mpr fun other hoth => by simp [hback other hoth]]
  rfl

end Identifier

end CloudSpend.Store
