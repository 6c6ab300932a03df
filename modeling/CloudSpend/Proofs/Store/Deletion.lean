import CloudSpend.Proofs.Store.Tenancy

/-! # Deleting rows of a user -/

namespace CloudSpend.Store

open List

section Delete

variable {κ : Entry → Value} {user : Value} {s s' : Store} {t : Table} {id : Value} {now : Timestamp}

def gone (s : Store) (t : Table) (id : Value) : List Entry := s.filter fun e => e.goesWith t id

def left (s : Store) (t : Table) (id : Value) (now : Timestamp) : Store :=
  (s.gone t id).foldl (fun s e => s.release now e) (s.filter fun e => !e.goesWith t id)

lemma delete_eq (s : Store) (t : Table) (id : Value) (now : Timestamp) :
    s.delete t id now = (do
      if let some fault := (s.gone t id).findSome? fun e => e.table.strangeWord? e.row then throw fault
      if !inTurn (s.gone t id).length (s.gone t id) then throw .circular
      checked (s.left t id now)) := rfl

lemma delete_eq_ok :
    s.delete t id now = .ok s' ↔
      (s.gone t id).findSome? (fun e => e.table.strangeWord? e.row) = none ∧
        inTurn (s.gone t id).length (s.gone t id) = true ∧ (s.left t id now).sound = true ∧
          s' = s.left t id now := by
  rw [delete_eq]
  cases (s.gone t id).findSome? fun e => e.table.strangeWord? e.row with
  | some fault => simp [bind, Except.bind, throw, throwThe, MonadExceptOf.throw]
  | none =>
    cases inTurn (s.gone t id).length (s.gone t id) with
    | false => simp [bind, Except.bind, throw, throwThe, MonadExceptOf.throw]
    | true => simpa [bind, Except.bind, pure, Except.pure] using checked_eq_ok

variable {row : Row} {status : Nat} {detail : String} {r : Reference}

lemma strangeWord?_ne_refused : t.strangeWord? row ≠ some (.http status detail) := by
  intro h
  obtain ⟨c, -, hc⟩ := exists_of_findSome?_eq_some h
  split at hc
  · split at hc
    · cases hc
    · simp [Words.fault] at hc
  · cases hc

lemma delete_ne_refused : s.delete t id now ≠ .error (.http status detail) := by
  rw [delete_eq]
  cases hwor : (s.gone t id).findSome? fun e => e.table.strangeWord? e.row with
  | some fault =>
    intro h
    obtain ⟨e, -, he⟩ := exists_of_findSome?_eq_some hwor
    have hfau : fault = .http status detail := by
      simpa [bind, Except.bind, throw, throwThe, MonadExceptOf.throw] using h
    exact strangeWord?_ne_refused (hfau ▸ he)
  | none =>
    cases inTurn (s.gone t id).length (s.gone t id) with
    | false => simp [bind, Except.bind, throw, throwThe, MonadExceptOf.throw]
    | true => simpa [bind, Except.bind, pure, Except.pure] using checked_ne_refused

lemma Linked.filter (h : Linked κ s) (p : Entry → Bool) : Linked κ (s.filter p) where
  ids e he := h.ids e (mem_filter.mp he).1
  linked hd hx := h.linked (mem_filter.mp hd).1 (mem_filter.mp hx).1

theorem mem_owned (hr : r ∈ t.owned) : ∃ c ∈ r.table.columns, c.name = r.column ∧ c.target = some t := by
  have hall : ∀ t ∈ Table.all, ∀ r ∈ t.owned,
      ∃ c ∈ r.table.columns, c.name = r.column ∧ c.target = some t := by decide
  exact hall t (mem_all t) r hr

lemma mem_released (hr : r ∈ t.released) :
    (∃ c ∈ r.table.columns, c.name = r.column ∧ c.target = some t) ∧ t.isKept = true ∧
      Spares r.table [(r.column, .null)] := by
  have hall : ∀ t ∈ Table.all, ∀ r ∈ t.released,
      (∃ c ∈ r.table.columns, c.name = r.column ∧ c.target = some t) ∧ t.isKept = true ∧
        Entries.get? [(r.column, Value.null)] "id" = none ∧
          ∀ q ∈ r.table.parent?, Entries.get? [(r.column, Value.null)] q.2 = none := by
    intro t ht r hr
    cases t <;> simp [Table.released] at hr
    subst hr
    refine ⟨by decide, rfl, rfl, ?_⟩
    rintro q ⟨⟩
    rfl
  exact hall t (mem_all t) r hr

lemma mine_of_goesWith (h : Tenancy κ s) (hrow : ⟨t, row⟩ ∈ s) (ht : t.isKept = true) (hkey : ["id"] ∈ t.keys)
    {a : String} (hid : cell row "id" = .text a) (hmine : mine κ user ⟨t, row⟩ = true) {e : Entry} (he : e ∈ s)
    (hgoes : e.goesWith t (.text a) = true) : mine κ user e = true := by
  rw [Entry.goesWith, Bool.or_eq_true, Bool.and_eq_true, beq_iff_eq] at hgoes
  rcases hgoes with ⟨rfl, hsame⟩ | href
  · obtain rfl := eq_of_same_id (hasKey_of_sound h.sound hkey) he hrow (same_text_iff.mp hsame) hid
    exact hmine
  · rw [Entry.refersBy, any_eq_true] at href
    obtain ⟨r, hr, href⟩ := href
    obtain ⟨c, hc, hname, htar⟩ := mem_owned hr
    rw [Bool.and_eq_true, beq_iff_eq] at href
    obtain ⟨htab, hcell⟩ := href
    rw [htab] at hc
    have href : holds "id" (cell e.row c.name) row = true := by
      rw [hname, same_text_iff.mp hcell, holds, hid]
      exact same_text_iff.mpr rfl
    rw [h.mine_eq he hrow hc htar ht href, hmine]

def releases (s : Store) (t : Table) (id : Value) : List (Reference × Value) :=
  (s.gone t id).flatMap fun e => e.table.released.map fun r => (r, cell e.row "id")

def unlink (now : Timestamp) (s : Store) (q : Reference × Value) : Store :=
  s.reviseWhere q.1.table (holds q.1.column q.2) now [(q.1.column, .null)]

lemma left_eq_foldl (s : Store) (t : Table) (id : Value) (now : Timestamp) :
    s.left t id now = (s.releases t id).foldl (unlink now) (s.filter fun e => !e.goesWith t id) := by
  rw [releases, foldl_flatMap, left]
  simp only [foldl_map]
  rfl

lemma Linked.unlink (h : Linked κ s) (hκ : ∀ {d e}, Kin d e → κ d = κ e) {q : Reference × Value}
    {u : Table} (hq : q.1 ∈ u.released) : Linked κ (s.unlink now q) := by
  refine h.reviseWhere hκ (mem_released hq).2.2 fun row hrow htest c hc v hv x hx ht hkept hid => ?_
  have hnull : v = .null := by
    have hmem := Entries.mem_of_get? hv
    simp only [mem_singleton, Prod.mk.injEq] at hmem
    exact hmem.2
  obtain ⟨a, ha⟩ := h.ids x hx (id_mem_keys_of_target _ c hc _ ht)
  rw [hnull, holds, ha] at hid
  cases text_same_iff.mp hid

section User

variable (hκ : ∀ {d e}, Kin d e → κ d = κ e) (h : Tenancy κ s)
  (hmine : ∀ e ∈ s, e.goesWith t id = true → mine κ user e = true)
include hκ h hmine

theorem foldl_unlink (now : Timestamp) {qs : List (Reference × Value)} (hqs : ∀ q ∈ qs, q ∈ s.releases t id) {b : Store}
    (hb : Linked κ b) (hoth : b.filter (fun e => !mine κ user e) = s.filter fun e => !mine κ user e) :
    Linked κ (qs.foldl (unlink now) b) ∧
      (qs.foldl (unlink now) b).filter (mine κ user) =
        qs.foldl (unlink now) (b.filter (mine κ user)) ∧
      (qs.foldl (unlink now) b).filter (fun e => !mine κ user e) =
        s.filter fun e => !mine κ user e := by
  induction qs generalizing b with
  | nil => exact ⟨hb, rfl, hoth⟩
  | cons q qs ih =>
    obtain ⟨g, hg, hq⟩ := mem_flatMap.mp (hqs q mem_cons_self)
    obtain ⟨r, hr, rfl⟩ := mem_map.mp hq
    obtain ⟨⟨c, hc, hname, htar⟩, hkept, hspa⟩ := mem_released hr
    obtain ⟨hgs, hgoes⟩ := mem_filter.mp hg
    have htest : ∀ row, ⟨r.table, row⟩ ∈ b → holds r.column (cell g.row "id") row = true →
        mine κ user ⟨r.table, row⟩ = true := by
      intro row hrow hhol
      by_contra hnot
      have hmem : (⟨r.table, row⟩ : Entry) ∈ s.filter fun e => !mine κ user e := by
        rw [← hoth]
        exact mem_filter.mpr ⟨hrow, by simpa using hnot⟩
      obtain ⟨a, ha⟩ := h.ids g hgs (id_mem_keys_of_target _ c hc _ htar)
      have hid : holds "id" (cell row c.name) g.row = true := by
        rw [holds, ha] at hhol
        rw [hname, same_text_iff.mp hhol, holds, ha]
        exact same_text_iff.mpr rfl
      exact hnot (by rw [h.mine_eq (mem_filter.mp hmem).1 hgs hc htar hkept hid, hmine g hgs hgoes])
    have hfil : (b.unlink now (r, cell g.row "id")).filter (mine κ user) =
        unlink now (b.filter (mine κ user)) (r, cell g.row "id") := filter_reviseWhere hκ hspa
    have hnot : (b.unlink now (r, cell g.row "id")).filter (fun e => !mine κ user e) =
        b.filter fun e => !mine κ user e := filter_not_reviseWhere hκ hspa htest
    obtain ⟨hlin, hpart, hrest⟩ := ih (fun q hq => hqs q (mem_cons_of_mem _ hq))
      (hb.unlink hκ hr) (hnot.trans hoth)
    rw [foldl_cons, foldl_cons, ← hfil]
    exact ⟨hlin, hpart, hrest⟩

theorem Tenancy.delete (hdel : s.delete t id now = .ok s') :
    Tenancy κ s' ∧ delete (s.filter (mine κ user)) t id now = .ok (s'.filter (mine κ user)) ∧
      s'.filter (fun e => !mine κ user e) = s.filter fun e => !mine κ user e := by
  obtain ⟨hwor, hturn, hsou, rfl⟩ := delete_eq_ok.mp hdel
  have hgone : Store.gone (s.filter (mine κ user)) t id = s.gone t id := by
    rw [gone, gone, filter_filter]
    refine filter_congr fun e he => ?_
    grind
  have hoth : (s.filter fun e => !e.goesWith t id).filter (fun e => !mine κ user e) =
      s.filter fun e => !mine κ user e := by
    rw [filter_filter]
    refine filter_congr fun e he => ?_
    grind
  obtain ⟨hlin, hpart, hrest⟩ := foldl_unlink hκ h hmine now (fun q hq => hq)
    (h.toLinked.filter fun e => !e.goesWith t id) hoth
  rw [← left_eq_foldl] at hlin hpart hrest
  have hleft : Store.left (s.filter (mine κ user)) t id now = (s.left t id now).filter (mine κ user) := by
    rw [hpart, left_eq_foldl, releases, hgone, filter_filter, filter_filter]
    simp only [Bool.and_comm]
    rfl
  have hten : Tenancy κ (s.left t id now) := ⟨hlin, hsou⟩
  refine ⟨hten, delete_eq_ok.mpr ?_, hrest⟩
  rw [hgone, hleft]
  exact ⟨hwor, hturn, hten.sound_filter, rfl⟩

end User

end Delete

def Descends (s' s : Store) : Prop := ∀ e' ∈ s', ∃ e ∈ s, Kin e' e

lemma Descends.trans {s1 s2 s3 : Store} (h1 : Descends s1 s2) (h2 : Descends s2 s3) : Descends s1 s3 := by
  intro e he
  obtain ⟨d, hd, hkin⟩ := h1 e he
  obtain ⟨c, hc, hkin'⟩ := h2 d hd
  refine ⟨c, hc, hkin.table.trans hkin'.table, hkin.id.trans hkin'.id, fun q hq => ?_⟩
  rw [hkin.parent q hq]
  exact hkin'.parent q (hkin.table ▸ hq)

variable {t : Table} {s' s : Store} {id : Value} {now : Timestamp} {row : Row} {e : Entry} {column : String}

lemma descends_reviseWhere (s : Store) {changes : Row} (h : Spares t changes) (test : Row → Bool)
    (now : Timestamp) : Descends (s.reviseWhere t test now changes) s := by
  intro e he
  obtain ⟨d, hd, rfl⟩ := mem_map.mp he
  exact ⟨d, hd, kin_revised h d⟩

lemma Descends.hasIds (h : Descends s' s) (hids : s.HasIds) : s'.HasIds := by
  intro e he hkey
  obtain ⟨d, hd, hkin⟩ := h e he
  rw [hkin.id]
  exact hids d hd (hkin.table ▸ hkey)

theorem left_induction {P : Store → Prop} (hfil : P (s.filter fun e => !e.goesWith t id))
    (hunl : ∀ (b : Store) (q : Reference × Value) (u : Table), q.1 ∈ u.released → P b → P (b.unlink now q)) :
    P (s.left t id now) := by
  rw [left_eq_foldl]
  refine foldlRecOn (motive := P) _ _ hfil fun b hb q hq => ?_
  obtain ⟨e, -, hq⟩ := mem_flatMap.mp hq
  obtain ⟨r, hr, rfl⟩ := mem_map.mp hq
  exact hunl b _ e.table hr hb

lemma descends_left_filter (s : Store) (t : Table) (id : Value) (now : Timestamp) :
    Descends (s.left t id now) (s.filter fun e => !e.goesWith t id) := by
  refine left_induction (P := fun b => Descends b (s.filter fun e => !e.goesWith t id)) ?_ ?_
  · exact fun e he => ⟨e, he, Kin.refl e⟩
  · intro b q u hq hb
    exact (descends_reviseWhere b (mem_released hq).2.2 _ now).trans hb

lemma descends_left (s : Store) (t : Table) (id : Value) (now : Timestamp) : Descends (s.left t id now) s :=
  (descends_left_filter s t id now).trans fun e he => ⟨e, (mem_filter.mp he).1, Kin.refl e⟩

lemma not_holds_id_of_mem_left (hrow : ⟨t, row⟩ ∈ s.left t id now) : holds "id" id row = false := by
  obtain ⟨⟨u, d⟩, hd, hkin⟩ := descends_left_filter s t id now _ hrow
  obtain rfl : t = u := hkin.table
  have hsta := (mem_filter.mp hd).2
  simp only [Entry.goesWith, beq_self_eq_true, Bool.true_and, Bool.not_eq_true', Bool.or_eq_false_iff] at hsta
  rw [holds, hkin.id]
  exact hsta.1

lemma mem_of_one? (h : s.one? t id = some row) : ⟨t, row⟩ ∈ s ∧ holds "id" id row = true :=
  ⟨mem_rows.mp (mem_of_find?_eq_some h), find?_some h⟩

lemma exists_one? (hs : s.sound = true) (he : e ∈ s) (hpar : e.table.parent? = some (t, column)) :
    ∃ row, s.one? t (cell e.row column) = some row := by
  obtain ⟨c, hc, rfl, hreq, htar⟩ := exists_parentColumn hpar
  have hnull : (cell e.row c.name).isNull = false := by
    have hadm := admits_of_sound hs he hc
    cases hnull : (cell e.row c.name).isNull with
    | false => rfl
    | true => simp [Column.admits, hnull, hreq] at hadm
  obtain ⟨row, hrow, hid⟩ := exists_of_sound hs he hc htar hnull
  rw [← Option.isSome_iff_exists, one?, find?_isSome]
  exact ⟨row, mem_rows.mpr hrow, hid⟩

theorem creatorAt_eq
    (h : ∀ {e : Entry}, e ∈ s' → ∀ {t : Table} {column : String}, e.table.parent? = some (t, column) → t.isKept = true → ∃ row' row, ⟨t, row'⟩ ∈ s' ∧ s'.one? t (cell e.row column) = some row' ∧ s.one? t (cell e.row column) = some row ∧ Kin ⟨t, row'⟩ ⟨t, row⟩)
    (n : Nat) (he : e ∈ s') : s'.creatorAt n e = s.creatorAt n e := by
  induction n generalizing e with
  | zero => rfl
  | succ n ih =>
    cases hpar : e.table.parent? with
    | none => simp only [creatorAt, hpar]
    | some q =>
      obtain ⟨t, column⟩ := q
      rw [creatorAt_succ s' n hpar, creatorAt_succ s n hpar]
      split
      · next ht =>
          obtain ⟨row', row, hmem, hone', hone, hkin⟩ := h he hpar ht
          rw [hone', hone, Option.map_some, Option.map_some, ih hmem, creatorAt_congr s n hkin]
      · rfl

lemma creator_of_descends (h : Descends s' s) (hs' : s'.sound = true) (hs : s.sound = true) (hids : s.HasIds)
    (he : e ∈ s') : s'.creator e = s.creator e := by
  refine creatorAt_eq (fun {e} he {t column} hpar _ => ?_) _ he
  obtain ⟨c, hc, -, -, htar⟩ := exists_parentColumn hpar
  have hkey := id_mem_keys_of_target _ c hc _ htar
  obtain ⟨row', hone'⟩ := exists_one? hs' he hpar
  obtain ⟨hrow', hid'⟩ := mem_of_one? hone'
  obtain ⟨⟨u, d⟩, hd, hkin⟩ := h _ hrow'
  obtain rfl : t = u := hkin.table
  obtain ⟨a, ha⟩ := hids _ hd hkey
  have hcell : cell e.row column = .text a := by
    rw [holds, hkin.id, ha] at hid'
    exact text_same_iff.mp hid'
  have hsome : (s.one? t (cell e.row column)).isSome = true := by
    rw [one?, find?_isSome]
    exact ⟨d, mem_rows.mpr hd, by rw [hcell, holds, ha]; exact same_text_iff.mpr rfl⟩
  obtain ⟨row, hone⟩ := Option.isSome_iff_exists.mp hsome
  obtain ⟨hrow, hid⟩ := mem_of_one? hone
  rw [hcell, holds, same_text_iff] at hid
  obtain rfl := eq_of_same_id (hasKey_of_sound hs hkey) hrow hd hid ha
  exact ⟨row', row, hrow', hone', hone, hkin⟩

lemma one?_append (h : s.one? t id = some row) (x : Entry) : one? (s ++ [x]) t id = some row := by
  rw [one?] at h ⊢
  rw [rows, filter_append, map_append, find?_append, ← rows, h]
  rfl

lemma creator_append (hs : s.sound = true) (x : Entry) (he : e ∈ s) : creator (s ++ [x]) e = s.creator e := by
  refine (creatorAt_eq (fun {e} he {t column} hpar _ => ?_) _ he).symm
  obtain ⟨row, hone⟩ := exists_one? hs he hpar
  exact ⟨row, row, (mem_of_one? hone).1, hone, one?_append hone x, Kin.refl _⟩

lemma creator_append_self (hs : s.sound = true) {x : Entry} (hpar : x.table.parent? = some (t, column))
    (ht : t.isKept = true) (hone : s.one? t (cell x.row column) = some row) :
    creator (s ++ [x]) x = s.creator ⟨t, row⟩ := by
  rw [creator_eq_of_one? hpar ht (one?_append hone x), creator_append hs x (mem_of_one? hone).1]

end CloudSpend.Store
