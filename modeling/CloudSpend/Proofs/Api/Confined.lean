import CloudSpend.Proofs.Api.Handler
import CloudSpend.Proofs.Store.Deletion

/-! # Handlers that keep to the rows of a user -/

namespace CloudSpend.Handler

open List Store
open Store (Table Entry Tenancy Kin mine cell holds)

variable {α β : Type} {κ : Entry → Value} {user : Value}

def part (κ : Entry → Value) (user : Value) (s : Service) : Service :=
  { s with store := s.store.filter (mine κ user) }

def others (κ : Entry → Value) (user : Value) (s : Service) : Store :=
  s.store.filter fun e => !mine κ user e

structure Confined (κ : Entry → Value) (user : Value) (h : Handler α) (s : Service)
    (post : α → Service → Prop) : Prop where
  ok : ∀ {a s'}, exec h s = (.ok a, s') →
    Tenancy κ s'.store ∧ exec h (part κ user s) = (.ok a, part κ user s') ∧
      others κ user s' = others κ user s ∧ post a s'
  refused : ∀ {status detail}, (exec h s).1 = .error (.http status detail) →
    (exec h (part κ user s)).1 = .error (.http status detail)

variable {x h : Handler α} {f : α → Handler β} {s : Service} {mid : α → Service → Prop}
  {post : β → Service → Prop}

lemma Confined.bind (hx : Confined κ user x s mid)
    (hf : ∀ a s', Tenancy κ s'.store → mid a s' → Confined κ user (f a) s' post) :
    Confined κ user (x >>= f) s post where
  ok {b s'} h := by
    obtain ⟨a, s1, hrun, hrest⟩ := exec_bind_eq_ok.mp h
    obtain ⟨hten, hpart, hoth, hmid⟩ := hx.ok hrun
    obtain ⟨hten', hpart', hoth', hpost⟩ := (hf a s1 hten hmid).ok hrest
    refine ⟨hten', ?_, hoth'.trans hoth, hpost⟩
    rw [exec_bind_ok hpart]
    exact hpart'
  refused {status detail} h := by
    rcases hrun : exec x s with ⟨e | a, s1⟩
    · have he : e = .http status detail := by simpa [exec_bind, hrun] using h
      have hpart := hx.refused (by rw [hrun, he])
      rcases hrun' : exec x (part κ user s) with ⟨r, s2⟩
      obtain rfl : r = .error (.http status detail) := by simpa [hrun'] using hpart
      rw [exec_bind, hrun']
    · obtain ⟨hten, hpart, -, hmid⟩ := hx.ok hrun
      rw [exec_bind_ok hrun] at h
      rw [exec_bind_ok hpart]
      exact (hf a s1 hten hmid).refused h

lemma Confined.ite_bind {c : Prop} [Decidable c] {y : Handler α} (hx : Confined κ user x s mid)
    (hy : Confined κ user y s mid)
    (hf : ∀ a s', Tenancy κ s'.store → mid a s' → Confined κ user (f a) s' post) :
    Confined κ user (if c then x >>= f else y >>= f) s post := by
  split
  · exact hx.bind hf
  · exact hy.bind hf

lemma Confined.mono {post post' : α → Service → Prop} (hh : Confined κ user h s post)
    (hpost : ∀ a s', post a s' → post' a s') : Confined κ user h s post' where
  ok hrun := by
    obtain ⟨hten, hpart, hoth, hp⟩ := hh.ok hrun
    exact ⟨hten, hpart, hoth, hpost _ _ hp⟩
  refused := hh.refused

lemma Confined.exec {post : α → Service → Prop} (hh : Confined κ user h s post) :
    Confined κ user h s fun a s' => exec h s = (.ok a, s') ∧ post a s' where
  ok hrun := by
    obtain ⟨hten, hpart, hoth, hp⟩ := hh.ok hrun
    exact ⟨hten, hpart, hoth, hrun, hp⟩
  refused := hh.refused

lemma confined_throw (e : Fault) (s : Service) (post : α → Service → Prop) :
    Confined κ user (throw e) s post where
  ok h := by cases h
  refused h := h

lemma confined_throw_bind (e : Fault) (s : Service) (post : β → Service → Prop) :
    Confined κ user ((throw e : Handler α) >>= f) s post :=
  (confined_throw e s fun _ _ => False).bind fun _ _ _ hfal => hfal.elim

def Reads (κ : Entry → Value) (user : Value) (h : Handler α) (s : Service) (post : α → Prop) : Prop :=
  Confined κ user h s fun a s' => s' = s ∧ post a

namespace Reads

variable {given post' : α → Prop}

lemma bind (hx : Reads κ user x s given) (hf : ∀ a, given a → Confined κ user (f a) s post) :
    Confined κ user (x >>= f) s post := by
  refine Confined.bind hx ?_
  rintro a _ - ⟨rfl, ha⟩
  exact hf a ha

lemma confined {post : α → Service → Prop} (hx : Reads κ user x s given) (h : ∀ a, given a → post a s) :
    Confined κ user x s post := by
  refine Confined.mono hx ?_
  rintro a _ ⟨rfl, ha⟩
  exact h a ha

lemma mono (hx : Reads κ user x s given) (h : ∀ a, given a → post' a) : Reads κ user x s post' :=
  hx.confined fun a ha => ⟨rfl, h a ha⟩

end Reads

lemma eq_of_readable {t : Table} {rows found : List Row} (h : t.readable rows = .ok found) : found = rows := by
  unfold Store.Table.readable at h
  split at h
  · cases h
  · exact (Except.ok.inj h).symm

section Read

variable {s : Service} (hs : Tenancy κ s.store)
include hs

lemma reads_liftM (r : Result α) : Reads κ user (liftM r) s (r = .ok ·) where
  ok h := by
    obtain ⟨rfl, rfl⟩ := Prod.mk.inj h
    exact ⟨hs, rfl, rfl, rfl, rfl⟩
  refused h := h

lemma confined_pure {post : α → Service → Prop} {a : α} (h : post a s) : Confined κ user (pure a) s post := by
  refine (reads_liftM hs (.ok a)).confined ?_
  rintro _ ⟨⟩
  exact h

lemma reads_pure {post : α → Prop} {a : α} (h : post a) : Reads κ user (pure a) s post := confined_pure hs ⟨rfl, h⟩

lemma confined_run (x : Run α) : Confined κ user (liftM x) s fun _ s' => s'.store = s.store where
  ok h := by
    rw [exec_liftM_run] at h
    obtain ⟨hrun, rfl⟩ := Prod.mk.inj h
    refine ⟨hs, ?_, rfl, rfl⟩
    rw [exec_liftM_run]
    exact congrArg (·, _) hrun
  refused h := h

lemma reads_now : Reads κ user now s fun _ => True where
  ok h := by
    cases h
    exact ⟨hs, rfl, rfl, rfl, trivial⟩
  refused h := by cases h

variable {t : Table} {test : Row → Bool} {row given : Row}

lemma reads_rows (h : ∀ row, ⟨t, row⟩ ∈ s.store → test row = true → mine κ user ⟨t, row⟩ = true) :
    Reads κ user (rows t test) s fun found => ∀ row ∈ found, ⟨t, row⟩ ∈ s.store ∧ test row = true where
  ok hrun := by
    rw [exec_rows] at hrun
    obtain ⟨hfou, rfl⟩ := Prod.mk.inj hrun
    obtain rfl := Except.ok.inj hfou
    refine ⟨hs, ?_, rfl, rfl, fun row hrow => ?_⟩
    · rw [exec_rows, part, select_filter h]
    · obtain ⟨hmem, htest⟩ := mem_filter.mp hrow
      exact ⟨mem_rows.mp hmem, htest⟩
  refused hrun := by cases hrun

lemma reads_select (h : ∀ row, ⟨t, row⟩ ∈ s.store → test row = true → mine κ user ⟨t, row⟩ = true) :
    Reads κ user (select t test) s fun found => ∀ row ∈ found, ⟨t, row⟩ ∈ s.store ∧ test row = true := by
  refine (reads_rows hs h).bind fun found hfou => (reads_liftM hs _).mono fun read hread => ?_
  rw [eq_of_readable hread]
  exact hfou

lemma reads_only? {found : List Row} : Reads κ user (only? found) s fun row? => ∀ row ∈ row?, row ∈ found := by
  match found with
  | [] => exact reads_pure hs (by simp)
  | [row] => exact reads_pure hs (by simp)
  | _ :: _ :: _ => exact confined_throw _ _ _

lemma reads_find? {column : String} {v : Value}
    (h : ∀ row, ⟨t, row⟩ ∈ s.store → holds column v row = true → mine κ user ⟨t, row⟩ = true) :
    Reads κ user (find? t column v) s fun row? => ∀ row ∈ row?, ⟨t, row⟩ ∈ s.store ∧ holds column v row = true :=
  (reads_select hs h).bind fun _ hfou => (reads_only? hs).mono fun _ hrow row hmem => hfou row (hrow row hmem)

lemma reads_found {what : String} {row? : Option Row} : Reads κ user (found what row?) s (row? = some ·) := by
  cases row? with
  | none => exact confined_throw _ _ _
  | some row => exact reads_pure hs rfl

def Named (κ : Entry → Value) (user : Value) (s : Store) (t : Table) (token : Value) : Prop :=
  ∀ row, ⟨t, row⟩ ∈ s → holds "token" (Store.CellKind.text.normal token) row = true →
    mine κ user ⟨t, row⟩ = true

lemma reads_byToken {token : Value} (h : Named κ user s.store t token) :
    Reads κ user (byToken t token) s fun row => ⟨t, row⟩ ∈ s.store ∧ mine κ user ⟨t, row⟩ = true := by
  have hfind : Reads κ user (findText? t "token" token) s fun row? =>
      ∀ row ∈ row?, ⟨t, row⟩ ∈ s.store ∧ mine κ user ⟨t, row⟩ = true := by
    unfold findText?
    split
    · exact confined_throw_bind _ _ _
    · refine (reads_find? hs h).mono fun row? hrow row hmem => ?_
      obtain ⟨hsto, htok⟩ := hrow row hmem
      exact ⟨hsto, h row hsto htok⟩
  exact hfind.bind fun row? hrow => (reads_found hs).mono fun row hsome => hrow row hsome

lemma reads_requireStorable : Reads κ user (requireStorable row) s fun _ => True := by
  unfold requireStorable
  dsimp only
  split
  · exact reads_pure hs trivial
  · exact confined_throw _ _ _

lemma reads_mapM (post : β → Prop) {xs : List α} (h : ∀ x ∈ xs, Reads κ user (f x) s post) :
    Reads κ user (xs.mapM f) s fun bs => ∀ b ∈ bs, post b := by
  induction xs with
  | nil =>
    rw [mapM_nil]
    exact reads_pure hs (by simp)
  | cons x xs ih =>
    rw [mapM_cons]
    exact (h x mem_cons_self).bind fun b hb => (ih fun y hy => h y (mem_cons_of_mem _ hy)).bind fun bs hbs =>
      reads_pure hs (forall_mem_cons.mpr ⟨hb, hbs⟩)

omit hs in
lemma confined_change {f : Store → Result Store} (post : Store → Prop)
    (h : ∀ store, f s.store = .ok store → Tenancy κ store ∧
      f (s.store.filter (mine κ user)) = .ok (store.filter (mine κ user)) ∧
      (store.filter fun e => !mine κ user e) = (s.store.filter fun e => !mine κ user e) ∧ post store)
    (hfau : ∀ status detail, f s.store ≠ .error (.http status detail)) :
    Confined κ user (change f) s fun _ s' => post s'.store where
  ok hrun := by
    obtain ⟨store, hsto, rfl⟩ := exec_change_eq_ok hrun
    obtain ⟨hten, hpart, hoth, hpost⟩ := h store hsto
    refine ⟨hten, ?_, hoth, hpost⟩
    rw [exec_change, part, hpart]
    rfl
  refused {status detail} hrun := by
    rw [exec_change] at hrun
    grind

lemma confined_newToken (token : Nat → String) :
    Confined κ user (newToken token) s fun _ s' => s'.store = s.store :=
  (confined_run hs Run.nextId).bind fun _ _ hs' hsto => confined_pure hs' hsto

lemma reads_reread
    (h : ∀ r, ⟨t, r⟩ ∈ s.store → holds "id" (cell row "id") r = true → mine κ user ⟨t, r⟩ = true) :
    Reads κ user (reread t row) s fun _ => True :=
  (reads_select hs h).bind fun _ _ => reads_pure hs trivial

lemma confined_place
    (h : ∀ time id, Store.Fits κ s.store ⟨t, t.fill time id given⟩ ∧ mine κ user ⟨t, t.fill time id given⟩ = true) :
    Confined κ user (place t given) s fun row s' =>
      ∃ time id, row = t.fill time id given ∧ s'.store = s.store ++ [⟨t, row⟩] := by
  unfold place
  dsimp only
  refine (confined_newToken hs identifier).ite_bind (confined_pure hs rfl) fun id s1 hs1 hsto => ?_
  refine (reads_requireStorable hs1).bind fun _ _ => (reads_now hs1).bind fun time _ => ?_
  split
  · exact confined_throw_bind _ _ _
  · obtain ⟨hfits, hmine⟩ := h time id
    rw [← hsto] at hfits
    have hcha : Confined κ user (change fun s => s.insert t (t.fill time id given)) s1 fun _ s' =>
        s'.store = s1.store ++ [⟨t, t.fill time id given⟩] :=
      confined_change (· = _) (fun store hins => hs1.insert hfits hmine hins)
        fun _ _ => checked_ne_refused
    exact hcha.bind fun _ s2 hs2 hsto' => confined_pure hs2 ⟨time, id, rfl, hsto ▸ hsto'⟩

lemma confined_insert
    (h : ∀ time id, Store.Fits κ s.store ⟨t, t.fill time id (t.stated given)⟩ ∧ mine κ user ⟨t, t.fill time id (t.stated given)⟩ = true)
    (hkey : ["id"] ∈ t.keys) : Confined κ user (insert t given) s fun row s' =>
      (∃ time id, row = t.fill time id (t.stated given)) ∧ s'.store = s.store ++ [⟨t, row⟩] := by
  refine (confined_place hs h).bind ?_
  rintro row s1 hs1 ⟨time, id, hrow, hsto⟩
  have hmem : (⟨t, row⟩ : Entry) ∈ s1.store := by simp [hsto]
  obtain ⟨a, ha⟩ := hs1.ids _ hmem hkey
  have hrer : ∀ r, ⟨t, r⟩ ∈ s1.store → holds "id" (cell row "id") r = true → mine κ user ⟨t, r⟩ = true := by
    intro r hr hid
    rw [holds, ha, same_text_iff] at hid
    rw [eq_of_same_id (hasKey_of_sound hs1.sound hkey) hr hmem hid ha, hrow]
    exact (h time id).2
  exact (reads_reread hs1 hrer).bind fun _ _ => confined_pure hs1 ⟨⟨time, id, hrow⟩, hsto⟩

theorem confined_update (hκ : ∀ {d e}, Kin d e → κ d = κ e) {changes : Row} (hspa : Store.Spares t changes)
    (hrow : ⟨t, row⟩ ∈ s.store) (hmine : mine κ user ⟨t, row⟩ = true) (hkey : ["id"] ∈ t.keys)
    (hnew : ∀ c ∈ t.columns, ∀ v, Entries.get? changes c.name = some v → ∀ x ∈ s.store, c.target = some x.table → x.table.isKept = true → holds "id" (Store.CellKind.identifier.normal v) x.row = true → κ ⟨t, row⟩ = κ x) :
    Confined κ user (update t row changes) s fun row' s' =>
      ⟨t, row'⟩ ∈ s'.store ∧ mine κ user ⟨t, row'⟩ = true ∧ Store.Descends s'.store s.store := by
  refine (reads_now hs).bind fun time _ => (reads_requireStorable hs).bind fun _ _ => ?_
  have hcha : Confined κ user (change fun s => s.update t (cell row "id") time changes) s fun _ s' =>
      s'.store = s.store.reviseWhere t (holds "id" (cell row "id")) time changes :=
    confined_change (· = _) (fun store hupd => hs.update hκ hspa hrow hmine hkey hnew hupd)
      fun _ _ => checked_ne_refused
  refine hcha.bind fun _ s' hs' hsto => ?_
  obtain ⟨a, ha⟩ := hs.ids _ hrow hkey
  have hkin : Kin ⟨t, t.revise time changes row⟩ ⟨t, row⟩ := kin_revise hspa time row
  have hmine' : mine κ user ⟨t, t.revise time changes row⟩ = true := by rw [mine_congr hκ hkin, hmine]
  have hmem : (⟨t, t.revise time changes row⟩ : Entry) ∈ s'.store := by
    rw [hsto, reviseWhere_eq_map, mem_map]
    refine ⟨⟨t, row⟩, hrow, ?_⟩
    have hid : holds "id" (cell row "id") row = true := by
      rw [holds, ha]
      exact same_text_iff.mpr rfl
    simp [Entry.revised, hid]
  have hrer : ∀ r, ⟨t, r⟩ ∈ s'.store → holds "id" (cell row "id") r = true → mine κ user ⟨t, r⟩ = true := by
    intro r hr hid
    rw [holds, ha, same_text_iff] at hid
    have hid' : cell (t.revise time changes row) "id" = .text a := hkin.id.trans ha
    rw [eq_of_same_id (hasKey_of_sound hs'.sound hkey) hr hmem hid hid', hmine']
  exact (reads_reread hs' hrer).bind fun _ _ =>
    confined_pure hs' ⟨hmem, hmine', hsto ▸ descends_reviseWhere _ hspa _ _⟩

lemma confined_delete (hκ : ∀ {d e}, Kin d e → κ d = κ e) (hrow : ⟨t, row⟩ ∈ s.store)
    (hmine : mine κ user ⟨t, row⟩ = true) (ht : t.isKept = true) (hkey : ["id"] ∈ t.keys) :
    Confined κ user (delete t row) s fun _ s' => Store.Descends s'.store s.store := by
  refine (reads_now hs).bind fun time _ => ?_
  obtain ⟨a, ha⟩ := hs.ids _ hrow hkey
  rw [ha]
  refine confined_change (Store.Descends · s.store) (fun store hdel => ?_)
    fun _ _ => delete_ne_refused
  obtain ⟨hten, hpart, hoth⟩ := hs.delete hκ
    (fun e he hgoes => mine_of_goesWith hs hrow ht hkey ha hmine he hgoes) hdel
  obtain ⟨-, -, -, rfl⟩ := delete_eq_ok.mp hdel
  exact ⟨hten, hpart, hoth, descends_left _ _ _ _⟩

end Read

end CloudSpend.Handler
