import CloudSpend.Api.Resources
import CloudSpend.Proofs.Api.Discretion

/-! # What people keep is kept apart -/

namespace CloudSpend.Api

open Handler List Store Entries Table
open Store (Table Entry Column Tenancy Kin mine cell holds)
open Handler (Confined Reads Named)

def Shown.Refers (t : Table) : Shown → Prop
  | .cell _ _ _ => True
  | .token link => ∃ c ∈ t.columns, c.name = link.column ∧ c.target = some link.table

instance (t : Table) : (x : Shown) → Decidable (x.Refers t)
  | .cell _ _ _ => inferInstanceAs (Decidable True)
  | .token _ => inferInstanceAs (Decidable (∃ c ∈ t.columns, _))

lemma mem_of_mem_select {page : Page} {rows : List Row} {row : Row} (h : row ∈ page.select rows) :
    row ∈ rows := by
  unfold Page.select at h
  grind

section Shown

variable {κ : Entry → Value} {user : Value} {s : Service} (hs : Tenancy κ s.store)
include hs

variable {t : Table} {row : Row} {shown : List Shown}

lemma reads_read (hrow : ⟨t, row⟩ ∈ s.store) (hmine : mine κ user ⟨t, row⟩ = true) {x : Shown}
    (hx : x.Refers t) : Reads κ user (x.read row) s fun _ => True := by
  match x, hx with
  | .cell name _ none, _ => exact reads_pure hs trivial
  | .cell name _ (some v), _ => exact reads_pure hs trivial
  | .token link, ⟨c, hc, hname, htar⟩ =>
    refine (reads_find? hs fun r hr hid => ?_).bind fun _ _ => reads_pure hs trivial
    cases hkept : link.table.isKept with
    | false => exact mine_of_not_isKept hkept
    | true => rw [← hs.mine_eq hrow hr hc htar hkept (hname ▸ hid), hmine]

lemma reads_describe (hrow : ⟨t, row⟩ ∈ s.store) (hmine : mine κ user ⟨t, row⟩ = true)
    (hsho : ∀ x ∈ shown, x.Refers t) : Reads κ user (describe shown row) s fun _ => True :=
  (reads_mapM hs (fun _ => True) fun x hx => reads_read hs hrow hmine (hsho x hx)).bind fun _ _ =>
    (reads_liftM hs _).mono fun _ _ => trivial

variable {test : Row → Bool} (htest : ∀ row, ⟨t, row⟩ ∈ s.store → test row = true → mine κ user ⟨t, row⟩ = true)
include htest

lemma reads_paged (page : Page) : Reads κ user (paged t test page) s fun found =>
    ∀ row ∈ found.1, ⟨t, row⟩ ∈ s.store ∧ test row = true := by
  refine (reads_requireStorable hs).bind fun _ _ => (reads_rows hs htest).bind fun rows hrows => ?_
  refine (reads_liftM hs _).bind fun read hread => reads_pure hs fun row hrow => hrows row ?_
  rw [eq_of_readable hread] at hrow
  exact mem_of_mem_select hrow

lemma reads_listing (hsho : ∀ x ∈ shown, x.Refers t) (plural : String) (c : Call) :
    Reads κ user (listing t plural shown test c) s fun _ => True := by
  refine (reads_paged hs htest _).bind fun found hrows => ?_
  refine (reads_mapM hs (fun _ => True) fun row hrow => ?_).bind fun _ _ => reads_pure hs trivial
  obtain ⟨hmem, hpass⟩ := hrows row hrow
  exact reads_describe hs hmem (htest row hmem hpass) hsho

end Shown

section One

variable {s : Service} (hs : Tenancy s.store.creator s.store) {user : String} {t : Table}
  (ht : t.isKept = true)
include hs ht

lemma reads_one {c : Call} (hc : Discreet s.store.creator (.text user) s.store c) :
    Reads s.store.creator (.text user) (byToken t (.text c.param)) s fun row =>
      ⟨t, row⟩ ∈ s.store ∧ mine s.store.creator (.text user) ⟨t, row⟩ = true :=
  reads_byToken hs (hc.named ht (mem_append_left _ mem_cons_self))

lemma confined_remove (hkey : ["id"] ∈ t.keys) {find : Handler Row}
    (hfind : Reads s.store.creator (.text user) find s fun row =>
      ⟨t, row⟩ ∈ s.store ∧ mine s.store.creator (.text user) ⟨t, row⟩ = true) (message : String) :
    Confined s.store.creator (.text user) (do
      delete t (← find)
      return done message) s fun _ s' => Keeps s s' := by
  refine hfind.bind fun row hrow => (confined_delete hs (creator_congr _) hrow.1 hrow.2 ht hkey).bind ?_
  exact fun _ s1 hs1 hdes =>
    confined_pure hs1 fun e he => creator_of_descends hdes hs1.sound hs.sound hs.ids he

lemma confined_revise (hkey : ["id"] ∈ t.keys) {row : Row} (hrow : ⟨t, row⟩ ∈ s.store)
    (hmine : mine s.store.creator (.text user) ⟨t, row⟩ = true) {shown : List Shown}
    (hsho : ∀ x ∈ shown, x.Refers t) {changes : Row}
    (hcha : ∀ p ∈ changes, Harmless s.store.creator (.text user) s.store t p) :
    Confined s.store.creator (.text user) (do describe shown (← update t row changes)) s
      fun _ s' => Keeps s s' := by
  refine (confined_update hs (creator_congr _) (spares_of_harmless hcha) hrow hmine hkey
    fun column hcol w hw x hx htar hkept hid => ?_).bind ?_
  · rw [(hcha _ (mem_of_get? hw)).creator_eq hs hcol hx htar hkept hid]
    exact (mine_iff ht).mp hmine
  · rintro row' s1 hs1 ⟨hrow', hmine', hdes⟩
    exact (reads_describe hs1 hrow' hmine' hsho).confined fun _ _ e he =>
      creator_of_descends hdes hs1.sound hs.sound hs.ids he

end One

namespace Resource

@[mk_iff]
structure Proper (r : Resource) : Prop where
  id : ∃ c ∈ r.table.columns, c.name = "id"
  key : ["id"] ∈ r.table.keys
  parent : r.table.parent? = some (r.parent.table, r.parent.column)
  kept : r.parent.table.isKept = true
  token : HasToken r.parent.table
  column : r.parent.column ≠ "token" ∧ r.parent.column ≠ "id"
  field : r.parent.field ≠ "page" ∧ r.parent.field ≠ "limit"
  plain : ∀ name ∈ "token" :: "created_by" :: r.form.map Prod.fst, IsPlain r.table name
  links : ∀ l ∈ r.links, IsLink r.table l
  shown : ∀ x ∈ r.shown, x.Refers r.table
  form : ∀ v ∈ r.revision, ∀ name ∈ v.form.map Prod.fst, IsPlain r.table name
  relinks : ∀ v ∈ r.revision, ∀ l ∈ v.links, IsLink r.table l

instance (r : Resource) : Decidable r.Proper := decidable_of_iff' _ (proper_iff r)

variable {r : Resource} {c : Call} {p : String × Value}

lemma Proper.isKept (h : r.Proper) : r.table.isKept = true := by
  rw [Table.isKept, h.parent]
  rfl

section Links

variable {κ : Entry → Value} {user : Value} {s : Service} (hs : Tenancy κ s.store) {c : Call}
  (hc : Discreet κ user s.store c)
include hs hc

variable {t : Table} {l : Link}

lemma reads_follow (hl : IsLink t l) :
    Reads κ user (follow c l) s (Harmless κ user s.store t) := by
  have hlink : ∀ v, Own κ user s.store l.table v → Harmless κ user s.store t (l.column, v) :=
    fun v hv => .inr ⟨l, hl, rfl, hv⟩
  unfold follow
  dsimp only
  split
  · refine (reads_byToken hs (hc.named_field hs.sound hl.kept hl.token _)).bind fun row hrow => ?_
    exact reads_pure hs (hlink _ (.inr ⟨row, hrow.1, hrow.2, rfl⟩))
  · exact reads_pure hs (hlink _ (.inl rfl))

lemma reads_relink (hl : IsLink t l) (keepsNull : Bool) :
    Reads κ user (relink keepsNull c l) s fun ps => ∀ p ∈ ps, Harmless κ user s.store t p := by
  have hnot : Reads κ user (pure [] : Handler Row) s fun ps => ∀ p ∈ ps, Harmless κ user s.store t p :=
    reads_pure hs fun _ h => absurd h not_mem_nil
  unfold relink
  dsimp only
  split
  · split
    · exact hnot
    · refine (reads_byToken hs (hc.named_field hs.sound hl.kept hl.token _)).bind fun row hrow => ?_
      exact reads_pure hs (forall_mem_singleton.mpr (.inr ⟨l, hl, rfl, .inr ⟨row, hrow.1, hrow.2, rfl⟩⟩))
  · split
    · exact (reads_follow hs hc hl).bind fun p hp => reads_pure hs (forall_mem_singleton.mpr hp)
    · exact hnot

end Links

lemma isPlain_of_mem_plainCells {t : Table} {form : List Form.Field} {links : List Link}
    (h : ∀ name ∈ form.map Prod.fst, IsPlain t name) (hp : p ∈ plainCells form links c) : IsPlain t p.1 := by
  obtain ⟨f, hf, rfl⟩ := mem_map.mp hp
  exact h f.1 (mem_map_of_mem (mem_filter.mp hf).1)

def newCells (r : Resource) (c : Call) (token linked : Row) (parent : Row) : Row :=
  token ++ [(r.parent.column, cell parent "id")] ++ linked ++ plainCells r.form r.links c ++
    if r.noted then [("created_by", cell c.user "id")] else []

lemma mem_newCells (hr : r.Proper) {token linked parent : Row} (htok : ∀ p ∈ token, p.1 = "token")
    (hp : p ∈ newCells r c token linked parent) :
    p = (r.parent.column, cell parent "id") ∨ p ∈ linked ∨ IsPlain r.table p.1 := by
  simp only [newCells, mem_append, mem_singleton] at hp
  rcases hp with (((hp | rfl) | hp) | hp) | hp
  · exact .inr (.inr (htok p hp ▸ hr.plain _ (by simp)))
  · exact .inl rfl
  · exact .inr (.inl hp)
  · exact .inr (.inr (isPlain_of_mem_plainCells (fun name hname => hr.plain name (by simp [hname])) hp))
  · split at hp
    · rw [mem_singleton] at hp
      exact .inr (.inr (hp ▸ hr.plain _ (by simp)))
    · cases hp

section Handlers

variable {r : Resource} (hr : r.Proper) {s : Service} (hs : Tenancy s.store.creator s.store)
  {user : String} {c : Call} (hc : Discreet s.store.creator (.text user) s.store c)
include hr hs hc

lemma reads_list (hsco : (c.arg r.parent.field).truthy = true) :
    Reads s.store.creator (.text user) (r.list c) s fun _ => True := by
  unfold list
  rw [if_pos hsco]
  refine (reads_byToken hs (hc.named hr.kept (arg_mem_values hsco))).bind ?_
  rintro parent ⟨hpar, hmine⟩
  refine reads_listing hs (fun row hrow hheld => ?_) hr.shown _ _
  obtain ⟨column, hcol, hname, -, htar⟩ := exists_parentColumn hr.parent
  obtain ⟨a, ha⟩ := hs.ids _ hpar (id_mem_keys_of_target _ column hcol _ htar)
  have hid : holds "id" (cell row column.name) parent = true := by
    rw [holds, ha, same_text_iff] at hheld
    rw [hname, hheld, holds, ha]
    exact same_text_iff.mpr rfl
  rw [hs.mine_eq hrow hpar hcol htar hr.kept hid, hmine]

lemma confined_change {v : Revision} (hv : v ∈ r.revision) :
    Confined s.store.creator (.text user) (r.change v c) s fun _ s' => Keeps s s' := by
  refine (reads_one hs hr.isKept hc).bind fun row hrow => ?_
  refine (reads_mapM hs (fun ps => ∀ p ∈ ps, Harmless s.store.creator (.text user) s.store r.table p)
    fun l hl => reads_relink hs hc (hr.relinks v hv l hl) v.keepsNull).bind fun linked hlin => ?_
  refine confined_revise hs hr.isKept hr.key hrow.1 hrow.2 hr.shown fun p hp => ?_
  rcases mem_append.mp hp with hp | hp
  · obtain ⟨ps, hps, hp⟩ := mem_flatten.mp hp
    exact hlin ps hps p hp
  · exact .inl (isPlain_of_mem_plainCells (hr.form v hv) (mem_filter.mp hp).1)

omit hs hc in
lemma newCells_spec {κ : Entry → Value} {user : Value} {store : Store} {token linked parent : Row}
    (htok : ∀ p ∈ token, p.1 = "token") (hlin : ∀ p ∈ linked, Harmless κ user store r.table p)
    (hid : (cell parent "id").isNull = false) :
    get? (r.table.stated (newCells r c token linked parent)) r.parent.column = some (cell parent "id") ∧
      get? (r.table.stated (newCells r c token linked parent)) "id" = none ∧
      ∀ p ∈ r.table.stated (newCells r c token linked parent),
        p.1 = r.parent.column ∨ Harmless κ user store r.table p := by
  have hhar : ∀ p ∈ r.table.stated (newCells r c token linked parent),
      p.1 = r.parent.column ∨ Harmless κ user store r.table p := by
    intro p hp
    rcases mem_newCells hr htok (mem_filter.mp hp).1 with rfl | hmem | hpla
    · exact .inl rfl
    · exact .inr (hlin p hmem)
    · exact .inr (.inl hpla)
  refine ⟨?_, get?_eq_none_of_forall fun p hp => ?_, hhar⟩
  · simp only [newCells, append_assoc, singleton_append]
    exact get?_stated _ (fun p hp => by rw [htok p hp]; exact hr.column.1.symm) hid
  · rcases hhar p hp with hp | hp
    · rw [hp]
      exact hr.column.2
    · exact hp.ne.1

lemma confined_create : Confined s.store.creator (.text user) (r.create c) s fun _ s' => Keeps s s' := by
  refine (reads_byToken hs (hc.named_field hs.sound hr.kept hr.token _)).bind ?_
  rintro parent ⟨hpar, hmine⟩
  refine (reads_mapM hs (Harmless s.store.creator (.text user) s.store r.table)
    fun l hl => reads_follow hs hc (hr.links l hl)).bind fun linked hlin => ?_
  have hid : (cell parent "id").isNull = false := by
    obtain ⟨column, hcol, -, -, htar⟩ := exists_parentColumn hr.parent
    obtain ⟨a, ha⟩ := hs.ids _ hpar (id_mem_keys_of_target _ column hcol _ htar)
    rw [ha]
    rfl
  have hrest : ∀ (token : Row) (s1 : Service), Tenancy s.store.creator s1.store → s1.store = s.store →
      (∀ p ∈ token, p.1 = "token") →
      Confined s.store.creator (.text user) (do
        let row ← insert r.table (newCells r c token linked parent)
        let answer ← describe r.shown row
        return Value.object ((answer.object?.getD []).map fun e =>
          if r.repeated.contains e.1 then (e.1, c.field e.1) else e)) s1 fun _ s' => Keeps s s' := by
    intro token s1 hs1 hsto htok
    obtain ⟨hget, hnoid, hhar⟩ := newCells_spec (c := c) hr htok hlin hid
    have hfits := fits_of_parent hs hr.parent hr.kept hr.id hpar hmine hget hnoid hhar
    refine (confined_insert hs1 (fun time id => ?_) hr.key).bind ?_
    · rw [hsto]
      exact ⟨(hfits time id).1, (hfits time id).2.1⟩
    · rintro row s2 hs2 ⟨⟨time, id, rfl⟩, hsto'⟩
      exact (reads_describe hs2 (by simp [hsto']) (hfits time id).2.1 hr.shown).bind fun _ _ => confined_pure hs2
        (keeps_of_parent hs hr.parent hr.kept hpar (hfits time id).2.2 (hsto ▸ hsto'))
  dsimp only
  split
  · refine (confined_newToken hs _).bind fun word s1 hs1 hsto => ?_
    exact (reads_pure hs1 rfl).bind fun token htok => hrest token s1 hs1 hsto (by simp [← htok])
  · exact (reads_pure hs rfl).bind fun token htok => hrest token s hs rfl (by simp [← htok])

end Handlers

end Resource

structure Endpoint.IsPersonal (e : Endpoint) : Prop where
  signedIn : e.signedIn = true
  confined : ∀ {s : Service} {user : String} {c : Call}, Tenancy s.store.creator s.store →
    cell c.user "id" = .text user → Discreet s.store.creator (.text user) s.store c → Scoped e.query c →
    Handler.Confined s.store.creator (.text user) (e.run c) s fun _ s' => Keeps s s'

lemma Keeps.refl (s : Service) : Keeps s s := fun _ _ => rfl

variable {e : Endpoint}

lemma Resource.isPersonal {r : Resource} (hr : r.Proper) (he : e ∈ r.endpoints) : e.IsPersonal := by
  simp only [endpoints, mem_append, mem_cons, not_mem_nil, or_false] at he
  rcases he with (((rfl | rfl) | he) | he) | he
  · refine ⟨rfl, fun hs _ hc hsco => (reads_list hr hs hc ?_).confined fun _ _ => Keeps.refl _⟩
    rcases hsco _ mem_cons_self with hpage | hlim | hpar
    · exact absurd hpage hr.field.1
    · exact absurd hlim hr.field.2
    · exact hpar
  · exact ⟨rfl, fun hs _ hc _ => confined_create hr hs hc⟩
  · split at he
    · rw [mem_singleton] at he
      subst he
      exact ⟨rfl, fun hs _ hc _ => (reads_one hs hr.isKept hc).bind fun row hrow =>
        (reads_describe hs hrow.1 hrow.2 hr.shown).confined fun _ _ => Keeps.refl _⟩
    · cases he
  · obtain ⟨v, hv, rfl⟩ := mem_map.mp he
    exact ⟨rfl, fun hs _ hc _ => confined_change hr hs hc (Option.mem_toList.mp hv)⟩
  · obtain ⟨message, -, rfl⟩ := mem_map.mp he
    exact ⟨rfl, fun hs _ hc _ => confined_remove hs hr.isKept hr.key (reads_one hs hr.isKept hc) message⟩

lemma proper_of_mem : ∀ r ∈ resources, r.Proper := by decide

section Workspaces

def newWorkspace (name : Value) (token user : String) : Row :=
  stated .workspaces [("name", name), ("token", .text token), ("created_by", .text user)]

lemma fits_newWorkspace (store : Store) (name : Value) (token user : String) (now : Timestamp) (id : String) :
    Store.Fits store.creator store
        ⟨.workspaces, fill .workspaces now id (newWorkspace name token user)⟩ ∧
      mine store.creator (.text user)
        ⟨.workspaces, fill .workspaces now id (newWorkspace name token user)⟩ = true := by
  have hnoid : get? (newWorkspace name token user) "id" = none := by
    refine get?_eq_none_of_forall fun p hp => ?_
    have hmem := (mem_filter.mp hp).1
    grind
  have hcre : get? (newWorkspace name token user) "created_by" = some (.text user) :=
    get?_stated [("name", name), ("token", .text token)] (by simp) rfl
  refine ⟨⟨fun _ => ⟨id, ?_⟩, fun {x} _ column hcol htar hkept _ => ?_⟩, (mine_iff rfl).mpr ?_⟩
  · obtain ⟨column, hcol, hname⟩ : ∃ column ∈ columns .workspaces, column.name = "id" := by decide
    exact cell_fill_id hcol hname now id hnoid
  · have hfree : ∀ column ∈ columns .workspaces, ∀ u ∈ column.target, u.isKept = false := by decide
    rw [hfree column hcol _ htar] at hkept
    cases hkept
  · obtain ⟨column, hcol, hname, -, htar⟩ := exists_parentColumn (t := .workspaces) rfl
    rw [creator_workspace, ← hname, cell_fill_of_target hcol (by rw [htar]; rfl), hname, hcre]
    rfl

variable {s : Service} (hs : Tenancy s.store.creator s.store) {user : String} {c : Call}
include hs

lemma confined_newWorkspace (hc : cell c.user "id" = .text user) :
    Handler.Confined s.store.creator (.text user) (do
      let token ← newToken (Access.resourceToken "ws")
      describe workspaceShown (← insert .workspaces
        [("name", c.field "name"), ("token", .text token), ("created_by", cell c.user "id")])) s
      fun _ s' => Keeps s s' := by
  refine (confined_newToken hs _).bind fun token s1 hs1 hsto => ?_
  rw [hc]
  have hfits := fits_newWorkspace s.store (c.field "name") token user
  refine (confined_insert hs1 (hsto ▸ hfits) (by decide)).bind ?_
  rintro row s2 hs2 ⟨⟨now, id, rfl⟩, hsto'⟩
  have hmem : ⟨.workspaces, fill .workspaces now id (newWorkspace (c.field "name") token user)⟩ ∈ s2.store := by
    rw [hsto']
    exact mem_append_right _ mem_cons_self
  refine (reads_describe hs2 hmem (hfits now id).2 (by decide)).confined fun _ _ e he => ?_
  rw [hsto', hsto] at he ⊢
  rcases mem_append.mp he with he | he
  · exact creator_append hs.sound _ he
  · rw [mem_singleton] at he
    subst he
    rfl

lemma confined_listWorkspaces (hc : cell c.user "id" = .text user) :
    Handler.Confined s.store.creator (.text user)
      (listing .workspaces "workspaces" workspaceShown (holds "created_by" (cell c.user "id")) c) s
      fun _ s' => Keeps s s' := by
  refine (reads_listing hs (fun row hrow hheld => ?_) (by decide) _ c).confined fun _ _ => Keeps.refl s
  rw [hc, holds, same_text_iff] at hheld
  exact (mine_iff rfl).mpr hheld

lemma confined_changeWorkspace (hc : Discreet s.store.creator (.text user) s.store c) :
    Handler.Confined s.store.creator (.text user) (do
      let name := c.field "name"
      describe workspaceShown (← update .workspaces (← byToken .workspaces (.text c.param))
        (if name.isNull then [] else [("name", name)]))) s fun _ s' => Keeps s s' := by
  refine (reads_one hs rfl hc).bind fun row hrow => ?_
  refine confined_revise hs rfl (by decide) hrow.1 hrow.2 (by decide) fun p hp => .inl ?_
  split at hp
  · cases hp
  · rw [mem_singleton] at hp
    rw [hp]
    exact (by decide : IsPlain .workspaces "name")

end Workspaces

lemma isPersonal_of_mem_workspaceEndpoints (he : e ∈ workspaceEndpoints) : e.IsPersonal := by
  simp only [workspaceEndpoints, mem_cons, not_mem_nil, or_false] at he
  rcases he with rfl | rfl | rfl | rfl | rfl
  · exact ⟨rfl, fun hs huser _ _ => confined_listWorkspaces hs huser⟩
  · exact ⟨rfl, fun hs huser _ _ => confined_newWorkspace hs huser⟩
  · exact ⟨rfl, fun hs _ hc _ => (reads_one hs rfl hc).bind fun row hrow =>
      (reads_describe hs hrow.1 hrow.2 (by decide)).confined fun _ _ => Keeps.refl _⟩
  · exact ⟨rfl, fun hs _ hc _ => confined_changeWorkspace hs hc⟩
  · exact ⟨rfl, fun hs _ hc _ => confined_remove hs rfl (by decide) (reads_one hs rfl hc) _⟩

lemma isPersonal_deleteUnitCost : deleteUnitCost.IsPersonal := by
  refine ⟨rfl, fun {s user c} hs _ hc _ => confined_remove hs rfl (by decide) ?_ _⟩
  have hid : ∀ row, ⟨.unitCosts, row⟩ ∈ s.store → holds "id" (.text c.param) row = true →
      mine s.store.creator (.text user) ⟨.unitCosts, row⟩ = true :=
    fun row hrow hheld => hc _ hrow rfl _ (mem_append_left _ mem_cons_self) (.inr hheld)
  refine (reads_find? hs hid).bind fun row? hrow => (reads_found hs).mono fun row hsome => ?_
  obtain ⟨hmem, hheld⟩ := hrow row hsome
  exact ⟨hmem, hid row hmem hheld⟩

lemma isPersonal_of_mem (he : e ∈ resourceEndpoints) : e.IsPersonal := by
  simp only [resourceEndpoints, mem_append, mem_flatMap, mem_singleton] at he
  rcases he with (he | ⟨r, hr, he⟩) | rfl
  · exact isPersonal_of_mem_workspaceEndpoints he
  · exact Resource.isPersonal (proper_of_mem r hr) he
  · exact isPersonal_deleteUnitCost

end CloudSpend.Api
