import CloudSpend.Proofs.Api.References
import CloudSpend.Proofs.Store.Cabinet

/-! # Folders are a forest, unless something is misfiled -/

namespace CloudSpend

open Handler List Store Store.Cabinet

lemma Handler.exec_mapM_eq_ok {α β : Type} {f : α → Handler β} [∀ a, Leaves (fun s => s) (f a)] {xs : List α}
    {ys : List β} {s s' : Service} (h : exec (xs.mapM f) s = (.ok ys, s')) :
    List.Forall₂ (fun x y => exec (f x) s = (.ok y, s)) xs ys := by
  induction xs generalizing ys with
  | nil =>
    cases h
    exact .nil
  | cons x xs ih =>
    rw [mapM_cons] at h
    obtain ⟨y, s1, hy, hrest⟩ := exec_bind_eq_ok.mp h
    obtain ⟨ys', s2, hys, hcons⟩ := exec_bind_eq_ok.mp hrest
    cases hcons
    have hsame := Leaves.eq hy
    rw [hsame] at hy hys
    exact .cons hy (ih hys)

namespace Api

open Store (Table Entry Filed Formed Agrees Below cell holds cabinet filed)
open Handler (exec)

variable {s s' : Service} {c : Call} {e : Endpoint} {v : Value}

namespace Resource

variable {p : String × Value} {keepsNull : Bool} {w : Revision} {linked : List Row} {ls : List Link}

lemma exec_follow_eq_ok {l : Link} (h : exec (follow c l) s = (.ok p, s')) : (c.field l.field).truthy = true ∧
        (∃ row, s.store.Names l.table (c.field l.field) row ∧ p = (l.column, cell row "id")) ∨
      (c.field l.field).truthy = false ∧ p = (l.column, .null) := by
  unfold follow at h
  dsimp only at h
  split at h
  · next htru =>
      obtain ⟨row, hrow, h⟩ := exec_byToken_bind_eq_ok h
      cases h
      exact .inl ⟨htru, row, hrow, rfl⟩
  · next htru =>
      cases h
      exact .inr ⟨by simpa using htru, rfl⟩

def givesRow (keepsNull : Bool) (c : Call) (l : Link) : Bool :=
  if keepsNull then !(c.field l.field).isNull else c.given.contains l.field && (c.field l.field).truthy

lemma exec_relink_eq_ok {l : Link} {ps : Row} (h : exec (relink keepsNull c l) s = (.ok ps, s')) :
    givesRow keepsNull c l = true ∧
        (∃ row, s.store.Names l.table (c.field l.field) row ∧ ps = [(l.column, cell row "id")]) ∨
      givesRow keepsNull c l = false ∧ (ps = [] ∨ keepsNull = false ∧ ps = [(l.column, .null)]) := by
  unfold relink at h
  cases keepsNull with
  | true =>
    rw [if_pos rfl] at h
    split at h
    · next hnull =>
        cases h
        exact .inr ⟨by simp [givesRow, hnull], .inl rfl⟩
    · next hnull =>
        obtain ⟨row, hrow, h⟩ := exec_byToken_bind_eq_ok h
        cases h
        exact .inl ⟨by simpa [givesRow] using hnull, row, hrow, rfl⟩
  | false =>
    rw [if_neg Bool.false_ne_true] at h
    split at h
    · next hgiv =>
        obtain ⟨p, s1, hp, h⟩ := exec_bind_eq_ok.mp h
        cases h
        rcases exec_follow_eq_ok hp with ⟨htru, row, hrow, rfl⟩ | ⟨htru, rfl⟩
        · exact .inl ⟨by rw [givesRow, if_neg Bool.false_ne_true, hgiv, htru]; rfl, row, hrow, rfl⟩
        · exact .inr ⟨by simp [givesRow, htru], .inr ⟨rfl, rfl⟩⟩
    · next hgiv =>
        cases h
        exact .inr ⟨by rw [givesRow, if_neg Bool.false_ne_true, Bool.eq_false_iff.mpr hgiv]; rfl, .inl rfl⟩

variable {r : Resource}

lemma exec_create_eq_ok (h : exec (r.create c) s = (.ok v, s')) :
    ∃ parent token linked row, s.store.Names r.parent.table (c.field r.parent.field) parent ∧
      (∀ p ∈ token, p.1 = "token") ∧ List.Forall₂ (fun l p => exec (follow c l) s = (.ok p, s)) r.links linked ∧
      (∃ now id, row = r.table.fill now id (r.table.stated (newCells r c token linked parent))) ∧
      s'.store = s.store ++ [⟨r.table, row⟩] := by
  obtain ⟨parent, hpar, h⟩ := exec_byToken_bind_eq_ok h
  obtain ⟨linked, s1, hlin, h⟩ := exec_bind_eq_ok.mp h
  rw [Leaves.eq hlin] at h
  have hrest : ∀ (token : Row) (s2 : Service), s2.store = s.store → (∀ p ∈ token, p.1 = "token") →
      exec (do
        let row ← insert r.table (newCells r c token linked parent)
        let answer ← describe r.shown row
        return Value.object ((answer.object?.getD []).map fun e =>
          if r.repeated.contains e.1 then (e.1, c.field e.1) else e)) s2 = (.ok v, s') →
      ∃ parent token linked row, s.store.Names r.parent.table (c.field r.parent.field) parent ∧
        (∀ p ∈ token, p.1 = "token") ∧ List.Forall₂ (fun l p => exec (follow c l) s = (.ok p, s)) r.links linked ∧
        (∃ now id, row = r.table.fill now id (r.table.stated (newCells r c token linked parent))) ∧
        s'.store = s.store ++ [⟨r.table, row⟩] := by
    intro token s2 hsto htok h
    obtain ⟨row, s3, hins, h⟩ := exec_bind_eq_ok.mp h
    obtain ⟨answer, s4, hdes, h⟩ := exec_bind_eq_ok.mp h
    cases h
    obtain ⟨⟨id, hrow⟩, hsto', -⟩ := exec_insert_eq_ok hins
    rw [Leaves.eq hdes, hsto', hsto]
    exact ⟨parent, token, linked, row, hpar, htok, exec_mapM_eq_ok hlin,
      ⟨_, id, hrow⟩, rfl⟩
  dsimp only at h
  split at h
  · obtain ⟨word, s2, hword, h⟩ := exec_bind_eq_ok.mp h
    obtain ⟨token, s3, htok, h⟩ := exec_bind_eq_ok.mp h
    cases htok
    have hsto : s2.store = s.store := by
      cases hword
      rfl
    exact hrest [("token", .text word)] s2 hsto (by simp) h
  · obtain ⟨token, s2, htok, h⟩ := exec_bind_eq_ok.mp h
    cases htok
    exact hrest [] s rfl (by simp) h

def changedCells (w : Revision) (c : Call) (linked : List Row) : Row :=
  linked.flatten ++ (plainCells w.form w.links c).filter fun e =>
    if w.keepsNull then !e.2.isNull else c.given.contains e.1

lemma exec_change_eq_ok (h : exec (r.change w c) s = (.ok v, s')) :
    ∃ row linked, s.store.Names r.table (.text c.param) row ∧
      List.Forall₂ (fun l ps => exec (relink w.keepsNull c l) s = (.ok ps, s)) w.links linked ∧
      s'.store = s.store.reviseWhere r.table (holds "id" (cell row "id")) s.world.now
        (changedCells w c linked) := by
  obtain ⟨row, hrow, h⟩ := exec_byToken_bind_eq_ok h
  obtain ⟨linked, s1, hlin, h⟩ := exec_bind_eq_ok.mp h
  rw [Leaves.eq hlin] at h
  obtain ⟨row', s2, hupd, hdes⟩ := exec_bind_eq_ok.mp h
  refine ⟨row, linked, hrow, exec_mapM_eq_ok hlin, ?_⟩
  rw [Leaves.eq hdes, (exec_update_eq_ok hupd).2]
  rfl

lemma cases_of_mem_endpoints (he : e ∈ r.endpoints) :
    e.method = "GET" ∧ (∀ c, Leaves (fun s => s) (e.run c)) ∨ e.method = "POST" ∧ e.run = r.create ∨
      e.method = "PUT" ∧ (∃ w ∈ r.revision, e.run = r.change w) ∨
      e.method = "DELETE" ∧ ∃ message, e.run = deletion r.table message := by
  simp only [endpoints, mem_append, mem_cons, not_mem_nil, or_false, mem_map,
    Option.mem_toList] at he
  rcases he with (((rfl | rfl) | he) | ⟨w, hw, rfl⟩) | ⟨message, -, rfl⟩
  · refine .inl ⟨rfl, fun c => ?_⟩
    dsimp only [list]
    infer_instance
  · exact .inr (.inl ⟨rfl, rfl⟩)
  · split at he
    · obtain rfl := mem_singleton.mp he
      exact .inl ⟨rfl, fun c => leaves_bind⟩
    · simp at he
  · exact .inr (.inr (.inl ⟨rfl, w, hw, rfl⟩))
  · exact .inr (.inr (.inr ⟨rfl, message, rfl⟩))

lemma path_of_mem_endpoints (he : e ∈ r.endpoints) : e.path ∈ [r.path, r.path ++ "/:token"] := by
  simp only [endpoints, mem_append, mem_cons, not_mem_nil, or_false, mem_map,
    Option.mem_toList] at he
  grind

structure Files (r : Resource) (l : Link) : Prop where
  proper : r.Proper
  parent : r.parent = inWorkspace
  table : l.table = .folders
  column : ∃ d ∈ r.table.columns, d.name = l.column ∧ d.target = some .folders
  links : ∃ rest, r.links = l :: rest ∧ ∀ l' ∈ rest, l'.column ≠ l.column
  relinks : ∀ w ∈ r.revision, ∃ rest, w.links = l :: rest ∧ ∀ l' ∈ rest, l'.column ≠ l.column
  keeps : r.table = .folders → ∀ w ∈ r.revision, w.keepsNull = true

variable {l : Link}

lemma Files.parent? (h : r.Files l) : r.table.parent? = some (.workspaces, "workspace_id") := by
  rw [h.proper.parent, h.parent]
  rfl

lemma Files.ne_of_isPlain (h : r.Files l) {name : String} (hpla : IsPlain r.table name) : name ≠ l.column := by
  rintro rfl
  obtain ⟨d, hd, hname, htar⟩ := h.column
  exact absurd (hpla.2.2 d hd hname _ htar) (by decide)

lemma column_of_follow {linked : Row}
    (h : List.Forall₂ (fun l p => exec (follow c l) s = (.ok p, s)) ls linked) :
    ∀ p ∈ linked, ∃ l ∈ ls, p.1 = l.column := by
  intro p hp
  obtain ⟨l, hl, hrun⟩ := exists_of_mem_of_forall₂ h hp
  refine ⟨l, hl, ?_⟩
  rcases exec_follow_eq_ok hrun with ⟨-, row, -, rfl⟩ | ⟨-, rfl⟩ <;> rfl

lemma column_of_relink
    (h : List.Forall₂ (fun l ps => exec (relink keepsNull c l) s = (.ok ps, s)) ls linked) :
    ∀ p ∈ linked.flatten, ∃ l ∈ ls, p.1 = l.column := by
  intro p hp
  obtain ⟨ps, hps, hp⟩ := mem_flatten.mp hp
  obtain ⟨l, hl, hrun⟩ := exists_of_mem_of_forall₂ h hps
  refine ⟨l, hl, ?_⟩
  rcases exec_relink_eq_ok hrun with ⟨-, row, -, rfl⟩ | ⟨-, rfl | ⟨-, rfl⟩⟩
  · rw [mem_singleton.mp hp]
  · cases hp
  · rw [mem_singleton.mp hp]

lemma mem_changedCells (hr : r.Proper) (hw : w ∈ r.revision) (hp : p ∈ changedCells w c linked) :
    p ∈ linked.flatten ∨ IsPlain r.table p.1 := by
  rcases mem_append.mp hp with hp | hp
  · exact .inl hp
  · exact .inr (isPlain_of_mem_plainCells (hr.form w hw) (mem_filter.mp hp).1)

lemma spares_changedCells (hr : r.Proper) (hw : w ∈ r.revision)
    (h : List.Forall₂ (fun l ps => exec (relink w.keepsNull c l) s = (.ok ps, s)) w.links linked) :
    Store.Spares r.table (changedCells w c linked) := by
  have hkeys : ∀ p ∈ changedCells w c linked, p.1 ≠ "id" ∧ ∀ q ∈ r.table.parent?, p.1 ≠ q.2 := by
    intro p hp
    rcases mem_changedCells hr hw hp with hp | hpla
    · obtain ⟨l, hl, hcol⟩ := column_of_relink h p hp
      rw [hcol]
      exact (hr.relinks w hw l hl).column
    · exact ⟨hpla.1, hpla.2.1⟩
  exact ⟨get?_eq_none_of_forall fun p hp => (hkeys p hp).1,
    fun q hq => get?_eq_none_of_forall fun p hp => (hkeys p hp).2 q hq⟩

section Cells

variable (h : r.Files l) {u : Value} (hu : u = .null ∨ ∃ a, u = .text a)
include h

variable {token linked parent : Row}

lemma Files.cell_id_fill (htok : ∀ p ∈ token, p.1 = "token")
    (hlin : ∀ p ∈ linked, ∃ l ∈ r.links, p.1 = l.column) (now : Timestamp) (id : String) :
    cell (r.table.fill now id (r.table.stated (newCells r c token linked parent))) "id" = .text id := by
  obtain ⟨d, hd, hname⟩ := h.proper.id
  refine cell_fill_id hd hname now id (get?_eq_none_of_forall fun q hq => ?_)
  rcases mem_newCells h.proper htok (mem_filter.mp hq).1 with rfl | hq | hpla
  · exact h.proper.column.2
  · obtain ⟨l', hl', hcol⟩ := hlin q hq
    rw [hcol]
    exact (h.proper.links l' hl').column.1
  · exact hpla.1

lemma Files.cell_workspace_fill (htok : ∀ p ∈ token, p.1 = "token")
    (hlin : ∀ p ∈ linked, ∃ l ∈ r.links, p.1 = l.column) (hpar : ∃ a, cell parent "id" = .text a)
    (now : Timestamp) (id : String) :
    cell (r.table.fill now id (r.table.stated (newCells r c token linked parent))) "workspace_id" =
      cell parent "id" := by
  obtain ⟨d, hd, hname, -, htar⟩ := exists_parentColumn h.parent?
  rw [← hname]
  refine cell_fill_stated hd (by rw [htar]; rfl) ?_ ?_ (.inr hpar) now id
  · simp [newCells, h.parent, inWorkspace, hname]
  · intro q hq hkey
    rw [hname] at hkey
    rcases mem_newCells h.proper htok hq with rfl | hq | hpla
    · rfl
    · obtain ⟨l', hl', hcol⟩ := hlin q hq
      exact absurd (hcol.symm.trans hkey) ((h.proper.links l' hl').column.2 _ h.parent?)
    · exact absurd hkey (hpla.2.1 _ h.parent?)

include hu

lemma Files.cell_folder_fill (htok : ∀ p ∈ token, p.1 = "token") (hlnk : ∀ p ∈ linked, p.1 ≠ l.column)
    (now : Timestamp) (id : String) :
    cell (r.table.fill now id (r.table.stated (newCells r c token ((l.column, u) :: linked) parent))) l.column = u := by
  obtain ⟨d, hd, hname, htar⟩ := h.column
  obtain ⟨rest, hlin, -⟩ := h.links
  have hl : IsLink r.table l := h.proper.links l (hlin ▸ mem_cons_self)
  rw [← hname]
  refine cell_fill_stated hd (by rw [htar]; rfl) ?_ ?_ hu now id
  · simp [newCells, hname]
  · intro q hq hkey
    rw [hname] at hq hkey
    rcases mem_newCells h.proper htok hq with rfl | hq | hpla
    · rw [h.parent] at hkey
      exact absurd hkey.symm (hl.column.2 _ h.parent?)
    · grind
    · exact absurd hkey (h.ne_of_isPlain hpla)

lemma Files.cell_folder_revise {row : Row} (hrow : r.table.IsRow row) (w : Revision) (linked : List Row)
    (now : Timestamp) : cell (r.table.revise now (changedCells w c ([(l.column, u)] :: linked)) row) l.column = u := by
  obtain ⟨d, hd, hname, htar⟩ := h.column
  have hget : Entries.get? (changedCells w c ([(l.column, u)] :: linked)) d.name = some u := by
    simp [changedCells, Entries.get?, hname]
  have hcell := cell_revise_of_some hrow hd hget now
  rw [hname, kind_of_target hd hd (by rw [htar]; rfl) rfl] at hcell
  rcases hcell with hcell | ⟨hsame, hcell⟩
  · rw [hcell]
    rcases hu with rfl | ⟨a, rfl⟩ <;> rfl
  · rw [hcell]
    rcases hu with rfl | ⟨a, rfl⟩
    · exact same_null_iff.mp hsame
    · exact same_text_iff.mp hsame

omit hu in
lemma Files.cell_folder_revise_of_forall (hw : w ∈ r.revision) {linked : List Row}
    (hlin : ∀ p ∈ linked.flatten, p.1 ≠ l.column) (now : Timestamp) (row : Row) :
    cell (r.table.revise now (changedCells w c linked) row) l.column = cell row l.column := by
  obtain ⟨d, hd, hname, htar⟩ := h.column
  have hcell := cell_revise_of_target hd (by rw [htar]; rfl) now (changedCells w c linked) row
  rw [hname] at hcell
  rcases hcell with hcell | ⟨u, hu, -⟩
  · exact hcell
  · rcases mem_changedCells h.proper hw (Entries.mem_of_get? hu) with hmem | hpla
    · exact absurd rfl (hlin _ hmem)
    · exact absurd rfl (h.ne_of_isPlain hpla)

end Cells

lemma Files.exec_create_eq_ok (h : r.Files l) (hformed : s.store.Formed) (hrun : exec (r.create c) s = (.ok v, s')) :
    ∃ row workspace, s'.store = s.store ++ [⟨r.table, row⟩] ∧ r.table.IsRow row ∧
      (∃ a, cell row "id" = .text a) ∧ s.store.Names .workspaces (c.field "workspace_token") workspace ∧
      cell row "workspace_id" = cell workspace "id" ∧
      ((c.field l.field).truthy = true ∧
          (∃ folder, s.store.Names .folders (c.field l.field) folder ∧ cell row l.column = cell folder "id") ∨
        (c.field l.field).truthy = false ∧ cell row l.column = .null) := by
  obtain ⟨workspace, token, linked, row, hwor, htok, hlin, ⟨now, id, rfl⟩, hsto⟩ :=
    Resource.exec_create_eq_ok hrun
  have hcol := column_of_follow hlin
  rw [h.parent] at hwor
  refine ⟨_, workspace, hsto, isRow_fill _ _ _ _, ⟨id, h.cell_id_fill htok hcol now id⟩, hwor,
    h.cell_workspace_fill htok hcol (hformed.id_of_names (by decide) hwor) now id, ?_⟩
  obtain ⟨rest, hlnk, hrest⟩ := h.links
  rw [hlnk] at hlin
  cases hlin with
  | @cons _ p _ linked' hp hlin' =>
    have hoth : ∀ p ∈ linked', p.1 ≠ l.column := by
      intro p hp
      obtain ⟨l', hl', hclu⟩ := column_of_follow hlin' p hp
      rw [hclu]
      exact hrest l' hl'
    rcases exec_follow_eq_ok hp with ⟨htru, folder, hfol, rfl⟩ | ⟨htru, rfl⟩
    · rw [h.table] at hfol
      exact .inl ⟨htru, folder, hfol,
        h.cell_folder_fill (.inr (hformed.id_of_names (by decide) hfol)) htok hoth now id⟩
    · exact .inr ⟨htru, h.cell_folder_fill (.inl rfl) htok hoth now id⟩

lemma Files.exec_change_eq_ok (h : r.Files l) (hw : w ∈ r.revision) (hformed : s.store.Formed)
    (hrun : exec (r.change w c) s = (.ok v, s')) :
    ∃ row changes, s.store.Names r.table (.text c.param) row ∧ Store.Spares r.table changes ∧
      s'.store = s.store.reviseWhere r.table (holds "id" (cell row "id")) s.world.now changes ∧
      (givesRow w.keepsNull c l = true ∧
          (∃ folder, s.store.Names .folders (c.field l.field) folder ∧
            cell (r.table.revise s.world.now changes row) l.column = cell folder "id") ∨
        givesRow w.keepsNull c l = false ∧
          (cell (r.table.revise s.world.now changes row) l.column = cell row l.column ∨
            w.keepsNull = false ∧ cell (r.table.revise s.world.now changes row) l.column = .null)) := by
  obtain ⟨row, linked, hrow, hlin, hsto⟩ := Resource.exec_change_eq_ok hrun
  refine ⟨row, _, hrow, spares_changedCells h.proper hw hlin, hsto, ?_⟩
  have hisR : r.table.IsRow row := hformed.rows _ (mem_rows.mp (of_select_eq hrow).1)
  obtain ⟨rest, hlnk, hrest⟩ := h.relinks w hw
  rw [hlnk] at hlin
  cases hlin with
  | @cons _ ps _ linked' hps hlin' =>
    rcases exec_relink_eq_ok hps with ⟨hgiv, folder, hfol, rfl⟩ | ⟨hgiv, rfl | ⟨hemp, rfl⟩⟩
    · rw [h.table] at hfol
      exact .inl ⟨hgiv, folder, hfol,
        h.cell_folder_revise (.inr (hformed.id_of_names (by decide) hfol)) hisR w linked' _⟩
    · refine .inr ⟨hgiv, .inl (h.cell_folder_revise_of_forall hw (fun p hp => ?_) _ row)⟩
      obtain ⟨l', hl', hcol⟩ := column_of_relink hlin' p hp
      rw [hcol]
      exact hrest l' hl'
    · exact .inr ⟨hgiv, .inr ⟨hemp, h.cell_folder_revise (.inl rfl) hisR w linked' _⟩⟩

end Resource

def filings : List (Resource × Link) := [(folders, inParentFolder), (costReports, inFolder)]

inductive Misfiles (store : Store) (e : Endpoint) (c : Call) : Prop where
  | made {r : Resource} {l : Link} {workspace folder : Row} (hq : (r, l) ∈ filings) (he : e ∈ r.endpoints)
      (hmethod : e.method = "POST") (hgiven : (c.field l.field).truthy = true)
      (hworkspace : store.Names .workspaces (c.field "workspace_token") workspace)
      (hfolder : store.Names .folders (c.field l.field) folder)
      (hapart : cell workspace "id" ≠ cell folder "workspace_id")
  | moved {r : Resource} {l : Link} {w : Revision} {row folder : Row} (hq : (r, l) ∈ filings) (he : e ∈ r.endpoints)
      (hmethod : e.method = "PUT") (hw : w ∈ r.revision) (hgiven : Resource.givesRow w.keepsNull c l = true)
      (hrow : store.Names r.table (.text c.param) row) (hfolder : store.Names .folders (c.field l.field) folder)
      (hwrong : cell row "workspace_id" ≠ cell folder "workspace_id" ∨
        r.table = .folders ∧ Below (cabinet store).folders (cell row "id") (cell folder "id"))

variable {r : Resource} {l : Link} {store : Store}

lemma files_of_mem (hq : (r, l) ∈ filings) : r.Files l := by
  simp only [filings, mem_cons, Prod.mk.injEq, not_mem_nil, or_false] at hq
  rcases hq with ⟨rfl, rfl⟩ | ⟨rfl, rfl⟩
  · exact {
      proper := proper_of_mem _ (by simp [resources])
      parent := rfl
      table := rfl
      column := by decide
      links := ⟨[], rfl, by simp⟩
      relinks := by
        rintro w ⟨⟩
        exact ⟨[], rfl, by simp⟩
      keeps := by
        rintro - w ⟨⟩
        rfl }
  · exact {
      proper := proper_of_mem _ (by simp [resources])
      parent := rfl
      table := rfl
      column := by decide
      links := ⟨[bySavedFilter], rfl, by decide⟩
      relinks := by
        rintro w ⟨⟩
        exact ⟨[bySavedFilter], rfl, by decide⟩
      keeps := fun hfol => absurd hfol (by decide) }

lemma eq_of_mem_endpoints {r' : Resource} {l' : Link} (hq : (r, l) ∈ filings) (hq' : (r', l') ∈ filings)
    (he : e ∈ r.endpoints) (he' : e ∈ r'.endpoints) : r = r' ∧ l = l' := by
  have hapa : e ∈ folders.endpoints → e ∈ costReports.endpoints → False := by
    intro he he'
    have hpat : ∀ p ∈ [folders.path, folders.path ++ "/:token"],
        ∀ p' ∈ [costReports.path, costReports.path ++ "/:token"], p ≠ p' := by decide
    exact hpat _ (Resource.path_of_mem_endpoints he) _ (Resource.path_of_mem_endpoints he') rfl
  simp only [filings, mem_cons, Prod.mk.injEq, not_mem_nil, or_false] at hq hq'
  grind

variable {x : Filed} {folder row changes : Row} {now : Timestamp} {request : Request}

lemma agrees_iff (hformed : store.Formed) (hfol : folder ∈ store.rows .folders)
    (hpla : x.place = cell folder "id") :
    Agrees (cabinet store).folders x ↔ x.workspace = cell folder "workspace_id" := by
  constructor
  · exact fun hagr => hagr _ (mem_map_of_mem hfol) hpla
  · intro hwor f hf hid
    rw [hformed.cabinet.distinct f hf _ (mem_map_of_mem hfol) (hid.symm.trans hpla), hwor]
    rfl

lemma agrees_of_null (hformed : store.Formed) (hnull : x.place = .null) : Agrees (cabinet store).folders x :=
  fun f hf hid => absurd (hid.symm.trans hnull) (hformed.cabinet.filled f hf)

lemma orderly_append_iff (hq : (r, l) ∈ filings) (hformed : store.Formed)
    (hformed' : Formed (store ++ [⟨r.table, row⟩])) (horderly : (cabinet store).Orderly)
    (hpla : Store.IsPlaced (cabinet store).folders (filed l.column row)) :
    (cabinet (store ++ [⟨r.table, row⟩])).Orderly ↔ Agrees (cabinet store).folders (filed l.column row) := by
  simp only [filings, mem_cons, Prod.mk.injEq, not_mem_nil, or_false] at hq
  rcases hq with ⟨rfl, rfl⟩ | ⟨rfl, rfl⟩
  · refine orderly_added_iff horderly hformed.cabinet hformed'.cabinet ?_ hpla ?_ ?_
    · intro f hf hid
      obtain ⟨row', hrow', rfl⟩ := mem_map.mp hf
      obtain ⟨a, ha⟩ := hformed.id_text (by decide) hrow'
      exact ne_of_hasKey_append (hasKey_of_sound hformed'.sound (by decide)) (mem_rows.mp hrow') ha
        (hid.symm.trans ha)
    · simp [cabinet, filedIn, rows_append, folders, inParentFolder]
    · simp [cabinet, filedIn, rows_append, folders]
  · refine orderly_reports_iff horderly ?_ ?_ ?_
    · simp [cabinet, filedIn, rows_append, costReports]
    · intro y hy
      simpa [cabinet, filedIn, rows_append, costReports, inFolder] using hy
    · simp [cabinet, filedIn, rows_append, costReports, inFolder]

lemma orderly_reviseWhere_iff (hq : (r, l) ∈ filings) (hformed : store.Formed)
    (horderly : (cabinet store).Orderly) (hrow : row ∈ store.rows r.table)
    (hfol : folder ∈ store.rows .folders) (hspa : Store.Spares r.table changes)
    (hcell : cell (r.table.revise now changes row) l.column = cell folder "id") :
    (cabinet (store.reviseWhere r.table (holds "id" (cell row "id")) now changes)).Orderly ↔
      cell row "workspace_id" = cell folder "workspace_id" ∧
        ¬ (r.table = .folders ∧ Below (cabinet store).folders (cell row "id") (cell folder "id")) := by
  have hmov := hformed.moved (files_of_mem hq).proper.key (files_of_mem hq).parent? hrow hspa now l.column
  rw [hcell] at hmov
  simp only [filings, mem_cons, Prod.mk.injEq, not_mem_nil, or_false] at hq
  rcases hq with ⟨rfl, rfl⟩ | ⟨rfl, rfl⟩
  · refine Iff.trans (orderly_moved_iff horderly hformed.cabinet (mem_map_of_mem hrow)
      (mem_map_of_mem hfol) hmov ?_) ?_
    · exact filedIn_reviseWhere_of_ne _ (by decide) _ _ _ _
    · refine and_congr_right fun _ => not_congr ⟨fun hbel => ⟨rfl, hbel⟩, And.right⟩
  · refine Iff.trans (orderly_reports_iff horderly ?_ (fun y hy => ((hmov y).mp hy).imp_left And.left)
      ((hmov _).mpr (.inr rfl))) ((agrees_iff hformed hfol rfl).trans ?_)
    · exact filedIn_reviseWhere_of_ne _ (by decide) _ _ _ _
    · exact ⟨fun hwor => ⟨hwor, fun hfld => absurd hfld.1 (by decide)⟩, And.left⟩

lemma orderly_reviseWhere (hq : (r, l) ∈ filings) (hformed : store.Formed)
    (horderly : (cabinet store).Orderly) (hrow : row ∈ store.rows r.table)
    (hspa : Store.Spares r.table changes)
    (hformed' : (store.reviseWhere r.table (holds "id" (cell row "id")) now changes).Formed)
    (hcell : cell (r.table.revise now changes row) l.column = cell row l.column ∨ r.table ≠ .folders ∧ cell (r.table.revise now changes row) l.column = .null) :
    (cabinet (store.reviseWhere r.table (holds "id" (cell row "id")) now changes)).Orderly := by
  have hmov := hformed.moved (files_of_mem hq).proper.key (files_of_mem hq).parent? hrow hspa now l.column
  refine horderly.of_shrunk hformed.cabinet hformed'.cabinet ?_
  simp only [filings, mem_cons, Prod.mk.injEq, not_mem_nil, or_false] at hq
  rcases hq with ⟨rfl, rfl⟩ | ⟨rfl, rfl⟩
  · have hsta := hcell.resolve_right fun hoth => hoth.1 rfl
    rw [hsta] at hmov
    constructor
    · intro f hf
      rcases (hmov f).mp hf with ⟨hf, -⟩ | rfl
      · exact hf
      · exact mem_map_of_mem hrow
    · intro x hx
      have hsame := filedIn_reviseWhere_of_ne store (show Table.costReports ≠ folders.table by decide)
        (holds "id" (cell row "id")) now changes "folder_id"
      exact ⟨x, (congrArg (x ∈ ·) hsame).mp hx, rfl, rfl, .inl rfl⟩
  · constructor
    · intro f hf
      rwa [cabinet, filedIn_reviseWhere_of_ne _ (by decide)] at hf
    · intro x hx
      rcases (hmov x).mp hx with ⟨hx, -⟩ | rfl
      · exact ⟨x, hx, rfl, rfl, .inl rfl⟩
      · exact ⟨_, mem_map_of_mem hrow, rfl, rfl, hcell.imp_right And.right⟩

section Requests

variable (hq : (r, l) ∈ filings) (hformed : s.store.Formed) (horderly : (cabinet s.store).Orderly)
  (hsou : s'.store.sound = true)
include hq hformed horderly hsou

lemma orderly_iff_of_exec_create (he : e ∈ r.endpoints) (hmet : e.method = "POST")
    (hrun : exec (r.create c) s = (.ok v, s')) :
    s'.store.Formed ∧ ((cabinet s'.store).Orderly ↔ ¬ Misfiles s.store e c) := by
  obtain ⟨row, workspace, hsto, hisR, hid, hwor, hcell, hpla⟩ :=
    (files_of_mem hq).exec_create_eq_ok hformed hrun
  rw [hsto] at hsou ⊢
  have hformed' := hformed.append hsou hisR hid
  refine ⟨hformed', ?_⟩
  rcases hpla with ⟨hgiv, folder, hfol, hpla⟩ | ⟨hgiv, hpla⟩
  · have hmem := (of_select_eq hfol).1
    rw [orderly_append_iff hq hformed hformed' horderly (.inr ⟨_, mem_map_of_mem hmem, hpla.symm⟩),
      agrees_iff hformed hmem hpla]
    constructor
    · intro hagr hmis
      cases hmis with
      | made hq' he' _ _ hwor' hfol' hapa =>
        obtain ⟨rfl, rfl⟩ := eq_of_mem_endpoints hq hq' he he'
        rw [← hwor.eq hwor', ← hfol.eq hfol', ← hcell] at hapa
        exact hapa hagr
      | moved _ _ hmet' => exact absurd (hmet.symm.trans hmet') (by decide)
    · intro hnot
      by_contra hapa
      refine hnot (.made hq he hmet hgiv hwor hfol ?_)
      rwa [← hcell]
  · rw [orderly_append_iff hq hformed hformed' horderly (.inl hpla)]
    refine iff_of_true (agrees_of_null hformed hpla) fun hmis => ?_
    cases hmis with
    | made hq' he' _ hgiv' =>
      obtain ⟨rfl, rfl⟩ := eq_of_mem_endpoints hq hq' he he'
      rw [hgiv] at hgiv'
      cases hgiv'
    | moved _ _ hmet' => exact absurd (hmet.symm.trans hmet') (by decide)

lemma orderly_iff_of_exec_change (he : e ∈ r.endpoints) (hmet : e.method = "PUT") {w : Revision}
    (hw : w ∈ r.revision) (hrun : exec (r.change w c) s = (.ok v, s')) :
    s'.store.Formed ∧ ((cabinet s'.store).Orderly ↔ ¬ Misfiles s.store e c) := by
  obtain ⟨row, changes, hrow, hspa, hsto, hpla⟩ := (files_of_mem hq).exec_change_eq_ok hw hformed hrun
  rw [hsto] at hsou ⊢
  have hformed' := hformed.reviseWhere hspa hsou
  have hmem := (of_select_eq hrow).1
  refine ⟨hformed', ?_⟩
  rcases hpla with ⟨hgiv, folder, hfol, hcell⟩ | ⟨hgiv, hcell⟩
  · rw [orderly_reviseWhere_iff hq hformed horderly hmem (of_select_eq hfol).1 hspa hcell]
    constructor
    · rintro ⟨hwor, hnot⟩ hmis
      cases hmis with
      | made _ _ hmet' => exact absurd (hmet.symm.trans hmet') (by decide)
      | moved hq' he' _ _ _ hrow' hfol' hwro =>
        obtain ⟨rfl, rfl⟩ := eq_of_mem_endpoints hq hq' he he'
        rw [← hrow.eq hrow', ← hfol.eq hfol'] at hwro
        exact hwro.elim (fun hapa => hapa hwor) hnot
    · intro hnot
      by_contra hwro
      rw [not_and_or, not_not] at hwro
      exact hnot (.moved hq he hmet hw hgiv hrow hfol hwro)
  · refine iff_of_true (orderly_reviseWhere hq hformed horderly hmem hspa hformed' ?_) fun hmis => ?_
    · refine hcell.imp_right fun hemp => ⟨?_, hemp.2⟩
      intro hfld
      rw [(files_of_mem hq).keeps hfld w hw] at hemp
      cases hemp.1
    · cases hmis with
      | made _ _ hmet' => exact absurd (hmet.symm.trans hmet') (by decide)
      | moved hq' he' _ hw' hgiv' =>
        obtain ⟨rfl, rfl⟩ := eq_of_mem_endpoints hq hq' he he'
        rw [Option.mem_unique hw hw', hgiv'] at hgiv
        cases hgiv

omit hq in
lemma orderly_of_exec_delete {message : String} (hrun : exec (deletion r.table message c) s = (.ok v, s')) :
    s'.store.Formed ∧ (cabinet s'.store).Orderly := by
  obtain ⟨row, -, hsto⟩ := exec_deletion_eq_ok hrun
  rw [hsto] at hsou ⊢
  have hformed' := hformed.left hsou
  exact ⟨hformed', horderly.of_shrunk hformed.cabinet hformed'.cabinet (shrunk_left _ _ _ _)⟩

end Requests

def Request.IsFiling (request : Request) : Prop :=
  ∀ e params, route endpoints request = .ok (e, params) → ∃ r l, (r, l) ∈ filings ∧ e ∈ r.endpoints

def Request.Misfiles (request : Request) (s : Service) : Prop :=
  ∃ e c v, Served request e c ∧ exec (e.run c) s = (.ok v, (answer endpoints s request).2) ∧
    Api.Misfiles s.store e c

lemma orderly_iff_of_served (hfil : request.IsFiling) (hser : Served request e c)
    (hrun : exec (e.run c) s = (.ok v, s')) (hformed : s.store.Formed) (horderly : (cabinet s.store).Orderly) :
    s'.store.Formed ∧ ((cabinet s'.store).Orderly ↔ ¬ Misfiles s.store e c) := by
  obtain ⟨r, l, hq, he⟩ := hfil e _ hser.route
  have hsou : s'.store.sound = true := by
    have hkee := keepsSound_of_mem (mem_of_route hser.route) c s hformed.sound
    rwa [hrun] at hkee
  have hoth : e.method ≠ "POST" → e.method ≠ "PUT" → ¬ Misfiles s.store e c := by
    intro hpost hput hmis
    cases hmis with
    | made _ _ hmet => exact hpost hmet
    | moved _ _ hmet => exact hput hmet
  rcases Resource.cases_of_mem_endpoints he with ⟨hmet, hlea⟩ | ⟨hmet, hcre⟩ | ⟨hmet, w, hw, hcha⟩ |
      ⟨hmet, message, hdel⟩
  · rw [Leaves.eq hrun]
    exact ⟨hformed, iff_of_true horderly (hoth (by rw [hmet]; decide) (by rw [hmet]; decide))⟩
  · rw [hcre] at hrun
    exact orderly_iff_of_exec_create hq hformed horderly hsou he hmet hrun
  · rw [hcha] at hrun
    exact orderly_iff_of_exec_change hq hformed horderly hsou he hmet hw hrun
  · rw [hdel] at hrun
    obtain ⟨hformed', horderly'⟩ := orderly_of_exec_delete hformed horderly hsou hrun
    exact ⟨hformed', iff_of_true horderly' (hoth (by rw [hmet]; decide) (by rw [hmet]; decide))⟩

lemma done_or_store_eq (s : Service) (request : Request) :
    (∃ e c v, Served request e c ∧ exec (e.run c) s = (.ok v, (answer endpoints s request).2)) ∨
      (answer endpoints s request).2.store = s.store := by
  have hans := answered s request
  generalize answer endpoints s request = answered at hans ⊢
  cases hans with
  | elsewhere | unknown | aside | failed => exact .inr rfl
  | @done e c v s' response hser hrun hrep => exact .inl ⟨e, c, v, hser, hrun⟩

lemma orderly_answer_iff (hfil : request.IsFiling) (hformed : s.store.Formed)
    (horderly : (cabinet s.store).Orderly) : (answer endpoints s request).2.store.Formed ∧
      ((cabinet (answer endpoints s request).2.store).Orderly ↔ ¬ request.Misfiles s) := by
  have hord : (cabinet (answer endpoints s request).2.store).Orderly → ¬ request.Misfiles s := by
    rintro horderly' ⟨e, c, v, hser, hrun, hmis⟩
    exact (orderly_iff_of_served hfil hser hrun hformed horderly).2.mp horderly' hmis
  rcases done_or_store_eq s request with ⟨e, c, v, hser, hrun⟩ | hsto
  · obtain ⟨hformed', hiff⟩ := orderly_iff_of_served hfil hser hrun hformed horderly
    exact ⟨hformed', hord, fun hnot => hiff.mpr fun hmis => hnot ⟨e, c, v, hser, hrun, hmis⟩⟩
  · rw [hsto] at hord ⊢
    exact ⟨hformed, hord, fun _ => horderly⟩

/-- In a run of requests for folders and cost reports, whatever the worlds in which they are made, from folders
that are a forest and everything in a folder of its own workspace: this stays so in all states of the run if
and only if none of the requests misfiles. -/
theorem orderly_iff_not_misfiled (hformed : s.store.Formed) (horderly : (cabinet s.store).Orderly)
    (steps : List (World × Request)) (hfiling : ∀ step ∈ steps, step.2.IsFiling) :
    (∀ earlier later, steps = earlier ++ later → (cabinet (afterSteps s earlier).store).Orderly) ↔
      ∀ earlier w r later, steps = earlier ++ (w, r) :: later →
        ¬ r.Misfiles { afterSteps s earlier with world := w } := by
  induction steps generalizing s with
  | nil =>
    refine iff_of_true (fun earlier later h => ?_) fun earlier w r later h => by simp at h
    rw [(append_eq_nil_iff.mp h.symm).1]
    exact horderly
  | cons step steps ih =>
    obtain ⟨hformed', hiff⟩ := orderly_answer_iff (s := { s with world := step.1 })
      (hfiling step mem_cons_self) hformed horderly
    have hrest : ∀ step ∈ steps, step.2.IsFiling := fun step hstep => hfiling step (mem_cons_of_mem _ hstep)
    constructor
    · intro hall earlier w r later h
      have horderly' := hall [step] steps rfl
      cases earlier with
      | nil =>
        obtain ⟨rfl, -⟩ := List.cons.inj h
        exact hiff.mp horderly'
      | cons first earlier =>
        obtain ⟨rfl, htail⟩ := List.cons.inj h
        refine (ih hformed' horderly' hrest).mp (fun earlier later h => ?_) earlier w r later htail
        exact hall (step :: earlier) later (congrArg _ h)
    · intro hnone earlier later h
      have horderly' := hiff.mpr (hnone [] step.1 step.2 steps rfl)
      cases earlier with
      | nil => exact horderly
      | cons first earlier =>
        obtain ⟨rfl, htail⟩ := List.cons.inj h
        refine (ih hformed' horderly' hrest).mpr (fun earlier w r later h => ?_) earlier later htail
        exact hnone (step :: earlier) w r later (congrArg _ h)

def nestFolder : Request where
  method := "PUT"
  path := "/api/v2/folders/fldr_a"
  body := .object [("parent_folder_token", "fldr_a")]
  credential := sessionOf "a"

def changeFolder : Endpoint := folders.endpoints.get ⟨3, by decide⟩

lemma changeFolder_mem : changeFolder ∈ folders.endpoints := get_mem _ _

lemma route_nestFolder : route endpoints nestFolder = .ok (changeFolder, ["fldr_a"]) := by
  have hpar : changeFolder.params? nestFolder.path = some ["fldr_a"] := by decide
  exact route_of_mem (mem_endpoints_of_resource (by simp [resources]) changeFolder_mem) rfl hpar

lemma isFiling_nestFolder : nestFolder.IsFiling := by
  intro e params hrou
  obtain ⟨rfl, -⟩ : changeFolder = e ∧ ["fldr_a"] = params := by simpa using route_nestFolder.symm.trans hrou
  exact ⟨folders, inParentFolder, mem_cons_self, changeFolder_mem⟩

lemma formed_filedService : filedService.store.Formed where
  sound := by decide
  ids := by
    intro e he _
    simp only [filedService, mem_cons, not_mem_nil, or_false] at he
    rcases he with rfl | rfl | rfl | rfl <;> exact ⟨_, rfl⟩
  rows := by
    intro e he
    simp only [filedService, mem_cons, not_mem_nil, or_false] at he
    rcases he with rfl | rfl | rfl | rfl <;> exact isRow_fill _ _ _ _

lemma orderly_filedService : (cabinet filedService.store).Orderly := by
  refine ⟨?_, ?_, ?_⟩
  · rintro f hf
    obtain rfl := mem_singleton.mp hf
    exact .top mem_cons_self rfl
  · rintro f hf g hg hpla
    obtain rfl := mem_singleton.mp hf
    obtain rfl := mem_singleton.mp hg
    rfl
  · rintro x hx f hf hpla
    obtain rfl := mem_singleton.mp hx
    obtain rfl := mem_singleton.mp hf
    rfl

lemma not_orderly_nestFolder : ¬ (cabinet (afterSteps filedService [(silentWorld, nestFolder)]).store).Orderly := by
  have hwork : ((filedService.transact (changeFolder.work ["fldr_a"] nestFolder (userEntry "a").row)).2.store.rows
      .folders).map (holds "parent_folder_id" "f") = [true] := by decide +kernel
  have hsto : (afterSteps filedService [(silentWorld, nestFolder)]).store =
      (filedService.transact (changeFolder.work ["fldr_a"] nestFolder (userEntry "a").row)).2.store := by
    have hsame : { filedService with world := silentWorld } = filedService := rfl
    have hlast : ∀ s, afterSteps s [] = s := fun _ => rfl
    rw [afterSteps_cons, hlast, hsame, answer_of_user (isElsewhere_of_route route_nestFolder) route_nestFolder rfl
      (exec_currentUser_session rfl rfl)]
  rw [hsto]
  revert hwork
  generalize (filedService.transact (changeFolder.work ["fldr_a"] nestFolder (userEntry "a").row)).2.store = store
  intro hwork horderly
  obtain ⟨row, hrows, hhol⟩ := map_eq_singleton_iff.mp hwork
  have hfol : (cabinet store).folders = [filed "parent_folder_id" row] := by
    rw [cabinet, filedIn, hrows, map_singleton]
  obtain ⟨f, hf, hnull⟩ := (horderly.rooted _ (hfol ▸ mem_cons_self)).exists_top
  rw [hfol, mem_singleton] at hf
  rw [hf] at hnull
  exact Value.noConfusion (hnull.symm.trans (same_text_iff.mp hhol))

theorem orderly_iff_not_misfiled_nested :
    filedService.store.Formed ∧ (cabinet filedService.store).Orderly ∧ nestFolder.IsFiling ∧
      ¬ ∀ earlier w r later, [(silentWorld, nestFolder)] = earlier ++ (w, r) :: later →
        ¬ r.Misfiles { afterSteps filedService earlier with world := w } := by
  refine ⟨formed_filedService, orderly_filedService, isFiling_nestFolder, fun hnone => ?_⟩
  refine not_orderly_nestFolder ((orderly_iff_not_misfiled formed_filedService orderly_filedService _ ?_).mpr hnone
    [(silentWorld, nestFolder)] [] rfl)
  intro step hstep
  obtain rfl := mem_singleton.mp hstep
  exact isFiling_nestFolder

theorem folder_in_itself :
    ∃ (s : Service) (steps : List (World × Request)), s.store.Formed ∧ (cabinet s.store).Orderly ∧
      (∀ step ∈ steps, step.2.IsFiling) ∧ ¬ (cabinet (afterSteps s steps).store).Orderly := by
  refine ⟨filedService, [(silentWorld, nestFolder)], formed_filedService, orderly_filedService, ?_,
    not_orderly_nestFolder⟩
  intro step hstep
  obtain rfl := mem_singleton.mp hstep
  exact isFiling_nestFolder

end Api

end CloudSpend
