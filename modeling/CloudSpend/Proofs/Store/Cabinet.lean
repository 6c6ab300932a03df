import CloudSpend.Proofs.Store.Rows

/-! # Folders and what is filed in them -/

namespace CloudSpend.Store

open List

structure Filed where
  id : Value
  place : Value
  workspace : Value

structure Cabinet where
  folders : List Filed
  reports : List Filed

inductive Rooted (fs : List Filed) : Value → Prop where
  | top {f : Filed} (hf : f ∈ fs) (hplace : f.place = .null) : Rooted fs f.id
  | inside {f : Filed} (hf : f ∈ fs) (hplace : Rooted fs f.place) : Rooted fs f.id

inductive Below (fs : List Filed) (above : Value) : Value → Prop where
  | self : Below fs above above
  | inside {f : Filed} (hf : f ∈ fs) (hplace : Below fs above f.place) : Below fs above f.id

def Distinct (fs : List Filed) : Prop := ∀ f ∈ fs, ∀ g ∈ fs, f.id = g.id → f = g

def IsPlaced (fs : List Filed) (x : Filed) : Prop := x.place = .null ∨ ∃ f ∈ fs, f.id = x.place

section Forest

variable {fs gs : List Filed} {id above : Value}

lemma Rooted.mono (h : Rooted fs id) (hsub : ∀ f ∈ fs, f ∈ gs) : Rooted gs id := by
  induction h with
  | top hf hpla => exact .top (hsub _ hf) hpla
  | inside hf _ ih => exact .inside (hsub _ hf) ih

lemma Rooted.exists_top (h : Rooted fs id) : ∃ f ∈ fs, f.place = .null := by
  induction h with
  | top hf hpla => exact ⟨_, hf, hpla⟩
  | inside _ _ ih => exact ih

lemma Rooted.of_subset (hdis : Distinct fs) (hsub : ∀ g ∈ gs, g ∈ fs) (hpac : ∀ g ∈ gs, IsPlaced gs g)
    (h : Rooted fs id) : ∀ g ∈ gs, g.id = id → Rooted gs id := by
  induction h with
  | @top f hf hpla =>
    intro g hg hid
    obtain rfl := hdis g (hsub g hg) f hf hid
    exact .top hg hpla
  | @inside f hf _ ih =>
    intro g hg hid
    obtain rfl := hdis g (hsub g hg) f hf hid
    rcases hpac g hg with hnull | ⟨p, hp, hpla⟩
    · exact .top hg hnull
    · exact .inside hg (ih p hp hpla)

lemma Below.eq_or_inside (h : Below fs above id) :
    id = above ∨ ∃ f ∈ fs, f.id = id ∧ Below fs above f.place := by
  cases h with
  | self => exact .inl rfl
  | inside hf hpla => exact .inr ⟨_, hf, rfl, hpla⟩

lemma not_below_null (hfil : ∀ f ∈ fs, f.id ≠ .null) (habo : above ≠ .null) : ¬ Below fs above .null := by
  intro h
  rcases h.eq_or_inside with hnull | ⟨f, hf, hid, -⟩
  · exact habo hnull.symm
  · exact hfil f hf hid

variable {x p : Filed}

def Moved (fs gs : List Filed) (x : Filed) (place : Value) : Prop :=
  ∀ y, y ∈ gs ↔ y ∈ fs ∧ y ≠ x ∨ y = { x with place }

section Moved

variable (hdis : Distinct fs) (hx : x ∈ fs) (hp : p ∈ fs) (hmov : Moved fs gs x p.id)
include hmov

lemma Rooted.moved_of_not_below (h : Rooted fs id) (hnot : ¬ Below fs x.id id) : Rooted gs id := by
  have hsta : ∀ f ∈ fs, ¬ Below fs x.id f.id → f ∈ gs := by
    intro f hf hnot
    refine (hmov f).mpr (.inl ⟨hf, ?_⟩)
    rintro rfl
    exact hnot .self
  induction h with
  | top hf hpla => exact .top (hsta _ hf hnot) hpla
  | inside hf _ ih => exact .inside (hsta _ hf hnot) (ih fun hbel => hnot (.inside hf hbel))

lemma Rooted.moved (h : Rooted fs id) (hpla : Rooted fs p.id) (hnot : ¬ Below fs x.id p.id) : Rooted gs id := by
  have hnew : Rooted gs x.id :=
    .inside (f := { x with place := p.id }) ((hmov _).mpr (.inr rfl)) (hpla.moved_of_not_below hmov hnot)
  induction h with
  | @top f hf hnull =>
    by_cases hfx : f = x
    · rwa [hfx]
    · exact .top ((hmov f).mpr (.inl ⟨hf, hfx⟩)) hnull
  | @inside f hf _ ih =>
    by_cases hfx : f = x
    · rwa [hfx]
    · exact .inside ((hmov f).mpr (.inl ⟨hf, hfx⟩)) ih

include hdis hx hp in
lemma Rooted.not_below_of_moved (hfil : ∀ f ∈ fs, f.id ≠ .null) (hbel : Below fs x.id p.id)
    (h : Rooted gs id) : ¬ Below fs x.id id := by
  have hins : ∀ g ∈ fs, g ≠ x → Below fs x.id g.id → Below fs x.id g.place := by
    intro g hg hne hgbe
    rcases hgbe.eq_or_inside with hid | ⟨f, hf, hid, hpla⟩
    · exact absurd (hdis g hg x hx hid) hne
    · rwa [hdis f hf g hg hid] at hpla
  induction h with
  | @top g hg hnull =>
    intro hgbe
    rcases (hmov g).mp hg with ⟨hg, hne⟩ | rfl
    · have hpla := hins g hg hne hgbe
      rw [hnull] at hpla
      exact not_below_null hfil (hfil x hx) hpla
    · exact hfil p hp hnull
  | @inside g hg _ ih =>
    intro hgbe
    rcases (hmov g).mp hg with ⟨hg, hne⟩ | rfl
    · exact ih (hins g hg hne hgbe)
    · exact ih hbel

end Moved

end Forest

def Agrees (fs : List Filed) (x : Filed) : Prop := ∀ f ∈ fs, x.place = f.id → x.workspace = f.workspace

namespace Cabinet

structure Orderly (k : Cabinet) : Prop where
  rooted : ∀ f ∈ k.folders, Rooted k.folders f.id
  folders : ∀ f ∈ k.folders, Agrees k.folders f
  reports : ∀ x ∈ k.reports, Agrees k.folders x

structure Sound (k : Cabinet) : Prop where
  filled : ∀ f ∈ k.folders, f.id ≠ .null
  distinct : Distinct k.folders
  folders : ∀ f ∈ k.folders, IsPlaced k.folders f
  reports : ∀ x ∈ k.reports, IsPlaced k.folders x

structure Shrunk (k k' : Cabinet) : Prop where
  folders : ∀ f ∈ k'.folders, f ∈ k.folders
  reports : ∀ x ∈ k'.reports, ∃ y ∈ k.reports, x.id = y.id ∧ x.workspace = y.workspace ∧
    (x.place = y.place ∨ x.place = .null)

lemma Shrunk.trans {k k' k'' : Cabinet} (h : k.Shrunk k') (h' : k'.Shrunk k'') : k.Shrunk k'' where
  folders f hf := h.folders f (h'.folders f hf)
  reports x hx := by
    obtain ⟨y, hy, hid, hwor, hpla⟩ := h'.reports x hx
    obtain ⟨z, hz, hid', hwor', hpla'⟩ := h.reports y hy
    grind

variable {k k' : Cabinet} {x p : Filed}

lemma Orderly.of_shrunk (h : k.Orderly) (hsou : k.Sound) (hsou' : k'.Sound) (hshr : k.Shrunk k') :
    k'.Orderly where
  rooted f hf := (h.rooted f (hshr.folders f hf)).of_subset hsou.distinct hshr.folders hsou'.folders f hf rfl
  folders f hf g hg := h.folders f (hshr.folders f hf) g (hshr.folders g hg)
  reports x hx f hf hpla := by
    obtain ⟨y, hy, -, hwor, hpla' | hnull⟩ := hshr.reports x hx
    · rw [hwor]
      exact h.reports y hy f (hshr.folders f hf) (hpla' ▸ hpla)
    · exact absurd (hpla.symm.trans hnull) (hsou'.filled f hf)

lemma orderly_reports_iff (h : k.Orderly) (hfol : k'.folders = k.folders)
    (hrep : ∀ y ∈ k'.reports, y ∈ k.reports ∨ y = x) (hx : x ∈ k'.reports) :
    k'.Orderly ↔ Agrees k.folders x := by
  constructor
  · intro h'
    exact hfol ▸ h'.reports x hx
  · intro hagr
    refine ⟨hfol ▸ h.rooted, hfol ▸ h.folders, fun y hy => ?_⟩
    rw [hfol]
    rcases hrep y hy with hy | rfl
    · exact h.reports y hy
    · exact hagr

lemma orderly_added_iff (h : k.Orderly) (hsou : k.Sound) (hsou' : k'.Sound) (hnew : ∀ f ∈ k.folders, f.id ≠ x.id)
    (hpac : IsPlaced k.folders x) (hfol : k'.folders = k.folders ++ [x]) (hrep : k'.reports = k.reports) :
    k'.Orderly ↔ Agrees k.folders x := by
  have hold : ∀ f ∈ k.folders, f ∈ k'.folders := fun f hf => hfol ▸ mem_append_left _ hf
  have hx : x ∈ k'.folders := hfol ▸ mem_append_right _ (mem_singleton_self x)
  have hcas : ∀ f ∈ k'.folders, f ∈ k.folders ∨ f = x := by
    intro f hf
    rw [hfol, mem_append, mem_singleton] at hf
    exact hf
  have hemp : ∀ y, IsPlaced k.folders y → y.place ≠ x.id := by
    intro y hy hpla
    rcases hy with hnull | ⟨f, hf, hid⟩
    · exact hsou'.filled x hx (hpla.symm.trans hnull)
    · exact hnew f hf (hid.trans hpla)
  have hagr : ∀ y, IsPlaced k.folders y → Agrees k.folders y → Agrees k'.folders y := by
    intro y hy hagr f hf hpla
    rcases hcas f hf with hf | rfl
    · exact hagr f hf hpla
    · exact absurd hpla (hemp y hy)
  constructor
  · exact fun h' f hf hpla => h'.folders x hx f (hold f hf) hpla
  · intro hxag
    refine ⟨fun f hf => ?_, fun f hf => ?_, fun y hy => ?_⟩
    · rcases hcas f hf with hf | rfl
      · exact (h.rooted f hf).mono hold
      · rcases hpac with hnull | ⟨p, hp, hpla⟩
        · exact .top hx hnull
        · exact .inside hx (hpla ▸ (h.rooted p hp).mono hold)
    · rcases hcas f hf with hf | rfl
      · exact hagr f (hsou.folders f hf) (h.folders f hf)
      · exact hagr f hpac hxag
    · rw [hrep] at hy
      exact hagr y (hsou.reports y hy) (h.reports y hy)

lemma orderly_moved_iff (h : k.Orderly) (hsou : k.Sound) (hx : x ∈ k.folders) (hp : p ∈ k.folders)
    (hfol : Moved k.folders k'.folders x p.id) (hrep : k'.reports = k.reports) :
    k'.Orderly ↔ x.workspace = p.workspace ∧ ¬ Below k.folders x.id p.id := by
  have hnew : { x with place := p.id } ∈ k'.folders := (hfol _).mpr (.inr rfl)
  have hold : ∀ f ∈ k'.folders, ∃ g ∈ k.folders, g.id = f.id ∧ g.workspace = f.workspace := by
    intro f hf
    rcases (hfol f).mp hf with ⟨hf, -⟩ | rfl
    · exact ⟨f, hf, rfl, rfl⟩
    · exact ⟨x, hx, rfl, rfl⟩
  have hagr : ∀ y, Agrees k.folders y → Agrees k'.folders y := by
    intro y hagr f hf hpla
    obtain ⟨g, hg, hid, hwor⟩ := hold f hf
    rw [← hwor]
    exact hagr g hg (hpla.trans hid.symm)
  constructor
  · intro h'
    refine ⟨?_, fun hbel => ?_⟩
    · by_cases hpx : p = x
      · rw [hpx]
      · exact h'.folders _ hnew p ((hfol p).mpr (.inl ⟨hp, hpx⟩)) rfl
    · exact Rooted.not_below_of_moved hsou.distinct hx hp hfol hsou.filled hbel (h'.rooted _ hnew) .self
  · rintro ⟨hwor, hnot⟩
    refine ⟨fun f hf => ?_, fun f hf => ?_, fun y hy => ?_⟩
    · obtain ⟨g, hg, hid, -⟩ := hold f hf
      rw [← hid]
      exact (h.rooted g hg).moved hfol (h.rooted p hp) hnot
    · rcases (hfol f).mp hf with ⟨hf, -⟩ | rfl
      · exact hagr f (h.folders f hf)
      · refine hagr _ fun g hg hpla => ?_
        rw [← hsou.distinct p hp g hg hpla]
        exact hwor
    · rw [hrep] at hy
      exact hagr y (h.reports y hy)

end Cabinet

def filed (column : String) (row : Row) : Filed := ⟨cell row "id", cell row column, cell row "workspace_id"⟩

def filedIn (s : Store) (t : Table) (column : String) : List Filed := (s.rows t).map (filed column)

def cabinet (s : Store) : Cabinet where
  folders := s.filedIn .folders "parent_folder_id"
  reports := s.filedIn .costReports "folder_id"

lemma filedIn_reviseWhere_of_ne (s : Store) {t u : Table} (h : u ≠ t) (test : Row → Bool) (now : Timestamp)
    (changes : Row) (column : String) : (s.reviseWhere t test now changes).filedIn u column = s.filedIn u column := by
  rw [filedIn, rows_reviseWhere_of_ne s h, filedIn]

structure Formed (s : Store) : Prop where
  sound : s.sound = true
  ids : s.HasIds
  rows : ∀ e ∈ s, e.table.IsRow e.row

section Formed

variable {s : Store} {t : Table} {row changes : Row} {now : Timestamp} {column : String} {test : Row → Bool}

lemma isRow_reviseWhere (h : ∀ e ∈ s, e.table.IsRow e.row) :
    ∀ e ∈ s.reviseWhere t test now changes, e.table.IsRow e.row := by
  intro e he
  obtain ⟨d, hd, rfl⟩ := mem_map.mp he
  split
  · next hcond =>
      obtain ⟨rfl, -⟩ : d.table = t ∧ test d.row = true := by simpa using hcond
      exact isRow_revise (h d hd) now changes
  · exact h d hd

lemma Formed.id_text (h : s.Formed) (hkey : ["id"] ∈ t.keys) (hrow : row ∈ s.rows t) :
    ∃ a, cell row "id" = .text a :=
  h.ids _ (mem_rows.mp hrow) hkey

lemma Formed.id_of_names (h : s.Formed) (hkey : ["id"] ∈ t.keys) {token : Value} (hrow : s.Names t token row) :
    ∃ a, cell row "id" = .text a :=
  h.id_text hkey (of_select_eq hrow).1

lemma Formed.eq_of_id (h : s.Formed) (hkey : ["id"] ∈ t.keys) {row' : Row} (hrow : row ∈ s.rows t)
    (hrow' : row' ∈ s.rows t) (hid : cell row "id" = cell row' "id") : row = row' := by
  obtain ⟨a, ha⟩ := h.id_text hkey hrow'
  exact eq_of_same_id (hasKey_of_sound h.sound hkey) (mem_rows.mp hrow) (mem_rows.mp hrow') (hid.trans ha) ha

lemma Formed.isPlaced (h : s.Formed) (hcol : ∃ c ∈ t.columns, c.name = column ∧ c.target = some .folders)
    (hrow : row ∈ s.rows t) : IsPlaced (s.filedIn .folders "parent_folder_id") (filed column row) := by
  obtain ⟨c, hc, rfl, htar⟩ := hcol
  cases hnull : (cell row c.name).isNull with
  | true => exact .inl (isNull_iff.mp hnull)
  | false =>
    obtain ⟨folder, hfol, hid⟩ := exists_of_sound h.sound (mem_rows.mp hrow) hc htar hnull
    obtain ⟨a, ha⟩ := h.id_text (by decide) (mem_rows.mpr hfol)
    rw [holds, ha, text_same_iff] at hid
    exact .inr ⟨_, mem_map_of_mem (mem_rows.mpr hfol), ha.trans hid.symm⟩

lemma Formed.cabinet (h : s.Formed) : (cabinet s).Sound where
  filled f hf := by
    obtain ⟨row, hrow, rfl⟩ := mem_map.mp hf
    obtain ⟨a, ha⟩ := h.id_text (by decide) hrow
    rw [filed, ha]
    exact Value.noConfusion
  distinct f hf g hg hid := by
    obtain ⟨row, hrow, rfl⟩ := mem_map.mp hf
    obtain ⟨row', hrow', rfl⟩ := mem_map.mp hg
    rw [h.eq_of_id (by decide) hrow hrow' hid]
  folders f hf := by
    obtain ⟨row, hrow, rfl⟩ := mem_map.mp hf
    exact h.isPlaced (by decide) hrow
  reports x hx := by
    obtain ⟨row, hrow, rfl⟩ := mem_map.mp hx
    exact h.isPlaced (by decide) hrow

lemma Formed.append (h : s.Formed) (hsou : Store.sound (s ++ [⟨t, row⟩]) = true) (hrow : t.IsRow row)
    (hid : ∃ a, cell row "id" = .text a) : Formed (s ++ [⟨t, row⟩]) where
  sound := hsou
  ids e he hkey := by
    rcases mem_append.mp he with he | he
    · exact h.ids e he hkey
    · obtain rfl := mem_singleton.mp he
      exact hid
  rows e he := by
    rcases mem_append.mp he with he | he
    · exact h.rows e he
    · obtain rfl := mem_singleton.mp he
      exact hrow

lemma Formed.reviseWhere (h : s.Formed) (hspa : Spares t changes)
    (hsou : (s.reviseWhere t test now changes).sound = true) : (s.reviseWhere t test now changes).Formed where
  sound := hsou
  ids := (descends_reviseWhere s hspa test now).hasIds h.ids
  rows := isRow_reviseWhere h.rows

lemma Formed.left (h : s.Formed) {id : Value} (hsou : (s.left t id now).sound = true) :
    (s.left t id now).Formed where
  sound := hsou
  ids := (descends_left s t id now).hasIds h.ids
  rows := left_induction (P := fun b => ∀ e ∈ b, e.table.IsRow e.row)
    (fun e he => h.rows e (mem_filter.mp he).1) fun _ _ _ _ hb => isRow_reviseWhere hb

lemma Formed.moved (h : s.Formed) (hkey : ["id"] ∈ t.keys) (hpar : t.parent? = some (.workspaces, "workspace_id"))
    (hrow : row ∈ s.rows t) (hspa : Spares t changes) (now : Timestamp) (column : String) :
    Moved (s.filedIn t column) ((s.reviseWhere t (holds "id" (cell row "id")) now changes).filedIn t column)
      (filed column row) (cell (t.revise now changes row) column) := by
  have hrev : filed column (t.revise now changes row) =
      { filed column row with place := cell (t.revise now changes row) column } := by
    rw [filed, cell_revise_of_none (by decide) hspa.1, cell_revise_of_none (by decide) (hspa.2 _ hpar)]
    rfl
  have hhol : ∀ row' ∈ s.rows t, holds "id" (cell row "id") row' = true ↔ row' = row := by
    intro row' hrow'
    obtain ⟨a, ha⟩ := h.id_text hkey hrow
    rw [holds, ha, same_text_iff, ← ha]
    exact ⟨h.eq_of_id hkey hrow' hrow, fun heq => heq ▸ rfl⟩
  intro y
  simp only [filedIn, rows_reviseWhere, map_map, mem_map, Function.comp_apply]
  constructor
  · rintro ⟨row', hrow', rfl⟩
    by_cases heq : row' = row
    · right
      rw [if_pos ((hhol row' hrow').mpr heq), heq, hrev]
    · left
      rw [if_neg (mt (hhol row' hrow').mp heq)]
      exact ⟨⟨row', hrow', rfl⟩, fun hsame => heq (h.eq_of_id hkey hrow' hrow (congrArg Filed.id hsame))⟩
  all_goals grind

end Formed

lemma shrunk_left (s : Store) (t : Table) (id : Value) (now : Timestamp) :
    (cabinet s).Shrunk (cabinet (s.left t id now)) := by
  refine left_induction (P := fun b => (cabinet s).Shrunk (cabinet b)) ?_ fun b q u hq hb => hb.trans ?_
  · have hmem : ∀ {u : Table} {column : String} {x : Filed},
        x ∈ filedIn (s.filter fun e => !e.goesWith t id) u column → x ∈ s.filedIn u column := by
      intro u column x hx
      obtain ⟨row, hrow, rfl⟩ := mem_map.mp hx
      exact mem_map_of_mem ((rows_filter_sublist s _ u).subset hrow)
    exact ⟨fun f hf => hmem hf, fun x hx => ⟨x, hmem hx, rfl, rfl, .inl rfl⟩⟩
  · -- only reports give up a reference, the one to their folder
    have hrel : ∀ u ∈ Table.all, ∀ r ∈ u.released, r.table = .costReports ∧ r.column = "folder_id" := by decide
    obtain ⟨htab, hcol⟩ := hrel u (mem_all u) q.1 hq
    rw [unlink, htab, hcol]
    constructor
    · intro f hf
      rwa [cabinet, filedIn_reviseWhere_of_ne b (by decide)] at hf
    · intro x hx
      simp only [cabinet, filedIn, rows_reviseWhere, map_map] at hx
      obtain ⟨row, hrow, rfl⟩ := mem_map.mp hx
      refine ⟨_, mem_map_of_mem hrow, ?_⟩
      dsimp only [Function.comp_apply]
      split
      · refine ⟨cell_revise_of_none (by decide) rfl now, cell_revise_of_none (by decide) rfl now, ?_⟩
        obtain ⟨c, hc, hname, htar⟩ : ∃ c ∈ Table.columns .costReports, c.name = "folder_id" ∧
          c.target.isSome = true := by decide
        have hcell := cell_revise_of_target hc htar now [("folder_id", .null)] row
        rw [hname] at hcell
        rcases hcell with hcell | ⟨v, hv, hcell⟩
        · exact .inl hcell
        · cases hv
          exact .inr hcell
      · exact ⟨rfl, rfl, .inl rfl⟩

end CloudSpend.Store
