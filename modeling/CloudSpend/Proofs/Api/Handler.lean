import CloudSpend.Api.Endpoint
import CloudSpend.Proofs.Outside.Run

/-! # Running a handler -/

namespace CloudSpend.Handler

variable {α β : Type}

def exec (h : Handler α) (s : Service) : Result α × Service := h.run.run s

@[simp] lemma exec_pure (a : α) (s : Service) : exec (pure a) s = (.ok a, s) := rfl

@[simp] lemma exec_throw (e : Fault) (s : Service) : exec (throw e : Handler α) s = (.error e, s) := rfl

@[simp] lemma exec_get (s : Service) : exec (getThe Service) s = (.ok s, s) := rfl

@[simp] lemma exec_modify (f : Service → Service) (s : Service) :
    exec (modifyThe Service f) s = (.ok ⟨⟩, f s) := rfl

@[simp] lemma exec_liftM_result (r : Result α) (s : Service) : exec (liftM r) s = (r, s) := rfl

@[simp] lemma exec_liftM_run (x : Run α) (s : Service) :
    exec (liftM x) s = ((x.exec s.world).1, { s with world := (x.exec s.world).2 }) := rfl

variable {x : Handler α} {a : α} {s s' : Service} {e : Fault}

lemma exec_bind_ok (h : exec x s = (.ok a, s')) (f : α → Handler β) : exec (x >>= f) s = exec (f a) s' :=
  run_bind_of_ok h f

lemma exec_bind_of_error (h : exec x s = (.error e, s')) (f : α → Handler β) :
    exec (x >>= f) s = (.error e, s') := run_bind_of_error h f

lemma exec_bind (x : Handler α) (f : α → Handler β) (s : Service) :
    exec (x >>= f) s = match exec x s with
      | (.ok a, s') => exec (f a) s'
      | (.error e, s') => (.error e, s') := by
  rcases h : exec x s with ⟨e | a, s'⟩
  · exact exec_bind_of_error h f
  · exact exec_bind_ok h f

lemma exec_discard_of_ok (h : exec x s = (.ok a, s')) : exec (discard x) s = (.ok ⟨⟩, s') := by
  have hdis : Functor.discard x = x >>= fun _ => pure ⟨⟩ := rfl
  rw [hdis, exec_bind_ok h]
  rfl

lemma exec_bind_eq_ok {f : α → Handler β} {b : β} : exec (x >>= f) s = (.ok b, s') ↔
    ∃ a s1, exec x s = (.ok a, s1) ∧ exec (f a) s1 = (.ok b, s') := run_bind_eq_ok

lemma exec_liftM_bind_eq_ok {r : Result α} {f : α → Handler β} {b : β}
    (h : exec (liftM r >>= f) s = (.ok b, s')) : ∃ a, r = .ok a ∧ exec (f a) s = (.ok b, s') := by
  obtain ⟨a, s1, hr, h⟩ := exec_bind_eq_ok.mp h
  cases hr
  exact ⟨a, rfl, h⟩

lemma transact_of_ok (h : exec x s = (.ok a, s')) : s.transact x = (.ok a, s') := by
  rw [exec] at h
  rw [Service.transact, h]

lemma transact_of_error (h : exec x s = (.error e, s')) :
    s.transact x = (.error e, { s' with store := s.store }) := by
  rw [exec] at h
  rw [Service.transact, h]

@[simp] lemma exec_now (s : Service) : exec now s = (.ok s.world.now, s) := rfl

@[simp] lemma exec_today (s : Service) : exec today s = (.ok s.world.now.date, s) := rfl

lemma exec_liftM_of_eq {r r' : Result α} (h : r = r') (s : Service) : exec (liftM r) s = (r', s) := by
  rw [h, exec_liftM_result]

@[simp] lemma exec_rows (t : Store.Table) (test : Row → Bool) (s : Service) :
    exec (rows t test) s = (.ok (s.store.select t test), s) := rfl

lemma readable_of_strangeWord? {t : Store.Table} {rows : List Row} (h : ∀ row ∈ rows, t.strangeWord? row = none) :
    t.readable rows = .ok rows := by
  simp only [Store.Table.readable, List.findSome?_eq_none_iff.mpr h]

lemma exec_select {t : Store.Table} {test : Row → Bool}
    (h : ∀ row ∈ s.store.rows t, test row = true → t.strangeWord? row = none) :
    exec (select t test) s = (.ok (s.store.select t test), s) := by
  unfold select
  rw [exec_bind_ok (exec_rows t test s)]
  refine exec_liftM_of_eq (readable_of_strangeWord? fun row hrow => ?_) s
  obtain ⟨hmem, htest⟩ := List.mem_filter.mp hrow
  exact h row hmem htest

lemma exec_change (f : Store → Result Store) (s : Service) :
    exec (change f) s = match f s.store with
      | .ok store => (.ok (), { s with store })
      | .error e => (.error e, s) := by
  unfold change
  rw [exec_bind, exec_get]
  dsimp only
  rw [exec_bind, exec_liftM_result]
  cases f s.store <;> rfl

lemma exec_change_eq_ok {f : Store → Result Store} {u : Unit} (h : exec (change f) s = (.ok u, s')) :
    ∃ store, f s.store = .ok store ∧ s' = { s with store } := by
  rw [exec_change] at h
  grind

section Reading

variable {γ : Type} {view : Service → γ}

lemma leaves_of_exec (h : ∀ s, view (exec x s).2 = view s) : Leaves view x := ⟨h⟩

instance leaves_now : Leaves view now := ⟨fun _ => rfl⟩

instance leaves_today : Leaves view today := ⟨fun _ => rfl⟩

instance leaves_result (r : Result α) : Leaves view (liftM r : Handler α) := ⟨fun _ => rfl⟩

instance leaves_rows (t : Store.Table) (test : Row → Bool) : Leaves view (rows t test) := ⟨fun _ => rfl⟩

instance leaves_select (t : Store.Table) (test : Row → Bool) : Leaves view (select t test) := ⟨fun _ => rfl⟩

instance leaves_only? (rs : List Row) : Leaves view (only? rs) := by
  unfold only?
  split <;> infer_instance

instance leaves_found (what : String) (row? : Option Row) : Leaves view (found what row?) := by
  cases row? with
  | none => exact leaves_throw _
  | some row => exact leaves_pure _

instance leaves_find? (t : Store.Table) (column : String) (v : Value) : Leaves view (find? t column v) := leaves_bind

instance leaves_byId (t : Store.Table) (what id : String) : Leaves view (byId t what id) := leaves_bind

instance leaves_requireStorable (row : Row) : Leaves view (requireStorable row) := by
  unfold requireStorable
  dsimp only
  infer_instance

instance leaves_reread (t : Store.Table) (row : Row) : Leaves view (reread t row) := by
  unfold reread
  infer_instance

end Reading

lemma leaves_update_of_change {γ : Type} {view : Service → γ} (t : Store.Table) (row changes : Row)
    [∀ time, Leaves view (change fun s => s.update t (Store.cell row "id") time changes)] :
    Leaves view (update t row changes) := leaves_bind

instance leaves_world_change (f : Store → Result Store) : Leaves Service.world (change f) := by
  refine leaves_of_exec fun s => ?_
  rw [exec_change]
  cases f s.store <;> rfl

instance leaves_world_update (t : Store.Table) (row changes : Row) : Leaves Service.world (update t row changes) :=
  leaves_bind

lemma exec_takesId (c : Bool) (s : Service) : ∃ id w, w.now = s.world.now ∧
    exec (if c then newId else pure "") s = (.ok id, { s with world := w }) := by
  cases c with
  | false => exact ⟨"", s.world, rfl, rfl⟩
  | true => exact ⟨_, { s.world with ids := s.world.ids + 1 }, rfl, rfl⟩

lemma exec_ite_bind_of_ok {c : Prop} [Decidable c] {y : Handler α}
    (h : exec (if c then x else y) s = (.ok a, s')) (f : α → Handler β) :
    exec (if c then x >>= f else y >>= f) s = exec (f a) s' := by
  split at h
  · rw [if_pos ‹c›, exec_bind_ok h]
  · rw [if_neg ‹¬c›, exec_bind_ok h]

lemma exec_place (t : Store.Table) (given : Row) (s : Service) : ∃ id w, w.now = s.world.now ∧
    ((∃ e, exec (place t given) s = (.error e, { s with world := w })) ∨
      ∃ store, (s.store.insert t (t.fill s.world.now id given) = .ok store ∧
          t.misfit? (t.fill s.world.now id given) = none) ∧
        exec (place t given) s = (.ok (t.fill s.world.now id given), { s with world := w, store })) := by
  obtain ⟨id, w, hnow, hid⟩ := exec_takesId (t.takesId given) s
  refine ⟨id, w, hnow, ?_⟩
  unfold place
  dsimp only
  rw [exec_ite_bind_of_ok hid]
  unfold requireStorable
  dsimp only
  split
  · rw [exec_bind_ok (exec_pure _ _), exec_bind_ok (exec_now _)]
    dsimp only
    rw [hnow]
    split
    · exact .inl ⟨_, rfl⟩
    · next hfits =>
        rw [exec_bind, exec_change]
        cases s.store.insert t (t.fill s.world.now id given) with
        | error e => exact .inl ⟨e, rfl⟩
        | ok store => exact .inr ⟨store, ⟨rfl, Option.eq_none_iff_forall_ne_some.mpr hfits⟩, rfl⟩
  · exact .inl ⟨_, rfl⟩

end CloudSpend.Handler
