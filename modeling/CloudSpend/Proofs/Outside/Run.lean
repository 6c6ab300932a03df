import CloudSpend.Outside.World
import Mathlib.Tactic.Lemma

/-! # Running a computation in a world -/

namespace CloudSpend

section Outcome

variable {σ α β γ : Type} {x : ExceptT Fault (StateM σ) α} {f : α → ExceptT Fault (StateM σ) β} {s s' : σ}

lemma run_bind_of_ok {a : α} (h : x.run.run s = (.ok a, s')) (f : α → ExceptT Fault (StateM σ) β) :
    (x >>= f).run.run s = (f a).run.run s' := by
  change (ExceptT.bindCont f (x.run.run s).1).run (x.run.run s).2 = _
  rw [h]
  rfl

lemma run_bind_of_error {e : Fault} (h : x.run.run s = (.error e, s')) (f : α → ExceptT Fault (StateM σ) β) :
    (x >>= f).run.run s = (.error e, s') := by
  change (ExceptT.bindCont f (x.run.run s).1).run (x.run.run s).2 = _
  rw [h]
  rfl

lemma run_bind_eq_ok {b : β} : (x >>= f).run.run s = (.ok b, s') ↔
    ∃ a s1, x.run.run s = (.ok a, s1) ∧ (f a).run.run s1 = (.ok b, s') := by
  constructor
  · intro h
    rcases hx : x.run.run s with ⟨e | a, s1⟩
    · cases (run_bind_of_error hx f).symm.trans h
    · exact ⟨a, s1, rfl, (run_bind_of_ok hx f).symm.trans h⟩
  · rintro ⟨a, s1, hx, hf⟩
    exact (run_bind_of_ok hx f).trans hf

structure Closed (P : {α : Type} → ExceptT Fault (StateM σ) α → Prop) : Prop where
  pure {α : Type} (a : α) : P (pure a)
  bind {α β : Type} {x : ExceptT Fault (StateM σ) α} {f : α → ExceptT Fault (StateM σ) β} (hx : P x)
    (hf : ∀ a, P (f a)) : P (x >>= f)

namespace Closed

variable {P : {α : Type} → ExceptT Fault (StateM σ) α → Prop} (h : Closed P)

include h

lemma discard (hx : P x) : P (discard x) := h.bind hx fun _ => h.pure PUnit.unit

lemma mapM (hf : ∀ a, P (f a)) (as : List α) : P (as.mapM f) := by
  induction as with
  | nil => exact h.pure []
  | cons a as ih =>
    rw [List.mapM_cons]
    exact h.bind (hf a) fun b => h.bind ih fun bs => h.pure _

lemma filterM {f : α → ExceptT Fault (StateM σ) Bool} (hf : ∀ a, P (f a)) (as : List α) : P (as.filterM f) := by
  have hloop : ∀ as acc, P (List.filterAuxM f as acc) := by
    intro as
    induction as with
    | nil => exact fun acc => h.pure acc
    | cons a as ih =>
      intro acc
      rw [List.filterAuxM]
      exact h.bind (hf a) fun b => ih _
  exact h.bind (hloop as []) fun _ => h.pure _

lemma forIn {f : α → PUnit → ExceptT Fault (StateM σ) (ForInStep PUnit)} {as : List α}
    (hf : ∀ a ∈ as, ∀ b, P (f a b)) : P (forIn as PUnit.unit f) := by
  induction as with
  | nil => exact h.pure _
  | cons a as ih =>
    rw [List.forIn_cons]
    refine h.bind (hf a List.mem_cons_self _) fun r => ?_
    cases r with
    | done b => exact h.pure b
    | yield b => exact ih fun a ha => hf a (List.mem_cons_of_mem _ ha)

end Closed

class Leaves (view : σ → γ) (x : ExceptT Fault (StateM σ) α) : Prop where
  out : ∀ s, view (x.run.run s).2 = view s

variable {view : σ → γ}

instance leaves_pure (a : α) : Leaves view (pure a) := ⟨fun _ => rfl⟩

instance leaves_throw (e : Fault) : Leaves view (throw e : ExceptT Fault (StateM σ) α) := ⟨fun _ => rfl⟩

instance leaves_get : Leaves view (get : ExceptT Fault (StateM σ) σ) := ⟨fun _ => rfl⟩

namespace Leaves

lemma view_eq (hx : Leaves view x) {r : Result α} (h : x.run.run s = (r, s')) : view s' = view s := by
  have hview := hx.out s
  rwa [h] at hview

lemma eq [hx : Leaves (fun s => s) x] {r : Result α} (h : x.run.run s = (r, s')) : s' = s := hx.view_eq h

lemma bind (hx : Leaves view x) (hf : ∀ a, Leaves view (f a)) : Leaves view (x >>= f) := by
  constructor
  intro s
  rcases h : x.run.run s with ⟨e | a, s1⟩
  · rw [run_bind_of_error h f]
    exact hx.view_eq h
  · rw [run_bind_of_ok h f]
    exact ((hf a).out s1).trans (hx.view_eq h)

lemma closed : Closed (Leaves view) := ⟨leaves_pure, bind⟩

lemma of_comp {δ : Type} (hx : Leaves view x) (f : γ → δ) : Leaves (fun s => f (view s)) x :=
  ⟨fun s => congrArg f (hx.out s)⟩

end Leaves

section

variable [hx : Leaves view x]

instance leaves_bind [hf : ∀ a, Leaves view (f a)] : Leaves view (x >>= f) := hx.bind hf

instance (f : α → β) : Leaves view (f <$> x) := by
  rw [map_eq_pure_bind]
  exact leaves_bind

instance : Leaves view (discard x) := Leaves.closed.discard hx

instance {c : Prop} [Decidable c] {y : ExceptT Fault (StateM σ) α} [Leaves view y] : Leaves view (if c then x else y) := by
  split <;> assumption

end

instance [hf : ∀ a, Leaves view (f a)] (as : List α) : Leaves view (as.mapM f) := Leaves.closed.mapM hf as

instance {f : α → ExceptT Fault (StateM σ) Bool} [hf : ∀ a, Leaves view (f a)] (as : List α) :
    Leaves view (as.filterM f) := Leaves.closed.filterM hf as

instance {f : α → PUnit → ExceptT Fault (StateM σ) (ForInStep PUnit)} [hf : ∀ a b, Leaves view (f a b)] (as : List α) :
    Leaves view (forIn as PUnit.unit f) := Leaves.closed.forIn fun a _ => hf a

def Ignores (φ : σ → σ) (x : ExceptT Fault (StateM σ) α) : Prop :=
  ∀ s, x.run.run (φ s) = ((x.run.run s).1, φ (x.run.run s).2)

variable {φ : σ → σ}

lemma ignores_pure (a : α) : Ignores φ (pure a) := fun _ => rfl

lemma ignores_throw (e : Fault) : Ignores φ (throw e : ExceptT Fault (StateM σ) α) := fun _ => rfl

namespace Ignores

lemma bind (hx : Ignores φ x) (hf : ∀ a, Ignores φ (f a)) : Ignores φ (x >>= f) := by
  intro s
  have hφ := hx s
  rcases h : x.run.run s with ⟨e | a, t⟩ <;> rw [h] at hφ
  · rw [run_bind_of_error hφ, run_bind_of_error h]
  · rw [run_bind_of_ok hφ, run_bind_of_ok h]
    exact hf a t

lemma closed : Closed (Ignores φ) := ⟨ignores_pure, bind⟩

lemma discard (hx : Ignores φ x) : Ignores φ (discard x) := closed.discard hx

end Ignores

end Outcome

namespace Run

variable {α β : Type}

def exec (x : Run α) (w : World) : Result α × World := x.run.run w

@[simp] lemma exec_pure (a : α) (w : World) : exec (pure a) w = (.ok a, w) := rfl

@[simp] lemma exec_throw (e : Fault) (w : World) : exec (throw e : Run α) w = (.error e, w) := rfl

@[simp] lemma exec_get (w : World) : exec get w = (.ok w, w) := rfl

@[simp] lemma exec_set (w w' : World) : exec (set w') w = (.ok ⟨⟩, w') := rfl

@[simp] lemma exec_modify (f : World → World) (w : World) : exec (modify f) w = (.ok ⟨⟩, f w) := rfl

@[simp] lemma exec_liftM (r : Result α) (w : World) : exec (liftM r) w = (r, w) := rfl

@[simp] lemma exec_today (w : World) : exec today w = (.ok w.now.date, w) := rfl

variable {x : Run α} {w w' : World} {f : α → Run β} {handle : Fault → Run α}

lemma exec_bind_ok {a : α} (h : exec x w = (.ok a, w')) (f : α → Run β) : exec (x >>= f) w = exec (f a) w' :=
  run_bind_of_ok h f

lemma exec_bind_of_error {e : Fault} (h : exec x w = (.error e, w')) (f : α → Run β) :
    exec (x >>= f) w = (.error e, w') := run_bind_of_error h f

lemma exec_bind (x : Run α) (f : α → Run β) (w : World) :
    exec (x >>= f) w = match exec x w with
      | (.ok a, w') => exec (f a) w'
      | (.error e, w') => (.error e, w') := by
  rcases h : exec x w with ⟨e | a, w'⟩
  · exact exec_bind_of_error h f
  · exact exec_bind_ok h f

lemma exec_bind_eq_ok {b : β} : exec (x >>= f) w = (.ok b, w') ↔
    ∃ a w1, exec x w = (.ok a, w1) ∧ exec (f a) w1 = (.ok b, w') := run_bind_eq_ok

lemma exec_liftM_bind_eq_ok {r : Result α} {b : β} (h : exec (liftM r >>= f) w = (.ok b, w')) :
    ∃ a, r = .ok a ∧ exec (f a) w = (.ok b, w') := by
  obtain ⟨a, w1, hr, h⟩ := exec_bind_eq_ok.mp h
  cases hr
  exact ⟨a, rfl, h⟩

@[simp] lemma exec_attempt (x : Run α) (w : World) :
    exec (attempt x) w = (.ok (exec x w).1, (exec x w).2) := rfl

lemma exec_recover (x : Run α) (handle : Fault → Run α) (w : World) :
    exec (recover x handle) w = match exec x w with
      | (.ok a, w') => (.ok a, w')
      | (.error e, w') => exec (handle e) w' := by
  unfold recover
  rw [exec_bind, exec_attempt]
  rcases exec x w with ⟨a | e, w'⟩ <;> rfl

section Leaves

variable {γ : Type} {view : World → γ}

instance [hx : Leaves view x] : Leaves view (attempt x) := ⟨hx.out⟩

instance leaves_recover [Leaves view x] [hhan : ∀ e, Leaves view (handle e)] : Leaves view (recover x handle) := by
  refine Leaves.bind (x := attempt x) inferInstance fun r => ?_
  cases r with
  | ok a => exact leaves_pure a
  | error e => exact hhan e

instance [Leaves view x] [∀ e, Leaves view (handle e)] {category : Fault.Category} :
    Leaves view (recoverFrom category x handle) := by
  unfold recoverFrom
  infer_instance

instance leaves_liftM (r : Result α) : Leaves view (liftM r : Run α) := ⟨fun _ => rfl⟩

lemma leaves_get_set {f : World → World} {g : World → Run α} (hf : ∀ w, view (f w) = view w)
    [hg : ∀ w, Leaves view (g w)] :
    Leaves view (do
      let w ← get
      set (f w)
      g w) := ⟨fun w => ((hg w).out (f w)).trans (hf w)⟩

lemma leaves_sendTo {answers : List Web.Request → Web.Request → Result Web.Reply} {r : Web.Request}
    (h : ∀ w : World, view { w with web := w.web ++ [r] } = view w) : Leaves view (sendTo answers r) :=
  leaves_get_set h

instance leaves_namesWith (p : Storage.Path) (ending : String) : Leaves view (namesWith p ending) := by
  refine Leaves.bind (leaves_get.bind fun _ => leaves_liftM _) fun content => ?_
  split <;> infer_instance

end Leaves

def settled (w : World) : Storage.Files × Outside × List Billing.Table × Timestamp :=
  (w.files, w.outside, w.tables, w.now)

abbrev Quiet (x : Run α) : Prop := Leaves settled x

namespace Quiet

variable [hx : Quiet x] {r : Result α}

lemma files_eq (h : exec x w = (r, w')) : w'.files = w.files := congrArg Prod.fst (hx.view_eq h)

lemma outside_eq (h : exec x w = (r, w')) : w'.outside = w.outside := congrArg (·.2.1) (hx.view_eq h)

lemma tables_eq (h : exec x w = (r, w')) : w'.tables = w.tables := congrArg (·.2.2.1) (hx.view_eq h)

end Quiet

instance quiet_sendTo (answers : List Web.Request → Web.Request → Result Web.Reply) (r : Web.Request) :
    Quiet (sendTo answers r) := leaves_sendTo fun _ => rfl

instance quiet_send (r : Web.Request) : Quiet (send r) := leaves_bind

instance quiet_sendOk (r : Web.Request) : Quiet (sendOk r) := by
  unfold sendOk success
  infer_instance

instance quiet_sendJson (r : Web.Request) : Quiet (sendJson r) := leaves_bind

instance quiet_callAws (c : AwsCall) : Quiet (callAws c) := leaves_get_set fun _ => rfl

instance quiet_aws (service name : String) (region : Value) (args : Row) : Quiet (aws service name region args) :=
  quiet_callAws _

instance quiet_openSession (args : Row) : Quiet (openSession args) := ⟨fun _ => rfl⟩

instance quiet_awsPages (service name : String) (region : Value) (args : Row) :
    Quiet (awsPages service name region args) := leaves_bind

instance quiet_orRefused [Quiet x] (refused : α) : Quiet (orRefused x refused) := by
  unfold orRefused
  infer_instance

instance quiet_today : Quiet today := leaves_bind

instance quiet_now : Quiet now := leaves_bind

instance quiet_disconnect : Quiet disconnect := ⟨fun _ => rfl⟩

instance quiet_noteSnowflake (v : Value) : Quiet (noteSnowflake v) := ⟨fun _ => rfl⟩

instance quiet_noteCloud (v : Value) : Quiet (noteCloud v) := ⟨fun _ => rfl⟩

lemma leaves_connectOnce {γ : Type} {view : World → γ} {x : Run Unit} [hx : Leaves view x]
    (hview : ∀ w : World, view { w with connected := true } = view w) : Leaves view (connectOnce x) := by
  refine leaves_get.bind fun w => ?_
  split
  · exact hx.bind fun _ => ⟨hview⟩
  · exact leaves_pure _

instance quiet_connectOnce {x : Run Unit} [Quiet x] : Quiet (connectOnce x) := leaves_connectOnce fun _ => rfl

lemma exec_noteCloud (v : Value) (w : World) :
    exec (noteCloud v) w = (.ok ⟨⟩, { w with clouds := w.clouds ++ [v] }) := rfl

lemma exists_exec_connectOnce {x : Run Unit} (hx : ∀ w, ∃ w1, exec x w = (.ok (), w1)) (w : World) :
    ∃ w1, exec (connectOnce x) w = (.ok (), w1) := by
  unfold connectOnce
  rw [exec_bind_ok (exec_get w)]
  split
  · obtain ⟨w1, h1⟩ := hx w
    rw [exec_bind_ok h1]
    exact ⟨_, exec_modify _ _⟩
  · exact ⟨w, rfl⟩

section

variable {γ : Type} {view : World → γ}

instance leaves_contentAt (p : Storage.Path) (name : String) : Leaves view (contentAt p name) := by
  refine leaves_get.bind fun w => ?_
  dsimp only
  split
  · exact leaves_throw _
  · split <;> infer_instance

instance leaves_readText (p : Storage.Path) (name : String) : Leaves view (readText p name) := by
  refine (leaves_contentAt p name).bind fun c => ?_
  cases c <;> infer_instance

instance leaves_readFile (name : String) : Leaves view (readFile name) := by
  refine (leaves_contentAt _ name).bind fun c => ?_
  split
  · split <;> infer_instance
  · exact leaves_readText _ name

instance leaves_look (p : Storage.Path) : Leaves view (look p) := leaves_bind

end

end Run

end CloudSpend
