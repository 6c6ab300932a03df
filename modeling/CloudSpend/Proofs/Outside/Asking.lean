import CloudSpend.Proofs.Outside.Run

/-! # Computations that only ask -/

namespace CloudSpend.Run

variable {α β : Type} {w0 : World} {x : Run α} {r : Result α} {f : α → Run β} {k : α → Result β}

def Yields (w0 : World) (x : Run α) (r : Result α) : Prop :=
  ∀ w, settled w = settled w0 → ∃ w', exec x w = (r, w') ∧ settled w' = settled w0

lemma outside_eq_of_settled {w : World} (hw : settled w = settled w0) : w.outside = w0.outside := congrArg (·.2.1) hw

lemma quiet_of_yields {g : World → Result α} (h : ∀ w, Yields w x (g w)) : Quiet x := by
  refine ⟨fun w => ?_⟩
  obtain ⟨w1, hexec, hw1⟩ := h w w rfl
  exact (congrArg (settled ·.2) hexec).trans hw1

lemma yields_liftM (r : Result α) : Yields w0 (liftM r) r := fun w hw => ⟨w, rfl, hw⟩

lemma yields_pure (a : α) : Yields w0 (pure a) (.ok a) := yields_liftM (.ok a)

lemma yields_now : Yields w0 now (.ok w0.now) := by
  intro w hw
  have hnow : w.now = w0.now := congrArg (·.2.2.2) hw
  exact ⟨w, by rw [← hnow]; rfl, hw⟩

lemma yields_callAws {c : AwsCall} {r : Result Value} (h : ∀ log, w0.outside.aws log c = r) :
    Yields w0 (callAws c) r := by
  intro w hw
  exact ⟨_, congrArg (·, _) (outside_eq_of_settled hw ▸ h w.aws), hw⟩

namespace Yields

lemma bind (hx : Yields w0 x r) (hf : ∀ a, r = .ok a → Yields w0 (f a) (k a)) : Yields w0 (x >>= f) (r >>= k) := by
  intro w hw
  obtain ⟨w1, h1, hw1⟩ := hx w hw
  cases r with
  | error e => exact ⟨w1, exec_bind_of_error h1 f, hw1⟩
  | ok a =>
    obtain ⟨w2, h2, hw2⟩ := hf a rfl w1 hw1
    exact ⟨w2, (exec_bind_ok h1 f).trans h2, hw2⟩

lemma bind_ok {a : α} {s : Result β} (hx : Yields w0 x (.ok a)) (hf : Yields w0 (f a) s) : Yields w0 (x >>= f) s :=
  hx.bind (k := fun _ => s) fun b hb => by
    cases hb
    exact hf

lemma mapM {as : List α} (hf : ∀ a ∈ as, Yields w0 (f a) (k a)) : Yields w0 (as.mapM f) (as.mapM k) := by
  induction as with
  | nil => exact yields_pure []
  | cons a as ih =>
    rw [List.mapM_cons, List.mapM_cons]
    refine (hf a List.mem_cons_self).bind fun b _ => (ih fun a ha => hf a (List.mem_cons_of_mem _ ha)).bind ?_
    exact fun bs _ => yields_pure (b :: bs)

lemma mapM_ok {g : α → β} {as : List α} (hf : ∀ a ∈ as, Yields w0 (f a) (.ok (g a))) :
    Yields w0 (as.mapM f) (.ok (as.map g)) := by
  have hall := Yields.mapM (k := fun a => .ok (g a)) hf
  rwa [show as.mapM (fun a => (.ok (g a) : Result β)) = .ok (as.map g) from List.mapM_pure] at hall

lemma orRefused (hx : Yields w0 x r) (refused : α) :
    Yields w0 (orRefused x refused) (match r with
      | .error e => if e.category == .client then .ok refused else .error e
      | .ok a => .ok a) := by
  intro w hw
  obtain ⟨w1, h1, hw1⟩ := hx w hw
  refine ⟨w1, ?_, hw1⟩
  unfold Run.orRefused recoverFrom
  rw [exec_recover, h1]
  cases r with
  | ok a => rfl
  | error e => dsimp only; split <;> rfl

end Yields

end CloudSpend.Run
