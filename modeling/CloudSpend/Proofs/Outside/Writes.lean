import CloudSpend.Proofs.Source.Keep
import CloudSpend.Proofs.Storage.Written

/-! # What a computation writes -/

namespace CloudSpend.Run

open List
open Storage

variable {α β : Type} {In : Path → Prop} {w : World}

def Writes (In : Path → Prop) (x : Run α) (w : World) (post : α → World → List Writing → Prop) : Prop :=
  ∃ ws, (∀ e ∈ ws, In e.path) ∧ Files.Written w.files ws (exec x w).2.files ∧
    ∀ a, (exec x w).1 = .ok a → post a (exec x w).2 ws

variable {x : Run α} {post : β → World → List Writing → Prop} {f : α → Run β}
  {mid : α → World → List Writing → Prop} {I : World → Prop} {as : List α} {place : List String} {n : String}

lemma Writes.mono {post post' : α → World → List Writing → Prop} (h : Writes In x w post)
    (himp : ∀ a w' ws, post a w' ws → post' a w' ws) : Writes In x w post' := by
  obtain ⟨ws, hin, hwri, hpost⟩ := h
  exact ⟨ws, hin, hwri, fun a ha => himp a _ ws (hpost a ha)⟩

lemma Writes.bind (hx : Writes In x w mid)
    (hf : ∀ a w1 vs, Files.Written w.files vs w1.files → mid a w1 vs → Writes In (f a) w1 fun b w2 ws => post b w2 (vs ++ ws)) :
    Writes In (x >>= f) w post := by
  obtain ⟨vs, hin, hwri, hmid⟩ := hx
  unfold Writes
  rw [exec_bind]
  rcases hrun : exec x w with ⟨e | a, w1⟩
  · rw [hrun] at hwri
    exact ⟨vs, hin, hwri, fun b hb => by cases hb⟩
  · rw [hrun] at hwri hmid
    obtain ⟨ws, hin', hwri', hpost⟩ := hf a w1 vs hwri (hmid a rfl)
    refine ⟨vs ++ ws, fun e he => ?_, hwri.append hwri', hpost⟩
    rcases mem_append.mp he with he | he
    · exact hin e he
    · exact hin' e he

lemma writes_pure {a : α} {post : α → World → List Writing → Prop} (h : post a w []) : Writes In (pure a) w post :=
  ⟨[], fun _ he => absurd he not_mem_nil, .refl _, fun _ hb => Except.ok.inj hb ▸ h⟩

lemma Quiet.writes (hx : Quiet x) (In : Path → Prop) (w : World) :
    Writes In x w fun a w' ws => exec x w = (.ok a, w') ∧ ws = [] := by
  refine ⟨[], fun e he => absurd he not_mem_nil, ?_, fun a ha => ⟨Prod.ext ha rfl, rfl⟩⟩
  have hfil : (exec x w).2.files = w.files := congrArg Prod.fst (hx.out w)
  rw [hfil]
  exact .refl _

lemma Writes.quiet_bind [hx : Quiet x] (hf : ∀ a w1, exec x w = (.ok a, w1) → Writes In (f a) w1 post) :
    Writes In (x >>= f) w post := by
  refine (hx.writes In w).bind ?_
  rintro a w1 _ - ⟨hrun, rfl⟩
  exact hf a w1 hrun

lemma Writes.liftM_bind {r : Result α} (hf : ∀ a, r = .ok a → Writes In (f a) w post) :
    Writes In ((liftM r : Run α) >>= f) w post := by
  refine .quiet_bind fun a w1 hrun => ?_
  rw [exec_liftM] at hrun
  obtain ⟨hr, rfl⟩ := Prod.mk.inj hrun
  exact hf a hr

lemma Writes.bind_quiet (hx : Writes In x w mid) [hf : ∀ a, Quiet (f a)]
    (himp : ∀ a w1 ws b w2, mid a w1 ws → exec (f a) w1 = (.ok b, w2) → post b w2 ws) :
    Writes In (x >>= f) w post := by
  refine hx.bind fun a w1 vs _ hmid => ((hf a).writes In w1).mono ?_
  grind

lemma Writes.attempt {post : α → World → List Writing → Prop} (hx : Writes In x w post) :
    Writes In (attempt x) w fun r w' ws => ∀ a, r = .ok a → post a w' ws := by
  obtain ⟨ws, hin, hwri, hpost⟩ := hx
  refine ⟨ws, hin, hwri, fun r hr a ha => ?_⟩
  rw [exec_attempt] at hr ⊢
  exact hpost a ((Except.ok.inj hr).trans ha)

lemma Writes.recover {post : α → World → List Writing → Prop} (hx : Writes In x w post) (answer : Fault → α) :
    Writes In (recover x fun e => pure (answer e)) w fun a w' ws => post a w' ws ∨ ∃ e, a = answer e := by
  refine hx.attempt.bind fun r w1 ws _ hmid => ?_
  cases r with
  | ok a => exact writes_pure (.inl (by simpa using hmid a rfl))
  | error e => exact writes_pure (.inr ⟨e, rfl⟩)

lemma writes_mapM {R : β → List Writing → Prop}
    (hf : ∀ a ∈ as, ∀ w, I w → Writes In (f a) w fun b w' ws => I w' ∧ R b ws) (hw : I w) :
    Writes In (as.mapM f) w fun bs w' ws => I w' ∧ ∃ wss, List.Forall₂ R bs wss ∧ ws = wss.flatten := by
  induction as generalizing w with
  | nil =>
    rw [mapM_nil]
    exact writes_pure ⟨hw, [], .nil, rfl⟩
  | cons a as ih =>
    rw [mapM_cons]
    refine (hf a mem_cons_self w hw).bind ?_
    rintro b w1 vs - ⟨hw1, hb⟩
    refine (ih (fun a' ha' => hf a' (mem_cons_of_mem _ ha')) hw1).bind_quiet ?_
    rintro bs w2 ws _ w3 ⟨hw2, wss, hbs, rfl⟩ hrun
    cases hrun
    exact ⟨hw2, vs :: wss, .cons hb hbs, rfl⟩

lemma writes_forIn {f : α → Run PUnit}
    (hf : ∀ a ∈ as, ∀ w, I w → Writes In (f a) w fun _ w' ws => I w' ∧ ws.length = 1) (hw : I w) :
    Writes In (forIn as PUnit.unit fun a _ => do
      f a
      pure (.yield PUnit.unit)) w fun _ w' ws => I w' ∧ ws.length = as.length := by
  induction as generalizing w with
  | nil =>
    rw [forIn_nil]
    exact writes_pure ⟨hw, rfl⟩
  | cons a as ih =>
    rw [forIn_cons, bind_assoc]
    refine (hf a mem_cons_self w hw).bind ?_
    rintro _ w1 vs - ⟨hw1, hlen⟩
    rw [pure_bind]
    refine (ih (fun a' ha' => hf a' (mem_cons_of_mem _ ha')) hw1).mono ?_
    grind

lemma writes_filterM {f : α → Run Bool}
    (hf : ∀ a ∈ as, ∀ w, I w → Writes In (f a) w fun b w' ws => I w' ∧ ws.length = b.toNat) (hw : I w) :
    Writes In (as.filterM f) w fun bs w' ws => I w' ∧ ws.length = bs.length := by
  have hloop : ∀ (as acc : List α) (w : World), I w →
      (∀ a ∈ as, ∀ w, I w → Writes In (f a) w fun b w' ws => I w' ∧ ws.length = b.toNat) →
      Writes In (filterAuxM f as acc) w fun bs w' ws => I w' ∧ acc.length + ws.length = bs.length := by
    intro as
    induction as with
    | nil => exact fun acc w hw _ => writes_pure ⟨hw, rfl⟩
    | cons a as ih =>
      intro acc w hw hf
      rw [filterAuxM]
      refine (hf a mem_cons_self w hw).bind ?_
      grind
  refine (hloop as [] w hw hf).bind_quiet ?_
  rintro bs w1 ws _ w2 ⟨hw1, hlen⟩ hrun
  cases hrun
  exact ⟨hw1, by simpa using hlen⟩

lemma writes_makeDirectory {parts : List String} (hpar : ∀ n ∈ parts, Path.IsName n ∧ n ≠ "..")
    (In : Path → Prop) (w : World) :
    Writes In (makeDirectory ⟨"", parts⟩) w fun _ w' ws => w'.files.isDirectory parts = true ∧ ws = [] := by
  have hdots : ".." ∉ parts := fun hmem => (hpar _ hmem).2 rfl
  unfold Writes
  rw [exec_makeDirectory]
  refine ⟨[], fun e he => absurd he not_mem_nil,
    Files.written_makeDirectories _ _ fun n hn => (hpar n hn).1, fun _ hmade => ⟨?_, rfl⟩⟩
  exact Files.isDirectory_of_get? (Files.makeDirectories_spec (Nat.lt_succ_self _) hdots (Prod.ext rfl hmade)).1

lemma written_child {fs : Files} (hpla : ∀ m ∈ place ++ [n], Path.IsName m ∧ m ≠ "..")
    (hdir : fs.isDirectory place = true) {c : Content} (hc : c ≠ .directory) :
    Files.Written fs [⟨⟨"", place ++ [n]⟩, c⟩] (fs.putAt ⟨"", place ++ [n]⟩ c) ∧
      (fs.putAt ⟨"", place ++ [n]⟩ c).isDirectory place = true := by
  refine ⟨Files.written_putAt hpla (by rwa [dropLast_concat]) hc, ?_⟩
  have hdots : ".." ∉ place ++ [n] := fun hmem => (hpla _ hmem).2 rfl
  unfold Files.putAt
  split
  · next q hloc =>
      rw [Files.eq_of_locate hdots hloc]
      have hchi : (place ++ [n], c) ∈ fs.put (place ++ [n]) c :=
        Entries.mem_of_get? (Entries.get?_put_self _ _ _)
      exact Files.isDirectory_iff.mpr (.inr (.inr (.inr ⟨_, hchi, prefix_append _ _, by simp⟩)))
  · exact hdir

lemma writes_writeTable {t : Billing.Table} (ht : Path.ofText t.path = ⟨"", place ++ [n]⟩)
    (hpla : ∀ m ∈ place ++ [n], Path.IsName m ∧ m ≠ "..") (hin : In ⟨"", place ++ [n]⟩)
    (hdir : w.files.isDirectory place = true) : Writes In (writeTable t) w fun _ w' ws =>
      w'.files.isDirectory place = true ∧ ws = [⟨⟨"", place ++ [n]⟩, .table t.kept⟩] := by
  obtain ⟨hwri, hdir'⟩ := written_child hpla hdir (c := .table t.kept) (by simp)
  unfold Writes
  cases hwrites : w.outside.writes w.tables t with
  | error e =>
    rw [exec_writeTable_of_error hwrites]
    exact ⟨[], fun e he => absurd he not_mem_nil, .refl _, nofun⟩
  | ok =>
    rw [exec_writeTable_of_ok hwrites, ht]
    grind

end CloudSpend.Run
