import CloudSpend.Aws.CostExplorer
import CloudSpend.Proofs.Data.Ranking
import CloudSpend.Proofs.Source.Ingest
import CloudSpend.Proofs.Source.StoredOnce
import Mathlib

/-! # Lines of the cost explorer -/

namespace CloudSpend

namespace Aws

open List Run
open Float.Model (UnpackedFloat)

namespace CostExplorer

def pages (a : Access) (p : Cost.Period Value) (granularity : Value) (type : String) (key : Value) : Run (List Value) := do
  connect a
  let args ← liftM (groupedArgs p granularity type key)
  walk args (fun page => .ok [page]) .null (← get).outside.pages

variable {α : Type} {args : Row} {read : Value → Result (List α)} {token : Value} {bound : Nat} {w w' : World}
  {found : List α}

lemma pages_of_walk (h : exec (walk args read token bound) w = (.ok found, w')) :
    ∃ ps parts, exec (walk args (fun page => .ok [page]) token bound) w = (.ok ps, w') ∧
      ps.mapM read = .ok parts ∧ found = parts.flatten := by
  induction bound generalizing token w found with
  | zero => cases h
  | succ bound ih =>
    obtain ⟨page, w₁, hpage, hbody⟩ := exec_bind_eq_ok.mp h
    obtain ⟨here, w₂, hhere, hrest⟩ := exec_bind_eq_ok.mp hbody
    obtain ⟨next, w3, hnext, hend⟩ := exec_bind_eq_ok.mp hrest
    have hread : read page = .ok here := congrArg Prod.fst hhere
    obtain rfl : w₁ = w₂ := congrArg Prod.snd hhere
    unfold walk
    rw [exec_bind_ok hpage, exec_bind_ok (exec_liftM _ _), exec_bind_ok hnext]
    split at hend
    · obtain ⟨rest, w4, hwalk, hend⟩ := exec_bind_eq_ok.mp hend
      cases hend
      obtain ⟨ps, parts, hps, hpar, rfl⟩ := ih hwalk
      refine ⟨page :: ps, here :: parts, ?_, by rw [mapM_cons, hread, hpar]; rfl, rfl⟩
      rw [if_pos ‹_›, exec_bind_ok hps]
      rfl
    · cases hend
      refine ⟨[page], [found], ?_, by rw [mapM_cons, hread]; rfl, by simp⟩
      rw [if_neg ‹_›]
      rfl

end CostExplorer

namespace CostExplorer.Group

def cost? (g : Group) : Option Float := match g.amount with
  | .float x => some x
  | _ => none

def isDropped (g : Group) : Bool := g.cost?.any (· < 0.01)

def isNegligible (g : Group) : Bool := g.cost?.any fun x => -0.01 < x && x < 0.01

def isCredit (g : Group) : Bool := g.cost?.any (· ≤ -0.01)

lemma isMaterial_eq {g : Group} (hfloat : g.cost? ≠ none) : g.isMaterial = .ok (!g.isDropped) := by
  unfold isMaterial isDropped
  unfold cost? at *
  split at hfloat
  · next x hx =>
      rw [hx, Value.lt_float]
      rfl
  · exact absurd rfl hfloat

lemma negligible_iff_not_credit (g : Group) :
    (g.isDropped = true → g.isNegligible = true) ↔ g.isCredit = false := by
  unfold isDropped isNegligible isCredit
  cases g.cost? with
  | none => simp
  | some x =>
    have hlt : ∀ x y : Float, x < y ↔ x.toModel.unpack.lt y.toModel.unpack = true := fun _ _ => decide_eq_true_iff
    have hle : ∀ x y : Float, x ≤ y ↔ x.toModel.unpack.le y.toModel.unpack = true := fun _ _ => decide_eq_true_iff
    have hcent : (0.01 : Float).toModel.unpack = .finite .positive 5764607523034235 (-59) (by decide) := by rfl
    have hmin : (-0.01 : Float).toModel.unpack = .finite .negative 5764607523034235 (-59) (by decide) := by rfl
    simp only [Option.any_some, Bool.and_eq_true, decide_eq_true_eq, decide_eq_false_iff_not, hlt, hle, hcent, hmin]
    rcases x.toModel.unpack with (_ | _) | _ | _ | ⟨_ | _, m, e, _⟩ <;>
      simp [UnpackedFloat.lt, UnpackedFloat.le, UnpackedFloat.compare, Ordering.then_eq_lt, Ordering.then_eq_gt,
        Int.compare_eq_lt, Int.compare_eq_gt, Nat.compare_eq_lt, Nat.compare_eq_gt]
    omega

end CostExplorer.Group

namespace CostExplorer

variable {γ : Type} (read : Value → Value → Result γ) (group : γ → Group) (line : γ → Result Value)

def Tells (ps lines : List Value) : Prop :=
  ∃ gs, ps.mapM (groups read) = .ok gs ∧ (gs.flatten.filter fun g => !(group g).isDropped).mapM line = .ok lines ∧
    ((∀ g ∈ gs.flatten, (group g).isDropped = true → (group g).isNegligible = true) ↔
      ∀ g ∈ gs.flatten, (group g).isCredit = false)

variable {read}

lemma mem_of_groups {page : Value} {gs : List γ} (h : groups read page = .ok gs) {c : γ} (hc : c ∈ gs) :
    ∃ start g, read start g = .ok c := by
  simp only [groups, Result.bind_eq_ok] at h
  obtain ⟨_, -, periods, -, parts, hpar, h⟩ := h
  cases h
  obtain ⟨part, hpart, hc⟩ := mem_flatten.mp hc
  obtain ⟨p, -, hp⟩ := exists_of_mem_of_forall₂ (Billing.forall₂_of_mapM hpar) hpart
  simp only [Result.bind_eq_ok] at hp
  obtain ⟨_, -, start, -, _, -, items, -, hp⟩ := hp
  obtain ⟨g, -, hg⟩ := exists_of_mem_of_forall₂ (Billing.forall₂_of_mapM hp) hc
  exact ⟨start, g, hg⟩

section Lines

variable {group line} {reader : Value → Result (List Value)} {ps : List Value} {gs : List (List γ)}
  (hrea : ∀ page, reader page = do (← (← groups read page).filterM fun g => (group g).isMaterial).mapM line)
  (hfloat : ∀ {start g c}, read start g = .ok c → (group c).cost? ≠ none)

include hrea hfloat

lemma reader_eq {page : Value} {found : List γ} (h : groups read page = .ok found) :
    reader page = (found.filter fun g => !(group g).isDropped).mapM line := by
  have hkept : found.filterM (fun g => (group g).isMaterial) = .ok (found.filter fun g => !(group g).isDropped) := by
    refine Source.filterM_eq_ok fun c hc => ?_
    obtain ⟨start, v, hread⟩ := mem_of_groups h hc
    exact Group.isMaterial_eq (hfloat hread)
  rw [hrea, h]
  exact congrArg (· >>= fun kept => kept.mapM line) hkept

lemma lines_of_reader {parts : List (List Value)} (hgs : ps.mapM (groups read) = .ok gs)
    (hpar : ps.mapM reader = .ok parts) :
    (gs.flatten.filter fun g => !(group g).isDropped).mapM line = .ok parts.flatten := by
  have hall := Billing.forall₂_of_mapM hgs
  clear hgs
  induction hall generalizing parts with
  | nil =>
    cases hpar
    rfl
  | cons hg _ ih =>
    rw [mapM_cons, reader_eq hrea hfloat hg] at hpar
    obtain ⟨here, hhere, hpar⟩ := Result.of_bind_ok hpar
    obtain ⟨rest, hrest, hpar⟩ := Result.of_bind_ok hpar
    cases hpar
    rw [flatten_cons, filter_append, mapM_append, hhere, ih hrest]
    rfl

lemma tells_of_walk {lines : List Value} (h : exec (walk args reader token bound) w = (.ok lines, w')) :
    ∃ ps, exec (walk args (fun page => .ok [page]) token bound) w = (.ok ps, w') ∧ Tells read group line ps lines := by
  obtain ⟨ps, parts, hps, hpar, rfl⟩ := pages_of_walk h
  obtain ⟨gs, hgs⟩ : ∃ gs, ps.mapM (groups read) = .ok gs := by
    refine Billing.exists_mapM_eq_ok fun page hpage => ?_
    obtain ⟨here, hhere⟩ := Billing.exists_eq_ok_of_mapM hpar hpage
    rw [hrea] at hhere
    obtain ⟨found, hfou, -⟩ := Result.of_bind_ok hhere
    exact ⟨found, hfou⟩
  exact ⟨ps, hps, gs, hgs, lines_of_reader hrea hfloat hgs hpar,
    forall₂_congr fun g _ => (group g).negligible_iff_not_credit⟩

end Lines

def serviceLine (c : Group × Value) : Result Value := do
  return .object [("date", c.1.start), ("service", c.1.key), ("amount", ← c.1.amount.round 4), ("currency", c.2)]

def tagLine (tag : Value) (g : Group) : Result Value := do
  return .object [("date", g.start), ("tag_key", tag), ("tag_value", g.key), ("amount", ← g.amount.round 4)]

lemma cost?_of_readMetric {g : Value} {q : Value × Value} (h : readMetric g = .ok q) : ∃ x, q.1 = .float x := by
  simp only [readMetric, Result.bind_eq_ok] at h
  obtain ⟨_, -, _, -, _, -, x, -, h⟩ := h
  cases h
  exact ⟨x, rfl⟩

lemma amount_of_readService {start g : Value} {c : Group × Value} (h : readService start g = .ok c) :
    ∃ x, c.1.amount = .float x := by
  simp only [readService, Result.bind_eq_ok] at h
  obtain ⟨_, -, _, -, q, hq, _, -, h⟩ := h
  cases h
  exact cost?_of_readMetric hq

lemma cost?_of_readService {start g : Value} {c : Group × Value} (h : readService start g = .ok c) :
    c.1.cost? ≠ none := by
  obtain ⟨x, hx⟩ := amount_of_readService h
  simp [Group.cost?, hx]

/-- Both ways to ask for costs tell of all groups on the pages of the answer, in their order, but those of less than a
cent; and these are negligible exactly if there is no credit of a cent or more. -/
theorem dropped_negligible_iff (a : Access) (p : Cost.Period Value) (granularity tag : Value) {w w' : World}
    {lines : List Value} :
    (exec (byService a p granularity) w = (.ok lines, w') →
      ∃ ps, exec (pages a p granularity "DIMENSION" "SERVICE") w = (.ok ps, w') ∧
        Tells readService Prod.fst serviceLine ps lines) ∧
    (exec (byTag a p tag) w = (.ok lines, w') →
      ∃ ps, exec (pages a p "MONTHLY" "TAG" tag) w = (.ok ps, w') ∧ Tells readTag id (tagLine tag) ps lines) := by
  refine ⟨fun h => ?_, fun h => ?_⟩
  · obtain ⟨_, w₁, hcon, h⟩ := exec_bind_eq_ok.mp h
    obtain ⟨args, w₂, hargs, h⟩ := exec_bind_eq_ok.mp h
    rw [pages, exec_bind_ok hcon, exec_bind_ok hargs]
    exact tells_of_walk (fun _ => rfl) cost?_of_readService h
  · obtain ⟨_, w₁, hcon, h⟩ := exec_bind_eq_ok.mp h
    obtain ⟨args, w₂, hargs, h⟩ := exec_bind_eq_ok.mp h
    have hfloat : ∀ {start g : Value} {c}, readTag start g = .ok c → c.cost? ≠ none := by
      intro start g c h
      simp only [readTag, Result.bind_eq_ok] at h
      obtain ⟨_, -, _, -, _, -, q, hq, h⟩ := h
      obtain ⟨x, hx⟩ := cost?_of_readMetric hq
      cases h
      simp [Group.cost?, hx]
    rw [pages, exec_bind_ok hcon, exec_bind_ok hargs]
    exact tells_of_walk (fun _ => rfl) hfloat h

def creditWorld : World :=
  { Source.worldWith [] with outside := { (Source.worldWith []).outside with
      aws := fun _ _ => .ok (.object [("ResultsByTime", .list [.object [("TimePeriod", .object [("Start", "2026-02-01")]),
        ("Groups", .list (["12.5", "-5"].map fun (amount : String) => .object [("Keys", .list ["EC2"]),
          ("Metrics", .object [("UnblendedCost", .object [("Amount", .text amount), ("Unit", "USD")])])]))]])])
      pages := 1 } }

def creditSpan : Cost.Period Value := ⟨.date ⟨2026, 2, 1⟩, .date ⟨2026, 3, 1⟩⟩

theorem dropped_negligible_of_credit : ∃ lines w' ps,
    exec (byService (.usual .null) creditSpan "DAILY") creditWorld = (.ok lines, w') ∧
    exec (pages (.usual .null) creditSpan "DAILY" "DIMENSION" "SERVICE") creditWorld = (.ok ps, w') ∧
    Tells readService Prod.fst serviceLine ps lines := by
  have hsome : (exec (byService (.usual .null) creditSpan "DAILY") creditWorld).1.toOption.isSome = true := by
    decide
  obtain ⟨lines, hlin⟩ := Option.isSome_iff_exists.mp hsome
  have hrun : exec (byService (.usual .null) creditSpan "DAILY") creditWorld = (.ok lines, _) :=
    Prod.ext (Result.eq_ok_of_toOption hlin) rfl
  obtain ⟨ps, hps, htel⟩ := (dropped_negligible_iff (.usual .null) creditSpan "DAILY" .null).1 hrun
  exact ⟨lines, _, ps, hrun, hps, htel⟩

/-- Of the cost and the credit, the costs by service and those by tag tell only the cost. -/
theorem credit_dropped :
    ((exec (pages (.usual .null) creditSpan "DAILY" "DIMENSION" "SERVICE") creditWorld).1 >>= (·.mapM (groups readService))
      ).toOption.map (·.flatten.map fun g => (g.1.isDropped, g.1.isNegligible)) = some [(false, false), (true, false)] ∧
    (exec (byService (.usual .null) creditSpan "DAILY") creditWorld).1.toOption.map List.length = some 1 ∧
    (exec (byTag (.usual .null) creditSpan "team") creditWorld).1.toOption.map List.length = some 1 := by
  decide

end CostExplorer

end Aws

end CloudSpend
