import CloudSpend.Api.All
import Mathlib.Data.List.Forall2

/-! # Finding the endpoint for a request -/

namespace CloudSpend.Api

open List

variable {e d : Endpoint} {r : Request} {f g s path : String} {form other params : List String}

def mark (f : List Char) : Bool × Nat := ([':'].isPrefixOf f, f.foldl (fun n c => 128 * n + c.toNat) 0)

def marksApart (f g : Bool × Nat) : Bool :=
  !f.1 && !g.1 && f.2 != g.2 && f.2 != 128 * g.2 + 10 && g.2 != 128 * f.2 + 10

def formsApart : List (Bool × Nat) → List (Bool × Nat) → Bool
  | [], [] => false
  | f :: form, g :: other => marksApart f g || formsApart form other
  | _, _ => true

def Fits (f s : String) : Prop := Text.startsWith f ":" = true ∨ s = f ∨ s = f ++ "\n"

lemma marksApart_of_fits (hf : Fits f s) (hg : Fits g s) : marksApart (mark f.toList) (mark g.toList) = false := by
  have hbre (f : String) : (mark (f ++ "\n").toList).2 = 128 * (mark f.toList).2 + 10 := by simp [mark]
  have hvar {f : String} (h : Text.startsWith f ":" = true) : (mark f.toList).1 = true := h
  unfold marksApart
  rcases hf with hf | rfl | rfl <;> rcases hg with hg | hg | hg <;> grind

lemma formsApart_of_fits {path : List String} (hform : Forall₂ Fits form path) (hoth : Forall₂ Fits other path) :
    formsApart (form.map fun f => mark f.toList) (other.map fun g => mark g.toList) = false := by
  induction hform generalizing other with
  | nil =>
    cases hoth
    rfl
  | cons hf _ ih =>
    cases hoth with
    | cons hg hoth => simp [formsApart, marksApart_of_fits hf hg, ih hoth]

lemma fits_of_segments? {path : List String} (h : segments? form path = some params) : Forall₂ Fits form path := by
  fun_induction segments? form path generalizing params with
  | case1 => exact .nil
  | case2 f s | case3 f s | case4 f s | case5 f s => exact .cons (by grind [Fits]) .nil
  | case6 => cases h
  | case7 f form s path _ hvar _ ih =>
    obtain ⟨rest, hrest, -⟩ := Option.map_eq_some_iff.mp h
    exact .cons (.inl hvar) (ih hrest)
  | case8 f form s path _ _ hsame ih => exact .cons (.inr (.inl (beq_iff_eq.mp hsame).symm)) (ih h)
  | case9 | case10 => cases h

def endpointsApart (a b : String × List (Bool × Nat)) : Bool := a.1 != b.1 || formsApart a.2 b.2

def servesFrom (e : Endpoint) (path : List Char) : String × List (Bool × Nat) :=
  (e.method, ((Text.splitFrom ['/'] 0 [] path).map mark).reverse)

def Endpoint.serves (e : Endpoint) : String × List (Bool × Nat) := servesFrom e e.path.toList

def asciiChars (s : String) : List Char := s.toByteArray.data.toList.map fun b => Char.ofNat b.toNat

lemma pairwise_apart : endpoints.Pairwise fun d e => endpointsApart d.serves e.serves = true := by
  have hall : (∀ e ∈ endpoints.map (·.path), String.ofList (asciiChars e) = e) ∧
      (endpoints.map fun e => servesFrom e (asciiChars e.path)).Pairwise
        fun a b => endpointsApart a b = true := by decide +kernel
  have hser : ∀ e ∈ endpoints, servesFrom e (asciiChars e.path) = e.serves := fun e he => by
    rw [Endpoint.serves, ← String.toList_ofList (l := asciiChars e.path), hall.1 _ (mem_map_of_mem he)]
  rw [map_congr_left hser] at hall
  exact pairwise_map.mp hall.2

lemma serves_eq (e : Endpoint) :
    e.serves = (e.method, (Text.split e.path "/").reverse.map fun f => mark f.toList) := by
  have hsla : "/".toList = ['/'] := rfl
  simp [Endpoint.serves, servesFrom, Text.split, hsla]

lemma endpointsApart_of_params? {ps qs : List String} (hmet : d.method = e.method)
    (hd : d.params? path = some ps) (he : e.params? path = some qs) :
    endpointsApart d.serves e.serves = false := by
  have hfor := formsApart_of_fits (rel_reverse (fits_of_segments? hd)) (rel_reverse (fits_of_segments? he))
  rw [serves_eq, serves_eq]
  simp [endpointsApart, hmet, ← hfor]

lemma find?_of_pairwise {es : List Endpoint}
    (hes : es.Pairwise fun d e => endpointsApart d.serves e.serves = true) (he : e ∈ es)
    (hmet : e.method = r.method) (hpar : e.params? r.path = some params) :
    (endpointsAt es r.path).find? (fun found => found.1.method == r.method) = some (e, params) := by
  induction es with
  | nil => cases he
  | cons d es ih =>
    obtain ⟨hd, hes⟩ := pairwise_cons.mp hes
    rw [endpointsAt, filterMap_cons]
    rcases mem_cons.mp he with rfl | he
    · simp [hpar, hmet]
    · cases hfou : d.params? r.path with
      | none => exact ih hes he
      | some ps =>
        have hoth : (d.method == r.method) = false := by
          rw [beq_eq_false_iff_ne]
          intro hsame
          have hfal := endpointsApart_of_params? (hsame.trans hmet.symm) hfou hpar
          exact Bool.false_ne_true (hfal.symm.trans (hd e he))
        rw [Option.map_some, find?_cons_of_neg (by simp [hoth])]
        exact ih hes he

lemma route_of_mem (he : e ∈ endpoints) (hmet : e.method = r.method)
    (hpar : e.params? r.path = some params) : route endpoints r = .ok (e, params) := by
  unfold route
  dsimp only
  rw [find?_of_pairwise pairwise_apart he hmet hpar]

lemma nodup_endpoints : (endpoints.map fun e => (e.method, e.path)).Nodup := by
  refine pairwise_map.mpr (pairwise_apart.imp fun {d e} hapa hsame => ?_)
  obtain ⟨hmet, hpath⟩ := Prod.mk.inj hsame
  have hself : ∀ form, formsApart form form = false := fun form => by
    induction form <;> simp_all [formsApart, marksApart]
  simp [endpointsApart, serves_eq, hmet, hpath, hself] at hapa

end CloudSpend.Api
