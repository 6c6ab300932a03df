import CloudSpend.Data.Value
import Mathlib.Algebra.BigOperators.Group.List.Basic
import Mathlib.Data.List.Count
import Mathlib.Data.List.Induction
import Mathlib.Data.List.Nodup

/-! # Tables of entries -/

namespace CloudSpend

namespace Result

variable {α β ε : Type} {x : Except ε α} {f : α → Except ε β} {b : β}

lemma of_bind_ok (h : (x >>= f) = .ok b) : ∃ a, x = .ok a ∧ f a = .ok b := by
  cases x with
  | error e => cases h
  | ok a => exact ⟨a, rfl, h⟩

lemma bind_eq_ok : (x >>= f) = .ok b ↔ ∃ a, x = .ok a ∧ f a = .ok b :=
  ⟨of_bind_ok, fun ⟨_, ha, hb⟩ => by rw [ha]; exact hb⟩

lemma map_eq_ok {f : α → β} : x.map f = .ok b ↔ ∃ a, x = .ok a ∧ f a = b := by
  cases x <;> simp [Except.map]

lemma eq_ok_of_toOption {a : α} (h : x.toOption = some a) : x = .ok a := by
  cases x with
  | error e => cases h
  | ok b => exact congrArg Except.ok (Option.some.inj h)

lemma foldlM_invariant {P : β → Prop} {f : β → α → Except ε β} {as : List α} {start : β} (hsta : P start)
    (hstep : ∀ a ∈ as, ∀ b b', P b → f b a = .ok b' → P b') (h : as.foldlM f start = .ok b) : P b := by
  induction as generalizing start with
  | nil =>
    cases h
    exact hsta
  | cons a as ih =>
    rw [List.foldlM_cons] at h
    obtain ⟨next, hnext, h⟩ := of_bind_ok h
    grind

end Result

namespace Entries

variable {κ α : Type} [BEq κ] [LawfulBEq κ]

variable {es : List (κ × α)} {key : κ} {a : α} {e : κ × α}

lemma mem_of_get? (h : get? es key = some a) : (key, a) ∈ es := by
  obtain ⟨l1, l2, rfl, -⟩ := List.lookup_eq_some_iff.mp h
  simp

lemma get?_put_self (es : List (κ × α)) (key : κ) (a : α) : get? (put es key a) key = some a := by
  unfold get?
  induction es with
  | nil => simp [put]
  | cons e es ih =>
    rw [put]
    grind

lemma get?_put_of_ne (es : List (κ × α)) {key' : κ} (h : key' ≠ key) (a : α) :
    get? (put es key a) key' = get? es key' := by
  unfold get?
  induction es with
  | nil => simp [put, List.lookup_cons, beq_eq_false_iff_ne.mpr h]
  | cons e es ih =>
    rw [put]
    grind

lemma map_fst_put_of_mem (h : key ∈ es.map Prod.fst) (a : α) :
    (put es key a).map Prod.fst = es.map Prod.fst := by
  induction es with
  | nil => simp at h
  | cons e es ih =>
    rw [put]
    grind

lemma put_of_not_mem (h : key ∉ es.map Prod.fst) (a : α) : put es key a = es ++ [(key, a)] := by
  induction es with
  | nil => rfl
  | cons e es ih =>
    rw [List.map_cons, List.mem_cons, not_or] at h
    have hne : ¬ (e.1 == key) = true := fun heq => h.1 (beq_iff_eq.mp heq).symm
    rw [put, if_neg hne, ih h.2, List.cons_append]

lemma map_fst_put_of_not_mem (h : key ∉ es.map Prod.fst) (a : α) :
    (put es key a).map Prod.fst = es.map Prod.fst ++ [key] := by
  simp [put_of_not_mem h]

lemma mem_or_eq_of_mem_put (h : e ∈ put es key a) : e ∈ es ∨ e = (key, a) := by
  induction es with
  | nil => exact .inr (List.mem_singleton.mp h)
  | cons d es ih =>
    rw [put] at h
    grind

lemma mem_or_mem_of_mem_merge {old new : List (κ × α)} (h : e ∈ merge old new) :
    e ∈ old ∨ e ∈ new := by
  unfold merge at h
  induction new generalizing old with
  | nil => exact .inl h
  | cons d new ih =>
    rcases ih h with h | h
    · rcases mem_or_eq_of_mem_put h with h | rfl
      · exact .inl h
      · exact .inr List.mem_cons_self
    · exact .inr (List.mem_cons_of_mem _ h)

lemma merge_eq_nil_iff {old new : List (κ × α)} : merge old new = [] ↔ old = [] ∧ new = [] := by
  induction new generalizing old with
  | nil => simp [merge]
  | cons e new ih =>
    have hput : put old e.1 e.2 ≠ [] := by cases old <;> grind [put]
    rw [merge, List.foldl_cons, ← merge, ih]
    simp [hput]

lemma merge_of_nodup {old new : List (κ × α)} (h : ((old ++ new).map Prod.fst).Nodup) :
    merge old new = old ++ new := by
  induction new generalizing old with
  | nil => simp [merge]
  | cons e new ih =>
    have hput : put old e.1 e.2 = old ++ [e] := put_of_not_mem (by grind) e.2
    have hrest : merge (old ++ [e]) new = old ++ [e] ++ new := ih (by simpa using h)
    rw [merge, List.foldl_cons, hput]
    exact hrest.trans (by simp)

lemma get?_eq_some_iff_mem (h : (es.map Prod.fst).Nodup) : get? es key = some a ↔ (key, a) ∈ es := by
  refine ⟨mem_of_get?, fun hmem => ?_⟩
  unfold get?
  induction es with
  | nil => cases hmem
  | cons e es ih => grind

lemma get?_filter_of_nodup (h : (es.map Prod.fst).Nodup) (p : κ × α → Bool) (key : κ) : get? (es.filter p) key = (get? es key).filter fun a => p (key, a) := by
  unfold get?
  induction es with
  | nil => rfl
  | cons e es ih =>
    grind

end Entries

end CloudSpend

namespace CloudSpend

lemma Value.text_beq (a b : String) : ((.text a : Value) == .text b) = decide (a = b) := rfl

namespace Entries

section Tabulate

variable {ι κ α : Type} [DecidableEq ι] [BEq κ] {key : ι → κ}

def tabulate (key : ι → κ) (is : List ι) (f : ι → α) : List (κ × α) := is.map fun i => (key i, f i)

variable (hkey : ∀ i j, (key i == key j) = decide (i = j))

include hkey

lemma get?_tabulate (is : List ι) (f : ι → α) (i : ι) :
    get? (tabulate key is f) (key i) = if i ∈ is then some (f i) else none := by
  unfold get? tabulate
  induction is with
  | nil => rfl
  | cons j is ih =>
    grind

lemma put_tabulate {is : List ι} (his : is.Nodup) (f : ι → α) (i : ι) (a : α) :
    put (tabulate key is f) (key i) a =
      tabulate key (if i ∈ is then is else is ++ [i]) fun j => if j = i then a else f j := by
  unfold tabulate
  induction is with
  | nil => simp [put]
  | cons j is ih =>
    have hj : j ∉ is := (List.nodup_cons.mp his).1
    rw [List.map_cons, put, hkey, ih (List.nodup_cons.mp his).2]
    by_cases h : j = i
    · subst h
      have hoth : is.map (fun k => (key k, f k)) = is.map fun k => (key k, if k = j then a else f k) :=
        List.map_congr_left fun k hk => by rw [if_neg fun heq : k = j => hj (heq ▸ hk)]
      simp [hoth]
    all_goals grind

end Tabulate

end Entries

section Firsts

variable {ι : Type} [DecidableEq ι]

lemma eraseDups_concat (is : List ι) (i : ι) :
    (is ++ [i]).eraseDups = if i ∈ is.eraseDups then is.eraseDups else is.eraseDups ++ [i] := by
  rw [List.eraseDups_append]
  by_cases h : i ∈ is <;> simp [List.removeAll, List.eraseDups_cons, h]

lemma nodup_eraseDups (is : List ι) : is.eraseDups.Nodup := by
  induction is using List.reverseRecOn with
  | nil => exact List.nodup_nil
  | append_singleton is i ih =>
    rw [eraseDups_concat]
    grind

theorem sum_groups {α M : Type} [AddCommMonoid M] (key : α → ι) (f : α → M) {is : List ι} (his : is.Nodup)
    {xs : List α} (h : ∀ x ∈ xs, key x ∈ is) :
    (is.map fun i => ((xs.filter (key · = i)).map f).sum).sum = (xs.map f).sum := by
  induction xs with
  | nil => simp
  | cons x xs ih =>
    have hcons : (is.map fun i => (((x :: xs).filter (key · = i)).map f).sum) =
        is.map fun i => (if i = key x then f x else 0) + ((xs.filter (key · = i)).map f).sum := by
      grind
    have hcou : is.count (key x) = 1 := List.count_eq_one_of_mem his (h x List.mem_cons_self)
    have hone : (is.map fun i => if i = key x then f x else 0).sum = f x := by
      simp [List.sum_map_ite, List.filter_eq, hcou]
    rw [hcons, List.sum_map_add, hone, ih fun y hy => h y (List.mem_cons_of_mem x hy), List.map_cons, List.sum_cons]

end Firsts

end CloudSpend
