import CloudSpend.Proofs.Api.Isolation

/-! # Pages of a listing -/

namespace CloudSpend.Api

open Handler List
open Store (Table isStored)

namespace Page

variable {α : Type} {items : List α} {limit number : Int}

lemma select_eq (h : 0 ≤ limit) (i : ℕ) (items : List α) :
    (Page.mk (i + 1) limit).select items = (items.drop (i * limit.toNat)).take limit.toNat := by
  obtain ⟨n, rfl⟩ := Int.eq_ofNat_of_zero_le h
  have hoff : (offset ⟨i + 1, n⟩).toNat = i * n := by
    rw [offset, Int.add_sub_cancel]
    exact Int.toNat_natCast (i * n)
  have hlim : ¬ (n : Int) < 0 := by omega
  simp only [select, hoff, hlim, if_false, Int.toNat_natCast]

lemma flatMap_select (h : 0 ≤ limit) (n : ℕ) (items : List α) :
    ((range n).flatMap fun i : ℕ => (Page.mk (i + 1) limit).select items) = items.take (n * limit.toNat) := by
  induction n with
  | zero => simp
  | succ n ih =>
    rw [range_succ, flatMap_append, ih, Nat.succ_mul, take_add, flatMap_singleton, select_eq h]

lemma select_ne_nil_iff (hlim : 1 ≤ limit) (hnum : 0 ≤ number) :
    (Page.mk (number + 1) limit).select items ≠ [] ↔ number * limit < items.length := by
  obtain ⟨i, rfl⟩ := Int.eq_ofNat_of_zero_le hnum
  obtain ⟨n, rfl⟩ := Int.eq_ofNat_of_zero_le (by omega : 0 ≤ limit)
  have hn : n ≠ 0 := by omega
  rw [select_eq (by omega)]
  simp only [Int.toNat_natCast, ne_eq, take_eq_nil_iff, drop_eq_nil_iff, hn, false_or, Nat.not_le]
  exact_mod_cast Iff.rfl

variable (p : Page) (base : String) (total : Int)

lemma next_mem_links_iff : "next" ∈ (p.links base total).map Prod.fst ↔ p.number * p.limit < total := by
  unfold links
  split <;> split <;> simp [*]

lemma prev_mem_links_iff : "prev" ∈ (p.links base total).map Prod.fst ↔ 1 < p.number := by
  unfold links
  split <;> split <;> simp [*]

end Page

variable (t : Table) (test : Row → Bool)

lemma exec_paged (page : Page) (s : Service) : exec (paged t test page) s =
    (if isStored page.limit && isStored page.offset then
        (t.readable (page.select (s.store.select t test))).map fun found => (found, (s.store.select t test).length)
      else .error .storedIntTooLarge, s) := by
  unfold paged requireStorable
  simp only [all_cons, all_nil, Bool.and_true]
  split
  · rw [exec_bind_ok (exec_pure _ _), exec_bind_ok (exec_rows t test s), exec_bind, exec_liftM_result]
    cases t.readable (page.select (s.store.select t test)) <;> rfl
  · exact exec_bind_of_error (exec_throw _ _) _

/-- The pages of a listing with any limit part the rows that match, in their order and each of them once. -/
theorem pages_partition (s : Service) (base : String) {limit : Int} (hlimit : 1 ≤ limit) :
    let rows := s.store.select t test
    let page (number : Int) : List Row := (Page.mk number limit).select rows
    (∀ n : ℕ, rows.length ≤ n * limit → ((range n).flatMap fun i : ℕ => page (i + 1)) = rows) ∧
      ∀ number ≥ 1,
        exec (paged t test ⟨number, limit⟩) s =
          (if isStored limit && isStored ((number - 1) * limit) then
            (t.readable (page number)).map fun found => (found, rows.length)
          else .error .storedIntTooLarge, s) ∧
        ("next" ∈ ((Page.mk number limit).links base rows.length).map Prod.fst ↔ page (number + 1) ≠ []) ∧
        ("prev" ∈ ((Page.mk number limit).links base rows.length).map Prod.fst ↔ 1 < number) := by
  intro rows page
  refine ⟨fun n hn => ?_, fun number hnum => ⟨exec_paged t test _ s, ?_, Page.prev_mem_links_iff _ _ _⟩⟩
  · have hall : rows.length ≤ n * limit.toNat := by
      grind
    rw [Page.flatMap_select (by omega), take_of_length_le hall]
  · rw [Page.next_mem_links_iff, Page.select_ne_nil_iff hlimit (by omega)]

/-- Three folders on pages of two. -/
theorem pages_partition_folders : (1 : Int) ≤ 2 ∧
    ((range 2).flatMap fun i : ℕ => (Page.mk (i + 1) 2).select
      (Store.select [⟨.folders, [("id", "1")]⟩, ⟨.folders, [("id", "2")]⟩, ⟨.folders, [("id", "3")]⟩] .folders
        fun _ => true)) =
      Store.select [⟨.folders, [("id", "1")]⟩, ⟨.folders, [("id", "2")]⟩, ⟨.folders, [("id", "3")]⟩] .folders
        fun _ => true :=
  ⟨by decide, (pages_partition .folders (fun _ => true) { world := silentWorld, store := _ } "" (by decide)).1 2
    (by decide)⟩

end CloudSpend.Api
