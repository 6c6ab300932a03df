import CloudSpend.Proofs.Api.Pages
import CloudSpend.Proofs.Api.Requests
import CloudSpend.Proofs.Numeral.Integer
import Mathlib.Tactic.Linarith

/-! # Walking along the links of a listing -/

namespace CloudSpend

open Handler List Numeral
open Store (Table cell holds isStored)

namespace Form

lemma head?_decimal {n : ℕ} (h : n ≠ 0) : (Nat.toDigits 10 n).head? ≠ some '0' := by
  induction n using Nat.strongRecOn with
  | ind n ih =>
    by_cases hn : n < 10
    · have hdig : ∀ n < 10, n ≠ 0 → some n.digitChar ≠ some '0' := by decide
      rw [Nat.toDigits_of_lt_base hn]
      exact hdig n hn h
    · rw [Nat.toDigits_of_base_le (by decide) (by omega), head?_append_of_ne_nil _ Nat.toDigits_ne_nil]
      exact ih (n / 10) (by omega) (by omega)

lemma intOfText?_toString {n : Int} (h : n.natAbs < 10 ^ 20) : intOfText? (toString n) = some n := by
  have hlen := (Nat.length_toDigits_le_iff (by decide) (by decide)).mpr h
  have hval := digitsValue_toDigits n.natAbs
  have hne : Nat.toDigits 10 n.natAbs ≠ [] := Nat.toDigits_ne_nil
  have hdig : ∀ c ∈ Nat.toDigits 10 n.natAbs, c.isDigit := fun _ => isDigit_of_mem_decimal
  have hzero : ¬ (1 < (Nat.toDigits 10 n.natAbs).length ∧ (Nat.toDigits 10 n.natAbs).head? = some '0') := by
    by_cases hn : n.natAbs = 0
    · simp [hn]
    · exact fun hhead => head?_decimal hn hhead.2
  have hpla : plainInt? (toString n).toList = some n := by
    rw [toList_toString_int]
    generalize Nat.toDigits 10 n.natAbs = ds at *
    have hmax : ¬ Form.maxDigits < ds.length := by unfold Form.maxDigits; omega
    have hread : (ds.isEmpty || !ds.all Char.isDigit || (decide (1 < ds.length) && ds.head? == some '0') ||
        decide (Form.maxDigits < ds.length)) = false := by simpa [hne, hmax] using And.intro hdig hzero
    split
    · simp only [plainInt?, hread, hval, Bool.false_eq_true, if_false, if_true, Option.some.injEq]
      omega
    · unfold plainInt?
      split
      next negative rest hsign =>
        split at hsign
        · exact absurd (hdig '-' mem_cons_self) (by decide)
        · cases hsign
          simp only [hread, hval, Bool.false_eq_true, if_false, Option.some.injEq]
          omega
  rw [intOfText?, hpla]
  rfl

lemma judge_int {es : Row} {name text : String} {default : Value} (h : Entries.get? es name = some (.text text)) :
    judge es (withDefault name (.int none none) default) = need .int (intOfText? text) := by
  simp only [judge, withDefault, h, Shape.check, int?]
  cases intOfText? text <;> rfl

end Form

namespace Api

lemma isStored_iff {n : Int} : isStored n = true ↔ -9223372036854775808 ≤ n ∧ n ≤ 9223372036854775807 := by
  simp [isStored]

lemma exec_mapM_of_forall {α β : Type} {f : α → Handler β} {g : α → β} {s : Service} {as : List α}
    (h : ∀ a ∈ as, exec (f a) s = (.ok (g a), s)) : exec (as.mapM f) s = (.ok (as.map g), s) := by
  induction as with
  | nil => rfl
  | cons a as ih =>
    rw [mapM_cons, exec_bind_ok (h a mem_cons_self), exec_bind_ok (ih fun b hb => h b (mem_cons_of_mem a hb))]
    rfl

def queryOf (link : String) : List (String × String) :=
  (((link.toList.dropWhile (· != '?')).drop 1).splitOn '&').map fun p =>
    (String.ofList (p.takeWhile (· != '=')), String.ofList ((p.dropWhile (· != '=')).drop 1))

def next? (v : Value) : Option String := (do (← v.get "links").get "next" : Result Value).toOption.bind Value.text?

namespace Resource

variable (r : Resource)

def lister : Endpoint := r.endpoints.head (cons_ne_nil _ _)

def listed (v : Value) : List Value := ((v.get r.plural).toOption.bind Value.list?).getD []

def visit (s : Service) (query : List (String × String)) : Option Value :=
  match r.lister.readQuery query with
  | .ok query => (exec (r.lister.run ⟨[], query, [], [], []⟩) s).1.toOption
  | .error _ => none

def walk (s : Service) : ℕ → List (String × String) → Option (List Value)
  | 0, _ => none
  | n + 1, query => (r.visit s query).bind fun v => match next? v with
    | none => some (r.listed v)
    | some link => (walk s n (queryOf link)).map (r.listed v ++ ·)

def asks (filter : Option String) (page : String) (limit : Int) : List (String × String) :=
  filter.toList.map (Prod.mk r.parent.field) ++ [("page", page), ("limit", toString limit)]

structure IsWalkable (s : Service) (told : Row → Value) (token : String) (parent : Row) : Prop where
  mem : r ∈ resources
  told : ∀ row ∈ s.store.rows r.table,
    r.table.strangeWord? row = none ∧ exec (describe r.shown row) s = (.ok (told row), s)
  few : isStored (s.store.rows r.table).length = true
  whole : token ≠ "" ∧ Form.isWhole token = true
  parent : exec (byToken r.parent.table (.text token)) s = (.ok parent, s)

def matching (s : Service) (parent : Row) : Option String → List Row
  | some _ => s.store.select r.table (holds r.parent.column (cell parent "id"))
  | none => s.store.rows r.table

def pageCall (filter : Option String) (page : Page) : Call :=
  ⟨[], [(r.parent.field, Value.ofText? filter), ("page", .int page.number), ("limit", .int page.limit)], [], [], []⟩

def pageValue (told : Row → Value) (page : Page) (rows : List Row) : Value :=
  .object [(r.plural, .list ((page.select rows).map told)),
    ("links", .object ((page.links ("/v2/" ++ r.plural) rows.length).map fun l => (l.1, .text l.2)))]

end Resource

open Resource

section Step

variable {r : Resource} {s : Service} {told : Row → Value} {token : String} {parent : Row}
  (h : r.IsWalkable s told token parent)
include h

lemma Resource.IsWalkable.words : r.plural ≠ "links" ∧ '?' ∉ ("/v2/" ++ r.plural).toList ∧ r.parent.field ≠ "page" ∧
    r.parent.field ≠ "limit" := by
  have hall : ∀ r ∈ resources, r.plural ≠ "links" ∧ '?' ∉ ("/v2/" ++ r.plural).toList ∧ r.parent.field ≠ "page" ∧
      r.parent.field ≠ "limit" := by decide
  exact hall r h.mem

lemma queryOf_address (page : Page) :
    queryOf (page.address ("/v2/" ++ r.plural)) = r.asks none (toString page.number) page.limit := by
  have hsign : ∀ n : Int, '&' ∉ (toString n).toList := by
    intro n hn
    rcases sign_or_digit_of_mem hn with hn | hn <;> exact absurd hn (by decide)
  have hbase : ∀ c ∈ ("/v2/" ++ r.plural).toList, (c != '?') = true := by
    intro c hc
    rw [bne_iff_ne]
    rintro rfl
    exact h.words.2.1 hc
  have hpage : "?page=".toList = ['?', 'p', 'a', 'g', 'e', '='] := rfl
  have hlimit : "&limit=".toList = ['&', 'l', 'i', 'm', 'i', 't', '='] := rfl
  have hrest : ((page.address ("/v2/" ++ r.plural)).toList.dropWhile (· != '?')).drop 1 =
      (['p', 'a', 'g', 'e', '='] ++ (toString page.number).toList) ++
        '&' :: (['l', 'i', 'm', 'i', 't', '='] ++ (toString page.limit).toList) := by
    rw [Page.address, String.toList_append, String.toList_append, String.toList_append, String.toList_append,
      append_assoc, append_assoc, append_assoc, dropWhile_append_of_pos hbase, hpage, hlimit, append_assoc]
    rfl
  rw [queryOf, hrest, splitOn_append_cons_self_of_not_mem (by simpa using hsign page.number),
    splitOn_eq_singleton (by simpa using hsign page.limit)]
  simp [asks, takeWhile, dropWhile]

lemma exec_listing (page : Page) (filter : Option String) (test : Row → Bool) :
    exec (listing r.table r.plural r.shown test (r.pageCall filter page)) s =
      (if isStored page.limit && isStored page.offset then .ok (r.pageValue told page (s.store.select r.table test))
        else .error .storedIntTooLarge, s) := by
  obtain ⟨-, -, hfie, hfie'⟩ := h.words
  have hnum : (r.pageCall filter page).arg "page" = .int page.number := by
    simp [pageCall, Call.arg, cell, Entries.get?, lookup_cons, beq_false_of_ne hfie.symm]
  have hlimit : (r.pageCall filter page).arg "limit" = .int page.limit := by
    simp [pageCall, Call.arg, cell, Entries.get?, lookup_cons, beq_false_of_ne hfie'.symm]
  have htold : ∀ row ∈ page.select (s.store.select r.table test), _ := fun row hrow =>
    h.told row (mem_of_mem_filter (mem_of_mem_select hrow))
  have hrea : r.table.readable (page.select (s.store.select r.table test)) =
      .ok (page.select (s.store.select r.table test)) := by
    rw [Table.readable, findSome?_eq_none_iff.mpr fun row hrow => (htold row hrow).1]
  unfold listing
  simp only [hnum, hlimit, Value.int?, Option.getD_some]
  cases hsto : (isStored page.limit && isStored page.offset) with
  | false => exact exec_bind_of_error ((exec_paged _ test page s).trans (by simp [hsto])) _
  | true =>
    refine (exec_bind_ok ((exec_paged _ test page s).trans (by rw [hsto, hrea]; rfl)) _).trans ?_
    exact exec_bind_ok (exec_mapM_of_forall fun row hrow => (htold row hrow).2) _

variable {filter : Option String} (hfil : ∀ t ∈ filter, t = token) {text : String} {number limit : Int}
  (hlimit : isStored limit = true)
include hlimit hfil

lemma exec_list : exec (r.list (r.pageCall filter ⟨number, limit⟩)) s =
    (if isStored (Page.offset ⟨number, limit⟩) then .ok (r.pageValue told ⟨number, limit⟩ (r.matching s parent filter))
      else .error .storedIntTooLarge, s) := by
  have hlis := exec_listing h ⟨number, limit⟩ filter
  rw [hlimit, Bool.true_and] at hlis
  have harg : (r.pageCall filter ⟨number, limit⟩).arg r.parent.field = Value.ofText? filter := by
    simp [pageCall, Call.arg, cell, Entries.get?]
  unfold Resource.list
  rw [harg]
  cases filter with
  | none =>
    have hall : s.store.select r.table (fun _ => true) = s.store.rows r.table := by simp [Store.select]
    rw [Resource.matching, ← hall]
    exact hlis _
  | some t =>
    obtain rfl := hfil t rfl
    have htru : (Value.ofText? (some t)).truthy = true := by simp [Value.ofText?, Value.truthy, h.whole.1]
    dsimp only
    rw [if_pos htru]
    exact (exec_bind_ok h.parent _).trans (hlis _)

lemma visit_eq : r.visit s (r.asks filter text limit) = (Form.intOfText? text).bind fun number =>
    if isStored (Page.offset ⟨number, limit⟩) then some (r.pageValue told ⟨number, limit⟩ (r.matching s parent filter))
    else none := by
  obtain ⟨-, -, hfie, hfie'⟩ := h.words
  have hread : Form.intOfText? (toString limit) = some limit := by
    have hbou := isStored_iff.mp hlimit
    exact Form.intOfText?_toString (by omega)
  have hwho : filter.all Form.isWhole = true := by
    rw [Option.all_eq_true]
    exact fun t ht => hfil t ht ▸ h.whole.2
  have hque : r.lister.query = Form.maybe r.parent.field .anyText :: pageFields := rfl
  generalize hes : (r.asks filter text limit).map (fun p => (p.1, Value.text p.2)) = es
  have hgets : Entries.get? es r.parent.field = filter.map .text ∧ Entries.get? es "page" = some (.text text) ∧
      Entries.get? es "limit" = some (.text (toString limit)) := by
    subst hes
    cases filter <;> simp [asks, Entries.get?, lookup_cons, beq_false_of_ne hfie, beq_false_of_ne hfie',
      beq_false_of_ne hfie.symm, beq_false_of_ne hfie'.symm]
  have hche : r.lister.readQuery (r.asks filter text limit) =
      (Form.intOfText? text).elim (.error [["query", "page"]])
        fun number => .ok (r.pageCall filter ⟨number, limit⟩).query := by
    rw [Endpoint.readQuery, hque, hes]
    simp only [pageFields, Form.Shape.checkFields_cons_eq, Form.judge_maybe hgets.1, Form.judge_int hgets.2.1,
      Form.judge_int hgets.2.2, hwho, hread]
    cases Form.intOfText? text <;> rfl
  rw [visit, hche]
  cases Form.intOfText? text with
  | none => rfl
  | some number =>
    have hrun : exec (r.lister.run (r.pageCall filter ⟨number, limit⟩)) s = _ := exec_list h hfil hlimit
    change Except.toOption (exec (r.lister.run (r.pageCall filter ⟨number, limit⟩)) s).1 = _
    rw [hrun, Option.bind_some]
    split <;> rfl

lemma walk_succ (n : ℕ) : r.walk s (n + 1) (r.asks filter text limit) = (Form.intOfText? text).bind fun number =>
    if isStored (Page.offset ⟨number, limit⟩) then
      if number * limit < (r.matching s parent filter).length then
        (r.walk s n (r.asks none (toString (number + 1)) limit)).map
          (((Page.mk number limit).select (r.matching s parent filter)).map told ++ ·)
      else some (((Page.mk number limit).select (r.matching s parent filter)).map told)
    else none := by
  rw [walk, visit_eq h hfil hlimit, Option.bind_assoc]
  refine congrArg _ (funext fun number => ?_)
  split
  · have hlin : ("links" == r.plural) = false := beq_false_of_ne h.words.1.symm
    have hlis : r.listed (r.pageValue told ⟨number, limit⟩ (r.matching s parent filter)) =
        ((Page.mk number limit).select (r.matching s parent filter)).map told := by
      simp [listed, pageValue, Value.get, Value.getD, Entries.get?, Except.toOption, Value.list?]
    have hnext : next? (r.pageValue told ⟨number, limit⟩ (r.matching s parent filter)) =
        if number * limit < (r.matching s parent filter).length then
          some (Page.address ("/v2/" ++ r.plural) ⟨number + 1, limit⟩) else none := by
      unfold next? pageValue Page.links
      split <;> split <;>
        simp [Value.get, Value.getD, Entries.get?, lookup_cons, hlin, Except.toOption, Value.text?, bind, Except.bind]
    rw [Option.bind_some, hlis, hnext]
    by_cases hmore : number * limit < (r.matching s parent filter).length
    · simp only [hmore, if_true, queryOf_address h]
    · simp only [hmore, if_false]
  · rfl

end Step

section All

variable {r : Resource} {s : Service} {told : Row → Value} {token : String} {parent : Row}
  (h : r.IsWalkable s told token parent) {limit : Int} (hlimit : isStored limit = true)
include h hlimit

lemma walk_of_pos {k : ℕ} (hpos : 1 ≤ k) (hk : limit = k) (n i : ℕ) (hi : i * k < (r.matching s parent none).length) :
    r.walk s n (r.asks none (toString ((i : Int) + 1)) limit) =
      if (r.matching s parent none).length ≤ (i + n) * k then some (((r.matching s parent none).drop (i * k)).map told)
      else none := by
  have hrows : (r.matching s parent none).length ≤ 9223372036854775807 := Int.ofNat_le.mp (isStored_iff.mp h.few).2
  induction n generalizing i with
  | zero => rw [walk, Nat.add_zero, if_neg (by omega)]
  | succ n ih =>
    have hle : i ≤ i * k := Nat.le_mul_of_pos_right i hpos
    have hoff : isStored (Page.offset ⟨(i : Int) + 1, limit⟩) = true := by
      have hcast : Page.offset ⟨(i : Int) + 1, limit⟩ = (i * k : ℕ) := by simp [Page.offset, hk]
      exact hcast ▸ isStored_iff.mpr (by omega)
    have hmore : ((i : Int) + 1) * limit < (r.matching s parent none).length ↔
        (i + 1) * k < (r.matching s parent none).length := by
      rw [hk]
      exact_mod_cast Iff.rfl
    have hnext : (i : Int) + 1 + 1 = (i + 1 : ℕ) + 1 := by push_cast; rfl
    rw [walk_succ h (by simp) hlimit, Form.intOfText?_toString (by omega), Option.bind_some, if_pos hoff,
      Page.select_eq (by omega), hk, Int.toNat_natCast]
    simp only [← hk, hmore, hnext]
    split
    · next hmore =>
        rw [ih _ hmore, Nat.add_right_comm, Nat.add_assoc]
        split
        · rw [Option.map_some, ← map_append, Nat.succ_mul, ← drop_drop, take_append_drop]
        · rfl
    · next hlast =>
        rw [Nat.succ_mul] at hlast
        have hlen : ((r.matching s parent none).drop (i * k)).length ≤ k := by
          rw [length_drop]
          omega
        have hend : (i + 1) * k ≤ (i + (n + 1)) * k := Nat.mul_le_mul_right k (by omega)
        rw [Nat.succ_mul] at hend
        rw [take_of_length_le hlen, if_pos (by omega)]

lemma walk_of_nonpos (hnon : limit ≤ 0) (hrows : limit = 0 → r.matching s parent none ≠ []) (n : ℕ) {text : String}
    (hread : ∀ number, Form.intOfText? text = some number → limit < 0 → 0 < number) :
    r.walk s n (r.asks none text limit) = none := by
  induction n generalizing text with
  | zero => rfl
  | succ n ih =>
    rw [walk_succ h (by simp) hlimit]
    cases hnum : Form.intOfText? text with
    | none => rfl
    | some number =>
      have hmore : number * limit < (r.matching s parent none).length := by
        rcases hnon.lt_or_eq with hneg | hzero
        · have hpos := hread number hnum hneg
          nlinarith
        · have hpos := length_pos_iff.mpr (hrows hzero)
          rw [hzero, mul_zero]
          exact_mod_cast hpos
      rw [Option.bind_some, if_pos hmore]
      split
      · next hoff =>
          rw [ih, Option.map_none]
          intro m hm hneg
          have hpos := hread number hnum hneg
          have hbou := (isStored_iff.mp hoff).1
          rw [Page.offset] at hbou
          have hsma : number ≤ 9223372036854775809 := by nlinarith
          rw [Form.intOfText?_toString (by omega)] at hm
          cases hm
          omega
      · rfl

end All

/-- A walk along the links meets exactly the rows of the parent, each of them once, and ends, exactly if all of them are
on the first page, or there are no others, or there are none and none is asked for. -/
theorem filtered_walk_iff {r : Resource} {s : Service} {told : Row → Value} {token : String} {parent : Row}
    (h : r.IsWalkable s told token parent) {limit : Int} (hlimit : isStored limit = true) :
    let rows := s.store.select r.table (holds r.parent.column (cell parent "id"))
    (∃ n, r.walk s n (r.asks (some token) "1" limit) = some (rows.map told)) ↔
      1 ≤ limit ∧ (rows.length ≤ limit ∨ rows = s.store.rows r.table) ∨ limit = 0 ∧ rows = [] := by
  intro rows
  have hall : rows.Sublist (s.store.rows r.table) := filter_sublist
  have hfir : ∀ n, r.walk s (n + 1) (r.asks (some token) "1" limit) =
      if limit < rows.length then
        (r.walk s n (r.asks none "2" limit)).map (((Page.mk 1 limit).select rows).map told ++ ·)
      else some (((Page.mk 1 limit).select rows).map told) := by
    intro n
    have hone : Form.intOfText? "1" = some 1 := rfl
    have hoff : isStored (Page.offset ⟨1, limit⟩) = true := by simp [Page.offset, isStored]
    have hstep := @walk_succ r s told token parent h (some token) (by simp) "1" limit hlimit n
    rwa [hone, Option.bind_some, if_pos hoff, one_mul] at hstep
  have hsucc : (∃ n, r.walk s n (r.asks (some token) "1" limit) = some (rows.map told)) ↔
      ∃ n, r.walk s (n + 1) (r.asks (some token) "1" limit) = some (rows.map told) := by
    constructor
    · rintro ⟨_ | n, hn⟩
      · cases hn
      · exact ⟨n, hn⟩
    · rintro ⟨n, hn⟩
      exact ⟨n + 1, hn⟩
  simp only [hsucc, hfir]
  by_cases hpos : 1 ≤ limit
  · obtain ⟨k, hk⟩ := Int.eq_ofNat_of_zero_le (by omega : 0 ≤ limit)
    have hsel : (Page.mk 1 limit).select rows = rows.take k := by
      simpa [hk] using Page.select_eq (by omega : 0 ≤ limit) 0 rows
    rw [hsel]
    by_cases hfits : rows.length ≤ k
    · refine iff_of_true ⟨0, ?_⟩ (.inl ⟨hpos, .inl (by omega)⟩)
      rw [if_neg (by omega), take_of_length_le hfits]
    · have hle := hall.length_le
      have hrest : ∀ n, r.walk s n (r.asks none "2" limit) = _ := fun n =>
        walk_of_pos h hlimit (by omega) hk n 1 (by rw [one_mul]; exact lt_of_not_ge (fun h => hfits (hle.trans h)))
      simp only [if_pos (by omega : limit < rows.length), hrest, one_mul]
      constructor
      · rintro ⟨n, hn⟩
        split at hn
        · have hlen := congrArg length (Option.some.inj hn)
          simp only [length_append, length_map, length_take, length_drop, Resource.matching] at hlen
          exact .inl ⟨hpos, .inr (hall.eq_of_length (by omega))⟩
        · cases hn
      · rintro (⟨-, hfew | hsame⟩ | ⟨hzero, -⟩)
        · omega
        · refine ⟨rows.length, ?_⟩
          have hend : rows.length ≤ (1 + rows.length) * k :=
            (Nat.le_add_left _ 1).trans (Nat.le_mul_of_pos_right _ (by omega))
          rw [Resource.matching, ← hsame, if_pos hend, Option.map_some, ← map_append, take_append_drop]
        · omega
  · by_cases hnone : limit = 0 ∧ rows = []
    · rw [hnone.1, hnone.2]
      exact iff_of_true ⟨0, rfl⟩ (.inr ⟨rfl, rfl⟩)
    · refine iff_of_false ?_ fun h => h.elim (fun h => hpos h.1) hnone
      rintro ⟨n, hn⟩
      have hmore : limit < rows.length := by
        by_contra hle
        exact hnone ⟨by omega, length_eq_zero_iff.mp (by omega)⟩
      have hwalk : r.walk s n (r.asks none "2" limit) = none := by
        refine walk_of_nonpos h hlimit (by omega) (fun hzero hnil => hnone ⟨hzero, sublist_nil.mp (hnil ▸ hall)⟩) n ?_
        rintro _ ⟨⟩ -
        decide
      rw [if_pos hmore, hwalk] at hn
      cases hn

def filterEntry (id workspace : String) : Store.Entry := ⟨.savedFilters, Table.fill .savedFilters silentWorld.now id
  [("token", .text id), ("title", "Mine"), ("filter", "costs.provider = 'aws'"), ("workspace_id", .text workspace)]⟩

def twoWorkspaces : Service where
  world := silentWorld
  store := [⟨.workspaces, [("id", "a"), ("token", "ws_a")]⟩, ⟨.workspaces, [("id", "b"), ("token", "ws_b")]⟩,
    filterEntry "1" "a", filterEntry "2" "b", filterEntry "3" "a"]

def toldFilter (row : Row) : Value := (exec (describe savedFilters.shown row) twoWorkspaces).1.toOption.getD .null

lemma isWalkable_twoWorkspaces :
    savedFilters.IsWalkable twoWorkspaces toldFilter "ws_a" [("id", "a"), ("token", "ws_a")] where
  mem := by simp [resources]
  told row hrow := by
    have hrows : row ∈ [(filterEntry "1" "a").row, (filterEntry "2" "b").row, (filterEntry "3" "a").row] := hrow
    simp only [mem_cons, not_mem_nil, or_false] at hrows
    rcases hrows with rfl | rfl | rfl <;> exact ⟨rfl, rfl⟩
  few := by decide
  whole := by decide
  parent := rfl

theorem filtered_walk_of_one_page : ∃ n, savedFilters.walk twoWorkspaces n (savedFilters.asks (some "ws_a") "1" 25) =
    some ((twoWorkspaces.store.select .savedFilters (holds "workspace_id" "a")).map toldFilter) :=
  (filtered_walk_iff isWalkable_twoWorkspaces (by decide)).mpr (.inl ⟨by decide, .inl (by decide)⟩)

/-- Asked for one by one, the filters of one workspace are followed by the one of another. -/
theorem filtered_walk_strays :
    (savedFilters.walk twoWorkspaces 3 (savedFilters.asks (some "ws_a") "1" 1)).map
        (·.map fun v => ((v.field "token").toOption.bind Value.text?)) = some [some "1", some "2", some "3"] ∧
      (twoWorkspaces.store.select .savedFilters (holds "workspace_id" "a")).map (fun row => (cell row "token").text?) =
        [some "1", some "3"] := by
  decide

end Api

end CloudSpend
