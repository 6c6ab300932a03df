import CloudSpend.Proofs.Api.SharedReports
import CloudSpend.Proofs.Cost.Reconciliation
import CloudSpend.Proofs.Data.Ranking
import CloudSpend.Proofs.Numeral.Rounding

/-! # Two ways to tell costs -/

namespace CloudSpend

open List

lemma Entries.put_put {κ α : Type} [BEq κ] {key : κ} (hkey : (key == key) = true) (es : List (κ × α)) (a b : α) :
    put (put es key a) key b = put es key b := by
  induction es with
  | nil => simp [put, hkey]
  | cons e es ih =>
    simp only [put]
    split <;> simp_all [put]

lemma exists_map_of_perm {α β : Type} {f : α → β} {xs : List β} {l : List α} (h : xs ~ l.map f) :
    ∃ l', l' ~ l ∧ xs = l'.map f := by
  obtain ⟨l', hall, hperm⟩ := perm_comp_forall₂ h
    (forall₂_map_left_iff.mpr (forall₂_same.mpr fun _ _ => rfl) : Forall₂ (fun b a => b = f a) (l.map f) l)
  refine ⟨l', hperm, ?_⟩
  rwa [← forall₂_eq_eq_eq, forall₂_map_right_iff]

namespace Date

lemma le_trans {a b c : Date} (hab : a.le b = true) (hbc : b.le c = true) : a.le c = true := by
  simp only [le, lt, Bool.not_eq_true', Bool.or_eq_false_iff, Bool.and_eq_false_iff, decide_eq_false_iff_not,
    beq_eq_false_iff_ne] at *
  omega

lemma le_total (a b : Date) : (a.le b || b.le a) = true := by
  simp only [le, lt, Bool.or_eq_true, Bool.not_eq_true', Bool.or_eq_false_iff, Bool.and_eq_false_iff,
    decide_eq_false_iff_not, beq_eq_false_iff_ne]
  omega

end Date

namespace Cost

open Arithmetic

variable {ι κ α β : Type}

/-! ### Two loops over records -/

section Loops

variable [DecidableEq ι] [BEq κ] [Arithmetic α] {name : ι → κ} (hname : ∀ i j, (name i == name j) = decide (i = j))

include hname

lemma enter_eq_accumulate {is : List ι} (his : is.Nodup) (f : ι → α) (i : ι) (amount : α) :
    enter (Entries.tabulate name is f) (name i) amount =
      accumulate zero (Entries.tabulate name is f) (name i) amount := by
  have hsum : ∀ t : List (κ × α), (do return Entries.put t (name i) (← add ((Entries.get? t (name i)).getD zero) amount)) =
      (add ((Entries.get? t (name i)).getD zero) amount).map (Entries.put t (name i)) := by
    intro t
    cases add ((Entries.get? t (name i)).getD zero) amount <;> rfl
  have hhas : Entries.has (Entries.tabulate name is f) (name i) = decide (i ∈ is) := by
    simp [Entries.has, Entries.tabulate, any_eq, hname]
  unfold enter accumulate
  rw [hhas]
  by_cases h : i ∈ is
  · simp only [h, decide_true, if_true]
    exact hsum _
  · -- what is entered first is nothing, and is written over
    have hfirst : Entries.get? (Entries.put (Entries.tabulate name is f) (name i) zero) (name i) = some zero := by
      rw [Entries.put_tabulate hname his, Entries.get?_tabulate hname]
      simp [h]
    simp only [h, decide_false, Bool.false_eq_true, if_false]
    rw [hsum, hfirst, Entries.get?_tabulate hname, if_neg h]
    congr 1
    funext a
    exact Entries.put_put (by simp [hname]) _ zero a

variable [Add β] [OfNat β 0] {number : β → α} (hadd : Adds (zero : α) number)

omit hname

def Record.numbered (name : ι → κ) (number : β → α) (r : Record ι Date β) : Record κ Date α :=
  ⟨r.day, name r.service, number r.amount⟩

def Summary.sums (name : ι → κ) (number : β → α) (rs : List (Record ι Date β)) : Summary κ Date α where
  services := (sumsBy Record.service Record.amount rs).map (Prod.map name number)
  days := (sumsBy Record.day Record.amount rs).map (Prod.map id number)

omit [BEq κ] [Arithmetic α] in
lemma foldlM_sums {f : Summary κ Date α → Record κ Date α → Result (Summary κ Date α)}
    (hstep : ∀ rs r, f (.sums name number rs) (r.numbered name number) = .ok (.sums name number (rs ++ [r])))
    (rs : List (Record ι Date β)) :
    (rs.map (.numbered name number)).foldlM f ⟨[], []⟩ = .ok (.sums name number rs) := by
  induction rs using reverseRecOn with
  | nil => rfl
  | append_singleton rs r ih =>
    rw [map_append, foldlM_append, ih]
    exact (bind_pure _).trans (hstep rs r)

include hname hadd

lemma added_eq_sums (rs : List (Record ι Date β)) :
    Summary.added (rs.map (.numbered name number)) = .ok (.sums name number rs) := by
  refine foldlM_sums (fun rs r => ?_) rs
  have hser := accumulate_sumsBy Record.service Record.amount hadd hname rs r
  have hday := accumulate_sumsBy Record.day Record.amount hadd beq_id rs r
  simp only [Summary.sums, Record.numbered, hser, bind, Except.bind, pure, Except.pure]
  exact congrArg (Except.map _) hday

lemma entered_eq_sums (rs : List (Record ι Date β)) :
    Summary.entered (rs.map (.numbered name number)) = .ok (.sums name number rs) := by
  refine foldlM_sums (fun rs r => ?_) rs
  have hser := accumulate_sumsBy Record.service Record.amount hadd hname rs r
  have hday := accumulate_sumsBy Record.day Record.amount hadd beq_id rs r
  rw [map_sumsBy, ← enter_eq_accumulate hname (nodup_eraseDups _), ← map_sumsBy] at hser
  rw [map_sumsBy, ← enter_eq_accumulate beq_id (nodup_eraseDups _), ← map_sumsBy] at hday
  simp only [Summary.sums, Record.numbered, hser, bind, Except.bind, pure, Except.pure]
  exact congrArg (Except.map _) hday

end Loops

lemma sums_exact [DecidableEq κ] (rs : Ledger κ) : ∃ t, Summary.entered rs = .ok t ∧ Summary.added rs = .ok t ∧
    t.services = (servicesIn rs).map (fun s => (s, spentOn rs s)) ∧
    t.days = (rs.map (·.day)).eraseDups.map (fun d => (d, ((rs.filter (·.day = d)).map (·.amount)).sum)) ∧
    (t.services.map (·.2)).sum = total rs ∧ (t.days.map (·.2)).sum = total rs := by
  have hadd : Adds (zero : Rat) id := ⟨fun _ => rfl, fun _ _ => rfl⟩
  have hsame : rs.map (.numbered id id) = rs := map_id rs
  have hser : (Summary.sums id id rs).services = (servicesIn rs).map fun s => (s, spentOn rs s) :=
    (exactTotals_eq_sumsBy rs).symm
  have hday : (Summary.sums id id rs).days =
      (rs.map (·.day)).eraseDups.map fun d => (d, ((rs.filter (·.day = d)).map (·.amount)).sum) := by
    simp [Summary.sums, sumsBy, sumOn, plainSum, sum_eq_foldl]
  refine ⟨.sums id id rs, ?_, ?_, hser, hday, ?_, ?_⟩
  · rw [← entered_eq_sums beq_id hadd, hsame]
  · rw [← added_eq_sums beq_id hadd, hsame]
  · rw [hser, map_map]
    exact sum_spentOn (nodup_servicesIn rs) fun r hr => mem_servicesIn.mpr ⟨r, hr, rfl⟩
  · rw [hday, map_map]
    exact sum_groups Record.day Record.amount (nodup_eraseDups _) fun r hr => mem_eraseDups.mpr (mem_map_of_mem hr)

end Cost

namespace Api

open Handler Store Table
open Store (Table cell)
open Handler (exec)

variable {c c' : Call} {r : Request} {s : Service} {response : Response} {account : Row} {data v : Value}
  {first last : Date} {store : Store} {row : Row}

/-! ### The records that are added up -/

abbrev Line := Cost.Record String Date Float

def lineOf? (row : Row) : Option Line :=
  match cell row "date", cell row "service", cell row "amount" with
  | .date day, .text service, .float amount => some ⟨day, service, amount⟩
  | _, _, _ => none

def linesOf (store : Store) (id : String) (first last : Date) : List Line :=
  (store.rows .costRecords).filterMap fun row =>
    if (cell row "aws_account_id").same (.text id) then
      (lineOf? row).filter fun line => first.le line.day && line.day.le last
    else none

lemma cells_of_lineOf? {line : Line} (h : lineOf? row = some line) : cell row "date" = .date line.day ∧
    cell row "service" = .text line.service ∧ cell row "amount" = .float line.amount := by
  unfold lineOf? at h
  split at h
  · next hdat hser hamo =>
      cases h
      exact ⟨hdat, hser, hamo⟩
  · cases h

lemma exists_lines (id : String) (first last : Date)
    (hcosts : ∀ row ∈ store.rows .costRecords, (lineOf? row).isSome) :
    ∃ rs, records (byDay (store.costs (.text id) (within first last))) = rs.map (.numbered Value.text Value.float) ∧
      rs ~ linesOf store id first last ∧ rs.Pairwise fun a b => a.day.le b.day = true := by
  have hline : ∀ row ∈ store.rows .costRecords, ∃ line, lineOf? row = some line := fun row hrow =>
    Option.isSome_iff_exists.mp (hcosts row hrow)
  have hmem : ∀ row ∈ byDay (store.costs (.text id) (within first last)), row ∈ store.rows .costRecords :=
    fun row hrow => mem_of_mem_filter ((mergeSort_perm _ _).mem_iff.mp hrow)
  refine ⟨(byDay (store.costs (.text id) (within first last))).filterMap lineOf?, ?_, ?_, ?_⟩
  · rw [map_filterMap]
    refine filterMap_congr fun row hrow => ?_
    obtain ⟨line, hline⟩ := hline row (hmem row hrow)
    obtain ⟨hdat, hser, hamo⟩ := cells_of_lineOf? hline
    simp only [hline, day?, hdat, hser, hamo]
    rfl
  · refine ((mergeSort_perm _ _).filterMap lineOf?).trans (.of_eq ?_)
    rw [Store.costs, Store.select, filterMap_filter]
    refine filterMap_congr fun row hrow => ?_
    obtain ⟨line, hline⟩ := hline row hrow
    obtain ⟨hdat, -⟩ := cells_of_lineOf? hline
    simp only [hline, ofAccount, holds, dated, day?, hdat, within, Option.any_some, Option.filter_some]
    grind
  · unfold byDay
    refine (pairwise_mergeSort (fun a b c => ?_) (fun a b => ?_) _).filterMap _
      fun a b hab line hline line' hline' => ?_
    · cases day? a <;> cases day? b <;> cases day? c <;> simp
      exact Date.le_trans
    · cases day? a <;> cases day? b <;> simp
      simpa using Date.le_total _ _
    simpa [day?, (cells_of_lineOf? hline).1, (cells_of_lineOf? hline').1] using hab

/-! ### What is told of them -/

def cents (x : Float) : Float := (Numeral.roundTo? x 2).getD x

lemma round_float (x : Float) : (Value.float x).round 2 = .ok (.float (cents x)) := by
  obtain ⟨y, hy⟩ := Numeral.exists_roundTo?_eq x 2
  simp only [Value.round, cents, hy, Option.getD_some]

def lineFigures (line : Value) : Result (Value × Value) := do return (← line.field "service", ← line.field "amount")

def figures (v : Value) : Result (Value × List (Value × Value) × Value) := do
  return (← v.field "total_spend", ← (← (← v.field "by_service").items).mapM lineFigures, ← v.field "daily_totals")

structure Tells (rs : List Line) (told : Value × List (Value × Value) × Value) : Prop where
  total : told.1 = if rs = [] then .int 0 else
    .float (cents (plainSum ((sumsBy Cost.Record.service Cost.Record.amount rs).map (·.2))))
  services : ∃ ranked, ranked ~ sumsBy Cost.Record.service Cost.Record.amount rs ∧
    ((∀ t ∈ ranked, t.2.isNaN = false) → ranked.Pairwise fun a b => b.2 ≤ a.2) ∧
    told.2.1 = ranked.map fun t => (.text t.1, .float (cents t.2))
  days : ∃ sorted, sorted ~ sumsBy Cost.Record.day Cost.Record.amount rs ∧
    sorted.Pairwise (fun a b => a.1.le b.1 = true) ∧
    told.2.2 = .list (sorted.map fun t => .object [("date", .text t.1.text), ("amount", .float (cents t.2))])

abbrev shown {ι κ : Type} (name : ι → κ) : ι × Float → κ × Value := Prod.map name Value.float

lemma mapM_round {ι κ β : Type} (name : ι → κ) (f : κ → Value → β) (l : List (ι × Float)) :
    (l.map (shown name)).mapM (fun t => do return f t.1 (← t.2.round 2)) =
      (.ok (l.map fun t => f (name t.1) (.float (cents t.2))) : Result (List β)) := by
  rw [mapM_map]
  refine Eq.trans ?_ (mapM_pure ..)
  congr 1
  funext t
  exact congrArg (· >>= fun x => .ok (f (name t.1) x)) (round_float t.2)

lemma sum_shown {ι κ : Type} (name : ι → κ) (l : List (ι × Float)) :
    Cost.Totals.sum (l.map (shown name)) =
      .ok (if l = [] then .int 0 else .float (plainSum (l.map (·.2)))) := by
  have hfold : ∀ (l : List (ι × Float)) (x : Float), ((l.map (shown name)).map (·.2)).foldlM Value.add (.float x) =
      .ok (.float ((l.map (·.2)).foldl (· + ·) x)) := by
    intro l
    induction l with
    | nil => exact fun _ => rfl
    | cons t l ih => exact fun x => ih (x + t.2)
  cases l with
  | nil => rfl
  | cons t l => exact hfold l (0 + t.2)

lemma figures_object {es : Row} {total days : Value} {lines : List (String × Float)} {f : Value → Value → Value}
    (htotal : Entries.get? es "total_spend" = some total)
    (hlines : Entries.get? es "by_service" = some (.list (lines.map fun t => f (.text t.1) (.float (cents t.2)))))
    (hdays : Entries.get? es "daily_totals" = some days) (hf : ∀ a b, lineFigures (f a b) = .ok (a, b)) :
    figures (.object es) = .ok (total, lines.map fun t => (.text t.1, .float (cents t.2)), days) := by
  have hmap : (lines.map fun t => f (.text t.1) (.float (cents t.2))).mapM lineFigures =
      .ok (lines.map fun t => (.text t.1, .float (cents t.2))) := by
    rw [mapM_map]
    refine Eq.trans ?_ (mapM_pure ..)
    congr 1
    funext t
    exact hf _ _
  simp only [figures, Value.field, htotal, hlines, hdays]
  exact congrArg (· >>= fun lines => .ok (total, lines, days)) hmap

lemma exists_told (rs : List Line) : ∃ told, Tells rs told ∧
    (∀ first last, ∃ v, costData first last (.sums .text .float rs) = .ok v ∧ figures v = .ok told) ∧
    ∀ account first last, ∃ data, reportData account first last (.sums .text .float rs) = .ok data ∧
      figures data = .ok told := by
  obtain ⟨ranked, hperm, hranked⟩ := exists_map_of_perm (Arithmetic.descending_perm (·.2)
    ((sumsBy Cost.Record.service Cost.Record.amount rs).map (shown Value.text)))
  have hsorted : ((sumsBy Cost.Record.day Cost.Record.amount rs).map (shown id)).mergeSort (fun a b => a.1.le b.1) =
      ((sumsBy Cost.Record.day Cost.Record.amount rs).mergeSort fun a b => a.1.le b.1).map (shown id) := by
    rw [map_mergeSort]
    exact fun _ _ _ _ => rfl
  have hdays := mapM_round id (fun (day : Date) amount => Value.object
    [("date", .text day.text), ("amount", amount)]) ((sumsBy Cost.Record.day Cost.Record.amount rs).mergeSort
      fun a b => a.1.le b.1)
  have hround : ∀ x : Float, Value.round (if rs = [] then .int 0 else .float x) 2 =
      .ok (if rs = [] then .int 0 else .float (cents x)) := by
    intro x
    split
    · rfl
    · exact round_float x
  have hnone : sumsBy Cost.Record.service Cost.Record.amount rs = [] ↔ rs = [] := by
    cases rs <;> simp [sumsBy, eraseDups_cons]
  refine ⟨(_, ranked.map fun t => (.text t.1, .float (cents t.2)), _), ⟨rfl, ⟨ranked, hperm, ?_, rfl⟩,
    ⟨_, mergeSort_perm _ fun a b => a.1.le b.1, ?_, rfl⟩⟩, ?_, ?_⟩
  · intro hnum
    have hfloat : ∀ t ∈ (sumsBy Cost.Record.service Cost.Record.amount rs).map (shown Value.text),
        ∃ x, t.2 = .float x := by
      simp only [mem_map]
      rintro _ ⟨t, -, rfl⟩
      exact ⟨t.2, rfl⟩
    choose! num hfloat using hfloat
    have hsame : ∀ t ∈ ranked, num (shown Value.text t) = t.2 := fun t ht =>
      (Value.float.inj (hfloat _ (mem_map_of_mem (hperm.mem_iff.mp ht)))).symm
    have hdesc := Arithmetic.descending_floats hfloat fun t ht => by
      obtain ⟨t', ht', rfl⟩ := mem_map.mp ht
      exact hsame t' (hperm.mem_iff.mpr ht') ▸ hnum t' (hperm.mem_iff.mpr ht')
    rw [hranked, pairwise_map] at hdesc
    exact hdesc.imp_of_mem fun {a b} ha hb h => hsame a ha ▸ hsame b hb ▸ h
  · refine pairwise_mergeSort (fun a b c hab hbc => ?_) (fun a b => ?_) _
    · exact Date.le_trans hab hbc
    · exact Date.le_total a.1 b.1
  · intro first last
    have hlines := mapM_round Value.text (fun service amount => Value.object
      [("date", ""), ("service", service), ("amount", amount), ("currency", "USD")]) ranked
    simp only [costData, Cost.Summary.sums, hranked, hsorted, hlines, hdays, sum_shown, hnone]
    simp only [bind, Except.bind, hround]
    exact ⟨_, rfl, figures_object (f := fun service amount => .object
      [("date", ""), ("service", service), ("amount", amount), ("currency", "USD")]) rfl rfl rfl fun _ _ => rfl⟩
  · intro account first last
    have hlines := mapM_round Value.text (fun service amount => Value.object
      [("service", service), ("amount", amount)]) ranked
    simp only [reportData, Cost.Summary.sums, hranked, hsorted, hlines, hdays, sum_shown, hnone]
    simp only [bind, Except.bind, hround]
    exact ⟨_, rfl, figures_object (f := fun service amount => .object [("service", service), ("amount", amount)])
      rfl rfl rfl fun _ _ => rfl⟩

/-! ### Both endpoints -/

lemma exec_reportOf_eq_ok (h : exec (reportOf c) s = (.ok (account, data), s)) :
    exec (accountOf c) s = (.ok account, s) ∧ ∃ first t,
      s.world.now.date.before ((c.arg "days").int?.getD 30) = .ok first ∧
      Cost.Summary.added (records (byDay (s.store.costs (cell account "id") (within first s.world.now.date)))) = .ok t ∧
      reportData account first s.world.now.date t = .ok data := by
  obtain ⟨found, s1, hacc, h⟩ := exec_bind_eq_ok.mp h
  obtain rfl : s1 = s := Leaves.eq hacc
  obtain ⟨today, s2, htod, h⟩ := exec_bind_eq_ok.mp h
  cases htod
  obtain ⟨first, s3, hfir, h⟩ := exec_bind_eq_ok.mp h
  obtain rfl : s1 = s3 := congrArg Prod.snd hfir
  obtain ⟨rows, s4, hrows, h⟩ := exec_bind_eq_ok.mp h
  cases hrows
  obtain ⟨t, s5, hsum, h⟩ := exec_bind_eq_ok.mp h
  obtain rfl : s1 = s5 := congrArg Prod.snd hsum
  obtain ⟨told, s6, hdata, h⟩ := exec_bind_eq_ok.mp h
  cases h
  exact ⟨hacc, first, t, congrArg Prod.fst hfir, congrArg Prod.fst hsum, congrArg Prod.fst hdata⟩

lemma exec_costs {t : Cost.Summary Value Date Value} (hacc : exec (accountOf c') s = (.ok account, s))
    (hfirst : c'.day? "start_date" = some first) (hlast : c'.day? "end_date" = some last)
    (hsum : Cost.Summary.entered (records (byDay (s.store.costs (cell account "id") (within first last)))) = .ok t)
    (hdata : costData first last t = .ok v) : exec (costs.run c') s = (.ok v, s) := by
  have hdays : exec (askedDays c') s = (.ok (first, last), s) := by
    unfold askedDays
    rw [hfirst, hlast]
    rfl
  have hrows : exec (costRows account (within first last)) s =
    (.ok (s.store.costs (cell account "id") (within first last)), s) := rfl
  unfold costs
  rw [exec_bind_ok hdays, exec_bind_ok hacc, exec_bind_ok hrows, hsum]
  exact congrArg (·, s) hdata

/-- A report that is shared and the summary of costs for the same account and days tell the same
figures, the sums of the recorded amounts. In exact arithmetic either loop comes to the same by service
and by day. -/
theorem report_tells_summary {id token : String}
    (hcosts : ∀ row ∈ s.store.rows .costRecords, (lineOf? row).isSome)
    (hfinds : r.finds "POST" "/api/v1/accounts/:id/reports/share" [id] = true)
    (hanswer : (answer endpoints s r).1 = .ok response) (hstatus : response.status = 200)
    (htoken : response.token? = some (.text token)) :
    (∃ c title data row first rs told, Served r shareReport c ∧
      s.world.now.date.before ((c.arg "days").int?.getD 30) = .ok first ∧
      IsShared token title data s.world.now row ∧
      (answer endpoints s r).2.store = s.store ++ [⟨.sharedReports, row⟩] ∧
      rs ~ linesOf s.store id first s.world.now.date ∧ rs.Pairwise (fun a b => a.day.le b.day = true) ∧
      Tells rs told ∧ figures data = .ok told ∧
      ∀ c' : Call, c'.params = [id] → c'.day? "start_date" = some first → c'.day? "end_date" = some s.world.now.date →
        ∃ v, exec (costs.run c') s = (.ok v, s) ∧ figures v = .ok told) ∧
    ∀ rs : Cost.Ledger String, ∃ t, Cost.Summary.entered rs = .ok t ∧ Cost.Summary.added rs = .ok t ∧
      t.services = (Cost.servicesIn rs).map (fun s => (s, Cost.spentOn rs s)) ∧
      t.days = (rs.map (·.day)).eraseDups.map (fun d => (d, ((rs.filter (·.day = d)).map (·.amount)).sum)) ∧
      (t.services.map (·.2)).sum = Cost.total rs ∧ (t.days.map (·.2)).sum = Cost.total rs := by
  refine ⟨?_, Cost.sums_exact⟩
  obtain ⟨c, account, title, data, row, hser, -, hrep, hsha, hsto⟩ :=
    shared_of_answer hfinds hanswer hstatus htoken
  obtain ⟨-, hrou⟩ := route_of_finds_mem (mem_endpoints_of_report mem_cons_self) hfinds
  obtain ⟨-, hpar⟩ : shareReport = shareReport ∧ [id] = c.params := by simpa using hrou.symm.trans hser.route
  obtain ⟨hacc, first, t, hfirst, hadded, hdata⟩ := exec_reportOf_eq_ok hrep
  obtain ⟨_, -, hid, hpure⟩ := exec_byId_bind_eq_ok ((bind_pure (accountOf c)).symm ▸ hacc)
  cases hpure
  obtain ⟨rs, hrecords, hperm, hsorted⟩ := exists_lines c.param first s.world.now.date hcosts
  have hadd : Adds (Arithmetic.zero : Value) Value.float := ⟨fun _ => rfl, fun _ _ => rfl⟩
  rw [hid, hrecords, Cost.added_eq_sums Value.text_beq hadd] at hadded
  cases hadded
  obtain ⟨told, htells, hcostData, hreportData⟩ := exists_told rs
  obtain ⟨data', hdata', hfigures⟩ := hreportData account first s.world.now.date
  cases hdata.symm.trans hdata'
  have hparam : c.param = id := by rw [Call.param, ← hpar]; rfl
  refine ⟨c, title, data, row, first, rs, told, hser, hfirst, hsha, hsto, hparam ▸ hperm, hsorted, htells, hfigures, ?_⟩
  intro c' hpar' hstart hend
  have hsame : accountOf c' = accountOf c := by simp only [accountOf, Call.param, hpar', hpar]
  obtain ⟨v, hv, hfigures'⟩ := hcostData first s.world.now.date
  refine ⟨v, exec_costs (hsame ▸ hacc) hstart hend ?_ hv, hfigures'⟩
  rw [hid, hrecords, Cost.entered_eq_sums Value.text_beq hadd]

def recordedService : Service where
  world := silentWorld
  store := sharingService.store ++ [("EC2", ⟨2026, 1, 2⟩, 12.5), ("S3", ⟨2025, 12, 2⟩, 2)].map fun t =>
    ⟨.costRecords, fill .costRecords silentWorld.now t.1
      [("aws_account_id", "1"), ("date", .date t.2.1), ("service", .text t.1), ("amount", .float t.2.2)]⟩

lemma answer_recordedService : ∃ response, (answer endpoints recordedService shareRequest).1 = .ok response ∧
    response.status = 200 ∧ response.token? = some (.text "url1") := by
  obtain ⟨hhere, hrou⟩ := route_of_finds_mem (mem_endpoints_of_report mem_cons_self) finds_shareRequest
  refine shared_of_tellsToken ?_
  rw [answer_of_route hhere hrou]
  decide +kernel

def recordedFigures : Value × List (Value × Value) × Value :=
  (.float 12.5, [("EC2", .float 12.5)], .list [.object [("date", "2026-01-02"), ("amount", .float 12.5)]])

/-- Both tell the record of the last month. -/
theorem report_tells_recorded :
    (∀ row ∈ recordedService.store.rows .costRecords, (lineOf? row).isSome) ∧
    ∃ c first row title data v, Served shareRequest shareReport c ∧ silentWorld.now.date.before 30 = .ok first ∧
      IsShared "url1" title data silentWorld.now row ∧
      (answer endpoints recordedService shareRequest).2.store = recordedService.store ++ [⟨.sharedReports, row⟩] ∧
      figures data = .ok recordedFigures ∧ figures v = .ok recordedFigures ∧ exec (costs.run
        ⟨["1"], [("start_date", .date first), ("end_date", .date silentWorld.now.date)], [], [], []⟩) recordedService =
          (.ok v, recordedService) := by
  have hcosts : ∀ row ∈ recordedService.store.rows .costRecords, (lineOf? row).isSome := by decide
  obtain ⟨response, hans, hsta, htok⟩ := answer_recordedService
  obtain ⟨⟨c, title, data, row, first, rs, told, hser, hfirst, hsha, hsto, hperm, -, htells, hfig, hcost⟩, -⟩ :=
    report_tells_summary hcosts finds_shareRequest hans hsta htok
  rw [Call.arg, (served_shareRequest hser).2] at hfirst
  have hbefore : recordedService.world.now.date.before 30 = .ok ⟨2025, 12, 16⟩ :=
    Result.eq_ok_of_toOption (by decide +kernel)
  cases hbefore.symm.trans hfirst
  have hlines : linesOf recordedService.store "1" ⟨2025, 12, 16⟩ silentWorld.now.date = [⟨⟨2026, 1, 2⟩, "EC2", 12.5⟩] := rfl
  obtain rfl := perm_singleton.mp (hlines ▸ hperm)
  obtain ⟨htotal, ⟨ranked, hranked, -, hser'⟩, ⟨sorted, hsorted, -, hdays⟩⟩ := htells
  obtain rfl : ranked = [("EC2", 0 + 12.5)] := perm_singleton.mp hranked
  obtain rfl : sorted = [(⟨2026, 1, 2⟩, 0 + 12.5)] := perm_singleton.mp hsorted
  have hcents : cents (0 + 12.5) = 12.5 ∧ cents (0 + (0 + 12.5)) = 12.5 := by decide +kernel
  have htold : told = recordedFigures := by
    refine Prod.ext (htotal.trans (congrArg Value.float hcents.2)) (Prod.ext ?_ ?_)
    · rw [hser', map_singleton, hcents.1]
      rfl
    · rw [hdays, map_singleton, hcents.1]
      rfl
  obtain ⟨v, hrun, hv⟩ := hcost ⟨["1"], [("start_date", .date ⟨2025, 12, 16⟩), ("end_date", .date silentWorld.now.date)], [],
    [], []⟩ rfl rfl rfl
  exact ⟨hcosts, c, ⟨2025, 12, 16⟩, row, title, data, v, hser, hbefore, hsha, hsto, htold ▸ hfig, htold ▸ hv, hrun⟩

end Api

end CloudSpend
