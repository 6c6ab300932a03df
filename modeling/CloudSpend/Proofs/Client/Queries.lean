import CloudSpend.Client.Plain
import CloudSpend.Proofs.Api.Requests

/-! # Cost queries from client to service -/

namespace CloudSpend

open List Entries Form Value

namespace Form

variable {fields : List Field} {es : Row} {name : String}

def misfits (es : Row) (fields : List Field) : List Field := fields.filter fun f => !(judge es f).isOk

lemma Shape.checkFields_eq (h : ∀ f ∈ fields, ∀ places, judge es f = .error places → places = [[]]) :
    checkFields fields es =
      if (misfits es fields).isEmpty then .ok (fields.map fun f => (f.1, (judge es f).toOption.getD .null))
      else .error ((misfits es fields).map fun f => [f.1]) := by
  induction fields with
  | nil =>
    rw [checkFields]
    rfl
  | cons f fields ih =>
    have ih := ih fun g hg => h g (mem_cons_of_mem f hg)
    rw [checkFields_cons_eq, ih]
    cases hf : judge es f with
    | ok v =>
      have hmis : misfits es (f :: fields) = misfits es fields := by simp [misfits, hf, Except.isOk, Except.toBool]
      rw [hmis]
      cases (misfits es fields).isEmpty <;> simp [inside, both, hf, Except.toOption]
    | error places =>
      obtain rfl := h f mem_cons_self places hf
      have hmis : misfits es (f :: fields) = f :: misfits es fields := by
        simp [misfits, hf, Except.isOk, Except.toBool]
      rw [hmis]
      cases hrest : misfits es fields <;> simp [inside, both]

lemma map_misfits (es : Row) (fields : List Field) :
    (misfits es fields).map (·.1) =
      ((fields.map fun f => (f.1, (judge es f).isOk)).filter fun p => !p.2).map (·.1) := by
  rw [misfits, filter_map, map_map]
  rfl

lemma Shape.validate_record (fields : List Field) (es : Row) :
    (Shape.record fields).validate (.object es) =
      ((checkFields fields es).map .object).mapError fun places => .validation (placeNames places) := by
  rw [validate, check]

lemma judge_required {o : Option String} (h : get? es name = o.map .text) :
    judge es (required name .anyText) = if o.any isWhole then .ok (ofText? o) else .error [[]] := by
  unfold judge required
  cases o with
  | none => simp [h]
  | some s => simp [h, check_anyText, ofText?]

lemma mem_placeNames {names : List String} : name ∈ placeNames (names.map fun n => [n]) ↔ name ∈ names := by
  unfold placeNames
  simp

end Form

namespace Client.Plain

open Analytics (CostQuery)

structure QueryArgs where
  provider : Option String
  granularity : String
  start : Option String
  stop : Option String
  groupBy : Option (List String)
  filter : Option String
  limit : Int
  limit_le : 1 ≤ limit ∧ limit ≤ 10000

namespace QueryArgs

def row (a : QueryArgs) : Row :=
  [("provider", ofText? a.provider), ("granularity", .text a.granularity), ("start_date", ofText? a.start),
   ("end_date", ofText? a.stop), ("group_by", a.groupBy.elim .null texts),
   ("filter_expr", ofText? a.filter), ("limit", .int a.limit)]

def sent (o : Option String) : Option String := o.filter (!·.isEmpty)

def fits (a : QueryArgs) : List (String × Bool) :=
  [("filter", (sent a.filter).all isWhole), ("start_date", (sent a.start).any isWhole),
   ("end_date", (sent a.stop).any isWhole), ("group_by", (a.groupBy.getD []).isEmpty),
   ("granularity", isWhole a.granularity), ("provider", (sent a.provider).all isWhole)]

def refused (a : QueryArgs) : List String := (a.fits.filter fun p => !p.2).map Prod.fst

lemma fits_of_refused (a : QueryArgs) (h : a.refused = []) : ∀ p ∈ a.fits, p.2 = true := by
  rw [refused, map_eq_nil_iff, filter_eq_nil_iff] at h
  simpa using h

def query (a : QueryArgs) : CostQuery where
  filter := sent a.filter
  start := (sent a.start).getD ""
  stop := (sent a.stop).getD ""
  groupBy := "service"
  granularity := a.granularity
  provider := sent a.provider
  account := none
  limit := a.limit

end QueryArgs

open QueryArgs (sent)

lemma log_send_bind (r : Web.Request) (f : Web.Reply → Result Value) (c : Client) :
    ((do ExceptT.mk (pure (f (← send r))) : Action Value).run c).2.log = c.log ++ [.sent r] := by
  have hsend : (send r).run c = (((Run.send r).run.run c.world).1,
      { c with log := c.log ++ [.sent r], world := ((Run.send r).run.run c.world).2 }) := rfl
  have hbind : ∀ g : Web.Reply → Action Value, (∀ reply c, ((g reply).run c).2 = c) →
      ((send r >>= g).run c).2 = ((send r).run c).2 := by
    intro g hg
    have hstep : (send r >>= g).run c = ExceptT.bindCont g ((send r).run c).1 ((send r).run c).2 := rfl
    rw [hstep]
    cases ((send r).run c).1 with
    | ok reply => exact hg reply _
    | error e => rfl
  rw [hbind _ fun _ _ => rfl, hsend]

lemma log_call (a : QueryArgs) {args : List Value} {named more : Row}
    (h : queryCosts.arguments args named = .ok (a.row, more)) (c : Client) :
    ((call "query_costs" args named).run c).2.log = c.log ++ [.sent
      { method := "POST", url := c.base ++ "/query", params := none, json := some (.object (queryBody a.row)) }] := by
  have hfind : (integrationOperations ++ otherOperations ++ pathOperations).find? (fun o => o.name == "query_costs") =
      some queryCosts := rfl
  have hsta : (call "query_costs" args named).run c = (do
      let reply ← send { method := "POST", url := c.base ++ "/query", json := some (.object (queryBody a.row)) }
      ExceptT.mk (pure (do queryCosts.check (← read reply))) : Action Value).run c := by
    have hpure : (ExceptT.mk (pure (.ok (a.row, more))) : Action (Row × Row)) = pure (a.row, more) := rfl
    have hask : queryCosts.ask a.row more = post "/query" (queryBody a.row) := rfl
    unfold call closeOr Client.call
    rw [if_pos (by decide), if_neg (by decide), hfind]
    dsimp only
    rw [h, hpure, pure_bind]
    dsimp only
    rw [hask, ExceptT.run_bind]
    rfl
  rw [hsta]
  exact log_send_bind _ _ c

section Body

variable (given : Row) {names : List (String × String)} {field name : String}

lemma get?_filled_of_not_mem (h : field ∉ names.map Prod.fst) : get? (filled given names) field = none := by
  unfold filled get?
  grind

lemma get?_filled (hnod : (names.map Prod.fst).Nodup) (h : (field, name) ∈ names) :
    get? (filled given names) field = if (arg given name).truthy then some (arg given name) else none := by
  induction names with
  | nil => cases h
  | cons p names ih =>
    rw [map_cons, nodup_cons] at hnod
    have hcons : filled given (p :: names) =
        (if (arg given p.2).truthy then [(p.1, arg given p.2)] else []) ++ filled given names := by
      unfold filled
      rw [filterMap_cons]
      dsimp only
      split <;> simp_all
    rw [hcons]
    rcases mem_cons.mp h with rfl | h
    · split
      · simp [get?]
      · exact get?_filled_of_not_mem given hnod.1
    · have hne : (field == p.1) = false := by
        grind
      rw [← ih hnod.2 h]
      split
      · rw [singleton_append, get?, lookup_cons, hne]
        rfl
      · rfl

end Body

lemma truthy_ofText? (o : Option String) :
    (if (ofText? o).truthy then some (ofText? o) else none) = (sent o).map text := by
  cases o with
  | none => rfl
  | some s => cases h : s.isEmpty <;> simp [ofText?, truthy, sent, Option.filter_some, h]

def optionalFields : List (String × String) :=
  [("provider", "provider"), ("start_date", "start_date"), ("end_date", "end_date"), ("group_by", "group_by"),
   ("filter", "filter_expr")]

lemma get?_queryBody (a : QueryArgs) {field : String} (hfie : field ∉ ["granularity", "limit"]) :
    get? (queryBody a.row) field = get? (filled a.row optionalFields) field := by
  have hbody : queryBody a.row = args a.row ["granularity", "limit"] ++ filled a.row optionalFields := rfl
  rw [hbody, get?, lookup_append]
  have hnone : lookup field (args a.row ["granularity", "limit"]) = none := by
    rw [lookup_eq_none_iff]
    intro p hp
    obtain ⟨n, hn, rfl⟩ := mem_map.mp hp
    rw [bne_iff_ne]
    rintro rfl
    exact hfie hn
  rw [hnone]
  rfl

variable {o : Option String} {a : QueryArgs}

lemma get?_queryBody_text (a : QueryArgs) {field : String} (name : String)
    (h : (field, name) ∈ optionalFields) (hfie : field ∉ ["granularity", "limit"])
    (ho : arg a.row name = ofText? o) :
    get? (queryBody a.row) field = (sent o).map .text := by
  rw [get?_queryBody a hfie, get?_filled a.row (by decide) h, ho, truthy_ofText?]

lemma judge_queryBody (a : QueryArgs) :
    judge (queryBody a.row) (maybe "filter" .anyText) =
      (if (sent a.filter).all isWhole then .ok (ofText? (sent a.filter)) else .error [[]]) ∧
    judge (queryBody a.row) (required "start_date" .anyText) =
      (if (sent a.start).any isWhole then .ok (ofText? (sent a.start)) else .error [[]]) ∧
    judge (queryBody a.row) (required "end_date" .anyText) =
      (if (sent a.stop).any isWhole then .ok (ofText? (sent a.stop)) else .error [[]]) ∧
    judge (queryBody a.row) (withDefault "group_by" .anyText "service") =
      (if (a.groupBy.getD []).isEmpty then .ok "service" else .error [[]]) ∧
    judge (queryBody a.row) (withDefault "granularity" .anyText "day") =
      (if isWhole a.granularity then .ok (.text a.granularity) else .error [[]]) ∧
    judge (queryBody a.row) (maybe "provider" .anyText) =
      (if (sent a.provider).all isWhole then .ok (ofText? (sent a.provider)) else .error [[]]) ∧
    judge (queryBody a.row) (maybe "account_id" .anyText) = .ok .null ∧
    judge (queryBody a.row) (withDefault "limit" (.int (some 1) (some 10000)) (.int 1000)) =
      .ok (.int a.limit) := by
  have hgro : get? (queryBody a.row) "group_by" =
      if (a.groupBy.getD []).isEmpty then none else some (texts (a.groupBy.getD [])) := by
    rw [get?_queryBody a (by decide), get?_filled a.row (by decide) (show ("group_by", "group_by") ∈ _ by decide)]
    have harg : arg a.row "group_by" = a.groupBy.elim .null texts := rfl
    rw [harg]
    cases a.groupBy with
    | none => rfl
    | some names => cases names <;> rfl
  refine ⟨Form.judge_maybe (get?_queryBody_text a "filter_expr" (by decide) (by decide) rfl),
    judge_required (get?_queryBody_text a "start_date" (by decide) (by decide) rfl),
    judge_required (get?_queryBody_text a "end_date" (by decide) (by decide) rfl), ?_, ?_,
    judge_maybe (get?_queryBody_text a "provider" (by decide) (by decide) rfl), ?_, ?_⟩
  · unfold judge withDefault
    rw [hgro]
    cases (a.groupBy.getD []).isEmpty <;> rfl
  · exact check_anyText a.granularity
  · unfold judge maybe
    rw [get?_queryBody a (by decide), get?_filled_of_not_mem a.row (by decide)]
  · have hlim : judge (queryBody a.row) (withDefault "limit" (.int (some 1) (some 10000)) (.int 1000)) =
        need .int ((some a.limit).filter fun n => decide (1 ≤ n) && decide (n ≤ 10000)) := rfl
    rw [hlim, Option.filter_some]
    simp [a.limit_le, need]

lemma misfits_queryBody (a : QueryArgs) :
    (misfits (queryBody a.row) CostQuery.fields).map (·.1) = a.refused := by
  obtain ⟨hfil, hsta, hstop, hgro, hgra, hpro, hacc, hlim⟩ := judge_queryBody a
  have hok : ∀ (c : Bool) (v : Value), (if c then .ok v else .error [[]] : Form.Checked).isOk = c := by
    intro c v
    cases c <;> rfl
  have hfits : CostQuery.fields.map (fun f => (f.1, (judge (queryBody a.row) f).isOk)) =
      a.fits ++ [("account_id", true), ("limit", true)] := by
    simp only [CostQuery.fields, List.map, hfil, hsta, hstop, hgro, hgra, hpro, hacc, hlim,
      hok]
    rfl
  rw [map_misfits, hfits, filter_append]
  simp [QueryArgs.refused]

lemma places_of_judge_queryBody {f : Form.Field} (hf : f ∈ CostQuery.fields)
    {places : List Form.Place} (h : judge (queryBody a.row) f = .error places) : places = [[]] := by
  obtain ⟨hfil, hsta, hstop, hgro, hgra, hpro, hacc, hlim⟩ := judge_queryBody a
  have hif : ∀ {c : Bool} {v : Value}, (if c then .ok v else .error [[]] : Form.Checked) = .error places →
      places = [[]] := by
    intro c v h
    cases c <;> cases h
    rfl
  simp only [CostQuery.fields, mem_cons, not_mem_nil, or_false] at hf
  rcases hf with rfl | rfl | rfl | rfl | rfl | rfl | rfl | rfl
  all_goals grind

lemma read_queryBody (a : QueryArgs) :
    CostQuery.read (.object (queryBody a.row)) =
      if a.refused.isEmpty then .ok a.query
      else .error (.validation (placeNames (a.refused.map fun n => [n]))) := by
  obtain ⟨hfil, hsta, hstop, hgro, hgra, hpro, hacc, hlim⟩ := judge_queryBody a
  rw [CostQuery.read, CostQuery.shape, Form.Shape.validate_record,
    Form.Shape.checkFields_eq fun _ hf _ => places_of_judge_queryBody hf, ← misfits_queryBody, map_map,
    isEmpty_map]
  cases hemp : (misfits (queryBody a.row) CostQuery.fields).isEmpty with
  | false => rfl
  | true =>
    have href : a.refused = [] := by
      rw [← misfits_queryBody, isEmpty_iff.mp hemp]
      rfl
    have hfits := a.fits_of_refused href
    simp only [QueryArgs.fits, forall_mem_cons] at hfits
    obtain ⟨hfil', hsta', hstop', hgro', hgra', hpro', -⟩ := hfits
    rw [if_pos hfil'] at hfil
    rw [if_pos hsta'] at hsta
    rw [if_pos hstop'] at hstop
    rw [if_pos hgro'] at hgro
    rw [if_pos hgra'] at hgra
    rw [if_pos hpro'] at hpro
    simp only [CostQuery.fields, List.map, hfil, hsta, hstop, hgro, hgra, hpro, hacc, hlim]
    have htext : ∀ o : Option String, (ofText? o).text? = o := by
      intro o
      cases o <;> rfl
    have hque : CostQuery.ofRow
        [("filter", ofText? (sent a.filter)), ("start_date", ofText? (sent a.start)),
        ("end_date", ofText? (sent a.stop)), ("group_by", "service"), ("granularity", .text a.granularity),
        ("provider", ofText? (sent a.provider)), ("account_id", .null), ("limit", .int a.limit)] = a.query := by
      change CostQuery.mk (ofText? (sent a.filter)).text? ((ofText? (sent a.start)).text?.getD "")
        ((ofText? (sent a.stop)).text?.getD "") _ _ (ofText? (sent a.provider)).text? _ _ = _
      simp only [htext]
      rfl
    exact congrArg Except.ok hque

structure QueryArgs.Denotes (a : QueryArgs) (q : CostQuery) : Prop where
  start : a.start = some q.start
  stop : a.stop = some q.stop
  grouping : a.groupBy.getD [] = [q.groupBy] ∨ a.groupBy.getD [] = [] ∧ q.groupBy = "service"
  granularity : q.granularity = a.granularity
  daily : a.granularity = "daily" → Analytics.period (.text q.granularity) = Analytics.period "day"
  provider : q.provider.getD "" = a.provider.getD ""
  filter : q.filter.getD "" = a.filter.getD ""
  account : q.account = none
  limit : q.limit = a.limit

lemma eq_some_of_sent {p : String → Bool} (h : (sent o).any p = true) :
    o = some ((sent o).getD "") := by
  cases o with
  | none => cases h
  | some s => cases hs : s.isEmpty <;> simp_all [sent, Option.filter_some]

lemma getD_sent (o : Option String) : (sent o).getD "" = o.getD "" := by
  cases o with
  | none => rfl
  | some s => cases hs : s.isEmpty <;> simp_all [sent, Option.filter_some, String.isEmpty_iff]

lemma denotes_query (h : a.refused = []) : a.Denotes a.query := by
  have hfits := a.fits_of_refused h
  simp only [QueryArgs.fits, forall_mem_cons] at hfits
  obtain ⟨-, hsta, hstop, hgro, -⟩ := hfits
  exact {
    start := eq_some_of_sent hsta
    stop := eq_some_of_sent hstop
    grouping := .inr ⟨isEmpty_iff.mp hgro, rfl⟩
    granularity := rfl
    daily := fun hdai => by
      have hque : a.query.granularity = "daily" := hdai
      rw [hque]
      rfl
    provider := getD_sent a.provider
    filter := getD_sent a.filter
    account := rfl
    limit := rfl }

/-- **A cost query is understood exactly if both days are given and no grouping is.** The client posts one body for its
arguments. -/
theorem query_understood_iff (a : QueryArgs) {args : List Value} {named more : Row}
    (h : queryCosts.arguments args named = .ok (a.row, more)) (c : Client) :
    ∃ body, ((call "query_costs" args named).run c).2.log = c.log ++ [.sent
        { method := "POST", url := c.base ++ "/query", params := none, json := some body }] ∧
      ((∃ q, CostQuery.read body = .ok q ∧ a.Denotes q) ↔ a.refused = []) ∧
      (a.refused ≠ [] → ∃ names, CostQuery.read body = .error (.validation names) ∧
        ∀ name, name ∈ names ↔ name ∈ a.refused) := by
  have hrfu : a.refused ≠ [] → CostQuery.read (.object (queryBody a.row)) =
      .error (.validation (Form.placeNames (a.refused.map fun n => [n]))) := by
    intro href
    rw [read_queryBody, if_neg (by simpa using href)]
  refine ⟨.object (queryBody a.row), log_call a h c, ⟨?_, fun href => ?_⟩, fun href => ?_⟩
  · grind
  · exact ⟨a.query, by rw [read_queryBody, href]; rfl, denotes_query href⟩
  · exact ⟨_, hrfu href, fun _ => Form.mem_placeNames⟩

def monthArgs : QueryArgs where
  provider := some "aws"
  granularity := "daily"
  start := some "2026-01-01"
  stop := some "2026-02-01"
  groupBy := none
  filter := some "costs.region = 'us-east-1'"
  limit := 1000
  limit_le := by decide

theorem query_understood_month :
    queryCosts.arguments ["aws"] [("end_date", "2026-02-01"), ("start_date", "2026-01-01"),
      ("filter_expr", "costs.region = 'us-east-1'")] = .ok (monthArgs.row, []) ∧ monthArgs.refused = [] ∧
    ∃ body q, CostQuery.read body = .ok q ∧ monthArgs.Denotes q := by
  have hargs : queryCosts.arguments ["aws"] [("end_date", "2026-02-01"), ("start_date", "2026-01-01"),
      ("filter_expr", "costs.region = 'us-east-1'")] = .ok (monthArgs.row, []) := rfl
  have href : monthArgs.refused = [] := by decide
  obtain ⟨body, -, hread, -⟩ := query_understood_iff monthArgs hargs (Client.start Api.silentWorld address [])
  obtain ⟨q, hq⟩ := hread.mpr href
  exact ⟨hargs, href, body, q, hq⟩

def groupArgs : QueryArgs :=
  { monthArgs with provider := none, groupBy := some ["service"], filter := none }

/-- A query with both days and one grouping is refused, as the service takes one name and not a list. -/
theorem query_of_grouping_refused :
    ∃ given, queryCosts.arguments [] [("start_date", "2026-01-01"), ("end_date", "2026-02-01"),
        ("group_by", Value.texts ["service"])] = .ok (given, []) ∧
      CostQuery.read (.object (queryBody given)) = .error (.validation ["group_by"]) := by
  have href : groupArgs.refused = ["group_by"] := by decide
  have hnam : Form.placeNames [["group_by"]] = ["group_by"] := by decide +kernel
  refine ⟨groupArgs.row, rfl, ?_⟩
  rw [read_queryBody, href, map_singleton, hnam]
  rfl

end Client.Plain

end CloudSpend
