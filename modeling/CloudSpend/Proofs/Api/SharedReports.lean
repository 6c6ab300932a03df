import CloudSpend.Proofs.Api.Sendable
import CloudSpend.Proofs.Api.Tokens

/-! # Shared reports stay what they were -/

namespace CloudSpend.Api

open Handler List Store Json Table
open Store (Table cell textCell holds)
open Handler (exec)

variable {c : Call} {e : Endpoint} {r : Request} {s s' : Service} {v data : Value} {row : Row}
  {title token : String} {time : Timestamp} {response : Response}

def reports (s : Service) : List Row := s.store.rows .sharedReports

lemma mem_endpoints_of_report (he : e ∈ reportEndpoints) : e ∈ endpoints := by
  simp only [endpoints, mem_append, he, or_true, true_or]

lemma leaves_reports_or_eq (he : e ∈ endpoints) : (∀ c, Leaves reports (e.run c)) ∨ e = shareReport := by
  rcases leaves_rows_or_mem_group .sharedReports he with hlea | ⟨g, hg, he⟩
  · exact .inl hlea
  · have hgro : groups.filter (·.2.contains .sharedReports) = [(reportEndpoints, [.sharedReports])] := rfl
    rw [hgro, mem_singleton] at hg
    subst hg
    simp only [reportEndpoints, mem_cons, not_mem_nil, or_false] at he
    rcases he with rfl | rfl | rfl
    · exact .inr rfl
    · exact .inl (leaves_readReport)
    · exact .inl (leaves_overview)

def reportOf (c : Call) : Handler (Row × Value) := do
  let account ← accountOf c
  let today ← Handler.today
  let first ← liftM (today.before ((c.arg "days").int?.getD 30) : Result Date)
  let rows ← costRows account (within first today)
  let summary ← liftM (Cost.Summary.added (records (byDay rows)))
  let data ← liftM (reportData account first today summary)
  return (account, data)

instance (c : Call) : Leaves (fun s => s) (reportOf c) := leaves_bind

structure IsShared (token title : String) (data : Value) (time : Timestamp) (row : Row) : Prop where
  token : cell row "token" = .text token
  title : cell row "title" = .text title
  data : textCell row "report_data" = write data
  lasting : cell row "expires_at" = .null
  created : cell row "created_at" = .timestamp time

def sharedCells (account : Value) (token title : String) (data : Value) : Row :=
  [("aws_account_id", account), ("token", .text token), ("title", .text title),
   ("report_data", .text (write data))]

lemma isShared_fill (account : Value) (token title : String) (data : Value) (now : Timestamp) (id : String) :
    IsShared token title data now (fill .sharedReports now id
      (stated .sharedReports (sharedCells account token title data))) := by
  have hcell : ∀ c ∈ columns .sharedReports, _ := fun c hc =>
    cell_fill_eq hc now id (stated .sharedReports (sharedCells account token title data))
  simp only [columns, mem_cons, not_mem_nil, or_false, forall_eq_or_imp, forall_eq] at hcell
  obtain ⟨-, -, htok, htit, hdata, hlas, hcre⟩ := hcell
  cases account with
  | null | bool | int | float | text | list | object | date | timestamp =>
    exact ⟨htok, htit, congrArg (fun v => v.text?.getD "") hdata, hlas, hcre⟩

lemma title_of_takes (h : shareReport.Takes r c) : ∃ title, c.arg "title" = .text title := by
  obtain ⟨v, rest, hque, -, htit⟩ := Form.Shape.checkFields_cons (checkQuery_of_takes h)
  have hv : ∃ title, v = .text title := by
    split at htit
    · exact (eq_of_check_text htit).2
    · exact ⟨_, (Option.some.inj htit).symm⟩
  obtain ⟨title, rfl⟩ := hv
  exact ⟨title, by rw [Call.arg, hque]; rfl⟩

lemma exec_shareReport_eq_ok (htit : c.arg "title" = .text title)
    (h : exec (shareReport.run c) s = (.ok v, s')) :
    ∃ account data token row es, exec (reportOf c) s = (.ok (account, data), s) ∧
      v = .object (("token", .text token) :: es) ∧ s'.store = s.store ++ [⟨.sharedReports, row⟩] ∧
      s'.store.sound = true ∧ IsShared token title data s.world.now row := by
  have hrun : shareReport.run c = reportOf c >>= fun found => do
      let token ← newToken fun n => "url" ++ toString n
      discard (insert .sharedReports (sharedCells (cell found.1 "id") token title found.2))
      return .object [("token", .text token), ("url", .text (serviceAddress ++ "/reports/" ++ token)),
        ("title", .text title)] := by
    simp only [shareReport, reportOf, bind_assoc, pure_bind, htit, sharedCells]
  rw [hrun] at h
  obtain ⟨⟨account, data⟩, s1, hrep, h⟩ := exec_bind_eq_ok.mp h
  obtain ⟨token, s2, htok, h⟩ := exec_bind_eq_ok.mp h
  cases htok
  obtain ⟨_, s3, hadd, h⟩ := exec_bind_eq_ok.mp h
  obtain ⟨row, s4, hins, hdis⟩ := exec_bind_eq_ok.mp hadd
  cases hdis
  cases h
  obtain rfl := Leaves.eq hrep
  obtain ⟨⟨id, rfl⟩, hsto, hsou, -⟩ := exec_insert_eq_ok hins
  exact ⟨account, data, _, _, _, hrep, rfl, hsto, hsou, isShared_fill _ _ title data _ id⟩

lemma mem_reports_answer (hrow : row ∈ reports s) (r : Request) : row ∈ reports (answer endpoints s r).2 := by
  have hans := answered s r
  generalize answer endpoints s r = answered at hans ⊢
  cases hans with
  | elsewhere | unknown | aside | failed => exact hrow
  | @done e c v s' response hser hrun hrep =>
    rcases leaves_reports_or_eq (mem_of_route hser.route) with hlea | rfl
    · exact (hlea c).view_eq hrun ▸ hrow
    · obtain ⟨title, htit⟩ := title_of_takes hser.takes
      obtain ⟨_, _, _, row', _, -, -, hsto, -⟩ := exec_shareReport_eq_ok htit hrun
      dsimp only
      rw [reports, hsto, rows_append, if_pos rfl]
      exact mem_append_left _ hrow

lemma shared_of_answer {id : String} (hfin : r.finds "POST" "/api/v1/accounts/:id/reports/share" [id] = true)
    (hans : (answer endpoints s r).1 = .ok response) (hsta : response.status = 200)
    (htok : response.token? = some (.text token)) :
    ∃ c account title data row, Served r shareReport c ∧ c.arg "title" = .text title ∧
      exec (reportOf c) s = (.ok (account, data), s) ∧ IsShared token title data s.world.now row ∧
      (answer endpoints s r).2.store = s.store ++ [⟨.sharedReports, row⟩] := by
  have href : ∀ err, reply (.error err) ≠ .ok response := by
    intro err hrep
    rw [token?_of_refusal hrep] at htok
    cases htok
  obtain ⟨e, c, v, hser, hrun, hrep⟩ := exec_of_answer hans hsta href
  obtain ⟨-, hrou⟩ := route_of_finds_mem (mem_endpoints_of_report mem_cons_self) hfin
  obtain ⟨rfl, -⟩ : shareReport = e ∧ [id] = c.params := by simpa using hrou.symm.trans hser.route
  obtain ⟨title, htit⟩ := title_of_takes hser.takes
  obtain ⟨account, data, token', row, es, hrpo, rfl, hsto, -, hsha⟩ := exec_shareReport_eq_ok htit hrun
  obtain ⟨es', rfl⟩ := reply_of_token rfl hrep
  cases htok
  exact ⟨c, account, title, data, row, hser, htit, hrpo, hsha, hsto⟩

def shownReport (title : String) (time : Timestamp) (data : Value) : Value :=
  .object [("title", .text title), ("created_at", .timestamp time), ("data", data)]

lemma exec_readReport (hsou : s.store.sound = true) (hrow : row ∈ reports s)
    (hsha : IsShared token title data time row) (hread : read (write data) = .ok data)
    (hpar : c.param = token) : exec (readReport.run c) s = (.ok (shownReport title time data), s) := by
  have hfind : exec (find? .sharedReports "token" (.text c.param)) s = (.ok (some row), s) := by
    obtain ⟨front, back, hrows⟩ := append_of_mem hrow
    have hsel := select_key hsou (by decide) hrows hsha.token
    rw [hsha.token, ← hpar] at hsel
    have hrows : exec (select .sharedReports (holds "token" (.text c.param))) s = _ :=
      exec_select fun _ _ _ => rfl
    rw [hsel] at hrows
    exact exec_bind_ok hrows _
  have hfou : exec (found "Report" (some row)) s = (.ok row, s) := rfl
  have hpast : isPast s.world.now (cell row "expires_at") = false := by
    rw [hsha.lasting]
    rfl
  unfold readReport
  dsimp only
  rw [exec_bind_ok hfind, exec_bind_ok hfou, exec_bind_ok (exec_now s),
    hpast, if_neg Bool.false_ne_true, hsha.data, hread, hsha.title, hsha.created]
  rfl

lemma answer_readReport (hsou : s.store.sound = true) (hrow : row ∈ reports s)
    (hsha : IsShared token title data time row) (hread : read (write data) = .ok data)
    (hfin : r.finds "GET" "/api/v1/reports/:token" [token] = true) :
    (answer endpoints s r).1 = reply (readReport.reply (shownReport title time data)) := by
  obtain ⟨hhere, hrou⟩ :=
    route_of_finds_mem (mem_endpoints_of_report (mem_cons_of_mem _ mem_cons_self)) hfin
  obtain ⟨c, hpar, -, hwork⟩ := exec_work_of_bare (e := readReport) rfl rfl [token] r [] s
  rw [exec_readReport hsou hrow hsha hread (by rw [Call.param, hpar]; rfl)] at hwork
  have hser : exec (readReport.serve [token] r) s = (readReport.reply (shownReport title time data), s) := hwork
  rw [answer_of_route hhere hrou]
  cases hrep : readReport.reply (shownReport title time data) with
  | error err => rw [hrep] at hser; rw [transact_of_error hser]
  | ok response => rw [hrep] at hser; rw [transact_of_ok hser]

def sentReport (title : String) (time : Timestamp) (data : Value) : Value :=
  .object [("title", .text title), ("created_at", .text time.text), ("data", data)]

lemma reply_shownReport (hdata : render data = .ok data) :
    reply (readReport.reply (shownReport title time data)) =
      (sendable (sentReport title time data)).map fun body => ⟨200, body⟩ := by
  have hsho : render (shownReport title time data) = .ok (sentReport title time data) := by
    simp [shownReport, sentReport, render, renderEntries, hdata, bind, Except.bind, pure, Except.pure, Except.map]
  have hval : readReport.answer.validate (shownReport title time data) = .ok (shownReport title time data) := rfl
  have hrep : readReport.reply (shownReport title time data) =
      (sendable (sentReport title time data)).map fun body => ⟨200, body⟩ := by
    simp only [Endpoint.reply, hval, hsho, bind, Except.bind]
    cases sendable (sentReport title time data) <;> rfl
  rw [hrep]
  cases hsent : sendable (sentReport title time data) with
  | ok body => rfl
  | error err =>
    unfold sendable Text.bytes at hsent
    split at hsent <;> cases hsent
    rfl

structure HoldsReport (row : Row) (s : Service) : Prop where
  sound : s.store.sound = true
  mem : row ∈ reports s

lemma HoldsReport.afterSteps (h : HoldsReport row s) (steps : List (World × Request)) : HoldsReport row (afterSteps s steps) :=
  afterSteps_invariant (P := HoldsReport row) (fun s w r hs => ⟨sound_answer (s := { s with world := w }) hs.sound r,
    mem_reports_answer (s := { s with world := w }) hs.mem r⟩) h steps

lemma token_ne_of_shared {token' title' : String} {data' : Value} {time' : Timestamp} {row' : Row}
    (hrow : row ∈ reports s) (hsha : IsShared token title data time row)
    (hsha' : IsShared token' title' data' time' row')
    (hsou : sound (s.store ++ [⟨.sharedReports, row'⟩]) = true) : token' ≠ token := by
  rintro rfl
  obtain ⟨front, back, hrows⟩ := append_of_mem hrow
  have hrows' : rows (s.store ++ [⟨.sharedReports, row'⟩]) .sharedReports = front ++ row :: (back ++ [row']) := by
    rw [reports] at hrows
    rw [rows_append, if_pos rfl, hrows, append_assoc, cons_append]
  obtain ⟨-, -, hback⟩ := holds_key_of_split hsou (by decide) hrows' hsha.token
  have hapa := hback row' (mem_append_right _ mem_cons_self)
  rw [hsha.token] at hapa
  simp [holds, hsha'.token, Value.same] at hapa

/-- A report that was shared is shown by its token after every run of requests, whatever the worlds in which they are
made, as it was when it was shared, and no report that is shared later has its token. -/
theorem shared_report_kept {id : String} (hsound : s.store.sound = true)
    (hfinds : r.finds "POST" "/api/v1/accounts/:id/reports/share" [id] = true)
    (hanswer : (answer endpoints s r).1 = .ok response) (hstatus : response.status = 200)
    (htoken : response.token? = some (.text token)) :
    ∃ c account title data, Served r shareReport c ∧ c.arg "title" = .text title ∧
      exec (reportOf c) s = (.ok (account, data), s) ∧
      (Json.read (Json.write data) = .ok data → ∀ steps w r',
        r'.finds "GET" "/api/v1/reports/:token" [token] = true →
        (answer endpoints { afterSteps (answer endpoints s r).2 steps with world := w } r').1 =
          reply (readReport.reply (shownReport title s.world.now data))) ∧
      (render data = .ok data → reply (readReport.reply (shownReport title s.world.now data)) =
        (sendable (sentReport title s.world.now data)).map fun body => ⟨200, body⟩) ∧
      ∀ steps w r' id' response' token',
        r'.finds "POST" "/api/v1/accounts/:id/reports/share" [id'] = true →
        (answer endpoints { afterSteps (answer endpoints s r).2 steps with world := w } r').1 = .ok response' →
        response'.status = 200 → response'.token? = some (.text token') → token' ≠ token := by
  obtain ⟨c, account, title, data, row, hser, htit, hrep, hsha, hsto⟩ :=
    shared_of_answer hfinds hanswer hstatus htoken
  have hkee : HoldsReport row (answer endpoints s r).2 := by
    refine ⟨sound_answer hsound r, ?_⟩
    rw [reports, hsto, rows_append, if_pos rfl]
    exact mem_append_right _ mem_cons_self
  refine ⟨c, account, title, data, hser, htit, hrep, ?_, reply_shownReport, ?_⟩
  · intro hread steps w r' hfinds'
    have hkept := hkee.afterSteps steps
    exact answer_readReport (s := { afterSteps (answer endpoints s r).2 steps with world := w }) hkept.sound hkept.mem
      hsha hread hfinds'
  · intro steps w r' id' response' token' hfinds' hanswer' hstatus' htoken'
    have hkept := hkee.afterSteps steps
    obtain ⟨_, _, _, _, row', -, -, -, hsha', hsto'⟩ := shared_of_answer hfinds' hanswer' hstatus' htoken'
    refine token_ne_of_shared hkept.mem hsha hsha' ?_
    have hsound' := sound_answer (s := { afterSteps (answer endpoints s r).2 steps with world := w }) hkept.sound r'
    rwa [hsto'] at hsound'

def sharingService : Service where
  world := silentWorld
  store := [userEntry "a", ⟨.awsAccounts, fill .awsAccounts silentWorld.now "1"
    [("user_id", "a"), ("aws_account_id", "123456789012"), ("role_arn", "arn"), ("external_id", "x")]⟩]

def shareRequest : Request where
  method := "POST"
  path := "/api/v1/accounts/1/reports/share"

def closeRequest : Request where
  method := "DELETE"
  path := "/api/v1/accounts/1"

def showRequest : Request where
  method := "GET"
  path := "/api/v1/reports/url1"

def blankReport : Value := .object [("account_name", "123456789012"), ("period_start", "2025-12-16"),
  ("period_end", "2026-01-15"), ("total_spend", .int 0), ("by_service", .list []), ("daily_totals", .list [])]

def isBlankReport : Result Value → Bool
  | .ok (.object [(k1, .text name), (k2, .text first), (k3, .text last), (k4, .int total), (k5, .list []),
      (k6, .list [])]) =>
    [k1, k2, k3, k4, k5, k6] ==
      ["account_name", "period_start", "period_end", "total_spend", "by_service", "daily_totals"] &&
    [name, first, last] == ["123456789012", "2025-12-16", "2026-01-15"] && total == 0
  | _ => false

lemma eq_of_isBlankReport {r : Result Value} (h : isBlankReport r = true) : r = .ok blankReport := by
  unfold isBlankReport at h
  split at h
  · simp only [Bool.and_eq_true, beq_iff_eq, cons.injEq, and_true] at h
    obtain ⟨⟨⟨rfl, rfl, rfl, rfl, rfl, rfl⟩, rfl, rfl, rfl⟩, rfl⟩ := h
    rfl
  · cases h

lemma read_blankReport : read (write blankReport) = .ok blankReport :=
  eq_of_isBlankReport (by decide +kernel)

lemma finds_shareRequest : shareRequest.finds shareReport.method shareReport.path ["1"] = true :=
  finds_of_mem (mem_endpoints_of_report mem_cons_self) rfl (by decide)

lemma served_shareRequest (hser : Served shareRequest shareReport c) :
    c.params = ["1"] ∧ c.query = [("title", .text "Cost Report"), ("days", .int 30)] := by
  have hrou := (route_of_finds_mem (mem_endpoints_of_report mem_cons_self) finds_shareRequest).2
  have hpar : ["1"] = c.params := by simpa using hrou.symm.trans hser.route
  exact ⟨hpar.symm, (Except.ok.inj hser.takes.1).symm⟩

lemma report_of_shareRequest {account : Row} (hser : Served shareRequest shareReport c)
    (hrep : exec (reportOf c) sharingService = (.ok (account, data), sharingService)) : data = blankReport := by
  obtain ⟨hpar, hque⟩ := served_shareRequest hser
  have hsame : reportOf c = reportOf ⟨["1"], [("title", "Cost Report"), ("days", .int 30)], [], [], []⟩ := by
    simp only [reportOf, accountOf, Call.param, Call.arg, hpar, hque]
  have hbla : isBlankReport ((exec (reportOf ⟨["1"], [("title", "Cost Report"), ("days", .int 30)], [], [], []⟩)
      sharingService).1.map Prod.snd) = true := by decide +kernel
  have hdata := eq_of_isBlankReport hbla
  rw [← hsame, hrep] at hdata
  exact Except.ok.inj hdata

lemma sendable_blankReport : sendable (sentReport "Cost Report" silentWorld.now blankReport) =
    .ok (sentReport "Cost Report" silentWorld.now blankReport) := by
  have hasc : ∀ s ∈ ["title", "created_at", "data", "Cost Report", "account_name", "123456789012", "period_start",
      "2025-12-16", "period_end", "2026-01-15", "total_spend", "by_service", "daily_totals"], Text.IsAscii s := by
    decide
  have hwho {s : String} (h : s ∈ _) : Text.IsWhole s := (hasc s h).isWhole
  have hbla : IsSendable blankReport := by
    refine .object ?_ ?_
    all_goals simp [hwho, IsSendable.text, IsSendable.int, IsSendable.list]
  refine IsSendable.sendable_eq (.object ?_ ?_)
  all_goals simp [hwho, IsSendable.text, hbla, silentWorld.now.isAscii_text.isWhole]

def tellsToken (token : String) : Result Response → Bool
  | .ok response => response.status == 200 && response.token?.bind Value.text? == some token
  | .error _ => false

lemma shared_of_tellsToken {answer : Result Response} (h : tellsToken token answer = true) :
    ∃ response, answer = .ok response ∧ response.status = 200 ∧ response.token? = some (.text token) := by
  cases answer with
  | error err => cases h
  | ok response =>
    obtain ⟨hsta, htok⟩ := Bool.and_eq_true_iff.mp h
    obtain ⟨v, hv, hvte⟩ := Option.bind_eq_some_iff.mp (beq_iff_eq.mp htok)
    refine ⟨response, rfl, beq_iff_eq.mp hsta, ?_⟩
    cases v <;> cases hvte
    exact hv

lemma answer_shareRequest : ∃ response, (answer endpoints sharingService shareRequest).1 = .ok response ∧
    response.status = 200 ∧ response.token? = some (.text "url1") := by
  obtain ⟨hhere, hrou⟩ := route_of_finds_mem (mem_endpoints_of_report mem_cons_self) finds_shareRequest
  refine shared_of_tellsToken ?_
  rw [answer_of_route hhere hrou]
  decide +kernel

/-- The report of an account is shown also after the account was disconnected. -/
theorem shared_report_kept_of_disconnected :
    sharingService.store.sound = true ∧
      shareRequest.finds "POST" "/api/v1/accounts/:id/reports/share" ["1"] = true ∧
      (∃ response, (answer endpoints sharingService shareRequest).1 = .ok response ∧
        response.token? = some (.text "url1")) ∧
      showRequest.finds "GET" "/api/v1/reports/:token" ["url1"] = true ∧
      (answer endpoints { afterSteps (answer endpoints sharingService shareRequest).2 [(silentWorld, closeRequest)] with
        world := silentWorld } showRequest).1 = .ok ⟨200, sentReport "Cost Report" silentWorld.now blankReport⟩ := by
  have hsou : sharingService.store.sound = true := by decide
  have hpar : readReport.params? showRequest.path = some ["url1"] := by decide
  have hsho : showRequest.finds readReport.method readReport.path ["url1"] = true :=
    finds_of_mem (mem_endpoints_of_report (mem_cons_of_mem _ mem_cons_self)) rfl hpar
  have hfin := finds_shareRequest
  obtain ⟨response, hans, hsta, htok⟩ := answer_shareRequest
  obtain ⟨c, account, title, data, hser, htit, hrep, hkept, hsent, -⟩ :=
    shared_report_kept hsou hfin hans hsta htok
  obtain rfl := report_of_shareRequest hser hrep
  obtain rfl : "Cost Report" = title := by
    rw [Call.arg, (served_shareRequest hser).2] at htit
    exact Value.text.inj htit
  refine ⟨hsou, hfin, ⟨response, hans, htok⟩, hsho, ?_⟩
  rw [hkept read_blankReport _ _ _ hsho, hsent rfl, sharingService, sendable_blankReport]
  rfl

end CloudSpend.Api
