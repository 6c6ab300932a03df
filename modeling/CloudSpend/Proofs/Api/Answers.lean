import CloudSpend.Proofs.Api.Frame
import CloudSpend.Proofs.Api.Routing

/-! # Answers -/

namespace CloudSpend.Api

open Handler List Access.Session
open Store (Table cell holds)

variable {s s' : Service} {err : Fault} {response : Response} {r : Request} {e : Endpoint} {params : List String}
  {token id : String}

def serve (r : Request) : Handler Response := do
  let (e, params) ← liftM (route endpoints r)
  e.serve params r

def reply : Result Response → Result Response
  | .error (.http status detail) =>
    (sendable (.object [("detail", .text detail)])).map fun body => ⟨status, body⟩
  | outcome => outcome

lemma eq_of_sendable {shown body : Value} (h : sendable shown = .ok body) : body = shown := by
  unfold sendable at h
  obtain ⟨_, -, hbody⟩ := Result.map_eq_ok.mp h
  exact hbody.symm

lemma eq_http_of_reply (h : reply (.error err) = .ok response) :
    ∃ status detail, err = .http status detail ∧ response = ⟨status, .object [("detail", .text detail)]⟩ := by
  unfold reply at h
  split at h
  · next status detail he =>
      obtain ⟨body, hsent, rfl⟩ := Result.map_eq_ok.mp h
      obtain rfl := eq_of_sendable hsent
      exact ⟨status, detail, Except.error.inj he, rfl⟩
  · cases h

lemma answer_of_ok (hhere : isElsewhere endpoints r.path = false)
    (h : exec (serve r) s = (.ok response, s')) : answer endpoints s r = (.ok response, s') := by
  have htra : s.transact (serve r) = (.ok response, s') := by
    rw [exec] at h
    simp [Service.transact, h]
  unfold answer
  rw [hhere, if_neg Bool.false_ne_true]
  split
  · next href => cases htra.symm.trans href
  · exact htra

lemma answer_of_error (hhere : isElsewhere endpoints r.path = false) (h : exec (serve r) s = (.error err, s')) :
    answer endpoints s r = (reply (.error err), { s' with store := s.store }) := by
  have htra : s.transact (serve r) = (.error err, { s' with store := s.store }) := by
    rw [exec] at h
    simp [Service.transact, h]
  unfold answer
  rw [hhere, if_neg Bool.false_ne_true]
  split
  · next href =>
      cases htra.symm.trans href
      rfl
  · next hoth =>
      refine htra.trans ?_
      cases err with
      | http status detail => exact (hoth _ _ _ htra).elim
      | _ => rfl

lemma mem_endpointsAt_of_route (h : route endpoints r = .ok (e, params)) :
    (e, params) ∈ endpointsAt endpoints r.path := by
  unfold route at h
  grind

lemma isElsewhere_of_route (h : route endpoints r = .ok (e, params)) :
    isElsewhere endpoints r.path = false := by
  have hsome : (endpointsAt endpoints r.path).isEmpty = false :=
    isEmpty_eq_false_iff_exists_mem.mpr ⟨_, mem_endpointsAt_of_route h⟩
  simp [isElsewhere, hsome]

def Endpoint.work (e : Endpoint) (params : List String) (r : Request) (user : Row) : Handler Response :=
  match Form.both Prod.mk (e.readQuery r.query) (e.readBody r.body) with
  | .error places => return ⟨422, Value.texts (Form.placeNames places)⟩
  | .ok (query, body) => do
    let v ← e.run { params, query, body, given := (r.body.object?.getD []).map (·.1), user }
    let shown ← liftM (do render (← e.answer.validate v) : Result Value)
    return ⟨e.status, ← liftM (sendable shown)⟩

lemma Endpoint.serve_eq (e : Endpoint) (params : List String) (r : Request) :
    e.serve params r =
      if e.signedIn then currentUser r.credential >>= e.work params r else pure [] >>= e.work params r :=
  rfl

lemma answer_of_route (hhere : isElsewhere endpoints r.path = false)
    (hrou : route endpoints r = .ok (e, params)) (s : Service) :
    answer endpoints s r = (reply (s.transact (e.serve params r)).1, (s.transact (e.serve params r)).2) := by
  have hser : exec (serve r) s = exec (e.serve params r) s := by
    have hbind : serve r = liftM (route endpoints r) >>= fun found => found.1.serve found.2 r := rfl
    rw [hbind, hrou]
    rfl
  rcases hrun : exec (e.serve params r) s with ⟨err | response, s'⟩
  · rw [transact_of_error hrun]
    exact answer_of_error hhere (hser.trans hrun)
  · rw [transact_of_ok hrun]
    exact answer_of_ok hhere (hser.trans hrun)

theorem answer_of_signedIn (hhere : isElsewhere endpoints r.path = false)
    (hrou : route endpoints r = .ok (e, params)) (hsig : e.signedIn = true) (s : Service) :
    (∃ err, exec (currentUser r.credential) s = (.error err, s) ∧ answer endpoints s r = (reply (.error err), s)) ∨
      ∃ user, exec (currentUser r.credential) s = (.ok user, s) ∧
        answer endpoints s r =
          (reply (s.transact (e.work params r user)).1, (s.transact (e.work params r user)).2) := by
  rw [answer_of_route hhere hrou, Endpoint.serve_eq, if_pos hsig]
  rcases huser : exec (currentUser r.credential) s with ⟨err | user, s'⟩
  · obtain rfl := Leaves.eq huser
    rw [transact_of_error (exec_bind_of_error huser _)]
    exact .inl ⟨err, rfl, rfl⟩
  · obtain rfl := Leaves.eq huser
    refine .inr ⟨user, rfl, ?_⟩
    rcases hwork : exec (e.work params r user) s' with ⟨err | response, s1⟩
    · rw [transact_of_error hwork, transact_of_error ((exec_bind_ok huser _).trans hwork)]
    · rw [transact_of_ok hwork, transact_of_ok ((exec_bind_ok huser _).trans hwork)]

lemma answer_of_user (hhere : isElsewhere endpoints r.path = false)
    (hrou : route endpoints r = .ok (e, params)) (hsig : e.signedIn = true) {s : Service} {user : Row}
    (huser : exec (currentUser r.credential) s = (.ok user, s)) :
    answer endpoints s r = (reply (s.transact (e.work params r user)).1, (s.transact (e.work params r user)).2) := by
  rcases answer_of_signedIn hhere hrou hsig s with ⟨err, herr, -⟩ | ⟨user', huser', hans⟩
  all_goals grind

def namedBy (now : Timestamp) (token : String) : Option String :=
  ((claims? now token).toOption.join.bind fun c => Entries.get? c "sub").bind Value.text?

lemma exec_subject?_of_namedBy (h : namedBy s.world.now token = some id) :
    exec (subject? token) s = (.ok (some (.text id)), s) := by
  unfold namedBy at h
  unfold subject?
  rw [exec_bind_ok (exec_now s), exec_bind, exec_liftM_result]
  cases hcla : claims? s.world.now token with
  | error err => simp [hcla, Except.toOption] at h
  | ok claims =>
    obtain ⟨v, hv, htext⟩ := Option.bind_eq_some_iff.mp h
    have hcai : (claims.bind fun c => Entries.get? c "sub") = some v := by
      simpa [hcla, Except.toOption] using hv
    have hid : v = .text id := by
      cases v <;> simp [Value.text?] at htext
      rw [htext]
    dsimp only
    rw [hcai, hid]
    rfl

lemma exec_currentUser_of_namedBy (h : namedBy s.world.now token = some id) (hfil : token.isEmpty = false)
    {user : Row} (huser : s.store.select .users (holds "id" (.text id)) = [user])
    (hread : Table.strangeWord? .users user = none) (hact : (cell user "is_active").truthy = true) :
    exec (currentUser (some token)) s = (.ok user, s) := by
  have hsel : exec (select .users (holds "id" (.text id))) s = (.ok [user], s) := by
    rw [exec_select, huser]
    intro row hrow htest
    have hmem : row ∈ s.store.select .users (holds "id" (.text id)) := mem_filter.mpr ⟨hrow, htest⟩
    rw [huser, mem_singleton] at hmem
    rwa [hmem]
  have hfind : exec (find? .users "id" (.text id)) s = (.ok (some user), s) :=
    exec_bind_ok hsel _
  have hact' : exec (activeUser? (.text id)) s = (.ok (some user), s) := by
    unfold activeUser?
    rw [exec_bind_ok hfind, exec_pure]
    simp [hact]
  have hcre : credential? (some token) = some token := by simp [credential?, hfil]
  unfold currentUser
  rw [hcre]
  rw [exec_bind_ok (exec_subject?_of_namedBy h)]
  rw [exec_bind_ok hact']
  rfl

end CloudSpend.Api
