import CloudSpend.Proofs.Api.Isolation
import CloudSpend.Proofs.Source.Ingest

/-! # What becomes of a request -/

namespace CloudSpend

open Handler List
open Store (Table)

namespace Form

variable {fields : List Field} {es row : Row} {name : String}

def judge (es : Row) (f : Field) : Checked :=
  match Entries.get? es f.1, f.2.2 with
  | some v, _ => f.2.1.check v
  | none, some d => .ok d
  | none, none => .error [[]]

lemma Shape.checkFields_cons_eq (f : Field) (fields : List Field) (es : Row) :
    checkFields (f :: fields) es =
      both (fun v row => (f.1, v) :: row) (inside f.1 (judge es f)) (checkFields fields es) := by
  obtain ⟨name, shape, default⟩ := f
  conv_lhs => unfold checkFields
  rfl

def isWhole (s : String) : Bool := (Text.halves? s).isNone

lemma check_anyText (s : String) :
    Shape.anyText.check (.text s) = if isWhole s then .ok (.text s) else .error [[]] := by
  simp [Shape.anyText, Shape.check, isWhole]

lemma judge_maybe {o : Option String} (h : Entries.get? es name = o.map .text) :
    judge es (maybe name .anyText) = if o.all isWhole then .ok (Value.ofText? o) else .error [[]] := by
  unfold judge maybe
  cases o with
  | none => simp [h, Value.ofText?]
  | some s => simp [h, Shape.check, Value.isNull, check_anyText, Value.ofText?]

lemma Shape.checkFields_cons {shape : Shape} {default : Option Value}
    (h : checkFields ((name, shape, default) :: fields) es = .ok row) :
    ∃ v rest, row = (name, v) :: rest ∧ checkFields fields es = .ok rest ∧
      match Entries.get? es name with
      | some w => shape.check w = .ok v
      | none => default = some v := by
  unfold checkFields at h
  dsimp only at h
  obtain ⟨v, rest, hfir, hrest, rfl⟩ := Api.both_eq_ok h
  refine ⟨v, rest, rfl, hrest, ?_⟩
  cases hget : Entries.get? es name with
  | some w =>
    cases hche : shape.check w with
    | error places => simp [hget, hche, inside] at hfir
    | ok u => simpa [hget, hche, inside] using hfir
  | none =>
    cases default with
    | some d => simpa [hget, inside] using hfir
    | none => simp [hget, inside] at hfir

lemma Shape.field_of_checkFields (h : checkFields fields es = .ok row) {p : String × Value} (hp : p ∈ row) :
    ∃ shape default, (p.1, shape, default) ∈ fields ∧
      ((∃ w, shape.check w = .ok p.2) ∨ default = some p.2) := by
  induction fields generalizing row with
  | nil =>
    cases h
    cases hp
  | cons f fields ih =>
    obtain ⟨name, shape, default⟩ := f
    obtain ⟨v, rest, rfl, hrest, hfir⟩ := checkFields_cons h
    grind

end Form

namespace Api

open Handler (exec kept)

variable {e : Endpoint} {r : Request} {c : Call}

variable {fields : List Form.Field} {p : String × Value} {params : List String}

lemma checkFields_of_takes (h : e.Takes r c) (hbody : e.body = some (.record fields)) :
    ∃ es, r.body = .object es ∧ Form.Shape.checkFields fields es = .ok c.body := by
  have hread := h.2
  rw [Endpoint.readBody, hbody] at hread
  dsimp only at hread
  split at hread
  · cases hread
  · cases hche : (Form.Shape.record fields).check r.body with
    | error places => simp [hche, Except.map, Form.inside] at hread
    | ok v =>
      rw [hche] at hread
      have hrow : v.object?.getD [] = c.body := by simpa [Except.map, Form.inside] using hread
      cases hr : r.body with
      | object es =>
        rw [hr, Form.Shape.check] at hche
        obtain ⟨row, hfie, rfl⟩ := Result.map_eq_ok.mp hche
        exact ⟨es, rfl, hrow ▸ hfie⟩
      | _ => simp [hr, Form.Shape.check] at hche

lemma entry_of_takes (h : e.Takes r c) (hbody : e.body = some (.record fields)) (hp : p ∈ c.body) :
    ∃ shape default, (p.1, shape, default) ∈ fields ∧
      ((∃ w, shape.check w = .ok p.2) ∨ default = some p.2) := by
  obtain ⟨es, -, hfie⟩ := checkFields_of_takes h hbody
  exact Form.Shape.field_of_checkFields hfie hp

lemma checkQuery_of_takes (h : e.Takes r c) :
    Form.Shape.checkFields e.query (r.query.map fun p => (p.1, .text p.2)) = .ok c.query := by
  have hread := h.1
  rw [Endpoint.readQuery] at hread
  cases hfie : Form.Shape.checkFields e.query (r.query.map fun p => (p.1, .text p.2)) with
  | error places => simp [hfie, Form.inside] at hread
  | ok row => simpa [hfie, Form.inside] using hread

lemma param_of_takes (h : e.Takes r c) (hp : p ∈ c.query) : ∃ shape default, (p.1, shape, default) ∈ e.query ∧
      ((∃ w, shape.check w = .ok p.2) ∨ default = some p.2) :=
  Form.Shape.field_of_checkFields (checkQuery_of_takes h) hp

def Endpoint.reply (e : Endpoint) (v : Value) : Result Response := do
  let shown ← (do render (← e.answer.validate v) : Result Value)
  return ⟨e.status, ← sendable shown⟩

lemma Endpoint.status_of_reply {v : Value} {response : Response} (h : e.reply v = .ok response) :
    response.status = e.status := by
  obtain ⟨shown, -, h⟩ := Result.of_bind_ok h
  obtain ⟨body, -, h⟩ := Result.of_bind_ok h
  cases h
  rfl

lemma exec_reply (e : Endpoint) (x : Handler Value) (s : Service) :
    exec (do
      let v ← x
      let shown ← liftM (do render (← e.answer.validate v) : Result Value)
      return ⟨e.status, ← liftM (sendable shown)⟩) s =
    match exec x s with
    | (.error err, s') => (.error err, s')
    | (.ok v, s') => (e.reply v, s') := by
  rw [exec_bind]
  rcases exec x s with ⟨err | v, s'⟩
  · rfl
  · dsimp only
    rw [exec_bind, exec_liftM_result, Endpoint.reply]
    rcases (do render (← e.answer.validate v) : Result Value) with err | shown
    · rfl
    · dsimp only
      rw [exec_bind, exec_liftM_result]
      cases hsent : sendable shown with
      | error err => simp only [hsent, bind, Except.bind]
      | ok body =>
        simp only [hsent, bind, Except.bind]
        rfl

def Endpoint.SetsAside (e : Endpoint) : Result Response → Prop
  | .ok response => response.status = 422
  | .error _ => e.signedIn = true

theorem cases_work (e : Endpoint) (params : List String) (r : Request) (user : Row) (s : Service) :
    (∃ places, exec (e.work params r user) s = (.ok ⟨422, Value.texts places⟩, s)) ∨
      ∃ c, e.Takes r c ∧ c.params = params ∧ c.user = user ∧
        exec (e.work params r user) s = match exec (e.run c) s with
          | (.error err, s') => (.error err, s')
          | (.ok v, s') => (e.reply v, s') := by
  unfold Endpoint.work
  split
  · exact .inl ⟨_, rfl⟩
  · next query body hboth =>
      obtain ⟨query', body', hque, hbody, hpair⟩ := both_eq_ok hboth
      cases hpair
      exact .inr ⟨⟨params, query, body, _, user⟩, ⟨hque, hbody⟩, rfl, rfl, exec_reply e _ s⟩

theorem cases_serve (e : Endpoint) (params : List String) (r : Request) (s : Service) :
    (∃ outcome, exec (e.serve params r) s = (outcome, s) ∧ e.SetsAside outcome) ∨
      ∃ c, e.Takes r c ∧ c.params = params ∧
        exec (e.serve params r) s = match exec (e.run c) s with
          | (.error err, s') => (.error err, s')
          | (.ok v, s') => (e.reply v, s') := by
  have hwork : ∀ user, (∃ outcome, exec (e.work params r user) s = (outcome, s) ∧ e.SetsAside outcome) ∨
      ∃ c, e.Takes r c ∧ c.params = params ∧
        exec (e.work params r user) s = match exec (e.run c) s with
          | (.error err, s') => (.error err, s')
          | (.ok v, s') => (e.reply v, s') := by
    intro user
    rcases cases_work e params r user s with ⟨places, hwork⟩ | ⟨c, htak, hpar, -, hwork⟩
    · exact .inl ⟨_, hwork, rfl⟩
    · exact .inr ⟨c, htak, hpar, hwork⟩
  rw [Endpoint.serve_eq]
  split
  · next hsig =>
      rcases huser : exec (currentUser r.credential) s with ⟨err | user, s'⟩
      · obtain rfl := Leaves.eq huser
        rw [exec_bind_of_error huser]
        exact .inl ⟨_, rfl, hsig⟩
      · obtain rfl := Leaves.eq huser
        rw [exec_bind_ok huser]
        exact hwork user
  · rw [exec_bind_ok (exec_pure [] s)]
    exact hwork []

lemma params?_of_route (h : route endpoints r = .ok (e, params)) :
    e ∈ endpoints ∧ e.params? r.path = some params := by
  obtain ⟨d, hd, hpar⟩ := mem_filterMap.mp (mem_endpointsAt_of_route h)
  obtain ⟨found, hfou, hpair⟩ := Option.map_eq_some_iff.mp hpar
  cases hpair
  exact ⟨hd, hfou⟩

lemma mem_of_route (h : route endpoints r = .ok (e, params)) : e ∈ endpoints :=
  (params?_of_route h).1

lemma length_of_segments? {form path : List String} (h : segments? form path = some params) :
    params.length = (form.filter (Text.startsWith · ":")).length := by
  fun_induction segments? form path generalizing params with
  | case1 => cases h; rfl
  | case2 f s hf => cases h
  | case3 f s hf hs => cases h; simp [hf]
  | case4 f s hf hs => cases h; simp [hf]
  | case5 f s hf hs => cases h
  | case6 f form s path hne hf hs => cases h
  | case7 f form s path hne hf hs ih =>
    obtain ⟨rest, hrest, rfl⟩ := Option.map_eq_some_iff.mp h
    simp [hf, ih hrest]
  | case8 f form s path hne hf hs ih => simpa [hf] using ih h
  | case9 => cases h
  | case10 => cases h

lemma eq_of_path {d : Endpoint} (he : e ∈ endpoints) (hd : d ∈ endpoints) (hmet : e.method = d.method)
    (hpath : e.path = d.path) : e = d :=
  inj_on_of_nodup_map nodup_endpoints he hd (Prod.ext hmet hpath)

structure Served (r : Request) (e : Endpoint) (c : Call) : Prop where
  route : route endpoints r = .ok (e, c.params)
  takes : e.Takes r c

inductive Answered (s : Service) (r : Request) : Result Response × Service → Prop where
  | elsewhere : Answered s r (.ok ⟨307, .null⟩, s)
  | unknown {err : Fault} (h : route endpoints r = .error err) : Answered s r (reply (.error err), s)
  | aside {e : Endpoint} {params : List String} {outcome : Result Response}
      (h : route endpoints r = .ok (e, params)) (houtcome : e.SetsAside outcome) :
      Answered s r (reply outcome, s)
  | done {e : Endpoint} {c : Call} {v : Value} {s' : Service} {response : Response} (h : Served r e c)
      (hrun : exec (e.run c) s = (.ok v, s')) (hreply : e.reply v = .ok response) :
      Answered s r (.ok response, s')
  | failed {e : Endpoint} {c : Call} {s' : Service} {err : Fault} (h : Served r e c)
      (hrun : exec (e.run c) s = (.error err, s') ∨
        ∃ v, exec (e.run c) s = (.ok v, s') ∧ e.reply v = .error err) :
      Answered s r (reply (.error err), { s' with store := s.store })

lemma answered (s : Service) (r : Request) : Answered s r (answer endpoints s r) := by
  cases helse : isElsewhere endpoints r.path with
  | true =>
    have hans : answer endpoints s r = (.ok ⟨307, .null⟩, s) := by simp [answer, helse]
    rw [hans]
    exact .elsewhere
  | false =>
    have hok : ∀ {response s'}, exec (serve r) s = (.ok response, s') →
        answer endpoints s r = (.ok response, s') := answer_of_ok helse
    have herr : ∀ {err s'}, exec (serve r) s = (.error err, s') →
        answer endpoints s r = (reply (.error err), { s' with store := s.store }) := answer_of_error helse
    have hser : serve r = liftM (route endpoints r) >>= fun found => found.1.serve found.2 r := rfl
    rcases hrou : route endpoints r with err | ⟨e, params⟩
    · have hrun : exec (serve r) s = (.error err, s) := by
        rw [hser, hrou]
        rfl
      rw [herr hrun]
      exact .unknown hrou
    · have hexec : exec (serve r) s = exec (e.serve params r) s := by
        rw [hser, hrou]
        rfl
      rw [hexec] at hok herr
      rcases cases_serve e params r s with ⟨outcome, hrun, hasi⟩ | ⟨c, htak, rfl, hrun⟩
      · cases outcome with
        | ok response =>
          rw [hok hrun]
          exact @Answered.aside s r e params (.ok response) hrou hasi
        | error err =>
          rw [herr hrun]
          exact .aside hrou hasi
      · rcases hwork : exec (e.run c) s with ⟨err | v, s'⟩
        · rw [hwork] at hrun
          rw [herr hrun]
          exact .failed ⟨hrou, htak⟩ (.inl hwork)
        · rw [hwork] at hrun
          cases hrep : e.reply v with
          | ok response =>
            dsimp only at hrun
            rw [hrep] at hrun
            rw [hok hrun]
            exact .done ⟨hrou, htak⟩ hwork hrep
          | error err =>
            dsimp only at hrun
            rw [hrep] at hrun
            rw [herr hrun]
            exact .failed ⟨hrou, htak⟩ (.inr ⟨v, hwork, hrep⟩)

lemma store_answer_of_leaves {γ : Type} (view : Store → γ)
    (h : ∀ e params, route endpoints r = .ok (e, params) → ∀ c, Leaves (fun s => view s.store) (e.run c))
    (s : Service) : view (answer endpoints s r).2.store = view s.store := by
  have hans := answered s r
  generalize answer endpoints s r = answered at hans ⊢
  cases hans with
  | elsewhere | unknown | aside | failed => rfl
  | @done e c v s' response hser hrun hrep =>
    exact (h e c.params hser.route c).view_eq hrun

def Request.finds (r : Request) (method path : String) (params : List String) : Bool :=
  !isElsewhere endpoints r.path && match route endpoints r with
    | .ok (e, found) => e.method == method && e.path == path && found == params
    | .error _ => false

lemma route_of_finds {method path : String} (h : r.finds method path params = true) :
    isElsewhere endpoints r.path = false ∧
      ∃ e, route endpoints r = .ok (e, params) ∧ e.method = method ∧ e.path = path := by
  simp only [Request.finds, Bool.and_eq_true, Bool.not_eq_true'] at h
  grind

lemma route_of_finds_mem (he : e ∈ endpoints) (h : r.finds e.method e.path params = true) :
    isElsewhere endpoints r.path = false ∧ route endpoints r = .ok (e, params) := by
  obtain ⟨hhere, e', hrou, hmet, hpath⟩ := route_of_finds h
  obtain rfl := eq_of_path (mem_of_route hrou) he hmet hpath
  exact ⟨hhere, hrou⟩

lemma finds_of_route (h : route endpoints r = .ok (e, params)) : r.finds e.method e.path params = true := by
  simp [Request.finds, isElsewhere_of_route h, h]

lemma finds_of_mem (he : e ∈ endpoints) (hmet : e.method = r.method)
    (hpar : e.params? r.path = some params) : r.finds e.method e.path params = true :=
  finds_of_route (route_of_mem he hmet hpar)

end Api

end CloudSpend
