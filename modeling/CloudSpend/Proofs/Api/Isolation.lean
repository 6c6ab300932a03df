import CloudSpend.Proofs.Api.Answers
import CloudSpend.Proofs.Api.Keeping

/-! # The requests of one user and the rows of others -/

namespace CloudSpend.Api

open Handler List
open Store (Table Entry Tenancy mine cell holds)
open Handler (Confined Reads exec part others)

section Serve

variable {κ : Entry → Value} {user : Value} {s : Service} (hs : Tenancy κ s.store)
include hs

lemma reads_currentUser (credential : Option String) :
    Reads κ user (currentUser credential) s fun _ => True := by
  have hsub : ∀ token, Reads κ user (subject? token) s fun _ => True := fun token =>
    (reads_now hs).bind fun _ _ => (reads_liftM hs _).bind fun _ _ => reads_pure hs trivial
  have hact : ∀ id, Reads κ user (activeUser? id) s fun _ => True := fun id =>
    (reads_find? hs fun _ _ _ => Store.mine_of_not_isKept rfl).bind fun _ _ => reads_pure hs trivial
  unfold currentUser
  split
  · exact confined_throw _ _ _
  · refine (hsub _).bind fun id? _ => ?_
    split
    · exact confined_throw _ _ _
    · refine (hact _).bind fun row? _ => ?_
      split
      · exact confined_throw _ _ _
      · exact reads_pure hs trivial

end Serve

def Endpoint.Takes (e : Endpoint) (r : Request) (c : Call) : Prop :=
  e.readQuery r.query = .ok c.query ∧ e.readBody r.body = .ok c.body

lemma both_eq_ok {α β γ : Type} {f : α → β → γ} {x : Except (List Form.Place) α}
    {y : Except (List Form.Place) β} {z : γ} (h : Form.both f x y = .ok z) :
    ∃ a b, x = .ok a ∧ y = .ok b ∧ z = f a b := by
  cases x <;> cases y <;> cases h
  exact ⟨_, _, rfl, rfl, rfl⟩

section Serve

variable {s : Service} (hs : Tenancy s.store.creator s.store) {user : String} {r : Request}
  (huser : ∀ {row s'}, exec (currentUser r.credential) s = (.ok row, s') → cell row "id" = .text user)
include hs huser

lemma confined_serve {e : Endpoint} (he : e.IsPersonal) {params : List String}
    (hcall : ∀ {c : Call}, c.params = params → e.Takes r c →
      Discreet s.store.creator (.text user) s.store c ∧ Scoped e.query c) :
    Confined s.store.creator (.text user) (e.serve params r) s fun _ s' => Keeps s s' := by
  unfold Endpoint.serve
  dsimp only
  rw [if_pos he.signedIn]
  refine (reads_currentUser hs r.credential).exec.bind ?_
  rintro row s' hs' ⟨hrow, rfl, -⟩
  split
  · exact confined_pure hs' (Keeps.refl s')
  · next query body hboth =>
      obtain ⟨query', body', hque, hbody, hpair⟩ := both_eq_ok hboth
      cases hpair
      obtain ⟨hdis, hsco⟩ := hcall (c := ⟨params, query, body, _, row⟩) rfl ⟨hque, hbody⟩
      refine (he.confined hs' (huser hrow) hdis hsco).bind fun v s1 hs1 hkee => ?_
      exact (reads_liftM hs1 _).bind fun _ _ => (reads_liftM hs1 _).bind fun _ _ => confined_pure hs1 hkee

end Serve

structure Request.IsDiscreet (r : Request) (s : Service) (user : String) : Prop where
  resource : ∀ {e params}, route endpoints r = .ok (e, params) → e ∈ resourceEndpoints
  asker : ∀ {row s'}, exec (currentUser r.credential) s = (.ok row, s') → cell row "id" = .text user
  call : ∀ {e params} {c : Call}, route endpoints r = .ok (e, params) → c.params = params → e.Takes r c →
    Discreet s.store.creator (.text user) s.store c ∧ Scoped e.query c

def own (user : String) (s : Service) : Service := part s.store.creator (.text user) s

def foreign (user : String) (s : Service) : Store := others s.store.creator (.text user) s

variable {s s' : Service} {e : Fault} {response : Response} {r : Request} {user : String}

lemma Keeps.foreign_eq (h : Keeps s s') (user : String) :
    foreign user s' = others s.store.creator (.text user) s' :=
  filter_congr fun e he => by rw [mine, mine, h e he]

lemma Keeps.tenancy (h : Keeps s s') (hs : Tenancy s.store.creator s'.store) :
    Tenancy s'.store.creator s'.store where
  ids := hs.ids
  linked hd hx c hc ht hkept hid := by
    rw [h _ hd, h _ hx]
    exact hs.linked hd hx c hc ht hkept hid
  sound := hs.sound

lemma confined_serve_request (hs : Tenancy s.store.creator s.store) (hr : r.IsDiscreet s user) :
    Confined s.store.creator (.text user) (serve r) s fun _ s' => Keeps s s' := by
  refine (reads_liftM hs _).bind ?_
  rintro ⟨e, params⟩ hrou
  exact confined_serve hs hr.asker (isPersonal_of_mem (hr.resource hrou)) (hr.call hrou)

theorem isolated_answer (hs : Tenancy s.store.creator s.store) (hr : r.IsDiscreet s user) :
    Tenancy (answer endpoints s r).2.store.creator (answer endpoints s r).2.store ∧
      foreign user (answer endpoints s r).2 = foreign user s ∧
      ∀ response, (answer endpoints s r).1 = .ok response →
        (answer endpoints (own user s) r).1 = .ok response := by
  have hser := confined_serve_request hs hr
  cases helse : isElsewhere endpoints r.path with
  | true =>
    have hans : ∀ s, answer endpoints s r = (.ok ⟨307, .null⟩, s) := fun s => by simp [answer, helse]
    rw [hans, hans]
    exact ⟨hs, rfl, fun _ h => h⟩
  | false =>
    rcases hrun : exec (serve r) s with ⟨e | response, s'⟩
    · rw [answer_of_error helse hrun]
      refine ⟨hs, rfl, fun response h => ?_⟩
      obtain ⟨status, detail, rfl, -⟩ := eq_http_of_reply h
      have hpart := hser.refused (by rw [hrun])
      rcases hrun' : exec (serve r) (own user s) with ⟨outcome, s''⟩
      obtain rfl : outcome = .error (.http status detail) := by
        rw [← hpart]
        exact (congrArg Prod.fst hrun').symm
      rw [answer_of_error helse hrun']
      exact h
    · obtain ⟨hten, hpart, hoth, hkee⟩ := hser.ok hrun
      rw [answer_of_ok helse hrun]
      refine ⟨hkee.tenancy hten, (hkee.foreign_eq user).trans hoth, fun _ h => ?_⟩
      rw [own, answer_of_ok helse hpart]
      exact h

def after (s : Service) (rs : List Request) : Service := rs.foldl (fun s r => (answer endpoints s r).2) s

lemma tenancy_after (hs : Tenancy s.store.creator s.store) (rs : List (String × Request))
    (hrs : ∀ {earlier user r later}, rs = earlier ++ (user, r) :: later → r.IsDiscreet (after s (earlier.map Prod.snd)) user) :
    Tenancy (after s (rs.map Prod.snd)).store.creator (after s (rs.map Prod.snd)).store := by
  induction rs using reverseRecOn with
  | nil => exact hs
  | append_singleton rs x ih =>
    have hbef := ih fun h => hrs (by rw [h, append_assoc]; rfl)
    have hlast : x.2.IsDiscreet (after s (rs.map Prod.snd)) x.1 := hrs rfl
    rw [map_append, after, foldl_append]
    exact (isolated_answer hbef hlast).1

/-- In every run of requests by several users, each of which names nothing that belongs to another user,
each request leaves the rows of all others as they are, and its answer is the one it would get if there
were no such rows. -/
theorem requests_isolated {s : Service} (hs : Tenancy s.store.creator s.store) {rs : List (String × Request)}
    (hrs : ∀ {earlier user r later}, rs = earlier ++ (user, r) :: later →
      r.IsDiscreet (after s (earlier.map Prod.snd)) user)
    {earlier later : List (String × Request)} {user : String} {r : Request}
    (h : rs = earlier ++ (user, r) :: later) :
    let before := after s (earlier.map Prod.snd)
    foreign user (answer endpoints before r).2 = foreign user before ∧
      ∀ response, (answer endpoints before r).1 = .ok response →
        (answer endpoints (own user before) r).1 = .ok response := by
  have hten := tenancy_after hs earlier fun {earlier' user' r' later'} h' =>
    hrs (h.trans (by rw [h', append_assoc]; rfl))
  exact (isolated_answer hten (hrs h)).2

instance (κ : Entry → Value) (user : Value) (s : Store) (c : Call) : Decidable (Discreet κ user s c) :=
  inferInstanceAs (Decidable (∀ e ∈ s, _))

instance (fields : List Form.Field) (c : Call) : Decidable (Scoped fields c) :=
  inferInstanceAs (Decidable (∀ f ∈ fields, _))

def Request.isDiscreet (r : Request) (e : Endpoint) (params : List String) (s : Service) (user : String) : Bool :=
  (exec (currentUser r.credential) s).1.toOption.all (fun row => (cell row "id").same (.text user)) &&
    match e.readQuery r.query, e.readBody r.body with
    | .ok query, .ok body =>
      let c : Call := ⟨params, query, body, [], []⟩
      Discreet s.store.creator (.text user) s.store c && Scoped e.query c
    | _, _ => true

lemma isDiscreet_of_check {e : Endpoint} {params : List String} (he : e ∈ resourceEndpoints)
    (hmet : e.method = r.method) (hpar : e.params? r.path = some params)
    (h : r.isDiscreet e params s user = true) : r.IsDiscreet s user := by
  have hrou := route_of_mem (r := r) (by simp [endpoints, he]) hmet hpar
  obtain ⟨hask, hcall⟩ := Bool.and_eq_true_iff.mp h
  refine ⟨fun h => ?_, fun {row s'} hrow => ?_, fun {e params c} h hpar htak => ?_⟩
  · rw [hrou] at h
    cases h
    exact he
  · rw [hrow] at hask
    exact Store.same_text_iff.mp hask
  · rw [hrou] at h
    cases h
    rw [htak.1, htak.2] at hcall
    simp only [Bool.and_eq_true, decide_eq_true_eq] at hcall
    subst hpar
    exact hcall

def silentWorld : World where
  outside := {
    web := fun _ _ => .error .noRows
    aws := fun _ _ => .error .noRows
    pages := 0
    engine := fun _ _ => .error .noRows
    snowflake := .error .noRows
    bigQuery := .error .noRows
    blobs := []
    listsBlobs := false
    azureToken := .error .noRows
    signsOracle := false
    mail := none }
  now := { date := ⟨2026, 1, 15⟩, hour := 12 }

def userEntry (id : String) : Entry :=
  ⟨.users, Table.fill .users silentWorld.now id [("email", .text id), ("hashed_password", "")]⟩

def sharedService : Service where
  world := silentWorld
  store := [userEntry "a", userEntry "b", ⟨.workspaces, Table.fill .workspaces silentWorld.now "w"
    [("name", "Plans"), ("token", "ws_b"), ("created_by", "b")]⟩]

def sessionOf (id : String) : Option String :=
  some (Access.Session.ofClaims [("sub", .text id), ("exp", .int 9999999999)])

lemma namedBy_session : (sessionOf "a").bind (namedBy silentWorld.now) = some "a" := by decide +kernel

lemma exec_currentUser_session (hnow : s.world.now = silentWorld.now)
    (huser : s.store.select .users (holds "id" (.text "a")) = [(userEntry "a").row]) :
    exec (currentUser (sessionOf "a")) s = (.ok (userEntry "a").row, s) := by
  obtain ⟨token, htok⟩ : ∃ token, sessionOf "a" = some token := ⟨_, rfl⟩
  have hfil : token.isEmpty = false := by
    obtain rfl := Option.some.inj htok
    simp [Access.Session.ofClaims]
  have hnam : namedBy s.world.now token = some "a" := by
    have hses := namedBy_session
    rwa [htok, ← hnow] at hses
  rw [htok]
  exact exec_currentUser_of_namedBy hnam hfil huser rfl rfl

def makeWorkspace : Request where
  method := "POST"
  path := "/api/v2/workspaces"
  body := .object [("name", "Costs")]
  credential := sessionOf "a"

def askWorkspace (user : String) : Request where
  method := "GET"
  path := "/api/v2/workspaces/ws_b"
  credential := sessionOf user

lemma tenancy_sharedService : Tenancy sharedService.store.creator sharedService.store where
  ids e he _ := by
    simp only [sharedService, mem_cons, not_mem_nil, or_false] at he
    rcases he with rfl | rfl | rfl <;> exact ⟨_, rfl⟩
  linked {d x} hd hx c hc ht hkept _ := by
    have hfree : ∀ d ∈ sharedService.store, ∀ x ∈ sharedService.store, ∀ c ∈ d.table.columns,
        c.target = some x.table → x.table.isKept = false := by decide
    rw [hfree d hd x hx c hc ht] at hkept
    cases hkept
  sound := by decide

lemma mem_resourceEndpoints {e : Endpoint} (h : e ∈ workspaceEndpoints) : e ∈ resourceEndpoints := by
  simp [resourceEndpoints, h]

def makeEndpoint : Endpoint := workspaceEndpoints.get ⟨1, by decide⟩

def askEndpoint : Endpoint := workspaceEndpoints.get ⟨2, by decide⟩

lemma makeEndpoint_mem : makeEndpoint ∈ workspaceEndpoints := get_mem _ _

lemma askEndpoint_mem : askEndpoint ∈ workspaceEndpoints := get_mem _ _

lemma params?_makeWorkspace : makeEndpoint.params? makeWorkspace.path = some [] := by
  simp [makeEndpoint, makeWorkspace, workspaceEndpoints, Endpoint.params?, Text.split, Text.splitFrom, segments?,
    Text.startsWith]

lemma params?_askWorkspace (user : String) : askEndpoint.params? (askWorkspace user).path = some ["ws_b"] := by
  simp [askEndpoint, askWorkspace, workspaceEndpoints, Endpoint.params?, Text.split, Text.splitFrom, segments?,
    Text.startsWith]

lemma answer_workspace {e : Endpoint} {params : List String} (he : e ∈ workspaceEndpoints) (hsig : e.signedIn = true)
    (hmet : e.method = r.method) (hpar : e.params? r.path = some params) {row : Row}
    (hrow : exec (currentUser r.credential) s = (.ok row, s)) :
    answer endpoints s r =
      (reply (s.transact (e.work params r row)).1, (s.transact (e.work params r row)).2) := by
  have hrou := route_of_mem (by simp [endpoints, mem_resourceEndpoints he]) hmet hpar
  exact answer_of_user (isElsewhere_of_route hrou) hrou hsig hrow

lemma exec_currentUser_shared : exec (currentUser (sessionOf "a")) sharedService = (.ok (userEntry "a").row, sharedService) :=
  exec_currentUser_session rfl rfl

/-- One user makes a workspace, and another one asks for their own: the answer does not depend on what
was made. -/
theorem requests_isolated_two_users :
    let before := after sharedService [makeWorkspace]
    foreign "b" (answer endpoints before (askWorkspace "b")).2 = foreign "b" before ∧
      ∀ response, (answer endpoints before (askWorkspace "b")).1 = .ok response →
        (answer endpoints (own "b" before) (askWorkspace "b")).1 = .ok response := by
  have hmake : makeWorkspace.IsDiscreet sharedService "a" := by
    refine isDiscreet_of_check (mem_resourceEndpoints makeEndpoint_mem) rfl params?_makeWorkspace ?_
    unfold Request.isDiscreet makeWorkspace
    rw [exec_currentUser_shared]
    decide
  have hask : (askWorkspace "b").IsDiscreet (after sharedService [makeWorkspace]) "b" := by
    refine isDiscreet_of_check (mem_resourceEndpoints askEndpoint_mem) rfl (params?_askWorkspace "b") ?_
    have hans := answer_workspace makeEndpoint_mem rfl rfl params?_makeWorkspace exec_currentUser_shared
    rw [after, foldl_cons, foldl_nil, hans]
    decide +kernel
  refine @requests_isolated _ tenancy_sharedService [("a", makeWorkspace), ("b", askWorkspace "b")]
    (fun {earlier user r later} h => ?_) [("a", makeWorkspace)] [] "b" (askWorkspace "b") rfl
  rcases earlier with _ | ⟨x, _ | ⟨y, earlier⟩⟩
  · cases h
    exact hmake
  · cases h
    exact hask
  · simp at h

/-- A user who knows the token of a workspace of another user is shown the workspace. -/
theorem stranger_reads_workspace :
    (foreign "a" sharedService).map (fun e => (cell e.row "token").text?) = [some "ws_b"] ∧
      (answer endpoints sharedService (askWorkspace "a")).1.toOption.map
          (fun response => (response.status, Json.writeIn .compact response.body)) =
        some (200, "\x7b\"token\":\"ws_b\",\"name\":\"Plans\",\"is_default\":false," ++
          "\"created_at\":\"2026-01-15T12:00:00\"\x7d") := by
  rw [answer_workspace askEndpoint_mem rfl rfl (params?_askWorkspace "a") exec_currentUser_shared]
  decide +kernel

end CloudSpend.Api
