import CloudSpend.Proofs.Api.References

/-! # What requests do to tokens for programs -/

namespace CloudSpend.Api

open Handler List Result Store Access.Session Entries Form.Shape Table
open Store (Table cell textCell holds)
open Handler (exec)
open Access.ApiToken (hash ofId)

variable {e : Endpoint} {r : Request} {c : Call} {s s' : Service} {v : Value} {user row : Row}

def tokens (s : Service) : List Row := s.store.rows .apiTokens

def makingFields : List Form.Field := [Form.required "name" titleShape, textOr "scopes" "read"]

def makingEndpoint : Endpoint where
  method := "POST"
  path := "/api/v2/api_tokens"
  signedIn := true
  status := 201
  body := some (.record makingFields)
  run := createApiToken

def endingEndpoint : Endpoint where
  method := "DELETE"
  path := "/api/v2/api_tokens/:start"
  signedIn := true
  run := revokeApiToken

lemma mem_endpoints_of_apiToken (he : e ∈ apiTokenEndpoints) : e ∈ endpoints := by
  simp only [endpoints, signInEndpoints, mem_append, he, or_true, true_or]

lemma makingEndpoint_mem : makingEndpoint ∈ endpoints :=
  mem_endpoints_of_apiToken (mem_cons_of_mem _ mem_cons_self)

lemma endingEndpoint_mem : endingEndpoint ∈ endpoints :=
  mem_endpoints_of_apiToken (mem_cons_of_mem _ (mem_cons_of_mem _ mem_cons_self))

lemma leaves_tokens_or_eq (he : e ∈ endpoints) :
    (∀ c, Leaves tokens (e.run c)) ∨ e = makingEndpoint ∨ e = endingEndpoint := by
  rcases leaves_rows_or_mem_group .apiTokens he with hlea | ⟨g, hg, he⟩
  · exact .inl hlea
  · have hgro : groups.filter (·.2.contains .apiTokens) = [(apiTokenEndpoints, [.apiTokens])] := rfl
    rw [hgro, mem_singleton] at hg
    subst hg
    simp only [apiTokenEndpoints, mem_cons, not_mem_nil, or_false] at he
    rcases he with rfl | rfl | rfl
    · exact .inl fun c => leaves_bind
    · exact .inr (.inl rfl)
    · exact .inr (.inr rfl)

variable {claims changes : Row} {a start raw : String} {response : Response} {params : List String}

lemma text_of_inOrder {now : Int} (h : inOrder now claims = .ok true)
    (hsub : get? claims "sub" = some v) : ∃ a, v = .text a := by
  obtain ⟨issued, -, h⟩ := of_bind_ok h
  split at h
  · cases h
  obtain ⟨started, -, h⟩ := of_bind_ok h
  split at h
  · cases h
  obtain ⟨lasting, -, h⟩ := of_bind_ok h
  split at h
  · cases h
  have hche := Except.ok.inj h
  simp only [Bool.and_eq_true, isTextOrAbsent, hsub] at hche
  grind

lemma text_of_claims? {now : Timestamp} {token : String}
    (h : Access.Session.claims? now token = .ok (some claims)) (hsub : get? claims "sub" = some v) :
    ∃ a, v = .text a := by
  obtain ⟨_, -, h⟩ := of_bind_ok h
  obtain ⟨bytes?, -, h⟩ := of_bind_ok h
  cases bytes? with
  | none => cases h
  | some bytes =>
    obtain ⟨claims?, -, h⟩ := of_bind_ok h
    cases claims? with
    | none => cases h
    | some found =>
      obtain ⟨ordered, hord, h⟩ := of_bind_ok h
      cases ordered with
      | false => cases h
      | true =>
        cases h
        exact text_of_inOrder hord hsub

lemma user_of_exec_currentUser {credential : Option String}
    (h : exec (currentUser credential) s = (.ok user, s')) :
    user ∈ s.store.rows .users ∧ ∃ a, cell user "id" = .text a := by
  unfold currentUser at h
  split at h
  · cases h
  · next token _ =>
      obtain ⟨id?, s1, hsbj, h⟩ := exec_bind_eq_ok.mp h
      unfold subject? at hsbj
      rw [exec_bind_ok (exec_now s)] at hsbj
      obtain ⟨claims?, s2, hcla, hsbj⟩ := exec_bind_eq_ok.mp hsbj
      obtain ⟨hread, rfl⟩ := Prod.mk.inj hcla
      cases hsbj
      cases hid : claims?.bind fun c => get? c "sub" with
      | none =>
        rw [hid] at h
        cases h
      | some id =>
        obtain ⟨claims, rfl, hsub⟩ := Option.bind_eq_some_iff.mp hid
        obtain ⟨a, rfl⟩ := text_of_claims? hread hsub
        rw [hid] at h
        obtain ⟨user?, s3, hact, h⟩ := exec_bind_eq_ok.mp h
        cases user? with
        | none => cases h
        | some found =>
          cases h
          obtain ⟨row?, s4, hfind, hact⟩ := exec_bind_eq_ok.mp hact
          have hrow : row? = some user := by
            have hfil : row?.filter (fun u => (cell u "is_active").truthy) = some user := by
              obtain ⟨hok, -⟩ := Prod.mk.inj hact
              exact Except.ok.inj hok
            exact (Option.filter_eq_some_iff.mp hfil).1
          rw [hrow] at hfind
          obtain ⟨hmem, hid⟩ := of_select_eq (exec_find?_eq_ok hfind)
          exact ⟨hmem, a, same_text_iff.mp hid⟩

lemma eq_of_check_text {least : Nat} {most : Option Nat} {w : Value}
    (h : (Form.Shape.text least most).check w = .ok v) : w = v ∧ ∃ a, v = .text a := by
  cases w with
  | text a =>
    rw [check] at h
    grind
  | _ => cases h

def Request.scopes (r : Request) : Value := (get? (r.body.object?.getD []) "scopes").getD (.text "read")

lemma body_of_takes (h : makingEndpoint.Takes r c) :
    ∃ name scopes, c.body = [("name", .text name), ("scopes", .text scopes)] ∧ r.scopes = .text scopes := by
  have hbody : makingEndpoint.body = some (.record makingFields) := rfl
  obtain ⟨es, hes, hfie⟩ := checkFields_of_takes h hbody
  obtain ⟨name, rest, hrow, hrest, hname⟩ := checkFields_cons hfie
  obtain ⟨scopes, rest', rfl, hnil, hsco⟩ := checkFields_cons hrest
  obtain rfl := Except.ok.inj hnil
  have hask : r.scopes = (get? es "scopes").getD (.text "read") := by
    rw [Request.scopes, hes]
    rfl
  have htext : ∃ a, name = .text a := by
    split at hname
    · exact (eq_of_check_text hname).2
    · cases hname
  obtain ⟨a, rfl⟩ := htext
  split at hsco
  · next w hw =>
      obtain ⟨rfl, b, rfl⟩ := eq_of_check_text hsco
      exact ⟨a, b, hrow, by rw [hask, hw]; rfl⟩
  all_goals grind

structure IsMade (user : Row) (scopes : Value) (raw : String) (row : Row) : Prop where
  isRow : Table.IsRow .apiTokens row
  id : ∃ a, cell row "id" = .text a
  owner : cell row "user_id" = cell user "id"
  scopes : cell row "scopes" = scopes
  hash : cell row "token_hash" = .text (hash raw)
  start : cell row "token_prefix" = .text (Text.take shownLength raw)
  active : cell row "is_active" = .bool true
  unrevoked : cell row "revoked_at" = .null

def madeCells (owner name scopes : Value) (raw : String) : Row :=
  [("user_id", owner), ("name", name), ("token_hash", .text (hash raw)),
   ("token_prefix", .text (Text.take shownLength raw)), ("scopes", scopes)]

lemma isMade_fill (hown : cell user "id" = .text a) (name scopes raw : String) (now : Timestamp)
    (id : String) : IsMade user (.text scopes) raw (fill .apiTokens now id
      (stated .apiTokens (madeCells (.text a) (.text name) (.text scopes) raw))) := by
  have hcell : ∀ c ∈ columns .apiTokens, _ := fun c hc =>
    cell_fill_eq hc now id (stated .apiTokens (madeCells (.text a) (.text name) (.text scopes) raw))
  simp only [columns, mem_cons, not_mem_nil, or_false, forall_eq_or_imp, forall_eq] at hcell
  obtain ⟨hid, huser, -, hhash, hsta, -, hsco, hact, -, hrev, -⟩ := hcell
  exact {
    isRow := isRow_fill _ _ _ _
    id := ⟨id, hid⟩
    owner := huser.trans hown.symm
    scopes := hsco
    hash := hhash
    start := hsta
    active := hact
    unrevoked := hrev }

lemma exec_createApiToken_eq_ok {name scopes : String} (huser : cell c.user "id" = .text a)
    (hbody : c.body = [("name", .text name), ("scopes", .text scopes)])
    (h : exec (createApiToken c) s = (.ok v, s')) :
    ∃ n row es, tokens s' = tokens s ++ [row] ∧ IsMade c.user (.text scopes) (ofId "cpls" n) row ∧
      v = .object (("token", .text (ofId "cpls" n)) :: es) := by
  have hname : c.field "name" = .text name := by rw [Call.field, hbody]; rfl
  have hsco : c.field "scopes" = .text scopes := by rw [Call.field, hbody]; rfl
  unfold createApiToken at h
  rw [hname, hsco, huser] at h
  obtain ⟨raw, s1, hraw, h⟩ := exec_bind_eq_ok.mp h
  cases hraw
  obtain ⟨row, s2, hins, h⟩ := exec_bind_eq_ok.mp h
  obtain ⟨shown, s3, hdes, h⟩ := exec_bind_eq_ok.mp h
  cases h
  rw [Leaves.eq hdes]
  obtain ⟨⟨id, rfl⟩, hsto, -⟩ := exec_insert_eq_ok hins
  refine ⟨s.world.ids + 1, _, shown.object?.getD [], ?_, isMade_fill huser name scopes _ s.world.now id, rfl⟩
  rw [tokens, hsto, rows_append, if_pos rfl]
  rfl

def candidates (user : Row) (start : String) (rows : List Row) : List Row :=
  rows.filter fun row => holds "token_prefix" (.text start) row && usableBy user row

def endedCells (now : Timestamp) : Row := [("is_active", .bool false), ("revoked_at", .timestamp now)]

lemma strangeWord?_token (row : Row) : strangeWord? .apiTokens row = none := rfl

lemma plain_of_names (h : ∀ p ∈ changes, p.1 ∈ ["is_active", "revoked_at", "last_used_at"]) :
    Store.Plain .apiTokens changes where
  plain p hp := by
    have hall : ∀ name ∈ ["is_active", "revoked_at", "last_used_at"], isPlain .apiTokens name = true := by
      decide
    exact hall _ (h p hp)
  filled c hc hreq v hv := by
    have hall : ∀ c ∈ columns .apiTokens, c.required = true →
        c.name ∉ ["is_active", "revoked_at", "last_used_at"] := by decide
    exact absurd (h _ (mem_of_get? hv)) (hall c hc hreq)

def noted (row changes : Row) (s : Service) : Service :=
  { s with store := s.store.reviseWhere .apiTokens (holds "id" (cell row "id")) s.world.now changes }

lemma exec_note_token (hsou : s.store.sound = true)
    (hnam : ∀ p ∈ changes, p.1 ∈ ["is_active", "revoked_at", "last_used_at"])
    (hsto : ∀ p ∈ changes, ∀ n, p.2 ≠ .int n) (row : Row) :
    exec (update .apiTokens row changes) s =
      (.ok (revise .apiTokens s.world.now changes row), noted row changes s) :=
  exec_update_of_plain hsou (plain_of_names hnam) (fun p hp n hn => absurd hn (hsto p hp n))
    fun _ _ _ => strangeWord?_token _

lemma exec_revokeApiToken (hsou : s.store.sound = true) (c : Call) :
    exec (revokeApiToken c) s = match candidates c.user c.param (tokens s) with
      | [] => (.error (.http 404 "API token not found"), s)
      | [row] => (.ok (done "API token revoked"), noted row (endedCells s.world.now) s)
      | _ :: _ :: _ => (.error .multipleRows, s) := by
  have hsel : exec (select .apiTokens fun row =>
      holds "token_prefix" (.text c.param) row && usableBy c.user row) s =
        (.ok (candidates c.user c.param (tokens s)), s) :=
    exec_select fun row _ _ => strangeWord?_token row
  unfold revokeApiToken
  rw [exec_bind_ok hsel]
  rcases candidates c.user c.param (tokens s) with _ | ⟨row, _ | ⟨other, rest⟩⟩
  · rfl
  · have hend : exec (update .apiTokens row (endedCells s.world.now)) s = _ :=
      exec_note_token hsou (by simp [endedCells]) (by simp [endedCells]) row
    exact exec_bind_ok (exec_discard_of_ok hend) _
  · rfl

lemma exec_work_of_bare (hque : e.query = []) (hbody : e.body = none) (params : List String) (r : Request)
    (user : Row) (s : Service) :
    ∃ c : Call, c.params = params ∧ c.user = user ∧
      exec (e.work params r user) s = match exec (e.run c) s with
        | (.error err, s') => (.error err, s')
        | (.ok v, s') => (e.reply v, s') := by
  have hboth : Form.both Prod.mk (e.readQuery r.query) (e.readBody r.body) = .ok ([], []) := by
    simp only [Endpoint.readQuery, Endpoint.readBody, hque, hbody, checkFields, Form.inside, Form.both]
  unfold Endpoint.work
  rw [hboth]
  exact ⟨⟨params, [], [], _, user⟩, rfl, rfl, exec_reply e _ s⟩

lemma reply_ended : endingEndpoint.reply (done "API token revoked") = .ok ⟨200, done "API token revoked"⟩ :=
  eq_of_tells (by decide)

lemma answer_ending (hsou : s.store.sound = true)
    (hfin : r.finds "DELETE" "/api/v2/api_tokens/:start" [start] = true) :
    (∃ err, exec (currentUser r.credential) s = (.error err, s) ∧ answer endpoints s r = (reply (.error err), s)) ∨
      ∃ user, exec (currentUser r.credential) s = (.ok user, s) ∧
        answer endpoints s r = match candidates user start (tokens s) with
          | [] => (reply (.error (.http 404 "API token not found")), s)
          | [row] => (.ok ⟨200, done "API token revoked"⟩, noted row (endedCells s.world.now) s)
          | _ :: _ :: _ => (.error .multipleRows, s) := by
  obtain ⟨hhere, hrou⟩ := route_of_finds_mem endingEndpoint_mem hfin
  rcases answer_of_signedIn hhere hrou rfl s with href | ⟨user, huser, hans⟩
  · exact .inl href
  · refine .inr ⟨user, huser, ?_⟩
    obtain ⟨c, hpar, rfl, hwork⟩ := exec_work_of_bare (e := endingEndpoint) rfl rfl [start] r user s
    have hpra : c.param = start := by rw [Call.param, hpar]; rfl
    have hrun : endingEndpoint.run c = revokeApiToken c := rfl
    rw [hrun, exec_revokeApiToken hsou, hpra] at hwork
    rw [hans]
    rcases hmat : candidates c.user start (tokens s) with _ | ⟨row, _ | ⟨other, rest⟩⟩
    · simp only [hmat] at hwork
      rw [transact_of_error hwork]
    · simp only [hmat, reply_ended] at hwork
      rw [transact_of_ok hwork]
      rfl
    · simp only [hmat] at hwork
      rw [transact_of_error hwork]
      rfl

def Response.token? (response : Response) : Option Value :=
  response.body.object?.bind fun es => get? es "token"

lemma token?_of_refusal {err : Fault} (h : reply (.error err) = .ok response) : response.token? = none := by
  obtain ⟨status, detail, -, rfl⟩ := eq_http_of_reply h
  rfl

lemma reply_of_token {es : Row} (hany : e.answer = .any)
    (h : e.reply (.object (("token", .text raw) :: es)) = .ok response) :
    ∃ es', response = ⟨e.status, .object (("token", .text raw) :: es')⟩ := by
  obtain ⟨shown, hsho, h⟩ := of_bind_ok h
  obtain ⟨body, hbody, h⟩ := of_bind_ok h
  obtain ⟨valid, hval, hsho⟩ := of_bind_ok hsho
  rw [hany] at hval
  cases hval
  cases h
  obtain rfl := eq_of_sendable hbody
  simp only [render, renderEntries] at hsho
  cases hes : renderEntries es with
  | error e => simp [hes, bind, Except.bind, Except.map] at hsho
  | ok es' =>
    have hbody : Value.object (("token", .text raw) :: es') = body := by
      simpa [hes, bind, Except.bind, Except.map, pure, Except.pure] using hsho
    exact ⟨es', by rw [← hbody]⟩

lemma answer_making (hrou : route endpoints r = .ok (makingEndpoint, params)) (s : Service) :
    (tokens (answer endpoints s r).2 = tokens s ∧
      ∀ response, (answer endpoints s r).1 = .ok response → response.token? = none) ∨
      ∃ user n row es, exec (currentUser r.credential) s = (.ok user, s) ∧
        tokens (answer endpoints s r).2 = tokens s ++ [row] ∧ IsMade user r.scopes (ofId "cpls" n) row ∧
        (answer endpoints s r).1 = .ok ⟨201, .object (("token", .text (ofId "cpls" n)) :: es)⟩ := by
  have hhere := isElsewhere_of_route hrou
  rcases answer_of_signedIn hhere hrou rfl s with ⟨err, -, hans⟩ | ⟨user, huser, hans⟩
  · rw [hans]
    exact .inl ⟨rfl, fun _ => token?_of_refusal⟩
  rw [hans]
  have hfai : ∀ {err s'}, exec (makingEndpoint.work params r user) s = (.error err, s') →
      tokens (s.transact (makingEndpoint.work params r user)).2 = tokens s ∧
        ∀ response, reply (s.transact (makingEndpoint.work params r user)).1 = .ok response →
          response.token? = none := by
    intro err s' hwork
    rw [transact_of_error hwork]
    exact ⟨rfl, fun _ => token?_of_refusal⟩
  rcases cases_work makingEndpoint params r user s with ⟨places, hwork⟩ | ⟨c, htak, -, rfl, hwork⟩
  · rw [transact_of_ok hwork]
    refine .inl ⟨rfl, fun response hres => ?_⟩
    cases hres
    rfl
  · have hrun : makingEndpoint.run c = createApiToken c := rfl
    rw [hrun] at hwork
    rcases hcre : exec (createApiToken c) s with ⟨err | v, s'⟩
    · rw [hcre] at hwork
      exact .inl (hfai hwork)
    · rw [hcre] at hwork
      obtain ⟨a, ha⟩ := (user_of_exec_currentUser huser).2
      obtain ⟨name, scopes, hbody, hsco⟩ := body_of_takes htak
      obtain ⟨n, row, es, htok, hmade, rfl⟩ := exec_createApiToken_eq_ok ha hbody hcre
      dsimp only at hwork
      rcases hrep : makingEndpoint.reply (.object (("token", .text (ofId "cpls" n)) :: es)) with err | response
      · rw [hrep] at hwork
        exact .inl (hfai hwork)
      · rw [hrep] at hwork
        obtain ⟨es', rfl⟩ := reply_of_token rfl hrep
        rw [transact_of_ok hwork]
        exact .inr ⟨c.user, n, row, es', huser, htok, hsco ▸ hmade, rfl⟩

inductive Tended (s : Service) (r : Request) : List Row → Prop where
  | same : Tended s r (tokens s)
  | made {user row : Row} {scopes : Value} {raw : String} (hrow : IsMade user scopes raw row) :
      Tended s r (tokens s ++ [row])
  | ended {user row : Row} {start : String} (hfinds : r.finds "DELETE" "/api/v2/api_tokens/:start" [start] = true)
      (hasker : exec (currentUser r.credential) s = (.ok user, s)) (honly : candidates user start (tokens s) = [row])
      (hanswer : (answer endpoints s r).1 = .ok ⟨200, done "API token revoked"⟩) :
      Tended s r (tokens (noted row (endedCells s.world.now) s))

lemma param_of_ending (h : route endpoints r = .ok (endingEndpoint, params)) : ∃ start, params = [start] := by
  have hlen := length_of_segments? (params?_of_route h).2
  have hone : ((Text.split endingEndpoint.path "/").filter (Text.startsWith · ":")).length = 1 := by decide
  exact length_eq_one_iff.mp (hlen.trans hone)

lemma tokens_answer (hsou : s.store.sound = true) (r : Request) :
    Tended s r (tokens (answer endpoints s r).2) := by
  have hsame : (∀ e params, route endpoints r = .ok (e, params) → ∀ c, Leaves tokens (e.run c)) →
      Tended s r (tokens (answer endpoints s r).2) := by
    intro hlea
    have htok : tokens (answer endpoints s r).2 = tokens s :=
      store_answer_of_leaves (rows · .apiTokens) hlea s
    rw [htok]
    exact .same
  rcases hrou : route endpoints r with err | ⟨e, params⟩
  · exact hsame fun e params h => nomatch hrou.symm.trans h
  rcases leaves_tokens_or_eq (mem_of_route hrou) with hlea | rfl | rfl
  · refine hsame fun e' params' h => ?_
    cases hrou.symm.trans h
    exact hlea
  · rcases answer_making hrou s with ⟨hsame, -⟩ | ⟨user, n, row, es, -, htok, hmade, -⟩
    · rw [hsame]
      exact .same
    · rw [htok]
      exact .made hmade
  · obtain ⟨start, rfl⟩ := param_of_ending hrou
    have hfin := finds_of_route hrou
    rcases answer_ending hsou hfin with ⟨err, -, hans⟩ | ⟨user, huser, hans⟩
    · rw [hans]
      exact .same
    · rcases hmat : candidates user start (tokens s) with _ | ⟨row, _ | ⟨other, rest⟩⟩
      · rw [hmat] at hans
        rw [hans]
        exact .same
      · rw [hmat] at hans
        have hend : Tended s r (tokens (noted row (endedCells s.world.now) s)) :=
          .ended hfin huser hmat (by rw [hans])
        rw [hans]
        exact hend
      · rw [hmat] at hans
        rw [hans]
        exact .same

structure IsToken (row : Row) : Prop where
  isRow : Table.IsRow .apiTokens row
  id : ∃ a, cell row "id" = .text a
  start : ∃ a, cell row "token_prefix" = .text a
  active : ∃ b, cell row "is_active" = .bool b

lemma IsMade.isToken {scopes : Value} (h : IsMade user scopes raw row) : IsToken row where
  isRow := h.isRow
  id := h.id
  start := ⟨_, h.start⟩
  active := ⟨_, h.active⟩

lemma cell_revise_token {key : String} (hkey : get? changes key = none) (now : Timestamp)
    (row : Row) : cell (revise .apiTokens now changes row) key = cell row key := by
  have hsta : ∀ c ∈ columns .apiTokens, c.stamped = false := by decide
  rcases cell_revise .apiTokens now changes row key with hcell | ⟨c, hc, -, hc' | ⟨v, hv, -⟩⟩
  all_goals grind

lemma activeColumn_mem : Store.Column.usually "is_active" .flag true ∈ columns .apiTokens := by
  simp [columns]

lemma revokedColumn_mem : Store.Column.may "revoked_at" .moment ∈ columns .apiTokens := by
  simp [columns]

lemma IsToken.ended (h : IsToken row) (now time : Timestamp) :
    IsToken (revise .apiTokens now (endedCells time) row) where
  isRow := isRow_revise h.isRow now _
  id := by
    rw [cell_revise_token rfl]
    exact h.id
  start := by
    rw [cell_revise_token rfl]
    exact h.start
  active := by
    have hgiv : get? (endedCells time) "is_active" = some (.bool false) := rfl
    rcases cell_revise_of_some h.isRow activeColumn_mem hgiv now with hcell | ⟨-, hcell⟩
    · exact ⟨false, hcell⟩
    · obtain ⟨b, hb⟩ := h.active
      exact ⟨b, hcell.trans hb⟩

theorem cells_of_ended (h : IsToken row) (hact : (cell row "is_active").truthy = true) (now : Timestamp) :
    let ended := revise .apiTokens now (endedCells now) row
    cell ended "is_active" = .bool false ∧ cell ended "revoked_at" = .timestamp { now with offset := none } ∧
      ∀ key, key ∉ ["is_active", "revoked_at"] → cell ended key = cell row key := by
  have htrue : cell row "is_active" = .bool true := by
    obtain ⟨b, hb⟩ := h.active
    rw [hb] at hact ⊢
    exact congrArg Value.bool hact
  have hcha : ((endedCells now).all fun e => (cell row e.1).same e.2) = false := by
    simp [endedCells, htrue, Value.same, Value.sameNumber, Value.int?]
  refine ⟨?_, ?_, fun key hkey => ?_⟩
  · exact cell_revise_of_changed h.isRow activeColumn_mem rfl hcha now
  · exact cell_revise_of_changed h.isRow revokedColumn_mem rfl hcha now
  · refine cell_revise_token (lookup_eq_none_iff.mpr fun p hp => ?_) now row
    rw [bne_iff_ne]
    rintro rfl
    simp only [endedCells, mem_cons, not_mem_nil, or_false] at hp
    rcases hp with rfl | rfl
    · exact hkey (by simp)
    · exact hkey (by simp)

structure Keeping (s : Service) : Prop where
  sound : s.store.sound = true
  isToken : ∀ row ∈ tokens s, IsToken row

lemma tokens_noted (row changes : Row) (s : Service) :
    tokens (noted row changes s) = (tokens s).map fun other =>
      if holds "id" (cell row "id") other then revise .apiTokens s.world.now changes other else other :=
  rows_reviseWhere _ _ _ _ _

lemma Keeping.answer (h : Keeping s) (r : Request) : Keeping (answer endpoints s r).2 where
  sound := sound_answer h.sound r
  isToken := by
    have hten := tokens_answer h.sound r
    revert hten
    generalize tokens (Api.answer endpoints s r).2 = after
    intro hten
    cases hten with
    | same => exact h.isToken
    | @made user row scopes raw hrow =>
      intro other hoth
      rcases mem_append.mp hoth with hoth | hoth
      · exact h.isToken other hoth
      · rw [mem_singleton.mp hoth]
        exact hrow.isToken
    | @ended user row start =>
      rw [tokens_noted]
      intro other hoth
      obtain ⟨old, hold, rfl⟩ := mem_map.mp hoth
      split
      · exact (h.isToken old hold).ended _ _
      · exact h.isToken old hold

lemma Keeping.afterSteps (h : Keeping s) (steps : List (World × Request)) : Keeping (afterSteps s steps) :=
  afterSteps_invariant (P := Keeping) (fun s w r hs => (Keeping.answer (s := { s with world := w })
    ⟨hs.sound, hs.isToken⟩ r)) h steps

def Alone (user : Row) (start : String) (row : Row) (rows : List Row) : Prop :=
  ∀ other ∈ rows, other ≠ row → usableBy user other = true → cell other "token_prefix" ≠ .text start

def EndsOnly (row : Row) (now : Timestamp) (before after : List Row) : Prop :=
  ∃ front back ended, before = front ++ row :: back ∧ after = front ++ ended :: back ∧
    cell ended "is_active" = .bool false ∧ cell ended "revoked_at" = .timestamp { now with offset := none } ∧
    ∀ key, key ∉ ["is_active", "revoked_at"] → cell ended key = cell row key

lemma mem_candidates {rows : List Row} : row ∈ candidates user start rows ↔
      row ∈ rows ∧ cell row "token_prefix" = .text start ∧ usableBy user row = true := by
  simp only [candidates, mem_filter, Bool.and_eq_true, holds, same_text_iff]

lemma Keeping.not_mem (h : Keeping s) {front back : List Row} (hrows : tokens s = front ++ row :: back) :
    row ∉ front ∧ row ∉ back := by
  have hrow : row ∈ tokens s := by simp [hrows]
  obtain ⟨a, ha⟩ := (h.isToken row hrow).id
  obtain ⟨hself, hfro, hback⟩ := holds_key_of_split h.sound (by decide) hrows ha
  grind

lemma candidates_eq_iff (h : Keeping s) (hrow : row ∈ candidates user start (tokens s)) :
    candidates user start (tokens s) = [row] ↔ Alone user start row (tokens s) := by
  constructor
  · intro hone other hoth hne husa hsta
    have hmem : other ∈ candidates user start (tokens s) := mem_candidates.mpr ⟨hoth, hsta, husa⟩
    rw [hone] at hmem
    exact hne (mem_singleton.mp hmem)
  · intro halo
    obtain ⟨front, back, hrows⟩ := append_of_mem (mem_candidates.mp hrow).1
    obtain ⟨hfro, hback⟩ := h.not_mem hrows
    have hnone : ∀ others : List Row, (∀ other ∈ others, other ∈ tokens s) → row ∉ others →
        candidates user start others = [] := by
      intro others hsub hnot
      refine eq_nil_iff_forall_not_mem.mpr fun other hoth => ?_
      obtain ⟨hmem, hsta, husa⟩ := mem_candidates.mp hoth
      exact halo other (hsub other hmem) (fun heq => hnot (heq ▸ hmem)) husa hsta
    have hself : (holds "token_prefix" (.text start) row && usableBy user row) = true :=
      (mem_filter.mp hrow).2
    have hpar : candidates user start (front ++ row :: back) =
        candidates user start front ++ row :: candidates user start back := by
      simp only [candidates, filter_append, filter_cons, hself, if_true]
    grind

lemma endsOnly_noted (h : Keeping s) (hrow : row ∈ tokens s) (hact : (cell row "is_active").truthy = true) :
    EndsOnly row s.world.now (tokens s) (tokens (noted row (endedCells s.world.now) s)) := by
  obtain ⟨front, back, hrows⟩ := append_of_mem hrow
  obtain ⟨a, ha⟩ := (h.isToken row hrow).id
  obtain ⟨hflag, htime, hoth⟩ := cells_of_ended (h.isToken row hrow) hact s.world.now
  exact ⟨front, back, _, hrows, rows_revise_id h.sound (by decide) hrows ha _ _, hflag, htime, hoth⟩

lemma usableBy_iff (huser : cell user "id" = .text a) :
    usableBy user row = true ↔ cell row "user_id" = cell user "id" ∧ (cell row "is_active").truthy = true := by
  rw [usableBy, Bool.and_eq_true, holds, huser, same_text_iff]

lemma ending_exact_iff (h : Keeping s) (hrow : row ∈ tokens s)
    (hact : (cell row "is_active").truthy = true) (hsta : cell row "token_prefix" = .text start)
    (hfin : r.finds "DELETE" "/api/v2/api_tokens/:start" [start] = true)
    (hask : exec (currentUser r.credential) s = (.ok user, s))
    (hown : cell row "user_id" = cell user "id") : let after := answer endpoints s r
    (after.1 = .ok ⟨200, done "API token revoked"⟩ ∧ EndsOnly row s.world.now (tokens s) (tokens after.2) ↔
      Alone user start row (tokens s)) ∧
    (¬ Alone user start row (tokens s) → after.1 = .error .multipleRows ∧ tokens after.2 = tokens s) := by
  obtain ⟨a, ha⟩ := (user_of_exec_currentUser hask).2
  have hcan : row ∈ candidates user start (tokens s) :=
    mem_candidates.mpr ⟨hrow, hsta, (usableBy_iff ha).mpr ⟨hown, hact⟩⟩
  rcases answer_ending h.sound hfin with ⟨err, herr, -⟩ | ⟨user', huser', hans⟩
  · rw [hask] at herr
    cases herr
  obtain rfl : user' = user := by
    rw [hask] at huser'
    exact (Except.ok.inj (Prod.mk.inj huser').1).symm
  by_cases halo : Alone user' start row (tokens s)
  · rw [(candidates_eq_iff h hcan).mpr halo] at hans
    rw [hans]
    exact ⟨⟨fun _ => halo, fun _ => ⟨rfl, endsOnly_noted h hrow hact⟩⟩, fun hnot => absurd halo hnot⟩
  · rcases hmat : candidates user' start (tokens s) with _ | ⟨one, _ | ⟨other, rest⟩⟩
    · rw [hmat] at hcan
      cases hcan
    · rw [hmat] at hcan
      rw [← mem_singleton.mp hcan] at hmat
      exact absurd ((candidates_eq_iff h (hmat ▸ mem_singleton_self row)).mp hmat) halo
    all_goals grind

/-- After every run of requests from a sound store, whatever the worlds in which they are made, let the owner of a
token that can be used ask for its end by the start of the token. -/
theorem revocation_exact_iff_alone (hsound : s.store.sound = true) (htokens : ∀ row ∈ tokens s, IsToken row)
    (steps : List (World × Request)) (w : World) {start : String} (hrow : row ∈ tokens (afterSteps s steps))
    (hactive : (cell row "is_active").truthy = true) (hstart : cell row "token_prefix" = .text start)
    (hfinds : r.finds "DELETE" "/api/v2/api_tokens/:start" [start] = true)
    (hasker : exec (currentUser r.credential) { afterSteps s steps with world := w } =
      (.ok user, { afterSteps s steps with world := w })) (howner : cell row "user_id" = cell user "id") :
    let before := { afterSteps s steps with world := w }
    let after := answer endpoints before r
    (after.1 = .ok ⟨200, done "API token revoked"⟩ ∧ EndsOnly row w.now (tokens before) (tokens after.2) ↔
      Alone user start row (tokens before)) ∧
    (¬ Alone user start row (tokens before) → after.1 = .error .multipleRows ∧ tokens after.2 = tokens before) := by
  have hkee := (Keeping.mk hsound htokens).afterSteps steps
  exact ending_exact_iff (s := { afterSteps s steps with world := w }) ⟨hkee.sound, hkee.isToken⟩ hrow hactive
    hstart hfinds hasker howner

def tokenEntry (id hash start : String) : Store.Entry :=
  ⟨.apiTokens, fill .apiTokens silentWorld.now id
    [("user_id", "a"), ("name", "CI"), ("token_hash", .text hash), ("token_prefix", .text start)]⟩

lemma isToken_tokenEntry (id hash start : String) : IsToken (tokenEntry id hash start).row :=
  ⟨isRow_fill _ _ _ _, ⟨_, rfl⟩, ⟨_, rfl⟩, ⟨_, rfl⟩⟩

def memberService (entries : List Store.Entry) : Service where
  world := silentWorld
  store := userEntry "a" :: entries

def endToken (start : String) : Request where
  method := "DELETE"
  path := "/api/v2/api_tokens/" ++ start
  credential := sessionOf "a"

lemma finds_endToken : ∀ start ∈ ["cpls_0000000", "cpat_1"],
    (endToken start).finds "DELETE" "/api/v2/api_tokens/:start" [start] = true := by
  have hpar : ∀ start ∈ ["cpls_0000000", "cpat_1"],
      endingEndpoint.params? (endToken start).path = some [start] := by decide
  intro start hsta
  have hfin := finds_of_mem endingEndpoint_mem rfl (hpar start hsta)
  exact hfin

lemma finds_start : (endToken "cpls_0000000").finds "DELETE" "/api/v2/api_tokens/:start" ["cpls_0000000"] = true :=
  finds_endToken _ mem_cons_self

/-- Of two tokens that start in different ways one is ended. -/
theorem revocation_exact_of_two :
    let row := (tokenEntry "t" "h" "cpls_0000000").row
    let s := memberService [tokenEntry "t" "h" "cpls_0000000", tokenEntry "u" "k" "cpls_1111111"]
    s.store.sound = true ∧ (answer endpoints s (endToken "cpls_0000000")).1 = .ok ⟨200, done "API token revoked"⟩ ∧
      EndsOnly row silentWorld.now (tokens s) (tokens (answer endpoints s (endToken "cpls_0000000")).2) := by
  intro row s
  have hsou : s.store.sound = true := by decide
  have hrows : tokens s = [row, (tokenEntry "u" "k" "cpls_1111111").row] := rfl
  have htok : ∀ row ∈ tokens s, IsToken row := by
    rw [hrows]
    simp only [forall_mem_cons, not_mem_nil, false_imp_iff, implies_true, and_true]
    exact ⟨isToken_tokenEntry _ _ _, isToken_tokenEntry _ _ _⟩
  have halo : Alone (userEntry "a").row "cpls_0000000" row (tokens s) := by
    intro other hoth hne _
    rw [hrows, mem_pair] at hoth
    rw [hoth.resolve_left hne]
    exact fun h => absurd (Value.text.inj h) (by decide)
  have hrow : row ∈ tokens s := by simp [hrows]
  have hexa := revocation_exact_iff_alone hsou htok [] silentWorld hrow rfl rfl finds_start
    (exec_currentUser_session rfl rfl) rfl
  exact ⟨hsou, hexa.1.mpr halo⟩

def askToken : Request where
  method := "POST"
  path := "/api/v2/api_tokens"
  body := .object [("name", "CI")]
  credential := sessionOf "a"

lemma finds_askToken : askToken.finds "POST" "/api/v2/api_tokens" [] = true := by
  have hpar : makingEndpoint.params? askToken.path = some [] := by decide
  have hfin := finds_of_mem makingEndpoint_mem rfl hpar
  exact hfin

def minted (w : World) (s : Service) : Service :=
  (Service.transact { s with world := w } (makingEndpoint.work [] askToken (userEntry "a").row)).2

lemma select_of_users {store : Store} (h : store.rows .users = [(userEntry "a").row]) :
    store.select .users (holds "id" (.text "a")) = [(userEntry "a").row] := by
  rw [Store.select, h]
  rfl

lemma minted_of_askToken {w : World} (hnow : w.now = silentWorld.now)
    (huse : s.store.rows .users = [(userEntry "a").row]) :
    (answer endpoints { s with world := w } askToken).2 = minted w s ∧
      (minted w s).store.rows .users = [(userEntry "a").row] := by
  obtain ⟨hhere, hrou⟩ := route_of_finds_mem makingEndpoint_mem finds_askToken
  have hans := answer_of_user hhere hrou rfl (s := { s with world := w })
    (exec_currentUser_session hnow (select_of_users huse))
  have hleft : (answer endpoints { s with world := w } askToken).2 = minted w s := by
    rw [hans]
    rfl
  refine ⟨hleft, ?_⟩
  rw [← hleft, ← huse]
  refine store_answer_of_leaves (rows · .users) (fun e params hrou' => ?_) { s with world := w }
  cases hrou.symm.trans hrou'
  exact fun c => leaves_rows_of_built
    (built_of_mem_apiTokenEndpoints (by decide) (mem_cons_of_mem _ mem_cons_self) c)

def nextWorld : World := { silentWorld with ids := 2 }

lemma minted_of_askToken_twice (huse : s.store.rows .users = [(userEntry "a").row]) :
    afterSteps s [(silentWorld, askToken), (nextWorld, askToken)] = minted nextWorld (minted silentWorld s) ∧
      (minted nextWorld (minted silentWorld s)).store.rows .users = [(userEntry "a").row] := by
  obtain ⟨hfir, huse⟩ := minted_of_askToken (w := silentWorld) rfl huse
  obtain ⟨hsec, huse⟩ := minted_of_askToken (w := nextWorld) rfl huse
  have hlast : ∀ s, afterSteps s [] = s := fun _ => rfl
  refine ⟨?_, huse⟩
  rw [afterSteps_cons, afterSteps_cons, hlast, hfir, hsec]

def isAmbiguous : Result Response → Bool
  | .error .multipleRows => true
  | _ => false

lemma eq_of_isAmbiguous {answer : Result Response} (h : isAmbiguous answer = true) :
    answer = .error .multipleRows := by
  unfold isAmbiguous at h
  split at h
  · rfl
  · cases h

def isShared (s : Service) : Bool :=
  (tokens s).any (fun row => holds "user_id" (.text "a") row && (cell row "is_active").truthy &&
    holds "token_prefix" (.text "cpls_0000000") row) &&
  isAmbiguous (reply (Service.transact { s with world := silentWorld }
    (endingEndpoint.work ["cpls_0000000"] (endToken "cpls_0000000") (userEntry "a").row)).1)

lemma shared_of_isShared (hsha : isShared s = true)
    (huse : s.store.rows .users = [(userEntry "a").row]) :
    (∃ row ∈ tokens s, cell row "user_id" = .text "a" ∧ (cell row "is_active").truthy = true ∧
      cell row "token_prefix" = .text "cpls_0000000") ∧
      exec (currentUser (endToken "cpls_0000000").credential) { s with world := silentWorld } =
        (.ok (userEntry "a").row, { s with world := silentWorld }) ∧
      (answer endpoints { s with world := silentWorld } (endToken "cpls_0000000")).1 = .error .multipleRows := by
  obtain ⟨hsto, hamb⟩ := Bool.and_eq_true_iff.mp hsha
  have hask : exec (currentUser (endToken "cpls_0000000").credential) { s with world := silentWorld } = _ :=
    exec_currentUser_session rfl (select_of_users huse)
  refine ⟨?_, hask, ?_⟩
  · obtain ⟨row, hrow, hcel⟩ := any_eq_true.mp hsto
    simp only [Bool.and_eq_true, holds, same_text_iff] at hcel
    exact ⟨row, hrow, hcel.1.1, hcel.1.2, hcel.2⟩
  · obtain ⟨hhere, hrou⟩ := route_of_finds_mem endingEndpoint_mem finds_start
    rw [answer_of_user hhere hrou rfl hask]
    exact eq_of_isAmbiguous hamb

/-- Two tokens that were made one after the other start in the same way, and then neither can be ended. -/
theorem revocation_fails_of_shared_start : ∃ s,
    afterSteps (memberService []) [(silentWorld, askToken), (nextWorld, askToken)] = s ∧
      (endToken "cpls_0000000").finds "DELETE" "/api/v2/api_tokens/:start" ["cpls_0000000"] = true ∧
      (∃ row ∈ tokens s, cell row "user_id" = .text "a" ∧ (cell row "is_active").truthy = true ∧
        cell row "token_prefix" = .text "cpls_0000000") ∧
      exec (currentUser (endToken "cpls_0000000").credential) { s with world := silentWorld } =
        (.ok (userEntry "a").row, { s with world := silentWorld }) ∧
      (answer endpoints { s with world := silentWorld } (endToken "cpls_0000000")).1 = .error .multipleRows := by
  have hsha : isShared (minted nextWorld (minted silentWorld (memberService []))) = true := by decide +kernel
  obtain ⟨hste, huse⟩ := minted_of_askToken_twice (s := memberService []) rfl
  exact ⟨_, hste, finds_start, shared_of_isShared hsha huse⟩

end CloudSpend.Api
