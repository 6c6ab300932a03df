import CloudSpend.Proofs.Api.Tokens

/-! # Tokens that programs show -/

namespace CloudSpend.Api

open Handler List Store Table
open Store (Table cell textCell holds)
open Handler (exec)
open Access.ApiToken (hash ofId isOne)

variable {r : Request} {s s' : Service} {user row found : Row} {raw : String} {credential : Option String}

def IsLive (row : Row) : Prop := (cell row "is_active").truthy = true ∧ (cell row "revoked_at").isNull = true

def matching (raw : String) (rows : List Row) : List Row :=
  rows.filter fun row => holds "token_hash" (.text (hash raw)) row && (cell row "is_active").truthy
    && (cell row "revoked_at").isNull

lemma mem_matching {rows : List Row} :
    row ∈ matching raw rows ↔ row ∈ rows ∧ cell row "token_hash" = .text (hash raw) ∧ IsLive row := by
  simp only [matching, mem_filter, Bool.and_eq_true, holds, same_text_iff, IsLive, and_assoc]

variable {row' : Row}

lemma eq_of_hash (hsou : s.store.sound = true) (hrow : row ∈ tokens s) (hrow' : row' ∈ tokens s)
    {h : String} (hhash : cell row "token_hash" = .text h) (hhash' : cell row' "token_hash" = .text h) :
    row = row' :=
  eq_of_same_cell (hasKey_of_sound hsou (by decide)) (mem_rows.mp hrow) (mem_rows.mp hrow')
    hhash hhash'

lemma matching_eq (hsou : s.store.sound = true) (raw : String) :
    matching raw (tokens s) = [] ∨ ∃ row, matching raw (tokens s) = [row] := by
  have hapa := (hasKey_iff_pairwise.mp (hasKey_of_sound hsou
    (by decide : ["token_hash"] ∈ keys .apiTokens))).sublist
      (filter_sublist (p := fun row => holds "token_hash" (.text (hash raw)) row &&
        (cell row "is_active").truthy && (cell row "revoked_at").isNull))
  have hpai : (matching raw (tokens s)).Pairwise _ := hapa
  rcases hmat : matching raw (tokens s) with _ | ⟨row, _ | ⟨other, rest⟩⟩
  · exact .inl rfl
  · exact .inr ⟨row, rfl⟩
  · have hhash : ∀ row ∈ matching raw (tokens s), cell row "token_hash" = .text (hash raw) := fun row hrow =>
      (mem_matching.mp hrow).2.1
    rw [hmat] at hpai hhash
    have hne := rel_of_pairwise_cons hpai mem_cons_self
    rw [hhash row (by simp), hhash other (by simp), text_same_iff.mpr rfl] at hne
    cases hne

def usedCells (now : Timestamp) : Row := [("last_used_at", .timestamp now)]

def SameToken (row row' : Row) : Prop := ∀ key, key ≠ "last_used_at" → cell row' key = cell row key

lemma sameToken_used (now time : Timestamp) (row : Row) :
    SameToken row (revise .apiTokens now (usedCells time) row) := by
  intro key hkey
  refine cell_revise_token (lookup_eq_none_iff.mpr fun p hp => ?_) now row
  rw [mem_singleton.mp hp, bne_iff_ne]
  exact hkey

lemma SameToken.isLive_iff (h : SameToken row row') : IsLive row' ↔ IsLive row := by
  rw [IsLive, IsLive, h "is_active" (by decide), h "revoked_at" (by decide)]

def Shows (credential : Option String) (row : Row) : Prop :=
  ∃ raw, credential = some raw ∧ isOne raw = true ∧ cell row "token_hash" = .text (hash raw)

lemma shows_some : Shows (some raw) row ↔ isOne raw = true ∧ cell row "token_hash" = .text (hash raw) := by
  simp [Shows]

lemma exec_apiToken?_of_other (h : isOne raw = false) (s : Service) :
    exec (apiToken? (some raw)) s = (.ok none, s) := by
  have hnone : (credential? (some raw)).filter isOne = none := by
    simp [credential?, Option.filter_eq_none_iff, h]
  unfold apiToken?
  rw [hnone]
  rfl

lemma filter_of_isOne (h : isOne raw = true) : (credential? (some raw)).filter isOne = some raw := by
  have hfil : raw.isEmpty = false := by
    cases hemp : raw.isEmpty with
    | false => rfl
    | true =>
      obtain rfl := String.isEmpty_iff.mp hemp
      revert h
      decide
  simp [credential?, hfil, h]

lemma cases_apiToken? (hsou : s.store.sound = true) (credential : Option String) :
    (∃ row ∈ tokens s, Shows credential row ∧ IsLive row ∧ exec (apiToken? credential) s =
      (.ok (some (revise .apiTokens s.world.now (usedCells s.world.now) row)),
        noted row (usedCells s.world.now) s)) ∨
    ((∀ row ∈ tokens s, Shows credential row → ¬ IsLive row) ∧ exec (apiToken? credential) s =
      (if credential.any isOne then .error (.http 401 "Invalid or revoked API token") else .ok none, s)) := by
  cases credential with
  | none =>
    refine .inr ⟨fun row _ hsho => ?_, rfl⟩
    obtain ⟨raw, hraw, -⟩ := hsho
    cases hraw
  | some raw =>
    cases hone : isOne raw with
    | false =>
      refine .inr ⟨fun row _ hsho => ?_, ?_⟩
      · rw [shows_some, hone] at hsho
        cases hsho.1
      · rw [exec_apiToken?_of_other hone, Option.any_some, hone, if_neg Bool.false_ne_true]
    | true =>
      have hsel : exec (select .apiTokens fun row => holds "token_hash" (.text (hash raw)) row &&
          (cell row "is_active").truthy && (cell row "revoked_at").isNull) s =
            (.ok (matching raw (tokens s)), s) :=
        exec_select fun row _ _ => strangeWord?_token row
      unfold apiToken?
      rw [filter_of_isOne hone]
      rw [exec_bind_ok hsel]
      rcases matching_eq hsou raw with hmat | ⟨row, hmat⟩
      · rw [hmat]
        refine .inr ⟨fun row hrow hsho hlive => ?_, by simp [hone]; rfl⟩
        have hmem : row ∈ matching raw (tokens s) := mem_matching.mpr ⟨hrow, (shows_some.mp hsho).2, hlive⟩
        rw [hmat] at hmem
        cases hmem
      · have hmem : row ∈ matching raw (tokens s) := by simp [hmat]
        obtain ⟨hrow, hhash, hlive⟩ := mem_matching.mp hmem
        have hused : exec (update .apiTokens row (usedCells s.world.now)) s = _ :=
          exec_note_token hsou (by simp [usedCells]) (by simp [usedCells]) row
        have honly : exec (only? [row]) s = (.ok (some row), s) := rfl
        refine .inl ⟨row, hrow, shows_some.mpr ⟨hone, hhash⟩, hlive, ?_⟩
        rw [hmat, exec_bind_ok honly]
        exact exec_bind_ok hused _

def Unexpired (now : Timestamp) (row : Row) : Prop :=
  cell row "expires_at" = .null ∨ ∃ t, cell row "expires_at" = .timestamp t ∧ now.micros < t.micros

def OwnerActive (s : Service) (row : Row) : Prop :=
  ∃ user ∈ s.store.rows .users, cell user "id" = cell row "user_id" ∧ (cell user "is_active").truthy = true

lemma SameToken.unexpired_iff (h : SameToken row row') (now : Timestamp) :
    Unexpired now row' ↔ Unexpired now row := by
  rw [Unexpired, Unexpired, h "expires_at" (by decide)]

lemma SameToken.ownerActive_iff (h : SameToken row row') (s : Service) :
    OwnerActive s row' ↔ OwnerActive s row := by
  rw [OwnerActive, OwnerActive, h "user_id" (by decide)]

lemma ownerActive_noted_iff (row changes : Row) (s : Service) (row' : Row) :
    OwnerActive (noted row changes s) row' ↔ OwnerActive s row' := by
  have huse : (noted row changes s).store.rows .users = s.store.rows .users :=
    rows_reviseWhere_of_ne _ (by decide) _ _ _
  rw [OwnerActive, OwnerActive, huse]

lemma found_of_exec_apiToken? (hsou : s.store.sound = true)
    (h : exec (apiToken? credential) s = (.ok (some found), s')) :
    ∃ row ∈ tokens s, Shows credential row ∧ IsLive row ∧ SameToken row found ∧
      s' = noted row (usedCells s.world.now) s := by
  rcases cases_apiToken? hsou credential with ⟨row, hrow, hsho, hlive, hexec⟩ | ⟨-, hexec⟩
  · obtain ⟨hfou, haft⟩ := Prod.mk.inj (hexec.symm.trans h)
    obtain rfl := Option.some.inj (Except.ok.inj hfou)
    exact ⟨row, hrow, hsho, hlive, sameToken_used _ _ _, haft.symm⟩
  all_goals grind

lemma exec_apiToken?_of_isLive (hsou : s.store.sound = true) (hrow : row ∈ tokens s)
    (hsho : Shows credential row) (hlive : IsLive row) :
    exec (apiToken? credential) s = (.ok (some (revise .apiTokens s.world.now (usedCells s.world.now) row)),
      noted row (usedCells s.world.now) s) := by
  rcases cases_apiToken? hsou credential with ⟨row', hrow', hsho', -, hexec⟩ | ⟨hnone, -⟩
  · obtain ⟨raw, rfl, -, hhash⟩ := hsho
    obtain rfl : row = row' := eq_of_hash hsou hrow hrow' hhash (shows_some.mp hsho').2
    exact hexec
  · exact absurd hlive (hnone row hrow hsho)

/-- With a sound store, at any time and for any credential: a token that is found is a stored one with the hash of the
credential, is active and was not revoked; every such token is found, whenever it expires and whoever owns it. -/
theorem authentication_sound_iff (hsound : s.store.sound = true) (credential : Option String) :
    (∀ found s', exec (apiToken? credential) s = (.ok (some found), s') →
      IsLive found ∧ ∃ row ∈ tokens s, Shows credential row ∧ SameToken row found) ∧
    (∀ row ∈ tokens s, Shows credential row → IsLive row →
      ∃ found s', exec (apiToken? credential) s = (.ok (some found), s') ∧ SameToken row found) ∧
    ((∀ found s', exec (apiToken? credential) s = (.ok (some found), s') →
        IsLive found ∧ Unexpired s.world.now found ∧ OwnerActive s' found) ↔
      ∀ row ∈ tokens s, Shows credential row → IsLive row → Unexpired s.world.now row ∧ OwnerActive s row) := by
  refine ⟨fun found s' h => ?_, fun row hrow hsho hlive => ?_, fun hall row hrow hsho hlive => ?_,
    fun hall found s' h => ?_⟩
  · obtain ⟨row, hrow, hsho, hlive, hsame, -⟩ := found_of_exec_apiToken? hsound h
    exact ⟨hsame.isLive_iff.mpr hlive, row, hrow, hsho, hsame⟩
  · exact ⟨_, _, exec_apiToken?_of_isLive hsound hrow hsho hlive, sameToken_used _ _ _⟩
  · have hsame := sameToken_used s.world.now s.world.now row
    obtain ⟨-, hune, hown⟩ := hall _ _ (exec_apiToken?_of_isLive hsound hrow hsho hlive)
    rw [ownerActive_noted_iff, hsame.ownerActive_iff] at hown
    exact ⟨(hsame.unexpired_iff _).mp hune, hown⟩
  · obtain ⟨row, hrow, hsho, hlive, hsame, rfl⟩ := found_of_exec_apiToken? hsound h
    rw [hsame.isLive_iff, hsame.unexpired_iff, ownerActive_noted_iff, hsame.ownerActive_iff]
    exact ⟨hlive, hall row hrow hsho hlive⟩

def expiringService (active : Bool) (expires : Timestamp) : Service where
  world := silentWorld
  store := [⟨.users, fill .users silentWorld.now "a"
      [("email", "a"), ("hashed_password", ""), ("is_active", .bool active)]⟩,
    ⟨.apiTokens, fill .apiTokens silentWorld.now "t" [("user_id", "a"), ("name", "CI"),
      ("token_hash", .text (hash "cpat_1")), ("token_prefix", "cpat_1"), ("expires_at", .timestamp expires)]⟩]

lemma shows_expiring (active : Bool) (expires : Timestamp) :
    ∃ row, tokens (expiringService active expires) = [row] ∧ Shows (some "cpat_1") row ∧ IsLive row ∧
      cell row "expires_at" = .timestamp { expires with offset := none } ∧ cell row "user_id" = .text "a" :=
  ⟨_, rfl, shows_some.mpr ⟨by decide, rfl⟩, ⟨rfl, rfl⟩, rfl, rfl⟩

/-- A token that expires later, of an active user. -/
theorem authentication_sound_of_current :
    let s := expiringService true { date := ⟨2027, 1, 1⟩ }
    s.store.sound = true ∧ ∃ found s', exec (apiToken? (some "cpat_1")) s = (.ok (some found), s') ∧
      IsLive found ∧ Unexpired s.world.now found ∧ OwnerActive s' found := by
  intro s
  have hsou : s.store.sound = true := by decide
  obtain ⟨row, hrows, hsho, hlive, hexp, hid⟩ := shows_expiring true { date := ⟨2027, 1, 1⟩ }
  have hune : Unexpired s.world.now row := .inr ⟨_, hexp, by decide⟩
  have hown : OwnerActive s row := ⟨_, mem_cons_self, hid.symm, rfl⟩
  obtain ⟨-, hfin, hsound_iff⟩ := authentication_sound_iff hsou (some "cpat_1")
  grind

/-- A token that has expired is found, and so is a token of a user who is not active. -/
theorem expired_or_orphaned_token_accepted :
    (∃ found s', exec (apiToken? (some "cpat_1")) (expiringService true { date := ⟨2026, 1, 1⟩ }) =
      (.ok (some found), s') ∧ ¬ Unexpired silentWorld.now found) ∧
    ∃ found s', exec (apiToken? (some "cpat_1")) (expiringService false { date := ⟨2027, 1, 1⟩ }) =
      (.ok (some found), s') ∧ ¬ OwnerActive s' found := by
  constructor
  · obtain ⟨row, hrows, hsho, hlive, hexp, -⟩ := shows_expiring true { date := ⟨2026, 1, 1⟩ }
    refine ⟨_, _, exec_apiToken?_of_isLive (by decide) (hrows ▸ mem_singleton_self row) hsho hlive, ?_⟩
    rw [(sameToken_used _ _ _).unexpired_iff, Unexpired, hexp]
    rintro (hnull | ⟨t, ht, hlat⟩)
    · cases hnull
    · obtain rfl := Value.timestamp.inj ht
      revert hlat
      decide
  · obtain ⟨row, hrows, hsho, hlive, -, hid⟩ := shows_expiring false { date := ⟨2027, 1, 1⟩ }
    refine ⟨_, _, exec_apiToken?_of_isLive (by decide) (hrows ▸ mem_singleton_self row) hsho hlive, ?_⟩
    rw [ownerActive_noted_iff, (sameToken_used _ _ _).ownerActive_iff]
    rintro ⟨user, huser, -, hact⟩
    obtain rfl := mem_singleton.mp huser
    cases hact

inductive Event where
  | request (r : Request)
  | use (credential : Option String)

def Event.after (s : Service) : Event → Service
  | request r => (answer endpoints s r).2
  | use credential => (s.transact (apiToken? credential)).2

def afterEvents (s : Service) (events : List (World × Event)) : Service :=
  events.foldl (fun s e => e.2.after { s with world := e.1 }) s

def Event.Ends (e : Event) (row : Row) (s : Service) : Prop :=
  ∃ r, e = request r ∧ r.finds "DELETE" "/api/v2/api_tokens/:start" [textCell row "token_prefix"] = true ∧
    (∃ user, exec (currentUser r.credential) s = (.ok user, s) ∧ cell row "user_id" = cell user "id") ∧
    (answer endpoints s r).1 = .ok ⟨200, done "API token revoked"⟩

def Ended (row : Row) : Service → List (World × Event) → Prop
  | _, [] => False
  | s, (w, e) :: events => e.Ends row { s with world := w } ∨ Ended row (e.after { s with world := w }) events

lemma mem_noted (h : Keeping s) (hrow : row ∈ tokens s) {other : Row} (hoth : other ∈ tokens s) (changes : Row) :
    other = row ∧ revise .apiTokens s.world.now changes row ∈ tokens (noted row changes s) ∨
      other ≠ row ∧ other ∈ tokens (noted row changes s) := by
  obtain ⟨a, ha⟩ := (h.isToken row hrow).id
  have hhol : holds "id" (cell row "id") other = true ↔ other = row :=
    holds_id_iff h.sound (by decide) hrow ha hoth
  rw [tokens_noted]
  grind

lemma IsToken.used (h : IsToken row) (now time : Timestamp) :
    IsToken (revise .apiTokens now (usedCells time) row) := by
  have hsame := sameToken_used now time row
  exact {
    isRow := isRow_revise h.isRow now _
    id := hsame "id" (by decide) ▸ h.id
    start := hsame "token_prefix" (by decide) ▸ h.start
    active := hsame "is_active" (by decide) ▸ h.active }

lemma Keeping.used (h : Keeping s) (row : Row) : Keeping (noted row (usedCells s.world.now) s) where
  sound := sound_reviseWhere h.sound (plain_of_names (by simp [usedCells])) _ _
  isToken := by
    rw [tokens_noted]
    intro other hoth
    obtain ⟨old, hold, rfl⟩ := mem_map.mp hoth
    split
    · exact (h.isToken old hold).used _ _
    · exact h.isToken old hold

lemma after_use (hsou : s.store.sound = true) (credential : Option String) :
    Event.after s (.use credential) = s ∨ ∃ row ∈ tokens s, IsLive row ∧
      Event.after s (.use credential) = noted row (usedCells s.world.now) s := by
  rcases cases_apiToken? hsou credential with ⟨row, hrow, -, hlive, hexec⟩ | ⟨-, hexec⟩
  · refine .inr ⟨row, hrow, hlive, ?_⟩
    rw [Event.after, transact_of_ok hexec]
  · refine .inl ?_
    rw [Event.after]
    split at hexec
    · rw [transact_of_error hexec]
    · rw [transact_of_ok hexec]

lemma Keeping.after (h : Keeping s) (e : Event) : Keeping (e.after s) := by
  cases e with
  | request r => exact h.answer r
  | use credential =>
    rcases after_use h.sound credential with hsame | ⟨row, -, -, hused⟩
    · rw [hsame]
      exact h
    · rw [hused]
      exact h.used row

lemma Keeping.inWorld (h : Keeping s) (w : World) : Keeping { s with world := w } := ⟨h.sound, h.isToken⟩

lemma textCell_of_text {key a : String} (h : cell row key = .text a) : textCell row key = a := by
  rw [textCell, h]
  rfl

lemma mem_answer_or_ends (h : Keeping s) (hrow : row ∈ tokens s) (r : Request) :
    row ∈ tokens (answer endpoints s r).2 ∨ (cell row "is_active").truthy = true ∧ (Event.request r).Ends row s := by
  have hten := tokens_answer h.sound r
  revert hten
  generalize tokens (answer endpoints s r).2 = after
  intro hten
  cases hten with
  | same => exact .inl hrow
  | made => exact .inl (mem_append_left _ hrow)
  | @ended user row' start hfin hask honly hans =>
    obtain ⟨hrow', hsta, husa⟩ := mem_candidates.mp (honly ▸ mem_singleton_self row')
    rcases mem_noted h hrow' hrow (endedCells s.world.now) with ⟨rfl, -⟩ | ⟨-, hleft⟩
    · obtain ⟨a, ha⟩ := (user_of_exec_currentUser hask).2
      obtain ⟨hown, hact⟩ := (usableBy_iff ha).mp husa
      rw [← textCell_of_text hsta] at hfin
      exact .inr ⟨hact, r, rfl, hfin, ⟨user, hask, hown⟩, hans⟩
    · exact .inl hleft

lemma ended_of_ends (h : Keeping s) (hrow : row ∈ tokens s) (hact : (cell row "is_active").truthy = true)
    (hends : (Event.request r).Ends row s) :
    revise .apiTokens s.world.now (endedCells s.world.now) row ∈ tokens (answer endpoints s r).2 := by
  obtain ⟨r', hr, hfin, ⟨user, hask, hown⟩, hdone⟩ := hends
  obtain rfl := Event.request.inj hr
  obtain ⟨start, hsta⟩ := (h.isToken row hrow).start
  rw [textCell_of_text hsta] at hfin
  obtain ⟨a, ha⟩ := (user_of_exec_currentUser hask).2
  have hcan : row ∈ candidates user start (tokens s) :=
    mem_candidates.mpr ⟨hrow, hsta, (usableBy_iff ha).mpr ⟨hown, hact⟩⟩
  rcases answer_ending h.sound hfin with ⟨err, herr, -⟩ | ⟨user', huser', hans⟩
  · rw [hask] at herr
    cases herr
  obtain rfl : user = user' := by
    rw [hask] at huser'
    exact Except.ok.inj (Prod.mk.inj huser').1
  rcases hcnd : candidates user start (tokens s) with _ | ⟨one, _ | ⟨two, rest⟩⟩
  · rw [hcnd] at hcan
    cases hcan
  · rw [hcnd] at hcan hans
    obtain rfl := mem_singleton.mp hcan
    rw [hans]
    rcases mem_noted h hrow hrow (endedCells s.world.now) with ⟨-, hend⟩ | ⟨hne, -⟩
    · exact hend
    · exact absurd rfl hne
  · rw [hcnd] at hans
    rw [hans] at hdone
    cases hdone

theorem fate (h : Keeping s) (hrow : row ∈ tokens s) (e : Event) :
    (row ∈ tokens (e.after s) ∧ ((cell row "is_active").truthy = true → ¬ e.Ends row s)) ∨
    ((cell row "is_active").truthy = true ∧ ¬ e.Ends row s ∧
      revise .apiTokens s.world.now (usedCells s.world.now) row ∈ tokens (e.after s)) ∨
    ((cell row "is_active").truthy = true ∧ e.Ends row s ∧
      revise .apiTokens s.world.now (endedCells s.world.now) row ∈ tokens (e.after s)) := by
  cases e with
  | request r =>
    by_cases hends : (cell row "is_active").truthy = true ∧ (Event.request r).Ends row s
    · exact .inr (.inr ⟨hends.1, hends.2, ended_of_ends h hrow hends.1 hends.2⟩)
    · exact .inl ⟨(mem_answer_or_ends h hrow r).resolve_right hends, not_and.mp hends⟩
  | use credential =>
    have hnot : ¬ (Event.use credential).Ends row s := by
      rintro ⟨r, hr, -⟩
      cases hr
    rcases after_use h.sound credential with hsame | ⟨row', hrow', hlive, hused⟩
    · rw [hsame]
      exact .inl ⟨hrow, fun _ => hnot⟩
    · rw [hused]
      rcases mem_noted h hrow' hrow (usedCells s.world.now) with ⟨rfl, hmem⟩ | ⟨-, hleft⟩
      · exact .inr (.inl ⟨hlive.1, hnot, hmem⟩)
      · exact .inl ⟨hleft, fun _ => hnot⟩

def InUse (row : Row) (s : Service) : Prop := ∃ current ∈ tokens s, SameToken row current

def OutOfUse (row : Row) (s : Service) : Prop :=
  ∃ current ∈ tokens s, cell current "token_hash" = cell row "token_hash" ∧
    (cell current "is_active").truthy = false

lemma SameToken.ends_iff (h : SameToken row row') (e : Event) (s : Service) :
    e.Ends row' s ↔ e.Ends row s := by
  simp only [Event.Ends, textCell, h "token_prefix" (by decide), h "user_id" (by decide)]

lemma SameToken.trans {row'' : Row} (h : SameToken row row') (h' : SameToken row' row'') :
    SameToken row row'' := fun key hkey => (h' key hkey).trans (h key hkey)

lemma OutOfUse.after (hout : OutOfUse row s) (h : Keeping s) (e : Event) : OutOfUse row (e.after s) := by
  obtain ⟨current, hcur, hhash, hina⟩ := hout
  rcases fate h hcur e with ⟨hleft, -⟩ | ⟨hact, -⟩ | ⟨hact, -⟩
  · exact ⟨current, hleft, hhash, hina⟩
  all_goals grind

lemma InUse.after (hin : InUse row s) (hlive : IsLive row) (h : Keeping s) (e : Event) :
    (e.Ends row s → OutOfUse row (e.after s)) ∧ (¬ e.Ends row s → InUse row (e.after s)) := by
  obtain ⟨current, hcur, hsame⟩ := hin
  have hact : (cell current "is_active").truthy = true := (hsame.isLive_iff.mpr hlive).1
  have hends := hsame.ends_iff e s
  rcases fate h hcur e with ⟨hleft, hnot⟩ | ⟨-, hnot, hused⟩ | ⟨-, hdone, hend⟩
  · exact ⟨fun hrow => absurd (hends.mpr hrow) (hnot hact), fun _ => ⟨current, hleft, hsame⟩⟩
  · exact ⟨fun hrow => absurd (hends.mpr hrow) hnot, fun _ => ⟨_, hused, hsame.trans (sameToken_used _ _ _)⟩⟩
  · obtain ⟨hflag, -, hoth⟩ := cells_of_ended (h.isToken current hcur) hact s.world.now
    have hhash := (hoth "token_hash" (by decide)).trans (hsame "token_hash" (by decide))
    exact ⟨fun _ => ⟨_, hend, hhash, by rw [hflag]; rfl⟩, fun hrow => absurd (hends.mp hdone) hrow⟩

lemma afterEvents_dead (h : Keeping s) (hout : OutOfUse row s) (events : List (World × Event)) :
    OutOfUse row (afterEvents s events) := by
  induction events generalizing s with
  | nil => exact hout
  | cons step events ih =>
    have hstep := OutOfUse.after (s := { s with world := step.1 }) hout (h.inWorld step.1) step.2
    exact ih ((h.inWorld step.1).after step.2) hstep

theorem afterEvents_live (h : Keeping s) (hlive : IsLive row) (hin : InUse row s) (events : List (World × Event)) :
    (Ended row s events → OutOfUse row (afterEvents s events)) ∧
      (¬ Ended row s events → InUse row (afterEvents s events)) := by
  induction events generalizing s with
  | nil => exact ⟨False.elim, fun _ => hin⟩
  | cons step events ih =>
    obtain ⟨w, e⟩ := step
    have haft := (h.inWorld w).after e
    obtain ⟨hends, hleft⟩ := InUse.after (s := { s with world := w }) hin hlive (h.inWorld w) e
    by_cases he : e.Ends row { s with world := w }
    · exact ⟨fun _ => afterEvents_dead haft (hends he) events, fun hnot => absurd (.inl he) hnot⟩
    · obtain ⟨hdead, hlat⟩ := ih haft (hleft he)
      exact ⟨fun hend => hdead (hend.resolve_left he), fun hnot => hlat fun hend => hnot (.inr hend)⟩

lemma Keeping.afterEvents (h : Keeping s) (events : List (World × Event)) : Keeping (afterEvents s events) := by
  induction events generalizing s with
  | nil => exact h
  | cons step events ih => exact ih ((h.inWorld step.1).after step.2)

lemma isOne_made (n : Nat) : isOne (ofId "cpls" n) = false := by
  simp [isOne, Access.ApiToken.kinds, ofId, Access.tokenOf, isPrefixOf]

lemma made_of_answer (hfin : r.finds "POST" "/api/v2/api_tokens" [] = true) {response : Response}
    (hans : (answer endpoints s r).1 = .ok response) (htok : response.token? = some (.text raw)) :
    ∃ user row, exec (currentUser r.credential) s = (.ok user, s) ∧
      tokens (answer endpoints s r).2 = tokens s ++ [row] ∧ IsMade user r.scopes raw row ∧ isOne raw = false := by
  obtain ⟨-, hrou⟩ := route_of_finds_mem makingEndpoint_mem hfin
  rcases answer_making hrou s with ⟨-, hnone⟩ | ⟨user, n, row, es, huser, htke, hmade, htold⟩
  · rw [hnone response hans] at htok
    cases htok
  · obtain rfl := Except.ok.inj (htold.symm.trans hans)
    obtain rfl : ofId "cpls" n = raw := Value.text.inj (Option.some.inj htok)
    exact ⟨user, row, huser, htke, hmade, isOne_made n⟩

lemma exec_apiToken?_of_inUse (hsou : s.store.sound = true) (hhash : cell row "token_hash" = .text (hash raw))
    (hlive : IsLive row) (hone : isOne raw = true) (hin : InUse row s) :
    ∃ found s', exec (apiToken? (some raw)) s = (.ok (some found), s') ∧ SameToken row found := by
  obtain ⟨current, hcur, hsame⟩ := hin
  have hsho : Shows (some raw) current := shows_some.mpr ⟨hone, (hsame "token_hash" (by decide)).trans hhash⟩
  exact ⟨_, _, exec_apiToken?_of_isLive hsou hcur hsho (hsame.isLive_iff.mpr hlive),
    hsame.trans (sameToken_used _ _ _)⟩

lemma exec_apiToken?_of_outOfUse (hsou : s.store.sound = true) (hhash : cell row "token_hash" = .text (hash raw))
    (hone : isOne raw = true) (hout : OutOfUse row s) :
    exec (apiToken? (some raw)) s = (.error (.http 401 "Invalid or revoked API token"), s) := by
  obtain ⟨current, hcur, hsame, hina⟩ := hout
  rcases cases_apiToken? hsou (some raw) with ⟨other, hoth, hsho, hlive, -⟩ | ⟨-, hexec⟩
  · obtain rfl : current = other :=
      eq_of_hash hsou hcur hoth (hsame.trans hhash) (shows_some.mp hsho).2
    rw [hlive.1] at hina
    cases hina
  · rw [hexec, Option.any_some, hone, if_pos rfl]

/-- From every sound store on, whatever requests are made and whatever programs show, in whatever worlds. -/
theorem token_life_cycle (hsound : s.store.sound = true) (htokens : ∀ row ∈ tokens s, IsToken row) :
    (∀ (w : World) (r : Request) (response : Response) (raw : String),
      r.finds "POST" "/api/v2/api_tokens" [] = true →
      (answer endpoints { s with world := w } r).1 = .ok response → response.token? = some (.text raw) →
      let after := (answer endpoints { s with world := w } r).2
      ∃ user row, exec (currentUser r.credential) { s with world := w } = (.ok user, { s with world := w }) ∧
        tokens after = tokens s ++ [row] ∧ IsMade user r.scopes raw row ∧ isOne raw = false ∧
        ∀ (events : List (World × Event)) (w' : World), let later := { afterEvents after events with world := w' }
          exec (apiToken? (some raw)) later = (.ok none, later)) ∧
    ∀ (raw : String) (row : Row), row ∈ tokens s → cell row "token_hash" = .text (hash raw) → IsLive row →
      isOne raw = true → ∀ (events : List (World × Event)) (w : World),
      let later := { afterEvents s events with world := w }
      (¬ Ended row s events → ∃ found s', exec (apiToken? (some raw)) later = (.ok (some found), s') ∧
        SameToken row found) ∧
      (Ended row s events → exec (apiToken? (some raw)) later =
        (.error (.http 401 "Invalid or revoked API token"), later)) := by
  constructor
  · intro w r response raw hfin hans htok after
    obtain ⟨user, row, huser, hadd, hmade, hoth⟩ := made_of_answer hfin hans htok
    exact ⟨user, row, huser, hadd, hmade, hoth, fun events w' => exec_apiToken?_of_other hoth _⟩
  · intro raw row hrow hhash hlive hone events w later
    have hkee := (Keeping.mk hsound htokens).afterEvents events
    obtain ⟨hend, hleft⟩ := afterEvents_live ⟨hsound, htokens⟩ hlive ⟨row, hrow, fun _ _ => rfl⟩ events
    exact ⟨fun hnot => exec_apiToken?_of_inUse (s := later) hkee.sound hhash hlive hone (hleft hnot),
      fun hends => exec_apiToken?_of_outOfUse (s := later) hkee.sound hhash hone (hend hends)⟩

/-- A token that was stored before is found, and refused once its use has ended. -/
theorem token_life_cycle_ended :
    let s := memberService [tokenEntry "t" (hash "cpat_1") "cpat_1"]
    let ended := { afterEvents s [(silentWorld, .request (endToken "cpat_1"))] with world := silentWorld }
    s.store.sound = true ∧ (∃ found s', exec (apiToken? (some "cpat_1")) s = (.ok (some found), s')) ∧
      exec (apiToken? (some "cpat_1")) ended = (.error (.http 401 "Invalid or revoked API token"), ended) := by
  intro s ended
  have hsou : s.store.sound = true := by decide
  let row := (tokenEntry "t" (hash "cpat_1") "cpat_1").row
  have hrows : tokens s = [row] := rfl
  have hrow : row ∈ tokens s := mem_singleton_self row
  have htok : ∀ row ∈ tokens s, IsToken row := by
    intro other hoth
    rw [hrows, mem_singleton] at hoth
    rw [hoth]
    exact isToken_tokenEntry _ _ _
  have hfin := finds_endToken "cpat_1" (by simp)
  have hask : exec (currentUser (endToken "cpat_1").credential) s = (.ok (userEntry "a").row, s) :=
    exec_currentUser_session rfl rfl
  have halo : Alone (userEntry "a").row "cpat_1" row (tokens s) := by
    intro other hoth hne
    exact absurd (mem_singleton.mp (hrows ▸ hoth)) hne
  have hdone := ((ending_exact_iff ⟨hsou, htok⟩ hrow rfl rfl hfin hask rfl).1.mpr halo).1
  obtain ⟨-, hlife⟩ := token_life_cycle hsou htok
  have hcyc := hlife "cpat_1" row hrow rfl ⟨rfl, rfl⟩ (by decide)
  obtain ⟨found, s', hexec, -⟩ := (hcyc [] silentWorld).1 not_false
  exact ⟨hsou, ⟨found, s', hexec⟩, (hcyc [(silentWorld, .request (endToken "cpat_1"))] silentWorld).2
    (.inl ⟨_, rfl, hfin, ⟨_, hask, rfl⟩, hdone⟩)⟩

lemma not_accepted_of_told (hfin : r.finds "POST" "/api/v2/api_tokens" [] = true)
    (hask : exec (currentUser r.credential) s = (.ok user, s))
    (htold : ((reply (s.transact (makingEndpoint.work [] r user)).1).toOption.bind Response.token?).isSome = true) :
    ∃ response raw, (answer endpoints s r).1 = .ok response ∧ response.token? = some (.text raw) ∧
      exec (apiToken? (some raw)) (answer endpoints s r).2 = (.ok none, (answer endpoints s r).2) := by
  obtain ⟨hhere, hrou⟩ := route_of_finds_mem makingEndpoint_mem hfin
  have hans : (answer endpoints s r).1 = reply (s.transact (makingEndpoint.work [] r user)).1 := by
    rw [answer_of_user hhere hrou rfl hask]
  rw [← hans] at htold
  rcases answer_making hrou s with ⟨-, hnone⟩ | ⟨user, n, row, es, -, -, -, htok⟩
  · cases hmade : (answer endpoints s r).1 with
    | error err => simp [hmade, Except.toOption] at htold
    | ok response => simp [hmade, Except.toOption, hnone response hmade] at htold
  · exact ⟨_, _, htok, rfl, exec_apiToken?_of_other (isOne_made n) _⟩

/-- The token that a user has just made is not found. -/
theorem made_token_not_accepted :
    ∃ response raw, (answer endpoints (memberService []) askToken).1 = .ok response ∧
      response.token? = some (.text raw) ∧
      exec (apiToken? (some raw)) (answer endpoints (memberService []) askToken).2 =
        (.ok none, (answer endpoints (memberService []) askToken).2) :=
  not_accepted_of_told finds_askToken (exec_currentUser_session rfl rfl) (by decide +kernel)

end CloudSpend.Api
