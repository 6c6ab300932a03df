import CloudSpend.Api.Resources

/-! # Signing up and signing in -/

namespace CloudSpend.Api

open Handler
open Store (cell textCell holds)
open Form (required withDefault)

def credentialShape : Form.Shape :=
  .record [required "email" .address, required "password" (.text 8 (some 128))]

def userShown : List Shown :=
  [.plain "id" .identifier, .text "email", .text "plan", .plain "is_active" .bool, .created]

def signUp : Endpoint where
  method := "POST"
  path := "/api/v1/auth/signup"
  body := some credentialShape
  status := 201
  run c := do
    if (← find? .users "email" (c.field "email")).isSome then
      throw (.http 409 "Email already registered")
    let sealed := Access.Password.sealOf (textCell c.body "password")
    describe userShown (← insert .users
      [("email", c.field "email"), ("hashed_password", .text sealed)])

def signIn : Endpoint where
  method := "POST"
  path := "/api/v1/auth/login"
  body := some credentialShape
  run c := do
    let known (user : Row) : Handler Bool :=
      liftM (Access.Password.opens (textCell c.body "password") (textCell user "hashed_password"))
    match ← find? .users "email" (c.field "email") with
    | none => throw (.http 401 "Invalid email or password")
    | some user =>
      if !(← known user) then throw (.http 401 "Invalid email or password")
      if !(cell user "is_active").truthy then throw (.http 403 "Account is disabled")
      let token ← liftM (Access.Session.create (← now) (cell user "id") (cell user "email"))
      return .object [("access_token", .text token), ("token_type", "bearer")]

def whoAmI : Endpoint where
  method := "GET"
  path := "/api/v1/auth/me"
  signedIn := true
  run c := describe userShown c.user

def apiTokenShown : List Shown :=
  [.text "token_prefix", .text "name", .text "scopes", .plain "is_active" .bool,
   .plain "last_used_at" (.optional .timestamp), .created]

def usableBy (user : Row) (token : Row) : Bool :=
  holds "user_id" (cell user "id") token && (cell token "is_active").truthy

def shownLength : Nat := 12

def createApiToken (c : Call) : Handler Value := do
  let token ← newToken (Access.ApiToken.ofId "cpls")
  let row ← insert .apiTokens
    [("user_id", cell c.user "id"), ("name", c.field "name"),
     ("token_hash", .text (Access.ApiToken.hash token)),
     ("token_prefix", .text (Text.take shownLength token)), ("scopes", c.field "scopes")]
  return .object (("token", .text token) :: ((← describe apiTokenShown row).object?.getD []))

def revokeApiToken (c : Call) : Handler Value := do
  let rows ← select .apiTokens fun row =>
    holds "token_prefix" (.text c.param) row && usableBy c.user row
  let row ← found "API token" (← only? rows)
  discard (update .apiTokens row
    [("is_active", false), ("revoked_at", .timestamp (← now))])
  return done "API token revoked"

def apiTokenEndpoints : List Endpoint :=
  [{ method := "GET", path := "/api/v2/api_tokens", signedIn := true, query := pageFields,
     run := fun c => listing .apiTokens "api_tokens" apiTokenShown (usableBy c.user) c },
   { method := "POST", path := "/api/v2/api_tokens", signedIn := true, status := 201,
     body := some (.record [required "name" titleShape, textOr "scopes" "read"]),
     run := createApiToken },
   { method := "DELETE", path := "/api/v2/api_tokens/:start", signedIn := true,
     run := revokeApiToken }]

def signInEndpoints : List Endpoint := [signUp, signIn, whoAmI] ++ apiTokenEndpoints

end CloudSpend.Api
