import CloudSpend.Access.Credential
import CloudSpend.Cluster.Store
import CloudSpend.Store.Basic
import CloudSpend.Webhook.Registry

/-! # The service and who asks it -/

namespace CloudSpend

structure Service where
  world : World
  store : Store := []
  webhooks : Webhook.Registry := []
  receivers : List Web.Request → Web.Request → Result Web.Reply := world.outside.web
  clusters : Cluster.Store := []

abbrev Handler := ExceptT Fault (StateM Service)

instance : MonadLift Run Handler where
  monadLift x := ExceptT.mk do
    let s ← get
    let (r, w) := x.run.run s.world
    set { s with world := w }
    return r

def Service.transact {α : Type} (s : Service) (h : Handler α) : Result α × Service :=
  match h.run.run s with
  | (.ok a, after) => (.ok a, after)
  | (.error e, after) => (.error e, { after with store := s.store })

namespace Handler

open Store (Table cell holds)

def now : Handler Timestamp := do return (← getThe Service).world.now

def today : Handler Date := do return (← now).date

def newId : Handler String := do return Store.identifier (← liftM Run.nextId)

def newToken (token : Nat → String) : Handler String := do return token (← liftM Run.nextId)

def rows (t : Table) (test : Row → Bool) : Handler (List Row) := do
  return (← getThe Service).store.select t test

def select (t : Table) (test : Row → Bool) : Handler (List Row) := do
  liftM (t.readable (← rows t test))

def only? : List Row → Handler (Option Row)
  | [] => return none
  | [row] => return some row
  | _ => throw .multipleRows

def find? (t : Table) (column : String) (v : Value) : Handler (Option Row) := do
  only? (← select t (holds column v))

def found (what : String) : Option Row → Handler Row
  | some row => return row
  | none => throw (.http 404 (what ++ " not found"))

def byId (t : Table) (what id : String) : Handler Row := do found what (← find? t "id" (.text id))

def findText? (t : Table) (column : String) (v : Value) : Handler (Option Row) := do
  if !Store.CellKind.text.canHold v then throw (.notStorable v.kind)
  find? t column (Store.CellKind.text.normal v)

def byToken (t : Table) (token : Value) : Handler Row := do
  found t.name (← findText? t "token" token)

def requireStorable (row : Row) : Handler Unit :=
  let ok (e : String × Value) : Bool := match e.2 with
    | .int n => Store.isStored n
    | _ => true
  if row.all ok then return else throw .storedIntTooLarge

def change (f : Store → Result Store) : Handler Unit := do
  let store ← liftM (f (← getThe Service).store)
  modifyThe Service fun s => { s with store }

def place (t : Table) (given : Row) : Handler Row := do
  let id ← if t.takesId given then newId else pure ""
  requireStorable given
  let row := t.fill (← now) id given
  if let some fault := t.misfit? row then throw fault
  change fun s => s.insert t row
  return row

def reread (t : Table) (row : Row) : Handler Unit := discard (select t (holds "id" (cell row "id")))

def insert (t : Table) (given : Row) : Handler Row := do
  let row ← place t (t.stated given)
  reread t row
  return row

def update (t : Table) (row : Row) (changes : Row) : Handler Row := do
  let time ← now
  requireStorable changes
  change fun s => s.update t (cell row "id") time changes
  reread t row
  return t.revise time changes row

def delete (t : Table) (row : Row) : Handler Unit := do
  let time ← now
  change fun s => s.delete t (cell row "id") time

def clear (t : Table) (test : Row → Bool) : Handler Unit := change fun s => s.clear t test

end Handler

end CloudSpend

/-! ## Who is asking -/

namespace CloudSpend.Api

open Store (cell textCell)

def credential? (credential : Option String) : Option String :=
  credential.filter fun c => !c.isEmpty

def credentialOf (v : Value) : Result (Option String) :=
  match v with
  | .null => .ok none
  | v => do
    let shape := Form.Shape.record [Form.required "credentials" .anyText]
    return (← (← shape.validate (.object [("credentials", v)])).get "credentials").text?

def subject? (token : String) : Handler (Option Value) := do
  let claims ← liftM (Access.Session.claims? (← Handler.now) token)
  return claims.bind fun c => Entries.get? c "sub"

def activeUser? (id : Value) : Handler (Option Row) := do
  return (← Handler.find? .users "id" id).filter fun u => (cell u "is_active").truthy

def currentUser (credential : Option String) : Handler Row := do
  match credential? credential with
  | none => throw (.http 401 "Not authenticated")
  | some token => match ← subject? token with
    | none => throw (.http 401 "Invalid or expired token")
    | some id => match ← activeUser? id with
      | none => throw (.http 401 "User not found or inactive")
      | some user => return user

def user? (credential : Option String) : Handler (Option Row) := do
  match credential? credential with
  | none => return none
  | some token => match ← subject? token with
    | none => return none
    | some id => activeUser? id

def apiToken? (credential : Option String) : Handler (Option Row) := do
  match (credential? credential).filter Access.ApiToken.isOne with
  | none => return none
  | some token =>
    let hash := Value.text (Access.ApiToken.hash token)
    let found ← Handler.only? (← Handler.select .apiTokens fun row =>
      Store.holds "token_hash" hash row && (cell row "is_active").truthy
        && (cell row "revoked_at").isNull)
    match found with
    | none => throw (.http 401 "Invalid or revoked API token")
    | some row =>
      return some (← Handler.update .apiTokens row [("last_used_at", .timestamp (← Handler.now))])

def scopes (token : Row) : List String := (Text.split (textCell token "scopes") ",").map Text.trim

def requireScope (write : Bool) (credential : Option String) : Handler Row := do
  match ← apiToken? credential with
  | none => throw (.http 401 "API token required")
  | some token =>
    if write && !(scopes token).contains "write" then
      throw (.http 403 "Write scope required for this operation")
    return token

end CloudSpend.Api
