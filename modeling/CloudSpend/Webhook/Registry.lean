import CloudSpend.Codec.Sha256
import CloudSpend.Form.Shape
import CloudSpend.Outside.World

/-! # Webhooks -/

namespace CloudSpend.Webhook

def events : List String :=
  ["sync.completed", "sync.failed", "anomaly.detected", "budget.exceeded", "integration.connected",
   "integration.disconnected"]

structure Hook where
  id : String
  url : String
  events : List String
  secret : Option String
  description : Option String
  active : Bool
  created : Timestamp

def Hook.toValue (h : Hook) : Value :=
  .object [
    ("id", .text h.id),
    ("url", .text h.url),
    ("events", Value.texts h.events),
    ("description", Value.ofText? h.description),
    ("active", .bool h.active),
    ("created_at", .text h.created.text)]

abbrev Registry := List Hook

namespace Registry

def overview (r : Registry) : Value := .list (r.map Hook.toValue)

def has (r : Registry) (id : Value) : Bool := r.any fun h => id.text? == some h.id

def remove (r : Registry) (id : Value) : Result Registry :=
  if r.has id then .ok (r.filter fun h => id.text? != some h.id)
  else .error (.http 404 "Webhook not found")

def deactivate (r : Registry) (id : Value) : Result Registry :=
  if r.has id then
    .ok (r.map fun h => if id.text? == some h.id then { h with active := false } else h)
  else .error (match id with
    | .text s => .missingKey s
    | v => .missingEntry v.literal)

def interested (r : Registry) (event : String) : List Hook :=
  r.filter fun h => h.active && h.events.contains event

end Registry

def shape : Form.Shape := .record [
  Form.required "url" .anyText,
  Form.required "events" (.list .anyText),
  Form.maybe "secret" .anyText,
  Form.maybe "description" .anyText]

def create (body : Row) : Run Hook := do
  let text? (key : String) : Option String := (Entries.get? body key).bind Value.text?
  let asked := (((Entries.get? body "events").bind Value.list?).getD []).filterMap Value.text?
  let unknown := asked.filter fun e => !events.contains e
  if !unknown.isEmpty then
    throw (.http 400 ("Invalid events: " ++ (Value.texts unknown).literal ++ ". Valid: "
      ++ (Value.texts events).literal))
  return {
    id := Form.groupIdentifier (Text.hex 32 (← Run.nextId))
    url := (text? "url").getD ""
    events := asked
    secret := text? "secret"
    description := text? "description"
    active := true
    created := ← Run.now }

def headers (secret : Option String) (body : String) : Row :=
  ("Content-Type", "application/json") ::
    match secret with
    | some key =>
      if key.isEmpty then []
      else [("X-CloudPulse-Signature", .text ("sha256=" ++ Codec.Sha256.hexText
        (Codec.Sha256.authenticate key.toUTF8.toList body.toUTF8.toList)))]
    | none => []

def body (event : String) (now : Timestamp) (data : Value) : Result String :=
  Json.encode (.object [("event", .text event), ("timestamp", .text now.text), ("data", data)])

def deliver (receivers : List Web.Request → Web.Request → Result Web.Reply) (h : Hook) (body : String) :
    Run Unit :=
  Run.recover
    (do discard (Run.sendTo receivers {
          method := "POST"
          url := h.url
          content := some (.text body)
          headers := some (.object (headers h.secret body)) }))
    fun _ => return

def dispatch (receivers : List Web.Request → Web.Request → Result Web.Reply) (r : Registry)
    (event : String) (data : Value) : Run Unit := do
  for h in r.interested event do
    deliver receivers h (← liftM (body event (← Run.now) data))

end CloudSpend.Webhook
