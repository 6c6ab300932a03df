import CloudSpend.Notification.Mailbox
import CloudSpend.Outside.World

/-! # Notifications -/

namespace CloudSpend.Notification

def dashboard : String := "http://localhost:8000"

def mark (severity : String) : String :=
  match severity with
  | "critical" => "🔴"
  | "warning" => "🟡"
  | "info" => "🔵"
  | _ => "⚪"

structure AnomalyLine where
  mark : String
  severity : String
  service : String
  expected : String
  actual : String
  change : String

def AnomalyLine.ofRow (anomaly : Value) : Result AnomalyLine := do
  let severity ← anomaly.field "severity"
  let name ← match severity with
    | .text s => pure s
    | .list _ => throw (.unhashable .list)
    | .object _ => throw (.unhashable .object)
    | v => throw (.noAttribute v.kind "upper")
  return {
    mark := Notification.mark name
    severity := Text.upper name
    service := (← anomaly.field "service").display
    expected := ← (← anomaly.field "expected_amount").places 2
    actual := ← (← anomaly.field "actual_amount").places 2
    change := ← (← (← anomaly.field "deviation_pct").mul (.int 100)).places 0 }

def AnomalyLine.ofRows (anomalies : Value) : Result (List AnomalyLine) := do
  (← anomalies.items).mapM AnomalyLine.ofRow

structure ServiceLine where
  service : String
  amount : String

def ServiceLine.ofRow (row : Value) : Result ServiceLine := do
  return ⟨(← row.field "service").display, ← (← row.field "amount").places 2⟩

def ServiceLine.first (n : Nat) (services : Value) : Result (List ServiceLine) := do
  (← (← services.take n).items).mapM ServiceLine.ofRow

structure Summary where
  account : Value := "AWS Account"
  total : Value
  services : Value
  anomalies : Value

end CloudSpend.Notification

/-! ## Notifications in a chat -/

namespace CloudSpend.Notification.Chat

def send (channel : Value) (message : Value) : Run Bool :=
  Run.recover
    (do
      let reply ← Run.send {
        method := "POST"
        url := channel
        json := some message
        headers := some (.object [("Content-Type", "application/json")])
        timeout := some (.float 10) }
      return reply.status == 200)
    fun _ => return false

def block (kind textKind text : String) : Value :=
  .object [("type", .text kind), ("text", .object [("type", .text textKind), ("text", .text text)])]

def heading (text : String) : Value := block "header" "plain_text" text

def paragraph (text : String) : Value := block "section" "mrkdwn" text

def divider : Value := .object [("type", "divider")]

def anomalyText (l : AnomalyLine) : String :=
  l.mark ++ " *" ++ l.severity ++ "*: " ++ l.service ++ "\nExpected: $" ++ l.expected
    ++ " → Actual: $" ++ l.actual ++ " (*+" ++ l.change ++ "%*)"

def sendAnomalies (channel anomalies account : Value) : Run Bool := do
  if !anomalies.truthy then return false
  let lines ← liftM (AnomalyLine.ofRows anomalies)
  send channel (.object [("blocks", .list
    (heading ("⚠️ CloudPulse Cost Alert — " ++ account.display) :: divider
      :: lines.map fun l => paragraph (anomalyText l)))])

def sendSummary (channel : Value) (s : Summary) : Run Bool := do
  let lines ← liftM (ServiceLine.first 5 s.services)
  let services := "\n".intercalate (lines.map fun l => "• " ++ l.service ++ ": $" ++ l.amount)
  let notice :=
    if ← liftM (s.anomalies.gt (.int 0)) then
      "\n\n⚠️ *" ++ s.anomalies.display ++ " anomalies detected*"
    else ""
  send channel (.object [("blocks", .list [
    heading ("📊 CloudPulse Daily — " ++ s.account.display),
    paragraph ("*Total Spend:* $" ++ (← liftM (s.total.places 2)) ++ notice),
    divider,
    paragraph ("*Top Services:*\n" ++ services)])])

end CloudSpend.Notification.Chat

/-! ## Notifications by mail -/

namespace CloudSpend.Notification.Mail

def recipientRow (line : Value) : Result Row :=
  match line with
  | .null => .ok []
  | .text "" => .ok [("email", "")]
  | .text s =>
    let box := Mailbox.first s
    let named (name : String) : Row := if name.isEmpty then [] else [("name", .text name)]
    .ok (if box.address.contains '@' then named box.name ++ [("email", .text box.address)]
      else named box.address)
  | .object (_ :: _) => .error (.missingEntry "0")
  | v => if v.truthy then .error (.noLength v.kind) else .ok [("email", v)]

def startsWithKey (text : String) : Bool :=
  match text.toList with
  | 'S' :: 'G' :: '.' :: rest => match rest, rest.dropWhile Char.isAlphanum with
    | c :: _, '.' :: d :: _ => c.isAlphanum && d.isAlphanum
    | _, _ => false
  | _ => false

def refuseKey (v : Value) : Result Unit :=
  match v with
  | .text s => if startsWithKey s then .error .keyInMessage else .ok ()
  | _ => .ok ()

def refuseKeys (content : Value) : Result Unit :=
  match content with
  | .object _ => do
    for part in ← (← content.getD "content" (.list [])).items do
      if !part.isNull then
        let _ ← part.get "type"
        refuseKey (← part.getD "value" "")
  | v => refuseKey v

def present (row : Row) : Row := row.filter fun e => match e.2 with
  | .null | .list [] | .object [] => false
  | _ => true

def message (recipient : Row) (subject html : Value) : Value :=
  .object (present [
    ("from", .object [("email", "alerts@cloudpulse.io"), ("name", "CloudPulse Alerts")]),
    ("subject", subject),
    ("personalizations", .list [.object [("to", .list [.object recipient])]]),
    ("content", .list [.object
      (("type", "text/html") :: if html.isNull then [] else [("value", html)])])])

def send (recipient subject html : Value) : Run Bool := do
  let w ← get
  match w.outside.mail with
  | none => return false
  | some reply =>
    let row ← liftM (recipientRow recipient)
    liftM (refuseKeys html)
    match Entries.get? row "email" with
    | some (.text _) =>
      set { w with mail := w.mail ++ [message row subject html] }
      match reply with
      | .ok status => return status == 200 || status == 201 || status == 202
      | .error _ => return false
    | _ => return false

def anomalyRow (l : AnomalyLine) : String :=
    "\n            <tr>\n                <td>" ++ l.mark ++ " " ++ l.severity
      ++ "</td>\n                <td>" ++ l.service ++ "</td>\n                <td>$"
      ++ l.expected ++ "</td>\n                <td>$" ++ l.actual ++ "</td>\n                <td>+"
      ++ l.change ++ "%</td>\n            </tr>\n            "

def page (title text : String) : String :=
    "\n        <html>\n" ++ "        <body style=\"font-family: Arial, sans-serif; max-width: 600px; "
      ++ "margin: 0 auto;\">\n            <h2>" ++ title ++ "</h2>\n            <p>" ++ text
      ++ "            <p style=\"margin-top: 20px; color: #666; font-size: 12px;\">\n"
      ++ "                — CloudPulse | <a href=\"" ++ dashboard
      ++ "\">View Dashboard</a>\n            </p>\n        </body>\n        </html>\n        "

def heading (side name : String) : String :=
    "                        <th style=\"padding: 8px; text-align: " ++ side ++ ";\">" ++ name ++ "</th>\n"

def anomalyPage (account day rows : String) : String := page "⚠️ CloudPulse Cost Alert"
    ("Anomalies detected for <strong>" ++ account ++ "</strong> on " ++ day
      ++ ":</p>\n            <table style=\"width: 100%; border-collapse: collapse;\">\n"
      ++ "                <thead>\n                    <tr style=\"background: #f4f4f4;\">\n"
      ++ heading "left" "Severity" ++ heading "left" "Service" ++ heading "right" "Expected"
      ++ heading "right" "Actual" ++ heading "right" "Change"
      ++ "                    </tr>\n                </thead>\n                <tbody>\n"
      ++ "                    " ++ rows ++ "\n                </tbody>\n            </table>\n")

def count (severity : String) (anomalies : List Value) : Result Nat := do
  return (← anomalies.filterM fun a => do
    return (← a.field "severity").same (.text severity)).length

def anomalySubject (account : String) (critical warnings : Nat) : String :=
  "CloudPulse Alert: " ++ account
    ++ (if critical != 0 then " — " ++ toString critical ++ " CRITICAL"
        else if warnings != 0 then " — " ++ toString warnings ++ " warnings"
        else "")

def sendAnomalies (recipient anomalies account : Value) : Run Bool := do
  if !anomalies.truthy then return false
  let lines ← liftM (AnomalyLine.ofRows anomalies)
  let day ← liftM (do (← anomalies.item 0).field "date" : Result Value)
  let html := anomalyPage account.display day.display (String.join (lines.map anomalyRow))
  let rows ← liftM anomalies.items
  let subject := anomalySubject account.display (← liftM (count "critical" rows))
    (← liftM (count "warning" rows))
  send recipient (.text subject) (.text html)

def serviceRow (l : ServiceLine) : String :=
    "\n            <tr>\n                <td style=\"padding: 4px 8px;\">" ++ l.service
      ++ "</td>\n                <td style=\"padding: 4px 8px; text-align: right;\">$" ++ l.amount
      ++ "</td>\n            </tr>\n            "

def notice (count : String) : String :=
    "\n            <p style=\"color: #e74c3c;\">\n                ⚠️ <strong>" ++ count
      ++ " anomalies detected.</strong>\n                <a href=\"" ++ dashboard
      ++ "\">View details →</a>\n            </p>\n            "

def summaryPage (account day total notice rows : String) : String := page "📊 CloudPulse Daily Summary"
    ("<strong>" ++ account ++ "</strong> — " ++ day ++ "</p>\n\n"
      ++ "            <div style=\"background: #f0f7ff; padding: 16px; border-radius: "
      ++ "8px; margin: 16px 0;\">\n                <h3 style=\"margin: 0;\">Total Spend: $"
      ++ total ++ "</h3>\n            </div>\n\n            " ++ notice
      ++ "\n\n            <h3>Top Services</h3>\n"
      ++ "            <table style=\"width: 100%; border-collapse: collapse;\">\n"
      ++ "                <tbody>" ++ rows ++ "</tbody>\n            </table>\n\n")

def sendSummary (recipient : Value) (s : Summary) (day : Value) : Run Bool := do
  let day := day.orElse (.date (← Run.today))
  let lines ← liftM (ServiceLine.first 10 s.services)
  let notice := if ← liftM (s.anomalies.gt (.int 0)) then notice s.anomalies.display else ""
  let dayText ← liftM day.dayText
  let total ← liftM (s.total.places 2)
  let html := summaryPage s.account.display dayText total notice (String.join (lines.map serviceRow))
  let subject := "CloudPulse Daily: $" ++ total ++ " — " ++ s.account.display ++ " ("
    ++ day.display ++ ")"
  send recipient (.text subject) (.text html)

end CloudSpend.Notification.Mail
