import CloudSpend.Api.Resource
import CloudSpend.Aws.CostExplorer
import CloudSpend.Store.Costs

/-! # Accounts and findings -/

namespace CloudSpend.Api

open Handler
open Store (cell textCell holds)
open Form (required maybe withDefault)

def awsRegion : Value := "us-east-1"

def serviceAddress : String := "http://localhost:8000"

def accountShown : List Shown :=
  [.plain "id" .identifier, .text "aws_account_id", .text "role_arn", .text? "account_name",
   .text "status", .plain "last_sync_at" (.optional .timestamp), .created]

def accountOf (c : Call) : Handler Row := byId .awsAccounts "Account" c.param

def startExplorer : Handler Unit := liftM (Aws.CostExplorer.start (.usual awsRegion))

def isAccountNumber (s : String) : Bool :=
  s.length == 12 && s.toList.all fun c => (Text.decimalValue? c).isSome

def isRole (s : String) : Bool :=
  let start := "arn:aws:iam::"
  let rest := Text.drop start.length s
  let name := Text.drop 18 rest
  Text.startsWith s start && isAccountNumber (Text.take 12 rest)
    && Text.startsWith (Text.drop 12 rest) ":role/" && !name.isEmpty && !name.toList.contains '\n'

def roleCanRead (arn externalId : Value) : Handler Bool := liftM do
  let access := Aws.Access.role arn externalId awsRegion
  Aws.CostExplorer.start access
  Aws.CostExplorer.canRead access

def connectAccount : Endpoint where
  method := "POST"
  path := "/api/v1/accounts"
  body := some (.record [required "aws_account_id" (.matching isAccountNumber),
    required "role_arn" (.matching isRole), maybe "account_name" .anyText])
  status := 201
  run c := do
    let secret := Value.text (← newId)
    if !(← roleCanRead (c.field "role_arn") secret) then
      throw (.http 400 "Unable to access AWS account. Verify the IAM role and trust policy.")
    describe accountShown (← insert .awsAccounts
      [("aws_account_id", c.field "aws_account_id"), ("role_arn", c.field "role_arn"),
       ("external_id", secret), ("account_name", c.field "account_name"), ("status", "active")])

def listAccounts : Endpoint where
  method := "GET"
  path := "/api/v1/accounts"
  run _ := do
    return .list (← (← select .awsAccounts fun _ => true).mapM (describe accountShown))

def disconnectAccount : Endpoint where
  method := "DELETE"
  path := "/api/v1/accounts/:id"
  run c := do
    discard (update .awsAccounts (← accountOf c) [("status", "disconnected")])
    return done "Account disconnected successfully"

def roleTemplate : String := serviceAddress ++ "/static/cloudpulse-iam-role.yaml"

def explainSetup : Endpoint where
  method := "GET"
  path := "/api/v1/setup/cloudformation"
  run _ := do
    let secret ← newId
    let query ← liftM (Web.Address.queryOf [("templateURL", [roleTemplate]),
      ("stackName", ["CloudPulse-IAM-Role"]), ("param_ExternalId", [secret])])
    let page := "https://console.aws.amazon.com/cloudformation/home#/stacks/quickcreate?" ++ query
    return .object [
      ("launch_url", .text page),
      ("external_id", .text secret),
      ("template_url", .text roleTemplate),
      ("instructions", Value.texts [
        "1. Click the Launch Stack URL to open AWS CloudFormation",
        "2. Review the template and click 'Create stack'",
        "3. Wait for stack creation to complete (~1 min)",
        "4. Copy the Role ARN from the Outputs tab",
        "5. Paste the Role ARN back in CloudPulse to connect your account"])]

def accountNumber? (arn : String) : Option String :=
  match Text.split arn "::" with
  | _ :: rest :: _ => some ((Text.split rest ":").headD "")
  | _ => none

def connectRole : Endpoint where
  method := "POST"
  path := "/api/v1/setup/connect"
  query := [required "role_arn" .anyText, required "external_id" .anyText,
    maybe "account_name" .anyText]
  run c := do
    match accountNumber? (textCell c.query "role_arn") with
    | none => throw (.http 400 "Invalid Role ARN format")
    | some number =>
      if !(← roleCanRead (c.arg "role_arn") (c.arg "external_id")) then
        throw (.http 400 ("Cannot access AWS account. Ensure the CloudFormation stack completed "
          ++ "successfully."))
      let row ← insert .awsAccounts
        [("aws_account_id", .text number), ("role_arn", c.arg "role_arn"),
         ("external_id", c.arg "external_id"),
         ("account_name", (c.arg "account_name").orElse (.text ("AWS " ++ number))),
         ("status", "active")]
      return .object [("message", "Account connected successfully"), ("account_id", cell row "id"),
        ("aws_account_id", .text number)]

def accountEndpoints : List Endpoint :=
  [connectAccount, listAccounts, disconnectAccount, explainSetup, connectRole]

/-! ## Findings -/

def shownNumber (name : String) : Shown := .plain name (.number {})

def anomalyShown : List Shown :=
  [.plain "id" .identifier, .plain "date" .date, .text "service", shownNumber "expected_amount",
   shownNumber "actual_amount", shownNumber "deviation_pct", .text "severity",
   .plain "acknowledged" .bool, .created]

def wordFits (words : Store.Words) (column : String) (word : Value) (row : Row) : Bool :=
  match word with
  | .text s => s.isEmpty || (words.find? s).any fun w => holds column (.text w) row
  | _ => true

def latestFirst (rows : List Row) : List Row := (Store.byDay rows).reverse

def listAnomalies : Endpoint where
  method := "GET"
  path := "/api/v1/accounts/:id/anomalies"
  query := [maybe "start_date" .date, maybe "end_date" .date, maybe "severity" .anyText]
  run c := do
    let rows ← select .anomalies fun row =>
      Store.ofAccount (.text c.param) row
        && ((c.day? "start_date").all fun d => Store.dated d.le row)
        && ((c.day? "end_date").all fun d => Store.dated (·.le d) row)
        && wordFits Store.severities "severity" (c.arg "severity") row
    return .list (← (latestFirst rows).mapM (describe anomalyShown))

def acknowledgeAnomaly : Endpoint where
  method := "POST"
  path := "/api/v1/anomalies/:id/acknowledge"
  run c := do
    let row ← byId .anomalies "Anomaly" c.param
    discard (update .anomalies row [("acknowledged", true)])
    return done "Anomaly acknowledged"

def recommendationShown : List Shown :=
  [.plain "id" .identifier, .text "resource_type", .text "resource_id", .text "region",
   .text "recommendation", shownNumber "estimated_monthly_savings", .plain "is_resolved" .bool,
   .created]

def listRecommendations : Endpoint where
  method := "GET"
  path := "/api/v1/accounts/:id/recommendations"
  query := [withDefault "include_resolved" .bool false]
  run c := do
    let rows ← select .recommendations fun row =>
      Store.ofAccount (.text c.param) row
        && ((c.arg "include_resolved").truthy || !(cell row "is_resolved").truthy)
    let ranked := Arithmetic.descending (fun row => cell row "estimated_monthly_savings") rows
    return .list (← ranked.mapM (describe recommendationShown))

def resolveRecommendation : Endpoint where
  method := "POST"
  path := "/api/v1/recommendations/:id/resolve"
  run c := do
    let row ← byId .recommendations "Recommendation" c.param
    discard (update .recommendations row [("is_resolved", true)])
    return done "Recommendation marked as resolved"

def findingEndpoints : List Endpoint :=
  [listAnomalies, acknowledgeAnomaly, listRecommendations, resolveRecommendation]

end CloudSpend.Api
