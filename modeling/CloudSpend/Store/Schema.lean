import CloudSpend.Data.Value

/-! # Schemas -/

namespace CloudSpend.Store

structure Words where
  name : String
  members : List String
  deriving Repr, DecidableEq

inductive CellKind where
  | identifier | text | number | integer | flag | day | moment | document
  | word (words : Words)
  deriving Repr, DecidableEq

inductive Table where
  | users | awsAccounts | costRecords | anomalies | recommendations | budgets | sharedReports
  | alertConfigs | workspaceMembers | teamMembers | workspaces | costReports | folders
  | savedFilters | dashboards | segments | teams | accessGrants | virtualTags | apiTokens
  | resourceReports | networkFlowReports | commitmentReports | efficiencyReports | dataExports
  | unitCosts | cloudAccounts
  deriving Repr, DecidableEq

inductive Filler where
  | nothing
  | value (v : Value)
  | now
  | nextId

structure Column where
  name : String
  kind : CellKind
  required : Bool := false
  /-- What stands in a cell that a new row leaves open. -/
  filler : Filler := .nothing
  target : Option Table := none
  stamped : Bool := false

structure Reference where
  table : Table
  column : String

namespace Column

def id : Column := { name := "id", kind := .identifier, required := true, filler := .nextId }

def link (name : String) (target : Table) : Column :=
  { name, kind := .identifier, required := true, target := some target }

def link? (name : String) (target : Table) : Column :=
  { name, kind := .identifier, target := some target }

def must (name : String) (kind : CellKind) : Column := { name, kind, required := true }

def may (name : String) (kind : CellKind) : Column := { name, kind }

def usually (name : String) (kind : CellKind) (v : Value) : Column :=
  { name, kind, filler := .value v }

def always (name : String) (kind : CellKind) (v : Value) : Column :=
  { name, kind, required := true, filler := .value v }

def created : Column := { name := "created_at", kind := .moment, filler := .now }

def surelyCreated : Column := { created with required := true }

def updated : Column := { name := "updated_at", kind := .moment, filler := .now, stamped := true }

end Column

def plans : Words := ⟨"plantier", ["free", "pro", "team", "custom"]⟩

def accountStates : Words := ⟨"accountstatus", ["pending", "active", "error", "disconnected"]⟩

def alertChannels : Words := ⟨"alertchannel", ["email", "slack"]⟩

def severities : Words := ⟨"anomalyseverity", ["info", "warning", "critical"]⟩

def resourceTypes : Words := ⟨"resourcetype",
  ["ec2_instance", "ebs_volume", "ebs_snapshot", "rds_instance", "elastic_ip", "load_balancer",
   "lambda_function"]⟩

def budgetPeriods : Words := ⟨"budgetperiod", ["monthly", "quarterly"]⟩

def dateIntervals : Words := ⟨"reportdateinterval",
  ["custom", "this_month", "last_month", "last_7_days", "last_30_days", "last_3_months",
   "last_6_months", "last_12_months"]⟩

def dateBuckets : Words := ⟨"datebucket", ["day", "week", "month"]⟩

def exportSchemas : Words := ⟨"exportschema", ["default", "focus"]⟩

def exportStates : Words := ⟨"exportstatus", ["pending", "processing", "completed", "failed"]⟩

def providers : Words := ⟨"cloudprovider",
  ["aws", "azure", "gcp", "oracle", "linode", "kubernetes", "datadog", "new_relic", "coralogix",
   "grafana_cloud", "mongodb", "snowflake", "databricks", "planetscale", "clickhouse", "openai",
   "anthropic", "anyscale", "cursor", "github", "temporal_cloud", "twilio", "fastly", "confluent",
   "cloudflare", "vercel", "custom"]⟩

def syncStates : Words := ⟨"accountsyncstatus",
  ["pending", "syncing", "active", "error", "disconnected"]⟩

namespace Table

def all : List Table :=
  [users, awsAccounts, costRecords, anomalies, recommendations, budgets, sharedReports,
   alertConfigs, workspaceMembers, teamMembers, workspaces, costReports, folders, savedFilters,
   dashboards, segments, teams, accessGrants, virtualTags, apiTokens, resourceReports,
   networkFlowReports, commitmentReports, efficiencyReports, dataExports, unitCosts,
   cloudAccounts]

def name : Table → String
  | users => "users"
  | awsAccounts => "aws_accounts"
  | costRecords => "cost_records"
  | anomalies => "anomalies"
  | recommendations => "recommendations"
  | budgets => "budgets"
  | sharedReports => "shared_reports"
  | alertConfigs => "alert_configs"
  | workspaceMembers => "workspace_members"
  | teamMembers => "team_members"
  | workspaces => "workspaces"
  | costReports => "cost_reports"
  | folders => "folders"
  | savedFilters => "saved_filters"
  | dashboards => "v2_dashboards"
  | segments => "segments"
  | teams => "teams"
  | accessGrants => "access_grants"
  | virtualTags => "virtual_tags"
  | apiTokens => "api_tokens"
  | resourceReports => "resource_reports"
  | networkFlowReports => "network_flow_reports"
  | commitmentReports => "financial_commitment_reports"
  | efficiencyReports => "kubernetes_efficiency_reports"
  | dataExports => "data_exports"
  | unitCosts => "unit_costs"
  | cloudAccounts => "cloud_accounts"

def ofName? (s : String) : Option Table := all.find? fun t => t.name == s

def workspaceColumns (own : List Column) : List Column :=
  [.id, .must "token" .text, .link "workspace_id" .workspaces] ++ own ++ [.created, .updated]

def spanColumns : List Column := [.may "start_date" .day, .may "end_date" .day]

def columns : Table → List Column
  | users => [.id, .must "email" .text, .must "hashed_password" .text,
      .always "plan" (.word plans) "free", .may "stripe_customer_id" .text,
      .always "is_active" .flag true, .surelyCreated, .updated]
  | awsAccounts => [.id, .link "user_id" .users, .must "aws_account_id" .text,
      .must "role_arn" .text, .must "external_id" .text, .may "account_name" .text,
      .always "status" (.word accountStates) "pending", .may "last_sync_at" .moment,
      .surelyCreated]
  | costRecords => [.id, .link "aws_account_id" .awsAccounts, .must "date" .day,
      .must "service" .text, .must "amount" .number, .always "currency" .text "USD",
      .surelyCreated]
  | anomalies => [.id, .link "aws_account_id" .awsAccounts, .must "date" .day,
      .must "service" .text, .must "expected_amount" .number, .must "actual_amount" .number,
      .must "deviation_pct" .number, .must "severity" (.word severities),
      .always "acknowledged" .flag false, .surelyCreated]
  | recommendations => [.id, .link "aws_account_id" .awsAccounts,
      .must "resource_type" (.word resourceTypes), .must "resource_id" .text,
      .must "region" .text, .must "recommendation" .text,
      .must "estimated_monthly_savings" .number, .always "is_resolved" .flag false,
      .surelyCreated, .updated]
  | budgets => [.id, .link "aws_account_id" .awsAccounts, .must "name" .text,
      .must "amount" .number, .always "period" (.word budgetPeriods) "monthly",
      .may "service_filter" .text, .always "alert_at_pct" .number (.float 0.8),
      .always "is_active" .flag true, .always "current_spend" .number (.float 0),
      .may "last_checked_at" .moment, .surelyCreated, .updated]
  | sharedReports => [.id, .link "aws_account_id" .awsAccounts, .must "token" .text,
      .must "title" .text, .must "report_data" .text, .may "expires_at" .moment, .surelyCreated]
  | alertConfigs => [.id, .link "user_id" .users, .must "channel" (.word alertChannels),
      .always "is_enabled" .flag true, .may "email_address" .text,
      .may "slack_webhook_url" .text, .always "notify_info" .flag false,
      .always "notify_warning" .flag true, .always "notify_critical" .flag true,
      .always "daily_summary" .flag true, .surelyCreated, .updated]
  | workspaceMembers => [.link "workspace_id" .workspaces, .link "user_id" .users,
      .usually "role" .text "member", { Column.created with name := "joined_at" }]
  | teamMembers => [.link "team_id" .teams, .link "user_id" .users,
      .usually "role" .text "member", { Column.created with name := "joined_at" }]
  | workspaces => [.id, .must "name" .text, .must "token" .text, .link "created_by" .users,
      .usually "is_default" .flag false, .created, .updated]
  | costReports => workspaceColumns ([.link? "folder_id" .folders, .must "title" .text,
      .may "filter" .text, .link? "saved_filter_id" .savedFilters,
      .usually "groupings" .text "service",
      .usually "date_interval" (.word dateIntervals) "last_30_days",
      .usually "date_bucket" (.word dateBuckets) "day"] ++ spanColumns ++
      [.usually "settings" .document (.object []), .link? "created_by" .users])
  | folders => workspaceColumns [.link? "parent_folder_id" .folders, .must "title" .text]
  | savedFilters => workspaceColumns [.must "title" .text, .must "filter" .text]
  | dashboards => workspaceColumns ([.must "title" .text,
      .usually "widgets" .document (.list []),
      .usually "date_interval" (.word dateIntervals) "last_30_days"] ++ spanColumns)
  | segments => workspaceColumns [.link? "parent_segment_id" .segments, .must "title" .text,
      .may "description" .text, .may "filter" .text, .usually "priority" .integer (.int 0),
      .usually "track_unallocated" .flag false]
  | teams => workspaceColumns [.must "name" .text, .may "description" .text]
  | accessGrants => [.id, .must "token" .text, .link "team_id" .teams,
      .must "resource_type" .text, .must "resource_token" .text,
      .usually "access_level" .text "viewer", .created]
  | virtualTags => workspaceColumns [.must "key" .text, .may "description" .text,
      .usually "overridable" .flag true, .may "backfill_until" .day,
      .usually "values" .document (.list [])]
  | apiTokens => [.id, .link "user_id" .users, .must "name" .text, .must "token_hash" .text,
      .must "token_prefix" .text, .usually "token_type" .text "user",
      .usually "scopes" .text "read", .usually "is_active" .flag true,
      .may "last_used_at" .moment, .may "revoked_at" .moment, .may "expires_at" .moment, .created]
  | resourceReports => workspaceColumns [.must "title" .text, .may "filter" .text,
      .usually "groupings" .text "resource_id", .usually "columns" .document (.list [])]
  | networkFlowReports => workspaceColumns ([.must "title" .text, .may "filter" .text,
      .usually "date_interval" (.word dateIntervals) "last_30_days",
      .usually "date_bucket" (.word dateBuckets) "day"] ++ spanColumns)
  | commitmentReports => workspaceColumns ([.must "title" .text, .may "filter" .text,
      .usually "date_interval" (.word dateIntervals) "last_3_months",
      .usually "date_bucket" (.word dateBuckets) "month",
      .usually "groupings" .text "cost_type",
      .usually "on_demand_costs_scope" .text "discountable"] ++ spanColumns)
  | efficiencyReports => workspaceColumns [.must "title" .text, .may "cluster_id" .text,
      .may "filter" .text, .usually "date_interval" (.word dateIntervals) "last_7_days",
      .usually "date_bucket" (.word dateBuckets) "day",
      .usually "aggregation" .text "namespace"]
  | dataExports => [.id, .must "token" .text, .link "workspace_id" .workspaces,
      .must "export_type" .text, .usually "schema_type" (.word exportSchemas) "default",
      .usually "status" (.word exportStates) "pending", .may "filter" .text] ++ spanColumns ++
      [.may "file_url" .text, .created, .may "completed_at" .moment]
  | unitCosts => [.id, .link "cost_report_id" .costReports, .must "date" .day,
      .must "per_unit_amount" .number, .must "unit_label" .text, .must "total_cost" .number,
      .must "total_units" .number, .usually "currency" .text "USD"]
  | cloudAccounts => [.id, .must "provider" (.word providers), .must "account_identifier" .text,
      .may "display_name" .text, .always "status" (.word syncStates) "pending",
      .usually "connection_config" .document (.object []), .may "last_sync_at" .moment,
      .may "last_sync_rows" .text, .may "sync_error" .text, .may "workspace_id" .identifier,
      .surelyCreated, .updated]

def keys : Table → List (List String)
  | users => [["id"], ["email"]]
  | workspaceMembers => [["workspace_id", "user_id"]]
  | teamMembers => [["team_id", "user_id"]]
  | apiTokens => [["id"], ["token_hash"]]
  | t => ["id"] :: if t.columns.any (fun c => c.name == "token") then [["token"]] else []

def owned : Table → List Reference
  | workspaces => [⟨costReports, "workspace_id"⟩, ⟨folders, "workspace_id"⟩,
      ⟨dashboards, "workspace_id"⟩]
  | _ => []

def released : Table → List Reference
  | folders => [⟨costReports, "folder_id"⟩]
  | _ => []

end Table

end CloudSpend.Store
