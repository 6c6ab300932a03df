import CloudSpend.Api.Resource

/-! # The kinds of resources -/

namespace CloudSpend.Api

open Handler
open Store (Table cell holds)
open Form (required withDefault maybe)

def titleShape : Form.Shape := .text 1 (some 255)

def newTitle (name : String) : Form.Field := maybe name (.text 0 (some 255))

def textOr (name default : String) : Form.Field := withDefault name .anyText (.text default)

def spanFields : List Form.Field := [maybe "start_date" .date, maybe "end_date" .date]

def spanShown : List Shown := [.day? "start_date", .day? "end_date"]

def inWorkspace : Link := ⟨"workspace_token", .workspaces, "workspace_id"⟩

def inFolder : Link := ⟨"folder_token", .folders, "folder_id"⟩

def bySavedFilter : Link := ⟨"saved_filter_token", .savedFilters, "saved_filter_id"⟩

def inParentFolder : Link := ⟨"parent_folder_token", .folders, "parent_folder_id"⟩

def workspaceShown : List Shown :=
  [.text "token", .text "name", .plain "is_default" .bool, .created]

def workspaceEndpoints : List Endpoint :=
  let one := "/api/v2/workspaces/:token"
  let find (c : Call) : Handler Row := byToken .workspaces (.text c.param)
  [{ method := "GET", path := "/api/v2/workspaces", signedIn := true, query := pageFields,
     run := fun c => listing .workspaces "workspaces" workspaceShown
       (holds "created_by" (cell c.user "id")) c },
   { method := "POST", path := "/api/v2/workspaces", signedIn := true, status := 201,
     body := some (.record [required "name" titleShape])
     run := fun c => do
       let token ← newToken (Access.resourceToken "ws")
       describe workspaceShown (← insert .workspaces
         [("name", c.field "name"), ("token", .text token), ("created_by", cell c.user "id")]) },
   { method := "GET", path := one, signedIn := true,
     run := fun c => do describe workspaceShown (← find c) },
   { method := "PUT", path := one, signedIn := true, body := some (.record [newTitle "name"])
     run := fun c => do
       let name := c.field "name"
       describe workspaceShown (← update .workspaces (← find c)
         (if name.isNull then [] else [("name", name)])) },
   { method := "DELETE", path := one, signedIn := true
     run := fun c => do
       delete .workspaces (← find c)
       return done "Workspace deleted" }]

def costReports : Resource where
  table := .costReports
  plural := "cost_reports"
  kind := some "rpt"
  parent := inWorkspace
  form := [required "title" titleShape, maybe "folder_token" .anyText,
    maybe "saved_filter_token" .anyText, maybe "filter" .anyText, textOr "groupings" "service",
    textOr "date_interval" "last_30_days", textOr "date_bucket" "day"] ++ spanFields ++
    [withDefault "settings" .table (.object [])]
  links := [inFolder, bySavedFilter]
  noted := true
  shown := [.text "token", .text "title", .token inWorkspace, .token inFolder, .text? "filter",
    .text "groupings", .cell "date_interval" .anyText (some "last_30_days"),
    .cell "date_bucket" .anyText (some "day")] ++ spanShown ++
    [.cell "settings" .table (some (.object [])), .created]
  revision := some {
    form := [newTitle "title", maybe "filter" .anyText, maybe "folder_token" .anyText,
      maybe "saved_filter_token" .anyText, maybe "groupings" .anyText,
      maybe "date_interval" .anyText, maybe "date_bucket" .anyText] ++ spanFields ++
      [maybe "settings" .table]
    keepsNull := false
    links := [inFolder, bySavedFilter] }
  deleted := some "Cost report deleted"

def folders : Resource where
  table := .folders
  plural := "folders"
  kind := some "fldr"
  parent := inWorkspace
  form := [required "title" titleShape, maybe "parent_folder_token" .anyText]
  links := [inParentFolder]
  shown := [.text "token", .text "title", .token inWorkspace, .token inParentFolder, .created]
  repeated := ["parent_folder_token"]
  revision := some {
    form := [newTitle "title", maybe "parent_folder_token" .anyText]
    keepsNull := true
    links := [inParentFolder] }
  deleted := some "Folder deleted"

def savedFilters : Resource where
  table := .savedFilters
  plural := "saved_filters"
  kind := some "sf"
  parent := inWorkspace
  form := [required "title" titleShape, required "filter" .anyText]
  shown := [.text "token", .text "title", .text "filter", .created]
  revision := some {
    form := [newTitle "title", maybe "filter" .anyText]
    keepsNull := true }
  deleted := some "Saved filter deleted"

def dashboards : Resource where
  table := .dashboards
  plural := "dashboards"
  kind := some "dash"
  parent := inWorkspace
  form := [required "title" titleShape, withDefault "widgets" (.list .table) (.list []),
    textOr "date_interval" "last_30_days"] ++ spanFields
  shown := [.text "token", .text "title", .cell "widgets" (.list .table) (some (.list [])),
    .cell "date_interval" .anyText (some "last_30_days")] ++ spanShown ++ [.created]
  revision := some {
    form := [newTitle "title", maybe "widgets" (.list .table), maybe "date_interval" .anyText]
      ++ spanFields
    keepsNull := true }
  deleted := some "Dashboard deleted"

def segments : Resource where
  table := .segments
  plural := "segments"
  kind := some "seg"
  parent := inWorkspace
  form := [required "title" titleShape, maybe "parent_segment_token" .anyText,
    maybe "description" .anyText, maybe "filter" .anyText,
    withDefault "priority" (.int none none) (.int 0), withDefault "track_unallocated" .bool false]
  links := [⟨"parent_segment_token", .segments, "parent_segment_id"⟩]
  shown := [.text "token", .text "title", .text? "description", .text? "filter",
    .plain "priority" (.int none none), .plain "track_unallocated" .bool, .created]
  revision := some {
    form := [newTitle "title", maybe "description" .anyText, maybe "filter" .anyText,
      maybe "priority" (.int none none), maybe "track_unallocated" .bool]
    keepsNull := false }
  deleted := some "Segment deleted"

def teams : Resource where
  table := .teams
  plural := "teams"
  kind := some "team"
  parent := inWorkspace
  form := [required "name" titleShape, maybe "description" .anyText]
  shown := [.text "token", .text "name", .text? "description", .created]
  revision := some {
    form := [newTitle "name", maybe "description" .anyText]
    keepsNull := true }
  deleted := some "Team deleted"

def accessGrants : Resource where
  table := .accessGrants
  plural := "access_grants"
  kind := some "ag"
  parent := ⟨"team_token", .teams, "team_id"⟩
  form := [required "resource_type" .anyText, required "resource_token" .anyText,
    textOr "access_level" "viewer"]
  shown := [.text "token", .token ⟨"team_token", .teams, "team_id"⟩, .text "resource_type",
    .text "resource_token", .text "access_level", .created]
  canShow := false
  deleted := some "Access grant deleted"

def tagValueShape : Form.Shape := .record [required "name" .anyText, required "filter" .anyText]

def virtualTags : Resource where
  table := .virtualTags
  plural := "virtual_tags"
  kind := some "vtag"
  parent := inWorkspace
  form := [required "key" titleShape, maybe "description" .anyText,
    withDefault "overridable" .bool true, maybe "backfill_until" .date,
    withDefault "values" (.list tagValueShape) (.list [])]
  shown := [.text "token", .text "key", .text? "description", .plain "overridable" .bool,
    .day? "backfill_until", .plain "values" (.list .table), .created]
  revision := some {
    form := [newTitle "key", maybe "description" .anyText, maybe "overridable" .bool,
      maybe "backfill_until" .date, maybe "values" (.list tagValueShape)]
    keepsNull := false }
  deleted := some "Virtual tag deleted"

def resourceReports : Resource where
  table := .resourceReports
  plural := "resource_reports"
  kind := some "rr"
  parent := inWorkspace
  form := [required "title" titleShape, maybe "filter" .anyText, textOr "groupings" "resource_id",
    withDefault "columns" (.list .anyText) (.list [])]
  shown := [.text "token", .text "title", .text? "filter", .text "groupings",
    .plain "columns" (.list .anyText), .created]
  revision := some {
    form := [newTitle "title", maybe "filter" .anyText, maybe "groupings" .anyText,
      maybe "columns" (.list .anyText)]
    keepsNull := false }
  deleted := some "Resource report deleted"

def networkFlowReports : Resource where
  table := .networkFlowReports
  plural := "network_flow_reports"
  kind := some "nfr"
  parent := inWorkspace
  form := [required "title" titleShape, maybe "filter" .anyText,
    textOr "date_interval" "last_30_days", textOr "date_bucket" "day"] ++ spanFields
  shown := [.text "token", .text "title", .text? "filter", .text "date_interval",
    .text "date_bucket"] ++ spanShown ++ [.created]
  deleted := some "Network flow report deleted"

def commitmentReports : Resource where
  table := .commitmentReports
  plural := "financial_commitment_reports"
  kind := some "fcr"
  parent := inWorkspace
  form := [required "title" titleShape, maybe "filter" .anyText,
    textOr "date_interval" "last_3_months", textOr "date_bucket" "month",
    textOr "groupings" "cost_type", textOr "on_demand_costs_scope" "discountable"] ++ spanFields
  shown := [.text "token", .text "title", .text? "filter", .text "date_interval",
    .text "date_bucket", .text "groupings", .text "on_demand_costs_scope"] ++ spanShown
    ++ [.created]
  deleted := some "Financial commitment report deleted"

def efficiencyReports : Resource where
  table := .efficiencyReports
  plural := "kubernetes_efficiency_reports"
  kind := some "ker"
  parent := inWorkspace
  form := [required "title" titleShape, maybe "cluster_id" .anyText, maybe "filter" .anyText,
    textOr "date_interval" "last_7_days", textOr "date_bucket" "day",
    textOr "aggregation" "namespace"]
  shown := [.text "token", .text "title", .text? "cluster_id", .text? "filter",
    .text "date_interval", .text "date_bucket", .text "aggregation", .created]
  deleted := some "Kubernetes efficiency report deleted"

def dataExports : Resource where
  table := .dataExports
  plural := "data_exports"
  kind := some "exp"
  parent := inWorkspace
  form := [required "export_type" .anyText, textOr "schema_type" "default",
    maybe "filter" .anyText] ++ spanFields
  shown := [.text "token", .text "export_type", .text "schema_type", .text "status",
    .text? "file_url", .created, .plain "completed_at" (.optional .timestamp)]

def ofCostReport : Link := ⟨"cost_report_token", .costReports, "cost_report_id"⟩

def anyNumber : Form.Shape := .number {}

def unitCosts : Resource where
  table := .unitCosts
  plural := "unit_costs"
  kind := none
  parent := ofCostReport
  form := [required "date" .date, required "per_unit_amount" anyNumber,
    required "unit_label" .anyText, required "total_cost" anyNumber,
    required "total_units" anyNumber, textOr "currency" "USD"]
  shown := [.plain "id" .identifier, .plain "date" .date, .plain "per_unit_amount" anyNumber,
    .text "unit_label", .plain "total_cost" anyNumber, .plain "total_units" anyNumber,
    .text "currency", .token ofCostReport]
  canShow := false

def deleteUnitCost : Endpoint where
  method := "DELETE"
  path := "/api/v2/unit_costs/:id"
  signedIn := true
  run c := do
    delete .unitCosts (← byId .unitCosts "Unit cost" c.param)
    return done "Unit cost deleted"

def resources : List Resource :=
  [costReports, folders, savedFilters, dashboards, segments, teams, accessGrants, virtualTags,
    resourceReports, networkFlowReports, commitmentReports, efficiencyReports, dataExports, unitCosts]

def resourceEndpoints : List Endpoint :=
  workspaceEndpoints ++ resources.flatMap Resource.endpoints ++ [deleteUnitCost]

end CloudSpend.Api
