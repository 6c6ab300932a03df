import CloudSpend.Api.Integration
import CloudSpend.Api.Spending
import CloudSpend.Api.SignIn

/-! # All endpoints -/

namespace CloudSpend.Api

open Form (required)

def queryEndpoints : List Endpoint :=
  [{ method := "POST", path := "/api/v2/query", body := some Analytics.CostQuery.shape
     run := fun c => liftM (Analytics.CostQuery.ofRow c.body).run },
   { method := "GET", path := "/api/v2/query/stats", run := fun _ => liftM Analytics.overview },
   { method := "POST", path := "/api/v2/query/validate", body := some Analytics.filterShape
     run := fun c => liftM (Analytics.checkFilter (.object c.body)) }]

def pushReport (c : Call) : Handler Value := do
  let cluster := Store.textCell c.query "cluster_id"
  let now ← Handler.now
  modifyThe Service fun s => { s with clusters := s.clusters.push cluster c.body now }
  liftM (Cluster.acknowledge cluster c.body)

def askClusters (f : Cluster.Store → Result Value) : Handler Value := do
  liftM (f (← getThe Service).clusters)

def clusterEndpoints : List Endpoint :=
  let all := "/api/v2/kubernetes/clusters"
  [{ method := "POST", path := "/api/v2/kubernetes/metrics"
     query := [required "cluster_id" .anyText], body := some Cluster.payload, run := pushReport },
   { method := "GET", path := all, run := fun _ => askClusters (·.overview) },
   { method := "GET", path := all ++ "/:id/namespaces"
     run := fun c => askClusters (·.namespaceReport c.param) },
   { method := "GET", path := all ++ "/:id/rightsizing"
     run := fun c => askClusters (·.rightsizingReport c.param) }]

def setWebhooks (hooks : Webhook.Registry) : Handler Unit :=
  modifyThe Service fun s => { s with webhooks := hooks }

def addWebhook (c : Call) : Handler Value := do
  let hook ← liftM (Webhook.create c.body)
  setWebhooks ((← getThe Service).webhooks ++ [hook])
  return hook.toValue

def removeWebhook (c : Call) : Handler Value := do
  setWebhooks (← liftM ((← getThe Service).webhooks.remove (.text c.param)))
  return done "Webhook deleted"

def webhookEndpoints : List Endpoint :=
  let all := "/api/v2/webhooks"
  [{ method := "GET", path := all
     run := fun _ => do return (← getThe Service).webhooks.overview },
   { method := "POST", path := all, status := 201, body := some Webhook.shape, run := addWebhook },
   { method := "GET", path := all ++ "/events"
     run := fun _ => return .object [("events", Value.texts Webhook.events)] },
   { method := "DELETE", path := all ++ "/:id", run := removeWebhook }]

def version : Value := "0.1.0"

def rootEndpoints : List Endpoint :=
  [{ method := "GET", path := "/"
     run := fun _ => return .object [("name", "CloudPulse"), ("version", version),
       ("docs", "/docs"), ("health", "/health")] },
   { method := "GET", path := "/health"
     run := fun _ => return .object [("status", "healthy"), ("version", version)] }]

def endpoints : List Endpoint :=
  rootEndpoints ++ signInEndpoints ++ accountEndpoints ++ spendingEndpoints ++ findingEndpoints
    ++ budgetEndpoints ++ reportEndpoints ++ resourceEndpoints ++ cloudAccountEndpoints
    ++ integrationEndpoints ++ [integrationOverview] ++ queryEndpoints ++ clusterEndpoints
    ++ webhookEndpoints

end CloudSpend.Api
