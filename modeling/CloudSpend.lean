import CloudSpend.Aws.Commitment
import CloudSpend.Client.Typed
import CloudSpend.Main
import CloudSpend.Task.Setup
import CloudSpend.Proofs.Source.LocalFiles
import CloudSpend.Proofs.Source.Selection
import CloudSpend.Proofs.Billing.Amounts
import CloudSpend.Proofs.Filter.UniqueReading
import CloudSpend.Proofs.Filter.Negation
import CloudSpend.Proofs.Analytics.ValidFilters
import CloudSpend.Proofs.Cost.Invariance
import CloudSpend.Proofs.Cost.Forecast
import CloudSpend.Proofs.Filter.Vocabulary
import CloudSpend.Proofs.Connector.AllOrNothing
import CloudSpend.Proofs.Api.Webhooks
import CloudSpend.Proofs.Api.Budgets
import CloudSpend.Proofs.Api.DrillDown
import CloudSpend.Proofs.Api.Disconnection
import CloudSpend.Proofs.Api.Folders
import CloudSpend.Proofs.Api.Authentication
import CloudSpend.Proofs.Aws.Pagination
import CloudSpend.Proofs.Cluster.Listings
import CloudSpend.Proofs.Cluster.Sizes
import CloudSpend.Proofs.Client.Queries
import CloudSpend.Proofs.Task.Sync
import CloudSpend.Proofs.Task.Digest
import CloudSpend.Proofs.Api.Walk
import CloudSpend.Proofs.Aws.Balancers
