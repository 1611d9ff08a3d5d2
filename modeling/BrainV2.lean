import BrainV2.Lib.Runs
import BrainV2.Lib.Json.Writer
import BrainV2.Py.Values
import BrainV2.Transform.CircuitBreaker
import BrainV2.Transform.Registry
import BrainV2.Transform.Graduate
import BrainV2.Transform.Consumer
import BrainV2.Lib.Rows
import BrainV2.Transform.Tick
import BrainV2.Transform.Gap
import BrainV2.Transform.LateArrival
import BrainV2.Transform.Outage
import BrainV2.Transform.Accounting
import BrainV2.Ingest.Envelope
import BrainV2.Consent.EraseSubject
import BrainV2.Ingest.Archiver
import BrainV2.Consent.RequestRecord
import BrainV2.Consent.CountZero
import BrainV2.Ingest.PiiTokenizer
import BrainV2.Ingest.PiiLight
import BrainV2.Webhook.Servicer
import BrainV2.Ingest.Batch
import BrainV2.Ingest.EnvelopeReading
import BrainV2.Ingest.OrderEnvelope
import BrainV2.Webhook.Anchor
import BrainV2.Identity.Components
import BrainV2.Identity.History
import BrainV2.Identity.MergeWinner
import BrainV2.Identity.OlderWins
import BrainV2.Identity.Soundness
import BrainV2.Identity.ErasureFinal
import BrainV2.Identity.PhoneKey
import BrainV2.Insight.Display
import BrainV2.Insight.DailyRows
import BrainV2.Insight.Gateway
import BrainV2.Insight.SpendCap
import BrainV2.Js.Numbers
import BrainV2.Lib.RateBound
import BrainV2.Money.AmountText
import BrainV2.Money.BrainMetrics
import BrainV2.Money.Conversion
import BrainV2.Webhook.RateLimit
import BrainV2.Insight.Extraction
import BrainV2.Insight.Surfacing
import BrainV2.Insight.CachedBriefs
import BrainV2.Insight.FenceTags
import BrainV2.Insight.Paradigm
import BrainV2.Insight.WriteTools
import BrainV2.Lib.Versions
import BrainV2.Lib.Integers
import BrainV2.Metrics.LeftOutFacts
import BrainV2.Metrics.RecomputeGuards
import BrainV2.Metrics.Overheads
import BrainV2.Metrics.Readers
import BrainV2.Transform.OrderContract
import BrainV2.Connectors.Acl
import BrainV2.Realtime.Consumer
import BrainV2.Realtime.Deliveries
import BrainV2.Analytics.Acquisition
import BrainV2.Analytics.Cascade
import BrainV2.Analytics.CascadeAgrees
import BrainV2.Analytics.ChCohorts
import BrainV2.Analytics.ChSeries
import BrainV2.Analytics.Facts
import BrainV2.Analytics.NewCustomers
import BrainV2.Analytics.PnlGrid
import BrainV2.Analytics.Recency
import BrainV2.Analytics.Timings
import BrainV2.Connectors.Normalizers
import BrainV2.Connectors.Sync
import BrainV2.Metrics.AverageOrder
import BrainV2.Metrics.Ladders
import BrainV2.Connectors.Lifecycle
import BrainV2.Gateway.Idempotency
import BrainV2.Gateway.OnceOnly
import BrainV2.Team.Hierarchy
import BrainV2.Team.Invitations
import BrainV2.Team.Ownership
import BrainV2.Analytics.ChHeadline
import BrainV2.Analytics.Distributions
import BrainV2.Analytics.Shipments
import BrainV2.Analytics.TenantIsolation
import BrainV2.ClickHouse.Decorate
import BrainV2.ClickHouse.References
import BrainV2.Metrics.Dialects
import BrainV2.Metrics.RevenueLadder
import BrainV2.Warehouse.Gateway
import BrainV2.LivePlane.CodPrepaid
import BrainV2.LivePlane.CodReconciles
import BrainV2.LivePlane.CohortMatrix
import BrainV2.Identity.SaltVault
import BrainV2.LivePlane.GoalAttainment
import BrainV2.Analytics.Ranges
import BrainV2.LivePlane.DatePicker
import BrainV2.Retention.CustomerKeys
import BrainV2.Retention.Purges
import BrainV2.Tenancy.AllOrNothing
import BrainV2.Connectors.Micros
import BrainV2.Connectors.Scales
import BrainV2.Consent.ErasureText
import BrainV2.Lib.Medians
import BrainV2.Lifecycle.ChurnThresholds
import BrainV2.Lifecycle.LiveStates
import BrainV2.Money.Acceptance
import BrainV2.Money.ReadBack
import BrainV2.Realtime.SentOrders
import BrainV2.Realtime.SyncedOrders
import BrainV2.Ingest.EnvelopeErrors
import BrainV2.Ingest.ObjectKeys
import BrainV2.Insight.BriefAnswers
import BrainV2.Insight.ExactDisplays
import BrainV2.Insight.MirrorSymmetry
import BrainV2.Metrics.WireRoundTrip
import BrainV2.Metrics.StoredRatios
import BrainV2.Connectors.NetSales
import BrainV2.Connectors.OAuthCallback
import BrainV2.Analytics.ShipmentPages
import BrainV2.Lib.RunningTotals
import BrainV2.Analytics.ParetoGrades
import BrainV2.LivePlane.CohortPayback
import BrainV2.Metrics.DaysOfCover
import BrainV2.LivePlane.GoalBands
import BrainV2.Gateway.SyncScheduler
import BrainV2.LivePlane.BreakEven
import BrainV2.Analytics.BulkCogs
import BrainV2.Analytics.GraphPoints
import BrainV2.Lib.Encodings
import BrainV2.Js.Values
import BrainV2.Store.Pagination
import BrainV2.Store.StoreBrowser
import BrainV2.Store.ListingPages
import BrainV2.Store.ReadOnce
import BrainV2.Mobile.OneVote
import BrainV2.Connect.Connections
import BrainV2.Team.AuthContext
import BrainV2.Insight.Dispatch
import BrainV2.Settings.UseCases
