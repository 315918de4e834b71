import RunMonitor.Cache.Collected
import RunMonitor.Cache.Collection
import RunMonitor.Cache.Flight
import RunMonitor.Cache.Key
import RunMonitor.Cache.Queue
import RunMonitor.Cache.RunIndex
import RunMonitor.Client.Basic
import RunMonitor.Client.Cluster
import RunMonitor.Client.Feed
import RunMonitor.Client.Pump
import RunMonitor.Client.Rehearsal
import RunMonitor.Client.Reply
import RunMonitor.Client.Uri
import RunMonitor.Cluster.Condition
import RunMonitor.Cluster.Container
import RunMonitor.Cluster.CronJob
import RunMonitor.Cluster.Event
import RunMonitor.Cluster.Job
import RunMonitor.Cluster.Listing
import RunMonitor.Cluster.Metadata
import RunMonitor.Cluster.Ownership
import RunMonitor.Cluster.Pod
import RunMonitor.Cluster.Version
import RunMonitor.Config.Basic
import RunMonitor.Config.Connection
import RunMonitor.Config.Database
import RunMonitor.Config.Fault
import RunMonitor.Config.Json
import RunMonitor.Delivery.Channel
import RunMonitor.Delivery.Loop
import RunMonitor.Delivery.Rehearsal
import RunMonitor.Error
import RunMonitor.Http.EventStream
import RunMonitor.Http.Response
import RunMonitor.Http.Route
import RunMonitor.Http.Server
import RunMonitor.Json.Basic
import RunMonitor.Json.Fields
import RunMonitor.Json.Number
import RunMonitor.Json.Parser
import RunMonitor.Json.Printer
import RunMonitor.Json.Token
import RunMonitor.Metrics.Basic
import RunMonitor.Metrics.Name
import RunMonitor.Metrics.Recorder
import RunMonitor.Metrics.Registry
import RunMonitor.Monitor
import RunMonitor.Procedure
import RunMonitor.Proofs.Cache.Abandonment
import RunMonitor.Proofs.Cache.Attribution
import RunMonitor.Proofs.Cache.Key
import RunMonitor.Proofs.Cache.Locks
import RunMonitor.Proofs.Cache.Newest
import RunMonitor.Proofs.Cache.Pods
import RunMonitor.Proofs.Cache.Selection
import RunMonitor.Proofs.Cache.SingleFlight
import RunMonitor.Proofs.Cache.Turn
import RunMonitor.Proofs.Client.Pump
import RunMonitor.Proofs.Cluster.Codec
import RunMonitor.Proofs.Cluster.Live
import RunMonitor.Proofs.Cluster.Replay
import RunMonitor.Proofs.Cluster.RoundTrip
import RunMonitor.Proofs.Cluster.Truncation
import RunMonitor.Proofs.Cluster.Version
import RunMonitor.Proofs.Config.Lifetime
import RunMonitor.Proofs.Delivery.Course
import RunMonitor.Proofs.FanOut
import RunMonitor.Proofs.Interleaving
import RunMonitor.Proofs.Json.Fields
import RunMonitor.Proofs.Json.Numeral
import RunMonitor.Proofs.Json.RoundTrip
import RunMonitor.Proofs.Json.Scan
import RunMonitor.Proofs.Metrics.Cadence
import RunMonitor.Proofs.Metrics.Observe
import RunMonitor.Proofs.Metrics.Registry
import RunMonitor.Proofs.Metrics.Samples
import RunMonitor.Proofs.Metrics.Series
import RunMonitor.Proofs.Metrics.Text
import RunMonitor.Proofs.Procedure
import RunMonitor.Proofs.SortedMap
import RunMonitor.Proofs.StableOrder
import RunMonitor.Proofs.Store.Access
import RunMonitor.Proofs.Store.Expiry
import RunMonitor.Proofs.Store.Frame
import RunMonitor.Proofs.Summary.Containers
import RunMonitor.Proofs.Summary.Duration
import RunMonitor.Proofs.Summary.Failure
import RunMonitor.Proofs.Summary.FanOut
import RunMonitor.Proofs.Summary.Growth
import RunMonitor.Proofs.Summary.LastDuration
import RunMonitor.Proofs.Summary.Order
import RunMonitor.Proofs.Summary.Reading
import RunMonitor.Proofs.Sync.Conduct
import RunMonitor.Proofs.Sync.Confinement
import RunMonitor.Proofs.Sync.Course
import RunMonitor.Proofs.Sync.Filing
import RunMonitor.Proofs.Sync.History
import RunMonitor.Proofs.Sync.Mirror
import RunMonitor.Proofs.Sync.Plan
import RunMonitor.Proofs.Sync.Restart
import RunMonitor.Proofs.Sync.Served
import RunMonitor.Proofs.Sync.Session
import RunMonitor.Proofs.Sync.Staleness
import RunMonitor.Proofs.Sync.Surfacing
import RunMonitor.Proofs.Time.Calendar
import RunMonitor.Proofs.Time.Clock
import RunMonitor.Proofs.Time.Elapsed
import RunMonitor.Proofs.Time.Text
import RunMonitor.Proofs.Transcript
import RunMonitor.Proofs.View.Agreement
import RunMonitor.Proofs.View.Keeping
import RunMonitor.Proofs.View.Lookup
import RunMonitor.Proofs.View.Reporting
import RunMonitor.Proofs.View.Session
import RunMonitor.Proofs.View.Waiting
import RunMonitor.Proofs.Writers
import RunMonitor.SortedMap
import RunMonitor.Store.Access
import RunMonitor.Store.Gate
import RunMonitor.Store.Rows
import RunMonitor.Summary.Assembly
import RunMonitor.Summary.CronJob
import RunMonitor.Summary.Job
import RunMonitor.Summary.Pod
import RunMonitor.Summary.Termination
import RunMonitor.Sync.Machine
import RunMonitor.Sync.Plan
import RunMonitor.Sync.Rehearsal
import RunMonitor.Sync.State
import RunMonitor.Text.Blank
import RunMonitor.Text.Double
import RunMonitor.Text.Hex
import RunMonitor.Text.Lowercase
import RunMonitor.Text.Numeral
import RunMonitor.Text.Percent
import RunMonitor.Time.Calendar
import RunMonitor.Time.Instant
import RunMonitor.Time.Span
import RunMonitor.View.Basic
import RunMonitor.View.Catalog
import RunMonitor.View.Lookup
import RunMonitor.View.Site
import RunMonitor.View.Topic
import RunMonitor.Yaml.Printer
import RunMonitor.Yaml.Scalar
