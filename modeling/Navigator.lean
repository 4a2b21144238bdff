import Navigator.Base.Prog
import Navigator.Base.SingleWrite
import Navigator.Base.Machine
import Navigator.Base.ObjectStore
import Navigator.Base.FirstMatch
import Navigator.Base.RollingUpdate
import Navigator.Base.Chase
import Navigator.Base.History
import Navigator.Text
import Navigator.Semver
import Navigator.GoVersion
import Navigator.Names
import Navigator.Meta
import Navigator.Kube
import Navigator.Types
import Navigator.Field
import Navigator.Validation
import Navigator.ValidationExact
import Navigator.Accepted
import Navigator.Defaults
import Navigator.SpecHistory
import Navigator.Client
import Navigator.Control
import Navigator.Ownership
import Navigator.PilotController
import Navigator.EventHandlers
import Navigator.Elasticsearch.Resources
import Navigator.Elasticsearch.Labels
import Navigator.Elasticsearch.Buildable
import Navigator.Elasticsearch.Quorum
import Navigator.Elasticsearch.Actions
import Navigator.Elasticsearch.ActionSpecs
import Navigator.Elasticsearch.Completion
import Navigator.Elasticsearch.ClusterControl
import Navigator.Elasticsearch.ReportedStatus
import Navigator.Elasticsearch.StatusWriters
import Navigator.Elasticsearch.Orphans
import Navigator.Elasticsearch.SyncSpec
import Navigator.Elasticsearch.World
import Navigator.Elasticsearch.MinimumMasters
import Navigator.Elasticsearch.PilotLookup
import Navigator.Elasticsearch.PilotAgreement
import Navigator.Elasticsearch.DataLoss
import Navigator.Elasticsearch.Rollout
import Navigator.Elasticsearch.Upgrade
import Navigator.Elasticsearch.UpgradeInvariant
import Navigator.Elasticsearch.UpgradeProgress
import Navigator.Elasticsearch.UpgradeSerial
import Navigator.Elasticsearch.Isolation
import Navigator.Cassandra.Resources
import Navigator.Cassandra.Nodetool
import Navigator.Cassandra.Probes
import Navigator.Cassandra.ClusterControl
import Navigator.Cassandra.ScaleOut
import Navigator.Cassandra.JoinInSeries
import Navigator.Elasticsearch.WriteConditions
import Navigator.Conditions
import Navigator.Elasticsearch.VersionReached
import Navigator.UpdateExact
import Navigator.Cassandra.Isolation
import Navigator.Base.Memory
import Navigator.Cassandra.SeedLabeller
import Navigator.Base.Csv
import Navigator.Base.Flags
import Navigator.Elasticsearch.PilotOptions
import Navigator.Base.Threads
import Navigator.GenericPilot.Hooks
import Navigator.GenericPilot.Run
import Navigator.GenericPilot.StopSignal
import Navigator.Elasticsearch.RemovedPilots
import Navigator.GenericPilot.HookRuns
import Navigator.GenericPilot.Peers
import Navigator.GenericPilot.StopRace
import Navigator.Elasticsearch.DocumentCount
import Navigator.GenericPilot.Scheduler
import Navigator.Base.Quoting
import Navigator.Base.Regex
import Navigator.VersionEncoding
import Navigator.Reapply
import Navigator.Base.LeadsTo
import Navigator.Base.WorkQueue
import Navigator.Workers
import Navigator.WorkerProgress
import Navigator.GenericPilot.LeaderElection
import Navigator.GenericPilot.SingleLeader
import Navigator.Cassandra.Convergence
import Navigator.Base.OptimisticUpdate
import Navigator.Registry
