import Spur.Library.Table
import Spur.Library.Text
import Spur.Hostlist
import Spur.Resource
import Spur.CoreLayout
import Spur.Job
import Spur.EndReason
import Spur.Node
import Spur.Wal
import Spur.GpuIdentity
import Spur.Cluster.State
import Spur.Cluster.Run
import Spur.Cluster.JobEntries
import Spur.Cluster.Apply
import Spur.Cluster.Lifecycle
import Spur.Library.Run
import Spur.Cluster.Moves
import Spur.Cluster.Refinement
import Spur.Charge
import Spur.Cluster.Balance
import Spur.Cluster.Placement
import Spur.Cluster.Propose
import Spur.Cluster.Conservation
import Spur.Library.Json
import Spur.Library.Record
import Spur.Codec
import Spur.LogCodec
import Spur.Cluster.RoundTrip
import Spur.Cluster.Twin
import Spur.Cluster.Agreement
import Spur.Cluster.Attempts
import Spur.Cluster.Replicas
import Spur.Cluster.Stale
import Spur.Cluster.EndRecords
import Spur.Cluster.Frame
import Spur.Cluster.JobIds
import Spur.Cluster.Suspensions
import Spur.Ledger.Allocation
import Spur.Ledger.Integrity
import Spur.Ledger.Reservation
import Spur.Cluster.Heartbeat
import Spur.Cluster.Classify
import Spur.Cluster.Headroom
import Spur.Library.Advance
import Spur.Library.Front
import Spur.Sched.Backfill
import Spur.Sched.Dispatch
import Spur.Sched.Handoff
import Spur.Sched.Held
import Spur.Sched.Horizon
import Spur.Sched.Together
import Spur.Sched.Victims
import Spur.Auth.Launch
import Spur.Cluster.Mesh
import Spur.Cluster.Reserve
import Spur.Compress
import Spur.TaskLaunch
import Spur.Admission.Fence
import Spur.Auth.Delivery
import Spur.Auth.SignedBytes
import Spur.Cluster.Redelivery
import Spur.DeviceFilter
import Spur.DeviceFilterRuns
import Spur.FanOut
import Spur.Raft.LogEnd
import Spur.StepAwait
import Spur.Sched.Vanished
import Spur.Cluster.Dependents
import Spur.Container
import Spur.Accounts
import Spur.ArraySpec
import Spur.Auth.CommandDigest
import Spur.ChargeInverse
import Spur.Cluster.Restart
import Spur.DeviceRegistry
import Spur.OutputPath
import Spur.Cluster.History
