import Spur.Hostlist
import Spur.Wal
import Spur.Sched.Capacity
import Spur.Sched.Constraints

/-! Which nodes a pending job may use, from `node_match`, `spur_core::reservation` and `spur_core::node`. -/
namespace Spur

namespace Node

def layoutBlocked (node : Node) : Bool := node.layoutError.isSome || node.layoutEnforceError.isSome

def isSchedulable (node : Node) : Bool := node.state.isAvailable && !node.layoutBlocked

def isK0sReserved (node : Node) : Bool := node.k0sRole.isSome

def isCharged (node : Node) : Bool := decide (node.allocResources.cpus > 0) || node.allocResources.hasDevices

def canSatisfyRequest (node : Node) (request : ResourceSet) : Bool :=
  node.totalResources.canSatisfyWithAllocated node.allocResources request

end Node

namespace Reservation

def isActive (reservation : Reservation) (now : Time) : Bool :=
  decide (reservation.startTime ≤ now) && decide (now < reservation.endTime)

def coversNode (reservation : Reservation) (node : String) : Bool := reservation.nodes.contains node

def allowsUser (reservation : Reservation) (user : String) (account : Option String) : Bool :=
  (reservation.users.isEmpty && reservation.accounts.isEmpty) ||
    reservation.users.contains user || account.elim false reservation.accounts.contains

end Reservation

namespace Sched
open Spur.Hostlist Spur.Library.Text

/-- A pending job as one pass sees it: with the nodes its quota admission was credited with. -/
structure PendingJob extends Job where
  preferredNodes : Finset String := ∅

def named (text : Option String) : Option String := text.filter (· ≠ "")

/-- Whether a job without access to the reservation would run into it. -/
def prospectiveOverlapAt (job : Job) (reservation : Reservation) (node : String) (at_ : Time)
    (duration : Duration) : Bool :=
  reservation.coversNode node &&
  !(named job.spec.reservation == some reservation.name &&
      reservation.allowsUser job.spec.user job.spec.account) &&
  decide (reservation.startTime < at_ + duration) && decide (at_ < reservation.endTime)

structure NodePlacement where
  job : Job
  nodelist : Option (Finset String)
  exclude : Finset String
  requiredFeatures : List String
  partitions : List String

namespace NodePlacement

def build (pending : PendingJob) (usePreferredNodes : Bool) : NodePlacement where
  job := pending.toJob
  nodelist := ((named pending.spec.nodelist).map fun pattern => (expandHostlistOrSplit pattern).toFinset).or
    (if usePreferredNodes && decide (pending.preferredNodes ≠ ∅) then some pending.preferredNodes else none)
  exclude := (named pending.spec.exclude).elim ∅ fun pattern => (expandHostlistOrSplit pattern).toFinset
  requiredFeatures := match Constraints.parse pending.spec.constraint with
    | some constraints => constraints.features
    | none => [pending.spec.constraint.getD ""]
  partitions := pending.spec.partition.elim [] fun text =>
    (text.toList.splitOn ',').map fun part => String.ofList (trim part)

def new (pending : PendingJob) : NodePlacement := build pending true

def newIgnoringPreferredNodes (pending : PendingJob) : NodePlacement := build pending false

variable (placement : NodePlacement) (node : Node) (reservations : List Reservation) (now : Time)

/-- A list shorter than the node count is needed in full, with other nodes beside it. -/
def nodelistIsAdditive : Bool :=
  placement.nodelist.elim false fun listed => decide (listed.card < max placement.job.spec.numNodes 1)

def isListed (name : String) : Bool := placement.nodelist.elim false fun listed => decide (name ∈ listed)

def allowsName (name : String) : Bool :=
  (placement.nodelist.isNone || placement.nodelistIsAdditive || placement.isListed name) &&
    decide (name ∉ placement.exclude)

def inPartition : Bool :=
  placement.partitions.isEmpty || placement.partitions.any node.partitions.contains

def hasFeatures : Bool := placement.requiredFeatures.all node.features.contains

def reservationOk : Bool :=
  let active := reservations.filter fun r => r.isActive now && r.coversNode node.name
  match named placement.job.spec.reservation with
  | some wanted => active.any fun r =>
      r.name == wanted && r.allowsUser placement.job.spec.user placement.job.spec.account
  | none => active.isEmpty

def eligible : Bool :=
  placement.allowsName node.name && placement.inPartition node && placement.hasFeatures node &&
    placement.reservationOk node reservations now

def matchesIgnoringK0s : Bool :=
  placement.eligible node reservations now && node.isSchedulable &&
    !(placement.job.spec.exclusive && node.isCharged)

/-- A busy node that is up still counts, for a later start. -/
def matchesForReservation : Bool :=
  !node.isK0sReserved && placement.eligible node reservations now && node.state.isUp && !node.layoutBlocked

def additiveListedNodeUnavailable (nodes : List Node) (required : ResourceSet) : Bool :=
  placement.nodelistIsAdditive && nodes.any fun node =>
    placement.isListed node.name && placement.eligible node reservations now &&
      node.totalResources.canSatisfy required && !placement.matchesForReservation node reservations now

end NodePlacement
end Sched
end Spur
