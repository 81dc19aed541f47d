import Spur.Cluster.Dependency
import Spur.Sched.NodeMatch

/-! QOS and association limits, from `spur_core::qos` and `spur_core::account_limits`, and the quota gates of a pass. -/
namespace Spur.Cluster
open Spur Spur.Library Spur.Sched

/-- The tracked quantities of one footprint or cap; as a cap, 0 means unlimited. -/
structure Tres where
  cpu : Nat := 0
  node : Nat := 0
  memory : Nat := 0
  gpu : Nat := 0
  deriving DecidableEq

/-- The sums of the records are plain 64-bit ones and wrap. -/
def Tres.add (a b : Tres) : Tres where
  cpu := wrap64 (a.cpu + b.cpu)
  node := wrap64 (a.node + b.node)
  memory := wrap64 (a.memory + b.memory)
  gpu := wrap64 (a.gpu + b.gpu)

structure QosLimits where
  maxJobsPerUser : Option Nat := none
  maxSubmitJobsPerUser : Option Nat := none
  maxTresPerJob : Option Tres := none
  maxTresPerUser : Option Tres := none
  grpTres : Option Tres := none
  maxWallMinutes : Option Nat := none
  grpWallMinutes : Option Nat := none
  deriving DecidableEq

structure AccountLimits where
  maxRunningJobs : Option Nat := none
  maxSubmitJobs : Option Nat := none
  maxTresPerJob : Option Tres := none
  grpTres : Option Tres := none
  maxWallMinutes : Option Nat := none
  deriving DecidableEq

def effectiveMemoryMb (spec : JobSpec) (numNodes : Nat) : Nat :=
  ((spec.memoryPerNodeMb.map fun mb => wrap64 (mb * numNodes)).or
    (spec.memoryPerCpuMb.map fun mb => wrap64 (mb * spec.numTasks * spec.cpusPerTask))).getD 0

/-- The GPUs of the whole job; an invalid request counts as its largest declared intent. -/
def effectiveGpus (spec : JobSpec) (numNodes : Nat) : Nat :=
  let numNodes := max numNodes 1
  match resolveGpuDemandFor spec numNodes with
  | .ok demand => demand.sum
  | .error _ =>
    let perNode := ((spec.gres.filterMap parseGres).filter fun entry => entry.1 == "gpu").map fun entry => entry.2.2
    let total := spec.gpus.elim 0 GpuRequest.count
    let pn := spec.gpusPerNode.elim 0 fun req => req.count * numNodes
    let pt := spec.gpusPerTask.elim 0 fun req => req.count * spec.numTasks
    max (max (max total pn) pt) (perNode.sum * numNodes)

def jobTres (spec : JobSpec) : Tres where
  cpu := wrap32 (spec.numTasks * spec.cpusPerTask)
  node := spec.numNodes
  memory := effectiveMemoryMb spec spec.numNodes
  gpu := effectiveGpus spec spec.numNodes

def wallBreach (spec : JobSpec) (maxWall : Nat) : Bool :=
  maxWall == 0 || spec.timeLimit.elim false fun limit => decide ((maxWall : Int) < Int.tdiv (Duration.numSeconds limit) 60)

/-- The first capped quantity that is exceeded, in the order cpu, node, memory, gpu. -/
def tresCapBreach (used cap : Tres) (cpu node memory gpu : PendingReason) : Option PendingReason :=
  if 0 < cap.cpu ∧ cap.cpu < used.cpu then some cpu
  else if 0 < cap.node ∧ cap.node < used.node then some node
  else if 0 < cap.memory ∧ cap.memory < used.memory then some memory
  else if 0 < cap.gpu ∧ cap.gpu < used.gpu then some gpu
  else none

def Tres.charging (tres : Tres) (grpNodeCharge : Nat) : Tres := { tres with node := grpNodeCharge }

def qosResourceBreach (spec : JobSpec) (limits : QosLimits) (userRunning qosRunning : Tres)
    (grpNodeCharge : Nat) : Option PendingReason :=
  let tres := jobTres spec
  let wall := limits.maxWallMinutes.bind fun minutes =>
    if wallBreach spec minutes then some PendingReason.qosMaxWallDurationPerJobLimit else none
  let perJob := limits.maxTresPerJob.bind fun cap => tresCapBreach tres cap
    .qosMaxCpuPerJobLimit .qosMaxNodePerJobLimit .qosMaxMemoryPerJob .qosMaxGpuPerJobLimit
  let perUser := limits.maxTresPerUser.bind fun cap => tresCapBreach (userRunning.add tres) cap
    .qosMaxCpuPerUserLimit .qosMaxNodePerUserLimit .qosMaxMemoryPerUser .qosMaxGpuPerUserLimit
  let group := limits.grpTres.bind fun cap => tresCapBreach (qosRunning.add (tres.charging grpNodeCharge)) cap
    .qosGrpCpuLimit .qosGrpNodeLimit .qosGrpMemLimit .qosGrpGpuLimit
  ((wall.or perJob).or perUser).or group

/-- What a gate measures a job of one user in one QOS or account against. -/
structure Usage where
  running : Nat
  submitted : Nat
  userRunning : Tres := {}
  groupRunning : Tres
  consumedWallMinutes : Option Nat := none

def checkQosLimits (spec : JobSpec) (limits : QosLimits) (usage : Usage) (grpNodeCharge : Nat) :
    Option PendingReason :=
  let jobs := limits.maxJobsPerUser.bind fun cap =>
    if cap ≤ usage.running then some PendingReason.qoSMaxJobsPerUser else none
  let submits := limits.maxSubmitJobsPerUser.bind fun cap =>
    if cap ≤ usage.submitted then some PendingReason.qosMaxSubmitJobPerUserLimit else none
  let wall := limits.grpWallMinutes.bind fun cap => usage.consumedWallMinutes.bind fun consumed =>
    if cap ≤ consumed then some PendingReason.qosGrpWallLimit else none
  ((jobs.or submits).or wall).or
    (qosResourceBreach spec limits usage.userRunning usage.groupRunning grpNodeCharge)

/-- The job clears every limit once the group node cap is lifted. -/
def grpNodeIsSoleBlocker (spec : JobSpec) (limits : QosLimits) (usage : Usage) (grpNodeCharge : Nat) : Bool :=
  (checkQosLimits spec { limits with grpTres := limits.grpTres.map (·.charging 0) } usage grpNodeCharge).isNone

def accountResourceBreach (spec : JobSpec) (limits : AccountLimits) (accountRunning : Tres)
    (grpNodeCharge : Nat) : Option PendingReason :=
  let tres := jobTres spec
  let perJob := limits.maxTresPerJob.bind fun cap => tresCapBreach tres cap
    .assocMaxCpuPerJobLimit .assocMaxNodePerJobLimit .assocMaxMemPerJob .assocMaxGpuPerJobLimit
  let group := limits.grpTres.bind fun cap => tresCapBreach (accountRunning.add (tres.charging grpNodeCharge)) cap
    .assocGrpCpuLimit .assocGrpNodeLimit .assocGrpMemLimit .assocGrpGpuLimit
  perJob.or group

def checkAccountLimits (spec : JobSpec) (limits : AccountLimits) (usage : Usage) (grpNodeCharge : Nat) :
    Option PendingReason :=
  let jobs := limits.maxRunningJobs.bind fun cap =>
    if cap ≤ usage.running then some PendingReason.assocMaxJobsLimit else none
  let submits := limits.maxSubmitJobs.bind fun cap =>
    if cap ≤ usage.submitted then some PendingReason.assocMaxSubmitJobLimit else none
  let wall := limits.maxWallMinutes.bind fun cap =>
    if wallBreach spec cap then some PendingReason.assocMaxWallDurationPerJobLimit else none
  ((jobs.or submits).or wall).or (accountResourceBreach spec limits usage.groupRunning grpNodeCharge)

section

variable (jobs : Table JobId Job)

def jobList : List Job := jobs.toList.map Prod.snd

/-- Footprints summed over the occupying jobs of a scope; a node that several share counts once, and
a job without recorded nodes counts with the nodes it asked for. -/
def sumRunningTres (inScope : Job → Bool) : Tres :=
  let used := (jobList jobs).filter fun job => job.occupiesResources && inScope job
  let placed := used.filter fun job => !job.allocatedNodes.isEmpty
  let unplaced := used.filter fun job => job.allocatedNodes.isEmpty
  ((used.map fun job => jobTres job.spec).foldl Tres.add {}).charging
    ((placed.flatMap Job.allocatedNodes).toFinset.card + (unplaced.map fun job => job.spec.numNodes).sum)

def occupiedNodes (inScope : Job → Bool) : Finset String :=
  (((jobList jobs).filter fun job => job.occupiesResources && inScope job).flatMap Job.allocatedNodes).toFinset

def countRunning (inScope : Job → Bool) : Nat :=
  ((jobList jobs).filter fun job => job.occupiesResources && inScope job).length

/-- Only jobs submitted before count, so that a later one never blocks an earlier one. -/
def countSubmitted (before : JobId) (inScope : Job → Bool) : Nat :=
  ((jobList jobs).filter fun job =>
    decide (job.jobId < before) && (job.state == .pending || job.state == .running) && inScope job).length

end

/-- New nodes the job needs beyond those its group occupies, and the occupied ones it may reuse. -/
def newDistinctNodesNeeded (pending : PendingJob) (occupied : Finset String) (nodes : Table String Node) :
    Nat × Finset String :=
  if pending.spec.exclusive then (pending.spec.numNodes,∅)
  else
    let placement := NodePlacement.newIgnoringPreferredNodes pending
    let required := jobResourceRequest pending.spec
    let reusable := occupied.filter fun name => (nodes[name]?).elim false fun node =>
      placement.allowsName node.name && placement.inPartition node && placement.hasFeatures node &&
        node.isSchedulable && !node.isK0sReserved && node.canSatisfyRequest required
    (pending.spec.numNodes - min reusable.card pending.spec.numNodes,reusable)

structure PassReservations where
  qosGrp : Table String Tres := ∅
  qosUserTres : Table (String × String) Tres := ∅
  qosUserCount : Table (String × String) Nat := ∅
  qosClaimedNodes : Table String (Finset String) := ∅
  accountGrp : Table String Tres := ∅
  accountUserCount : Table (String × String) Nat := ∅
  accountClaimedNodes : Table String (Finset String) := ∅

namespace PassReservations

def reserve (reserved : PassReservations) (pending : PendingJob) (qosNodeCharge accountNodeCharge : Nat) :
    PassReservations :=
  let tres := jobTres pending.spec
  let user := pending.spec.user
  let forQos := match named pending.spec.qos with
    | none => reserved
    | some qos =>
      { reserved with
        qosGrp := reserved.qosGrp.insert qos (((reserved.qosGrp[qos]?).getD {}).add (tres.charging qosNodeCharge))
        qosUserTres := reserved.qosUserTres.insert (user,qos) (((reserved.qosUserTres[(user,qos)]?).getD {}).add tres)
        qosUserCount := reserved.qosUserCount.insert (user,qos) ((reserved.qosUserCount[(user,qos)]?).getD 0 + 1)
        qosClaimedNodes := reserved.qosClaimedNodes.insert qos
          ((reserved.qosClaimedNodes[qos]?).getD ∅ ∪ pending.preferredNodes) }
  match named pending.spec.account with
  | none => forQos
  | some account =>
    { forQos with
      accountGrp := forQos.accountGrp.insert account
        (((forQos.accountGrp[account]?).getD {}).add (tres.charging accountNodeCharge))
      accountUserCount := forQos.accountUserCount.insert (user,account)
        ((forQos.accountUserCount[(user,account)]?).getD 0 + 1)
      accountClaimedNodes := forQos.accountClaimedNodes.insert account
        ((forQos.accountClaimedNodes[account]?).getD ∅ ∪ pending.preferredNodes) }

end PassReservations

def inQos (qos : String) (job : Job) : Bool := !job.idleFill && job.spec.qos == some qos

def inAccount (account : String) (job : Job) : Bool := !job.idleFill && job.spec.account == some account

def ofUser (user : String) (inScope : Job → Bool) (job : Job) : Bool := inScope job && job.spec.user == user

def qosUsage (jobs : Table JobId Job) (reserved : PassReservations) (pending : PendingJob) (qos : String)
    (consumedWallMinutes : Option Nat) : Usage :=
  let user := pending.spec.user
  { running := countRunning jobs (ofUser user (inQos qos)) + (reserved.qosUserCount[(user,qos)]?).getD 0
    submitted := countSubmitted jobs pending.jobId (ofUser user (inQos qos))
    userRunning := (sumRunningTres jobs (ofUser user (inQos qos))).add ((reserved.qosUserTres[(user,qos)]?).getD {})
    groupRunning := (sumRunningTres jobs (inQos qos)).add ((reserved.qosGrp[qos]?).getD {})
    consumedWallMinutes }

structure QosBlocked where
  reason : PendingReason
  grpNodeSoleBlocker : Bool

/-- The node count charged to the group and the job with the nodes it was credited with, or the refusal. -/
def qosBlockWith (pending : PendingJob) (limits : QosLimits) (jobs : Table JobId Job) (nodes : Table String Node)
    (reserved : PassReservations) (consumedWallMinutes : Option Nat) : Except QosBlocked (Nat × PendingJob) :=
  match pending.spec.qos with
  | none => .ok (0,pending)
  | some qos =>
    let usage := qosUsage jobs reserved pending qos consumedWallMinutes
    let occupied := occupiedNodes jobs (inQos qos) \ (reserved.qosClaimedNodes[qos]?).getD ∅
    let (charge,reusable) := newDistinctNodesNeeded pending occupied nodes
    match checkQosLimits pending.spec limits usage charge with
    | none => .ok (charge,{ pending with preferredNodes := pending.preferredNodes ∪ reusable })
    | some reason => .error ⟨reason,grpNodeIsSoleBlocker pending.spec limits usage charge⟩

def accountUsage (jobs : Table JobId Job) (reserved : PassReservations) (pending : PendingJob) (account : String) :
    Usage :=
  let user := pending.spec.user
  { running := countRunning jobs (ofUser user (inAccount account)) + (reserved.accountUserCount[(user,account)]?).getD 0
    submitted := countSubmitted jobs pending.jobId (ofUser user (inAccount account))
    groupRunning := (sumRunningTres jobs (inAccount account)).add ((reserved.accountGrp[account]?).getD {}) }

structure AccountAdmitted where
  charge : Nat
  admitsWithoutCredit : Bool

def accountBlockWith (pending : PendingJob) (limits : String → String → AccountLimits) (jobs : Table JobId Job)
    (nodes : Table String Node) (reserved : PassReservations) :
    Except PendingReason (AccountAdmitted × PendingJob) :=
  match named pending.spec.account with
  | none => .ok (⟨0,true⟩,pending)
  | some account =>
    let limits := limits pending.spec.user account
    let usage := accountUsage jobs reserved pending account
    let occupied := occupiedNodes jobs (inAccount account) \ (reserved.accountClaimedNodes[account]?).getD ∅
    let (charge,reusable) := newDistinctNodesNeeded pending occupied nodes
    match checkAccountLimits pending.spec limits usage charge with
    | some reason => .error reason
    | none =>
      let admitted := { pending with preferredNodes := pending.preferredNodes ∪ reusable }
      .ok (⟨charge,(checkAccountLimits pending.spec limits usage pending.spec.numNodes).isNone⟩,admitted)

end Spur.Cluster
