import Spur.Cluster.Quota

/-! One classification of the pending jobs. Effective priority and borrow ceiling (floating point) are functions. -/
namespace Spur.Cluster
open Spur Spur.Library Spur.Library.Text Spur.Sched

/-- What a pass reads beside the replicated state. -/
structure PassSettings where
  now : Time
  effectivePriority : (base : Nat) → (user account : String) → (ageMinutes : Int) → (tier : Nat) → Nat
  accountingEnabled : Bool := false
  qosLoaded : Bool := false
  qos : Table String QosLimits := ∅
  associationsLoaded : Bool := false
  associations : Table (String × String) AccountLimits := ∅
  grpWallUsage : Option (Table String Nat) := none
  licensePool : Table String Nat := ∅
  burstBufferTotalGb : Nat := 0
  idleFillEnabled : Bool := false
  borrowCeiling : (capNodes clusterNodes : Nat) → Option Nat := fun _ _ => none

namespace PassSettings

def resolveQos (settings : PassSettings) (spec : JobSpec) : QosLimits := (spec.qos.bind (settings.qos[·]?)).getD {}

def accountLimits (settings : PassSettings) (user account : String) : AccountLimits :=
  (settings.associations[(user,account)]?).getD {}

/-- A cap that cannot be read holds the job rather than letting it through. -/
def accountingBlock (settings : PassSettings) (spec : JobSpec) : Option PendingReason :=
  if !settings.accountingEnabled then none
  else match named spec.qos with
    | some name =>
      if !settings.qosLoaded then some .accountingUnavailable
      else if (settings.qos[name]?).isNone then some .invalidQOS
      else if (named spec.account).isSome && !settings.associationsLoaded then some .accountingUnavailable
      else none
    | none =>
      if (named spec.account).isSome && !settings.associationsLoaded then some .accountingUnavailable else none

end PassSettings

structure Candidate where
  job : PendingJob
  eligible : Bool
  tagReason : Bool

abbrev ReasonUpdate := JobId × PendingReason

def recordReason (candidate : Candidate) (reason : PendingReason) : List ReasonUpdate :=
  if candidate.tagReason then [(candidate.job.jobId,reason)] else []

inductive GateOutcome where
  | keep
  | block (reason : PendingReason)
  | dropUntagged

def retainUnblocked (gate : PendingJob → Option PendingReason) :
    List Candidate → List Candidate × List ReasonUpdate
  | [] => ([],[])
  | candidate :: rest =>
    let (kept,updates) := retainUnblocked gate rest
    match gate candidate.job with
    | none => (candidate :: kept,updates)
    | some reason => (kept,recordReason candidate reason ++ updates)

/-- A gate that passes over the candidates not yet eligible and carries what the kept ones claim. -/
def retainEligible {S : Type} (gate : S → PendingJob → GateOutcome × PendingJob × S) :
    S → List Candidate → S × List Candidate × List ReasonUpdate
  | state, [] => (state,[],[])
  | state, candidate :: rest =>
    if !candidate.eligible then
      let (state,kept,updates) := retainEligible gate state rest
      (state,candidate :: kept,updates)
    else
      let (outcome,job,state) := gate state candidate.job
      let (state,kept,updates) := retainEligible gate state rest
      match outcome with
      | .keep => (state,{ candidate with job } :: kept,updates)
      | .block reason => (state,kept,recordReason candidate reason ++ updates)
      | .dropUntagged => (state,kept,updates)

def pureGate (verdict : PendingJob → Option PendingReason) (state : Unit) (job : PendingJob) :
    GateOutcome × PendingJob × Unit :=
  ((verdict job).elim .keep .block,job,state)

def pendingCandidate (now : Time) (job : Job) : Option Candidate :=
  let beforeBegin := job.spec.beginTime.elim false fun begin_ => decide (now < begin_)
  if job.state ≠ .pending || job.pendingReason.isSchedulingHold then none
  else if beforeBegin && (job.pendingReason = .beginTime || job.pendingReason = .preempted) then none
  else some
    -- The stored flag describes the previous run.
    { job := { toJob := { job with idleFill := false } }
      eligible := !beforeBegin
      tagReason := decide (job.pendingReason ≠ .deadLine) }

def requestedPartitionNames (spec : Option String) : List String :=
  spec.elim [] fun text => ((text.toList.splitOn ',').map fun part => String.ofList (trim part)).filter (· ≠ "")

def partitionTimeAllows (part : Partition) (timeLimit : Option Duration) : Bool :=
  match part.maxTimeMinutes,timeLimit with
  | some minutes,some limit => decide (Duration.numSeconds limit ≤ minutes * 60)
  | _,_ => true

def partitionLimitBlock (spec : JobSpec) (part : Partition) : Option PendingReason :=
  if part.maxNodes.elim false fun cap => decide (cap < spec.numNodes) then some .partitionConfig
  else if part.minNodes > 0 && spec.numNodes < part.minNodes then some .partitionConfig
  else if !partitionTimeAllows part spec.timeLimit then some .partitionTimeLimit
  else none

def partitionBlock (partitions : List Partition) (job : PendingJob) : Option PendingReason :=
  match named job.spec.partition with
  | none => none
  | some text =>
    let requested := (requestedPartitionNames (some text)).mapM fun name => partitions.find? fun p => p.name == name
    match requested with
    | none | some [] => some .partitionConfig
    | some parts =>
      let verdicts := (parts.filter fun p => p.state == .up).map (partitionLimitBlock job.spec)
      if verdicts.isEmpty then some .partitionInactive
      else if verdicts.contains none then none
      else some (((verdicts.filterMap id).head?).getD .partitionConfig)

def dependencyBlock (jobs : Table JobId Job) (now : Time) (job : PendingJob) : Option PendingReason :=
  if job.spec.dependency.isEmpty then none
  else if checkDependencies jobs now job.toJob = .satisfied then none
  else some .dependency

def reservationBlock (reservations : List Reservation) (now : Time) (job : PendingJob) : Option PendingReason :=
  match named job.spec.reservation with
  | none => none
  | some name => match reservations.find? fun r => r.name == name with
    | some r => if r.isActive now && r.allowsUser job.spec.user job.spec.account then none else some .reservation
    | none => some .reservation

def maxPriorityTier (spec : Option String) (partitions : List Partition) : Nat :=
  let matched := (requestedPartitionNames spec).filterMap fun name => partitions.find? fun p => p.name == name
  ((matched.map Partition.priorityTier).max?).getD 1

def prioritize (settings : PassSettings) (partitions : List Partition) (candidate : Candidate) : Candidate :=
  let job := candidate.job
  let age := max (Int.tdiv (Duration.numSeconds (settings.now - job.submitTime)) 60) 0
  { candidate with job := { job with
      priority := settings.effectivePriority job.priority job.spec.user (job.spec.account.getD "") age
        (maxPriorityTier job.spec.partition partitions) } }

/-- The pending job a victim is being cleared out for while it still holds its nodes. -/
def preemptorAwaitingRelease (job : Job) : Option JobId :=
  match job.state with
  | .completing => if job.preemptMode = some "Cancel" then job.preemptedBy else none
  | .running => job.preemptGrace.map PreemptPending.preemptedBy
  | _ => none

/-- Whether the pending job names the node, or a partition of the node, or no node at all. -/
def jobRequestsNode (spec : JobSpec) (node : String) (nodes : List Node) : Bool :=
  match spec.nodelist with
  | some nodelist => (nodelist.toList.splitOn ',').any fun part => String.ofList (trim part) == node
  | none =>
    let partitions := requestedPartitionNames spec.partition
    nodes.any fun n => n.name == node && (partitions.isEmpty || partitions.any n.partitions.contains)

def preemptOverlapsPendingNodes (spec : JobSpec) (victim : Job) (nodes : List Node) : Bool :=
  victim.allocatedNodes.any fun node => jobRequestsNode spec node nodes

/-- A preemptor whose victims still hold, or just freed, a node it may use goes ahead of the queue. -/
def isHoisted (s : State) (job : PendingJob) : Bool :=
  let nodes := s.nodes.toList.map Prod.snd
  let drains := (jobList s.jobs).any fun victim =>
    preemptorAwaitingRelease victim == some job.jobId && preemptOverlapsPendingNodes job.spec victim nodes
  let schedulable := (s.jobs[job.jobId]?).elim false fun stored =>
    stored.state == .pending && !stored.pendingReason.isSchedulingHold
  let earmarked := s.preemptFreedNodes.toList.any fun entry =>
    entry.2.contains job.jobId && schedulable && jobRequestsNode job.spec entry.1 nodes
  drains || earmarked

def hasActiveReservation (reservations : List Reservation) (now : Time) (spec : JobSpec) : Bool :=
  spec.reservation.elim false fun name => reservations.any fun r =>
    r.name == name && r.isActive now && r.allowsUser spec.user spec.account

structure QueueKey where
  reserved : Bool
  hoisted : Bool
  priority : Nat
  jobId : JobId

/-- The order of the queue: an active reservation, a preemptor, the priority, the id. -/
def QueueKey.ahead (a b : QueueKey) : Bool :=
  if a.reserved != b.reserved then a.reserved
  else if a.hoisted != b.hoisted then a.hoisted
  else if a.priority != b.priority then decide (b.priority < a.priority)
  else decide (a.jobId ≤ b.jobId)

def queueKey (s : State) (now : Time) (candidate : Candidate) : QueueKey where
  reserved := hasActiveReservation s.reservations now candidate.job.spec
  hoisted := isHoisted s candidate.job
  priority := candidate.job.priority
  jobId := candidate.job.jobId

def queueAhead (s : State) (now : Time) (a b : Candidate) : Bool := (queueKey s now a).ahead (queueKey s now b)

def runningArrayCounts (jobs : Table JobId Job) : Table JobId Nat :=
  ((jobList jobs).filter fun job =>
      (job.state == .running || job.isStoppingForTimeLimit) && !job.idleFill).foldl
    (fun counts job => match job.spec.arrayJobId with
      | some arrayId => counts.insert arrayId ((counts[arrayId]?).getD 0 + 1)
      | none => counts) ∅

/-- The task limit of arrays: a candidate over the limit stays in the list, no longer eligible. -/
def arrayGate : Table JobId Nat → List Candidate → List Candidate × List ReasonUpdate
  | _, [] => ([],[])
  | counts, candidate :: rest =>
    match candidate.eligible,candidate.job.spec.arrayJobId,candidate.job.spec.arrayMaxConcurrent with
    | true,some arrayId,some cap =>
      let count := (counts[arrayId]?).getD 0
      if cap ≤ count then
        let (later,updates) := arrayGate (counts.insert arrayId count) rest
        ({ candidate with eligible := false } :: later,recordReason candidate .jobArrayTaskLimit ++ updates)
      else
        let (later,updates) := arrayGate (counts.insert arrayId (count + 1)) rest
        let cleared := if candidate.job.pendingReason = .jobArrayTaskLimit then recordReason candidate .none else []
        (candidate :: later,cleared ++ updates)
    | _,_,_ =>
      let (later,updates) := arrayGate counts rest
      (candidate :: later,updates)

section

variable (nodes : Table String Node) (reservations : List Reservation) (now : Time) (job : PendingJob)

private def eligibleNodes : List Node :=
  (nodes.toList.map Prod.snd).filter fun node => (NodePlacement.new job).eligible node reservations now

/-- No eligible node is one that placement would ever use. -/
def structuralUnplaceableReason : Option PendingReason :=
  let placement := NodePlacement.new job
  let needed := max job.spec.numNodes 1
  let required := jobResourceRequest job.spec
  let eligible := eligibleNodes nodes reservations now job
  let recoverable := fun node : Node => node.isK0sReserved &&
    placement.matchesIgnoringK0s node reservations now && node.totalResources.canSatisfy required
  if placement.additiveListedNodeUnavailable reservations now eligible required then
    let blockers := eligible.filter fun node => placement.isListed node.name &&
      node.totalResources.canSatisfy required && !placement.matchesForReservation node reservations now
    some (if !blockers.isEmpty && blockers.all recoverable then .k8sReserved else .reqNodeNotAvail)
  else if eligible.length < needed || eligible.any fun node => placement.matchesForReservation node reservations now then
    none
  else some (if (eligible.filter recoverable).length ≥ needed then .k8sReserved
    else if (named job.spec.nodelist).isSome then .reqNodeNotAvail
    else .nodeDown)

def resourceImpossibleReason : Option PendingReason :=
  let required := jobResourceRequest job.spec
  let eligible := eligibleNodes nodes reservations now job
  if !eligible.isEmpty && !(eligible.any fun node => node.totalResources.cpus == 0 && node.state.isUp) &&
      !(eligible.any fun node => node.totalResources.canSatisfy required) then
    some .nodeConfigUnavailable
  else none

end

def extractLicenseRequirements (spec : JobSpec) : Table String Nat :=
  spec.gres.foldl (fun licenses gres => match parseGres gres with
    | some ("license",kind,count) =>
      let name := kind.getD "unknown"
      licenses.insert name ((licenses[name]?).getD 0 + count)
    | _ => licenses) ∅

def extractBbRequirement (spec : JobSpec) : Nat :=
  spec.burstBuffer.elim 0 fun text => ((text.toList.splitOn ';').foldl (fun total directive =>
    let body := trim directive
    if "capacity=".toList.isPrefixOf body then
      let digits := (trim (body.drop 9)).takeWhile isDigit
      (parseUnsigned (2 ^ 64) digits).elim total fun n => min (total + n) u64Max
    else total) 0)

/-- A borrowed run must be one component, hold no license or burst buffer, and end by itself. -/
def idleFillCollectible (job : PendingJob) : Bool :=
  job.hetJobId.isNone && job.hetGroup.isNone && job.spec.hetGroup.isNone && extractBbRequirement job.spec == 0 &&
    (extractLicenseRequirements job.spec).isEmpty && job.spec.timeLimit.isSome

structure QuotaPass where
  reserved : PassReservations := {}
  claimedAny : Bool := false
  claimsBlocked : Bool := false
  borrowedByQos : Table String Nat := ∅
  idleFillCandidates : List PendingJob := []

def borrowedNow (jobs : Table JobId Job) : Table String Nat :=
  ((jobList jobs).filter fun job => job.state == .running && job.idleFill).foldl
    (fun borrowed job => match job.spec.qos with
      | some qos => borrowed.insert qos ((borrowed[qos]?).getD 0 + job.allocatedNodes.length)
      | none => borrowed) ∅

def borrowWouldExceedCeiling (ceiling : Option Nat) (borrowed want : Nat) : Bool :=
  ceiling.elim false fun limit => decide (limit < min (borrowed + want) u64Max)

section

variable (settings : PassSettings) (s : State) (unclaimed : Finset JobId)

/-- A job over its group node cap and nothing else may be lent idle nodes: it claims everything but
the group's nodes, and stays blocked for its own pass. -/
def lend (pass : QuotaPass) (job : PendingJob) (admitted : AccountAdmitted) (blocked : QosBlocked) : QuotaPass :=
  let pass := { pass with claimsBlocked := pass.claimsBlocked || pass.claimedAny }
  let qos := job.spec.qos.getD ""
  let capNodes := ((settings.resolveQos job.spec).grpTres.map Tres.node).getD 0
  let ceiling := settings.borrowCeiling capNodes s.nodes.size
  let borrowed := (pass.borrowedByQos[qos]?).getD 0
  if settings.idleFillEnabled && !borrowWouldExceedCeiling ceiling borrowed job.spec.numNodes &&
      blocked.grpNodeSoleBlocker && admitted.admitsWithoutCredit && idleFillCollectible job then
    let lent := { job with preferredNodes := ∅ }
    { pass with
      reserved := pass.reserved.reserve lent 0 job.spec.numNodes
      borrowedByQos := pass.borrowedByQos.insert qos (borrowed + job.spec.numNodes)
      idleFillCandidates := pass.idleFillCandidates ++ [lent] }
  else pass

def quotaGate (pass : QuotaPass) (job : PendingJob) : GateOutcome × PendingJob × QuotaPass :=
  match accountBlockWith job settings.accountLimits s.jobs s.nodes pass.reserved with
  | .error reason => (.block reason,job,{ pass with claimsBlocked := pass.claimsBlocked || pass.claimedAny })
  | .ok (admitted,job) =>
    let consumedWall := job.spec.qos.bind fun qos => settings.grpWallUsage.map fun usage => (usage[qos]?).getD 0
    match qosBlockWith job (settings.resolveQos job.spec) s.jobs s.nodes pass.reserved consumedWall with
    | .error blocked => (.block blocked.reason,job,lend settings s pass job admitted blocked)
    | .ok (qosCharge,job) =>
      if job.jobId ∈ unclaimed then (.keep,job,pass)
      else (.keep,job,{ pass with
        reserved := pass.reserved.reserve job qosCharge admitted.charge
        claimedAny := true })

def licensesInUse (jobs : Table JobId Job) : Table String Nat :=
  ((jobList jobs).filter fun job => job.state == .running || job.state == .suspended || job.state == .completing ||
      job.occupiesResources).foldl
    (fun used job => (extractLicenseRequirements job.spec).toList.foldl
      (fun used entry => used.insert entry.1 ((used[entry.1]?).getD 0 + entry.2)) used) ∅

def availableLicenses : Table String Nat :=
  settings.licensePool.map fun license total => total - ((licensesInUse s.jobs)[license]?).getD 0

/-- A shortage and a contention within the pass both read as a license wait. -/
def licenseGate (remaining : Table String Nat) (job : PendingJob) :
    GateOutcome × PendingJob × Table String Nat :=
  let wanted := (extractLicenseRequirements job.spec).toList
  let short := fun pool : Table String Nat => wanted.any fun entry => decide ((pool[entry.1]?).getD 0 < entry.2)
  if short (availableLicenses settings s) || short remaining then (.block .licenses,job,remaining)
  else (.keep,job,wanted.foldl (fun pool entry => pool.modify entry.1 (· - entry.2)) remaining)

def bbCapacityInUse (jobs : Table JobId Job) : Nat :=
  ((jobList jobs).filter fun job => match job.state with
      | .running | .suspended | .completing => true
      | .pending => job.bbStageState != .none
      | _ => false).foldl (fun used job => min (used + extractBbRequirement job.spec) u64Max) 0

def availableBb : Nat := settings.burstBufferTotalGb - bbCapacityInUse s.jobs

/-- A job whose capacity is claimed leaves the schedulable set to stage its data in. -/
def burstBufferGate (state : Nat × List JobId) (job : PendingJob) : GateOutcome × PendingJob × Nat × List JobId :=
  let req := extractBbRequirement job.spec
  if job.bbStageState = .staging then (.block .burstBufferStageIn,job,state)
  else if job.bbStageState = .none && req > 0 && availableBb settings s < req then (.block .burstBufferResources,job,state)
  else if req = 0 || job.bbStageState = .ready then (.keep,job,state)
  else if state.1 < req then (.block .burstBufferResources,job,state)
  else (.dropUntagged,job,state.1 - req,state.2 ++ [job.jobId])

def queue : List Candidate × List ReasonUpdate :=
  let candidates := (jobList s.jobs).filterMap (pendingCandidate settings.now)
  let (candidates,u₁) := retainUnblocked (partitionBlock s.partitions) candidates
  let (candidates,u₂) := retainUnblocked (dependencyBlock s.jobs settings.now) candidates
  let (candidates,u₃) := retainUnblocked (reservationBlock s.reservations settings.now) candidates
  ((candidates.map (prioritize settings s.partitions)).insertionSort
    (fun a b => queueAhead s settings.now a b),u₁ ++ u₂ ++ u₃)

def throttled : List Candidate × List ReasonUpdate :=
  let (candidates,updates) := arrayGate (runningArrayCounts s.jobs) (queue settings s).1
  (candidates.filter fun candidate => !candidate.job.holdsAPlacement,updates)

abbrev Gated (S : Type) := S × List Candidate × List ReasonUpdate

def accounted : Gated Unit :=
  retainEligible (pureGate fun job => settings.accountingBlock job.spec) () (throttled settings s).1

def placeable : Gated Unit :=
  retainEligible (pureGate (structuralUnplaceableReason s.nodes s.reservations settings.now)) () (accounted settings s).2.1

/-- The candidates within their quotas, with what they and the lent ones claim. -/
def claimed : Gated QuotaPass :=
  retainEligible (quotaGate settings s unclaimed) { borrowedByQos := borrowedNow s.jobs } (placeable settings s).2.1

def possible : Gated Unit :=
  retainEligible (pureGate (resourceImpossibleReason s.nodes s.reservations settings.now)) ()
    (claimed settings s unclaimed).2.1

def licensed : Gated (Table String Nat) :=
  retainEligible (licenseGate settings s) (availableLicenses settings s) (possible settings s unclaimed).2.1

def staged : Gated (Nat × List JobId) :=
  retainEligible (burstBufferGate settings s) (availableBb settings s,[]) (licensed settings s unclaimed).2.1

structure Classification where
  jobs : List PendingJob
  reasonUpdates : List ReasonUpdate
  bbStageCandidates : List JobId
  idleFillCandidates : List PendingJob
  claimsBlocked : Bool

def classifyPendingJobsWith : Classification :=
  let candidates := (staged settings s unclaimed).2.1
  let deferred := candidates.filter fun candidate => !candidate.eligible &&
    candidate.job.spec.beginTime.elim false fun begin_ => decide (settings.now < begin_)
  { jobs := (candidates.filter Candidate.eligible).map Candidate.job
    reasonUpdates := (queue settings s).2 ++ (throttled settings s).2 ++ (accounted settings s).2.2 ++
      (placeable settings s).2.2 ++ (claimed settings s unclaimed).2.2 ++ (possible settings s unclaimed).2.2 ++
      (licensed settings s unclaimed).2.2 ++ (staged settings s unclaimed).2.2 ++
      deferred.flatMap fun candidate => recordReason candidate .beginTime
    bbStageCandidates := (staged settings s unclaimed).1.2
    idleFillCandidates := (claimed settings s unclaimed).1.idleFillCandidates
    claimsBlocked := (claimed settings s unclaimed).1.claimsBlocked }

end

end Spur.Cluster
