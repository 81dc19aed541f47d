import Spur.Sched.Timeline

/-! One backfill pass over the pending jobs. Locality ordering and fabric bindings enter as functions. -/
namespace Spur.Sched
open Spur Spur.Library

/-- Nodes handed off to pending preemptors: hidden from other jobs until their owners are planned. -/
structure HandoffGate where
  owners : Table String (List JobId)
  heldUntil : Table (String × JobId) Time := ∅
  released : List (String × JobId) := []

namespace HandoffGate

variable (gate : HandoffGate)

def blockers (jobId : JobId) (node : String) : List JobId :=
  ((gate.owners[node]?).filter fun owners => !owners.contains jobId).getD []

def hides (jobId : JobId) (node : String) : Bool :=
  (gate.blockers jobId node).any fun owner => (gate.heldUntil[(node,owner)]?).isNone

def floor (jobId : JobId) (node : String) (now : Time) : Time :=
  ((gate.blockers jobId node).filterMap fun owner => gate.heldUntil[(node,owner)]?).foldl max now

/-- The owner's picked nodes are held until its start, its other ones are released. -/
def ownerPlanned (owner : JobId) (picked : List String) (start now : Time) : HandoffGate :=
  gate.owners.toList.foldl (fun gate entry =>
    if !entry.2.contains owner then gate
    else if picked.contains entry.1 then { gate with heldUntil := gate.heldUntil.insert (entry.1,owner) start }
    else { gate with
      heldUntil := gate.heldUntil.insert (entry.1,owner) now
      released := gate.released ++ [(entry.1,owner)] }) gate

end HandoffGate

structure FabricBlock where
  key : FabricBlockKey
  members : List FabricMember
  hasIssues : Bool

/-- The fabric view of a cycle. A binding that cannot be built or does not validate is `none`. -/
structure FabricContext where
  blocks : List FabricBlock
  bindBlock : FabricBlock → Node → ResourceAllocations → Option FabricBinding
  bindGpus : Node → ResourceAllocations → Option GpuBinding

structure Cluster where
  nodes : List Node
  reservations : List Reservation := []
  /-- Nodes in locality order, of the candidates and as many as are needed. -/
  selectLocalNodes : Option (List String → Nat → List String) := none
  fabric : Option FabricContext := none
  busyUntil : Table String Time := ∅
  handoffs : Table String (List JobId) := ∅

structure Assignment where
  jobId : JobId
  nodes : List String
  perNodeAlloc : Table String ResourceAllocations

structure Ranked where
  index : Nat
  timeline : NodeTimeline
  start : Time
  freeGpus : Nat
  allocatedCpus : Nat

namespace Ranked

def name (ranked : Ranked) : String := ranked.timeline.node.name

/-- Earliest first, then most free GPUs, then weight unless the job is spread, then least load. -/
def ahead (spread : Bool) (a b : Ranked) : Bool :=
  if a.start ≠ b.start then a.start < b.start
  else if a.freeGpus ≠ b.freeGpus then b.freeGpus < a.freeGpus
  else if !spread && a.timeline.node.weight ≠ b.timeline.node.weight then
    b.timeline.node.weight < a.timeline.node.weight
  else a.allocatedCpus ≤ b.allocatedCpus

end Ranked

section

variable (reservations : List Reservation) (job : PendingJob)

/-- The latest end of a reservation the window would run into without access. -/
def reservationBlocker (node : String) (start : Time) (duration : Duration) : Option Time :=
  ((reservations.filter fun r => prospectiveOverlapAt job.toJob r node start duration).map Reservation.endTime).max?

def validRound (timeline : NodeTimeline) (request : ResourceSet) (duration : Duration) (maxCheck candidate : Time) :
    Time ⊕ Time :=
  if maxCheck < candidate then .inr maxCheck
  else
    let found := timeline.earliestStart request duration candidate
    match reservationBlocker reservations job timeline.node.name found duration with
    | some end_ => .inl end_
    | none => .inr found

def earliestValidStart (timeline : NodeTimeline) (request : ResourceSet) (duration : Duration) (floor : Time) : Time :=
  let maxCheck := floor + maxLookahead
  (advance (validRound reservations job timeline request duration maxCheck) (reservations.length + 1) floor).getD
    maxCheck

variable (gate : HandoffGate) (now : Time) (timelines : List NodeTimeline)

def findSuitableNodes : List (NodeTimeline × Nat) :=
  let required := jobResourceRequest job.spec
  let placement := NodePlacement.new job
  let suitable := fun node : Node => placement.matchesForReservation node reservations now &&
    node.totalResources.canSatisfy required && !gate.hides job.jobId node.name
  -- An additive node list needs every listed node.
  let listedNodeHidden := !gate.owners.isEmpty && placement.nodelistIsAdditive &&
    timelines.any fun timeline => placement.isListed timeline.node.name && gate.hides job.jobId timeline.node.name
  if placement.additiveListedNodeUnavailable reservations now (timelines.map NodeTimeline.node) required ||
      listedNodeHidden then []
  else timelines.zipIdx.filter fun candidate => suitable candidate.1.node

def timingRequest (timeline : NodeTimeline) : ResourceSet :=
  if job.spec.exclusive then timeline.total else jobResourceRequest job.spec

def freeGpusAt (timeline : NodeTimeline) (gpuType : Option String) (time : Time) : Nat :=
  (timeline.total.availableGpuIds (timeline.accumulatedAt time) gpuType).length

def rank (candidate : NodeTimeline × Nat) : Ranked :=
  let timeline := candidate.1
  let start := earliestValidStart reservations job timeline (timingRequest job timeline) (jobDuration job.spec)
    (gate.floor job.jobId timeline.node.name now)
  let demand := demandOf job.spec
  { index := candidate.2, timeline, start
    freeGpus := if demand.isNone then 0 else freeGpusAt timeline demand.gpuType start
    allocatedCpus := (timeline.accumulatedAt start).cpus }

def reorder (order : List String) (candidates : List Ranked) : List Ranked :=
  let (taken,rest) := order.foldl (fun (taken,rest) name => match rest.find? fun r : Ranked => r.name == name with
    | some found => (taken ++ [found],rest.eraseP fun r => r.name == name)
    | none => (taken,rest)) (([] : List Ranked),candidates)
  taken ++ rest

def neededNodes : Nat := max job.spec.numNodes 1

def pickNodes (selectLocalNodes : Option (List String → Nat → List String)) (candidates : List Ranked) : List Ranked :=
  let needed := neededNodes job
  let sorted := candidates.insertionSort fun a b => Ranked.ahead job.spec.spreadJob a b
  let localized := match selectLocalNodes with
    | some select =>
      if needed > 1 && (job.spec.topology == some "tree" || job.spec.topology == some "block") then
        reorder (select (sorted.map Ranked.name) needed) sorted
      else sorted
    | none => sorted
  let placement := NodePlacement.new job
  let listedFirst := if placement.nodelistIsAdditive then
      localized.insertionSort fun a b => placement.isListed a.name || !placement.isListed b.name
    else localized
  listedFirst.take needed

def gpuTargets (demand : GpuDemand) (picked : List Ranked) (time : Time) : Option (List (Nat × Nat)) :=
  match demand with
  | .none => some []
  | .perNode counts _ => if counts.length ≠ picked.length then none else some ((picked.map Ranked.index).zip counts)
  | .total count gpuType =>
    let caps := (picked.map fun r => (r.index,freeGpusAt r.timeline gpuType time)).insertionSort fun a b => b.2 ≤ a.2
    (distributeTotal count (caps.map Prod.snd)).map fun targets => (caps.map Prod.fst).zip targets

def shareRequest (demand : GpuDemand) (targets : List (Nat × Nat)) (position : Nat) (ranked : Ranked) : ResourceSet :=
  let base := baseNodeRequest job.spec
  let cpus := max (((cpuPerNodeCounts job.spec)[position]?).getD base.cpus) 1
  { base with
    cpus
    memoryMb := job.spec.memoryPerCpuMb.elim base.memoryMb fun mb => wrap64 (mb * cpus)
    gpus := placeholderGpus (((targets.find? fun t => t.1 == ranked.index).map Prod.snd).getD 0) demand.gpuType }

def planPerNodeAlloc (demand : GpuDemand) (picked : List Ranked) (time : Time) :
    Option (Table String ResourceAllocations) := do
  let targets ← gpuTargets demand picked time
  picked.zipIdx.foldlM (fun allocs entry =>
    let (ranked,position) := entry
    let current := ranked.timeline.accumulatedAt time
    let request := shareRequest job demand targets position ranked
    if ranked.timeline.total.canSatisfyWithAllocated current request then
      some (allocs.insert ranked.name (buildNodeAllocation ranked.timeline.total current request))
    else none) ∅

def uniformAlloc (ranked : Ranked) (time : Time) : ResourceAllocations :=
  let required := jobResourceRequest job.spec
  if job.spec.exclusive then buildExclusiveAllocation ranked.timeline.total required.memoryMb
  else buildNodeAllocation ranked.timeline.total (ranked.timeline.accumulatedAt time) required

/-- Uneven shares are resolved against the capacity at the common start. -/
def heterogeneous : Bool :=
  !job.spec.exclusive && ((demandOf job.spec).homogeneousPerNode.isNone || cpuIsHeterogeneous job.spec)

def commonNext (picked : List Ranked) (earliest : Time) : Time :=
  ((picked.map fun r => earliestValidStart reservations job r.timeline (timingRequest job r.timeline)
    (jobDuration job.spec) earliest).max?).getD earliest

/-- One round of the search for a common start: a later one, or the start with the allocations, or a failure. -/
def commonRound (picked : List Ranked) (earliest : Time) : Time ⊕ Option (Time × Table String ResourceAllocations) :=
  let horizon := now + maxLookahead
  let next := commonNext reservations job picked earliest
  if next ≠ earliest ∧ next < horizon then .inl next
  else if !heterogeneous job then
    .inr (some (next,picked.foldl (fun allocs r => allocs.insert r.name (uniformAlloc job r next)) ∅))
  else match planPerNodeAlloc job (demandOf job.spec) picked next with
    | some allocs => .inr (some (next,allocs))
    | none =>
      let releases := (picked.flatMap fun r => r.timeline.intervals).map Interval.end_
      match (releases.filter fun end_ => next < end_ && end_ < horizon).min? with
      | some release => .inl release
      | none => .inr none

structure Placement where
  picked : List Ranked
  start : Time
  perNodeAlloc : Table String ResourceAllocations

def Placement.names (placement : Placement) : List String := placement.picked.map Ranked.name

/-- Later candidates are ends of intervals of the picked nodes or of reservations. -/
def commonFuel (picked : List Ranked) : Nat :=
  (picked.flatMap fun r => r.timeline.intervals).length + reservations.length + 1

def placeJob (selectLocalNodes : Option (List String → Nat → List String)) : Option Placement := do
  let candidates := (findSuitableNodes reservations job gate now timelines).map (rank reservations job gate now)
  if candidates.isEmpty ∨ candidates.length < neededNodes job then none
  else
    let picked := pickNodes job selectLocalNodes candidates
    let first := ((picked.map Ranked.start).max?).getD now
    let (start,perNodeAlloc) ← ← advance (commonRound reservations job now picked) (commonFuel reservations picked) first
    some { picked, start, perNodeAlloc }

end

def reserveAll (timelines : List NodeTimeline) (placement : Placement) (start : Time) (job : PendingJob) :
    List NodeTimeline :=
  placement.picked.foldl (fun timelines ranked => timelines.modify ranked.index fun timeline =>
    timeline.reserveForJob start (start + jobDuration job.spec) ((placement.perNodeAlloc[ranked.name]?).getD {})
      (some job.jobId)) timelines

structure Pass where
  timelines : List NodeTimeline
  gate : HandoffGate
  assignments : List Assignment := []
  checkedGroups : Finset JobId := ∅
  skippedGroups : Finset JobId := ∅

def schedulePlain (cluster : Cluster) (now : Time) (pass : Pass) (job : PendingJob) : Pass :=
  match placeJob cluster.reservations job pass.gate now pass.timelines cluster.selectLocalNodes with
  | none => pass
  | some placement =>
    let gate := if placement.start ≤ now ∨ !job.idleFill then
      pass.gate.ownerPlanned job.jobId placement.names placement.start now else pass.gate
    if placement.start ≤ now then
      { pass with
        timelines := reserveAll pass.timelines placement now job
        gate
        assignments := pass.assignments ++ [⟨job.jobId,placement.names,placement.perNodeAlloc⟩] }
    else if job.idleFill then { pass with gate }
    else { pass with gate, timelines := reserveAll pass.timelines placement placement.start job }

/-- The constraint is valid, and GPU properties are only asked for when there is a fabric view. -/
def constraintOk (hasFabric : Bool) (spec : JobSpec) : Bool :=
  constraintsValid spec && !(requiresGpuProperties spec && !hasFabric)

section

variable (cluster : Cluster) (context : FabricContext) (now : Time) (pass : Pass) (job : PendingJob)
  (constraints : Constraints)

def admittedGpus (block : Option FabricBlock) : List (String × Nat × List String) :=
  cluster.nodes.flatMap fun node => node.totalResources.gpus.filterMap fun gpu =>
    let member := block.elim true fun block => block.members.any fun m =>
      m.device.node == node.name && m.device.stableId == gpu.stableId
    if constraints.matchesGpu gpu && member then
      (constraints.groupKey node.name gpu).map fun key => (node.name,gpu.stableId,key)
    else none

/-- The groups of admitted GPUs, in the order of their keys; each as its node and id pairs. -/
def gpuGroups (block : Option FabricBlock) : List (List (String × Nat)) :=
  let admitted := admittedGpus cluster constraints block
  let keys := (admitted.map fun entry => entry.2.2).dedup.insertionSort fun a b => !(decide (b < a))
  keys.map fun key => ((admitted.filter fun entry => entry.2.2 == key).map fun entry => (entry.1,entry.2.1)).dedup

def gpuPropertiesCapability : Nat := 3

def fabricBindingVersion : Nat := 1

/-- A timeline with only the allowed GPUs of its node; a node without any is as good as down. -/
def project (allowed : List (String × Nat)) (timeline : NodeTimeline) : NodeTimeline :=
  let node := timeline.node
  let gpus := node.totalResources.gpus.filter fun gpu => allowed.contains (node.name,gpu.stableId)
  let properties := !constraints.same.isEmpty || !constraints.predicates.isEmpty
  let capability := if properties then gpuPropertiesCapability else fabricBindingVersion
  let unusable := gpus.isEmpty || decide (node.totalResources.fabricBindingVersion < capability) ||
    (job.spec.exclusive && gpus.length != node.totalResources.gpus.length)
  { node := { node with
      totalResources := { node.totalResources with gpus }
      state := if unusable then .down else node.state }
    intervals := timeline.intervals.map fun interval => { interval with
      resources := { interval.resources with
        devices := interval.resources.devices.modify "gpu" fun devices =>
          devices.filter fun device => gpus.any fun gpu => gpu.stableId == device.deviceId } } }

def blockJob : PendingJob :=
  { job with toJob := { job.toJob with spec := { job.spec with
      constraint := some (String.intercalate "," constraints.features) } } }

def trial (projected : List NodeTimeline) (floor : Time) : Pass :=
  let job := blockJob job constraints
  let pass : Pass := { timelines := projected, gate := pass.gate }
  if constraintOk false job.spec then schedulePlain cluster floor pass job else pass

/-- What the trial recorded for the job: a start, and an allocation for each node. -/
def trialSlot (trialed : List NodeTimeline) : Option Time × Table String ResourceAllocations :=
  trialed.foldl (fun (start,allocs) timeline =>
    match timeline.intervals.find? fun interval => interval.jobId == some job.jobId with
    | some interval => (some interval.start,allocs.insert timeline.node.name interval.resources)
    | none => (start,allocs)) (none,∅)

/-- How the GPUs of the trial were replaced by ones that stay free over the whole window. -/
structure Rebind where
  allocs : Table String ResourceAllocations
  retryAt : Option Time := none
  valid : Bool := true

def overlapping (timeline : NodeTimeline) (start : Time) : List Interval :=
  timeline.intervals.filter fun i => i.start < start + jobDuration job.spec && start < i.end_

/-- The GPUs of a projected node that stay free over the window of the job. -/
def windowGpus (timeline projected : NodeTimeline) (start : Time) : List Nat :=
  let unavailable := (overlapping job timeline start).flatMap fun i => i.resources.deviceIds "gpu"
  let gpuType := (demandOf job.spec).gpuType
  (projected.total.gpus.filter fun gpu => !unavailable.contains gpu.stableId &&
    (job.spec.exclusive || gpuType.elim true fun kind => kind == "any" || gpu.gpuType == kind)).map
      GpuResource.stableId

/-- The allocation with its binding to the block, if the group is one. -/
def bindFabric (block : Option FabricBlock) (node : Node) (allocation : ResourceAllocations) :
    Option ResourceAllocations :=
  match block with
  | none => some allocation
  | some block => (context.bindBlock block node allocation).map fun binding =>
      { allocation with fabricBinding := some binding }

def rebindNode (block : Option FabricBlock) (start : Time) (rebind : Rebind) (entry : NodeTimeline × NodeTimeline) :
    Rebind :=
  let (timeline,projected) := entry
  let node := projected.node
  match rebind.allocs[node.name]? with
  | none => rebind
  | some allocation =>
    let wanted := allocation.totalDeviceCount "gpu"
    let available := ((windowGpus job timeline projected start).take wanted).map AllocatedDevice.injectable
    if available.length < wanted then
      let end_ := (((overlapping job timeline start).map Interval.end_).filter fun end_ => start < end_).min?
      { rebind with valid := false, retryAt := (rebind.retryAt.toList ++ end_.toList).min? }
    else
      let allocation := if 0 < wanted then
        { allocation with devices := allocation.devices.insert "gpu" available } else allocation
      let properties := !constraints.same.isEmpty || !constraints.predicates.isEmpty
      match bindFabric context block node allocation with
      | none => { rebind with valid := false, allocs := rebind.allocs.insert node.name allocation }
      | some allocation =>
        if !properties then { rebind with allocs := rebind.allocs.insert node.name allocation }
        else match context.bindGpus node allocation with
          | none => { rebind with valid := false, allocs := rebind.allocs.insert node.name allocation }
          | some binding => { rebind with
              allocs := rebind.allocs.insert node.name { allocation with gpuBinding := some binding } }

abbrev Planned := Option (Assignment × Time)

/-- One try of a group from a floor: a later floor to retry from, or the best plan so far. -/
def groupRound (block : Option FabricBlock) (allowed : List (String × Nat)) (best : Planned) (floor : Time) :
    Time ⊕ Planned :=
  let projected := pass.timelines.map (project job constraints allowed)
  let trialed := trial cluster pass job constraints projected floor
  match trialSlot job trialed.timelines with
  | (none,_) => .inr best
  | (some start,allocs) =>
    if (job.idleFill && now < start) || best.elim false (fun planned => planned.2 ≤ start) then .inr best
    else
      let rebind := (pass.timelines.zip projected).foldl (rebindNode context job constraints block start) { allocs }
      if rebind.valid then
        let names := (trialed.assignments.head?.map Assignment.nodes).getD
          ((projected.map fun timeline => timeline.node.name).filter fun name => (rebind.allocs[name]?).isSome)
        .inr (some (⟨job.jobId,names,rebind.allocs⟩,start))
      else match rebind.retryAt with
        | none => .inr best
        | some next => if next ≤ floor ∨ now + maxLookahead ≤ next then .inr best else .inl next

def groupFuel : Nat := (pass.timelines.flatMap NodeTimeline.intervals).length + 1

def tryGroup (best : Planned) (group : Option FabricBlock × List (String × Nat)) : Planned :=
  (advance (groupRound cluster context now pass job constraints group.1 group.2 best) (groupFuel pass) now).getD best

end

def FabricBlockKey.ahead (a b : FabricBlockKey) : Bool :=
  if a.namespace_ ≠ b.namespace_ then a.namespace_ < b.namespace_
  else if a.physicalDomain ≠ b.physicalDomain then a.physicalDomain < b.physicalDomain
  else decide (¬ b.fabricDomain < a.fabricDomain)

def healthyBlocks (blocks : List FabricBlock) : List FabricBlock :=
  (blocks.filter fun block => !block.hasIssues).insertionSort fun a b =>
    if a.members.length ≠ b.members.length then a.members.length < b.members.length
    else FabricBlockKey.ahead a.key b.key

/-- The earliest plan over the groups of GPUs that share what the constraints say must be shared. -/
def planGpuJob (cluster : Cluster) (context : FabricContext) (now : Time) (pass : Pass) (job : PendingJob) : Planned :=
  if job.hetJobId.isSome || job.hetGroup.isSome then none
  else do
    let constraints ← Constraints.parse job.spec.constraint
    let demand ← (resolveGpuDemand job.spec).toOption
    let blocks := if constraints.sameFabric then (healthyBlocks context.blocks).map some else [none]
    let groups := blocks.flatMap fun block => (gpuGroups cluster constraints block).map fun group => (block,group)
    (groups.filter fun group => demand.sum ≤ group.2.length).foldl
      (tryGroup cluster context now pass job constraints) none

def scheduleBound (cluster : Cluster) (context : FabricContext) (now : Time) (pass : Pass) (job : PendingJob) : Pass :=
  match planGpuJob cluster context now pass job with
  | none => pass
  | some (assignment,start) =>
    { pass with
      gate := pass.gate.ownerPlanned job.jobId assignment.nodes start now
      timelines := assignment.perNodeAlloc.toList.foldl (fun timelines entry =>
        match timelines.findIdx? fun timeline => timeline.node.name == entry.1 with
        | some index => timelines.modify index fun timeline =>
            timeline.reserveForJob start (start + jobDuration job.spec) entry.2 (some job.jobId)
        | none => timelines) pass.timelines
      assignments := if start ≤ now then pass.assignments ++ [assignment] else pass.assignments }

def hetKey (job : PendingJob) : Option JobId :=
  job.hetJobId.or (if job.hetGroup = some 0 then some job.jobId else none)

section

variable (cluster : Cluster) (now : Time) (pending : List PendingJob)

def hetMembers (group : JobId) : List PendingJob := pending.filter fun job => hetKey job == some group

/-- At the first of its components, a heterogeneous job is skipped unless each has enough nodes. -/
def checkGroup (pass : Pass) (group : JobId) : Pass :=
  let members := hetMembers pending group
  if members.length ≤ 1 ∨ group ∈ pass.checkedGroups then pass
  else
    let complete := members.all fun member => decide (member.spec.numNodes ≤
      (findSuitableNodes cluster.reservations member pass.gate now pass.timelines).length)
    { pass with
      checkedGroups := insert group pass.checkedGroups
      skippedGroups := if complete then pass.skippedGroups else insert group pass.skippedGroups }

def scheduleJob (pass : Pass) (job : PendingJob) : Pass :=
  let pass := (hetKey job).elim pass (checkGroup cluster now pending pass)
  if (hetKey job).elim false fun group => decide (group ∈ pass.skippedGroups) then pass
  else if !constraintOk cluster.fabric.isSome job.spec then pass
  else match cluster.fabric with
    | some context =>
      if requiresGpuProperties job.spec then scheduleBound cluster context now pass job
      else schedulePlain cluster now pass job
    | none => schedulePlain cluster now pass job

/-- A node's current charge, until its running jobs are expected to end. -/
def seed (node : Node) : NodeTimeline :=
  let timeline : NodeTimeline := ⟨node,[]⟩
  if node.isCharged then
    timeline.reserveForJob now ((cluster.busyUntil[node.name]?).getD (now + Duration.seconds (24 * 60 * 60)))
      node.allocResources none
  else timeline

/-- A heterogeneous job with a component that needs a binding is skipped. -/
def unbindableGroups : Finset JobId :=
  ((pending.filterMap hetKey).filter fun group => cluster.fabric.isSome &&
    (hetMembers pending group).any fun job => requiresGpuProperties job.spec).toFinset

def scheduleJobs (maxJobs : Nat) : Pass :=
  (pending.take maxJobs).foldl (scheduleJob cluster now pending)
    { timelines := cluster.nodes.map (seed cluster now)
      gate := { owners := cluster.handoffs }
      skippedGroups := unbindableGroups cluster pending }

end

end Spur.Sched
