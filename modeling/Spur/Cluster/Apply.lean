import Spur.Cluster.JobEntries

/-! The other entries of `ClusterManager::apply_operation`, the dispatch over all entries, and whole logs. -/
namespace Spur.Cluster
open Spur Spur.Library

def nonEmpty (text : String) : Option String := if text = "" then none else some text

section

variable (config : Config) (env : Env) (timestamp : Time) (s : State)

def registeredNode (entry : Wal.NodeRegister) : Node :=
  let node := { Node.new entry.name entry.resources.backfillStableIds with
    hostname := if entry.hostname = "" then entry.name else entry.hostname
    labels := entry.labels
    source := resolveWalNodeSource entry.source entry.version entry.labels
    capabilities := entry.capabilities }
  let node := applyNodeConfigPolicy config node
  { node with
    address := (nonEmpty entry.address).or node.address
    port := entry.port
    wgPubkey := (nonEmpty entry.wgPubkey).or node.wgPubkey
    version := (nonEmpty entry.version).or node.version
    lastHeartbeat := some env.now
    state := (node.state.transition false .register).getD .idle
    partitions := matchedPartitions s.partitions entry.name entry.labels }

/-- A registration replaces the node under its name, charge and all. -/
def applyNodeRegister (entry : Wal.NodeRegister) : State × ClientResponse :=
  ({ s with nodes := s.nodes.insert entry.name (registeredNode config env s entry) },{})

def renamesFor (node : Node) (resources : ResourceSet) : Table Nat Nat :=
  (GpuIdentity.diffLayout (node.detectedResources.gpus.map GpuResource.stableId)
    (resources.backfillStableIds.gpus.map GpuResource.stableId)).safeRenames

def updatedNode (entry : Wal.NodeUpdate) (node : Node) : Node :=
  let node := remapNodeGpuAllocations (renamesFor node entry.resources) node
  applyNodeConfigPolicy config { node with
    detectedResources := entry.resources.backfillStableIds
    hostname := if entry.hostname = "" then node.hostname else entry.hostname
    address := (nonEmpty entry.address).or node.address
    port := entry.port
    wgPubkey := (nonEmpty entry.wgPubkey).or node.wgPubkey
    version := (nonEmpty entry.version).or node.version
    source := resolveWalNodeSource entry.source entry.version node.labels
    capabilities := entry.capabilities
    lastHeartbeat := some env.now }

def applyNodeUpdate (entry : Wal.NodeUpdate) : State × ClientResponse :=
  match s.nodes[entry.name]? with
  | none => (s,{})
  | some node =>
    ({ s with
        jobs := remapJobGpuAllocations node.name (renamesFor node entry.resources) s.jobs
        nodes := s.nodes.insert entry.name (updatedNode config env entry node) },{})

def stateChangedNode (entry : Wal.NodeStateChange) (node : Node) : Node :=
  let node := { node with state := entry.newState }
  let node := if entry.newState.isUp || entry.newState == .draining then node.updateStateFromAlloc else node
  { node with
    stateReason := entry.reason
    reasonUid := entry.reasonUid
    reasonTime := entry.reasonTime
    adminLocked := entry.adminLocked
    lastHeartbeat := if entry.newState = .down then none else node.lastHeartbeat }

def applyNodeStateChange (entry : Wal.NodeStateChange) : State × ClientResponse :=
  let nodes := s.nodes.modify entry.name (stateChangedNode entry)
  if entry.newState = .down then
    let failure := ⟨entry.name,entry.reason.getD "",entry.reasonUid,false⟩
    let eviction := evictJobsOnNode env timestamp entry.name failure s.jobs nodes
    (commitEviction s eviction,{ jobsFinalized := eviction.finalized })
  else ({ s with nodes },{})

def relabelledNode (set : Table String String) (remove : List String) (node : Node) : Node :=
  let labels := Table.mergeOver (fun _ value => some value) set.toList node.labels
  let labels := remove.foldl (fun labels key => labels.erase key) labels
  applyNodeConfigPolicy config
    { node with labels, partitions := matchedPartitions s.partitions node.name labels }

def applyNodeLabelsUpdate (name : String) (set : Table String String) (remove : List String) : State × ClientResponse :=
  ({ s with nodes := s.nodes.modify name (relabelledNode config s set remove) },{})

def applyNodeRemove (name : String) (reason : Option String) : State × ClientResponse :=
  let failure := ⟨name,reason.getD "",none,true⟩
  let eviction := evictJobsOnNode env timestamp name failure s.jobs s.nodes
  let s := commitEviction s eviction
  ({ s with nodes := s.nodes.erase name },{ jobsFinalized := eviction.finalized })

def clearDefaults (partitions : List Partition) : List Partition :=
  partitions.map fun part => { part with isDefault := false }

def replacePartition (name : String) (update : Partition → Partition) : List Partition → List Partition
  | [] => []
  | part :: parts => if part.name = name then update part :: parts else part :: replacePartition name update parts

def applyPartitionCreate (partition : Partition) : State × ClientResponse :=
  let seeded := partition.name ∈ s.configSeededPartitions
  let existing := s.partitions.any fun part => part.name = partition.name
  let cleared := if partition.isDefault then clearDefaults s.partitions else s.partitions
  let created := if existing then decide seeded else true
  -- A seeded name's entry is only the configuration's, so the log overrides it; else it is a duplicate.
  let partitions :=
    if existing then
      if seeded then replacePartition partition.name (fun _ => partition) cleared else s.partitions
    else cleared ++ [partition]
  ({ s with
      deletedPartitionNames := s.deletedPartitionNames.erase partition.name
      configSeededPartitions := s.configSeededPartitions.erase partition.name
      partitions
      nodes := reconcilePartitions config partitions s.nodes },
    { partitionCreated := created })

/-- The upper case of a character, where it falls on an ASCII letter: ASCII letters and the dotless i. -/
def toUppercase (c : Char) : Char := if c = 'ı' then 'I' else Text.toAsciiUpper c

def parsePartitionState (text : String) : PartitionState :=
  let upper := text.toList.map toUppercase
  if upper = "UP".toList then .up
  else if upper = "DOWN".toList then .down
  else if upper = "DRAIN".toList then .drain
  else .inactive

def parsePreemptMode (value : String) : Option (Option PreemptMode) :=
  let lower := (Text.trim value.toList).map Text.toAsciiLower
  if lower = [] ∨ lower = "none".toList then some none
  else if lower = "off".toList then some (some .off)
  else if lower = "cancel".toList then some (some .cancel)
  else if lower = "requeue".toList then some (some .requeue)
  else if lower = "suspend".toList then some (some .suspend)
  else none

def patchPartition (patch : PartitionPatch) (part : Partition) : Partition :=
  { part with
    nodes := patch.nodes.getD part.nodes
    selector := patch.selector.getD part.selector
    state := (patch.state.map parsePartitionState).getD part.state
    maxTimeMinutes := patch.maxTimeMinutes.getD part.maxTimeMinutes
    defaultTimeMinutes := patch.defaultTimeMinutes.getD part.defaultTimeMinutes
    maxNodes := patch.maxNodes.getD part.maxNodes
    minNodes := patch.minNodes.getD part.minNodes
    allowAccounts := patch.allowAccounts.getD part.allowAccounts
    allowGroups := patch.allowGroups.getD part.allowGroups
    denyAccounts := patch.denyAccounts.getD part.denyAccounts
    denyQos := patch.denyQos.getD part.denyQos
    allowQos := patch.allowQos.getD part.allowQos
    priorityTier := patch.priorityTier.getD part.priorityTier
    preemptMode := (patch.preemptMode.bind parsePreemptMode).getD part.preemptMode
    isDefault := patch.isDefault.getD part.isDefault
    preemptExemptTime := patch.preemptExemptTime.getD part.preemptExemptTime
    graceTime := patch.graceTime.getD part.graceTime }

def applyPartitionUpdate (name : String) (patch : PartitionPatch) : State × ClientResponse :=
  let patched := replacePartition name (patchPartition patch) s.partitions
  let partitions :=
    if patch.isDefault = some true then
      patched.map fun part => if part.name = name then part else { part with isDefault := false }
    else patched
  ({ s with partitions, nodes := reconcilePartitions config partitions s.nodes },{})

def applyPartitionDelete (name : String) : State × ClientResponse :=
  let partitions := s.partitions.filter fun part => part.name ≠ name
  ({ s with
      partitions
      deletedPartitionNames :=
        if partitions.length < s.partitions.length then insert name s.deletedPartitionNames
        else s.deletedPartitionNames
      nodes := reconcilePartitions config partitions s.nodes },{})

def applyReservationCreate (reservation : Reservation) : State × ClientResponse :=
  if s.reservations.any fun res => res.name = reservation.name then (s,{})
  else ({ s with reservations := s.reservations ++ [reservation] },{ reservationCreated := true })

private def addNames (names add : List String) : List String :=
  add.foldl (fun names name => if names.contains name then names else names ++ [name]) names

private def changeNames (names add remove : List String) : List String :=
  (addNames names add).filter fun name => !remove.contains name

def updateReservation (entry : Wal.ReservationUpdate) (res : Reservation) : Reservation :=
  { res with
    endTime := if entry.durationMinutes > 0 then res.startTime + Duration.seconds (entry.durationMinutes * 60)
      else res.endTime
    nodes := changeNames res.nodes entry.addNodes entry.removeNodes
    users := changeNames res.users entry.addUsers entry.removeUsers
    accounts := changeNames res.accounts entry.addAccounts entry.removeAccounts }

def updateReservations (entry : Wal.ReservationUpdate) : List Reservation → List Reservation
  | [] => []
  | res :: rest => if res.name = entry.name then updateReservation entry res :: rest
    else res :: updateReservations entry rest

def applyReservationUpdate (entry : Wal.ReservationUpdate) : State × ClientResponse :=
  ({ s with reservations := updateReservations entry s.reservations },{})

/-- A Pending job of a deleted reservation is held, or detached when the reservation says so. -/
def reservationDeletedJob (name : String) (noHoldJobs : Bool) (job : Job) : Job :=
  if job.state ≠ .pending ∨ job.spec.reservation ≠ some name then job
  else if noHoldJobs then
    let job := { job with spec := { job.spec with reservation := none } }
    if job.pendingReason = .reservationDeleted then job.setPendingReason .none else job
  else if job.pendingReason.isSchedulingHold then job
  else ({ job with priority := 0 }).setPendingReason .reservationDeleted

def applyReservationDelete (name : String) : State × ClientResponse :=
  match s.reservations.find? fun res => res.name = name with
  | none => (s,{})
  | some res =>
    ({ s with
        reservations := s.reservations.filter fun res => res.name ≠ name
        jobs := s.jobs.map fun _ job => reservationDeletedJob name res.flags.noHoldJobs job },{})

def mergeMemberNodes (current add : List String) : List String := ((current ++ add).dedup).insertionSort (· ≤ ·)

def subtractMemberNodes (current drop : List String) : List String :=
  (current.filter fun name => !drop.contains name).insertionSort (· ≤ ·)

def setK0sPhase (entry : Wal.K0sSetPhase) (k0s : K0sClusterState) : K0sClusterState :=
  if entry.phase = .down then
    { phase := .down, controlPlaneNode := none, controlPlaneNodes := [], memberNodes := [],
      resetRequested := entry.resetRequested }
  else
    { phase := entry.phase
      resetRequested := entry.resetRequested
      controlPlaneNode := entry.controlPlaneNode.or k0s.controlPlaneNode
      controlPlaneNodes := if entry.controlPlaneNodes = [] then k0s.controlPlaneNodes else entry.controlPlaneNodes
      memberNodes := if entry.memberNodes = [] then k0s.memberNodes else entry.memberNodes }

def assignK0s (entry : Wal.NodeK0sAssign) (node : Node) : Node :=
  { node with k0sRole := some entry.role, k0sMeshIp := some entry.meshIp, k0sPodCidr := some entry.podCidr }

def clearK0s (node : Node) : Node :=
  { node with k0sRole := none, k0sMeshIp := none, k0sPodCidr := none, k0sLastError := none }

end

def applyOperation (config : Config) (env : Env) (s : State) (op : WalOperation) : State × ClientResponse :=
  let timestamp := op.occurredAt.getD env.now
  match op with
  | .jobSubmit jobId spec => applyJobSubmit env s jobId spec
  | .jobStateChange entry => applyJobStateChange config env timestamp s entry
  | .jobStart entry => applyJobStart s entry
  | .jobComplete entry => applyJobComplete env timestamp s entry
  | .jobNodeComplete entry => applyJobNodeComplete env timestamp s entry
  | .jobTimeLimitSignaled jobId at_ => applyJobTimeLimitSignaled s jobId at_
  | .jobCancelSignaled jobId at_ cancel => applyJobCancelSignaled env s jobId at_ cancel
  | .jobStepComplete jobId stepId exitCode => applyJobStepComplete timestamp s jobId stepId exitCode
  | .jobStepCreate step => applyJobStepCreate s step
  | .jobPriorityChange entry => applyJobPriorityChange s entry
  | .jobExcludeUpdate jobId exclude => applyJobExcludeUpdate s jobId exclude
  | .jobDispatchBackoff entry => applyJobDispatchBackoff s entry
  | .jobPreemptRequeue entry => applyJobPreemptRequeue env timestamp s entry
  | .jobPreemptCancel entry => applyJobPreemptCancel env timestamp s entry
  | .jobUserRequeue entry => applyJobUserRequeue env timestamp s entry
  | .jobSuspend entry => applyJobSuspend env s entry
  | .jobResume jobId at_ => applyJobResume env s jobId at_
  | .jobEvict jobId detail _ => applyJobEvict env timestamp s jobId detail
  | .jobLaunchFailureDetail jobId detail => applyJobLaunchFailureDetail s jobId detail
  | .nodeRegister entry => applyNodeRegister config env s entry
  | .nodeUpdate entry => applyNodeUpdate config env s entry
  | .nodeStateChange entry => applyNodeStateChange env timestamp s entry
  | .nodeLabelsUpdate name set remove => applyNodeLabelsUpdate config s name set remove
  | .nodeRemove name reason _ => applyNodeRemove env timestamp s name reason
  | .tokenCreate token => ({ s with tokens := s.tokens.insert token.id token },{})
  | .tokenRevoke tokenId =>
    ({ s with tokens := s.tokens.modify tokenId fun token => { token with revoked := true } },{})
  | .partitionCreate partition => applyPartitionCreate config s partition
  | .partitionUpdate name patch => applyPartitionUpdate config s name patch
  | .partitionDelete name => applyPartitionDelete config s name
  | .reservationCreate reservation => applyReservationCreate s reservation
  | .reservationUpdate entry => applyReservationUpdate s entry
  | .reservationDelete name => applyReservationDelete s name
  | .nodeK0sAssign entry => ({ s with nodes := s.nodes.modify entry.name (assignK0s entry) },{})
  | .k0sSetPhase entry => ({ s with k0s := setK0sPhase entry s.k0s },{})
  | .nodeK0sClear name => ({ s with nodes := s.nodes.modify name clearK0s },{})
  | .evictTerminalJobs jobIds => applyEvictTerminalJobs s jobIds
  | .nodeK0sSetError name error =>
    ({ s with nodes := s.nodes.modify name fun node => { node with k0sLastError := error } },{})
  | .k0sMemberNodesAdd nodes =>
    ({ s with k0s := { s.k0s with memberNodes := mergeMemberNodes s.k0s.memberNodes nodes } },{})
  | .k0sMemberNodesRemove nodes =>
    ({ s with k0s := { s.k0s with memberNodes := subtractMemberNodes s.k0s.memberNodes nodes } },{})
  | .jobTimeLimitExpired jobId runAttempt at_ => applyJobTimeLimitExpired env s jobId runAttempt at_
  | .jobPreemptSignaled jobId pending => applyJobPreemptSignaled s jobId pending

def step (config : Config) (s : State) (entry : Env × WalOperation) : State :=
  (applyOperation config entry.1 s entry.2).1

def run (config : Config) (s : State) (log : List (Env × WalOperation)) : State := log.foldl (step config) s

end Spur.Cluster
