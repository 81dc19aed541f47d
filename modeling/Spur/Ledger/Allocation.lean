import Spur.Cluster.State
import Spur.Library.Bitmap
import Spur.Library.Holdings

/-! The agent's ledger of one node: the cpus and GPUs taken, their owners, and reservations being launched. -/
namespace Spur.Ledger
open Spur Spur.Library Spur.Cluster

inductive AllocError where
  | gpusUnavailable
  | gpusUnknown
  | duplicateJob
  | superseded
  | cpusUnavailable
  deriving DecidableEq

structure AllocationResult where
  cpuIds : List Nat
  gpuIds : List Nat
  memoryMb : Nat
  deriving DecidableEq

structure Owned where
  runAttempt : Nat
  result : AllocationResult
  deriving DecidableEq

inductive CapacityChange where
  | applied
  | allocatedDevicesLost (lost : List (JobId × List Nat))
  deriving DecidableEq

structure NodeAllocation where
  cpuIds : List Nat
  cpuIndex : Table Nat Nat
  /-- Aligned with `cpuIds` by position. -/
  allocatedCpus : List Bool
  unavailable : Finset Nat := ∅
  allocatedMemoryMb : Nat := 0
  /-- Aligned with `gpus` by position. -/
  gpuAllocated : List Bool
  gpus : List GpuResource
  owners : Table JobId Owned := ∅
  launching : Table JobId Time := ∅
  fenced : Finset Nat := ∅

def CpuTopology.onlineCpus (topology : CpuTopology) : List Nat :=
  (topology.cores.flatMap CoreInfo.cpus).mergeSort (· ≤ ·)

def onlineCpuIds (resources : ResourceSet) : List Nat :=
  (resources.topology.map CpuTopology.onlineCpus).getD (List.range resources.cpus)

def indexCpuIds (cpuIds : List Nat) : Table Nat Nat :=
  cpuIds.zipIdx.foldl (fun index entry => index.insert entry.1 entry.2) ∅

namespace NodeAllocation

def new (resources : ResourceSet) : NodeAllocation where
  cpuIds := onlineCpuIds resources
  cpuIndex := indexCpuIds (onlineCpuIds resources)
  allocatedCpus := List.replicate (onlineCpuIds resources).length false
  gpuAllocated := List.replicate resources.gpus.length false
  gpus := resources.gpus

section

variable (s : NodeAllocation)

def setCpu (bit : Bool) (bits : List Bool) (cpu : Nat) : List Bool :=
  match s.cpuIndex[cpu]? with
  | some pos => bits.set pos bit
  | none => bits

def gpuPosition (stableId : Nat) : Option Nat := s.gpus.findIdx? fun gpu => gpu.stableId == stableId

def setGpu (bit : Bool) (bits : List Bool) (stableId : Nat) : List Bool :=
  match s.gpuPosition stableId with
  | some pos => bits.set pos bit
  | none => bits

def isAllocated (cpu : Nat) : Bool := (s.cpuIndex[cpu]?).any fun pos => s.allocatedCpus.getD pos false

def gpuIsAllocated (stableId : Nat) : Bool := (s.gpuPosition stableId).any fun pos => s.gpuAllocated.getD pos false

end

def markCpusUnavailable (cpus : List Nat) (s : NodeAllocation) : NodeAllocation :=
  cpus.foldl (fun s cpu =>
    match s.cpuIndex[cpu]? with
    | some pos => { s with allocatedCpus := s.allocatedCpus.set pos true, unavailable := insert cpu s.unavailable }
    | none => s) s

def heldCpus (s : NodeAllocation) : List Nat := s.owners.toList.flatMap fun entry => entry.2.result.cpuIds

/-- Exactly these cpus are excluded. One that no longer is stays taken while a job holds it. -/
def setSpecExclusions (specCpus : List Nat) (s : NodeAllocation) : NodeAllocation :=
  let held := s.heldCpus
  let release := (s.unavailable \ specCpus.toFinset).sort (· ≤ ·)
  let s := { s with
    unavailable := s.unavailable \ release.toFinset
    allocatedCpus := (release.filter fun cpu => !held.contains cpu).foldl (s.setCpu false) s.allocatedCpus }
  s.markCpusUnavailable specCpus

def setFenced (ids : Finset Nat) (s : NodeAllocation) : NodeAllocation := { s with fenced := ids }

/-- What a fresh inventory takes from the owners: the GPUs that are gone, and an empty list for a cpu. -/
def lostDevices (fresh : ResourceSet) (s : NodeAllocation) : List (JobId × List Nat) :=
  let freshIds := fresh.gpus.map GpuResource.stableId
  let freshIndex := indexCpuIds (onlineCpuIds fresh)
  let gone := s.owners.toList.filterMap fun (job,owned) =>
    let gone := owned.result.gpuIds.filter fun id => !freshIds.contains id
    if gone.isEmpty then none else some (job,gone)
  let cores := s.owners.toList.filterMap fun (job,owned) =>
    if owned.result.cpuIds.any fun cpu => !freshIndex.contains cpu then some (job,[]) else none
  (gone ++ cores).mergeSort fun a b => a.1 ≤ b.1

/-- Rebuilds the capacity when every held device is still there, and else leaves it as it is. -/
def updateCapacity (fresh : ResourceSet) (s : NodeAllocation) : NodeAllocation × CapacityChange :=
  let lost := s.lostDevices fresh
  if lost ≠ [] then (s,.allocatedDevicesLost lost)
  else
    let rebuilt := { s with
      cpuIds := onlineCpuIds fresh
      cpuIndex := indexCpuIds (onlineCpuIds fresh)
      unavailable := ∅
      gpus := fresh.gpus }
    ({ rebuilt with
        allocatedCpus := s.owners.toList.foldl (fun bits entry => entry.2.result.cpuIds.foldl (rebuilt.setCpu true) bits)
          (List.replicate (onlineCpuIds fresh).length false)
        gpuAllocated := s.owners.toList.foldl (fun bits entry => entry.2.result.gpuIds.foldl (rebuilt.setGpu true) bits)
          (List.replicate fresh.gpus.length false) },.applied)

def renamedId (renamed : Table Nat Nat) (id : Nat) : Nat := (renamed[id]?).getD id

def renameGpus (renamed : Table Nat Nat) (s : NodeAllocation) : NodeAllocation :=
  { s with
    gpus := s.gpus.map fun gpu => { gpu with stableId := renamedId renamed gpu.stableId }
    owners := s.owners.map fun _ owned =>
      { owned with result := { owned.result with gpuIds := owned.result.gpuIds.map (renamedId renamed) } } }

def release (alloc : AllocationResult) (s : NodeAllocation) : NodeAllocation :=
  { s with
    allocatedCpus := (alloc.cpuIds.filter fun cpu => decide (cpu ∉ s.unavailable)).foldl (s.setCpu false) s.allocatedCpus
    allocatedMemoryMb := s.allocatedMemoryMb - alloc.memoryMb
    gpuAllocated := alloc.gpuIds.foldl (s.setGpu false) s.gpuAllocated }

def releaseJob (jobId : JobId) (s : NodeAllocation) : NodeAllocation × Bool :=
  let s := { s with launching := s.launching.erase jobId }
  match s.owners[jobId]? with
  | none => (s,false)
  | some owned => (({ s with owners := s.owners.erase jobId }).release owned.result,true)

def releaseJobIf (jobId : JobId) (runAttempt : Nat) (s : NodeAllocation) : NodeAllocation × Bool :=
  if (s.owners[jobId]?).any fun owned => owned.runAttempt == runAttempt then s.releaseJob jobId else (s,false)

def ownerGpuIdsAny (jobId : JobId) (s : NodeAllocation) : List Nat :=
  ((s.owners[jobId]?).map fun owned => owned.result.gpuIds).getD []

/-- The positions of the requested GPUs, each known, free for the caller and named once. -/
def claimGpus (s : NodeAllocation) (barred : Nat → Nat → Bool) : List Nat → List Nat → Except AllocError (List Nat)
  | [], indices => .ok indices
  | id :: ids, indices =>
    match s.gpuPosition id with
    | none => .error .gpusUnknown
    | some idx =>
      if barred idx id || indices.contains idx then .error .gpusUnavailable
      else s.claimGpus barred ids (indices ++ [idx])

def record (jobId : JobId) (runAttempt : Nat) (result : AllocationResult) (indices : List Nat) (s : NodeAllocation) :
    NodeAllocation :=
  { s with
    allocatedMemoryMb := (s.allocatedMemoryMb + result.memoryMb) % 2 ^ 64
    gpuAllocated := indices.foldl (fun bits idx => bits.set idx true) s.gpuAllocated
    owners := s.owners.insert jobId ⟨runAttempt,result⟩ }

def allocateForJob (now : Time) (jobId : JobId) (runAttempt cpus memoryMb : Nat) (gpuDeviceIds : List Nat)
    (s : NodeAllocation) : NodeAllocation × Except AllocError AllocationResult :=
  if s.launching.contains jobId then (s,.error .duplicateJob)
  else if (s.owners[jobId]?).any fun existing => existing.runAttempt > runAttempt then (s,.error .superseded)
  else
    let ownedBefore := s.ownerGpuIdsAny jobId
    let s := (s.releaseJob jobId).1
    match s.claimGpus (fun idx id => s.gpuAllocated.getD idx false ||
        (decide (id ∈ s.fenced) && !ownedBefore.contains id)) gpuDeviceIds [] with
    | .error error => (s,.error error)
    | .ok indices =>
      let (cpuIds,bits) := Bitmap.takeFree s.cpuIds s.allocatedCpus cpus
      let result := ⟨cpuIds,gpuDeviceIds,memoryMb⟩
      let s := ({ s with allocatedCpus := bits }).record jobId runAttempt result indices
      ({ s with launching := s.launching.insert jobId now },.ok result)

def cpuIsClaimable (held : List Nat) (s : NodeAllocation) (cpu : Nat) : Bool :=
  ((s.cpuIndex[cpu]?).bind fun pos => s.allocatedCpus[pos]?).any fun taken => !taken || held.contains cpu

/-- The allocation of an adopted job, committed outright. A refused replay changes nothing. -/
def restoreForJob (jobId : JobId) (runAttempt : Nat) (cpuIds : List Nat) (memoryMb : Nat) (gpuDeviceIds : List Nat)
    (s : NodeAllocation) : NodeAllocation × Except AllocError AllocationResult :=
  if (s.owners[jobId]?).any fun existing => existing.runAttempt > runAttempt then (s,.error .superseded)
  else
    let heldCpus := ((s.owners[jobId]?).map fun owned => owned.result.cpuIds).getD []
    let heldGpus := s.ownerGpuIdsAny jobId
    if cpuIds.any fun cpu => !s.cpuIsClaimable heldCpus cpu then (s,.error .cpusUnavailable)
    else match s.claimGpus (fun idx id => s.gpuAllocated.getD idx false && !heldGpus.contains id) gpuDeviceIds [] with
      | .error error => (s,.error error)
      | .ok indices =>
        let s := (s.releaseJob jobId).1
        let result := ⟨cpuIds,gpuDeviceIds,memoryMb⟩
        (({ s with allocatedCpus := cpuIds.foldl (s.setCpu true) s.allocatedCpus }).record jobId runAttempt result indices,
          .ok result)

/-- Whether this attempt still owns the reservation, which is then no longer being launched. -/
def commitJob (jobId : JobId) (runAttempt : Nat) (s : NodeAllocation) : NodeAllocation × Bool :=
  if (s.owners[jobId]?).any fun owned => owned.runAttempt == runAttempt then
    ({ s with launching := s.launching.erase jobId },true)
  else (s,false)

def orphaned (env : Env) (live : Finset JobId) (launchingTtl : Duration) (s : NodeAllocation) : List JobId :=
  (env.visit s.owners.keys).filter fun id =>
    if id ∈ live then false
    else match s.launching[id]? with
      | some reservedAt => decide (launchingTtl ≤ max (env.now - reservedAt) 0)
      | none => true

def reconcile (env : Env) (live : Finset JobId) (launchingTtl : Duration) (s : NodeAllocation) :
    NodeAllocation × List JobId :=
  let orphaned := s.orphaned env live launchingTtl
  (orphaned.foldl (fun s id => (s.releaseJob id).1) s,orphaned)

end NodeAllocation

inductive LedgerCall where
  | allocateForJob (jobId : JobId) (runAttempt cpus memoryMb : Nat) (gpuDeviceIds : List Nat)
  | restoreForJob (jobId : JobId) (runAttempt : Nat) (cpuIds : List Nat) (memoryMb : Nat) (gpuDeviceIds : List Nat)
  | commitJob (jobId : JobId) (runAttempt : Nat)
  | releaseJob (jobId : JobId)
  | releaseJobIf (jobId : JobId) (runAttempt : Nat)
  | reconcile (live : Finset JobId) (launchingTtl : Duration)
  | updateCapacity (fresh : ResourceSet)
  | renameGpus (renamed : Table Nat Nat)
  | markCpusUnavailable (cpus : List Nat)
  | setSpecExclusions (specCpus : List Nat)
  | setFenced (ids : Finset Nat)

inductive LedgerAnswer where
  | done
  | flag (answer : Bool)
  | granted (answer : Except AllocError AllocationResult)
  | reclaimed (jobIds : List JobId)
  | capacity (change : CapacityChange)

namespace NodeAllocation

def perform (s : NodeAllocation) (entry : Env × LedgerCall) : NodeAllocation × LedgerAnswer :=
  match entry.2 with
  | .allocateForJob jobId runAttempt cpus memoryMb gpuDeviceIds =>
    (s.allocateForJob entry.1.now jobId runAttempt cpus memoryMb gpuDeviceIds).map id .granted
  | .restoreForJob jobId runAttempt cpuIds memoryMb gpuDeviceIds =>
    (s.restoreForJob jobId runAttempt cpuIds memoryMb gpuDeviceIds).map id .granted
  | .commitJob jobId runAttempt => (s.commitJob jobId runAttempt).map id .flag
  | .releaseJob jobId => (s.releaseJob jobId).map id .flag
  | .releaseJobIf jobId runAttempt => (s.releaseJobIf jobId runAttempt).map id .flag
  | .reconcile live launchingTtl => (s.reconcile entry.1 live launchingTtl).map id .reclaimed
  | .updateCapacity fresh => (s.updateCapacity fresh).map id .capacity
  | .renameGpus renamed => (s.renameGpus renamed,.done)
  | .markCpusUnavailable cpus => (s.markCpusUnavailable cpus,.done)
  | .setSpecExclusions specCpus => (s.setSpecExclusions specCpus,.done)
  | .setFenced ids => (s.setFenced ids,.done)

def step (s : NodeAllocation) (entry : Env × LedgerCall) : NodeAllocation := (s.perform entry).1

end NodeAllocation

end Spur.Ledger
