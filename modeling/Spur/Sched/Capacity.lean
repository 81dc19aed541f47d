import Spur.Charge

/-! The capacity check and the allocation built for a request, from `spur_core::resource`. -/
namespace Spur
open Spur.Library

namespace ResourceAllocations

def totalDeviceCount (alloc : ResourceAllocations) (gresName : String) : Nat :=
  ((alloc.devicesOf gresName).map AllocatedDevice.count).sum

def isEmpty (alloc : ResourceAllocations) : Bool :=
  alloc.cpus == 0 && alloc.memoryMb == 0 && alloc.devices.isEmpty

def pushDevices (alloc : ResourceAllocations) (gresName : String) (devices : List AllocatedDevice) :
    ResourceAllocations :=
  { alloc with devices := alloc.devices.insert gresName (alloc.devicesOf gresName ++ devices) }

end ResourceAllocations

namespace ResourceSet

def gpuCounts (set : ResourceSet) : Table String Nat :=
  set.gpus.foldl (fun counts gpu => counts.insert gpu.gpuType ((counts[gpu.gpuType]?).getD 0 + 1)) ∅

def findGpu (set : ResourceSet) (stableId : Nat) : Option GpuResource :=
  set.gpus.find? fun gpu => gpu.stableId == stableId

/-- An allocated id the inventory lost may be reported under another id now. -/
def holdsUnknownGpu (set : ResourceSet) (allocated : ResourceAllocations) : Bool :=
  (allocated.deviceIds "gpu").any fun id => !set.gpus.any fun gpu => gpu.stableId == id

/-- GPUs left per type: each allocated device of the inventory takes its count, cut to 32 bits. -/
def availGpus (set : ResourceSet) (allocated : ResourceAllocations) : Table String Nat :=
  (allocated.devicesOf "gpu").foldl (fun avail dev => match set.findGpu dev.deviceId with
    | some gpu => avail.insert gpu.gpuType ((avail[gpu.gpuType]?).getD 0 - dev.count % 2 ^ 32)
    | none => avail) set.gpuCounts

def gpuCountFits (set : ResourceSet) (allocated : ResourceAllocations) (gpuType : String) (count : Nat) : Bool :=
  if gpuType = "any" then
    count ≤ (set.gpuCounts.toList.map Prod.snd).sum - allocated.totalDeviceCount "gpu" % 2 ^ 32
  else count ≤ ((set.availGpus allocated)[gpuType]?).getD 0

def canSatisfyWithAllocated (set : ResourceSet) (allocated : ResourceAllocations) (request : ResourceSet) : Bool :=
  decide (request.cpus ≤ set.cpus - allocated.cpus) &&
  decide (request.memoryMb ≤ set.memoryMb - allocated.memoryMb) &&
  (request.gpus.isEmpty || !set.holdsUnknownGpu allocated) &&
  request.gpuCounts.toList.all (fun entry => set.gpuCountFits allocated entry.1 entry.2) &&
  request.generic.toList.all fun entry =>
    decide (entry.2 ≤ (set.generic[entry.1]?).getD 0 - allocated.totalDeviceCount entry.1)

def canSatisfy (set request : ResourceSet) : Bool := set.canSatisfyWithAllocated {} request

def availableGpuIds (set : ResourceSet) (allocated : ResourceAllocations) (gpuType : Option String) : List Nat :=
  if set.holdsUnknownGpu allocated then []
  else (set.gpus.filter fun gpu =>
    !(allocated.deviceIds "gpu").contains gpu.stableId &&
      (gpuType == none || gpuType == some "any" || gpuType == some gpu.gpuType)).map GpuResource.stableId

def pickGpus (set : ResourceSet) (allocated : ResourceAllocations) (gpuType : Option String) (count : Nat) :
    List AllocatedDevice :=
  ((set.availableGpuIds allocated gpuType).take count).map AllocatedDevice.injectable

end ResourceSet

def pushGeneric (generic : List (String × Nat)) (alloc : ResourceAllocations) : ResourceAllocations :=
  generic.foldl (fun alloc entry =>
    if entry.2 > 0 then alloc.pushDevices entry.1 [⟨0,entry.2⟩] else alloc) alloc

/-- Pick GPUs type by type; what one type took is not offered to the next. -/
def pushGpus (inventory : ResourceSet) (current : ResourceAllocations) (wanted : List (String × Nat))
    (alloc : ResourceAllocations) : ResourceAllocations :=
  wanted.foldl (fun alloc entry =>
    let gpuType := if entry.1 = "any" then none else some entry.1
    alloc.pushDevices "gpu" (inventory.pickGpus (current.add alloc) gpuType entry.2)) alloc

def buildNodeAllocation (inventory : ResourceSet) (current : ResourceAllocations) (request : ResourceSet) :
    ResourceAllocations :=
  let scalar : ResourceAllocations :=
    { cpus := request.cpus, memoryMb := request.memoryMb, generation := inventory.generation }
  pushGeneric request.generic.toList (pushGpus inventory current request.gpuCounts.toList scalar)

/-- The whole node for an exclusive job, with only the memory it asked for. -/
def buildExclusiveAllocation (inventory : ResourceSet) (memoryMb : Nat) : ResourceAllocations :=
  let scalar : ResourceAllocations :=
    { cpus := inventory.cpus, memoryMb, generation := inventory.generation }
  let whole := if inventory.gpus.isEmpty then scalar
    else scalar.pushDevices "gpu" (inventory.gpus.map fun gpu => AllocatedDevice.injectable gpu.stableId)
  pushGeneric inventory.generic.toList whole

end Spur
