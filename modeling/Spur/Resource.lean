import Spur.Library.Table

/-! Node inventories and the allocations charged against them, from `spur_core::resource` and
`spur_devices::topology`. Counters saturate. -/
namespace Spur
open Spur.Library

def u32Max : Nat := 2 ^ 32 - 1

def u64Max : Nat := 2 ^ 64 - 1

inductive GpuLinkType where
  | pcie | xgmi | nvlink
  deriving DecidableEq

inductive ObservationStatus where
  | unknown | consistent | incomplete | inconsistent | unavailable
  deriving DecidableEq

inductive ObservationIssueKind where
  | unknown | missing | unreadable | malformed | tooLarge | conflict | changed | unavailable | peerConflict
  deriving DecidableEq

structure ObservationIssue where
  field : String
  kind : ObservationIssueKind
  deriving DecidableEq

structure FabricObservation where
  source : String := ""
  status : ObservationStatus := .unknown
  physicalDomainId : Option String := none
  fabricDomainId : Option String := none
  endpointId : Option String := none
  physicalCapacity : Option Nat := none
  fabricCapacity : Option Nat := none
  activeEndpoints : List String := []
  localEndpoints : List String := []
  endpointState : Option String := none
  transport : Option String := none
  issues : List ObservationIssue := []
  deriving DecidableEq

structure DeviceTopology where
  pciBdf : Option String := none
  numaNode : Option Nat := none
  pciRoot : Option String := none
  vramBytes : Option Nat := none
  fabric : Option FabricObservation := none
  deriving DecidableEq

structure GpuResource where
  deviceId : Nat
  gpuType : String
  memoryMb : Nat
  peerGpus : List Nat
  linkType : GpuLinkType
  stableId : Nat
  topology : Option DeviceTopology
  deriving DecidableEq

/-- One physical core: all of its online hyperthreads. -/
structure CoreInfo where
  socket : Nat
  numaNode : Option Nat
  cpus : List Nat
  deriving DecidableEq

structure CpuTopology where
  cores : List CoreInfo
  deriving DecidableEq

/-- A set of compute resources: a node's inventory, or a count-based request. -/
structure ResourceSet where
  cpus : Nat := 0
  memoryMb : Nat := 0
  gpus : List GpuResource := []
  generic : Table String Nat := ∅
  generation : Nat := 0
  fabricBindingVersion : Nat := 0
  blockFileRevision : Option String := none
  topology : Option CpuTopology := none
  deriving DecidableEq

structure FabricBlockKey where
  namespace_ : String
  physicalDomain : String
  fabricDomain : String
  deriving DecidableEq

structure FabricDeviceKey where
  node : String
  stableId : Nat
  deriving DecidableEq

structure FabricMember where
  device : FabricDeviceKey
  endpoint : String
  inventoryGeneration : Nat
  deriving DecidableEq

structure FabricBinding where
  version : Nat
  node : String
  inventoryGeneration : Nat
  key : FabricBlockKey
  activeEndpoints : List String
  members : List FabricMember
  fileRevision : Option String
  deriving DecidableEq

structure BoundGpu where
  stableId : Nat
  gpuType : String
  topology : Option DeviceTopology
  deriving DecidableEq

structure GpuBinding where
  node : String
  generation : Nat
  gpus : List BoundGpu
  deriving DecidableEq

structure AllocatedDevice where
  deviceId : Nat
  count : Nat
  deriving DecidableEq

structure ResourceAllocations where
  cpus : Nat := 0
  memoryMb : Nat := 0
  devices : Table String (List AllocatedDevice) := ∅
  generation : Nat := 0
  fabricBinding : Option FabricBinding := none
  gpuBinding : Option GpuBinding := none
  deriving DecidableEq

namespace AllocatedDevice

def injectable (deviceId : Nat) : AllocatedDevice := ⟨deviceId,1⟩

end AllocatedDevice

namespace ResourceAllocations

def withScalar (cpus memoryMb : Nat) : ResourceAllocations := { cpus, memoryMb }

def devicesOf (alloc : ResourceAllocations) (gresName : String) : List AllocatedDevice :=
  (alloc.devices[gresName]?).getD []

def hasDevices (alloc : ResourceAllocations) : Bool :=
  alloc.devices.toList.any fun entry => !entry.2.isEmpty

def deviceIds (alloc : ResourceAllocations) (gresName : String) : List Nat :=
  (alloc.devicesOf gresName).map AllocatedDevice.deviceId

/-- Count one device into a list: the first entry with its id grows, else it is appended. -/
def addDevice : List AllocatedDevice → AllocatedDevice → List AllocatedDevice
  | [], dev => [dev]
  | entry :: entries, dev =>
    if entry.deviceId = dev.deviceId then { entry with count := min (entry.count + dev.count) u64Max } :: entries
    else entry :: addDevice entries dev

/-- Take one device out of a list: only the first entry with its id shrinks. -/
def subtractDevice : List AllocatedDevice → AllocatedDevice → List AllocatedDevice
  | [], _ => []
  | entry :: entries, dev =>
    if entry.deviceId = dev.deviceId then { entry with count := entry.count - dev.count } :: entries
    else entry :: subtractDevice entries dev

def addDevices (old : Option (List AllocatedDevice)) (devices : List AllocatedDevice) :
    Option (List AllocatedDevice) :=
  some (devices.foldl addDevice (old.getD []))

def subtractDevices (old : Option (List AllocatedDevice)) (devices : List AllocatedDevice) :
    Option (List AllocatedDevice) :=
  old.bind fun entry =>
    let left := (devices.foldl subtractDevice entry).filter fun dev => dev.count > 0
    if left.isEmpty then none else some left

def add (alloc other : ResourceAllocations) : ResourceAllocations :=
  { alloc with
    cpus := min (alloc.cpus + other.cpus) u32Max
    memoryMb := min (alloc.memoryMb + other.memoryMb) u64Max
    devices := Table.mergeOver addDevices other.devices.toList alloc.devices }

def subtract (alloc other : ResourceAllocations) : ResourceAllocations :=
  { alloc with
    cpus := alloc.cpus - other.cpus
    memoryMb := alloc.memoryMb - other.memoryMb
    devices := Table.mergeOver subtractDevices other.devices.toList alloc.devices }

end ResourceAllocations

namespace ResourceSet

/-- Inventories that predate stable ids take the positional id. -/
def backfillStableIds (set : ResourceSet) : ResourceSet :=
  { set with gpus := set.gpus.map fun gpu =>
      { gpu with stableId := if gpu.stableId = 0 then gpu.deviceId else gpu.stableId } }

def clamped (detected : ResourceSet) (cpusCap memoryCapMb reservedMemoryMb specCpus : Nat) : ResourceSet :=
  let usable := detected.cpus - specCpus
  let memCap := if memoryCapMb > 0 then memoryCapMb else detected.memoryMb
  { detected with
    cpus := if cpusCap > 0 then min usable cpusCap else usable
    memoryMb := min memCap (detected.memoryMb - reservedMemoryMb)
    topology := none }

end ResourceSet
end Spur
