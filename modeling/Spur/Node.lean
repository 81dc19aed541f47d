import Spur.Job
import Spur.CoreLayout

/-! Nodes and their state machine, from `spur_core::node`. -/
namespace Spur
open Spur.Library

inductive NodeState where
  | idle | allocated | mixed | down | drain | draining | error | unknown | suspended
  deriving DecidableEq

inductive NodeEvent where
  | register | heartbeatTimeout | heartbeatRecovered | adminSetState (target : NodeState) | powerSuspend | powerResume
  deriving DecidableEq

namespace NodeState

def transition (adminLocked : Bool) : NodeState → NodeEvent → Option NodeState
  | unknown,.register => some idle
  | _,.register => none
  | down,.heartbeatTimeout | drain,.heartbeatTimeout => none
  | _,.heartbeatTimeout => some down
  | down,.heartbeatRecovered | error,.heartbeatRecovered => if adminLocked then none else some idle
  | _,.heartbeatRecovered => none
  | _,.powerSuspend => some suspended
  | suspended,.powerResume => some idle
  | _,.powerResume => none
  | _,.adminSetState target => some target

def isAdminHold : NodeState → Bool
  | down | drain | draining | error | suspended => true
  | _ => false

def isAvailable : NodeState → Bool
  | idle | mixed => true
  | _ => false

def isUp : NodeState → Bool
  | idle | mixed | allocated => true
  | _ => false

end NodeState

inductive NodeSource where
  | nativeHost
  | kubernetes (namespace_ : String)
  deriving DecidableEq

inductive K0sRole where
  | controller | worker | single
  deriving DecidableEq

def k8sOperatorVersion : String := "spur-k8s-operator"

def k8sNamespaceLabel : String := "spur.amd.com/k8s-namespace"

def nodeSourceFromRegistration (version : String) (labels : Table String String) : NodeSource :=
  if version = k8sOperatorVersion then
    .kubernetes (((labels[k8sNamespaceLabel]?).filter (· ≠ "")).getD "default")
  else .nativeHost

def resolveWalNodeSource (source : NodeSource) (version : String) (labels : Table String String) : NodeSource :=
  if source = .nativeHost then nodeSourceFromRegistration version labels else source

structure Node where
  name : String
  hostname : String := ""
  state : NodeState := .unknown
  stateReason : Option String := none
  reasonUid : Option Nat := none
  reasonTime : Option Time := none
  adminLocked : Bool := false
  partitions : List String := []
  source : NodeSource := .nativeHost
  totalResources : ResourceSet
  detectedResources : ResourceSet
  allocResources : ResourceAllocations := {}
  features : List String := []
  labels : Table String String := ∅
  arch : String := ""
  os : String := ""
  cpuLoad : Nat := 0
  freeMemoryMb : Nat := 0
  bootTime : Option Time := none
  lastBusy : Option Time := none
  agentStartTime : Option Time := none
  lastHeartbeat : Option Time := none
  address : Option String := none
  port : Nat := 6818
  wgPubkey : Option String := none
  version : Option String := none
  weight : Nat := 1
  switchName : Option String := none
  k0sRole : Option K0sRole := none
  k0sMeshIp : Option String := none
  k0sPodCidr : Option String := none
  k0sLastError : Option String := none
  coreLayout : Option CoreLayout := none
  layoutError : Option LayoutError := none
  specMemoryMb : Nat := 0
  layoutSeq : Nat := 0
  layoutEnforceError : Option String := none
  capabilities : List String := []

namespace Node

def new (name : String) (resources : ResourceSet) : Node where
  name := name
  totalResources := resources
  detectedResources := resources

def resetConfigPolicy (node : Node) : Node := { node with features := [], weight := 1 }

def stateFromAlloc (node : Node) : NodeState :=
  let free := node.allocResources.cpus = 0 ∧ node.allocResources.hasDevices = false
  if node.state = .draining then if free then .drain else .draining
  else if node.state.isAdminHold then node.state
  else if free then .idle
  else if node.allocResources.cpus ≥ node.totalResources.cpus then .allocated
  else .mixed

def updateStateFromAlloc (node : Node) : Node := { node with state := node.stateFromAlloc }

def charge (node : Node) (slice : ResourceAllocations) : Node :=
  { node with allocResources := node.allocResources.add slice }.updateStateFromAlloc

def release (node : Node) (slice : ResourceAllocations) : Node :=
  { node with allocResources := node.allocResources.subtract slice }.updateStateFromAlloc

end Node
end Spur
