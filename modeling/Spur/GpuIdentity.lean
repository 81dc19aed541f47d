import Spur.Node

/-! Which silicon a GPU id names, from `spur_core::gpu_identity`, and the renaming of ids in charges and bindings. -/
namespace Spur
open Spur.Library

namespace GpuIdentity

def anchor (id : Nat) : Nat := id / 256 * 256

def rank (id : Nat) : Nat := id % 256

def function (id : Nat) : Nat := id / 256 % 8

def deviceAnchor (id : Nat) : Nat := id / 2048 * 2048

def legacyNormalized (old : Nat) (anchors : List Nat) : Option Nat :=
  let f := function old
  let base := deviceAnchor old
  if f ≠ 0 ∧ rank old = 0 ∧ base ≠ 0 ∧ ¬anchor old ∈ anchors ∧ base ∈ anchors then some (base + f) else none

def ranksOn (ids : List Nat) (gpu : Nat) : Finset Nat := ((ids.filter fun id => anchor id = gpu).map rank).toFinset

structure LayoutDiff where
  renamed : Table Nat Nat
  repartitioned : List Nat

def diffLayout (old new : List Nat) : LayoutDiff :=
  let anchors := new.map anchor
  let normalized := old.map fun id => (id,(legacyNormalized id anchors).getD id)
  let before := normalized.map Prod.snd
  { renamed := Std.ExtTreeMap.ofList (normalized.filter fun entry => entry.1 ≠ entry.2)
    repartitioned := (before.map anchor).filter fun gpu =>
      gpu ≠ 0 ∧ gpu ∈ anchors ∧ ranksOn new gpu ≠ ranksOn before gpu }

def LayoutDiff.safeRenames (diff : LayoutDiff) : Table Nat Nat :=
  diff.renamed.filter fun _ target => !diff.repartitioned.contains (anchor target)

end GpuIdentity

def renameId (renamed : Table Nat Nat) (id : Nat) : Nat := (renamed[id]?).getD id

def GpuBinding.renameGpus (renamed : Table Nat Nat) (binding : GpuBinding) : GpuBinding :=
  { binding with gpus := binding.gpus.map fun gpu => { gpu with stableId := renameId renamed gpu.stableId } }

def declaredEndpoint (node : String) (stableId : Nat) : String := node ++ "/" ++ toString stableId

namespace FabricBinding

private def renameEndpoint (renamed : Table Nat Nat) (binding : FabricBinding) (endpoint : String) : String :=
  if binding.fileRevision.isSome then
    match renamed.toList.find? fun entry => declaredEndpoint binding.node entry.1 = endpoint with
    | some entry => declaredEndpoint binding.node entry.2
    | none => endpoint
  else endpoint

def renameGpus (renamed : Table Nat Nat) (binding : FabricBinding) : FabricBinding :=
  { binding with
    members := binding.members.map fun member =>
      { member with
        device := { member.device with stableId := renameId renamed member.device.stableId }
        endpoint := binding.renameEndpoint renamed member.endpoint }
    activeEndpoints := binding.activeEndpoints.map (binding.renameEndpoint renamed) }

end FabricBinding

def renameDevices (renamed : Table Nat Nat) (devices : List AllocatedDevice) : List AllocatedDevice :=
  devices.map fun dev => { dev with deviceId := renameId renamed dev.deviceId }

def renameGpuIds (renamed : Table Nat Nat) (alloc : ResourceAllocations) : ResourceAllocations :=
  { alloc with
    devices := alloc.devices.modify "gpu" (renameDevices renamed)
    gpuBinding := alloc.gpuBinding.map (GpuBinding.renameGpus renamed)
    fabricBinding := alloc.fabricBinding.map (FabricBinding.renameGpus renamed) }

def remapJobGpuAllocations (nodeName : String) (renamed : Table Nat Nat) (jobs : Table JobId Job) : Table JobId Job :=
  if renamed.isEmpty then jobs
  else jobs.map fun _ job =>
    if job.state.isTerminal then job
    else { job with perNodeAlloc := job.perNodeAlloc.modify nodeName (renameGpuIds renamed) }

def remapNodeGpuAllocations (renamed : Table Nat Nat) (node : Node) : Node :=
  if renamed.isEmpty then node
  else { node with allocResources := renameGpuIds renamed node.allocResources }.updateStateFromAlloc

end Spur
