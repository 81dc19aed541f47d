import Spur.Wal
import Spur.Library.Text

/-! What a job asks of each of its nodes, from `spur_core::gpu_request` and `step`. Fixed-width products wrap. -/
namespace Spur
open Spur.Library Spur.Library.Text List

def TaskDistribution.parse (text : String) : TaskDistribution :=
  let lower := String.ofList (text.toList.map toAsciiLower)
  if lower = "cyclic" then cyclic
  else if lower = "plane" then plane
  else if lower = "arbitrary" then arbitrary
  else block

namespace Sched

def wrap32 (n : Nat) : Nat := n % 2 ^ 32

def wrap64 (n : Nat) : Nat := n % 2 ^ 64

def parseGres (gres : String) : Option (String × Option String × Nat) :=
  let text := trim gres.toList
  if text.isEmpty then none
  else match text.splitOn ':' with
    | [name] => some (String.ofList name,none,1)
    | [name,second] => match parseUnsigned (2 ^ 32) second with
      | some count => some (String.ofList name,none,count)
      | none => some (String.ofList name,some (String.ofList second),1)
    | [name,kind,count] =>
      (parseUnsigned (2 ^ 32) count).map fun count => (String.ofList name,some (String.ofList kind),count)
    | _ => none

def distributeTasks (numTasks numNodes : Nat) (distribution : TaskDistribution) : List Nat :=
  let numNodes := max numNodes 1
  let filled := (List.range numNodes).flatMap fun node =>
    List.replicate (numTasks / numNodes + if node < numTasks % numNodes then 1 else 0) node
  let dealt := (List.range numTasks).map fun task => task % numNodes
  match distribution with
  | .block | .plane => filled
  | .cyclic | .arbitrary => dealt

def tasksPerNodeCounts (spec : JobSpec) (numNodes : Nat) : List Nat :=
  match spec.tasksPerNode with
  | some tasks => List.replicate numNodes tasks
  | none =>
    let distribution := spec.distribution.elim .block TaskDistribution.parse
    (distributeTasks spec.numTasks numNodes distribution).foldl
      (fun counts node => counts.modify node (· + 1)) (List.replicate numNodes 0)

inductive GpuDemand where
  | none
  | perNode (counts : List Nat) (gpuType : Option String)
  | total (count : Nat) (gpuType : Option String)
  deriving DecidableEq

namespace GpuDemand

def sum : GpuDemand → Nat
  | none => 0
  | perNode counts _ => counts.sum
  | total count _ => count

def gpuType : GpuDemand → Option String
  | none => .none
  | perNode _ kind | total _ kind => kind

def isNone : GpuDemand → Bool
  | none => true
  | _ => false

def homogeneousPerNode : GpuDemand → Option Nat
  | none => some 0
  | perNode counts _ => let first := counts.headD 0; if counts.all (· == first) then some first else .none
  | total .. => .none

end GpuDemand

inductive GpuRequestError where
  | conflict
  | conflictingGresTypes
  | totalLessThanNodes (total nodes : Nat)
  | perTaskNeedsTasks
  deriving DecidableEq

/-- The per-node GPU count of the gres terms, summed, and the one type they may name. -/
def gresGpu (spec : JobSpec) : Except GpuRequestError (Option (Nat × Option String)) := do
  let (count,gpuType) ← spec.gres.foldlM (fun (count,gpuType) gres =>
    match parseGres gres with
    | some ("gpu",kind,n) => match kind,gpuType with
      | none,_ => .ok (wrap32 (count + n),gpuType)
      | some kind,none => .ok (wrap32 (count + n),some kind)
      | some kind,some existing =>
        if existing = kind then .ok (wrap32 (count + n),gpuType) else .error .conflictingGresTypes
    | _ => .ok (count,gpuType)) ((0 : Nat),(none : Option String))
  .ok (if count > 0 then some (count,gpuType) else none)

def resolveGpuDemandFor (spec : JobSpec) (numNodes : Nat) : Except GpuRequestError GpuDemand := do
  let numNodes := max numNodes 1
  let gres ← gresGpu spec
  let explicit := ([spec.gpus,spec.gpusPerNode,spec.gpusPerTask].filter Option.isSome).length
  if explicit > 1 ∨ (explicit = 1 ∧ gres.isSome) then .error .conflict
  else match spec.gpus,spec.gpusPerNode,spec.gpusPerTask,gres with
    | some req,_,_,_ =>
      if req.count = 0 then .ok .none
      else if req.count < numNodes then .error (.totalLessThanNodes req.count numNodes)
      else .ok (.total req.count req.gpuType)
    | none,some req,_,_ =>
      if req.count = 0 then .ok .none
      else .ok (.perNode (List.replicate numNodes req.count) req.gpuType)
    | none,none,some req,_ =>
      if req.count = 0 then .ok .none
      else if spec.numTasks = 0 then .error .perTaskNeedsTasks
      else .ok (.perNode ((tasksPerNodeCounts spec numNodes).map fun tasks => wrap32 (tasks * req.count)) req.gpuType)
    | none,none,none,some (count,gpuType) => .ok (.perNode (List.replicate numNodes count) gpuType)
    | none,none,none,none => .ok .none

def resolveGpuDemand (spec : JobSpec) : Except GpuRequestError GpuDemand :=
  resolveGpuDemandFor spec spec.numNodes

def demandOf (spec : JobSpec) : GpuDemand := (resolveGpuDemand spec).toOption.getD .none

def distributeFrom : Nat → List Nat → List Nat
  | _, [] => []
  | remaining, cap :: caps =>
    let take := min cap (remaining - caps.length)
    take :: distributeFrom (remaining - take) caps

/-- Greedy split of a total over nodes of descending free capacity; every later node keeps one GPU. -/
def distributeTotal (total : Nat) (caps : List Nat) : Option (List Nat) :=
  if caps.isEmpty ∨ total < caps.length then none
  else if caps.contains 0 then none
  else if caps.sum < total then none
  else some (distributeFrom total caps)

/-- Each subtraction of the loop takes away no more than there is. -/
def NeverUnderflows : Nat → List Nat → Prop
  | _, [] => True
  | remaining, cap :: caps => caps.length ≤ remaining ∧ min cap (remaining - caps.length) ≤ remaining ∧
    NeverUnderflows (remaining - min cap (remaining - caps.length)) caps

-- What remains is enough for one GPU on every node ahead, and not more than the nodes ahead hold.
theorem distributeFrom_shares {remaining : Nat} {caps : List Nat} (stocked : ∀ cap ∈ caps, 1 ≤ cap)
    (enough : caps.length ≤ remaining) (room : remaining ≤ caps.sum) :
    List.Forall₂ (fun share cap => 1 ≤ share ∧ share ≤ cap) (distributeFrom remaining caps) caps ∧
      (distributeFrom remaining caps).sum = remaining ∧ NeverUnderflows remaining caps := by
  induction caps generalizing remaining with
  | nil => exact ⟨.nil,(Nat.le_zero.mp room).symm,trivial⟩
  | cons cap caps ih =>
    obtain ⟨one,others⟩ := forall_mem_cons.mp stocked
    rw [length_cons] at enough
    rw [sum_cons] at room
    have tail : caps.length ≤ caps.sum := length_le_sum_of_one_le caps others
    obtain ⟨shares,sum,exact_⟩ := @ih (remaining - min cap (remaining - caps.length)) others (by omega) (by omega)
    refine ⟨.cons ⟨by omega,Nat.min_le_left _ _⟩ shares,?_,by omega,by omega,exact_⟩
    change min cap _ + (distributeFrom _ caps).sum = remaining
    omega

theorem distributeTotal_some {total : Nat} {caps shares : List Nat} : distributeTotal total caps = some shares ↔
    (caps ≠ [] ∧ (∀ cap ∈ caps, 1 ≤ cap) ∧ caps.length ≤ total ∧ total ≤ caps.sum) ∧ distributeFrom total caps = shares := by
  have positive : 0 ∉ caps ↔ ∀ cap ∈ caps, 1 ≤ cap :=
    ⟨fun absent cap inside => Nat.one_le_iff_ne_zero.mpr fun zero => absent (zero ▸ inside),
      fun stocked inside => Nat.not_succ_le_zero 0 (stocked 0 inside)⟩
  unfold distributeTotal
  simp only [Option.ite_none_left_eq_some,Option.some.injEq,List.isEmpty_iff,contains_iff_mem,not_or,not_lt]
  tauto

/-- A total is split exactly when it gives each node one GPU and no node more than it has free. -/
theorem distributeTotal_splits (total : Nat) (caps : List Nat) : ((distributeTotal total caps).isSome ↔
      caps ≠ [] ∧ (∀ cap ∈ caps, 1 ≤ cap) ∧ caps.length ≤ total ∧ total ≤ caps.sum) ∧
    ∀ shares, distributeTotal total caps = some shares →
      List.Forall₂ (fun share cap => 1 ≤ share ∧ share ≤ cap) shares caps ∧ shares.sum = total ∧
        NeverUnderflows total caps := by
  refine ⟨?_,fun shares split => ?_⟩
  · simp only [Option.isSome_iff_exists,distributeTotal_some,exists_and_left,exists_eq',and_true]
  · obtain ⟨⟨-,stocked,enough,room⟩,rfl⟩ := distributeTotal_some.mp split
    exact distributeFrom_shares stocked enough room

theorem distributeTotal_splits_unsorted : distributeTotal 8 [1,5,2,1] = some [1,5,1,1] ∧ [1,5,1,1].sum = 8 :=
  ⟨by decide,((distributeTotal_splits 8 [1,5,2,1]).2 [1,5,1,1] (by decide)).2.1⟩

def baseCpus (spec : JobSpec) : Nat :=
  max (match spec.tasksPerNode with
    | some tasks => wrap32 (tasks * spec.cpusPerTask)
    | none => wrap32 (spec.numTasks / max spec.numNodes 1 * spec.cpusPerTask)) 1

/-- The count-only resources of the gres terms; GPUs and licenses are accounted elsewhere. -/
def genericRequest (gres : List String) : Table String Nat :=
  gres.foldl (fun generic term => match parseGres term with
    | none => generic
    | some (name,kind,count) =>
      if name = "gpu" ∨ name = "license" then generic
      else
        let key := match kind with
          | some kind => name ++ ":" ++ kind
          | none => name
        generic.insert key (wrap64 ((generic[key]?).getD 0 + count))) ∅

def baseNodeRequest (spec : JobSpec) : ResourceSet where
  cpus := baseCpus spec
  memoryMb := (spec.memoryPerNodeMb.or (spec.memoryPerCpuMb.map fun mb => wrap64 (mb * baseCpus spec))).getD 0
  generic := genericRequest spec.gres

def placeholderGpus (count : Nat) (gpuType : Option String) : List GpuResource :=
  (List.range count).map fun i =>
    { deviceId := i, gpuType := gpuType.getD "any", memoryMb := 0, peerGpus := [], linkType := .pcie,
      stableId := 0, topology := none }

def cpuPerNodeCounts (spec : JobSpec) : List Nat :=
  (tasksPerNodeCounts spec (max spec.numNodes 1)).map fun tasks => max (wrap32 (tasks * max spec.cpusPerTask 1)) 1

def cpuIsHeterogeneous (spec : JobSpec) : Bool :=
  !spec.exclusive && (cpuPerNodeCounts spec).min? != (cpuPerNodeCounts spec).max?

/-- The one-node request for feasibility and timing: uneven demand counts one GPU per node. -/
def jobResourceRequest (spec : JobSpec) : ResourceSet :=
  let demand := demandOf spec
  { baseNodeRequest spec with gpus := placeholderGpus (demand.homogeneousPerNode.getD 1) demand.gpuType }

def unlimitedJobDuration : Duration := Duration.seconds (365 * 24 * 60 * 60)

def jobDuration (spec : JobSpec) : Duration := spec.timeLimit.getD unlimitedJobDuration

end Sched
end Spur
