import Spur.Cluster.Agreement
import Spur.Library.Run

/-! Two replicas over one log: what they agree on, and where each goes its own way. -/
namespace Spur
open Spur.Library Spur.Cluster Spur.Library.Run

def Job.undated (job : Job) : Job := job.redate 0 none

def Node.unheard (node : Node) : Node := node.beat none

namespace Cluster

/-- A preempt-cancel is dated by its proposer: `propose` does not stamp it. -/
def Dated : WalOperation → Prop
  | .jobPreemptCancel entry => entry.at_.isSome = true
  | _ => True

/-- What the log holds: an entry as its proposer builds it, with the leader's stamp. -/
def Committed (op : WalOperation) : Prop :=
  ∃ (now : Time) (proposed : WalOperation), Emitted proposed ∧ Dated proposed ∧ op = proposed.stampOccurredAt now

/-- An inventory report renames the GPU ids charged to its node apart. -/
def KeepsApart (s : State) : WalOperation → Prop
  | .nodeUpdate entry => ∀ node : Node, s.nodes[entry.name]? = some node → RenamesApart node entry.resources
  | _ => True

theorem step_alike {config : Config} {env other : Env} {s t : State} {op : WalOperation} (alike : Alike s t)
    (committed : Committed op) (apart : KeepsApart s op) :
    Alike (step config s (env,op)) (step config t (other,op)) := by
  obtain ⟨now,proposed,emitted,dated,rfl⟩ := committed
  cases proposed with
  | jobSubmit jobId spec => exact jobSubmit_alike env other alike
  | jobStateChange entry => exact jobStateChange_alike env other _ alike emitted
  | jobStart entry => exact jobStart_alike alike _
  | jobComplete entry => exact jobComplete_alike env other _ alike
  | jobNodeComplete entry => exact jobNodeComplete_alike env other _ alike
  | jobTimeLimitSignaled jobId at_ => exact jobTimeLimitSignaled_alike alike
  | jobCancelSignaled jobId at_ cancel => exact jobCancelSignaled_alike env other alike
  | jobStepComplete jobId stepId exitCode => exact jobStepComplete_alike _ alike
  | jobStepCreate step => exact jobStepCreate_alike alike
  | jobPriorityChange entry => exact jobPriorityChange_alike alike
  | jobExcludeUpdate jobId exclude => exact jobExcludeUpdate_alike alike
  | jobDispatchBackoff entry => exact jobDispatchBackoff_alike alike
  | jobPreemptRequeue entry => exact jobPreemptRequeue_alike env other _ alike
  | jobPreemptCancel entry => exact jobPreemptCancel_alike env other _ alike dated
  | jobUserRequeue entry => exact jobUserRequeue_alike env other _ alike
  | jobSuspend entry => exact jobSuspend_alike env other alike
  | jobResume jobId at_ => exact jobResume_alike env other alike
  | jobEvict jobId detail at_ => exact jobEvict_alike env other _ alike
  | jobLaunchFailureDetail jobId detail => exact alike.modify jobId fun _ _ _ => rfl
  | nodeRegister entry => exact nodeRegister_alike env other alike
  | nodeUpdate entry => exact nodeUpdate_alike env other alike apart
  | nodeStateChange entry => exact nodeStateChange_alike env other _ alike
  | nodeLabelsUpdate name set remove =>
    exact ⟨alike.jobs,alike.nodes.modify name fun _ _ twin =>
      relabelledNode_twin alike.settings.1 twin,alike.settings⟩
  | nodeRemove name reason at_ => exact nodeRemove_alike env other _ alike
  | partitionCreate partition => exact partitionCreate_alike alike
  | partitionUpdate name patch => exact partitionUpdate_alike alike
  | partitionDelete name => exact partitionDelete_alike alike
  | reservationCreate reservation => exact reservationCreate_alike alike
  | reservationUpdate entry =>
    exact ⟨alike.jobs,alike.nodes,alike.settings.1,alike.settings.2.1,congrArg (updateReservations entry) alike.settings.2.2⟩
  | reservationDelete name => exact reservationDelete_alike alike
  | nodeK0sAssign entry => exact alike.modifyNode (fun _ => rfl) fun _ _ => rfl
  | nodeK0sClear name => exact alike.modifyNode (fun _ => rfl) fun _ _ => rfl
  | evictTerminalJobs jobIds => exact evictTerminalJobs_alike alike
  | nodeK0sSetError name error => exact alike.modifyNode (fun _ => rfl) fun _ _ => rfl
  | jobTimeLimitExpired jobId runAttempt at_ => exact jobTimeLimitExpired_alike env other alike
  | jobPreemptSignaled jobId pending => exact jobPreemptSignaled_alike alike
  -- The tokens and the k0s state are read by no entry that writes a job or a node.
  | tokenCreate _ | tokenRevoke _ | k0sSetPhase _ | k0sMemberNodesAdd _ | k0sMemberNodesRemove _ =>
    exact ⟨alike.jobs,alike.nodes,alike.settings⟩

/-- An entry of the log, with the surroundings in which each of two replicas applies it. -/
structure Delivery where
  op : WalOperation
  first : Env
  second : Env

def firstLog (log : List Delivery) : List (Env × WalOperation) := log.map fun entry => (entry.first,entry.op)

def secondLog (log : List Delivery) : List (Env × WalOperation) := log.map fun entry => (entry.second,entry.op)

theorem run_alike {config : Config} {s t : State} (alike : Alike s t) {log : List Delivery}
    (committed : ∀ entry ∈ log, Committed entry.op)
    (apart : Along (step config) (fun s entry => KeepsApart s entry.2) s (firstLog log)) :
    Alike (run config s (firstLog log)) (run config t (secondLog log)) := by
  induction log generalizing s t with
  | nil => exact alike
  | cons entry log ih =>
    refine ih ?_ (fun later member => committed later (List.mem_cons_of_mem _ member)) apart.2
    exact step_alike alike (committed entry List.mem_cons_self) apart.1

theorem Alike.refl {s : State} (clean : Clean s.nodes) : Alike s s := by
  refine ⟨fun jobId => ?_,fun name => ?_,rfl,rfl,rfl⟩
  · cases s.jobs[jobId]? with
    | none => exact .none
    | some job => exact .some ⟨job.submitTime,job.hetJobId,rfl⟩
  · cases found : s.nodes[name]? with
    | none => exact .none
    | some node => exact .some ⟨clean name node found,node.lastHeartbeat,rfl⟩

/-- Two replicas that start alike and apply one committed log reach the same job and node tables, up to
the submit times and anchors they give to jobs and the heartbeats they heard from nodes. -/
theorem replicas_agree (config : Config) (s : State) (clean : Clean s.nodes) (log : List Delivery)
    (committed : ∀ entry ∈ log, Committed entry.op)
    (apart : Along (step config) (fun s entry => KeepsApart s entry.2) s (firstLog log)) :
    (run config s (firstLog log)).jobs.map (fun _ job => job.undated) =
        (run config s (secondLog log)).jobs.map (fun _ job => job.undated) ∧
      (run config s (firstLog log)).nodes.map (fun _ node => node.unheard) =
        (run config s (secondLog log)).nodes.map (fun _ node => node.unheard) := by
  have alike := run_alike (Alike.refl clean) committed apart
  refine ⟨alike.jobs.map_eq ?_,alike.nodes.map_eq ?_⟩
  · rintro job _ ⟨submitted,anchor,rfl⟩
    rfl
  · rintro node _ ⟨_,heartbeat,rfl⟩
    rfl

section

def Env.reversed (now : Time) : Env where
  now := now
  visit := List.reverse
  visit_perm := fun entries => entries.reverse_perm

def delivered (proposals : List WalOperation) : List Delivery :=
  proposals.map fun op => ⟨op.stampOccurredAt 5,.ordered 10,.reversed 20⟩

instance : DecidablePred Dated := fun op => by
  apply @WalOperation.casesOn (fun op => Decidable (Dated op)) op <;> intros <;> dsimp only [Dated] <;> infer_instance

theorem delivered_committed {proposals : List WalOperation} (proposed : ∀ op ∈ proposals, Emitted op ∧ Dated op) :
    ∀ entry ∈ delivered proposals, Committed entry.op := by
  intro entry member
  obtain ⟨op,inside,rfl⟩ := List.mem_map.mp member
  exact ⟨5,op,(proposed op inside).1,(proposed op inside).2,rfl⟩

private theorem fresh_clean {config : Config} : Clean (State.fresh config).nodes := fun _ _ found => by cases found

def gpuSlice (deviceId count : Nat) : ResourceAllocations :=
  { cpus := 1, devices := (∅ : Table String (List AllocatedDevice)).insert "gpu" [⟨deviceId,count⟩] }

def startOn (jobId : JobId) (slice : ResourceAllocations) : WalOperation :=
  .jobStart { jobId, nodes := ["n1"], resources := slice, runAttempt := 1,
              perNodeAlloc := (∅ : Table String ResourceAllocations).insert "n1" slice }

def activate (jobId : JobId) : WalOperation :=
  .jobStateChange { jobId, oldState := .pending, newState := .running, expectedRunAttempt := some 1 }

def lose : WalOperation := .nodeStateChange { name := "n1", oldState := .mixed, newState := .down, reason := none }

def inventory (gpus : List Nat) : ResourceSet :=
  { cpus := 8, gpus := gpus.map fun id => ⟨id,"mi300x",196608,[],.pcie,id,none⟩ }

def lostNode : List WalOperation :=
  [.nodeRegister { name := "n1", resources := inventory [2048,2049], address := "n1" },.jobSubmit 1 {},.jobSubmit 2 {},
    startOn 1 (gpuSlice 2048 1),startOn 2 (gpuSlice 2049 1),activate 1,activate 2,lose]

theorem replicas_agree_lost_node : Clean (State.fresh {}).nodes ∧ (∀ entry ∈ delivered lostNode, Committed entry.op) ∧
      Along (step {}) (fun s entry => KeepsApart s entry.2) (.fresh {}) (firstLog (delivered lostNode)) ∧
      (run {} (.fresh {}) (firstLog (delivered lostNode))).jobs.map (fun _ job => job.undated) =
        (run {} (.fresh {}) (secondLog (delivered lostNode))).jobs.map (fun _ job => job.undated) ∧
      (run {} (.fresh {}) (firstLog (delivered lostNode))).nodes.map (fun _ node => node.unheard) =
        (run {} (.fresh {}) (secondLog (delivered lostNode))).nodes.map (fun _ node => node.unheard) := by
  have committed := delivered_committed (show ∀ op ∈ lostNode, Emitted op ∧ Dated op by decide)
  have apart : Along (step {}) (fun s entry => KeepsApart s entry.2) (.fresh {}) (firstLog (delivered lostNode)) :=
    ⟨trivial,trivial,trivial,trivial,trivial,trivial,trivial,trivial,trivial⟩
  exact ⟨fresh_clean,committed,apart,replicas_agree {} _ fresh_clean _ committed apart⟩

def hetGroups : List WalOperation :=
  [.jobSubmit 1 { name := "het", hetGroup := some 0 },.jobSubmit 2 { name := "het", hetGroup := some 0 },
    .jobSubmit 3 { name := "het", hetGroup := some 1 }]

def mergedIds : List WalOperation :=
  let report (gpus : List Nat) : WalOperation :=
    .nodeUpdate { name := "n1", resources := inventory gpus, address := "n1", port := 6818, wgPubkey := "", version := "" }
  [.nodeRegister { name := "n1", resources := inventory [2048,2049], address := "n1" },.jobSubmit 1 {},.jobSubmit 2 {},
    startOn 1 (gpuSlice 2049 1),report [2048,2304],startOn 2 (gpuSlice 2304 3),report [2048,2049],activate 1,activate 2,
    lose]

/-- Two replicas part on the heartbeat of a node, the submit time of a job, the anchor of a heterogeneous
job, and on the charge of a node whose report merged two GPU ids, which their evictions release in
different orders. -/
theorem replicas_part : (∀ log ∈ [lostNode,hetGroups,mergedIds], ∀ entry ∈ delivered log, Committed entry.op) ∧
      ((run {} (.fresh {}) (firstLog (delivered (lostNode.take 1)))).nodes["n1"]?).map Node.lastHeartbeat ≠
        ((run {} (.fresh {}) (secondLog (delivered (lostNode.take 1)))).nodes["n1"]?).map Node.lastHeartbeat ∧
      ((run {} (.fresh {}) (firstLog (delivered hetGroups))).jobs[1]?).map Job.submitTime ≠
        ((run {} (.fresh {}) (secondLog (delivered hetGroups))).jobs[1]?).map Job.submitTime ∧
      ((run {} (.fresh {}) (firstLog (delivered hetGroups))).jobs[3]?).map Job.hetJobId ≠
        ((run {} (.fresh {}) (secondLog (delivered hetGroups))).jobs[3]?).map Job.hetJobId ∧
      ((run {} (.fresh {}) (firstLog (delivered mergedIds))).nodes["n1"]?).map Node.allocResources ≠
        ((run {} (.fresh {}) (secondLog (delivered mergedIds))).nodes["n1"]?).map Node.allocResources := by
  refine ⟨?_,by decide +kernel,by decide +kernel,by decide +kernel,by decide +kernel⟩
  intro log member
  refine delivered_committed ?_
  revert log
  decide

end

end Cluster
end Spur
