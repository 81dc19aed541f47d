import Spur.Cluster.Placement
import Spur.Cluster.Twin

/-! Two replicas that apply one log reach the same jobs and nodes, up to what each dates for itself. -/
namespace Spur
open Spur.Library Spur.Cluster List Option Table ResourceAllocations

def Job.Twin (job other : Job) : Prop := ∃ submitted anchor, other = job.redate submitted anchor

def Node.beat (heartbeat : Option Time) (node : Node) : Node := { node with lastHeartbeat := heartbeat }

def Node.Twin (node other : Node) : Prop :=
  node.allocResources.Distinct ∧ ∃ heartbeat, other = node.beat heartbeat

variable {slice : ResourceAllocations} {config : Config} {jobId : JobId} {name nodeName : String} {skip : List String}
  {at_ clock : Time} {partitions : List Partition} {entry : Wal.NodeRegister} {job : Job} {p : Job → Bool}
  {jobIds : List JobId}

namespace Node.Twin

variable {node other : Node}

theorem of_beat {f g : Node → Node} (twin : node.Twin other) (charge : (f node).allocResources = node.allocResources)
    (beats : ∀ heartbeat, ∃ later, g (node.beat heartbeat) = (f node).beat later) : (f node).Twin (g other) := by
  obtain ⟨distinct,heartbeat,rfl⟩ := twin
  exact ⟨charge ▸ distinct,beats heartbeat⟩

theorem charge (twin : node.Twin other) : (node.charge slice).Twin (other.charge slice) := by
  obtain ⟨distinct,heartbeat,rfl⟩ := twin
  exact ⟨distinct_add distinct,heartbeat,rfl⟩

theorem release (twin : node.Twin other) : (node.release slice).Twin (other.release slice) := by
  obtain ⟨distinct,heartbeat,rfl⟩ := twin
  exact ⟨distinct_subtract distinct,heartbeat,rfl⟩

end Node.Twin

namespace Cluster

section

variable (heartbeat : Option Time) (node : Node)

private theorem deriveCoreLayout_beat (nc : Option NodeConfig) :
    deriveCoreLayout nc (node.beat heartbeat) = (deriveCoreLayout nc node).beat heartbeat := by
  have source : (node.beat heartbeat).source = node.source := rfl
  have detected : (node.beat heartbeat).detectedResources = node.detectedResources := rfl
  unfold deriveCoreLayout
  cases nc with
  | none => rfl
  | some nc =>
    rw [source,detected]
    cases node.source with
    | kubernetes _ => rfl
    | nativeHost =>
      dsimp only
      cases CoreLayout.compute _ _ _ <;> rfl

private theorem recomputeCoreLayout_beat {nc : Option NodeConfig} :
    recomputeCoreLayout nc (node.beat heartbeat) = (recomputeCoreLayout nc node).beat heartbeat := by
  unfold recomputeCoreLayout
  rw [deriveCoreLayout_beat]
  have layout (node : Node) : (node.beat heartbeat).coreLayout = node.coreLayout := rfl
  dsimp only
  rw [layout,layout]
  split <;> rfl

theorem applyNodeConfigPolicy_beat :
    applyNodeConfigPolicy config (node.beat heartbeat) = (applyNodeConfigPolicy config node).beat heartbeat := by
  have policy (nc : Option NodeConfig) :
      applyNodePolicy nc (node.beat heartbeat) = (applyNodePolicy nc node).beat heartbeat := by
    cases nc with
    | none =>
      exact recomputeCoreLayout_beat heartbeat { node with totalResources := node.detectedResources }.resetConfigPolicy
    | some nc =>
      have layout : recomputeCoreLayout _ { node.beat heartbeat with features := nc.features, weight := nc.weight } =
          (recomputeCoreLayout (some nc) _).beat heartbeat :=
        recomputeCoreLayout_beat heartbeat { node with features := nc.features, weight := nc.weight }
      unfold applyNodePolicy
      dsimp only
      rw [layout]
      rfl
  have matching : (config.nodes.find? fun nc => nodeConfigMatches nc (node.beat heartbeat).name (node.beat heartbeat).labels) =
    config.nodes.find? fun nc => nodeConfigMatches nc node.name node.labels := rfl
  unfold applyNodeConfigPolicy
  dsimp only
  rw [matching,policy]
  generalize applyNodePolicy _ node = next
  have state : (next.beat heartbeat).state = next.state := rfl
  rw [state]
  split <;> rfl

end

section

variable {node other : Node}

theorem applyNodeConfigPolicy_twin (twin : node.Twin other) :
    (applyNodeConfigPolicy config node).Twin (applyNodeConfigPolicy config other) :=
  twin.of_beat applyNodeConfigPolicy_charge.2 fun heartbeat =>
    ⟨heartbeat,applyNodeConfigPolicy_beat heartbeat node⟩

theorem reconcileNode_twin (twin : node.Twin other) :
    (reconcileNode config partitions node).Twin (reconcileNode config partitions other) := by
  obtain ⟨distinct,heartbeat,rfl⟩ := twin
  exact applyNodeConfigPolicy_twin ⟨distinct,heartbeat,rfl⟩

theorem stateChangedNode_twin (entry : Wal.NodeStateChange) (twin : node.Twin other) :
    (stateChangedNode entry node).Twin (stateChangedNode entry other) := by
  refine twin.of_beat (stateChangedNode_charge entry node).2 fun heartbeat => ?_
  unfold stateChangedNode
  by_cases down : entry.newState = .down
  · refine ⟨none,?_⟩
    dsimp only
    rw [if_pos down]
    cases (entry.newState.isUp || entry.newState == .draining) <;> rfl
  · refine ⟨heartbeat,?_⟩
    dsimp only
    rw [if_neg down]
    cases (entry.newState.isUp || entry.newState == .draining) <;> rfl

theorem relabelledNode_twin {s t : State} (partitions : s.partitions = t.partitions)
    {set : Table String String} {remove : List String} (twin : node.Twin other) :
    (relabelledNode config s set remove node).Twin (relabelledNode config t set remove other) := by
  obtain ⟨distinct,heartbeat,rfl⟩ := twin
  unfold relabelledNode
  rw [← partitions]
  exact applyNodeConfigPolicy_twin ⟨distinct,heartbeat,rfl⟩

theorem registeredNode_twin {env clock : Env} {s t : State} (partitions : s.partitions = t.partitions) :
    (registeredNode config env s entry).Twin (registeredNode config clock t entry) := by
  have charge := (@registeredNode_charge config env s entry).2
  refine ⟨?_,some clock.now,?_⟩
  · rw [charge]
    exact fun _ => nodup_nil
  · unfold registeredNode
    rw [partitions]
    rfl

theorem updatedNode_twin (config : Config) (env clock : Env) {entry : Wal.NodeUpdate} (twin : node.Twin other)
    (apart : RenamesApart node entry.resources) :
    (updatedNode config env entry node).Twin (updatedNode config clock entry other) := by
  obtain ⟨distinct,heartbeat,rfl⟩ := twin
  have charge := (@updatedNode_charge config env entry node).2
  refine ⟨?_,some clock.now,?_⟩
  · rw [charge]
    split
    · exact distinct
    · exact distinct_rename _ distinct apart
  · have renames : renamesFor (node.beat heartbeat) entry.resources = renamesFor node _ := rfl
    have remapped : remapNodeGpuAllocations (renamesFor node entry.resources) (node.beat heartbeat) =
        (remapNodeGpuAllocations (renamesFor node entry.resources) node).beat heartbeat := by
      unfold remapNodeGpuAllocations
      split <;> rfl
    unfold updatedNode
    rw [renames,remapped,← applyNodeConfigPolicy_beat]
    rfl

end

variable {nodes others : Table String Node}

section

def Clean (nodes : Table String Node) : Prop :=
  ∀ (name : String) (node : Node), nodes[name]? = some node → node.allocResources.Distinct

private def releaseStep (skip : List String) (slice : String → ResourceAllocations) (nodes : Table String Node)
    (name : String) : Table String Node :=
  if skip.contains name then nodes else nodes.modify name fun node => node.release (slice name)

private theorem releaseStep_clean {slice : String → ResourceAllocations}
    (nodes : Table String Node) (name : String) (clean : Clean nodes) : Clean (releaseStep skip slice nodes name) := by
  unfold releaseStep
  split
  · exact clean
  intro other node stored
  rw [find_modify] at stored
  split at stored
  · obtain ⟨before,found,rfl⟩ := map_eq_some_iff.mp stored
    exact distinct_subtract (clean other before found)
  · exact clean other node stored

private theorem releaseStep_comm {drop : List String} {slice share : String → ResourceAllocations}
    {nodes : Table String Node} {first second : String} (clean : Clean nodes) :
    releaseStep drop share (releaseStep skip slice nodes first) second =
      releaseStep skip slice (releaseStep drop share nodes second) first := by
  unfold releaseStep
  split_ifs
  · rfl
  · rfl
  · rfl
  · exact modify_comm fun node _ found => Node.release_comm (clean first node found)

theorem releaseJob_clean {nodes : Table String Node} (clean : Clean nodes) : Clean (releaseJob job skip nodes) := by
  unfold releaseJob deallocateJobSlices
  split
  · exact clean
  next total _ => exact foldl_inv releaseStep_clean clean

theorem releaseJob_comm {first second : Job} {drop : List String} {nodes : Table String Node} (clean : Clean nodes) :
    releaseJob second drop (releaseJob first skip nodes) = releaseJob first skip (releaseJob second drop nodes) := by
  unfold releaseJob deallocateJobSlices
  split
  · rfl
  split
  · rfl
  next whole _ =>
    exact foldl_foldl_comm releaseStep_clean releaseStep_clean (fun nodes a b clean => releaseStep_comm clean) clean

theorem releaseJob_twin (twins : Table.Related Node.Twin nodes others) :
    Table.Related Node.Twin (releaseJob job skip nodes) (releaseJob job skip others) := by
  unfold releaseJob deallocateJobSlices
  split
  · exact twins
  generalize job.allocatedNodes.length = count
  induction job.allocatedNodes generalizing nodes others with
  | nil => exact twins
  | cons name names ih =>
    rw [foldl_cons,foldl_cons]
    refine ih ?_
    by_cases skipped : skip.contains name = true
    · rw [if_pos skipped,if_pos skipped]
      exact twins
    · rw [if_neg skipped,if_neg skipped]
      exact twins.modify name fun _ _ twin => twin.release

theorem clean_of_twins (twins : Table.Related Node.Twin nodes others) : Clean others := by
  intro name node stored
  obtain ⟨_,_,distinct,_,rfl⟩ := twins.comesFrom stored
  exact distinct

theorem allocateJobSlices_twin {entry : Wal.JobStart} (twins : Table.Related Node.Twin nodes others) :
    Table.Related Node.Twin (allocateJobSlices entry nodes) (allocateJobSlices entry others) := by
  unfold allocateJobSlices
  generalize entry.nodes.length = count
  induction entry.nodes generalizing nodes others with
  | nil => exact twins
  | cons name names ih => exact ih (twins.modify name fun _ _ twin => twin.charge)

theorem releaseReported_twin (twins : Table.Related Node.Twin nodes others) :
    Table.Related Node.Twin (releaseReported job nodeName nodes) (releaseReported job nodeName others) := by
  unfold releaseReported
  split
  · exact twins
  · split
    · exact twins
    · exact twins.modify nodeName fun _ _ twin => twin.release

end

variable {jobs twins : Table JobId Job}

theorem remapJobGpuAllocations_twin {renamed : Table Nat Nat} (related : Table.Related Job.Twin jobs twins) :
    Table.Related Job.Twin (remapJobGpuAllocations nodeName renamed jobs)
      (remapJobGpuAllocations nodeName renamed twins) := by
  unfold remapJobGpuAllocations
  split
  · exact related
  refine related.map ?_
  rintro _ job _ ⟨submitted,anchor,rfl⟩
  refine ⟨submitted,anchor,?_⟩
  rw [Job.state_redate]
  split <;> rfl

section

private def Eviction.tables (eviction : Eviction) : Table JobId Job × Table String Node := (eviction.jobs,eviction.nodes)

private def evictedJob (env : Env) (timestamp : Time) (reason : PendingReason) (failure : Option NodeFailure)
    (job : Job) : Job :=
  (evictRun env timestamp reason failure job).getD (job.endSuspension timestamp)

private def freeEvicted (env : Env) (timestamp : Time) (reason : PendingReason) (failure : Option NodeFailure)
    (job : Job) (nodes : Table String Node) : Table String Node :=
  if (evictRun env timestamp reason failure job).isSome then releaseJob job job.nodeCompletions.keys nodes else nodes

private def strandedJob (job : Job) : Job := job.clearRunStateForRequeue.setPendingReason .nodeDown

private theorem evictJob_sweep {env : Env} {timestamp : Time} {reason : PendingReason} {failure : Option NodeFailure}
    (eviction : Eviction) (jobId : JobId) :
    (evictJobLocked env timestamp reason failure eviction jobId).tables =
      Table.sweep (evictedJob env timestamp reason failure) (freeEvicted env timestamp reason failure) eviction.tables
        jobId := by
  unfold Table.sweep evictJobLocked Eviction.tables
  cases found : eviction.jobs[jobId]? with
  | none =>
    rw [modify_of_absent found]
    rfl
  | some job =>
    rw [modify_of_find found]
    dsimp only [elim_some]
    unfold evictedJob freeEvicted
    cases evictRun env timestamp reason failure job <;> rfl

private theorem strandJob_sweep (eviction : Eviction) (jobId : JobId) : (strandJob eviction jobId).tables =
      Table.sweep strandedJob (fun job nodes => releaseJob job [] nodes) eviction.tables jobId := by
  unfold Table.sweep strandJob Eviction.tables
  cases found : eviction.jobs[jobId]? with
  | none =>
    rw [modify_of_absent found]
    rfl
  | some job =>
    rw [modify_of_find found]
    rfl

theorem jobsWhere_perm (env other : Env) (related : Table.Related Job.Twin jobs twins)
    (blind : ∀ (job : Job) submitted anchor, p (job.redate submitted anchor) = p job) :
    (jobsWhere env p jobs).Perm (jobsWhere other p twins) := by
  rw [perm_ext_iff_of_nodup nodup_jobsWhere nodup_jobsWhere]
  intro jobId
  rw [mem_jobsWhere,mem_jobsWhere]
  rcases related.both with ⟨missing,absent⟩ | ⟨job,twin,found,stored,submitted,anchor,rfl⟩
  · rw [missing,absent]
  · rw [found,stored]
    simp [blind]

private theorem sweeps_alike {f g : Eviction → JobId → Eviction} {change change' : Job → Job}
    {act act' : Job → Table String Node → Table String Node}
    (first : ∀ eviction jobId, (f eviction jobId).tables = Table.sweep change act eviction.tables jobId)
    (second : ∀ eviction jobId, (g eviction jobId).tables = Table.sweep change' act' eviction.tables jobId)
    (changed : ∀ job twin, job.Twin twin → (change job).Twin (change' twin))
    (acted : ∀ job twin nodes others, job.Twin twin → Table.Related Node.Twin nodes others →
      Table.Related Node.Twin (act job nodes) (act' twin others))
    (kept : ∀ job nodes, Clean nodes → Clean (act' job nodes))
    (swap : ∀ first second nodes, Clean nodes → act' second (act' first nodes) = act' first (act' second nodes))
    {others : List JobId} (perm : jobIds.Perm others) {eviction twin : Eviction}
    (jobs : Table.Related Job.Twin eviction.jobs twin.jobs) (nodes : Table.Related Node.Twin eviction.nodes twin.nodes) :
    Table.Related Job.Twin (jobIds.foldl f eviction).jobs (others.foldl g twin).jobs ∧
      Table.Related Node.Twin (jobIds.foldl f eviction).nodes (others.foldl g twin).nodes := by
  have swept := foldl_sweep_related changed acted jobIds
    (show Table.Related _ eviction.tables.1 twin.tables.1 from jobs) nodes
  rw [foldl_sweep_perm kept swap perm (clean_of_twins nodes),
    foldl_hom _ fun eviction jobId => (first eviction jobId).symm,
    foldl_hom _ fun eviction jobId => (second eviction jobId).symm] at swept
  exact swept

private theorem evictJobs_alike (env other : Env) (timestamp : Time) (reason : PendingReason)
    (failure : Option NodeFailure) {jobIds others : List JobId} (perm : jobIds.Perm others)
    {eviction twin : Eviction} (jobs : Table.Related Job.Twin eviction.jobs twin.jobs)
    (nodes : Table.Related Node.Twin eviction.nodes twin.nodes) :
    Table.Related Job.Twin (jobIds.foldl (evictJobLocked env timestamp reason failure) eviction).jobs
        (others.foldl (evictJobLocked other timestamp reason failure) twin).jobs ∧
      Table.Related Node.Twin (jobIds.foldl (evictJobLocked env timestamp reason failure) eviction).nodes
        (others.foldl (evictJobLocked other timestamp reason failure) twin).nodes := by
  refine sweeps_alike evictJob_sweep evictJob_sweep ?_ ?_ ?_ ?_ perm jobs nodes
  · rintro job _ ⟨submitted,anchor,rfl⟩
    refine ⟨submitted,anchor,?_⟩
    unfold evictedJob
    rw [evictRun_redate submitted anchor job env]
    cases evictRun env timestamp reason failure job <;> rfl
  · rintro job _ nodes others ⟨submitted,anchor,rfl⟩ twins
    unfold freeEvicted
    rw [evictRun_redate submitted anchor job env,isSome_map]
    split
    · exact releaseJob_twin twins
    · exact twins
  · intro job nodes clean
    unfold freeEvicted
    split
    · exact releaseJob_clean clean
    · exact clean
  · intro first second nodes clean
    unfold freeEvicted
    split_ifs
    · exact releaseJob_comm clean
    all_goals rfl

private theorem strandJobs_alike {others : List JobId} (perm : jobIds.Perm others) {eviction twin : Eviction}
    (jobs : Table.Related Job.Twin eviction.jobs twin.jobs)
    (nodes : Table.Related Node.Twin eviction.nodes twin.nodes) :
    Table.Related Job.Twin (jobIds.foldl strandJob eviction).jobs (others.foldl strandJob twin).jobs ∧
      Table.Related Node.Twin (jobIds.foldl strandJob eviction).nodes (others.foldl strandJob twin).nodes := by
  refine sweeps_alike strandJob_sweep strandJob_sweep ?_ ?_ (fun job nodes => releaseJob_clean)
    (fun first second nodes => releaseJob_comm) perm jobs nodes
  · rintro job _ ⟨submitted,anchor,rfl⟩
    exact ⟨submitted,anchor,rfl⟩
  · rintro job _ nodes others ⟨submitted,anchor,rfl⟩ twins
    exact releaseJob_twin twins

theorem evictJobsOnNode_alike (env other : Env) (timestamp : Time) (nodeName : String) (failure : NodeFailure)
    (related : Table.Related Job.Twin jobs twins)
    (charged : Table.Related Node.Twin nodes others) :
    Table.Related Job.Twin (evictJobsOnNode env timestamp nodeName failure jobs nodes).jobs
        (evictJobsOnNode other timestamp nodeName failure twins others).jobs ∧
      Table.Related Node.Twin (evictJobsOnNode env timestamp nodeName failure jobs nodes).nodes
        (evictJobsOnNode other timestamp nodeName failure twins others).nodes := by
  obtain ⟨evicted,freed⟩ := @evictJobs_alike env other timestamp _ _ _ _
    (jobsWhere_perm (p := fun job => job.state.isActive && job.isHeldOn nodeName) env other related fun _ _ _ => rfl)
    { jobs, nodes } { jobs := twins, nodes := others } related charged
  exact strandJobs_alike (jobsWhere_perm env other evicted fun _ _ _ => rfl) evicted freed

end

def SameSettings (s t : State) : Prop :=
  s.partitions = t.partitions ∧ s.configSeededPartitions = t.configSeededPartitions ∧ s.reservations = t.reservations

/-- Two replicas of one state: they agree on what an apply reads to write the job and node tables. -/
structure Alike (s t : State) : Prop where
  jobs : Table.Related Job.Twin s.jobs t.jobs
  nodes : Table.Related Node.Twin s.nodes t.nodes
  settings : SameSettings s t

section

variable {s t : State} (env other : Env) (timestamp : Time) (alike : Alike s t)

include alike

theorem Alike.atJob {first second : Job → State × ClientResponse}
    (found : ∀ (job : Job) submitted anchor, s.jobs[jobId]? = some job →
      Alike (first job).1 (second (job.redate submitted anchor)).1) :
    Alike (match s.jobs[jobId]? with | none => (s,({} : ClientResponse)) | some job => first job).1
      (match t.jobs[jobId]? with | none => (t,({} : ClientResponse)) | some job => second job).1 := by
  rcases alike.jobs.both with ⟨missing,absent⟩ | ⟨job,_,stored,twin,submitted,anchor,rfl⟩
  · rw [missing,absent]
    exact alike
  · rw [stored,twin]
    exact found job submitted anchor stored

theorem Alike.any (blind : ∀ (job : Job) submitted anchor, p (job.redate submitted anchor) = p job) :
    (t.jobs[jobId]?).any p = (s.jobs[jobId]?).any p := by
  rcases alike.jobs.both with ⟨missing,absent⟩ | ⟨job,_,found,stored,submitted,anchor,rfl⟩
  · rw [missing,absent]
  · rw [found,stored]
    exact blind job submitted anchor

theorem Alike.put {next after : Job} (twin : next.Twin after) :
    Alike { s with jobs := s.jobs.insert jobId next } { t with jobs := t.jobs.insert jobId after } :=
  ⟨alike.jobs.insert jobId twin,alike.nodes,alike.settings⟩

theorem jobSuspend_alike {entry : Wal.JobSuspend} :
    Alike (applyJobSuspend env s entry).1 (applyJobSuspend other t entry).1 := by
  refine alike.atJob fun job submitted anchor _ => ?_
  rw [Job.applySuspend_redate submitted anchor job _ _]
  cases job.applySuspend _ _ _ _ _ with
  | none => exact alike
  | some next => exact alike.put ⟨submitted,anchor,rfl⟩

theorem jobSubmit_alike {spec : JobSpec} :
    Alike (applyJobSubmit env s jobId spec).1 (applyJobSubmit other t jobId spec).1 :=
  ⟨alike.jobs.insert jobId ⟨other.now,if spec.hetGroup.any _ then hetAnchor other t spec else none,rfl⟩,
    alike.nodes,alike.settings⟩

theorem jobStateChange_alike {entry : Wal.JobStateChange}
    (emitted : entry.newState = .running ∨ entry.newState = .pending) :
    Alike (applyJobStateChange config env timestamp s entry).1 (applyJobStateChange config other timestamp t entry).1 := by
  refine alike.atJob fun job submitted anchor _ => ?_
  have live : entry.newState.isTerminal = false := by
    rcases emitted with running | pending
    · rw [running]; rfl
    · rw [pending]; rfl
  rw [Job.applyTransition_redate submitted anchor job live,Job.runAttempt_redate,Job.holdsAPlacement_redate]
  split
  · exact alike
  cases job.applyTransition _ _ with
  | noOp => exact alike
  | invalid => exact alike
  | applied next =>
    refine alike.put ⟨submitted,anchor,?_⟩
    rcases emitted with running | pending
    · rw [running]
      rfl
    · rw [pending]
      exact requeueByStateChange_redate submitted anchor next

theorem jobDispatchBackoff_alike {entry : Wal.JobDispatchBackoff} :
    Alike (applyJobDispatchBackoff s entry).1 (applyJobDispatchBackoff t entry).1 := by
  refine alike.atJob fun job submitted anchor _ => ?_
  rw [Job.state_redate,Job.runAttempt_redate]
  split_ifs
  · exact alike
  · exact alike
  · exact ⟨alike.jobs.insert _ ⟨submitted,anchor,backoffJob_redate submitted anchor job⟩,
      releaseJob_twin alike.nodes,alike.settings⟩

theorem jobPreemptRequeue_alike {entry : Wal.JobPreemptRequeue} :
    Alike (applyJobPreemptRequeue env timestamp s entry).1 (applyJobPreemptRequeue other timestamp t entry).1 := by
  refine alike.atJob fun job submitted anchor _ => ?_
  have targets : (job.redate submitted anchor).preemptTargetsRun entry.runAttempt = job.preemptTargetsRun _ := rfl
  rw [Job.state_redate,targets]
  split
  · exact alike
  rcases (Job.rependAfterPreemption_redate submitted anchor job env.now other.now entry.beginTime entry.preemptedBy
      entry.preemptQos timestamp).cases with ⟨next,first,second⟩ | ⟨next,record,later,first,second⟩
  · simp only [first,second]
    exact alike.put ⟨submitted,anchor,rfl⟩
  · simp only [first,second]
    exact ⟨alike.jobs.insert _ ⟨submitted,anchor,rfl⟩,releaseJob_twin alike.nodes,alike.settings⟩

theorem jobUserRequeue_alike {entry : Wal.JobUserRequeue} :
    Alike (applyJobUserRequeue env timestamp s entry).1 (applyJobUserRequeue other timestamp t entry).1 := by
  refine alike.atJob fun job submitted anchor _ => ?_
  rw [Job.state_redate]
  have requeued (job : Job) : (job.redate submitted anchor).requeueToPending =
      job.requeueToPending.map (Job.redate submitted anchor) := by
    unfold Job.requeueToPending
    rw [Job.state_redate]
    split <;> rfl
  split_ifs
  · dsimp only
    generalize stopped : ({ job with endTime := some timestamp } : Job).endSuspension timestamp = ended
    have twin : ({ job.redate submitted anchor with endTime := some timestamp } : Job).endSuspension timestamp =
        ended.redate submitted anchor := by
      rw [← stopped]
      rfl
    simp only [Job.state_redate] at twin
    rw [twin,requeued]
    cases ended.requeueToPending with
    | none => exact alike.put ⟨submitted,anchor,rfl⟩
    | some next =>
      exact ⟨alike.jobs.insert _ ⟨submitted,anchor,userRequeuedJob_redate submitted anchor next⟩,
        releaseJob_twin alike.nodes,alike.settings⟩
  · rw [requeued]
    cases job.requeueToPending with
    | none => exact alike
    | some next =>
      exact alike.put ⟨submitted,anchor,userRequeuedJob_redate submitted anchor next⟩
  · exact alike

theorem jobPreemptCancel_alike {entry : Wal.JobPreemptCancel} (dated : entry.at_.isSome = true) :
    Alike (applyJobPreemptCancel env timestamp s entry).1 (applyJobPreemptCancel other clock t entry).1 := by
  obtain ⟨at_,stamp⟩ := isSome_iff_exists.mp dated
  unfold applyJobPreemptCancel
  rw [stamp]
  refine alike.atJob fun job submitted anchor _ => ?_
  have targets : (job.redate submitted anchor).preemptTargetsRun entry.runAttempt = job.preemptTargetsRun _ := rfl
  rw [Job.state_redate,targets,Job.transition_redate submitted anchor job (.inl rfl)]
  split
  · exact alike
  cases job.transition _ _ with
  | none => exact alike
  | some victim =>
    dsimp only [map_some,getD_some]
    generalize cancelled : preemptCancelled at_ entry victim = ended
    have twin : preemptCancelled at_ entry (victim.redate submitted anchor) = ended.redate submitted anchor := by
      rw [← cancelled]
      rfl
    have finish : ended.endTime.isSome = true := by
      rw [← cancelled]
      rfl
    rw [twin,Job.allocatedNodes_redate]
    split
    · rw [Job.transition_redate submitted anchor ended (.inl rfl)]
      cases ended.transition _ _ with
      | none => exact alike.put ⟨submitted,anchor,rfl⟩
      | some next => exact alike.put ⟨submitted,anchor,rfl⟩
    · have emptied : ({ ended.redate submitted anchor with nodeCompletions := ∅ } : Job) =
        ({ ended with nodeCompletions := ∅ } : Job).redate submitted anchor := rfl
      simp only [Job.allocatedNodes_redate] at emptied
      rw [emptied,Job.transition_redate submitted anchor { ended with nodeCompletions := ∅ } (.inr finish)]
      cases ({ ended with nodeCompletions := ∅ } : Job).transition _ _ with
      | none => exact alike.put ⟨submitted,anchor,rfl⟩
      | some next =>
        exact ⟨alike.jobs.insert _ ⟨submitted,anchor,rfl⟩,releaseJob_twin alike.nodes,alike.settings⟩

theorem jobResume_alike : Alike (applyJobResume env s jobId at_).1 (applyJobResume other t jobId at_).1 := by
  refine alike.atJob fun job submitted anchor _ => ?_
  rw [Job.applyTransition_redate submitted anchor job rfl]
  cases job.applyTransition _ _ with
  | noOp => exact alike
  | invalid => exact alike
  | applied next => exact alike.put ⟨submitted,anchor,rfl⟩

theorem jobEvict_alike {detail : Option String} :
    Alike (applyJobEvict env timestamp s jobId detail).1 (applyJobEvict other timestamp t jobId detail).1 := by
  have noted : Table.Related Job.Twin (s.jobs.modify jobId fun job => { job with launchFailureDetail := detail })
      (t.jobs.modify jobId fun job => { job with launchFailureDetail := detail }) := by
    refine alike.jobs.modify jobId ?_
    rintro job _ ⟨submitted,anchor,rfl⟩
    exact ⟨submitted,anchor,rfl⟩
  obtain ⟨jobs,nodes⟩ := @evictJobs_alike env other timestamp _ none [jobId] [jobId] (.refl _)
    { jobs := _, nodes := s.nodes } { jobs := _, nodes := t.nodes } noted alike.nodes
  exact ⟨jobs,nodes,alike.settings⟩

theorem Alike.modify (jobId : JobId) {f : Job → Job}
    (blind : ∀ (job : Job) submitted anchor, f (job.redate submitted anchor) = (f job).redate submitted anchor) :
    Alike { s with jobs := s.jobs.modify jobId f } { t with jobs := t.jobs.modify jobId f } := by
  refine ⟨alike.jobs.modify jobId ?_,alike.nodes,alike.settings⟩
  rintro job _ ⟨submitted,anchor,rfl⟩
  exact ⟨submitted,anchor,blind job submitted anchor⟩

theorem jobStart_alike (entry : Wal.JobStart) : Alike (applyJobStart s entry).1 (applyJobStart t entry).1 := by
  unfold applyJobStart
  dsimp only
  rw [alike.any fun _ _ _ => rfl]
  split
  · exact alike
  · have started := alike.modify entry.jobId (f := startedJob entry) fun _ _ _ => rfl
    exact ⟨started.jobs,allocateJobSlices_twin alike.nodes,alike.settings⟩

theorem jobNodeComplete_alike {entry : Wal.JobNodeComplete} :
    Alike (applyJobNodeComplete env timestamp s entry).1 (applyJobNodeComplete other timestamp t entry).1 := by
  refine alike.atJob fun job submitted anchor _ => ?_
  rw [Job.state_redate,Job.runAttempt_redate]
  split
  · exact alike
  split
  · exact alike
  have outcome := Job.advanceAfterNodeReport_redate submitted anchor
    { job with nodeCompletions := job.nodeCompletions.insert entry.nodeName ⟨entry.exitCode,entry.signal⟩ } env other
    (job.preemptGrace.filter fun _ => job.state == .running) timestamp
  exact ⟨alike.jobs.insert _ ⟨submitted,anchor,outcome.1⟩,releaseReported_twin alike.nodes,alike.settings⟩

theorem jobTimeLimitSignaled_alike :
    Alike (applyJobTimeLimitSignaled s jobId at_).1 (applyJobTimeLimitSignaled t jobId at_).1 := by
  refine alike.modify jobId fun job submitted anchor => ?_
  have signalled : (job.redate submitted anchor).timeLimitSignaledAt = job.timeLimitSignaledAt := rfl
  rw [Job.state_redate,signalled]
  split <;> rfl

theorem jobCancelSignaled_alike {cancel : Option CancelProvenance} :
    Alike (applyJobCancelSignaled env s jobId at_ cancel).1 (applyJobCancelSignaled other t jobId at_ cancel).1 := by
  refine alike.atJob fun job submitted anchor _ => ?_
  rw [Job.state_redate,cancelSignaledJob_redate submitted anchor job]
  split
  · exact alike
  · exact alike.put ⟨submitted,anchor,rfl⟩

theorem jobTimeLimitExpired_alike {runAttempt : Nat} : Alike (applyJobTimeLimitExpired env s jobId runAttempt at_).1
      (applyJobTimeLimitExpired other t jobId runAttempt at_).1 := by
  refine alike.atJob fun job submitted anchor _ => ?_
  rw [Job.state_redate,Job.runAttempt_redate,timeLimitExpiredJob_redate submitted anchor job]
  split
  · exact alike
  · exact alike.put ⟨submitted,anchor,rfl⟩

theorem jobPreemptSignaled_alike {pending : PreemptPending} :
    Alike (applyJobPreemptSignaled s jobId pending).1 (applyJobPreemptSignaled t jobId pending).1 := by
  refine alike.atJob fun job submitted anchor _ => ?_
  have warned : (job.redate submitted anchor).preemptPending = job.preemptPending := rfl
  rw [Job.state_redate,Job.runAttempt_redate,warned]
  split
  · exact alike.put ⟨submitted,anchor,rfl⟩
  · exact alike

theorem jobComplete_alike {entry : Wal.JobComplete} :
    Alike (applyJobComplete env timestamp s entry).1 (applyJobComplete other timestamp t entry).1 := by
  refine alike.atJob fun job submitted anchor _ => ?_
  rw [Job.state_redate,Job.preemptGrace_redate,Job.adoptGraceProvenance_redate]
  split
  · exact alike
  dsimp only
  generalize ((job.preemptGrace.filter fun _ => job.state == .running && entry.cancel.isNone).filter fun _ =>
    !entry.controllerInitiated && entry.state != .outOfMemory) = grace
  have provenance : (if grace.isSome = true then (job.adoptGraceProvenance timestamp).redate submitted anchor
        else job.redate submitted anchor) =
      (if grace.isSome = true then job.adoptGraceProvenance timestamp else job).redate submitted anchor := by
    split <;> rfl
  rw [provenance]
  generalize (if grace.isSome = true then job.adoptGraceProvenance timestamp else job) = ending
  rcases (finishRun_redate submitted anchor ending).cases with
    ⟨next,first,second⟩ | ⟨next,record,later,first,second⟩
  · rw [first,second]
    exact alike.put ⟨submitted,anchor,rfl⟩
  · rw [first,second]
    exact ⟨alike.jobs.insert _ ⟨submitted,anchor,rfl⟩,releaseJob_twin alike.nodes,alike.settings⟩

theorem jobStepComplete_alike {stepId : StepId} {exitCode : Int} :
    Alike (applyJobStepComplete timestamp s jobId stepId exitCode).1
      (applyJobStepComplete clock t jobId stepId exitCode).1 := by
  unfold applyJobStepComplete
  rw [alike.any fun _ _ _ => rfl]
  split
  · exact alike
  refine ⟨?_,alike.nodes,alike.settings⟩
  split
  · exact (alike.modify jobId fun _ _ _ => rfl).jobs
  · exact alike.jobs

theorem jobStepCreate_alike {step : JobStep} : Alike (applyJobStepCreate s step).1 (applyJobStepCreate t step).1 := by
  refine alike.atJob fun job submitted anchor _ => ?_
  rw [Job.state_redate]
  split
  · exact alike
  · exact ⟨alike.jobs,alike.nodes,alike.settings⟩

theorem jobExcludeUpdate_alike {exclude : Option String} :
    Alike (applyJobExcludeUpdate s jobId exclude).1 (applyJobExcludeUpdate t jobId exclude).1 := by
  refine alike.atJob fun job submitted anchor _ => ?_
  rw [Job.state_redate,Job.holdsAPlacement_redate]
  split
  · exact alike.put ⟨submitted,anchor,rfl⟩
  · exact alike

theorem jobPriorityChange_alike {entry : Wal.JobPriorityChange} :
    Alike (applyJobPriorityChange s entry).1 (applyJobPriorityChange t entry).1 := by
  refine alike.atJob fun job submitted anchor _ => ?_
  have releases : holdReleases entry (job.redate submitted anchor) = holdReleases entry job := rfl
  rw [releases,reprioritizedJob_redate]
  refine ⟨alike.jobs.insert _ ⟨submitted,anchor,rfl⟩,?_,alike.settings⟩
  split
  · exact releaseJob_twin alike.nodes
  · exact alike.nodes

theorem evictTerminalJobs_alike : Alike (applyEvictTerminalJobs s jobIds).1 (applyEvictTerminalJobs t jobIds).1 := by
  have finalized (jobId : JobId) : (t.jobs[jobId]?).any _ =
    (s.jobs[jobId]?).any fun job => job.state.isFinalized := alike.any fun _ _ _ => rfl
  unfold applyEvictTerminalJobs
  simp only [finalized]
  exact ⟨alike.jobs.filter fun _ _ _ _ => rfl,alike.nodes,alike.settings⟩

theorem nodeRegister_alike :
    Alike (applyNodeRegister config env s entry).1 (applyNodeRegister config other t entry).1 :=
  ⟨alike.jobs,alike.nodes.insert _ (registeredNode_twin alike.settings.1),alike.settings⟩

theorem nodeUpdate_alike {entry : Wal.NodeUpdate}
    (apart : ∀ node : Node, s.nodes[entry.name]? = some node → RenamesApart node entry.resources) :
    Alike (applyNodeUpdate config env s entry).1 (applyNodeUpdate config other t entry).1 := by
  unfold applyNodeUpdate
  rcases alike.nodes.both with ⟨missing,absent⟩ | ⟨node,_,found,stored,twin⟩
  · rw [missing,absent]
    exact alike
  rw [found,stored]
  have changed := updatedNode_twin config env other twin (apart node found)
  obtain ⟨_,heartbeat,rfl⟩ := twin
  exact ⟨remapJobGpuAllocations_twin alike.jobs,alike.nodes.insert _ changed,alike.settings⟩

theorem nodeStateChange_alike {entry : Wal.NodeStateChange} :
    Alike (applyNodeStateChange env timestamp s entry).1 (applyNodeStateChange other timestamp t entry).1 := by
  have changed := alike.nodes.modify entry.name fun _ _ twin => stateChangedNode_twin entry twin
  unfold applyNodeStateChange
  split
  · obtain ⟨jobs,nodes⟩ := evictJobsOnNode_alike env other timestamp _
      ⟨entry.name,entry.reason.getD "",entry.reasonUid,false⟩ alike.jobs changed
    exact ⟨jobs,nodes,alike.settings⟩
  · exact ⟨alike.jobs,changed,alike.settings⟩

theorem nodeRemove_alike {reason : Option String} :
    Alike (applyNodeRemove env timestamp s name reason).1 (applyNodeRemove other timestamp t name reason).1 := by
  obtain ⟨jobs,nodes⟩ := evictJobsOnNode_alike env other timestamp name ⟨name,reason.getD "",none,true⟩ alike.jobs
    alike.nodes
  exact ⟨jobs,nodes.erase,alike.settings⟩

theorem Alike.modifyNode {f : Node → Node} (charge : ∀ node, (f node).allocResources = node.allocResources)
    (blind : ∀ node heartbeat, f (node.beat heartbeat) = (f node).beat heartbeat) :
    Alike { s with nodes := s.nodes.modify name f } { t with nodes := t.nodes.modify name f } :=
  ⟨alike.jobs,alike.nodes.modify name fun node _ twin =>
    twin.of_beat (charge node) fun heartbeat => ⟨heartbeat,blind node heartbeat⟩,
    alike.settings⟩

theorem Alike.repartition : Table.Related Node.Twin (reconcilePartitions config partitions s.nodes)
      (reconcilePartitions config partitions t.nodes) :=
  alike.nodes.map fun _ _ _ twin => reconcileNode_twin twin

theorem partitionCreate_alike {partition : Partition} :
    Alike (applyPartitionCreate config s partition).1 (applyPartitionCreate config t partition).1 := by
  unfold applyPartitionCreate
  rw [← alike.settings.1,← alike.settings.2.1]
  exact ⟨alike.jobs,alike.repartition,rfl,rfl,alike.settings.2.2⟩

theorem partitionUpdate_alike {patch : PartitionPatch} :
    Alike (applyPartitionUpdate config s name patch).1 (applyPartitionUpdate config t name patch).1 := by
  unfold applyPartitionUpdate
  rw [← alike.settings.1]
  exact ⟨alike.jobs,alike.repartition,rfl,alike.settings.2⟩

theorem partitionDelete_alike :
    Alike (applyPartitionDelete config s name).1 (applyPartitionDelete config t name).1 := by
  unfold applyPartitionDelete
  rw [← alike.settings.1]
  exact ⟨alike.jobs,alike.repartition,rfl,alike.settings.2⟩

theorem reservationCreate_alike {reservation : Reservation} :
    Alike (applyReservationCreate s reservation).1 (applyReservationCreate t reservation).1 := by
  unfold applyReservationCreate
  rw [← alike.settings.2.2]
  split
  · exact alike
  · exact ⟨alike.jobs,alike.nodes,alike.settings.1,alike.settings.2.1,rfl⟩

theorem reservationDelete_alike : Alike (applyReservationDelete s name).1 (applyReservationDelete t name).1 := by
  unfold applyReservationDelete
  rw [← alike.settings.2.2]
  split
  · exact alike
  next res _ =>
    refine ⟨alike.jobs.map ?_,alike.nodes,alike.settings.1,alike.settings.2.1,rfl⟩
    rintro _ job _ ⟨submitted,anchor,rfl⟩
    exact ⟨submitted,anchor,reservationDeletedJob_redate submitted anchor job⟩

end

end Cluster
end Spur
