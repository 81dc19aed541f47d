import Spur.GpuIdentity
import Spur.Cluster.Policy
import Spur.Cluster.Run

/-! The job entries of `ClusterManager::apply_operation`, one definition for each kind of entry. -/
namespace Spur.Cluster
open Spur Spur.Library

/-- A node's slice of a job: its own entry, or an even share of the total. -/
def sliceOn (perNodeAlloc : Table String ResourceAllocations) (total : ResourceAllocations) (nodeCount : Nat)
    (name : String) : ResourceAllocations :=
  (perNodeAlloc[name]?).getD (.withScalar (total.cpus / nodeCount) (total.memoryMb / nodeCount))

def deallocateJobSlices (freedNodes : List String) (allocatedResources : Option ResourceAllocations)
    (perNodeAlloc : Table String ResourceAllocations) (alreadyDeallocated : List String)
    (nodes : Table String Node) : Table String Node :=
  match allocatedResources with
  | none => nodes
  | some total =>
    freedNodes.foldl (fun nodes name =>
      if alreadyDeallocated.contains name then nodes
      else nodes.modify name fun node => node.release (sliceOn perNodeAlloc total (max freedNodes.length 1) name)) nodes

/-- The placement a job holds, as `deallocate_job_slices` is given it. -/
def releaseJob (job : Job) (alreadyDeallocated : List String) (nodes : Table String Node) : Table String Node :=
  deallocateJobSlices job.allocatedNodes job.allocatedResources job.perNodeAlloc alreadyDeallocated nodes

def completeJobSteps (jobId : JobId) (exitCode : Int) (timestamp : Time) (steps : Table (JobId × StepId) JobStep) :
    Table (JobId × StepId) JobStep :=
  steps.map fun _ step =>
    if step.jobId = jobId ∧ step.state.isTerminal = false then
      { step with
        state := if exitCode = 0 then .completed else .failed
        exitCode := some exitCode
        endTime := some timestamp }
    else step

def preemptFreedEarmarkPasses : Nat := 3

/-- Earmark freed nodes for a preemptor that is still waiting for a placement. -/
def recordPreemptFreedNodes (jobs : Table JobId Job) (freedNodes : List String) (preemptor : JobId)
    (earmarks : Table String (Table JobId Nat)) : Table String (Table JobId Nat) :=
  let ownerWaiting := (jobs[preemptor]?).any fun job => job.state == .pending && !job.holdsAPlacement
  if freedNodes.isEmpty || !ownerWaiting then earmarks
  else
    let waiting (owner : JobId) : Bool :=
      (jobs[owner]?).any fun job => job.state == .pending && !job.pendingReason.isSchedulingHold
    freedNodes.foldl (fun earmarks name =>
      let owners := ((earmarks[name]?).getD ∅).filter fun owner _ => waiting owner
      earmarks.insert name (owners.insert preemptor preemptFreedEarmarkPasses)) earmarks

def recordFreed (jobs : Table JobId Job) (freed : Option (JobId × List String))
    (earmarks : Table String (Table JobId Nat)) : Table String (Table JobId Nat) :=
  match freed with
  | some (preemptor,names) => recordPreemptFreedNodes jobs names preemptor earmarks
  | none => earmarks

def excludedNode (job : Job) (nodes : List String) : Option String :=
  match job.spec.exclude.filter (· ≠ "") with
  | none => none
  | some excluded =>
    let names := Hostlist.expandHostlistOrSplit excluded
    nodes.find? fun name => names.contains name

section

variable (config : Config) (env : Env) (timestamp : Time) (s : State)

def hetAnchor (spec : JobSpec) : Option JobId :=
  ((env.visit s.jobs.toList).find? fun entry =>
    entry.2.hetGroup == some 0 && entry.2.spec.user == spec.user && entry.2.spec.name == spec.name &&
      entry.2.state == .pending).map fun entry => entry.2.jobId

def applyJobSubmit (jobId : JobId) (spec : JobSpec) : State × ClientResponse :=
  let job := { Job.new env.now jobId spec with
    hetGroup := spec.hetGroup
    hetJobId := if spec.hetGroup.any (· > 0) then hetAnchor env s spec else none }
  ({ s with jobs := s.jobs.insert jobId job, nextJobId := max s.nextJobId ((jobId + 1) % 2 ^ 32) },{})

def requeueByStateChange (entry : Wal.JobStateChange) (job : Job) : Job :=
  let job := if job.requeueCount < config.maxBatchRequeue then job.resetJobForRequeue else job.clearRunStateForRequeue
  let reason := entry.pendingReason.getD .none
  let job := match entry.pendingReasonDesc with
    | some desc => job.setPendingReasonDesc reason desc
    | none => job.setPendingReason reason
  let job := { job with priority := entry.pendingPriority.getD job.priority }
  match entry.beginTime with
  | some hold => job.setBeginTime hold
  | none => job

def applyJobStateChange (entry : Wal.JobStateChange) : State × ClientResponse :=
  match s.jobs[entry.jobId]? with
  | none => (s,{})
  | some job =>
    if entry.expectedRunAttempt.isSome ∧
        (entry.expectedRunAttempt ≠ some job.runAttempt ∨ job.holdsAPlacement = false) then (s,{})
    else match job.applyTransition env.now entry.newState with
    | .noOp | .invalid => (s,{})
    | .applied next =>
      let next := if entry.newState = .running then { next with startTime := some (entry.at_.getD timestamp) } else next
      let next := if entry.newState = .pending then requeueByStateChange config entry next else next
      ({ s with jobs := s.jobs.insert entry.jobId next },{ stateChangeApplied := true })

def backoffJob (entry : Wal.JobDispatchBackoff) (job : Job) : Job :=
  let next :=
    if entry.atMaxRequeue then
      ({ job.clearRunStateForRequeue with priority := 0 }).setPendingReason .jobHoldMaxRequeue
    else if entry.spareRequeueBudget then
      (job.clearRunStateForRequeue.setBeginTime entry.beginTime).setPendingReason .jobLaunchFailure
    else (job.resetJobForRequeue.setBeginTime entry.beginTime).setPendingReason .jobLaunchFailure
  { next with runAttempt := max entry.runAttempt next.runAttempt }

def applyJobDispatchBackoff (entry : Wal.JobDispatchBackoff) : State × ClientResponse :=
  match s.jobs[entry.jobId]? with
  | none => (s,{})
  | some job =>
    if job.state ≠ .pending then (s,{})
    else if entry.runAttempt ≠ 0 ∧ job.runAttempt ≠ 0 ∧ entry.runAttempt < job.runAttempt then (s,{})
    else
      ({ s with jobs := s.jobs.insert entry.jobId (backoffJob entry job), nodes := releaseJob job [] s.nodes },{})

def applyJobPreemptRequeue (entry : Wal.JobPreemptRequeue) : State × ClientResponse :=
  match s.jobs[entry.jobId]? with
  | none => (s,{})
  | some job =>
    if job.state ≠ .running ∨ job.preemptTargetsRun entry.runAttempt = false then (s,{})
    else
      let alreadyDeallocated := job.nodeCompletions.keys
      match job.rependAfterPreemption env.now entry.beginTime entry.preemptedBy entry.preemptQos timestamp with
      | (next,none) => ({ s with jobs := s.jobs.insert entry.jobId next },{})
      | (next,some finalized) =>
        let jobs := s.jobs.insert entry.jobId next
        let newlyFreed := job.allocatedNodes.filter fun name => !alreadyDeallocated.contains name
        let freed := (entry.preemptedBy.filter fun _ => entry.handoff).map fun preemptor => (preemptor,newlyFreed)
        ({ s with
            jobs := jobs
            nodes := releaseJob job alreadyDeallocated s.nodes
            preemptFreedNodes := recordFreed jobs freed s.preemptFreedNodes
            steps := completeJobSteps entry.jobId (-1) timestamp s.steps },
          { jobsFinalized := [finalized], preemptApplied := true })

def userRequeuedJob (entry : Wal.JobUserRequeue) (job : Job) : Job :=
  let job := job.resetJobForUserRequeue entry.by_
  if entry.hold then ({ job with priority := 0 }).setPendingReason .held
  else match entry.beginTime with
    | some begin => (job.setBeginTime begin).setPendingReason .beginTime
    | none => job.setPendingReason .none

def applyJobUserRequeue (entry : Wal.JobUserRequeue) : State × ClientResponse :=
  match s.jobs[entry.jobId]? with
  | none => (s,{})
  | some job =>
    if job.state = .running ∨ job.state = .suspended then
      -- A live run is finalized once, as requeued, before it returns to Pending.
      let ended := ({ job with endTime := some timestamp }).endSuspension timestamp
      let finalized := JobFinalized.forJobWithElapsed ended .requeued (-1) (ended.elapsedSecs env.now)
      match ended.requeueToPending with
      | none => ({ s with jobs := s.jobs.insert entry.jobId ended },{})
      | some next =>
        ({ s with
            jobs := s.jobs.insert entry.jobId (userRequeuedJob entry next)
            nodes := releaseJob ended ended.nodeCompletions.keys s.nodes
            steps := completeJobSteps entry.jobId (-1) timestamp s.steps },
          { jobsFinalized := [finalized] })
    else if job.state.isTerminal then
      match job.requeueToPending with
      | none => (s,{})
      | some next => ({ s with jobs := s.jobs.insert entry.jobId (userRequeuedJob entry next) },{})
    else (s,{})

def preemptCancelled (at_ : Time) (entry : Wal.JobPreemptCancel) (job : Job) : Job :=
  { ({ job with exitCode := some (-1), endTime := some at_ }).endSuspension at_ with
    preemptedBy := entry.preemptedBy
    preemptMode := some "Cancel"
    preemptQos := entry.preemptQos
    cancelSignaledAt := some at_
    preemptPending := none }

def applyJobPreemptCancel (entry : Wal.JobPreemptCancel) : State × ClientResponse :=
  let at_ := entry.at_.getD timestamp
  match s.jobs[entry.jobId]? with
  | none => (s,{})
  | some job =>
    if job.state ≠ .running ∨ job.preemptTargetsRun entry.runAttempt = false then (s,{})
    else match job.transition env.now .preempted with
    | none => (s,{})
    | some victim =>
      let victim := preemptCancelled at_ entry victim
      let finalized := JobFinalized.forJob env.now victim .preempted (-1)
      if victim.allocatedNodes ≠ [] then
        -- The killed run still occupies its nodes, so it waits in Completing for their reports.
        match victim.transition env.now .completing with
        | none => ({ s with jobs := s.jobs.insert entry.jobId victim },{})
        | some next => ({ s with jobs := s.jobs.insert entry.jobId next },{ preemptApplied := true })
      else
        let victim := { victim with nodeCompletions := ∅ }
        match victim.transition env.now .cancelled with
        | none => ({ s with jobs := s.jobs.insert entry.jobId victim },{})
        | some next =>
          ({ s with
              jobs := s.jobs.insert entry.jobId next
              nodes := releaseJob victim [] s.nodes
              steps := completeJobSteps entry.jobId (-1) timestamp s.steps },
            { jobsFinalized := [finalized], preemptApplied := true })

def applyJobSuspend (entry : Wal.JobSuspend) : State × ClientResponse :=
  match s.jobs[entry.jobId]? with
  | none => (s,{})
  | some job =>
    match job.applySuspend env.now entry.at_ entry.preemptedBy entry.preemptQos entry.by_ with
    | none => (s,{})
    | some next => ({ s with jobs := s.jobs.insert entry.jobId next },{ suspendApplied := true })

def applyJobResume (jobId : JobId) (at_ : Time) : State × ClientResponse :=
  match s.jobs[jobId]? with
  | none => (s,{})
  | some job =>
    match job.applyTransition env.now .running with
    | .noOp | .invalid => (s,{})
    | .applied next =>
      let next := { next.endSuspension at_ with
        preemptedBy := none, preemptMode := none, preemptQos := none, preemptPending := none }
      ({ s with jobs := s.jobs.insert jobId next },{})

/-- The verdict of an evicted run: a run already signalled keeps the verdict of its signal. -/
def evictedState (job : Job) : JobState :=
  if job.cancelSignaledAt.isNone then .nodeFail
  else if job.timeLimitSignaledAt.isSome then .timeout
  else .cancelled

/-- The evicted job, or nothing when it is in no state to be evicted from. -/
def evictRun (reason : PendingReason) (failure : Option NodeFailure) (job : Job) : Option Job :=
  ((job.endSuspension timestamp).transition env.now (evictedState job)).map fun next =>
    let next := { next with exitCode := some (-1), endTime := some timestamp, preemptPending := none }
    let next := match evictedState job with
      | .nodeFail => { next.setPendingReason reason with nodeFailure := failure }
      | .timeout => next.setPendingReason .timeLimit
      | _ => next
    { next with nodeCompletions := ∅ }

def evictionPreemptor (job : Job) : Option JobId :=
  (job.preemptGrace.map PreemptPending.preemptedBy).or
    (if job.preemptMode = some "Cancel" then job.preemptedBy else none)

/-- The tables an eviction works on, the end records it emits and the nodes it frees for preemptors. -/
structure Eviction where
  jobs : Table JobId Job
  nodes : Table String Node
  finalized : List JobFinalized := []
  freedForPreemptor : List (JobId × List String) := []

def evictJobLocked (reason : PendingReason) (failure : Option NodeFailure) (eviction : Eviction) (jobId : JobId) :
    Eviction :=
  match eviction.jobs[jobId]? with
  | none => eviction
  | some job =>
    match evictRun env timestamp reason failure job with
    | none => { eviction with jobs := eviction.jobs.insert jobId (job.endSuspension timestamp) }
    | some next =>
      let alreadyDeallocated := job.nodeCompletions.keys
      let newlyFreed := job.allocatedNodes.filter fun name => !alreadyDeallocated.contains name
      { jobs := eviction.jobs.insert jobId next
        nodes := releaseJob job alreadyDeallocated eviction.nodes
        finalized := eviction.finalized ++
          [JobFinalized.forJob env.now next (next.endOfRunState (evictedState job)) (-1)]
        freedForPreemptor := eviction.freedForPreemptor ++ match evictionPreemptor job with
          | some preemptor => if newlyFreed.isEmpty then [] else [(preemptor,newlyFreed)]
          | none => [] }

/-- A Pending job stranded on a lost node has only a charge to free. -/
def strandJob (eviction : Eviction) (jobId : JobId) : Eviction :=
  match eviction.jobs[jobId]? with
  | none => eviction
  | some job =>
    { eviction with
      jobs := eviction.jobs.insert jobId (job.clearRunStateForRequeue.setPendingReason .nodeDown)
      nodes := releaseJob job [] eviction.nodes }

def jobsWhere (p : Job → Bool) (jobs : Table JobId Job) : List JobId :=
  ((env.visit jobs.toList).filter fun entry => p entry.2).map Prod.fst

def evictJobsOnNode (nodeName : String) (failure : NodeFailure) (jobs : Table JobId Job)
    (nodes : Table String Node) : Eviction :=
  let affected := jobsWhere env (fun job => job.state.isActive && job.isHeldOn nodeName) jobs
  let evicted := affected.foldl (evictJobLocked env timestamp .nodeDown (some failure)) { jobs, nodes }
  let stranded := jobsWhere env (fun job => job.state == .pending && job.isHeldOn nodeName) evicted.jobs
  stranded.foldl strandJob evicted

def commitEviction (s : State) (eviction : Eviction) : State :=
  { s with
    jobs := eviction.jobs
    nodes := eviction.nodes
    preemptFreedNodes := eviction.freedForPreemptor.foldl
      (fun earmarks freed => recordFreed eviction.jobs (some freed) earmarks) s.preemptFreedNodes }

def applyJobEvict (jobId : JobId) (detail : Option String) : State × ClientResponse :=
  let jobs := s.jobs.modify jobId fun job => { job with launchFailureDetail := detail }
  let eviction := evictJobLocked env timestamp .jobLaunchFailure none { jobs, nodes := s.nodes } jobId
  (commitEviction s eviction,{ jobsFinalized := eviction.finalized })

def applyJobLaunchFailureDetail (jobId : JobId) (detail : String) : State × ClientResponse :=
  ({ s with jobs := s.jobs.modify jobId fun job => { job with launchFailureDetail := some detail } },{})

def startedJob (entry : Wal.JobStart) (job : Job) : Job :=
  let job := ({ job with
    allocatedNodes := entry.nodes
    allocatedResources := some entry.resources
    perNodeAlloc := entry.perNodeAlloc }).setPendingReason .none
  { job with
    srunStepDispatch := entry.srunStepDispatch
    runAttempt := max entry.runAttempt job.runAttempt
    idleFill := entry.idleFill
    launchFailureDetail := none
    preemptedBy := none
    preemptMode := none
    preemptQos := none
    derivedExitCode := 0
    exitSignal := 0
    unreportedNodes := []
    nodeFailure := none }

def allocateJobSlices (entry : Wal.JobStart) (nodes : Table String Node) : Table String Node :=
  entry.nodes.foldl (fun nodes name => nodes.modify name fun node =>
    node.charge (sliceOn entry.perNodeAlloc entry.resources (max entry.nodes.length 1) name)) nodes

def dropEarmarks (jobId : JobId) (earmarks : Table String (Table JobId Nat)) : Table String (Table JobId Nat) :=
  (earmarks.map fun _ owners => owners.erase jobId).filter fun _ owners => !owners.isEmpty

/-- Not gated on the job's state, nor on the job being known. -/
def applyJobStart (entry : Wal.JobStart) : State × ClientResponse :=
  let refused := (s.jobs[entry.jobId]?).any fun job => job.holdsAPlacement || (excludedNode job entry.nodes).isSome
  if refused then (s,{})
  else
    ({ s with
        jobs := s.jobs.modify entry.jobId (startedJob entry)
        preemptFreedNodes :=
          if (s.jobs[entry.jobId]?).isSome then dropEarmarks entry.jobId s.preemptFreedNodes else s.preemptFreedNodes
        nodes := allocateJobSlices entry s.nodes },
      { jobStarted := true })

/-- The reporting node's slice is released at its first report. -/
def releaseReported (job : Job) (nodeName : String) (nodes : Table String Node) : Table String Node :=
  match job.allocatedResources with
  | none => nodes
  | some total =>
    if job.nodeCompletions.contains nodeName then nodes
    else nodes.modify nodeName fun node =>
      node.release (sliceOn job.perNodeAlloc total (max job.allocatedNodes.length 1) nodeName)

def applyJobNodeComplete (entry : Wal.JobNodeComplete) : State × ClientResponse :=
  match s.jobs[entry.jobId]? with
  | none => (s,{})
  | some job =>
    if entry.runAttempt ≠ 0 ∧ job.runAttempt ≠ 0 ∧ entry.runAttempt < job.runAttempt then (s,{})
    else if job.state.isActive = false then (s,{})
    else
      let grace := job.preemptGrace.filter fun _ => job.state == .running
      let freedFor :=
        if job.nodeCompletions.contains entry.nodeName then none
        else match grace with
          | some pending => some pending.preemptedBy
          | none => if job.preemptMode = some "Cancel" then job.preemptedBy else none
      let reported := { job with
        nodeCompletions := job.nodeCompletions.insert entry.nodeName ⟨entry.exitCode,entry.signal⟩ }
      let (next,finalized) := reported.advanceAfterNodeReport env grace timestamp
      let jobs := s.jobs.insert entry.jobId next
      ({ s with
          jobs := jobs
          nodes := releaseReported job entry.nodeName s.nodes
          preemptFreedNodes :=
            recordFreed jobs (freedFor.map fun preemptor => (preemptor,[entry.nodeName])) s.preemptFreedNodes
          steps := match finalized with
            | some record => completeJobSteps entry.jobId record.exitCode timestamp s.steps
            | none => s.steps },
        { jobsFinalized := finalized.toList })

def applyJobTimeLimitSignaled (jobId : JobId) (at_ : Time) : State × ClientResponse :=
  ({ s with jobs := s.jobs.modify jobId fun job =>
      if job.state.isActive ∧ job.timeLimitSignaledAt = none then { job with timeLimitSignaledAt := some at_ }
      else job },{})

def cancelSignaledJob (at_ : Time) (cancel : Option CancelProvenance) (job : Job) : Job :=
  let signalled := { job with
    cancelSignaledAt := some (job.cancelSignaledAt.getD at_)
    cancelledBy := job.cancelledBy.or cancel
    preemptPending := none }
  (signalled.beginCompleting env.now at_).getD signalled

def applyJobCancelSignaled (jobId : JobId) (at_ : Time) (cancel : Option CancelProvenance) : State × ClientResponse :=
  match s.jobs[jobId]? with
  | none => (s,{})
  | some job =>
    if job.state.isActive = false then (s,{})
    else ({ s with jobs := s.jobs.insert jobId (cancelSignaledJob env at_ cancel job) },{})

def timeLimitExpiredJob (at_ : Time) (job : Job) : Job :=
  let signalled := { job with
    timeLimitSignaledAt := some (job.timeLimitSignaledAt.getD at_)
    cancelSignaledAt := some (job.cancelSignaledAt.getD at_) }
  (signalled.beginCompleting env.now at_).getD signalled

def applyJobTimeLimitExpired (jobId : JobId) (runAttempt : Nat) (at_ : Time) : State × ClientResponse :=
  match s.jobs[jobId]? with
  | none => (s,{})
  | some job =>
    if ¬(job.state = .running ∨ job.state = .suspended) ∨
        (runAttempt ≠ 0 ∧ job.runAttempt ≠ 0 ∧ runAttempt ≠ job.runAttempt) then (s,{})
    else ({ s with jobs := s.jobs.insert jobId (timeLimitExpiredJob env at_ job) },{ timeLimitApplied := true })

def applyJobPreemptSignaled (jobId : JobId) (pending : PreemptPending) : State × ClientResponse :=
  match s.jobs[jobId]? with
  | none => (s,{})
  | some job =>
    if job.state = .running ∧ job.runAttempt = pending.runAttempt ∧ job.preemptPending = none then
      ({ s with jobs := s.jobs.insert jobId { job with preemptPending := some pending } },
        { preemptSignalApplied := true })
    else (s,{})

/-- The part of a forced completion that ends the run with a verdict; nothing when the state refuses it. -/
def completeRun (entry : Wal.JobComplete) (state : JobState) (job : Job) : Option (Job × List JobFinalized) :=
  (job.transition env.now state).map fun next =>
    let next := { next with
      preemptPending := none
      unreportedNodes := entry.unreportedNodes
      cancelledBy := if state = .cancelled then next.cancelledBy.or entry.cancel else next.cancelledBy
      exitCode := some entry.exitCode
      endTime := some timestamp }
    let next := match state with
      | .timeout => next.setPendingReason .timeLimit
      | .outOfMemory => next.setPendingReason .outOfMemory
      | _ => next
    let finalized :=
      if state.isTerminal then [JobFinalized.forJob env.now next (next.endOfRunState state) entry.exitCode] else []
    ({ next.endSuspension timestamp with nodeCompletions := ∅ },finalized)

/-- The run ends as the preemption it was warned of, or with the verdict of the completion. -/
def finishRun (entry : Wal.JobComplete) (grace : Option PreemptPending) (job : Job) :
    Job × Option (List JobFinalized) :=
  let state := if grace.any fun pending => pending.mode == .cancel then .cancelled else entry.state
  match grace.filter fun pending => pending.mode == .requeue with
  | some pending =>
    match job.rependAfterPreemption env.now (job.preemptHoldUntil timestamp pending.requeueHoldSecs)
        (some pending.preemptedBy) pending.preemptQos timestamp with
    | (next,some finalized) => (next,some [finalized])
    | (next,none) => (next,none)
  | none =>
    match completeRun env timestamp entry state job with
    | some (next,finalized) => (next,some finalized)
    | none => (job,none)

def applyJobComplete (entry : Wal.JobComplete) : State × ClientResponse :=
  match s.jobs[entry.jobId]? with
  | none => (s,{})
  | some job =>
    if job.state.isFinalized ∧ ¬(job.state = .preempted ∧ entry.state = .cancelled) then (s,{})
    else
      let warned := job.preemptGrace.filter fun _ => job.state == .running && entry.cancel.isNone
      let grace := warned.filter fun _ => !entry.controllerInitiated && entry.state != .outOfMemory
      let job := if grace.isSome then job.adoptGraceProvenance timestamp else job
      let preemptor := (warned.map PreemptPending.preemptedBy).or
        (if job.preemptMode = some "Cancel" then job.preemptedBy else none)
      let alreadyDeallocated := job.nodeCompletions.keys
      match finishRun env timestamp entry grace job with
      | (next,none) => ({ s with jobs := s.jobs.insert entry.jobId next },{})
      | (next,some finalized) =>
        let jobs := s.jobs.insert entry.jobId next
        let newlyFreed := job.allocatedNodes.filter fun name => !alreadyDeallocated.contains name
        let stepsExitCode := finalized.head?.elim entry.exitCode JobFinalized.exitCode
        ({ s with
            jobs := jobs
            nodes := releaseJob job alreadyDeallocated s.nodes
            preemptFreedNodes :=
              recordFreed jobs (preemptor.map fun owner => (owner,newlyFreed)) s.preemptFreedNodes
            steps := completeJobSteps entry.jobId stepsExitCode timestamp s.steps },
          { jobsFinalized := finalized })

def applyJobStepComplete (jobId : JobId) (stepId : StepId) (exitCode : Int) : State × ClientResponse :=
  if (s.jobs[jobId]?).any fun job => job.state.isTerminal then (s,{})
  else
    ({ s with
        steps := s.steps.modify (jobId,stepId) fun step =>
          { step with
            state := if exitCode = 0 then .completed else .failed
            exitCode := some exitCode
            endTime := some timestamp }
        jobs := if isUserStep stepId then
            s.jobs.modify jobId fun job => { job with derivedExitCode := max job.derivedExitCode exitCode }
          else s.jobs },{})

def applyJobStepCreate (step : JobStep) : State × ClientResponse :=
  match s.jobs[step.jobId]? with
  | none => (s,{})
  | some job =>
    if job.state.isTerminal then (s,{})
    else
      ({ s with
          steps := s.steps.insertIfNew (step.jobId,step.stepId) step
          nextStepId := if isUserStep step.stepId then
              s.nextStepId.insert step.jobId (max ((s.nextStepId[step.jobId]?).getD 0) (min (step.stepId + 1) u32Max))
            else s.nextStepId },{})

def applyJobExcludeUpdate (jobId : JobId) (exclude : Option String) : State × ClientResponse :=
  match s.jobs[jobId]? with
  | none => (s,{})
  | some job =>
    if job.state = .pending ∧ job.holdsAPlacement = false then
      ({ s with jobs := s.jobs.insert jobId { job with spec := { job.spec with exclude } } },{ excludeApplied := true })
    else (s,{})

/-- A hold frees a reservation only while the job is Pending at the named attempt. -/
def holdReleases (entry : Wal.JobPriorityChange) (job : Job) : Bool :=
  (entry.pendingReason.any PendingReason.isSchedulingHold) && job.state == .pending &&
    (match entry.runAttempt with
      | some attempt => attempt == 0 || job.runAttempt == 0 || job.runAttempt ≤ attempt
      | none => true) && job.holdsAPlacement

def reprioritizedJob (entry : Wal.JobPriorityChange) (job : Job) : Job :=
  let next := { job with priority := entry.newPriority }
  let next := if holdReleases entry job then
      { next with allocatedNodes := [], allocatedResources := none, perNodeAlloc := ∅ }
    else next
  let next := match entry.pendingReason,entry.pendingReasonDesc with
    | some reason,some desc => next.setPendingReasonDesc reason desc
    | some reason,none => next.setPendingReason reason
    | none,_ => next
  { next with
    runAttempt := max (entry.runAttempt.getD 0) next.runAttempt
    requeueCount := if entry.resetRequeueCount then 0 else next.requeueCount
    spec := if entry.clearReservation then { next.spec with reservation := none } else next.spec }

def applyJobPriorityChange (entry : Wal.JobPriorityChange) : State × ClientResponse :=
  match s.jobs[entry.jobId]? with
  | none => (s,{})
  | some job =>
    ({ s with
        jobs := s.jobs.insert entry.jobId (reprioritizedJob entry job)
        nodes := if holdReleases entry job then releaseJob job [] s.nodes else s.nodes },{})

def applyEvictTerminalJobs (jobIds : List JobId) : State × ClientResponse :=
  let evicted := jobIds.filter fun jobId => (s.jobs[jobId]?).any fun job => job.state.isFinalized
  ({ s with
      jobs := s.jobs.filter fun jobId _ => !evicted.contains jobId
      steps := s.steps.filter fun _ step => !evicted.contains step.jobId
      nextStepId := s.nextStepId.filter fun jobId _ => !evicted.contains jobId },{})

end

end Spur.Cluster
