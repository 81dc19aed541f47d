import Spur.Cluster.State

/-! What one operation does to one job's run: the helpers that `apply_operation` shares. -/
namespace Spur.Job
open Spur.Library Spur.Cluster

def clearRunStateForRequeue (job : Job) : Job :=
  { job with
    startTime := none
    exitCode := none
    allocatedNodes := []
    allocatedResources := none
    perNodeAlloc := ∅
    nodeCompletions := ∅
    unreportedNodes := []
    timeLimitSignaledAt := none
    cancelSignaledAt := none
    cancelledBy := none
    preemptPending := none
    nodeFailure := none
    suspendedBy := none
    pendingReason := .none
    pendingReasonDesc := none
    actualStdoutPath := none
    actualStderrPath := none }

def resetJobForRequeue (job : Job) : Job :=
  { job.clearRunStateForRequeue with
    requeueCount := job.requeueCount + 1
    lastRequeue := some ⟨"Failure",none⟩ }

def resetJobForPreemptRequeue (job : Job) : Job :=
  { job.clearRunStateForRequeue with
    preemptRequeueCount := job.preemptRequeueCount + 1
    lastRequeue := some ⟨"Preempt",none⟩ }

def resetJobForUserRequeue (by_ : Option Actor) (job : Job) : Job :=
  { job.clearRunStateForRequeue with
    userRequeueCount := job.userRequeueCount + 1
    lastRequeue := some ⟨"Admin",by_⟩ }

def setBeginTime (begin : Time) (job : Job) : Job :=
  { job with spec := { job.spec with beginTime := some begin } }

/-- The suspension is refused in a preemption grace, and where the transition is. -/
def applySuspend (now at_ : Time) (preemptedBy : Option JobId) (preemptQos : Option String) (by_ : Option Actor)
    (job : Job) : Option Job :=
  if job.preemptGrace.isSome then none
  else match job.applyTransition now .suspended with
    | .applied next =>
      some (if preemptedBy.isSome then
        { next with suspendedAt := some at_, preemptedBy := preemptedBy, preemptMode := some "Suspend",
                    preemptQos := preemptQos }
      else { next with suspendedAt := some at_, suspendedBy := by_ })
    | .noOp | .invalid => none

/-- A live run that holds nodes moves to Completing and waits for their reports. -/
def beginCompleting (now at_ : Time) (job : Job) : Option Job :=
  if (job.state == .running || job.state == .suspended) && !job.allocatedNodes.isEmpty then
    (job.transition now .completing).map fun next =>
      { ({ next with endTime := some at_ }).endSuspension at_ with preemptPending := none }
  else none

def adoptGraceProvenance (at_ : Time) (job : Job) : Job :=
  match job.preemptGrace with
  | none => job
  | some pending =>
    match pending.mode with
    | .cancel =>
      { job with
        preemptMode := some "Cancel"
        cancelSignaledAt := some (job.cancelSignaledAt.getD at_)
        preemptedBy := some pending.preemptedBy
        preemptQos := pending.preemptQos }
    | .requeue =>
      { job with
        preemptMode := some "Requeue"
        preemptedBy := some pending.preemptedBy
        preemptQos := pending.preemptQos }
    | .off | .suspend => job

def preemptHoldUntil (at_ : Time) (holdSecs : Nat) (job : Job) : Time :=
  let hold := at_ + Duration.seconds holdSecs
  job.spec.beginTime.elim hold fun begin => max begin hold

def preemptTargetsRun (job : Job) (runAttempt : Option Nat) : Bool :=
  runAttempt.all fun attempt => attempt == job.runAttempt

def rependAfterPreemption (now begin : Time) (preemptedBy : Option JobId) (preemptQos : Option String) (at_ : Time)
    (job : Job) : Job × Option JobFinalized :=
  match job.transition now .preempted with
  | none => (job,none)
  | some job =>
    let job := { ({ job with exitCode := some (-1), endTime := some at_ }).endSuspension at_ with
      nodeCompletions := ∅ }
    let elapsed := job.elapsedSecs now
    match job.transition now .pending with
    | none => (job,none)
    | some job =>
      let job := job.resetJobForPreemptRequeue.setBeginTime begin
      let job := { job with preemptedBy := preemptedBy, preemptMode := some "Requeue", preemptQos := preemptQos }
      let finalized := JobFinalized.forJobWithElapsed job .preempted (-1) elapsed
      (job.setPendingReasonDesc .preempted (preemptionSummary preemptedBy preemptQos),some finalized)

def finalizeReportedRun (env : Env) (at_ : Time) (job : Job) : Job × Option JobFinalized :=
  let primary := job.allocatedNodes.headD ""
  let oom := job.reportedOom
  let (derivedState,finalExit,rawSignal) :=
    derivedCompletion (env.visit job.nodeCompletions.toList) job.nodeCompletions primary
  let finalSignal := stripOomFlag rawSignal
  let (finalState,finalReason) := job.completionVerdict derivedState finalExit finalSignal oom
  match job.transition env.now finalState with
  | none => (job,none)
  | some job =>
    let job := ({ job with exitCode := some finalExit, exitSignal := finalSignal }).setPendingReason finalReason
    let job := { job with endTime := some at_, preemptPending := none, nodeCompletions := ∅ }
    (job,some (JobFinalized.forJob env.now job (job.endOfRunState finalState) finalExit))

def routeThroughCompleting (now at_ : Time) (job : Job) : Job :=
  if job.state = .running ∨ job.state = .suspended then
    { ((job.transition now .completing).getD job).endSuspension at_ with endTime := some at_ }
  else job

def advanceAfterNodeReport (env : Env) (grace : Option PreemptPending) (at_ : Time) (job : Job) :
    Job × Option JobFinalized :=
  let allReported := job.allNodesCompleted
  let settle (job : Job) : Job × Option JobFinalized :=
    let job := job.routeThroughCompleting env.now at_
    if allReported then job.finalizeReportedRun env at_ else (job,none)
  match grace.filter fun _ => !(allReported && job.reportedOom) with
  | none => settle job
  | some pending =>
    if !allReported then (job,none)
    else if pending.mode = .requeue then
      job.rependAfterPreemption env.now (job.preemptHoldUntil at_ pending.requeueHoldSecs) (some pending.preemptedBy)
        pending.preemptQos at_
    else settle (job.adoptGraceProvenance at_)

end Spur.Job
