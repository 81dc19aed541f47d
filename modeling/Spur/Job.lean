import Spur.Resource

/-! Jobs, from `spur_core::job`: states, transitions, specification and record. Instants are nanoseconds. -/
namespace Spur
open Spur.Library

abbrev JobId := Nat

abbrev Time := Int

abbrev Duration := Int

def defaultPriority : Nat := 1000

def Duration.numSeconds (d : Duration) : Int := Int.tdiv d 1000000000

def Duration.seconds (n : Int) : Duration := n * 1000000000

inductive JobState where
  | pending | running | completing | completed | failed | cancelled | timeout | nodeFail | preempted | suspended
  | deadline | outOfMemory | requeued
  deriving DecidableEq

namespace JobState

def isTerminal : JobState → Bool
  | completed | failed | cancelled | timeout | nodeFail | deadline | outOfMemory => true
  | _ => false

def isActive : JobState → Bool
  | running | completing | suspended => true
  | _ => false

def isFinalized (state : JobState) : Bool :=
  state.isTerminal || state == preempted || state == requeued

/-- The moves `Job::transition` accepts. -/
def validTransition : JobState → JobState → Bool
  | pending,running | pending,cancelled | pending,deadline => true
  | running,completing | running,completed | running,failed | running,cancelled | running,timeout => true
  | running,nodeFail | running,preempted | running,suspended | running,outOfMemory => true
  | completing,completed | completing,failed | completing,cancelled | completing,timeout => true
  | completing,nodeFail | completing,outOfMemory => true
  | suspended,running | suspended,cancelled | suspended,completing | suspended,completed => true
  | suspended,failed | suspended,timeout | suspended,nodeFail | suspended,outOfMemory => true
  | timeout,pending | preempted,pending | preempted,cancelled | preempted,completing => true
  | nodeFail,pending | failed,pending => true
  | _,_ => false

end JobState

inductive PendingReason where
  | none | priority | resources | partitionDown | partitionNodeLimit | partitionTimeLimit | dependency
  | nodeDown | held | qoSMaxJobsPerUser | reqNodeNotAvail | beginTime | deadLine | timeLimit | licenses
  | jobArrayTaskLimit | nonZeroExitCode | raisedSignal | jobLaunchFailure | jobHeldAdmin | badConstraints
  | partitionInactive | partitionConfig | dependencyNeverSatisfied | invalidAccount | invalidQOS | bootFail
  | outOfMemory | reservation | qosMaxCpuPerJobLimit | qosMaxWallDurationPerJobLimit | qosMaxMemoryPerJob
  | qosMaxCpuPerUserLimit | qosMaxNodePerUserLimit | qosMaxMemoryPerUser | qosMaxSubmitJobPerUserLimit
  | qosMaxNodePerJobLimit | qosMaxGpuPerJobLimit | qosMaxGpuPerUserLimit | qosGrpCpuLimit | qosGrpMemLimit
  | qosGrpNodeLimit | qosGrpGpuLimit | qosGrpWallLimit | burstBufferResources | burstBufferStageIn
  | reservedMaintenance | reservationDeleted | jobHoldMaxRequeue | assocMaxJobsLimit | assocMaxSubmitJobLimit
  | assocMaxCpuPerJobLimit | assocMaxNodePerJobLimit | assocMaxMemPerJob | assocMaxGpuPerJobLimit
  | assocGrpCpuLimit | assocGrpNodeLimit | assocGrpMemLimit | assocGrpGpuLimit
  | assocMaxWallDurationPerJobLimit | assocGrpSubmitJobsLimit | qosGrpSubmitJobsLimit
  | qosMaxSubmitJobPerAccountLimit | k8sReserved | preempted | accountingUnavailable | nodeConfigUnavailable
  deriving DecidableEq

def PendingReason.isSchedulingHold : PendingReason → Bool
  | held | jobHeldAdmin | jobHoldMaxRequeue | reservationDeleted => true
  | _ => false

structure GpuRequest where
  count : Nat
  gpuType : Option String
  deriving DecidableEq

structure JobSpec where
  name : String := ""
  partition : Option String := none
  account : Option String := none
  user : String := ""
  uid : Nat := 0
  gid : Nat := 0
  numNodes : Nat := 1
  numTasks : Nat := 1
  tasksPerNode : Option Nat := none
  cpusPerTask : Nat := 1
  memoryPerNodeMb : Option Nat := none
  memoryPerCpuMb : Option Nat := none
  gres : List String := []
  gpus : Option GpuRequest := none
  gpusPerNode : Option GpuRequest := none
  gpusPerTask : Option GpuRequest := none
  script : Option String := none
  argv : List String := []
  scriptArgs : List String := []
  workDir : String := "/tmp"
  stdoutPath : Option String := none
  stderrPath : Option String := none
  stdinPath : Option String := none
  environment : Table String String := ∅
  timeLimit : Option Duration := none
  timeMin : Option Duration := none
  qos : Option String := none
  priority : Option Nat := none
  reservation : Option String := none
  dependency : List String := []
  nodelist : Option String := none
  exclude : Option String := none
  constraint : Option String := none
  mpi : Option String := none
  distribution : Option String := none
  hetGroup : Option Nat := none
  arraySpec : Option String := none
  arrayJobId : Option Nat := none
  arrayTaskId : Option Nat := none
  arrayMaxConcurrent : Option Nat := none
  requeue : Bool := false
  exclusive : Bool := false
  hold : Bool := false
  interactive : Bool := false
  srunJob : Bool := false
  mailType : List String := []
  mailUser : Option String := none
  comment : Option String := none
  wckey : Option String := none
  containerImage : Option String := none
  containerMounts : List String := []
  containerWorkdir : Option String := none
  containerName : Option String := none
  containerReadonly : Bool := false
  containerMountHome : Bool := false
  containerEnv : Table String String := ∅
  containerEntrypoint : Option String := none
  containerRemapRoot : Bool := false
  burstBuffer : Option String := none
  beginTime : Option Time := none
  deadline : Option Time := none
  spreadJob : Bool := false
  topology : Option String := none
  hostNetwork : Bool := false
  privileged : Bool := false
  hostIpc : Bool := false
  shmSize : Option String := none
  extraResources : Table String String := ∅
  openMode : Option String := none
  pty : Bool := false
  submitLine : Option String := none
  clientKeepalive : Bool := false

inductive PreemptMode where
  | off | cancel | requeue | suspend
  deriving DecidableEq

structure PreemptPending where
  signaledAt : Time
  deadline : Time
  preemptedBy : JobId
  preemptQos : Option String
  mode : PreemptMode
  runAttempt : Nat
  requeueHoldSecs : Nat
  deriving DecidableEq

structure NodeCompletion where
  code : Int
  signal : Int
  deriving DecidableEq

structure CancelProvenance where
  origin : String
  user : String
  uid : Option Nat
  deriving DecidableEq

structure Actor where
  user : String
  uid : Option Nat
  deriving DecidableEq

structure LastRequeue where
  kind : String
  by_ : Option Actor
  deriving DecidableEq

structure NodeFailure where
  node : String
  reason : String
  reasonUid : Option Nat
  removed : Bool
  deriving DecidableEq

inductive BbStageState where
  | none | staging | ready
  deriving DecidableEq

structure Job where
  jobId : JobId
  spec : JobSpec
  state : JobState
  pendingReason : PendingReason
  pendingReasonDesc : Option String := none
  priority : Nat
  submitTime : Time
  startTime : Option Time := none
  endTime : Option Time := none
  allocatedNodes : List String := []
  allocatedResources : Option ResourceAllocations := none
  perNodeAlloc : Table String ResourceAllocations := ∅
  exitCode : Option Int := none
  exitSignal : Int := 0
  derivedExitCode : Int := 0
  requeueCount : Nat := 0
  preemptRequeueCount : Nat := 0
  userRequeueCount : Nat := 0
  runAttempt : Nat := 0
  hetJobId : Option JobId := none
  hetGroup : Option Nat := none
  nodeCompletions : Table String NodeCompletion := ∅
  srunStepDispatch : Bool := false
  timeLimitSignaledAt : Option Time := none
  cancelSignaledAt : Option Time := none
  preemptPending : Option PreemptPending := none
  suspendedAt : Option Time := none
  suspendedSecs : Int := 0
  bbStageState : BbStageState := .none
  actualStdoutPath : Option String := none
  actualStderrPath : Option String := none
  launchFailureDetail : Option String := none
  unreportedNodes : List String := []
  cancelledBy : Option CancelProvenance := none
  nodeFailure : Option NodeFailure := none
  suspendedBy : Option Actor := none
  lastRequeue : Option LastRequeue := none
  preemptedBy : Option JobId := none
  preemptMode : Option String := none
  preemptQos : Option String := none
  idleFill : Bool := false

namespace Job

def new (now : Time) (jobId : JobId) (spec : JobSpec) : Job where
  jobId := jobId
  spec := spec
  state := .pending
  pendingReason := if spec.hold then .held else .none
  priority := if spec.hold then 0 else spec.priority.getD defaultPriority
  submitTime := now

def isHeldOn (job : Job) (node : String) : Bool :=
  job.allocatedNodes.contains node && !job.nodeCompletions.contains node

def holdsAPlacement (job : Job) : Bool := job.allocatedNodes.any job.isHeldOn

def allNodesCompleted (job : Job) : Bool :=
  !job.allocatedNodes.isEmpty && job.nodeCompletions.size == job.allocatedNodes.length

/-- The preemption warning the current run is in, if any. -/
def preemptGrace (job : Job) : Option PreemptPending :=
  job.preemptPending.filter fun pending => pending.runAttempt == job.runAttempt

def oomSignalFlag : Int := 0x1000

def hasOomFlag (signal : Int) : Bool := signal / oomSignalFlag % 2 == 1

def stripOomFlag (signal : Int) : Int := signal - signal / oomSignalFlag % 2 * oomSignalFlag

def reportedOom (job : Job) : Bool :=
  job.nodeCompletions.toList.any fun entry => hasOomFlag entry.2.signal

/-- Whether `c` ranks at least as bad as `b`: a signal first, then the exit code, then the signal number. -/
def atLeastAsBad (b c : NodeCompletion) : Bool :=
  if (b.signal != 0) != (c.signal != 0) then c.signal != 0
  else if b.code != c.code then b.code < c.code
  else b.signal ≤ c.signal

/-- The worst failure in the order visited; of equals the last one wins. -/
def worstCompletion (completions : List NodeCompletion) : Option NodeCompletion :=
  (completions.filter fun c => c.code != 0 || c.signal != 0).foldl
    (fun best c => match best with
      | none => some c
      | some b => if atLeastAsBad b c then some c else some b) none

def derivedCompletion (visited : List (String × NodeCompletion)) (nodeCompletions : Table String NodeCompletion)
    (primaryNode : String) : JobState × Int × Int :=
  match (nodeCompletions[primaryNode]?).or (worstCompletion (visited.map Prod.snd)) with
  | some c => (if c.code != 0 || c.signal != 0 then .failed else .completed,c.code,c.signal)
  | none => (.completed,0,0)

def completionVerdict (job : Job) (derivedState : JobState) (exitCode signal : Int) (oom : Bool) :
    JobState × PendingReason :=
  let state := if oom then JobState.outOfMemory
    else if job.timeLimitSignaledAt.isSome then .timeout
    else if job.cancelSignaledAt.isSome then .cancelled
    else derivedState
  let reason := match state with
    | .outOfMemory => PendingReason.outOfMemory
    | .timeout => .timeLimit
    | .cancelled => .none
    | _ => if signal != 0 then .raisedSignal else if exitCode != 0 then .nonZeroExitCode else .none
  (state,reason)

def endOfRunState (job : Job) (finalState : JobState) : JobState :=
  if job.cancelSignaledAt.isSome && job.preemptMode == some "Cancel" then .preempted else finalState

def runTime (now : Time) (job : Job) : Option Duration :=
  job.startTime.map fun start =>
    let finish := job.endTime.getD now
    let suspended := job.suspendedSecs + (job.suspendedAt.elim 0 fun since =>
      max (Duration.numSeconds (finish - since)) 0)
    max (finish - start - Duration.seconds suspended) 0

def endSuspension (at_ : Time) (job : Job) : Job :=
  { job with
    suspendedAt := none
    suspendedSecs := job.suspendedSecs + (job.suspendedAt.elim 0 fun since =>
      max (Duration.numSeconds (at_ - since)) 0)
    suspendedBy := none }

private def setReason (reason : PendingReason) (desc : Option String) (job : Job) : Job :=
  { job with
    launchFailureDetail :=
      if job.pendingReason = .jobLaunchFailure ∧ reason ≠ .jobLaunchFailure then none else job.launchFailureDetail
    pendingReason := reason
    pendingReasonDesc := desc }

def setPendingReason (reason : PendingReason) (job : Job) : Job := job.setReason reason none

def setPendingReasonDesc (reason : PendingReason) (desc : String) (job : Job) : Job :=
  job.setReason reason (some desc)

def transition (now : Time) (target : JobState) (job : Job) : Option Job :=
  if job.state.validTransition target then
    some { job with
      state := target
      endTime := if target = .pending then none
        else if target.isTerminal then some (job.endTime.getD now) else job.endTime }
  else none

def requeueToPending (job : Job) : Option Job :=
  if job.state.isTerminal || job.state == .running || job.state == .suspended then
    some { job with state := .pending, endTime := none }
  else none

inductive TransitionOutcome where
  | applied (job : Job)
  | noOp
  | invalid

def applyTransition (now : Time) (target : JobState) (job : Job) : TransitionOutcome :=
  if job.state = target then .noOp
  else match job.transition now target with
    | some next => .applied next
    | none => .invalid

end Job
end Spur
