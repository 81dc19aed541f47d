import Spur.Cluster.Apply

/-! Proposers of the controller. Other entries may commit between a proposer's read and the apply. -/
namespace Spur.Cluster
open Spur Spur.Library

structure Placement where
  nodeNames : List String
  resources : ResourceAllocations
  perNodeAlloc : Table String ResourceAllocations
  srunStepDispatch : Bool := false
  idleFill : Bool := false

/-- `fabric` is the verdict of the job's fabric and GPU binding checks on the placement. -/
def reservePlacement (s : State) (fabric : Job → Placement → Bool) (jobId : JobId) (placement : Placement) :
    Option WalOperation := do
  guard (placement.nodeNames.all fun name => placement.perNodeAlloc.contains name)
  let job ← s.jobs[jobId]?
  guard (fabric job placement)
  guard (job.state = .pending)
  guard (job.holdsAPlacement = false)
  guard (excludedNode job placement.nodeNames = none)
  return .jobStart {
    jobId
    nodes := placement.nodeNames
    resources := placement.resources
    perNodeAlloc := placement.perNodeAlloc
    srunStepDispatch := placement.srunStepDispatch
    runAttempt := min (job.runAttempt + 1) u32Max
    idleFill := placement.idleFill }

def activateJob (s : State) (jobId : JobId) (runAttempt : Nat) : Option WalOperation := do
  let job ← s.jobs[jobId]?
  guard (job.state = .pending)
  guard (job.runAttempt = runAttempt)
  return .jobStateChange
    { jobId, oldState := .pending, newState := .running, expectedRunAttempt := some runAttempt }

/-- `begin` is the end of the launch backoff the job has earned. -/
def abortPlacement (config : Config) (begin : Time) (s : State) (jobId : JobId) (runAttempt : Nat)
    (spareRequeueBudget : Bool) : Option WalOperation := do
  let job ← s.jobs[jobId]?
  guard job.holdsAPlacement
  return .jobDispatchBackoff {
    jobId
    beginTime := begin
    spareRequeueBudget
    runAttempt
    atMaxRequeue := !spareRequeueBudget && decide (job.requeueCount ≥ config.maxBatchRequeue) }

def launchFailureHeldDesc : String := "launch failed requeued held"

def holdJobForLaunchFailure (s : State) (jobId : JobId) (reasonDesc : Option String) (runAttempt : Nat) :
    Option WalOperation := do
  let job ← s.jobs[jobId]?
  guard (job.state = .pending)
  return .jobPriorityChange {
    jobId
    oldPriority := job.priority
    newPriority := 0
    pendingReason := some .held
    pendingReasonDesc := some (reasonDesc.getD launchFailureHeldDesc)
    runAttempt := some runAttempt }

structure Canceller where
  user : String
  uid : Option Nat
  system : Bool

def Canceller.provenance (canceller : Canceller) (owner : String) : CancelProvenance where
  origin := if canceller.system then "System" else if canceller.user = owner then "User" else "Admin"
  user := canceller.user
  uid := canceller.uid

def checkJobOwner (user : String) (isInternal : Bool) (owner : String) : Bool :=
  isInternal || (user != "" && user == owner)

def jobCancelled (jobId : JobId) (cancel : CancelProvenance) : WalOperation :=
  .jobComplete { jobId, exitCode := -1, state := .cancelled, cancel := some cancel }

/-- The first entry of a cancel: a signal while the job holds nodes, else the completion itself. -/
def cancelJobFor (now : Time) (s : State) (jobId : JobId) (canceller : Canceller) (operatesJobs : Bool) :
    Option WalOperation := do
  let job ← s.jobs[jobId]?
  guard (job.state.isTerminal = false)
  guard (checkJobOwner canceller.user operatesJobs job.spec.user)
  let cancel := canceller.provenance job.spec.user
  return if job.allocatedNodes.isEmpty then jobCancelled jobId cancel else .jobCancelSignaled jobId now (some cancel)

/-- A forced completion: the marks of a time limit or a cancel outrank an ordinary exit. -/
def completeJobWith (s : State) (jobId : JobId) (exitCode : Int) (state : JobState) (unreportedNodes : List String)
    (cancel : Option CancelProvenance) : Option WalOperation := do
  let job ← s.jobs[jobId]?
  guard (job.state.isTerminal = false)
  let verdict :=
    if state ≠ .failed ∧ state ≠ .completed then state
    else if job.timeLimitSignaledAt.isSome then .timeout
    else if job.cancelSignaledAt.isSome then .cancelled
    else state
  return .jobComplete { jobId, exitCode, state := verdict, unreportedNodes, cancel }

/-- `holdSecs` is the wait after which a killed run may be placed again. -/
def requeueOneJob (now : Time) (holdSecs : Nat) (s : State) (jobId : JobId) (actor : Actor) (callerIsAdmin hold : Bool) :
    Option WalOperation := do
  let job ← s.jobs[jobId]?
  guard (checkJobOwner actor.user callerIsAdmin job.spec.user)
  guard (!(job.spec.interactive || job.spec.srunJob || job.spec.pty))
  guard (job.state ≠ .pending ∧ job.state ≠ .completing ∧ job.state ≠ .preempted ∧ job.state ≠ .requeued)
  let live := job.state = .running ∨ job.state = .suspended
  return .jobUserRequeue {
    jobId
    hold
    beginTime := if live ∧ hold = false then some (job.preemptHoldUntil now holdSecs) else none
    by_ := if actor.user = "" then none else some actor }

structure PartitionChange where
  nodes : Option String := none
  selector : Option (Table String String) := none
  state : Option String := none
  isDefault : Option Bool := none
  maxTime : Option String := none
  defaultTime : Option String := none
  maxNodes : Option Nat := none
  clearMaxNodes : Bool := false
  minNodes : Option Nat := none
  allowAccounts : Option (List String) := none
  allowGroups : Option (List String) := none
  denyAccounts : Option (List String) := none
  denyQos : Option (List String) := none
  allowQos : Option (List String) := none
  priorityTier : Option Nat := none
  preemptMode : Option String := none
  preemptExemptTime : Option (Option Nat) := none
  graceTime : Option (Option Nat) := none

/-- A time limit of a request: unlimited clears it, any other text must be a time. -/
def timePatch (parseTimeMinutes : String → Option Nat) : Option String → Option (Option (Option Nat))
  | none => some none
  | some text =>
    let upper := text.toList.map Text.toAsciiUpper
    if upper = "INFINITE".toList ∨ upper = "UNLIMITED".toList then some (some none)
    else (parseTimeMinutes text).map fun minutes => some (some minutes)

/-- `parseTimeMinutes` is the time grammar of the configuration. -/
def updatePartition (parseTimeMinutes : String → Option Nat) (s : State) (name : String) (change : PartitionChange) :
    Option WalOperation := do
  guard (s.partitions.any fun part => part.name = name)
  let maxTimeMinutes ← timePatch parseTimeMinutes change.maxTime
  let defaultTimeMinutes ← timePatch parseTimeMinutes change.defaultTime
  return .partitionUpdate name {
    nodes := change.nodes
    selector := change.selector
    state := change.state
    maxTimeMinutes
    defaultTimeMinutes
    maxNodes := if change.clearMaxNodes then some none else change.maxNodes.map some
    minNodes := change.minNodes
    allowAccounts := change.allowAccounts
    allowGroups := change.allowGroups
    denyAccounts := change.denyAccounts
    denyQos := change.denyQos
    allowQos := change.allowQos
    priorityTier := change.priorityTier
    preemptMode := change.preemptMode
    isDefault := change.isDefault
    preemptExemptTime := change.preemptExemptTime
    graceTime := change.graceTime }

end Spur.Cluster
