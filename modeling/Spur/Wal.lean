import Spur.Node

/-! The operations of the Raft log and the records they carry, from `spur_core::wal` and its neighbours. -/
namespace Spur
open Spur.Library

abbrev StepId := Nat

def stepReservedMin : StepId := 0xFFFFFFF0

def isUserStep (stepId : StepId) : Bool := stepId < stepReservedMin

inductive StepState where
  | pending | running | completed | failed | cancelled
  deriving DecidableEq

def StepState.isTerminal : StepState → Bool
  | completed | failed | cancelled => true
  | _ => false

inductive TaskDistribution where
  | block | cyclic | plane | arbitrary
  deriving DecidableEq

structure JobStep where
  jobId : JobId
  stepId : StepId
  name : String
  state : StepState
  numTasks : Nat
  cpusPerTask : Nat
  resources : ResourceAllocations
  nodes : List String
  distribution : TaskDistribution
  startTime : Option Time
  endTime : Option Time
  exitCode : Option Int
  pty : Bool
  jobShell : Bool

inductive PartitionState where
  | up | down | drain | inactive
  deriving DecidableEq

structure Partition where
  name : String := ""
  state : PartitionState := .up
  isDefault : Bool := false
  nodes : String := ""
  selector : Table String String := ∅
  maxTimeMinutes : Option Nat := none
  defaultTimeMinutes : Option Nat := none
  maxNodes : Option Nat := none
  minNodes : Nat := 1
  allowRoot : Bool := true
  exclusiveUser : Bool := false
  allowAccounts : List String := []
  allowGroups : List String := []
  allowQos : List String := []
  denyAccounts : List String := []
  denyQos : List String := []
  preemptMode : Option PreemptMode := none
  priorityTier : Nat := 1
  preemptExemptTime : Option Nat := none
  graceTime : Option Nat := none
  deriving DecidableEq

structure ReservationFlags where
  maint : Bool := false
  ignoreJobs : Bool := false
  noHoldJobs : Bool := false
  overlap : Bool := false
  deriving DecidableEq

structure Reservation where
  name : String
  startTime : Time
  endTime : Time
  nodes : List String
  accounts : List String
  users : List String
  flags : ReservationFlags
  owner : String
  deriving DecidableEq

structure AdmissionToken where
  id : String
  secretHash : String
  createdAt : Time
  expiresAt : Option Time
  revoked : Bool
  deriving DecidableEq

inductive K0sPhase where
  | down | provisioning | ready | degraded
  deriving DecidableEq

structure K0sClusterState where
  phase : K0sPhase := .down
  controlPlaneNode : Option String := none
  controlPlaneNodes : List String := []
  memberNodes : List String := []
  resetRequested : Bool := false
  deriving DecidableEq

/-- The fields of a `PartitionUpdate`: an absent field is left unchanged; for a field that is itself
optional, `some none` clears it. -/
structure PartitionPatch where
  nodes : Option String := none
  selector : Option (Table String String) := none
  state : Option String := none
  maxTimeMinutes : Option (Option Nat) := none
  defaultTimeMinutes : Option (Option Nat) := none
  maxNodes : Option (Option Nat) := none
  minNodes : Option Nat := none
  allowAccounts : Option (List String) := none
  allowGroups : Option (List String) := none
  denyAccounts : Option (List String) := none
  denyQos : Option (List String) := none
  allowQos : Option (List String) := none
  priorityTier : Option Nat := none
  preemptMode : Option String := none
  isDefault : Option Bool := none
  preemptExemptTime : Option (Option Nat) := none
  graceTime : Option (Option Nat) := none
  deriving DecidableEq

namespace Wal

structure JobStateChange where
  jobId : JobId
  oldState : JobState
  newState : JobState
  pendingReason : Option PendingReason := none
  pendingPriority : Option Nat := none
  beginTime : Option Time := none
  pendingReasonDesc : Option String := none
  expectedRunAttempt : Option Nat := none
  at_ : Option Time := none

structure JobStart where
  jobId : JobId
  nodes : List String
  resources : ResourceAllocations
  perNodeAlloc : Table String ResourceAllocations := ∅
  srunStepDispatch : Bool := false
  runAttempt : Nat := 0
  idleFill : Bool := false
  at_ : Option Time := none

structure JobComplete where
  jobId : JobId
  exitCode : Int
  state : JobState
  unreportedNodes : List String := []
  cancel : Option CancelProvenance := none
  controllerInitiated : Bool := false
  at_ : Option Time := none

structure JobNodeComplete where
  jobId : JobId
  nodeName : String
  exitCode : Int
  signal : Int
  runAttempt : Nat := 0
  at_ : Option Time := none

structure JobPriorityChange where
  jobId : JobId
  oldPriority : Nat
  newPriority : Nat
  pendingReason : Option PendingReason := none
  pendingReasonDesc : Option String := none
  resetRequeueCount : Bool := false
  clearReservation : Bool := false
  runAttempt : Option Nat := none

structure JobDispatchBackoff where
  jobId : JobId
  beginTime : Time
  spareRequeueBudget : Bool := false
  runAttempt : Nat := 0
  atMaxRequeue : Bool := false

structure JobPreemptRequeue where
  jobId : JobId
  beginTime : Time
  preemptedBy : Option JobId := none
  preemptQos : Option String := none
  at_ : Option Time := none
  runAttempt : Option Nat := none
  handoff : Bool := false

structure JobPreemptCancel where
  jobId : JobId
  preemptedBy : Option JobId := none
  preemptQos : Option String := none
  at_ : Option Time := none
  runAttempt : Option Nat := none

structure JobUserRequeue where
  jobId : JobId
  hold : Bool := false
  beginTime : Option Time := none
  by_ : Option Actor := none
  at_ : Option Time := none

structure JobSuspend where
  jobId : JobId
  at_ : Time
  preemptedBy : Option JobId := none
  preemptQos : Option String := none
  by_ : Option Actor := none

structure NodeRegister where
  name : String
  hostname : String := ""
  resources : ResourceSet
  address : String
  port : Nat := 6818
  wgPubkey : String := ""
  version : String := ""
  labels : Table String String := ∅
  source : NodeSource := .nativeHost
  capabilities : List String := []

structure NodeUpdate where
  name : String
  hostname : String := ""
  resources : ResourceSet
  address : String
  port : Nat
  wgPubkey : String
  version : String
  source : NodeSource := .nativeHost
  capabilities : List String := []

structure NodeStateChange where
  name : String
  oldState : NodeState
  newState : NodeState
  reason : Option String
  adminLocked : Bool := false
  reasonUid : Option Nat := none
  reasonTime : Option Time := none
  at_ : Option Time := none

structure ReservationUpdate where
  name : String
  durationMinutes : Nat
  addNodes : List String
  removeNodes : List String
  addUsers : List String
  removeUsers : List String
  addAccounts : List String
  removeAccounts : List String

structure NodeK0sAssign where
  name : String
  role : K0sRole
  meshIp : String
  podCidr : String

structure K0sSetPhase where
  phase : K0sPhase
  controlPlaneNode : Option String := none
  controlPlaneNodes : List String := []
  memberNodes : List String := []
  resetRequested : Bool := false

end Wal

inductive WalOperation where
  | jobSubmit (jobId : JobId) (spec : JobSpec)
  | jobStateChange (entry : Wal.JobStateChange)
  | jobStart (entry : Wal.JobStart)
  | jobComplete (entry : Wal.JobComplete)
  | jobNodeComplete (entry : Wal.JobNodeComplete)
  | jobTimeLimitSignaled (jobId : JobId) (at_ : Time)
  | jobCancelSignaled (jobId : JobId) (at_ : Time) (cancel : Option CancelProvenance)
  | jobStepComplete (jobId : JobId) (stepId : StepId) (exitCode : Int)
  | jobStepCreate (step : JobStep)
  | jobPriorityChange (entry : Wal.JobPriorityChange)
  | jobExcludeUpdate (jobId : JobId) (exclude : Option String)
  | jobDispatchBackoff (entry : Wal.JobDispatchBackoff)
  | jobPreemptRequeue (entry : Wal.JobPreemptRequeue)
  | jobPreemptCancel (entry : Wal.JobPreemptCancel)
  | jobUserRequeue (entry : Wal.JobUserRequeue)
  | jobSuspend (entry : Wal.JobSuspend)
  | jobResume (jobId : JobId) (at_ : Time)
  | jobEvict (jobId : JobId) (detail : Option String) (at_ : Option Time)
  | jobLaunchFailureDetail (jobId : JobId) (detail : String)
  | nodeRegister (entry : Wal.NodeRegister)
  | nodeUpdate (entry : Wal.NodeUpdate)
  | nodeStateChange (entry : Wal.NodeStateChange)
  | nodeLabelsUpdate (name : String) (set : Table String String) (remove : List String)
  | nodeRemove (name : String) (reason : Option String) (at_ : Option Time)
  | tokenCreate (token : AdmissionToken)
  | tokenRevoke (tokenId : String)
  | partitionCreate (partition : Partition)
  | partitionUpdate (name : String) (patch : PartitionPatch)
  | partitionDelete (name : String)
  | reservationCreate (reservation : Reservation)
  | reservationUpdate (entry : Wal.ReservationUpdate)
  | reservationDelete (name : String)
  | nodeK0sAssign (entry : Wal.NodeK0sAssign)
  | k0sSetPhase (entry : Wal.K0sSetPhase)
  | nodeK0sClear (name : String)
  | evictTerminalJobs (jobIds : List JobId)
  | nodeK0sSetError (name : String) (error : Option String)
  | k0sMemberNodesAdd (nodes : List String)
  | k0sMemberNodesRemove (nodes : List String)
  | jobTimeLimitExpired (jobId : JobId) (runAttempt : Nat) (at_ : Time)
  | jobPreemptSignaled (jobId : JobId) (pending : PreemptPending)

namespace WalOperation

def occurredAt : WalOperation → Option Time
  | jobStart entry => entry.at_
  | jobStateChange entry => entry.at_
  | jobComplete entry => entry.at_
  | jobNodeComplete entry => entry.at_
  | jobPreemptRequeue entry => entry.at_
  | jobUserRequeue entry => entry.at_
  | jobEvict _ _ at_ => at_
  | nodeStateChange entry => entry.at_
  | nodeRemove _ _ at_ => at_
  | jobSuspend entry => some entry.at_
  | jobResume _ at_ => some at_
  | jobTimeLimitSignaled _ at_ => some at_
  | jobTimeLimitExpired _ _ at_ => some at_
  | jobCancelSignaled _ at_ _ => some at_
  | jobPreemptSignaled _ pending => some pending.signaledAt
  | _ => none

def stampOccurredAt (now : Time) : WalOperation → WalOperation
  | jobStart entry => jobStart { entry with at_ := some (entry.at_.getD now) }
  | jobStateChange entry => jobStateChange { entry with at_ := some (entry.at_.getD now) }
  | jobComplete entry => jobComplete { entry with at_ := some (entry.at_.getD now) }
  | jobNodeComplete entry => jobNodeComplete { entry with at_ := some (entry.at_.getD now) }
  | jobPreemptRequeue entry => jobPreemptRequeue { entry with at_ := some (entry.at_.getD now) }
  | jobUserRequeue entry => jobUserRequeue { entry with at_ := some (entry.at_.getD now) }
  | jobEvict jobId detail at_ => jobEvict jobId detail (some (at_.getD now))
  | nodeStateChange entry => nodeStateChange { entry with at_ := some (entry.at_.getD now) }
  | nodeRemove name reason at_ => nodeRemove name reason (some (at_.getD now))
  | op => op

end WalOperation
end Spur
