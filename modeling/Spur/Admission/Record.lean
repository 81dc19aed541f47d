import Spur.Library.Table
import Spur.Resource

/-! Records of the agent's admission store and the checks on them. Times are milliseconds. -/
namespace Spur.Admission
open Spur.Library

def admissionSchemaVersion : Nat := 1

def launchLifetimeMs : Nat := 120000

def stepBatch : Nat := 0xFFFFFFFB

def saturatingAdd (a b : Nat) : Nat := min (a + b) u64Max

/-- A run, or every attempt of a job when no attempt is named. -/
structure RunKey where
  jobId : Nat
  attempt : Option Nat
  deriving DecidableEq

def RunKey.new (jobId runAttempt : Nat) : Option RunKey := if runAttempt > 0 then some ⟨jobId,some runAttempt⟩ else none

def RunKey.anyAttempt (jobId : Nat) : RunKey := ⟨jobId,none⟩

def RunKey.display (key : RunKey) : String :=
  match key.attempt with
  | some attempt => toString key.jobId ++ "." ++ toString attempt
  | none => toString key.jobId ++ ".*"

structure AdmittedResources where
  cpuIds : List Nat
  memoryMb : Nat
  gpuDevices : List Nat
  deriving DecidableEq

def AdmittedResources.default : AdmittedResources := ⟨[],0,[]⟩

inductive RunState where
  | admitted | cleaned
  deriving DecidableEq

inductive HookState where
  | notStarted | pending | running | succeeded | failed | unknown
  deriving DecidableEq

def HookState.settledAfterOwnerLoss : HookState → HookState
  | .pending | .running => .unknown
  | other => other

def HookState.isInFlight : HookState → Bool
  | .pending | .running => true
  | _ => false

inductive EpilogOwed where
  | yes | no
  deriving DecidableEq

structure ConflictHold where
  reason : String
  observedAtUnixMs : Nat
  deriving DecidableEq

/-- The acknowledged raft index; zero says that the controller has no record of the run. -/
structure ControllerAck where
  releaseRaftIndex : Option Nat
  deriving DecidableEq

def ControllerAck.isCommitted (ack : ControllerAck) : Bool := ack.releaseRaftIndex.any (· > 0)

structure RunAdmission where
  schemaVersion : Nat
  jobId : Nat
  runAttempt : Nat
  node : String
  allocation : AdmittedResources
  state : RunState
  createdAtUnixMs : Nat
  rejectBeforeUnixMs : Nat
  maxLaunchExpiryUnixMs : Nat
  lifecycleOwnerStep : Option Nat
  prolog : HookState
  epilog : HookState
  conflictHold : Option ConflictHold
  controllerAck : ControllerAck
  cancelledByController : Bool
  sliceReleased : Bool
  deriving DecidableEq

namespace RunAdmission

def new (jobId runAttempt : Nat) (node : String) (allocation : AdmittedResources) (createdAtUnixMs : Nat) :
    RunAdmission where
  schemaVersion := admissionSchemaVersion
  jobId := jobId
  runAttempt := runAttempt
  node := node
  allocation := allocation
  state := .admitted
  createdAtUnixMs := createdAtUnixMs
  rejectBeforeUnixMs := 0
  maxLaunchExpiryUnixMs := 0
  lifecycleOwnerStep := none
  prolog := .notStarted
  epilog := .notStarted
  conflictHold := none
  controllerAck := ⟨none⟩
  cancelledByController := false
  sliceReleased := false

variable (run : RunAdmission)

def key : Option RunKey := RunKey.new run.jobId run.runAttempt

def hasInFlightHook : Bool := run.prolog.isInFlight || run.epilog.isInFlight

def agesOutAt (retentionMs : Nat) : Nat := max run.maxLaunchExpiryUnixMs (saturatingAdd run.createdAtUnixMs retentionMs)

def fenceIsLive (nowUnixMs : Nat) : Bool :=
  run.rejectBeforeUnixMs > 0 && nowUnixMs ≤ saturatingAdd run.rejectBeforeUnixMs launchLifetimeMs

def couldBeTheSameLaunch (readmittedAtUnixMs : Nat) : Bool :=
  run.createdAtUnixMs > 0 && readmittedAtUnixMs - run.createdAtUnixMs < launchLifetimeMs

end RunAdmission

inductive ParticipantLifecycle where
  | admitted | starting | running | exited | cleaned
  deriving DecidableEq

structure SupervisorRef where
  pid : Nat
  startTicks : Nat
  bootId : Option String
  deriving DecidableEq

structure FinalReport where
  required : Bool
  acknowledged : Bool
  deriving DecidableEq

structure ParticipantAdmission where
  schemaVersion : Nat
  jobId : Nat
  runAttempt : Nat
  stepId : Nat
  node : String
  commandDigest : String
  allocationSubset : AdmittedResources
  issuedAtUnixMs : Nat
  expiresAtUnixMs : Nat
  lifecycle : ParticipantLifecycle
  supervisor : Option SupervisorRef
  finalReport : FinalReport
  deriving DecidableEq

namespace ParticipantAdmission

variable (participant : ParticipantAdmission)

def key : Option RunKey := RunKey.new participant.jobId participant.runAttempt

def holdsRunUntil : Nat := participant.expiresAtUnixMs

def isLive : Bool := participant.lifecycle = .starting || participant.lifecycle = .running

def reportSettled : Bool := !participant.finalReport.required || participant.finalReport.acknowledged

end ParticipantAdmission

structure AdmittedRun where
  run : RunAdmission
  participants : List ParticipantAdmission

namespace AdmittedRun

variable (admitted : AdmittedRun)

def isSettled : Bool :=
  admitted.run.state = .cleaned && admitted.run.conflictHold.isNone &&
    admitted.participants.all ParticipantAdmission.reportSettled

def agedOut (nowUnixMs retentionMs : Nat) : Bool :=
  if admitted.run.createdAtUnixMs = 0 then false
  else (admitted.participants.all fun participant =>
      !participant.isLive && participant.reportSettled &&
        (participant.holdsRunUntil = 0 || nowUnixMs > participant.holdsRunUntil)) &&
    nowUnixMs ≥ admitted.run.agesOutAt retentionMs

def collectable (nowUnixMs retentionMs : Nat) : Bool :=
  if admitted.run.conflictHold.isSome || admitted.run.fenceIsLive nowUnixMs || admitted.run.hasInFlightHook ||
      (admitted.run.maxLaunchExpiryUnixMs > 0 && nowUnixMs ≤ admitted.run.maxLaunchExpiryUnixMs) then false
  else (admitted.participants.all fun participant =>
      !participant.isLive && (participant.expiresAtUnixMs = 0 || nowUnixMs > participant.expiresAtUnixMs)) &&
    (admitted.isSettled || admitted.agedOut nowUnixMs retentionMs)

end AdmittedRun

inductive LaunchRefusal where
  | fenced | expired | conflictingDigest
  deriving DecidableEq

structure LaunchFences where
  issuedAtUnixMs : Nat
  expiresAtUnixMs : Nat
  commandDigest : String
  deriving DecidableEq

/-- Nothing to admit. A zero stamp switches off the check that it drives. -/
def LaunchFences.check (fences : LaunchFences) (nowUnixMs rejectBeforeUnixMs : Nat) (admittedDigest : Option String) :
    Option LaunchRefusal :=
  if rejectBeforeUnixMs > 0 && fences.issuedAtUnixMs > 0 && fences.issuedAtUnixMs ≤ rejectBeforeUnixMs then some .fenced
  else if fences.expiresAtUnixMs > 0 && nowUnixMs > fences.expiresAtUnixMs then some .expired
  else match admittedDigest with
    | some admitted =>
      if admitted ≠ fences.commandDigest &&
          !(fences.issuedAtUnixMs = 0 && (admitted = "" || fences.commandDigest = "")) then some .conflictingDigest
      else none
    | none => none

end Spur.Admission
