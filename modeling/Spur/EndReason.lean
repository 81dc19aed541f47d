import Spur.Job

/-! Why a run ended: `spur_core::end_reason` and the end record `JobFinalized` of `spurctld::raft`. -/
namespace Spur

inductive EndReason where
  | none | nonZeroExitCode | raisedSignal | timeLimit | deadLine | outOfMemory | preempted | cancelled | requeued
  | nodeDown | jobLaunchFailure | completingTimeout | userCancel | adminCancel | systemCancel | nodeRemoved
  deriving DecidableEq

def EndReason.isCancel : EndReason → Bool
  | userCancel | adminCancel | systemCancel => true
  | _ => false

def NodeFailure.detail (failure : NodeFailure) : String :=
  "node " ++ failure.node ++ (if failure.reason.isEmpty then "" else ": " ++ failure.reason) ++
    failure.reasonUid.elim "" fun uid => " (set by uid " ++ toString uid ++ ")"

def signalName (signal : Int) : String :=
  if signal = 1 then "Hangup"
  else if signal = 2 then "Interrupt"
  else if signal = 6 then "Aborted"
  else if signal = 9 then "Killed"
  else if signal = 11 then "Segmentation_fault"
  else if signal = 13 then "Broken_pipe"
  else if signal = 15 then "Terminated"
  else "Signal " ++ toString signal

def preemptionSummary : Option JobId → Option String → String
  | some preemptor,some qos => "preempted by job " ++ toString preemptor ++ " (QOS: " ++ qos ++ ")"
  | some preemptor,none => "preempted by job " ++ toString preemptor
  | none,_ => "preempted"

namespace Job

def cancelReason (job : Job) : EndReason :=
  match job.cancelledBy.map CancelProvenance.origin with
  | some "User" => .userCancel
  | some "Admin" => .adminCancel
  | some "System" => .systemCancel
  | _ => .cancelled

def failureReason (job : Job) : EndReason × Option String :=
  if !job.unreportedNodes.isEmpty then
    (.completingTimeout,some ("no completion reported by " ++ ",".intercalate job.unreportedNodes))
  else if job.exitSignal ≠ 0 then
    (.raisedSignal,some ("signal " ++ toString job.exitSignal ++ " (" ++ signalName job.exitSignal ++ ")"))
  else
    let hint := match job.exitCode with
      | some 126 => some "exit 126: command not executable (shell convention)"
      | some 127 => some "exit 127: command not found (shell convention)"
      | _ => Option.none
    (.nonZeroExitCode,hint)

def endReason (job : Job) : JobState → EndReason × Option String
  | .completed => (.none,none)
  | .failed => job.failureReason
  | .timeout => (.timeLimit,none)
  | .deadline => (.deadLine,none)
  | .outOfMemory => (.outOfMemory,none)
  | .preempted => (.preempted,some (preemptionSummary job.preemptedBy job.preemptQos))
  | .cancelled => (job.cancelReason,none)
  | .requeued => (.requeued,none)
  | .nodeFail =>
    if job.pendingReason = .jobLaunchFailure then (.jobLaunchFailure,job.launchFailureDetail)
    else match job.nodeFailure with
      | some failure => if failure.removed then (.nodeRemoved,some failure.detail) else (.nodeDown,some failure.detail)
      | none => (.nodeDown,none)
  | .pending | .running | .completing | .suspended => (.none,none)

def endedBy (job : Job) (reason : EndReason) : Option CancelProvenance :=
  if reason.isCancel then job.cancelledBy else none

def elapsedSecs (now : Time) (job : Job) : Nat :=
  ((job.runTime now).map fun d => (max d.numSeconds 0).toNat).getD 0

end Job

structure JobFinalized where
  jobId : JobId
  state : JobState
  exitCode : Int
  actualSecs : Nat
  reason : EndReason
  reasonDetail : Option String
  endedBy : Option CancelProvenance
  deriving DecidableEq

namespace JobFinalized

def forJobWithElapsed (job : Job) (state : JobState) (exitCode : Int) (elapsedSecs : Nat) : JobFinalized :=
  let (reason,reasonDetail) := job.endReason state
  { jobId := job.jobId, state, exitCode, actualSecs := elapsedSecs, reason, reasonDetail,
    endedBy := job.endedBy reason }

def forJob (now : Time) (job : Job) (state : JobState) (exitCode : Int) : JobFinalized :=
  forJobWithElapsed job state exitCode (job.elapsedSecs now)

end JobFinalized
end Spur
