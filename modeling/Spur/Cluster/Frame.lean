import Spur.Cluster.Apply

/-! What an entry leaves alone. -/
namespace Spur.Cluster
open Spur Spur.Library

/-- The two states differ in their jobs, nodes, steps and earmarks at most. -/
def Touches (s t : State) : Prop :=
  ∃ jobs nodes steps freed, t = { s with jobs := jobs, nodes := nodes, steps := steps, preemptFreedNodes := freed }

def aboutJobs : WalOperation → Bool
  | .jobSubmit .. | .jobStepCreate .. | .evictTerminalJobs .. | .tokenCreate .. | .tokenRevoke .. | .partitionCreate ..
  | .partitionUpdate .. | .partitionDelete .. | .reservationCreate .. | .reservationUpdate .. | .reservationDelete ..
  | .k0sSetPhase .. | .k0sMemberNodesAdd .. | .k0sMemberNodesRemove .. => false
  | _ => true

theorem applyOperation_touches {config : Config} {env : Env} {s : State} {op : WalOperation}
    (about : aboutJobs op = true) : Touches s (applyOperation config env s op).1 := by
  cases op
  case jobSubmit | jobStepCreate | evictTerminalJobs | tokenCreate | tokenRevoke | partitionCreate | partitionUpdate
      | partitionDelete | reservationCreate | reservationUpdate | reservationDelete | k0sSetPhase | k0sMemberNodesAdd
      | k0sMemberNodesRemove => cases about
  -- Whatever branch the entry's function takes, it writes to those tables only.
  all_goals
    simp only [applyOperation,applyJobStateChange,applyJobStart,applyJobComplete,applyJobNodeComplete,
      applyJobCancelSignaled,applyJobStepComplete,applyJobPriorityChange,applyJobExcludeUpdate,applyJobDispatchBackoff,
      applyJobPreemptRequeue,applyJobPreemptCancel,applyJobUserRequeue,applyJobSuspend,applyJobResume,applyNodeUpdate,
      applyNodeStateChange,applyJobTimeLimitExpired,applyJobPreemptSignaled]
    repeat' split
    all_goals exact ⟨_,_,_,_,rfl⟩

end Spur.Cluster
