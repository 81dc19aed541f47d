import Spur.Release
import Spur.Library.Pointwise
import Spur.Cluster.Refinement

/-! Two replicas' records of one job and of one node, up to the submit time, group anchor and heartbeat time. -/
namespace Spur.Job
open Spur.Library Spur.Cluster Option

/-- The record of a job at a replica that received it at another time and chose another anchor. -/
def redate (submitted : Time) (anchor : Option JobId) (job : Job) : Job :=
  { job with submitTime := submitted, hetJobId := anchor }

section

variable (submitted : Time) (anchor : Option JobId) (job : Job)

@[simp] theorem state_redate : (job.redate submitted anchor).state = job.state := rfl

@[simp] theorem runAttempt_redate : (job.redate submitted anchor).runAttempt = job.runAttempt := rfl

@[simp] theorem preemptGrace_redate : (job.redate submitted anchor).preemptGrace = job.preemptGrace := rfl

@[simp] theorem nodeCompletions_redate : (job.redate submitted anchor).nodeCompletions = job.nodeCompletions := rfl

@[simp] theorem allocatedNodes_redate : (job.redate submitted anchor).allocatedNodes = job.allocatedNodes := rfl

@[simp] theorem holdsAPlacement_redate : (job.redate submitted anchor).holdsAPlacement = job.holdsAPlacement := rfl

theorem transition_redate {now clock : Time} {target : JobState}
    (dated : target.isTerminal = false ∨ job.endTime.isSome = true) :
    (job.redate submitted anchor).transition clock target =
      (job.transition now target).map (redate submitted anchor) := by
  have same : (if target = .pending then none
        else if target.isTerminal then some (job.endTime.getD clock) else job.endTime) =
      if target = .pending then none
        else if target.isTerminal then some (job.endTime.getD now) else job.endTime := by
    rcases dated with live | ended
    · rw [live]
      rfl
    · obtain ⟨finish,stored⟩ := isSome_iff_exists.mp ended
      rw [stored]
      rfl
  unfold transition
  by_cases valid : job.state.validTransition target = true
  · rw [if_pos valid,state_redate,if_pos valid]
    refine congrArg some ?_
    unfold redate
    rw [same]
  · rw [if_neg valid,state_redate,if_neg valid]
    rfl

theorem applyTransition_redate {now clock : Time} {target : JobState} (live : target.isTerminal = false) :
    (job.redate submitted anchor).applyTransition clock target =
      match job.applyTransition now target with
      | .applied next => .applied (next.redate submitted anchor)
      | .noOp => .noOp
      | .invalid => .invalid := by
  unfold applyTransition
  rw [state_redate,transition_redate submitted anchor job (.inl live)]
  split
  · rfl
  · cases job.transition now target <;> rfl

theorem applySuspend_redate (now clock at_ : Time) (preemptedBy : Option JobId) (preemptQos : Option String)
    (by_ : Option Actor) :
    (job.redate submitted anchor).applySuspend clock at_ preemptedBy preemptQos by_ =
      (job.applySuspend now at_ preemptedBy preemptQos by_).map (redate submitted anchor) := by
  unfold applySuspend
  rw [preemptGrace_redate,applyTransition_redate submitted anchor job rfl]
  split
  · rfl
  cases job.applyTransition now _ with
  | applied next =>
    dsimp only [map_some]
    split <;> rfl
  | noOp => rfl
  | invalid => rfl

theorem completing_redate {now clock at_ : Time} :
    ((job.redate submitted anchor).beginCompleting clock at_).getD (job.redate submitted anchor) =
      ((job.beginCompleting now at_).getD job).redate submitted anchor := by
  unfold beginCompleting
  rw [transition_redate submitted anchor job (.inl rfl),state_redate,allocatedNodes_redate]
  split
  · cases job.transition now _ <;> rfl
  · rfl

theorem adoptGraceProvenance_redate (at_ : Time) : (job.redate submitted anchor).adoptGraceProvenance at_ =
      (job.adoptGraceProvenance at_).redate submitted anchor := by
  unfold adoptGraceProvenance
  rw [preemptGrace_redate]
  cases job.preemptGrace with
  | none => rfl
  | some pending =>
    dsimp only
    cases pending.mode <;> rfl

theorem routeThroughCompleting_redate (now clock at_ : Time) :
    (job.redate submitted anchor).routeThroughCompleting clock at_ =
      (job.routeThroughCompleting now at_).redate submitted anchor := by
  unfold routeThroughCompleting
  rw [transition_redate submitted anchor job (.inl rfl),state_redate]
  split
  · cases job.transition now _ <;> rfl
  · rfl

def SameOutcome {R : Type} (first second : Job × Option R) : Prop :=
  second.1 = first.1.redate submitted anchor ∧ second.2.isSome = first.2.isSome

theorem SameOutcome.cases {R : Type} {first second : Job × Option R} (same : SameOutcome submitted anchor first second) :
    (∃ next, first = (next,none) ∧ second = (next.redate submitted anchor,none)) ∨
      ∃ next record other, first = (next,some record) ∧ second = (next.redate submitted anchor,some other) := by
  obtain ⟨next,_ | record⟩ := first <;> obtain ⟨after,_ | other⟩ := second <;> obtain ⟨twin,ended⟩ := same
  · exact .inl ⟨next,rfl,congrArg (·,_) twin⟩
  · cases ended
  · cases ended
  · exact .inr ⟨next,record,other,rfl,congrArg (·,_) twin⟩

theorem rependAfterPreemption_redate (now clock begin : Time) (preemptedBy : Option JobId)
    (preemptQos : Option String) (at_ : Time) :
    SameOutcome submitted anchor (job.rependAfterPreemption now begin preemptedBy preemptQos at_)
      ((job.redate submitted anchor).rependAfterPreemption clock begin preemptedBy preemptQos at_) := by
  unfold rependAfterPreemption
  rw [transition_redate submitted anchor job (.inl rfl)]
  cases job.transition now _ with
  | none => exact ⟨rfl,rfl⟩
  | some ended =>
    dsimp only [map_some]
    generalize stopped : ({ ({ ended with exitCode := some (-1), endTime := some at_ } : Job).endSuspension at_ with
      nodeCompletions := ∅ } : Job) = stop
    have other : ({ ({ ended.redate submitted anchor with exitCode := some (-1), endTime := some at_ } :
        Job).endSuspension at_ with nodeCompletions := ∅ } : Job) = stop.redate submitted anchor := by
      rw [← stopped]
      rfl
    rw [other,transition_redate submitted anchor stop (.inl rfl)]
    cases stop.transition now _ with
    | none => exact ⟨rfl,rfl⟩
    | some next => exact ⟨rfl,rfl⟩

end

section

private theorem atLeastAsBad_total {b c : NodeCompletion} : atLeastAsBad b c = true ∨ atLeastAsBad c b = true := by
  unfold atLeastAsBad
  grind

private theorem atLeastAsBad_trans {b c d : NodeCompletion} (first : atLeastAsBad b c = true)
    (second : atLeastAsBad c d = true) : atLeastAsBad b d = true := by
  unfold atLeastAsBad at *
  grind

private theorem atLeastAsBad_antisymm {b c : NodeCompletion} (first : atLeastAsBad b c = true)
    (second : atLeastAsBad c b = true) : b = c := by
  unfold atLeastAsBad at *
  cases b
  cases c
  grind

private def worse (best : Option NodeCompletion) (c : NodeCompletion) : Option NodeCompletion :=
  match best with
  | none => some c
  | some b => if atLeastAsBad b c then some c else some b

private theorem worse_comm {best : Option NodeCompletion} {c d : NodeCompletion} :
    worse (worse best c) d = worse (worse best d) c := by
  have pick (c d : NodeCompletion) : (if atLeastAsBad c d then some d else some c) =
      if atLeastAsBad d c then some c else some d := by
    split_ifs with cd dc dc
    · rw [atLeastAsBad_antisymm cd dc]
    · rfl
    · rfl
    · rcases atLeastAsBad_total with total | total
      · exact absurd total cd
      · exact absurd total dc
  cases best with
  | none => exact pick c d
  | some b =>
    unfold worse
    dsimp only
    by_cases bc : atLeastAsBad b c = true
    · by_cases bd : atLeastAsBad b d = true
      · rw [if_pos bc,if_pos bd]
        exact pick c d
      · -- `d` ranks below `b`, so below `c` too.
        have dc : ¬atLeastAsBad c d = true := fun cd => bd (atLeastAsBad_trans bc cd)
        rw [if_pos bc,if_neg bd]
        dsimp only
        rw [if_neg dc,if_pos bc]
    · by_cases bd : atLeastAsBad b d = true
      · have dc : ¬atLeastAsBad d c = true := fun dc => bc (atLeastAsBad_trans bd dc)
        rw [if_neg bc,if_pos bd]
        dsimp only
        rw [if_pos bd,if_neg dc]
      · rw [if_neg bc,if_neg bd]
        dsimp only
        rw [if_neg bd,if_neg bc]

theorem worstCompletion_perm {first second : List NodeCompletion} (perm : first.Perm second) :
    worstCompletion first = worstCompletion second :=
  (perm.filter _).foldl_eq' (fun c _ d _ best => worse_comm) none

end

theorem derivedCompletion_visit {env other : Env} (reports : Table String NodeCompletion) (primary : String) :
    derivedCompletion (env.visit reports.toList) reports primary =
      derivedCompletion (other.visit reports.toList) reports primary := by
  have perm : (env.visit reports.toList).Perm _ :=
    (env.visit_perm _).trans (other.visit_perm _).symm
  unfold derivedCompletion
  rw [worstCompletion_perm (perm.map _)]

section

variable (submitted : Time) (anchor : Option JobId) (job : Job)

theorem finalizeReportedRun_redate {env other : Env} {at_ : Time} :
    SameOutcome submitted anchor (job.finalizeReportedRun env at_)
      ((job.redate submitted anchor).finalizeReportedRun other at_) := by
  unfold finalizeReportedRun
  dsimp only
  rw [nodeCompletions_redate,allocatedNodes_redate,derivedCompletion_visit]
  generalize derivedCompletion _ _
    _ = derived
  have verdict : (job.redate submitted anchor).completionVerdict derived.1 derived.2.1 (stripOomFlag derived.2.2)
      (job.redate submitted anchor).reportedOom =
    job.completionVerdict _ _ _ job.reportedOom := rfl
  rw [verdict]
  generalize job.completionVerdict _ _ _ _ = final
  unfold transition
  rw [state_redate]
  by_cases valid : job.state.validTransition final.1 = true
  · rw [if_pos valid,if_pos valid]
    exact ⟨rfl,rfl⟩
  · rw [if_neg valid,if_neg valid]
    exact ⟨rfl,rfl⟩

private theorem settle_redate {env other : Env} {at_ : Time} {allReported : Bool} : SameOutcome submitted anchor
      (if allReported then (job.routeThroughCompleting env.now at_).finalizeReportedRun env at_
        else (job.routeThroughCompleting env.now at_,none))
      (if allReported then
          ((job.redate submitted anchor).routeThroughCompleting other.now at_).finalizeReportedRun other at_
        else ((job.redate submitted anchor).routeThroughCompleting other.now at_,none)) := by
  rw [routeThroughCompleting_redate submitted anchor job _ _]
  cases allReported with
  | true => exact finalizeReportedRun_redate submitted anchor _
  | false => exact ⟨rfl,rfl⟩

theorem advanceAfterNodeReport_redate (env other : Env) (grace : Option PreemptPending) (at_ : Time) :
    SameOutcome submitted anchor (job.advanceAfterNodeReport env grace at_)
      ((job.redate submitted anchor).advanceAfterNodeReport other grace at_) := by
  have reported : (job.redate submitted anchor).allNodesCompleted = job.allNodesCompleted := rfl
  have oom : (job.redate submitted anchor).reportedOom = job.reportedOom := rfl
  unfold advanceAfterNodeReport
  dsimp only
  rw [reported,oom]
  cases grace.filter fun _ => !(job.allNodesCompleted && job.reportedOom) with
  | none => exact settle_redate submitted anchor job
  | some pending =>
    dsimp only
    rw [adoptGraceProvenance_redate]
    by_cases waiting : (!job.allNodesCompleted) = true
    · rw [if_pos waiting,if_pos waiting]
      exact ⟨rfl,rfl⟩
    rw [if_neg waiting,if_neg waiting]
    by_cases requeued : pending.mode = .requeue
    · rw [if_pos requeued,if_pos requeued]
      exact rependAfterPreemption_redate submitted anchor job _ _ _ _ _ at_
    · rw [if_neg requeued,if_neg requeued]
      exact settle_redate submitted anchor _

end
end Spur.Job

namespace Spur.Cluster
open Spur Spur.Library

section

variable (submitted : Time) (anchor : Option JobId) (job : Job)

theorem requeueByStateChange_redate {config : Config} {entry : Wal.JobStateChange} :
    requeueByStateChange config entry (job.redate submitted anchor) =
      (requeueByStateChange config entry job).redate submitted anchor := by
  have count : (job.redate submitted anchor).requeueCount = job.requeueCount := rfl
  unfold requeueByStateChange
  rw [count]
  by_cases budget : job.requeueCount < config.maxBatchRequeue
  · rw [if_pos budget,if_pos budget]
    cases entry.pendingReasonDesc <;> cases entry.beginTime <;> rfl
  · rw [if_neg budget,if_neg budget]
    cases entry.pendingReasonDesc <;> cases entry.beginTime <;> rfl

theorem backoffJob_redate {entry : Wal.JobDispatchBackoff} :
    backoffJob entry (job.redate submitted anchor) = (backoffJob entry job).redate submitted anchor := by
  unfold backoffJob
  cases entry.atMaxRequeue <;> cases entry.spareRequeueBudget <;> rfl

theorem userRequeuedJob_redate {entry : Wal.JobUserRequeue} :
    userRequeuedJob entry (job.redate submitted anchor) = (userRequeuedJob entry job).redate submitted anchor := by
  unfold userRequeuedJob
  cases entry.hold <;> cases entry.beginTime <;> rfl

theorem evictRun_redate (env : Env) {other : Env} (timestamp : Time) (reason : PendingReason) (failure : Option NodeFailure) :
    evictRun other timestamp reason failure (job.redate submitted anchor) =
      (evictRun env timestamp reason failure job).map (Job.redate submitted anchor) := by
  have verdict : evictedState (job.redate submitted anchor) = evictedState job := rfl
  have stopped : (job.redate submitted anchor).endSuspension timestamp =
      (job.endSuspension timestamp).redate submitted anchor := rfl
  unfold evictRun Job.transition
  rw [verdict,stopped,Job.state_redate]
  by_cases valid : (job.endSuspension timestamp).state.validTransition (evictedState job) = true
  · rw [if_pos valid,if_pos valid]
    cases evictedState job <;> rfl
  · rw [if_neg valid,if_neg valid]
    rfl

theorem cancelSignaledJob_redate {env other : Env} (at_ : Time) (cancel : Option CancelProvenance) :
    cancelSignaledJob other at_ cancel (job.redate submitted anchor) =
      (cancelSignaledJob env at_ cancel job).redate submitted anchor :=
  Job.completing_redate submitted anchor { job with
      cancelSignaledAt := some _
      cancelledBy := job.cancelledBy.or cancel
      preemptPending := none }

theorem timeLimitExpiredJob_redate {env other : Env} (at_ : Time) :
    timeLimitExpiredJob other at_ (job.redate submitted anchor) =
      (timeLimitExpiredJob env at_ job).redate submitted anchor :=
  Job.completing_redate submitted anchor { job with
      timeLimitSignaledAt := some _
      cancelSignaledAt := some _ }

theorem completeRun_redate (env other : Env) (timestamp : Time) (entry : Wal.JobComplete) (state : JobState) :
    (completeRun other timestamp entry state (job.redate submitted anchor)).map Prod.fst =
      (completeRun env timestamp entry state job).map fun ended => ended.1.redate submitted anchor := by
  unfold completeRun Job.transition
  rw [Job.state_redate]
  by_cases valid : job.state.validTransition state = true
  · rw [if_pos valid,if_pos valid]
    cases state <;> rfl
  · rw [if_neg valid,if_neg valid]
    rfl

theorem finishRun_redate {env other : Env} {timestamp : Time} {entry : Wal.JobComplete}
    {grace : Option PreemptPending} :
    Job.SameOutcome submitted anchor (finishRun env timestamp entry grace job)
      (finishRun other timestamp entry grace (job.redate submitted anchor)) := by
  unfold finishRun
  cases grace.filter fun pending => pending.mode == .requeue with
  | some pending =>
    have hold : (job.redate submitted anchor).preemptHoldUntil timestamp pending.requeueHoldSecs =
      job.preemptHoldUntil timestamp _ := rfl
    dsimp only
    rw [hold]
    rcases (Job.rependAfterPreemption_redate submitted anchor job _ _ _ _ _
        timestamp).cases with ⟨next,first,second⟩ | ⟨next,record,later,first,second⟩
    · rw [first,second]
      exact ⟨rfl,rfl⟩
    · rw [first,second]
      exact ⟨rfl,rfl⟩
  | none =>
    dsimp only
    generalize (if (grace.any fun pending => pending.mode == .cancel) = true then .cancelled else entry.state) = state
    have outcome := completeRun_redate submitted anchor job env other timestamp entry state
    revert outcome
    cases completeRun env timestamp entry state job <;>
      cases completeRun other timestamp entry state _ <;> intro same
    · exact ⟨rfl,rfl⟩
    · cases same
    · cases same
    · exact ⟨Option.some.inj same,rfl⟩

theorem reprioritizedJob_redate (entry : Wal.JobPriorityChange) :
    reprioritizedJob entry (job.redate submitted anchor) = (reprioritizedJob entry job).redate submitted anchor := by
  have releases : holdReleases entry (job.redate submitted anchor) = holdReleases entry job := rfl
  unfold reprioritizedJob
  rw [releases]
  cases holdReleases entry job <;> cases entry.pendingReason <;> cases entry.pendingReasonDesc <;>
    cases entry.clearReservation <;> rfl

theorem reservationDeletedJob_redate {name : String} {noHoldJobs : Bool} :
    reservationDeletedJob name noHoldJobs (job.redate submitted anchor) =
      (reservationDeletedJob name noHoldJobs job).redate submitted anchor := by
  have spec : (job.redate submitted anchor).spec = job.spec := rfl
  have reason : (job.redate submitted anchor).pendingReason = job.pendingReason := rfl
  unfold reservationDeletedJob
  rw [Job.state_redate,spec,reason]
  split_ifs
  · rfl
  · by_cases held : job.pendingReason = .reservationDeleted
    · rw [if_pos held,if_pos held]
      rfl
    · rw [if_neg held,if_neg held]
      rfl
  · rfl
  · rfl

end
end Spur.Cluster
