import Spur.Cluster.Reports

/-! A job entry applied a second time right after the first: where it changes jobs or nodes again. -/
namespace Spur.Cluster
open Spur Spur.Library List Option

theorem Table.insert_of_find {K V : Type} [Ord K] [Std.TransOrd K] [Std.LawfulEqOrd K] [DecidableEq K] {t : Table K V}
    {k : K} {v : V} (found : t[k]? = some v) : t.insert k v = t := by
  apply Table.ext
  intro a
  rw [Table.find_insert]
  split
  next same => rw [← same,found]
  next => rfl

variable {job : Job}

variable {state : JobState} {timestamp : Time} {env : Env}

section

/-- A second delivery right after the first changes neither jobs nor nodes. -/
def Harmless (apply : Env → Time → State → State) (s : State) : Prop :=
  ∀ env again timestamp later, (apply again later (apply env timestamp s)).ledger = (apply env timestamp s).ledger

/-- An entry says nothing to a job it ignores, and leaves the job it does not ignore in such a condition. -/
theorem Harmless.of_ignored {apply : Env → Time → State → State} {s : State} (jobId : JobId) (Ignored : Job → Prop)
    (unknown : ∀ env timestamp (t : State), t.jobs[jobId]? = none → apply env timestamp t = t)
    (deaf : ∀ env timestamp (t : State) (job : Job), t.jobs[jobId]? = some job → Ignored job →
      (apply env timestamp t).ledger = t.ledger)
    (settles : ∀ env timestamp (job : Job), s.jobs[jobId]? = some job → ¬Ignored job →
      ∃ next : Job, (apply env timestamp s).jobs[jobId]? = some next ∧ Ignored next) : Harmless apply s := by
  intro env again timestamp later
  cases found : s.jobs[jobId]? with
  | none => rw [unknown env timestamp s found,unknown again later s found]
  | some job =>
    by_cases ignored : Ignored job
    · have same := congrArg (fun ledger : Ledger => ledger.jobs[jobId]?) (deaf env timestamp s job found ignored)
      exact deaf again later _ job (same.trans found) ignored
    · obtain ⟨next,stored,past⟩ := settles env timestamp job found ignored
      exact deaf again later _ next stored past

theorem transition_invalid {now : Time} {target : JobState}
    (invalid : job.state.validTransition target = false) : job.transition now target = none := by
  unfold Job.transition
  rw [if_neg (by rw [invalid]; decide)]

theorem validTransition_self : state.validTransition state = false := by
  cases state <;> rfl

end

section

variable {config : Config} {s : State}

def stateChangeIgnored (entry : Wal.JobStateChange) (job : Job) : Prop :=
  (entry.expectedRunAttempt.isSome ∧ (entry.expectedRunAttempt ≠ some job.runAttempt ∨ job.holdsAPlacement = false)) ∨
    job.state = entry.newState ∨ job.state.validTransition entry.newState = false

theorem jobStateChange_again {config : Config} {entry : Wal.JobStateChange} {s : State} :
    Harmless (fun env timestamp t => (applyJobStateChange config env timestamp t entry).1) s := by
  refine .of_ignored entry.jobId (stateChangeIgnored entry) (fun env timestamp t absent => ?_)
    (fun env timestamp t job found ignored => ?_) fun env timestamp job found taken => ?_
  · unfold applyJobStateChange
    rw [absent]
  · unfold applyJobStateChange Job.applyTransition
    rw [found]
    dsimp only
    split
    · rfl
    rename_i current
    rcases ignored with stale | same | invalid
    · exact absurd stale current
    · rw [if_pos same]
    · rw [transition_invalid invalid]
      split_ifs <;> rfl
  · obtain ⟨current,moves⟩ := not_or.mp taken
    obtain ⟨different,valid⟩ := not_or.mp moves
    obtain ⟨next,moved⟩ := transition_valid (Bool.not_eq_false _ ▸ valid)
    have state : next.state = entry.newState := congrArg _ (transition_eq moved).2
    unfold applyJobStateChange Job.applyTransition
    rw [found]
    dsimp only
    rw [if_neg current,if_neg different,moved]
    rw [Table.find_insert,if_pos rfl]
    refine ⟨_,rfl,Or.inr (Or.inl ?_)⟩
    split_ifs
    · exact requeueByStateChange_cleared.2.1.trans state
    · exact requeueByStateChange_cleared.2.1.trans state
    · exact state
    · exact state

theorem jobPreemptRequeue_again {entry : Wal.JobPreemptRequeue} {s : State} :
    Harmless (fun env timestamp t => (applyJobPreemptRequeue env timestamp t entry).1) s := by
  refine .of_ignored entry.jobId (preemptIgnored entry.runAttempt) (fun env timestamp t absent => ?_)
    (fun env timestamp t job found ignored => ?_) fun env timestamp job found taken => ?_
  · unfold applyJobPreemptRequeue
    rw [absent]
  · unfold applyJobPreemptRequeue
    rw [found]
    exact congrArg (fun result : State × ClientResponse => result.1.ledger) (if_pos ignored)
  · obtain ⟨next,record,computed,back,_⟩ := repend_running _ timestamp (not_not.mp (not_or.mp taken).1)
    unfold preemptIgnored at taken
    unfold applyJobPreemptRequeue
    rw [found]
    dsimp only
    rw [if_neg taken,computed]
    rw [Table.find_insert,if_pos rfl]
    exact ⟨next,rfl,Or.inl (by rw [back]; decide)⟩

theorem jobPreemptCancel_again {entry : Wal.JobPreemptCancel} {s : State} :
    Harmless (fun env timestamp t => (applyJobPreemptCancel env timestamp t entry).1) s := by
  refine .of_ignored entry.jobId (preemptIgnored entry.runAttempt) (fun env timestamp t absent => ?_)
    (fun env timestamp t job found ignored => ?_) fun env timestamp job found taken => ?_
  · unfold applyJobPreemptCancel
    rw [absent]
  · unfold applyJobPreemptCancel
    rw [found]
    exact congrArg (fun result : State × ClientResponse => result.1.ledger) (if_pos ignored)
  · obtain ⟨ignored,_⟩ | ⟨other,_,_,drains | ⟨_,ends⟩⟩ := jobPreemptCancel_cases
    · exact absurd (ignored job found) taken
    · rw [drains,Table.find_insert,if_pos rfl]
      exact ⟨_,rfl,Or.inl nofun⟩
    · rw [ends,Table.find_insert,if_pos rfl]
      exact ⟨_,rfl,Or.inl nofun⟩

theorem jobUserRequeue_again {entry : Wal.JobUserRequeue} {s : State} :
    Harmless (fun env timestamp t => (applyJobUserRequeue env timestamp t entry).1) s := by
  refine .of_ignored entry.jobId
    (fun job => ¬(job.state = .running ∨ job.state = .suspended) ∧ ¬job.state.isTerminal = true)
    (fun env timestamp t absent => ?_) (fun env timestamp t job found ignored => ?_)
    fun env timestamp job found taken => ?_
  · unfold applyJobUserRequeue
    rw [absent]
  · unfold applyJobUserRequeue
    rw [found]
    dsimp only
    rw [if_neg ignored.1,if_neg ignored.2]
  · have pends (next : Job) (pending : next.state = .pending) :
        ¬((userRequeuedJob entry next).state = .running ∨ (userRequeuedJob entry next).state = .suspended) ∧
          ¬(userRequeuedJob entry next).state.isTerminal = true := by
      rw [userRequeuedJob_cleared.2.1,pending]
      decide
    unfold applyJobUserRequeue
    rw [found]
    dsimp only
    split
    next live =>
      have back := requeueToPending_live (({ job with endTime := some timestamp } : Job).endSuspension timestamp) live
      rw [back]
      rw [Table.find_insert,if_pos rfl]
      exact ⟨_,rfl,pends _ rfl⟩
    next resting =>
      have past : job.state.isTerminal = true := by
        by_contra going
        exact taken ⟨resting,going⟩
      unfold Job.requeueToPending
      rw [if_pos past,if_pos (by rw [past]; rfl)]
      rw [Table.find_insert,if_pos rfl]
      exact ⟨_,rfl,pends _ rfl⟩

theorem jobNodeComplete_ledger (env : Env) (timestamp : Time) {entry : Wal.JobNodeComplete}
    (found : s.jobs[entry.jobId]? = some job) (accepted : reportAccepted entry job) :
    (applyJobNodeComplete env timestamp s entry).1.ledger =
      ⟨s.jobs.insert entry.jobId ((reportedJob job entry.nodeName ⟨entry.exitCode,entry.signal⟩).advanceAfterNodeReport
        env (graceNow job) timestamp).1,releaseReported job entry.nodeName s.nodes⟩ := by
  unfold applyJobNodeComplete
  rw [found]
  dsimp only
  rw [if_neg accepted.1,if_neg (by rw [accepted.2]; decide)]
  rfl

structure Heard (entry : Wal.JobNodeComplete) (job : Job) : Prop where
  reported : job.nodeCompletions[entry.nodeName]? = some ⟨entry.exitCode,entry.signal⟩
  unfinished : job.allNodesCompleted = false
  routed : graceNow job = none → job.state = .completing

theorem jobNodeComplete_heard {entry : Wal.JobNodeComplete}
    (found : s.jobs[entry.jobId]? = some job) (accepted : reportAccepted entry job) (heard : Heard entry job) :
    (applyJobNodeComplete env timestamp s entry).1.ledger = s.ledger := by
  have same : reportedJob job entry.nodeName ⟨entry.exitCode,entry.signal⟩ = job := by
    unfold reportedJob
    rw [Table.insert_of_find heard.reported]
  have kept : (job.advanceAfterNodeReport env (graceNow job) timestamp).1 = job := by
    unfold Job.advanceAfterNodeReport
    rw [heard.unfinished]
    cases given : graceNow job with
    | none =>
      simp only [filter_none,Bool.false_eq_true,if_false]
      unfold Job.routeThroughCompleting
      rw [if_neg (by rw [heard.routed given]; decide)]
    | some pending =>
      simp only [filter_some,Bool.false_and,Bool.not_false,if_true]
  have released : releaseReported job entry.nodeName s.nodes = s.nodes := by
    have contained : job.nodeCompletions.contains _ = true :=
      Std.ExtTreeMap.mem_iff_contains.mp (Table.mem_iff_find.mpr ⟨_,heard.reported⟩)
    unfold releaseReported
    split
    · rfl
    · rw [if_pos contained]
  rw [jobNodeComplete_ledger env timestamp found accepted,same,kept,released,Table.insert_of_find found]
  rfl

theorem jobNodeComplete_again {entry : Wal.JobNodeComplete} {s : State} :
    Harmless (fun env timestamp t => (applyJobNodeComplete env timestamp t entry).1) s := by
  refine .of_ignored entry.jobId (fun job => reportAccepted entry job → Heard entry job)
    (fun env timestamp t absent => ?_)
    (fun env timestamp t job found ignored => ?_) fun env timestamp job found taken => ?_
  · unfold applyJobNodeComplete
    rw [absent]
  · by_cases accepted : reportAccepted entry job
    · exact jobNodeComplete_heard found accepted (ignored accepted)
    · rw [applyJobNodeComplete_ignored]
      intro other stored
      cases found.symm.trans stored
      exact accepted
  · obtain ⟨accepted,-⟩ := Classical.not_imp.mp taken
    have ledger := jobNodeComplete_ledger env timestamp found accepted
    refine ⟨_,(congrArg (fun ledger : Ledger => ledger.jobs[entry.jobId]?) ledger).trans
      (by rw [Table.find_insert,if_pos rfl]),fun again => ?_⟩
    generalize reports : reportedJob job _ ⟨entry.exitCode,entry.signal⟩ = reported at again ⊢
    have active : reported.state.isActive = true := by rw [← reports]; exact accepted.2
    have grace : graceNow job = graceNow reported := by rw [← reports]; rfl
    rw [grace] at again ⊢
    cases all : reported.allNodesCompleted with
    | true =>
      rcases @advanceAfterNodeReport_move reported env timestamp _ active graceNow_running with
        ⟨unfinished,_⟩ | ⟨_,next,record,computed,past,_⟩
      · rw [all] at unfinished
        cases unfinished
      · rw [computed] at again
        have inactive := (runOver_of_over past).1
        rw [again.2] at inactive
        cases inactive
    | false =>
      have awaits := @advanceAfterNodeReport_awaits env reported timestamp active all
      refine ⟨?_,?_,fun given => ?_⟩
      · rw [awaits.same.reports,← reports]
        unfold reportedJob
        rw [Table.find_insert,if_pos rfl]
      · unfold Job.allNodesCompleted at all ⊢
        rw [awaits.same.nodes,awaits.same.reports]
        exact all
      · rw [awaits.grace] at given
        unfold Job.advanceAfterNodeReport
        rw [all,given]
        exact (routeThroughCompleting_drains active).1

theorem evictTerminalJobs_again {jobIds : List JobId} {s : State} :
    (applyEvictTerminalJobs (applyEvictTerminalJobs s jobIds).1 jobIds).1.ledger =
      (applyEvictTerminalJobs s jobIds).1.ledger := by
  have jobs : (applyEvictTerminalJobs (applyEvictTerminalJobs s jobIds).1 jobIds).1.jobs =
      (applyEvictTerminalJobs s jobIds).1.jobs := by
    apply Table.ext
    intro jobId
    unfold applyEvictTerminalJobs
    rw [Table.find_filter]
    generalize evicts : (jobIds.filter fun jobId => (s.jobs[jobId]?).any fun job => job.state.isFinalized) = evicted
    cases kept : (s.jobs.filter fun jobId _ => !evicted.contains jobId)[jobId]? with
    | none => rfl
    | some job =>
      rw [filter_some,if_pos]
      rw [Bool.not_eq_true',← Bool.not_eq_true,contains_iff_mem,mem_filter]
      rintro ⟨member,finalized⟩
      rw [kept] at finalized
      rw [Table.find_filter,filter_eq_some_iff] at kept
      have listed : jobId ∈ evicted := by
        rw [← evicts,mem_filter,kept.1]
        exact ⟨member,finalized⟩
      rw [Bool.not_eq_true',← Bool.not_eq_true,contains_iff_mem] at kept
      exact kept.2 listed
  unfold State.ledger
  rw [jobs]
  rfl

def spendsRequeue (entry : Wal.JobDispatchBackoff) (job : Job) : Prop :=
  job.state = .pending ∧ ¬(entry.runAttempt ≠ 0 ∧ job.runAttempt ≠ 0 ∧ entry.runAttempt < job.runAttempt) ∧
    entry.atMaxRequeue = false ∧ entry.spareRequeueBudget = false

variable {entry : Wal.JobDispatchBackoff}

theorem backoffJob_held (held : entry.atMaxRequeue = true) (job : Job) : backoffJob entry job =
      { job.clearRunStateForRequeue with
        priority := 0
        runAttempt := max entry.runAttempt job.runAttempt
        pendingReason := .jobHoldMaxRequeue } := by
  unfold backoffJob
  rw [if_pos held]
  rfl

theorem backoffJob_spared (unheld : entry.atMaxRequeue = false) (spare : entry.spareRequeueBudget = true) (job : Job) :
    backoffJob entry job = { job.clearRunStateForRequeue with
        spec := { job.spec with beginTime := some entry.beginTime }
        runAttempt := max entry.runAttempt job.runAttempt
        pendingReason := .jobLaunchFailure } := by
  unfold backoffJob
  rw [unheld,spare]
  rfl

theorem backoffJob_again (spared : entry.atMaxRequeue = true ∨ entry.spareRequeueBudget = true)
    {job : Job} : backoffJob entry (backoffJob entry job) = backoffJob entry job := by
  have attempt : max _ (max entry.runAttempt job.runAttempt) = max _ _ :=
    max_eq_right (le_max_left _ _)
  cases held : entry.atMaxRequeue with
  | true =>
    rw [backoffJob_held held,backoffJob_held held]
    rw [attempt]
    rfl
  | false =>
    rw [held] at spared
    have spare := spared.resolve_left (by decide)
    rw [backoffJob_spared held spare,backoffJob_spared held spare]
    rw [attempt]
    rfl

theorem backoffJob_cleared {entry : Wal.JobDispatchBackoff} {job : Job} :
    (backoffJob entry job).allocatedResources = none ∧ (backoffJob entry job).state = job.state := by
  unfold backoffJob
  split_ifs <;> exact ⟨rfl,rfl⟩

theorem jobDispatchBackoff_again {entry : Wal.JobDispatchBackoff} {s : State}
    (spared : ∀ job : Job, s.jobs[entry.jobId]? = some job → ¬spendsRequeue entry job) :
    Harmless (fun _ _ t => (applyJobDispatchBackoff t entry).1) s := by
  refine .of_ignored entry.jobId (fun job => job.state = .pending →
      ¬(entry.runAttempt ≠ 0 ∧ job.runAttempt ≠ 0 ∧ entry.runAttempt < job.runAttempt) →
        backoffJob entry job = job ∧ job.allocatedResources = none)
    (fun _ _ t absent => ?_) (fun _ _ t job found ignored => ?_) fun _ _ job found taken => ?_
  · unfold applyJobDispatchBackoff
    rw [absent]
  · unfold applyJobDispatchBackoff
    rw [found]
    dsimp only
    split
    · rfl
    rename_i pending
    split
    · rfl
    rename_i current
    obtain ⟨same,free⟩ := ignored (not_not.mp pending) current
    rw [same,Table.insert_of_find found]
    unfold releaseJob deallocateJobSlices
    rw [free]
  · push Not at taken
    obtain ⟨pending,current,-⟩ := taken
    have saves : entry.atMaxRequeue = true ∨ entry.spareRequeueBudget = true := by
      by_contra neither
      obtain ⟨unheld,unspared⟩ := not_or.mp neither
      refine spared job found ⟨pending,?_,Bool.not_eq_true _ ▸ unheld,Bool.not_eq_true _ ▸ unspared⟩
      exact fun stale => absurd stale.2.2 (not_lt.mpr (current stale.1 stale.2.1))
    unfold applyJobDispatchBackoff
    rw [found]
    dsimp only
    rw [if_neg (not_not.mpr pending),if_neg fun stale => absurd stale.2.2 (not_lt.mpr (current stale.1 stale.2.1))]
    rw [Table.find_insert,if_pos rfl]
    exact ⟨_,rfl,fun _ _ => ⟨backoffJob_again saves,backoffJob_cleared.1⟩⟩

theorem endSuspension_settled (awake : job.suspendedAt = none) (unclaimed : job.suspendedBy = none) (at_ : Time) :
    job.endSuspension at_ = job := by
  unfold Job.endSuspension
  rw [awake]
  change ({ job with suspendedAt := none, suspendedSecs := job.suspendedSecs + 0, suspendedBy := none } : Job) = job
  rw [Int.add_zero,← awake,← unclaimed]

def losesDetail (detail : Option String) (job : Job) : Prop :=
  job.state.isActive = true ∧ job.cancelSignaledAt.isSome = true ∧ job.timeLimitSignaledAt.isSome = true ∧
    job.pendingReason = .jobLaunchFailure ∧ detail.isSome = true

/-- The eviction has noted its detail, and neither wakes the job nor ends it again. -/
structure Evicted (detail : Option String) (job : Job) : Prop where
  noted : job.launchFailureDetail = detail
  awake : job.suspendedAt = none
  unclaimed : job.suspendedBy = none
  invalid : job.state.validTransition (evictedState job) = false

theorem evictedState_timeout (timeout : evictedState job = .timeout) :
    job.cancelSignaledAt.isSome = true ∧ job.timeLimitSignaledAt.isSome = true := by
  unfold evictedState at timeout
  split at timeout
  · cases timeout
  next signalled =>
    split at timeout
    next limited => exact ⟨isSome_iff_ne_none.mpr fun none => signalled (by rw [none]; rfl),limited⟩
    next => cases timeout

theorem evictRun_settles {env : Env} {timestamp : Time} {detail : Option String} {job next : Job}
    (noted : job.launchFailureDetail = detail) (keeps : ¬losesDetail detail job)
    (evicted : evictRun env timestamp .jobLaunchFailure none job = some next) : Evicted detail next := by
  obtain ⟨moved,transitions,rfl⟩ := map_eq_some_iff.mp evicted
  unfold Job.transition at transitions
  split at transitions
  next valid =>
    change job.state.validTransition _ = true at valid
    cases Option.some.inj transitions
    have flags : ∀ final : Job, final.cancelSignaledAt = job.cancelSignaledAt →
        final.timeLimitSignaledAt = job.timeLimitSignaledAt → final.state = evictedState job →
        final.state.validTransition (evictedState final) = false := by
      intro final cancelled limited state
      unfold evictedState at state ⊢
      rw [cancelled,limited,← state]
      exact validTransition_self
    cases target : evictedState job with
    | nodeFail => exact ⟨(if_neg fun both => both.2 rfl).trans noted,rfl,rfl,flags _ rfl rfl target.symm⟩
    | timeout =>
      refine ⟨?_,rfl,rfl,flags _ rfl rfl target.symm⟩
      change (if job.pendingReason = .jobLaunchFailure ∧ PendingReason.timeLimit ≠ .jobLaunchFailure then none
        else job.launchFailureDetail) = detail
      split
      next failed =>
        obtain ⟨cancelled,limited⟩ := evictedState_timeout target
        rw [target] at valid
        have active : job.state.isActive = true := by
          generalize job.state = state at valid
          cases state <;> first | rfl | cases valid
        cases detail with
        | none => rfl
        | some text => exact absurd ⟨active,cancelled,limited,failed.1,rfl⟩ keeps
      next => exact noted
    | _ => exact ⟨noted,rfl,rfl,flags _ rfl rfl target.symm⟩
  next => cases transitions

theorem jobEvict_again {jobId : JobId} {detail : Option String} {s : State}
    (keeps : ∀ job : Job, s.jobs[jobId]? = some job → ¬losesDetail detail job) :
    Harmless (fun env timestamp t => (applyJobEvict env timestamp t jobId detail).1) s := by
  refine .of_ignored jobId (Evicted detail) (fun env timestamp t absent => ?_)
    (fun env timestamp t job found past => ?_) fun env timestamp job found _ => ?_
  · unfold applyJobEvict evictJobLocked
    dsimp only
    rw [Table.modify_of_absent absent,absent]
    rfl
  · have same : ({ job with launchFailureDetail := detail } : Job) = job := by rw [← past.noted]
    have marked : (t.jobs.modify jobId fun job => { job with launchFailureDetail := detail }) = t.jobs := by
      rw [Table.modify_of_find found,same,Table.insert_of_find found]
    unfold applyJobEvict evictJobLocked evictRun
    dsimp only
    rw [marked,found]
    dsimp only
    rw [endSuspension_settled past.awake past.unclaimed,transition_invalid past.invalid]
    rw [Table.insert_of_find found]
    rfl
  · have marked : (s.jobs.modify jobId fun job => { job with launchFailureDetail := detail })[jobId]? =
        some { job with launchFailureDetail := detail } := by
      rw [Table.find_modify,if_pos rfl,found]
      rfl
    unfold applyJobEvict evictJobLocked commitEviction
    dsimp only
    rw [marked]
    dsimp only
    cases evicted : evictRun env timestamp _ none _ with
    | none =>
      rw [Table.find_insert,if_pos rfl]
      refine ⟨_,rfl,rfl,rfl,rfl,?_⟩
      by_contra valid
      obtain ⟨next,moved⟩ := transition_valid (Bool.not_eq_false _ ▸ valid)
      unfold evictRun at evicted
      rw [map_eq_none_iff] at evicted
      cases moved.symm.trans evicted
    | some next =>
      rw [Table.find_insert,if_pos rfl]
      exact ⟨next,rfl,@evictRun_settles env timestamp detail { job with launchFailureDetail := detail } next rfl
        (keeps job found) evicted⟩

def completionGrace (entry : Wal.JobComplete) (job : Job) : Option PreemptPending :=
  (job.preemptGrace.filter fun _ => job.state == .running && entry.cancel.isNone).filter fun _ =>
    !entry.controllerInitiated && entry.state != .outOfMemory

def completionState (entry : Wal.JobComplete) (grace : Option PreemptPending) : JobState :=
  if grace.any fun pending => pending.mode == .cancel then .cancelled else entry.state

/-- The completion re-pends a warned run, and its own state is one that a waiting job can still take. -/
def endsRependedJob (entry : Wal.JobComplete) (job : Job) : Prop :=
  ((completionGrace entry job).any fun pending => pending.mode == .requeue) = true ∧
    JobState.validTransition .pending entry.state = true

theorem completionGrace_running {entry : Wal.JobComplete} {pending : PreemptPending}
    (given : completionGrace entry job = some pending) : job.state = .running ∧ job.preemptGrace = some pending := by
  obtain ⟨warned,_⟩ := filter_eq_some_iff.mp given
  obtain ⟨grace,runs⟩ := filter_eq_some_iff.mp warned
  exact ⟨beq_iff_eq.mp (Bool.and_eq_true_iff.mp runs).1,grace⟩

def completionIgnored (entry : Wal.JobComplete) (job : Job) : Prop :=
  (job.state.isFinalized = true ∧ ¬(job.state = .preempted ∧ entry.state = .cancelled)) ∨
    (((completionGrace entry job).any fun pending => pending.mode == .requeue) = false ∧
      job.state.validTransition (completionState entry (completionGrace entry job)) = false)

theorem adopt_of_refused {entry : Wal.JobComplete}
    (stays : ((completionGrace entry job).any fun pending => pending.mode == .requeue) = false)
    (invalid : job.state.validTransition (completionState entry (completionGrace entry job)) = false) (at_ : Time) :
    (if (completionGrace entry job).isSome = true then job.adoptGraceProvenance at_ else job) = job := by
  cases given : completionGrace entry job with
  | none => rfl
  | some pending =>
    obtain ⟨running,grace⟩ := completionGrace_running given
    rw [given] at stays invalid
    rw [running] at invalid
    unfold Job.adoptGraceProvenance
    rw [grace]
    dsimp only
    unfold completionState at invalid
    rw [any_some] at stays invalid
    cases mode : pending.mode with
    | off => rfl
    | suspend => rfl
    | requeue => rw [mode] at stays; cases stays
    | cancel =>
      rw [mode] at invalid
      cases invalid

theorem completeRun_refused {entry : Wal.JobComplete}
    (invalid : job.state.validTransition state = false) : completeRun env timestamp entry state job = none := by
  unfold completeRun
  rw [transition_invalid invalid,map_none]

theorem completeRun_taken {entry : Wal.JobComplete} (valid : job.state.validTransition state = true) :
    ∃ next records, completeRun env timestamp entry state job = some (next,records) ∧ next.state = state ∧
      next.preemptPending = none := by
  obtain ⟨moved,moves⟩ := transition_valid valid
  obtain ⟨-,rfl⟩ := transition_eq moves
  unfold completeRun
  rw [moves]
  refine ⟨_,_,rfl,?_⟩
  cases state <;> exact ⟨rfl,rfl⟩

theorem finishRun_stays (env : Env) (timestamp : Time) (entry : Wal.JobComplete) {grace : Option PreemptPending}
    (stays : (grace.any fun pending => pending.mode == .requeue) = false) (job : Job) :
    finishRun env timestamp entry grace job =
      match completeRun env timestamp entry (completionState entry grace) job with
      | some (next,finalized) => (next,some finalized)
      | none => (job,none) := by
  have none : grace.filter (fun pending => pending.mode == .requeue) = none := by
    rw [filter_eq_none_iff]
    intro pending given
    rw [given,any_some] at stays
    rw [stays]
    decide
  unfold finishRun
  rw [none]
  rfl

theorem jobComplete_settles {entry : Wal.JobComplete}
    (found : s.jobs[entry.jobId]? = some job) (repeats : ¬endsRependedJob entry job)
    (taken : ¬completionIgnored entry job) :
    ∃ next : Job, (applyJobComplete env timestamp s entry).1.jobs[entry.jobId]? = some next ∧
      completionIgnored entry next := by
  obtain ⟨live,moves⟩ := not_or.mp taken
  have unwarned : ∀ next : Job, next.preemptPending = none → completionGrace entry next = none := by
    intro next cleared
    unfold completionGrace Job.preemptGrace
    rw [cleared]
    rfl
  have stored : ∀ next records, finishRun env timestamp entry (completionGrace entry job)
      (if (completionGrace entry job).isSome = true then job.adoptGraceProvenance timestamp else job) = (next,some records) →
      (applyJobComplete env timestamp s entry).1.jobs[entry.jobId]? = some next := by
    intro next records finish
    unfold completionGrace at finish
    unfold applyJobComplete
    rw [found]
    dsimp only
    rw [if_neg live,finish]
    rw [Table.find_insert,if_pos rfl]
  have quiet : Quiet job (if (completionGrace entry job).isSome = true then job.adoptGraceProvenance timestamp else job) := by
    split
    · exact adoptGraceProvenance_quiet
    · exact .refl
  generalize (if (completionGrace entry job).isSome = true then job.adoptGraceProvenance timestamp else job) = adopted
    at stored quiet
  cases back : (completionGrace entry job).any fun pending => pending.mode == .requeue with
  | true =>
    -- the warned run goes back to Pending, where the entry's own state must not be reachable
    cases given : completionGrace entry job with
    | none =>
      rw [given] at back
      cases back
    | some pending =>
      have running : adopted.state = .running := quiet.level.state.trans (completionGrace_running given).1
      have wanted : (pending.mode == .requeue) = true := by
        rw [given] at back
        exact back
      obtain ⟨next,record,computed,rests,_⟩ := repend_running _ timestamp running
      have finish : finishRun env timestamp entry (completionGrace entry job) adopted = (next,some [record]) := by
        unfold finishRun
        rw [given,filter_some,if_pos wanted]
        dsimp only
        rw [computed]
      refine ⟨next,stored next [record] finish,Or.inr ?_⟩
      have unwarned : completionGrace entry next = none := by
        by_contra some
        obtain ⟨other,warned⟩ := ne_none_iff_exists'.mp some
        rw [(completionGrace_running warned).1] at rests
        cases rests
      rw [unwarned,rests]
      refine ⟨rfl,?_⟩
      by_contra valid
      exact repeats ⟨back,Bool.not_eq_false _ ▸ valid⟩
  | false =>
    have valid : adopted.state.validTransition (completionState entry (completionGrace entry job)) = true := by
      rw [quiet.level.state]
      by_contra refused
      exact moves ⟨back,Bool.not_eq_true _ ▸ refused⟩
    obtain ⟨next,records,taken,state,cleared⟩ := completeRun_taken valid
    have finish := finishRun_stays env timestamp entry back adopted
    rw [taken] at finish
    refine ⟨next,stored next records finish,?_⟩
    unfold completionIgnored
    rw [unwarned next cleared,state]
    unfold completionState
    split
    · exact Or.inl ⟨rfl,fun both => nomatch both.1⟩
    · exact Or.inr ⟨rfl,validTransition_self⟩

theorem jobComplete_again {entry : Wal.JobComplete} {s : State}
    (repeats : ∀ job : Job, s.jobs[entry.jobId]? = some job → ¬endsRependedJob entry job) :
    Harmless (fun env timestamp t => (applyJobComplete env timestamp t entry).1) s := by
  refine .of_ignored _ _ (fun env timestamp t absent => ?_) (fun env timestamp t job found ignored => ?_)
    fun env timestamp job found taken => jobComplete_settles found (repeats job found) taken
  · unfold applyJobComplete
    rw [absent]
  · unfold applyJobComplete
    rw [found]
    dsimp only
    rcases ignored with past | ⟨stays,invalid⟩
    · rw [if_pos past]
    split
    · rfl
    · have adopted := adopt_of_refused stays invalid timestamp
      have finish := finishRun_stays env timestamp entry stays job
      rw [completeRun_refused invalid] at finish
      unfold completionGrace at adopted finish
      rw [adopted,finish]
      dsimp only
      rw [Table.insert_of_find found]

def chargesOnce (s : State) (entry : Wal.JobStart) : Prop :=
  startRefused s entry = true ∨ (∀ name ∈ entry.nodes, s.nodes[name]? = none) ∨
    ∃ job : Job, s.jobs[entry.jobId]? = some job ∧ ∃ name ∈ entry.nodes, name ∉ job.nodeCompletions

theorem startedJob_again {entry : Wal.JobStart} {job : Job} :
    startedJob entry (startedJob entry job) = startedJob entry job := by
  have attempt : max _ (max entry.runAttempt job.runAttempt) = max _ _ :=
    max_eq_right (le_max_left _ _)
  change ({ startedJob entry job with runAttempt := max _ (max _ job.runAttempt) } : Job) = _
  rw [attempt]
  rfl

theorem allocateJobSlices_unregistered {entry : Wal.JobStart} {nodes : Table String Node}
    (unregistered : ∀ name ∈ entry.nodes, nodes[name]? = none) : allocateJobSlices entry nodes = nodes := by
  unfold allocateJobSlices
  generalize max _ 1 = count
  generalize entry.nodes = names at unregistered
  induction names with
  | nil => rfl
  | cons name names ih =>
    rw [foldl_cons,Table.modify_of_absent (unregistered name mem_cons_self)]
    exact ih fun other member => unregistered other (mem_cons_of_mem _ member)

theorem jobStart_again {entry : Wal.JobStart} {s : State} (once : chargesOnce s entry) :
    (applyJobStart (applyJobStart s entry).1 entry).1.ledger = (applyJobStart s entry).1.ledger := by
  have ignores : ∀ t : State, startRefused t entry = true → (applyJobStart t entry).1 = t := by
    intro t refused
    unfold startRefused at refused
    unfold applyJobStart
    rw [if_pos refused]
  cases refused : startRefused s entry with
  | true => rw [ignores s refused,ignores s refused]
  | false =>
    have applies : ∀ t : State, startRefused t entry = false → (applyJobStart t entry).1.ledger =
        ⟨t.jobs.modify entry.jobId (startedJob entry),allocateJobSlices entry t.nodes⟩ := by
      intro t accepted
      unfold startRefused at accepted
      unfold applyJobStart
      rw [if_neg (by rw [accepted]; decide)]
      rfl
    have first := applies s refused
    rcases once with held | unregistered | ⟨job,found,name,member,unreported⟩
    · rw [refused] at held
      cases held
    · cases second : startRefused _ entry with
      | true => rw [ignores _ second]
      | false =>
        have jobs := congrArg Ledger.jobs first
        have nodes := congrArg Ledger.nodes first
        change (applyJobStart s entry).1.jobs = _ at jobs
        change (applyJobStart s entry).1.nodes = _ at nodes
        rw [allocateJobSlices_unregistered unregistered] at nodes
        rw [applies _ second,first,jobs,nodes]
        congr 1
        apply Table.ext
        intro jobId
        rw [Table.find_modify,Table.find_modify]
        split
        · cases s.jobs[jobId]? with
          | none => rfl
          | some job => exact congrArg some startedJob_again
        · rfl
    · rw [ignores]
      have stored : (applyJobStart s entry).1.jobs[entry.jobId]? = some (startedJob entry job) := by
        refine (congrArg (fun ledger : Ledger => ledger.jobs[entry.jobId]?) first).trans ?_
        rw [Table.find_modify,if_pos rfl,found]
        rfl
      have holds : (startedJob entry job).holdsAPlacement = true := by
        unfold Job.holdsAPlacement
        rw [List.any_eq_true]
        exact ⟨name,member,isHeldOn_iff.mpr ⟨member,unreported⟩⟩
      unfold startRefused
      rw [stored,any_some,holds]
      rfl

end

def retried : WalOperation → Bool
  | .jobStart _ | .jobStateChange _ | .jobNodeComplete _ | .jobComplete _ | .jobPreemptRequeue _ => true
  | .jobPreemptCancel _ | .jobDispatchBackoff _ | .jobUserRequeue _ | .jobEvict _ _ _ | .evictTerminalJobs _ => true
  | _ => false

def Repeatable (s : State) : WalOperation → Prop
  | .jobStart entry => chargesOnce s entry
  | .jobComplete entry => ∀ job : Job, s.jobs[entry.jobId]? = some job → ¬endsRependedJob entry job
  | .jobDispatchBackoff entry => ∀ job : Job, s.jobs[entry.jobId]? = some job → ¬spendsRequeue entry job
  | .jobEvict jobId detail _ => ∀ job : Job, s.jobs[jobId]? = some job → ¬losesDetail detail job
  | _ => True

theorem redelivery_harmless (config : Config) (s : State) (op : WalOperation) (listed : retried op = true)
    (repeatable : Repeatable s op) (env again : Env) :
    (step config (step config s (env,op)) (again,op)).jobs = (step config s (env,op)).jobs ∧
      (step config (step config s (env,op)) (again,op)).nodes = (step config s (env,op)).nodes := by
  have same : (step config (step config s (env,op)) (again,op)).ledger = (step config s (env,op)).ledger := by
    cases op with
    | jobStart entry => exact jobStart_again repeatable
    | jobStateChange entry => exact jobStateChange_again env again _ _
    | jobNodeComplete entry => exact jobNodeComplete_again env again _ _
    | jobComplete entry => exact jobComplete_again repeatable env again _ _
    | jobPreemptRequeue entry => exact jobPreemptRequeue_again env again _ _
    | jobPreemptCancel entry => exact jobPreemptCancel_again env again _ _
    | jobDispatchBackoff entry => exact jobDispatchBackoff_again repeatable env again 0 0
    | jobUserRequeue entry => exact jobUserRequeue_again env again _ _
    | jobEvict jobId detail at_ => exact jobEvict_again repeatable env again _ _
    | evictTerminalJobs jobIds => exact evictTerminalJobs_again
    | _ => cases listed
  exact ⟨congrArg Ledger.jobs same,congrArg Ledger.nodes same⟩

section

def launchFailed : WalOperation :=
  .jobDispatchBackoff { jobId := 1, beginTime := 60, runAttempt := 1 }

def submitted : State := run {} (.fresh {}) [(.ordered 0,.jobSubmit 1 {})]

theorem redelivery_harmless_held :
    let op := WalOperation.jobDispatchBackoff { jobId := 1, beginTime := 60, runAttempt := 1, atMaxRequeue := true }
    (step {} (step {} submitted (.ordered 1,op)) (.ordered 2,op)).jobs = (step {} submitted (.ordered 1,op)).jobs ∧
      (step {} (step {} submitted (.ordered 1,op)) (.ordered 2,op)).nodes = (step {} submitted (.ordered 1,op)).nodes :=
  redelivery_harmless {} submitted _ rfl (fun _ _ spends => nomatch spends.2.2.1) _ _

def orphanedStart : WalOperation :=
  .jobStart {
    jobId := 9
    nodes := ["n1"]
    resources := { cpus := 4, memoryMb := 1024 }
    perNodeAlloc := (∅ : Table String ResourceAllocations).insert "n1" { cpus := 4, memoryMb := 1024 }
    runAttempt := 1 }

def nodeUp : State :=
  run {} (.fresh {}) [(.ordered 0,.nodeRegister { name := "n1", resources := { cpus := 8, memoryMb := 4096 }, address := "n1" })]

def warnedRun : State :=
  run {} (.fresh {}) [(.ordered 0,.jobSubmit 1 {}),
    (.ordered 1,.jobStart { jobId := 1, nodes := ["n1"], resources := {}, perNodeAlloc := ∅, runAttempt := 1 }),
    (.ordered 1,.jobStateChange { jobId := 1, oldState := .pending, newState := .running }),
    (.ordered 2,.jobPreemptSignaled 1 ⟨2,9,7,none,.requeue,1,30⟩)]

def cancelledExit : WalOperation := .jobComplete { jobId := 1, exitCode := 0, state := .cancelled }

/-- The second delivery of a launch failure counts a second requeue; that of an orphaned placement charges its node
twice; that of a completion with a cancelled verdict cancels the job the first one had sent back to Pending. -/
theorem redelivery_repeats : ((step {} submitted (.ordered 1,launchFailed)).jobs[1]?.map Job.requeueCount = some 1 ∧
        (step {} (step {} submitted (.ordered 1,launchFailed)) (.ordered 2,launchFailed)).jobs[1]?.map Job.requeueCount =
          some 2) ∧
      ((step {} nodeUp (.ordered 1,orphanedStart)).nodes["n1"]?.map (fun node => node.allocResources.cpus) = some 4 ∧
        (step {} (step {} nodeUp (.ordered 1,orphanedStart)) (.ordered 2,orphanedStart)).nodes["n1"]?.map
          (fun node => node.allocResources.cpus) = some 8) ∧
      ((step {} warnedRun (.ordered 3,cancelledExit)).jobs[1]?.map Job.state = some .pending ∧
        (step {} (step {} warnedRun (.ordered 3,cancelledExit)) (.ordered 4,cancelledExit)).jobs[1]?.map Job.state =
          some .cancelled) := by
  decide +kernel

end

end Spur.Cluster
