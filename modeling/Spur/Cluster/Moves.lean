import Spur.Cluster.Lifecycle

/-! The entries that address one job act on the ledger by moves of the abstract job life. -/
namespace Spur.Cluster
open Spur Spur.Library

section

variable {now : Time} {target : JobState} {job next : Job}

theorem transition_eq (moved : job.transition now target = some next) :
    job.state.validTransition target = true ∧ next = { job with
      state := target
      endTime := if target = .pending then none
        else if target.isTerminal then some (job.endTime.getD now) else job.endTime } := by
  unfold Job.transition at moved
  split at moved
  next valid => exact ⟨valid,(Option.some.inj moved).symm⟩
  next => cases moved

theorem transition_valid {now : Time} {job : Job} {target : JobState}
    (valid : job.state.validTransition target = true) :
    ∃ next, job.transition now target = some next := by
  unfold Job.transition
  rw [if_pos valid]
  exact ⟨_,rfl⟩

theorem applyTransition_applied (applied : job.applyTransition now target = .applied next) :
    job.transition now target = some next := by
  unfold Job.applyTransition at applied
  split at applied
  · cases applied
  split at applied
  next moved =>
    cases applied
    exact moved
  next => cases applied

variable {source : JobState}

theorem valid_to_running (valid : source.validTransition .running = true) : LiveShift source .running := by
  cases source <;> first | exact .activate | exact .resume | cases valid

theorem valid_to_pending (valid : source.validTransition .pending = true) : source.isFinalized = true := by
  cases source <;> first | rfl | cases valid

theorem idle_of_finalized (past : source.isFinalized = true) : source.isActive = false := by
  cases source <;> first | rfl | cases past

theorem valid_to_terminal (valid : source.validTransition target = true)
    (terminal : target.isTerminal = true) (settled : source ≠ .preempted) :
    source.isActive = true ∨ source = .pending := by
  cases source <;> cases target <;> simp_all [JobState.validTransition,JobState.isTerminal,JobState.isActive]

end

variable {preemptedBy : Option JobId} {preemptQos : Option String} {entry : Wal.JobDispatchBackoff} {jobId : JobId}

section

variable {env : Env} {job : Job} (now at_ : Time)

theorem beginCompleting_shift {now at_ : Time} {next : Job} (begun : job.beginCompleting now at_ = some next) :
    LiveShift job.state next.state ∧ SamePlacement job next ∧ Continues job next ∧
      Ticks at_ (some job) (some next) [] := by
  unfold Job.beginCompleting at begun
  split at begun
  next live =>
    obtain ⟨drained,moved,rfl⟩ := Option.map_eq_some_iff.mp begun
    obtain ⟨-,rfl⟩ := transition_eq moved
    simp only [Bool.and_eq_true,Bool.or_eq_true,beq_iff_eq] at live
    refine ⟨?_,⟨rfl,rfl,rfl,rfl⟩,⟨rfl,le_refl _⟩,.close live.1 (.inl rfl) rfl⟩
    rcases live.1 with running | suspended
    · rw [running]; exact .drain
    · rw [suspended]; exact .drainSuspended
  next => cases begun

theorem repend_running (running : job.state = .running) {begin : Time} :
    ∃ next record, job.rependAfterPreemption now begin preemptedBy preemptQos at_ = (next,some record) ∧
      next.state = .pending ∧ Cleared next ∧ Continues job next ∧ record.jobId = job.jobId ∧
      Ticks at_ (some job) (some next) [record.actualSecs] := by
  unfold Job.rependAfterPreemption Job.transition
  simp only [running,JobState.validTransition]
  exact ⟨_,_,rfl,rfl,⟨rfl,rfl,rfl,rfl⟩,⟨rfl,le_refl _⟩,rfl,.finish rfl rfl (Stint.elapsed_close at_ (stintOf job))⟩

theorem verdict_from_completing {job : Job} {derived : JobState} (derives : derived = .failed ∨ derived = .completed)
    {exitCode signal : Int} {oom : Bool} :
    JobState.validTransition .completing (job.completionVerdict derived exitCode signal oom).1 = true ∧
      (job.completionVerdict derived exitCode signal oom).1.isTerminal = true := by
  unfold Job.completionVerdict
  dsimp only
  split_ifs
  · exact ⟨rfl,rfl⟩
  · exact ⟨rfl,rfl⟩
  · exact ⟨rfl,rfl⟩
  · rcases derives with rfl | rfl <;> exact ⟨rfl,rfl⟩

private theorem derivedCompletion_state (visited : List (String × NodeCompletion))
    (completions : Table String NodeCompletion) (primary : String) :
    (Job.derivedCompletion visited completions primary).1 = .failed ∨
      (Job.derivedCompletion visited completions primary).1 = .completed := by
  unfold Job.derivedCompletion
  split
  · split_ifs
    · exact Or.inl rfl
    · exact Or.inr rfl
  · exact Or.inr rfl

theorem finalize_completing (completing : job.state = .completing) :
    ∃ next record, job.finalizeReportedRun env at_ = (next,some record) ∧ next.state.isTerminal = true ∧
      next.allocatedNodes = job.allocatedNodes ∧ next.allocatedResources = job.allocatedResources ∧
      next.perNodeAlloc = job.perNodeAlloc ∧ next.nodeCompletions = ∅ ∧ Continues job next ∧
      record.jobId = job.jobId ∧ next.suspendedAt = job.suspendedAt ∧
      record.actualSecs = ({ job with endTime := some at_ } : Job).elapsedSecs env.now := by
  unfold Job.finalizeReportedRun
  dsimp only
  generalize derived : Job.derivedCompletion _ _
    _ = completion
  have derives := derivedCompletion_state (env.visit job.nodeCompletions.toList) job.nodeCompletions
    (job.allocatedNodes.headD "")
  rw [derived] at derives
  obtain ⟨valid,terminal⟩ := verdict_from_completing derives
  rw [← completing] at valid
  obtain ⟨next,moved⟩ := transition_valid valid
  obtain ⟨-,rfl⟩ := transition_eq moved
  rw [moved]
  exact ⟨_,_,rfl,terminal,rfl,rfl,rfl,rfl,⟨rfl,le_refl _⟩,rfl,rfl,rfl⟩

end

section

variable {config : Config} {env : Env} {timestamp : Time} {s : State} {timely : Prop} {date : Time}

/-- What an apply does is a chain of acts that emits exactly the answer's end records. -/
structure ByActs (timely : Prop) (date : Time) (s : State) (result : State × ClientResponse) : Prop where
  acts : Acts s.ledger result.2.jobsFinalized result.1.ledger
  turns : Keyed s.jobs → Turns timely date s.jobs result.1.jobs result.2.jobsFinalized

theorem byActs_idle (response : ClientResponse) (silent : response.jobsFinalized = []) :
    ByActs timely date s (s,response) := by
  constructor
  · rw [silent]
    exact .done _
  · intro _
    rw [silent]
    exact .refl

theorem ByActs.atJob {f : Job → State × ClientResponse}
    (known : ∀ job : Job, s.jobs[jobId]? = some job → ByActs timely date s (f job)) :
    ByActs timely date s (match s.jobs[jobId]? with | none => (s,({} : ClientResponse)) | some job => f job) := by
  split
  · exact byActs_idle _ rfl
  next job found => exact known job found

theorem byActs_move {job next : Job} {records : List JobFinalized}
    {release : Table String Node → Table String Node} {after : State} {response : ClientResponse}
    (found : s.jobs[jobId]? = some job) (jobs : after.jobs = s.jobs.insert jobId next)
    (nodes : after.nodes = release s.nodes) (emits : response.jobsFinalized = records)
    (move : Move job next records release)
    (clock : timely → Ticks date (some job) (some next) (records.map JobFinalized.actualSecs)) :
    ByActs timely date s (after,response) := by
  constructor
  · rw [emits]
    exact .move found jobs nodes move
  intro keyed
  rw [emits,jobs]
  exact .move keyed found move clock

def dateOf (env : Env) : WalOperation → Time
  | .jobPreemptCancel entry => entry.at_.getD env.now
  | op => op.occurredAt.getD env.now

/-- A run starts from Pending with no suspended time on the counter, and only a suspended run resumes. -/
def Punctual (s : State) : WalOperation → Prop
  | .jobStateChange entry => entry.newState = .running → ∀ job : Job, s.jobs[entry.jobId]? = some job →
      job.state ≠ .suspended ∧ (job.state = .pending → job.suspendedSecs = 0)
  | .jobResume jobId _ => ∀ job : Job, s.jobs[jobId]? = some job → job.state ≠ .pending
  | _ => True

theorem requeueByStateChange_cleared {config : Config} {entry : Wal.JobStateChange} {job : Job} :
    Cleared (requeueByStateChange config entry job) ∧ (requeueByStateChange config entry job).state = job.state ∧
      Continues job (requeueByStateChange config entry job) ∧
      (requeueByStateChange config entry job).suspendedAt = job.suspendedAt := by
  unfold requeueByStateChange
  split_ifs <;> cases entry.pendingReasonDesc <;> cases entry.beginTime <;>
    exact ⟨⟨rfl,rfl,rfl,rfl⟩,rfl,⟨rfl,le_refl _⟩,rfl⟩

theorem jobStateChange_acts {entry : Wal.JobStateChange}
    (emitted : entry.newState = .running ∨ entry.newState = .pending) :
    ByActs (Punctual s (.jobStateChange entry)) (entry.at_.getD timestamp) s
      (applyJobStateChange config env timestamp s entry) := by
  refine .atJob fun job found => ?_
  split
  · exact byActs_idle _ rfl
  split
  · exact byActs_idle _ rfl
  · exact byActs_idle _ rfl
  rename_i next applied
  obtain ⟨valid,rfl⟩ := transition_eq (applyTransition_applied applied)
  rcases emitted with running | pending
  · rw [running] at valid
    have clock : Punctual s (.jobStateChange entry) → job.state = .pending ∧ job.suspendedSecs = 0 := by
      intro punctual
      obtain ⟨awake,unspent⟩ := punctual running job found
      have waits : job.state = .pending := by
        generalize job.state = state at valid awake
        cases state <;> first | rfl | exact absurd rfl awake | cases valid
      exact ⟨waits,unspent waits⟩
    simp only [running,if_true]
    exact byActs_move found rfl rfl rfl (.shift ⟨rfl,le_refl _⟩ ⟨rfl,rfl,rfl,rfl⟩ (valid_to_running valid)) fun punctual =>
      .start (clock punctual).1 (clock punctual).2 rfl rfl
  · rw [pending] at valid
    simp only [pending,if_true]
    obtain ⟨cleared,kept,later,since⟩ := requeueByStateChange_cleared
    have past := valid_to_pending valid
    exact byActs_move found rfl rfl rfl (.reopen ⟨later.jobId,later.attempt⟩ past kept cleared) fun _ =>
      .reopen (idle_of_finalized past) (by rw [kept]; rfl) since

theorem backoffJob_free {job : Job} (pending : job.state = .pending) :
    Move job (backoffJob entry job) [] (releaseJob job []) ∧ Level job (backoffJob entry job) := by
  unfold backoffJob
  split_ifs <;>
    exact ⟨.free ⟨rfl,le_max_right _ _⟩ pending pending rfl rfl rfl (Or.inl rfl),.waiting pending pending rfl⟩

theorem jobDispatchBackoff_acts : ByActs timely date s (applyJobDispatchBackoff s entry) := by
  refine .atJob fun job found => ?_
  split
  · exact byActs_idle _ rfl
  next waiting =>
    split
    · exact byActs_idle _ rfl
    · obtain ⟨move,level⟩ := backoffJob_free (not_not.mp waiting)
      exact byActs_move found rfl rfl rfl move fun _ => .keep level

theorem jobPreemptRequeue_acts {entry : Wal.JobPreemptRequeue} :
    ByActs timely timestamp s (applyJobPreemptRequeue env timestamp s entry) := by
  refine .atJob fun job found => ?_
  split
  · exact byActs_idle _ rfl
  rename_i targeted
  rw [not_or,not_not] at targeted
  obtain ⟨next,record,computed,pending,cleared,continues,names,clock⟩ :=
    repend_running _ timestamp targeted.1
  rw [computed]
  exact byActs_move found rfl rfl rfl
    (.finish continues (Or.inl (by rw [targeted.1]; rfl)) (.requeued (by rw [targeted.1]; rfl) pending cleared) names)
    fun _ => clock

theorem userRequeuedJob_cleared {entry : Wal.JobUserRequeue} {job : Job} :
    Cleared (userRequeuedJob entry job) ∧ (userRequeuedJob entry job).state = job.state ∧
      Continues job (userRequeuedJob entry job) ∧ (userRequeuedJob entry job).suspendedAt = job.suspendedAt := by
  unfold userRequeuedJob
  split_ifs
  · exact ⟨⟨rfl,rfl,rfl,rfl⟩,rfl,⟨rfl,le_refl _⟩,rfl⟩
  · cases entry.beginTime <;> exact ⟨⟨rfl,rfl,rfl,rfl⟩,rfl,⟨rfl,le_refl _⟩,rfl⟩

theorem requeueToPending_eq {job next : Job} (moved : job.requeueToPending = some next) :
    next = { job with state := .pending, endTime := none } := by
  unfold Job.requeueToPending at moved
  split at moved
  · exact (Option.some.inj moved).symm
  · cases moved

theorem requeueToPending_live (job : Job) (live : job.state = .running ∨ job.state = .suspended) :
    job.requeueToPending = some { job with state := .pending, endTime := none } := by
  unfold Job.requeueToPending
  rcases live with running | suspended
  · simp [running]
  · simp [suspended]

theorem jobUserRequeue_acts {entry : Wal.JobUserRequeue} :
    ByActs timely timestamp s (applyJobUserRequeue env timestamp s entry) := by
  refine .atJob fun job found => ?_
  split
  next live =>
    dsimp only
    have back := requeueToPending_live (({ job with endTime := some timestamp } : Job).endSuspension timestamp) live
    rw [back]
    obtain ⟨cleared,kept,later,since⟩ := userRequeuedJob_cleared
    exact byActs_move found rfl rfl rfl (.finish ⟨later.jobId,later.attempt⟩ (Or.inl (live_active live))
      (.requeued (live_active live) kept cleared) rfl) fun _ =>
        .finish (by rw [kept]; rfl) since (Stint.elapsed_close timestamp (stintOf job))
  next idle =>
    split
    next terminal =>
      split
      · exact byActs_idle _ rfl
      rename_i next moved
      cases requeueToPending_eq moved
      obtain ⟨cleared,kept,later,since⟩ := userRequeuedJob_cleared
      have past : job.state.isFinalized = true := by simp [JobState.isFinalized,terminal]
      exact byActs_move found rfl rfl rfl (.reopen ⟨later.jobId,later.attempt⟩ past kept cleared) fun _ =>
        .reopen (idle_of_terminal terminal) (by rw [kept]; rfl) since
    · exact byActs_idle _ rfl

theorem applySuspend_eq {job next : Job} {now at_ : Time}
    {by_ : Option Actor} (suspended : job.applySuspend now at_ preemptedBy preemptQos by_ = some next) :
    job.state.validTransition .suspended = true ∧ next = if preemptedBy.isSome then
        { job with state := .suspended, suspendedAt := some at_, preemptedBy, preemptMode := some "Suspend", preemptQos }
      else { job with state := .suspended, suspendedAt := some at_, suspendedBy := by_ } := by
  unfold Job.applySuspend at suspended
  split at suspended
  · cases suspended
  split at suspended
  next moved applied =>
    obtain ⟨valid,rfl⟩ := transition_eq (applyTransition_applied applied)
    exact ⟨valid,(Option.some.inj suspended).symm⟩
  · cases suspended
  · cases suspended

theorem jobSuspend_acts {entry : Wal.JobSuspend} : ByActs timely entry.at_ s (applyJobSuspend env s entry) := by
  refine .atJob fun job found => ?_
  split
  · exact byActs_idle _ rfl
  rename_i next suspended
  obtain ⟨valid,rfl⟩ := applySuspend_eq suspended
  have running : job.state = .running := by
    generalize job.state = state at valid
    cases state <;> first | rfl | cases valid
  split_ifs <;>
    exact byActs_move found rfl rfl rfl (.shift ⟨rfl,le_refl _⟩ ⟨rfl,rfl,rfl,rfl⟩ (by rw [running]; exact .suspend))
      fun _ => .pause running rfl rfl

theorem jobResume_acts {at_ : Time} :
    ByActs (Punctual s (.jobResume jobId at_)) at_ s (applyJobResume env s jobId at_) := by
  refine .atJob fun job found => ?_
  split
  · exact byActs_idle _ rfl
  · exact byActs_idle _ rfl
  rename_i next applied
  obtain ⟨valid,rfl⟩ := transition_eq (applyTransition_applied applied)
  refine byActs_move found rfl rfl rfl (.shift ⟨rfl,le_refl _⟩ ⟨rfl,rfl,rfl,rfl⟩ (valid_to_running valid)) ?_
  intro punctual
  have suspended : job.state = .suspended := by
    have started := punctual job found
    generalize job.state = state at valid started
    cases state <;> first | rfl | exact absurd rfl started | cases valid
  exact .close (.inr suspended) (.inr ⟨suspended,rfl⟩) rfl

theorem releaseJob_nothing {job : Job} {alreadyDeallocated : List String} {nodes : Table String Node}
    (unplaced : job.allocatedNodes = []) : releaseJob job alreadyDeallocated nodes = nodes := by
  unfold releaseJob deallocateJobSlices
  rw [unplaced]
  cases job.allocatedResources <;> rfl

def preemptIgnored (runAttempt : Option Nat) (job : Job) : Prop :=
  job.state ≠ .running ∨ job.preemptTargetsRun runAttempt = false

/-- A preempt-cancel is refused, or a run on nodes drains, or one without a node ends at once. -/
theorem jobPreemptCancel_cases {env : Env} {timestamp : Time} {s : State} {entry : Wal.JobPreemptCancel} :
    (∀ job : Job, s.jobs[entry.jobId]? = some job → preemptIgnored entry.runAttempt job) ∧
        applyJobPreemptCancel env timestamp s entry = (s,{}) ∨
      ∃ job : Job, s.jobs[entry.jobId]? = some job ∧ job.state = .running ∧ (applyJobPreemptCancel env timestamp s entry = ({ s with
          jobs := s.jobs.insert entry.jobId
            { preemptCancelled (entry.at_.getD timestamp) entry job with state := .completing } },
          { preemptApplied := true }) ∨
        job.allocatedNodes = [] ∧ applyJobPreemptCancel env timestamp s entry = ({ s with
          jobs := s.jobs.insert entry.jobId
            { preemptCancelled (entry.at_.getD timestamp) entry job with state := .cancelled, nodeCompletions := ∅ }
          nodes := releaseJob job [] s.nodes
          steps := completeJobSteps entry.jobId (-1) timestamp s.steps },
          { jobsFinalized := [JobFinalized.forJob env.now
              (preemptCancelled (entry.at_.getD timestamp) entry { job with state := .preempted }) .preempted (-1)]
            preemptApplied := true })) := by
  unfold applyJobPreemptCancel
  cases found : s.jobs[entry.jobId]? with
  | none => exact .inl ⟨fun _ stored => (by cases stored),rfl⟩
  | some job =>
    dsimp only
    split
    next ignored => exact .inl ⟨fun _ same => Option.some.inj same ▸ ignored,rfl⟩
    rename_i targeted
    rw [not_or,not_not] at targeted
    refine .inr ⟨job,rfl,targeted.1,?_⟩
    have stops : job.transition env.now .preempted = some { job with state := .preempted } := by
      unfold Job.transition
      rw [targeted.1]
      rfl
    rw [stops]
    dsimp only
    split
    · exact .inl rfl
    next unplaced => exact .inr ⟨not_not.mp unplaced,rfl⟩

theorem jobPreemptCancel_acts {entry : Wal.JobPreemptCancel} :
    ByActs timely (entry.at_.getD timestamp) s (applyJobPreemptCancel env timestamp s entry) := by
  obtain ⟨-,refused⟩ | ⟨job,found,running,drains | ⟨unplaced,ends⟩⟩ := jobPreemptCancel_cases
  · rw [refused]
    exact byActs_idle _ rfl
  · rw [drains]
    exact byActs_move found rfl rfl rfl (.shift ⟨rfl,le_refl _⟩ ⟨rfl,rfl,rfl,rfl⟩ (by rw [running]; exact .drain))
      fun _ => .close (.inl running) (.inl rfl) rfl
  · rw [ends]
    refine byActs_move found rfl ?_ rfl (.finish ⟨rfl,le_refl _⟩ (Or.inl (by rw [running]; rfl))
      (.ended rfl rfl rfl rfl rfl) rfl) fun _ => .finish rfl rfl (Stint.elapsed_close _ (stintOf job))
    rw [releaseJob_nothing unplaced,releaseJob_nothing unplaced]

end

end Spur.Cluster
