import Spur.Cluster.Refinement
import Spur.Library.Run

/-! No entry takes a job back to an earlier attempt, changes its id, or drops it unless it purges finished jobs. -/
namespace Spur.Cluster
open Spur Spur.Library Spur.Library.Run Option

variable {records : List JobFinalized} {entry : Wal.JobComplete} {jobId : JobId} {config : Config}

section

variable {job next : Job}

theorem transition_continues {now : Time} {target : JobState} (moved : job.transition now target = some next) :
    Continues job next := by
  obtain ⟨-,rfl⟩ := transition_eq moved
  exact ⟨rfl,le_refl _⟩

theorem repend_continues (now begin : Time) (preemptedBy : Option JobId) (preemptQos : Option String) (at_ : Time)
    (job : Job) : Continues job (job.rependAfterPreemption now begin preemptedBy preemptQos at_).1 := by
  unfold Job.rependAfterPreemption
  split
  · exact .refl _
  rename_i ended stopped
  obtain ⟨-,rfl⟩ := transition_eq stopped
  dsimp only
  split
  · exact ⟨rfl,le_refl _⟩
  next back reopened =>
    obtain ⟨-,rfl⟩ := transition_eq reopened
    exact ⟨rfl,le_refl _⟩

theorem finalizeReportedRun_continues {env : Env} {at_ : Time} {job : Job} :
    Continues job (job.finalizeReportedRun env at_).1 := by
  unfold Job.finalizeReportedRun
  dsimp only
  split
  · exact .refl _
  next ended stopped =>
    obtain ⟨-,rfl⟩ := transition_eq stopped
    exact ⟨rfl,le_refl _⟩

theorem routeThroughCompleting_continues (now at_ : Time) (job : Job) :
    Continues job (job.routeThroughCompleting now at_) := by
  unfold Job.routeThroughCompleting
  split
  · cases moved : job.transition now _ with
    | none => exact ⟨rfl,le_refl _⟩
    | some next =>
      obtain ⟨-,rfl⟩ := transition_eq moved
      exact ⟨rfl,le_refl _⟩
  · exact .refl _

theorem advanceAfterNodeReport_continues (env : Env) (grace : Option PreemptPending) (at_ : Time) (job : Job) :
    Continues job (job.advanceAfterNodeReport env grace at_).1 := by
  have settled (job : Job) (all : Bool) : Continues job
      (if all = true then (job.routeThroughCompleting env.now at_).finalizeReportedRun env at_
        else (job.routeThroughCompleting env.now at_,none)).1 := by
    have routed := routeThroughCompleting_continues env.now at_ job
    split
    · exact routed.trans finalizeReportedRun_continues
    · exact routed
  unfold Job.advanceAfterNodeReport
  dsimp only
  split
  · exact settled job _
  split
  · exact .refl _
  · split
    · exact repend_continues _ _ _ _ at_ job
    · exact adoptGraceProvenance_quiet.continues.trans (settled _ _)

theorem evictRun_continues {env : Env} {timestamp : Time} {reason : PendingReason} {failure : Option NodeFailure}
    (evicted : evictRun env timestamp reason failure job = some next) : Continues job next := by
  obtain ⟨ended,found,rfl⟩ := map_eq_some_iff.mp evicted
  obtain ⟨-,rfl⟩ := transition_eq found
  dsimp only
  split <;> exact ⟨rfl,le_refl _⟩

theorem completeRun_continues {env : Env} {timestamp : Time} {state : JobState} (completed : completeRun env timestamp entry state job = some (next,records)) :
    Continues job next := by
  obtain ⟨ended,found,same⟩ := map_eq_some_iff.mp completed
  obtain ⟨-,rfl⟩ := transition_eq found
  cases congrArg Prod.fst same
  split <;> exact ⟨rfl,le_refl _⟩

theorem finishRun_continues {env : Env} {timestamp : Time} {grace : Option PreemptPending}
    {job : Job} : Continues job (finishRun env timestamp entry grace job).1 := by
  unfold finishRun
  dsimp only
  split
  next pending _ =>
    have kept := repend_continues env.now (job.preemptHoldUntil timestamp pending.requeueHoldSecs)
      (some pending.preemptedBy) pending.preemptQos timestamp job
    split
    next computed => rw [computed] at kept; exact kept
    next computed => rw [computed] at kept; exact kept
  · split
    next completed => exact completeRun_continues completed
    · exact .refl _

end

section

def Advances (before after : Table JobId Job) : Prop :=
  ∀ (jobId : JobId) (next : Job), after[jobId]? = some next → ∃ job : Job, before[jobId]? = some job ∧ Continues job next

variable {jobs : Table JobId Job}

namespace Advances

theorem of_related {before after : Table JobId Job} (related : Table.Related Continues before after) :
    Advances before after := fun _ _ stored => related.comesFrom stored

theorem refl {jobs : Table JobId Job} : Advances jobs jobs := fun _ next stored => ⟨next,stored,.refl next⟩

theorem trans {first second third : Table JobId Job} (left : Advances first second) (right : Advances second third) :
    Advances first third := by
  intro jobId next stored
  obtain ⟨between,found,later⟩ := right jobId next stored
  obtain ⟨job,before,sooner⟩ := left jobId between found
  exact ⟨job,before,sooner.trans later⟩

theorem insert {job next : Job} (found : jobs[jobId]? = some job) (later : Continues job next) :
    Advances jobs (jobs.insert jobId next) := .of_related (.insert_right Continues.refl found later)

theorem modify {f : Job → Job} (jobId : JobId) (later : ∀ job, Continues job (f job)) :
    Advances jobs (jobs.modify jobId f) := .of_related (.modify_right Continues.refl later)

theorem atJob {s : State} {f : Job → State × ClientResponse}
    (known : ∀ job : Job, s.jobs[jobId]? = some job → Advances s.jobs (f job).1.jobs) :
    Advances s.jobs (match s.jobs[jobId]? with | none => (s,({} : ClientResponse)) | some job => f job).1.jobs := by
  split
  · exact .refl
  next job found => exact known job found

theorem foldl {A E : Type} {t : E → Table JobId Job} {f : E → A → E}
    (each : ∀ e a, Advances (t e) (t (f e a))) (list : List A) (e : E) :
    Advances (t e) (t (list.foldl f e)) := by
  induction list generalizing e with
  | nil => exact .refl
  | cons a list ih => exact (each e a).trans (ih _)

end Advances

theorem Act.advances {first second : Ledger} (act : Act first records second) : Advances first.jobs second.jobs := by
  cases act with
  | move found move => exact .insert found move.continues
  | annotateAll quiet => exact .of_related (.map_right (fun _ job => (quiet job).1))
  | purge _ =>
    intro jobId job stored
    rw [Table.find_filter] at stored
    exact ⟨job,(filter_eq_some_iff.mp stored).1,.refl job⟩
  | nodes _ => exact .refl
  | remove _ => exact .refl

theorem Acts.advances {first second : Ledger} (acts : Acts first records second) :
    Advances first.jobs second.jobs := by
  induction acts with
  | done ledger => exact .refl
  | more act _ ih => exact act.advances.trans ih

theorem evictJobLocked_advances (env : Env) (timestamp : Time) (reason : PendingReason) (failure : Option NodeFailure)
    (eviction : Eviction) (jobId : JobId) :
    Advances eviction.jobs (evictJobLocked env timestamp reason failure eviction jobId).jobs := by
  unfold evictJobLocked
  split
  · exact .refl
  next job found =>
    split
    · exact .insert found ⟨rfl,le_refl _⟩
    next next evicted => exact .insert found (evictRun_continues evicted)

theorem strandJob_advances (eviction : Eviction) (jobId : JobId) :
    Advances eviction.jobs (strandJob eviction jobId).jobs := by
  unfold strandJob
  split
  · exact .refl
  next job found => exact .insert found ⟨rfl,le_refl _⟩

theorem evictJobsOnNode_advances (env : Env) (timestamp : Time) (nodeName : String) (failure : NodeFailure)
    (jobs : Table JobId Job) (nodes : Table String Node) :
    Advances jobs (evictJobsOnNode env timestamp nodeName failure jobs nodes).jobs :=
  (Advances.foldl (t := Eviction.jobs) (evictJobLocked_advances env timestamp _ _) _
    _).trans (Advances.foldl (t := Eviction.jobs) strandJob_advances _ _)

end

section

variable (env : Env) (timestamp : Time) {s : State}

theorem jobStateChange_advances {entry : Wal.JobStateChange} :
    Advances s.jobs (applyJobStateChange config env timestamp s entry).1.jobs := by
  refine .atJob fun job found => ?_
  split
  · exact .refl
  split
  · exact .refl
  · exact .refl
  rename_i next moved
  have kept := transition_continues (applyTransition_applied moved)
  refine .insert found ?_
  have started : Continues job (if entry.newState = .running then
      { next with startTime := some (entry.at_.getD timestamp) } else next) := by
    split <;> exact ⟨kept.jobId,kept.attempt⟩
  split
  · exact started.trans requeueByStateChange_cleared.2.2.1
  · exact started

theorem jobNodeComplete_advances {entry : Wal.JobNodeComplete} :
    Advances s.jobs (applyJobNodeComplete env timestamp s entry).1.jobs := by
  refine .atJob fun job found => ?_
  split
  · exact .refl
  split
  · exact .refl
  have later := advanceAfterNodeReport_continues env (job.preemptGrace.filter fun _ => job.state == .running)
    timestamp { job with
      nodeCompletions := job.nodeCompletions.insert entry.nodeName ⟨entry.exitCode,entry.signal⟩ }
  exact .insert found ⟨later.jobId,later.attempt⟩

theorem jobComplete_advances : Advances s.jobs (applyJobComplete env timestamp s entry).1.jobs := by
  obtain ignored | ⟨job,marked,grace,found,adopts,-,jobs,-,-⟩ := jobComplete_cases
  · rw [ignored]
    exact .refl
  rw [jobs]
  refine .insert found (.trans ?_ finishRun_continues)
  rcases adopts with rfl | rfl
  · exact .refl marked
  · exact adoptGraceProvenance_quiet.continues

theorem jobEvict_advances {detail : Option String} :
    Advances s.jobs (applyJobEvict env timestamp s jobId detail).1.jobs := by
  have noted : Advances s.jobs (s.jobs.modify jobId fun job => { job with launchFailureDetail := detail }) :=
    .modify jobId fun _ => ⟨rfl,le_refl _⟩
  exact noted.trans (evictJobLocked_advances env timestamp _ none _ jobId)

theorem jobStart_advances {entry : Wal.JobStart} : Advances s.jobs (applyJobStart s entry).1.jobs := by
  unfold applyJobStart
  dsimp only
  split
  · exact .refl
  · exact .modify _ fun _ => ⟨rfl,le_max_right _ _⟩

theorem nodeUpdate_advances {entry : Wal.NodeUpdate} :
    Advances s.jobs (applyNodeUpdate config env s entry).1.jobs := by
  unfold applyNodeUpdate
  split
  · exact .refl
  unfold remapJobGpuAllocations
  split
  · exact .refl
  · refine .of_related (.map_right (fun _ job => ?_))
    split <;> exact ⟨rfl,le_refl _⟩

end

theorem applyOperation_comesFrom {env : Env} {s : State} {op : WalOperation}
    (known : ∀ jobId spec, op ≠ .jobSubmit jobId spec) : Advances s.jobs (applyOperation config env s op).1.jobs := by
  by_cases plain : plainMoves op = true
  · exact (applyOperation_moves plain).acts.advances
  cases op with
  | jobSubmit jobId spec => exact absurd rfl (known jobId spec)
  | jobStateChange entry => exact jobStateChange_advances env _
  | jobStart entry => exact jobStart_advances
  | jobComplete entry => exact jobComplete_advances env _
  | jobNodeComplete entry => exact jobNodeComplete_advances env _
  | jobEvict jobId detail at_ => exact jobEvict_advances env _
  | nodeRegister entry => exact .refl
  | nodeUpdate entry => exact nodeUpdate_advances env
  | nodeStateChange entry =>
    unfold applyOperation applyNodeStateChange
    dsimp only
    split
    · exact evictJobsOnNode_advances env _ _ _ _ _
    · exact .refl
  | nodeRemove name reason at_ => exact evictJobsOnNode_advances env _ _ _ _ _
  | _ => exact absurd rfl plain

end Spur.Cluster
