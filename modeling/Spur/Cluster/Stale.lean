import Spur.Cluster.Attempts
import Spur.Cluster.Propose

/-! Entries addressed to an earlier run attempt of a job, and the attempts of a job along a log. -/
namespace Spur.Cluster
open Spur Spur.Library Spur.Library.Run List Option

def attemptOf : WalOperation → Option (JobId × Nat)
  | .jobNodeComplete entry => some (entry.jobId,entry.runAttempt)
  | .jobDispatchBackoff entry => some (entry.jobId,entry.runAttempt)
  | .jobPriorityChange entry => entry.runAttempt.map fun attempt => (entry.jobId,attempt)
  | .jobPreemptRequeue entry => entry.runAttempt.map fun attempt => (entry.jobId,attempt)
  | .jobPreemptCancel entry => entry.runAttempt.map fun attempt => (entry.jobId,attempt)
  | .jobPreemptSignaled jobId pending => some (jobId,pending.runAttempt)
  | .jobTimeLimitExpired jobId runAttempt _ => some (jobId,runAttempt)
  | .jobStateChange entry => entry.expectedRunAttempt.map fun attempt => (entry.jobId,attempt)
  | _ => none

structure Stale (s : State) (op : WalOperation) (jobId : JobId) (job : Job) (attempt : Nat) : Prop where
  addressed : attemptOf op = some (jobId,attempt)
  found : s.jobs[jobId]? = some job
  named : attempt ≠ 0
  older : attempt < job.runAttempt

def Inert (config : Config) (env : Env) (s : State) (op : WalOperation) : Prop :=
  (applyOperation config env s op).1.jobs = s.jobs ∧ SameCharges s.nodes (applyOperation config env s op).1.nodes

def Restates (job : Job) : WalOperation → Prop
  | .jobPriorityChange entry =>
    entry.newPriority = job.priority ∧
      (∀ reason, entry.pendingReason = some reason →
        reason = job.pendingReason ∧ entry.pendingReasonDesc = job.pendingReasonDesc) ∧
      (entry.resetRequeueCount = true → job.requeueCount = 0) ∧
      (entry.clearReservation = true → job.spec.reservation = none)
  | _ => True

section

variable {entry : Wal.JobPriorityChange} {job : Job}

private def reasoned (entry : Wal.JobPriorityChange) (job : Job) : Job :=
  match entry.pendingReason,entry.pendingReasonDesc with
  | some reason,some desc => job.setPendingReasonDesc reason desc
  | some reason,none => job.setPendingReason reason
  | none,_ => job

private theorem reprioritizedJob_unheld (unheld : holdReleases entry job = false) : reprioritizedJob entry job =
      let next := reasoned entry { job with priority := entry.newPriority }
      { next with
        runAttempt := max (entry.runAttempt.getD 0) next.runAttempt
        requeueCount := if entry.resetRequeueCount then 0 else next.requeueCount
        spec := if entry.clearReservation then { next.spec with reservation := none } else next.spec } := by
  unfold reprioritizedJob
  rw [unheld]
  rfl

private theorem reasoned_rest {entry : Wal.JobPriorityChange} {job : Job} :
    (reasoned entry job).priority = job.priority ∧ (reasoned entry job).requeueCount = job.requeueCount ∧
      (reasoned entry job).spec = job.spec ∧ (reasoned entry job).runAttempt = job.runAttempt ∧
      ∀ reason, entry.pendingReason = some reason →
        (reasoned entry job).pendingReason = reason ∧ (reasoned entry job).pendingReasonDesc = entry.pendingReasonDesc := by
  unfold reasoned
  cases entry.pendingReason with
  | none => exact ⟨rfl,rfl,rfl,rfl,fun _ absent => by cases absent⟩
  | some reason =>
    cases entry.pendingReasonDesc with
    | none => exact ⟨rfl,rfl,rfl,rfl,fun _ given => ⟨Option.some.inj given,rfl⟩⟩
    | some desc => exact ⟨rfl,rfl,rfl,rfl,fun _ given => ⟨Option.some.inj given,rfl⟩⟩

private theorem reasoned_restated (same : ∀ reason, entry.pendingReason = some reason →
    reason = job.pendingReason ∧ entry.pendingReasonDesc = job.pendingReasonDesc) : reasoned entry job = job := by
  have kept (desc : Option String) (given : desc = job.pendingReasonDesc) : ({ job with
        launchFailureDetail := if job.pendingReason = .jobLaunchFailure ∧ job.pendingReason ≠ .jobLaunchFailure then none
          else job.launchFailureDetail
        pendingReason := job.pendingReason
        pendingReasonDesc := desc } : Job) = job := by
    rw [if_neg fun both => both.2 both.1,given]
  unfold reasoned
  cases present : entry.pendingReason with
  | none => rfl
  | some reason =>
    obtain ⟨rfl,described⟩ := same reason present
    cases written : entry.pendingReasonDesc with
    | none => exact kept none (written ▸ described)
    | some desc => exact kept _ (written ▸ described)

theorem reprioritizedJob_eq_iff (unheld : holdReleases entry job = false)
    (older : entry.runAttempt.getD 0 ≤ job.runAttempt) :
    reprioritizedJob entry job = job ↔ Restates job (.jobPriorityChange entry) := by
  rw [reprioritizedJob_unheld unheld]
  obtain ⟨priority,count,spec,attempt,reason⟩ := reasoned_rest
  constructor
  · intro same
    refine ⟨?_,fun given stated => ?_,fun resets => ?_,fun clears => ?_⟩
    · have stays := congrArg Job.priority same
      exact priority.symm.trans stays
    · obtain ⟨named,described⟩ := reason given stated
      have stays := congrArg Job.pendingReason same
      have reads := congrArg Job.pendingReasonDesc same
      exact ⟨named.symm.trans stays,described.symm.trans reads⟩
    · have zero := congrArg Job.requeueCount same
      dsimp only at zero
      rw [if_pos resets] at zero
      exact zero.symm
    · have gone := congrArg (fun job : Job => job.spec.reservation) same
      dsimp only at gone
      rw [if_pos clears] at gone
      exact gone.symm
  · rintro ⟨kept,restated,resets,clears⟩
    have whole : ({ job with priority := entry.newPriority } : Job) = job := by rw [kept]
    rw [whole,reasoned_restated restated]
    have count : (if entry.resetRequeueCount = true then 0 else job.requeueCount) = job.requeueCount := by
      split
      next reset => exact (resets reset).symm
      · rfl
    have spec : (if entry.clearReservation = true then { job.spec with reservation := none } else job.spec) = job.spec := by
      split
      next clear => rw [← clears clear]
      · rfl
    dsimp only
    rw [count,spec,max_eq_right older]

end

section

variable {config : Config} {env : Env} {s : State} {jobId : JobId} {job : Job} {attempt : Nat}

private theorem targets_stale (older : attempt < job.runAttempt) : job.preemptTargetsRun (some attempt) = false := by
  unfold Job.preemptTargetsRun
  rw [all_some,beq_eq_false_iff_ne]
  omega

theorem stale_ignored {op : WalOperation} (stale : Stale s op jobId job attempt)
    (other : ∀ entry, op ≠ .jobPriorityChange entry) : (applyOperation config env s op).1 = s := by
  obtain ⟨addressed,found,named,older⟩ := stale
  have guarded : attempt ≠ 0 ∧ job.runAttempt ≠ 0 ∧ attempt < job.runAttempt := ⟨named,by omega,older⟩
  cases op with
  | jobNodeComplete entry =>
    cases addressed
    change (applyJobNodeComplete env _ s entry).1 = s
    unfold applyJobNodeComplete
    rw [found]
    dsimp only
    rw [if_pos guarded]
  | jobDispatchBackoff entry =>
    cases addressed
    change (applyJobDispatchBackoff s entry).1 = s
    unfold applyJobDispatchBackoff
    rw [found]
    dsimp only
    rw [if_pos guarded,ite_self]
  | jobPriorityChange entry => exact absurd rfl (other entry)
  | jobPreemptRequeue entry =>
    obtain ⟨_,given,same⟩ := map_eq_some_iff.mp addressed
    cases same
    change (applyJobPreemptRequeue env _ s entry).1 = s
    unfold applyJobPreemptRequeue
    rw [found,given]
    dsimp only
    rw [if_pos (Or.inr (targets_stale older))]
  | jobPreemptCancel entry =>
    obtain ⟨_,given,same⟩ := map_eq_some_iff.mp addressed
    cases same
    change (applyJobPreemptCancel env _ s entry).1 = s
    unfold applyJobPreemptCancel
    rw [found,given]
    dsimp only
    rw [if_pos (Or.inr (targets_stale older))]
  | jobPreemptSignaled _ pending =>
    cases addressed
    change (applyJobPreemptSignaled s _ pending).1 = s
    unfold applyJobPreemptSignaled
    rw [found]
    dsimp only
    rw [if_neg fun current => absurd current.2.1 (by omega)]
  | jobTimeLimitExpired _ _ at_ =>
    cases addressed
    change (applyJobTimeLimitExpired env s _ _ at_).1 = s
    unfold applyJobTimeLimitExpired
    rw [found]
    dsimp only
    rw [if_pos (Or.inr ⟨named,by omega,by omega⟩)]
  | jobStateChange entry =>
    obtain ⟨_,given,same⟩ := map_eq_some_iff.mp addressed
    cases same
    change (applyJobStateChange config env _ s entry).1 = s
    unfold applyJobStateChange
    rw [found,given]
    dsimp only
    rw [if_pos]
    refine ⟨rfl,Or.inl fun equal => ?_⟩
    cases equal
    omega
  | _ => cases addressed

theorem stale_frees_nothing {entry : Wal.JobPriorityChange}
    (stale : Stale s (.jobPriorityChange entry) jobId job attempt) : holdReleases entry job = false := by
  obtain ⟨addressed,_,named,older⟩ := stale
  obtain ⟨_,given,same⟩ := map_eq_some_iff.mp addressed
  cases same
  have outdated : (attempt == 0 || job.runAttempt == 0 || decide (job.runAttempt ≤ attempt)) = false := by
    simp only [Bool.or_eq_false_iff,beq_eq_false_iff_ne,decide_eq_false_iff_not]
    omega
  unfold holdReleases
  rw [given]
  dsimp only
  rw [outdated,Bool.and_false,Bool.false_and]

theorem stale_inert_iff {op : WalOperation} (stale : Stale s op jobId job attempt) :
    Inert config env s op ↔ Restates job op := by
  by_cases change : ∃ entry, op = .jobPriorityChange entry
  · obtain ⟨entry,rfl⟩ := change
    have unheld := stale_frees_nothing stale
    obtain ⟨addressed,found,named,older⟩ := stale
    obtain ⟨_,given,same⟩ := map_eq_some_iff.mp addressed
    cases same
    have outcome : (applyOperation config env s (.jobPriorityChange entry)).1 =
        { s with jobs := s.jobs.insert entry.jobId (reprioritizedJob entry job) } := by
      change (applyJobPriorityChange s entry).1 = _
      unfold applyJobPriorityChange
      rw [found]
      dsimp only
      rw [unheld]
      rfl
    rw [← reprioritizedJob_eq_iff unheld (by rw [given]; exact older.le)]
    unfold Inert
    rw [outcome]
    constructor
    · rintro ⟨unchanged,_⟩
      have stored : (s.jobs.insert entry.jobId (reprioritizedJob entry job))[entry.jobId]? =
          some (reprioritizedJob entry job) := by rw [Table.find_insert,if_pos rfl]
      dsimp only at unchanged
      rw [unchanged,found] at stored
      exact (Option.some.inj stored).symm
    · intro restated
      refine ⟨?_,fun _ => rfl⟩
      apply Table.ext
      intro other
      rw [Table.find_insert,restated]
      split
      next same => rw [← same,found]
      next => rfl
  · push Not at change
    have ignored := @stale_ignored config env s jobId job attempt op stale change
    unfold Inert
    rw [ignored]
    refine iff_of_true ⟨rfl,fun _ => rfl⟩ ?_
    unfold Restates
    split
    next entry => exact absurd rfl (change entry)
    · trivial

end

section

def Unsubmitted (jobId : JobId) (log : List (Env × WalOperation)) : Prop :=
  ∀ entry ∈ log, ∀ spec, entry.2 ≠ .jobSubmit jobId spec

theorem run_advances {config : Config} {jobId : JobId} {log : List (Env × WalOperation)}
    (unsubmitted : Unsubmitted jobId log) (s : State) {next : Job} (stored : (run config s log).jobs[jobId]? = some next) :
    ∃ job : Job, s.jobs[jobId]? = some job ∧ job.runAttempt ≤ next.runAttempt := by
  induction log generalizing s with
  | nil => exact ⟨next,stored,le_refl _⟩
  | cons entry log ih =>
    obtain ⟨between,found,later⟩ := ih (fun other member => unsubmitted other (mem_cons_of_mem _ member)) _ stored
    have first := unsubmitted entry mem_cons_self
    by_cases submission : ∃ other spec, entry.2 = .jobSubmit other spec
    · obtain ⟨other,spec,submits⟩ := submission
      have different : other ≠ jobId := fun same => first spec (same ▸ submits)
      have kept : (step config s entry).jobs[jobId]? = s.jobs[jobId]? := by
        unfold step
        rw [submits]
        exact Table.find_insert_ne different
      rw [kept] at found
      exact ⟨between,found,later⟩
    · push Not at submission
      obtain ⟨job,before,sooner⟩ := applyOperation_comesFrom submission _ _ found
      exact ⟨job,before,sooner.attempt.trans later⟩

/-- An entry addressed to an attempt its job has left behind changes no job and no charge, unless it is
a priority change that says something new; and without a submission of its id, a job's attempt never
goes back along a log. -/
theorem stale_attempts_inert (config : Config) :
    (∀ (env : Env) (s : State) (op : WalOperation) (jobId : JobId) (job : Job) (attempt : Nat),
        Stale s op jobId job attempt → (Inert config env s op ↔ Restates job op)) ∧
      ∀ (s : State) (log : List (Env × WalOperation)) (jobId : JobId), Unsubmitted jobId log →
        ∀ sooner later : Nat, sooner ≤ later → ∀ next : Job, (run config s (log.take later)).jobs[jobId]? = some next →
          ∃ job : Job, (run config s (log.take sooner)).jobs[jobId]? = some job ∧ job.runAttempt ≤ next.runAttempt := by
  refine ⟨fun env s op jobId job attempt stale => stale_inert_iff stale,?_⟩
  intro s log jobId unsubmitted sooner later order next stored
  have split : log.take later = log.take sooner ++ (log.take later).drop sooner := by
    have parts := (take_append_drop sooner (log.take later)).symm
    rwa [take_take,min_eq_left order] at parts
  rw [split,run,foldl_append] at stored
  refine run_advances (fun entry member => ?_) _ stored
  exact unsubmitted entry (mem_of_mem_take (mem_of_mem_drop member))

end

section

def holdSlice : ResourceAllocations := { cpus := 4, memoryMb := 1024 }

def holdPlacement : Placement where
  nodeNames := ["n1"]
  resources := holdSlice
  perNodeAlloc := (∅ : Table String ResourceAllocations).insert "n1" holdSlice

def holdStart (attempt : Nat) : WalOperation :=
  .jobStart { jobId := 1, nodes := ["n1"], resources := holdSlice, perNodeAlloc := holdPlacement.perNodeAlloc,
              runAttempt := attempt }

def secondPlacement : List (Env × WalOperation) :=
  [(.ordered 0,.jobSubmit 1 {}),
    (.ordered 0,.nodeRegister { name := "n1", resources := { cpus := 8, memoryMb := 4096 }, address := "n1" }),
    (.ordered 0,holdStart 1),(.ordered 0,.jobDispatchBackoff { jobId := 1, beginTime := 9, runAttempt := 1 }),
    (.ordered 0,holdStart 2)]

def lateHold : Wal.JobPriorityChange :=
  { jobId := 1, oldPriority := 1000, newPriority := 0, pendingReason := some .held,
    pendingReasonDesc := some launchFailureHeldDesc, runAttempt := some 1 }

private theorem secondPlacement_stale : ∃ job : Job, job.priority = 1000 ∧
    Stale (run {} (.fresh {}) secondPlacement) (.jobPriorityChange lateHold) 1 job 1 := by
  have read : ((run {} (.fresh {}) secondPlacement).jobs[1]?).map (fun job => (job.priority,job.runAttempt)) =
      some (1000,2) := by decide +kernel
  obtain ⟨job,found,fields⟩ := map_eq_some_iff.mp read
  have attempt : job.runAttempt = 2 := congrArg Prod.snd fields
  exact ⟨job,congrArg Prod.fst fields,rfl,found,by decide,by rw [attempt]; decide⟩

theorem stale_attempts_inert_hold : ∃ job : Job, job.priority = 1000 ∧
    Stale (run {} (.fresh {}) secondPlacement) (.jobPriorityChange lateHold) 1 job 1 ∧
    (Inert {} (.ordered 1) (run {} (.fresh {}) secondPlacement) (.jobPriorityChange lateHold) ↔
      Restates job (.jobPriorityChange lateHold)) := by
  obtain ⟨job,priority,stale⟩ := secondPlacement_stale
  exact ⟨job,priority,stale,(stale_attempts_inert {}).1 _ _ _ _ _ _ stale⟩

/-- The hold for a given-up attempt commits after the next placement: the job is held all the same. -/
theorem stale_hold_writes :
    reservePlacement (run {} (.fresh {}) (secondPlacement.take 2)) (fun _ _ => true) 1 holdPlacement =
        some (holdStart 1) ∧
      abortPlacement {} 9 (run {} (.fresh {}) (secondPlacement.take 3)) 1 1 false =
        some (.jobDispatchBackoff { jobId := 1, beginTime := 9, runAttempt := 1 }) ∧
      reservePlacement (run {} (.fresh {}) (secondPlacement.take 4)) (fun _ _ => true) 1 holdPlacement =
        some (holdStart 2) ∧
      holdJobForLaunchFailure (run {} (.fresh {}) secondPlacement) 1 none 1 = some (.jobPriorityChange lateHold) ∧
      (∃ job : Job, Stale (run {} (.fresh {}) secondPlacement) (.jobPriorityChange lateHold) 1 job 1) ∧
      ((run {} (.fresh {}) secondPlacement).jobs[1]?).map (fun job => (job.priority,job.pendingReason)) =
        some (1000,.none) ∧
      ((run {} (.fresh {}) (secondPlacement ++ [(.ordered 1,.jobPriorityChange lateHold)])).jobs[1]?).map
        (fun job => (job.priority,job.pendingReason)) = some (0,.held) := by
  obtain ⟨job,_,stale⟩ := secondPlacement_stale
  exact ⟨rfl,rfl,rfl,rfl,⟨job,stale⟩,by decide +kernel,by decide +kernel⟩

end

end Spur.Cluster
