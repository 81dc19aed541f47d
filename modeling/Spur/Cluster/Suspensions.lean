import Spur.Cluster.EndRecords

/-! Suspended time and runs: the elapsed time of a run and its deadline. -/
namespace Spur.Cluster
open Spur Spur.Library Spur.Library.Run

def effectiveDeadline (now start : Time) (timeLimit : Duration) (job : Job) : Time :=
  let suspended := job.suspendedSecs + job.suspendedAt.elim 0 fun since => max (Duration.numSeconds (now - since)) 0
  start + timeLimit + Duration.seconds suspended

structure Rested (next : Job) : Prop where
  since : next.suspendedAt = none
  idle : next.state.isActive = false
  waiting : next.state = .pending → next.endTime = none

structure Running (job : Job) : Prop where
  active : job.state.isActive = true
  since : job.suspendedAt.isSome = true ↔ job.state = .suspended
  ended : job.state = .running ∨ job.state = .suspended → job.endTime = none

def Timed (jobs : Table JobId Job) : Prop :=
  ∀ (jobId : JobId) (job : Job), jobs[jobId]? = some job →
    (job.state.isActive = true → Running job) ∧ (job.state.isActive = false → Rested job)

instance (s : State) : DecidablePred (Punctual s) := by
  intro op
  have each (jobId : JobId) (p : Job → Prop) [DecidablePred p] :
      Decidable (∀ job : Job, s.jobs[jobId]? = some job → p job) :=
    inferInstanceAs (Decidable (∀ job ∈ s.jobs[jobId]?, p job))
  apply @WalOperation.casesOn (fun op => Decidable (Punctual s op)) op <;> intros <;> dsimp only [Punctual] <;>
    infer_instance

section

variable {config : Config} {jobId : JobId}

def clockStep (config : Config) (jobId : JobId) (at_ : State × Stint) (entry : Env × WalOperation) : State × Stint :=
  let after := step config at_.1 entry
  (after,at_.2.next (dateOf entry.1 entry.2) (stateOf at_.1 jobId) (stateOf after jobId))

def Timely (s : State) (entry : Env × WalOperation) : Prop := Emits s entry.2 ∧ Punctual s entry.2

structure Clocked (jobId : JobId) (at_ : State × Stint) : Prop where
  orderly : Orderly at_.1
  carries : ∀ job ∈ at_.1.jobs[jobId]?, Carries job at_.2

theorem clockStep_clocked {config : Config} {jobId : JobId} (at_ : State × Stint) (entry : Env × WalOperation)
    (clocked : Clocked jobId at_) (timely : Timely at_.1 entry) : Clocked jobId (clockStep config jobId at_ entry) := by
  have turns := applyOperation_turns config entry.1 timely.1 clocked.orderly.keyed clocked.orderly.settled
  exact ⟨step_orderly config clocked.orderly timely.1,((turns jobId).ticks timely.2 at_.2 clocked.carries).1⟩

def runClock (config : Config) (jobId : JobId) (s : State) (log : List (Env × WalOperation)) : Stint :=
  (log.foldl (clockStep config jobId) (s,{})).2

theorem clockStep_run (jobId : JobId) (log : List (Env × WalOperation)) (at_ : State × Stint) :
    (log.foldl (clockStep config jobId) at_).1 = run config at_.1 log := by
  induction log generalizing at_ with
  | nil => rfl
  | cons entry log ih => exact ih _

theorem Timely.clocked {log : List (Env × WalOperation)} {at_ : State × Stint}
    (timely : Along (step config) Timely at_.1 log) :
    Along (clockStep config jobId) (fun at_ entry => Timely at_.1 entry) at_ log := by
  induction log generalizing at_ with
  | nil => exact True.intro
  | cons entry log ih => exact ⟨timely.1,@ih _ timely.2⟩

/-- The deadline of a run and the time it reports at its end are those of its own clock, in every log
whose starts find no suspended time left on the job. -/
theorem run_keeps_own_clock (config : Config) (s : State) (orderly : Orderly s) (timed : Timed s.jobs) (jobId : JobId)
    (absent : s.jobs[jobId]? = none) (log : List (Env × WalOperation)) (entry : Env × WalOperation)
    (timely : Along (step config) Timely s (log ++ [entry])) (job : Job)
    (found : (run config s log).jobs[jobId]? = some job) (active : job.state.isActive = true) :
    (∀ (now : Time) (timeLimit : Duration),
        (job.startTime.map fun start => effectiveDeadline now start timeLimit job) =
          (runClock config jobId s log).deadline now timeLimit) ∧
      ∀ record ∈ (applyOperation config entry.1 (run config s log) entry.2).2.jobsFinalized, record.jobId = jobId →
        record.actualSecs = (runClock config jobId s log).elapsed (dateOf entry.1 entry.2) := by
  obtain ⟨before,last⟩ := Along.append.mp timely
  have start : Clocked jobId (s,{}) := ⟨orderly,fun job found => by cases absent.symm.trans found⟩
  have there := invariant_run clockStep_clocked start (Timely.clocked before)
  obtain ⟨orderly,carries⟩ := there
  rw [clockStep_run] at orderly carries
  have clock := ((carries job found).run active).1
  refine ⟨fun now timeLimit => ?_,fun record emitted names => ?_⟩
  · rw [runClock,← clock]
    rfl
  have turns := applyOperation_turns config entry.1 last.1.1 orderly.keyed orderly.settled
  have ticks := (turns jobId).ticks last.1.2 _ carries
  refine ticks.2 job found active _ (List.mem_map.mpr ⟨record,List.mem_filter.mpr ⟨emitted,?_⟩,rfl⟩)
  exact decide_eq_true names

end

section

def pausedStart (attempt : Nat) (seconds : Int) : List (Env × WalOperation) :=
  [(.ordered (Duration.seconds seconds),(requeueStart attempt).stampOccurredAt (Duration.seconds seconds)),
    (.ordered (Duration.seconds seconds),(requeueActivate attempt).stampOccurredAt (Duration.seconds seconds))]

def pausedRun : List (Env × WalOperation) :=
  (.ordered 0,.jobSubmit 1 {}) :: pausedStart 1 0 ++
    [(.ordered (Duration.seconds 10),.jobSuspend { jobId := 1, at_ := Duration.seconds 10 }),
      (.ordered (Duration.seconds 110),.jobResume 1 (Duration.seconds 110))]

def requeueAfterPause : Env × WalOperation :=
  (.ordered (Duration.seconds 120),(WalOperation.jobUserRequeue { jobId := 1, by_ := some requeueAdmin }).stampOccurredAt
    (Duration.seconds 120))

def secondRun : List (Env × WalOperation) := pausedRun ++ requeueAfterPause :: pausedStart 2 200

def secondEnd : Env × WalOperation :=
  (.ordered (Duration.seconds 300),(WalOperation.jobComplete { jobId := 1, exitCode := 0, state := .completed }).stampOccurredAt
    (Duration.seconds 300))

private theorem secondRun_emits :
    Along (step {}) (fun s entry => Emits s entry.2) (.fresh {}) (secondRun ++ [secondEnd]) := by
  refine ⟨⟨trivial,fun _ _ _ => rfl⟩,?_⟩
  refine ⟨.plain trivial ?_,.plain (.inl rfl) ?_,.plain trivial ?_,.plain trivial ?_,.plain trivial ?_,.plain trivial ?_,
    .plain (.inl rfl) ?_,.plain rfl ?_,trivial⟩ <;> (intro _ _ same; cases same)

private theorem pausedRun_punctual :
    Along (step {}) (fun s entry => Punctual s entry.2) (.fresh {}) (pausedRun ++ [requeueAfterPause]) := by
  refine ⟨?_,?_,?_,?_,?_,?_,trivial⟩ <;> decide +kernel

theorem run_keeps_own_clock_paused :
    ∃ job, (run {} (.fresh {}) pausedRun).jobs[1]? = some job ∧ job.state.isActive = true ∧
      ∀ record ∈ (applyOperation {} requeueAfterPause.1 (run {} (.fresh {}) pausedRun) requeueAfterPause.2).2.jobsFinalized,
        record.jobId = 1 →
          record.actualSecs = (runClock {} 1 (.fresh {}) pausedRun).elapsed (dateOf requeueAfterPause.1 requeueAfterPause.2) := by
  have given : ((run {} (.fresh {}) pausedRun).jobs[1]?).any (fun job => job.state.isActive) = true := by decide +kernel
  obtain ⟨job,found,active⟩ := (Option.any_eq_true _ _).mp given
  have orderly : Orderly (.fresh {}) := ⟨fun _ _ found => (by cases found),fun _ _ found => (by cases found)⟩
  have emits : Along _ _ _ _ :=
    secondRun_emits.take 6
  exact ⟨job,found,active,(run_keeps_own_clock {} _ orderly (fun _ _ found => (by cases found)) 1 rfl pausedRun
    _ (emits.and pausedRun_punctual) job found active).2⟩

/-- The second run lasts 100 s and is reported as 0 s, and its deadline is 100 s late: the 100 s for
which the first run was suspended. -/
theorem later_run_inherits_suspension :
    Along (step {}) (fun s entry => Emits s entry.2) (.fresh {}) (secondRun ++ [secondEnd]) ∧
      ((applyOperation {} secondEnd.1 (run {} (.fresh {}) secondRun) secondEnd.2).2.jobsFinalized.map fun record =>
        (record.jobId,record.actualSecs)) = [(1,0)] ∧
      (runClock {} 1 (.fresh {}) secondRun).elapsed (Duration.seconds 300) = 100 ∧
      (((run {} (.fresh {}) secondRun).jobs[1]?).bind fun job => job.startTime.map fun start =>
        effectiveDeadline (Duration.seconds 250) start (Duration.seconds 60) job) = some (Duration.seconds 360) ∧
      (runClock {} 1 (.fresh {}) secondRun).deadline (Duration.seconds 250) (Duration.seconds 60) =
        some (Duration.seconds 260) := by
  refine ⟨secondRun_emits,?_,?_,?_,?_⟩ <;> decide +kernel

end

end Spur.Cluster
