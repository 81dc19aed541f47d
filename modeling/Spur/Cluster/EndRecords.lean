import Spur.Cluster.Placement
import Spur.Cluster.Propose
import Spur.Library.Run

/-! Between two activations of a job exactly one record ends the run. -/
namespace Spur.Cluster
open Spur Spur.Library Spur.Library.Run List Option

section

variable {config : Config} {env : Env} {timestamp : Time} {s : State} {timely : Prop} {date : Time}

theorem Turns.settled {before after : Table JobId Job} {records : List JobFinalized}
    (turns : Turns timely date before after records) (settled : Settled before) : Settled after := by
  intro jobId next stored
  have turn := (turns jobId).turn
  rw [stored] at turn
  generalize found : before[jobId]? = first at turn
  generalize (recordsFor jobId records).length = count at turn
  have live {state : JobState} (pending : state = .pending) : state ≠ .preempted ∧ state ≠ .requeued := by
    rw [pending]; exact ⟨by decide,by decide⟩
  cases turn with
  | submit _ pending | reopen _ _ pending => exact live pending
  | @stay job _ _ state =>
    rcases state with same | shift
    · rw [same]
      exact settled jobId job found
    · generalize next.state = target at shift
      generalize job.state = source at shift
      cases shift <;> exact ⟨by decide,by decide⟩
  | finish _ _ past =>
    rcases past with terminal | ⟨_,pending⟩
    · constructor <;> (intro equal; rw [equal] at terminal; cases terminal)
    · exact live pending

theorem jobSubmit_turns {jobId : JobId} {spec : JobSpec} (unused : s.jobs[jobId]? = none) :
    Turns timely date s.jobs (applyJobSubmit env s jobId spec).1.jobs [] := by
  intro other
  dsimp only [applyJobSubmit]
  rw [Table.find_insert]
  split
  next same =>
    rw [← same,unused]
    refine ⟨.submit rfl rfl,fun _ _ _ => ⟨fun _ fresh => ?_,fun _ absent => by cases absent⟩⟩
    cases fresh
    exact ⟨fun active => (by cases active),fun _ => rfl⟩
  next => exact .refl

theorem jobStart_noted {entry : Wal.JobStart} : Noted s.jobs (applyJobStart s entry).1.jobs := by
  unfold applyJobStart
  dsimp only
  split
  · exact .refl
  · exact .modify_right (fun job => ⟨.refl job,.refl⟩) (fun _ => ⟨⟨rfl,le_max_right _ _⟩,.same rfl rfl⟩)

theorem nodeUpdate_noted {entry : Wal.NodeUpdate} : Noted s.jobs (applyNodeUpdate config env s entry).1.jobs := by
  unfold applyNodeUpdate
  split
  · exact .refl
  unfold remapJobGpuAllocations
  split
  · exact .refl
  refine .map_right (fun _ job => ?_)
  split <;> exact ⟨⟨rfl,le_refl _⟩,.same rfl rfl⟩

theorem jobNodeComplete_turns {entry : Wal.JobNodeComplete} (keyed : Keyed s.jobs) :
    Turns timely timestamp s.jobs (applyJobNodeComplete env timestamp s entry).1.jobs
      (applyJobNodeComplete env timestamp s entry).2.jobsFinalized := by
  by_cases ignored : ∀ job : Job, s.jobs[entry.jobId]? = some job → ¬reportAccepted entry job
  · rw [applyJobNodeComplete_ignored ignored]
    exact .refl
  push Not at ignored
  obtain ⟨job,found,accepted⟩ := ignored
  obtain ⟨grace,warned,ledger,finalized⟩ := applyJobNodeComplete_accepted found accepted
  have jobs := congrArg Ledger.jobs ledger
  change (applyJobNodeComplete env timestamp s entry).1.jobs = _ at jobs
  rw [jobs,finalized]
  generalize reports : reportedJob job entry.nodeName ⟨entry.exitCode,entry.signal⟩ = reported
  have continues : Continues job reported := by rw [← reports]; exact ⟨rfl,le_refl _⟩
  have level : Level job reported := by rw [← reports]; exact .same rfl rfl
  have active : reported.state.isActive = true := by rw [level.state]; exact accepted.2
  rw [← level.state] at warned
  rcases advanceAfterNodeReport_move active warned with
    ⟨_,next,computed,going,clock⟩ | ⟨_,next,record,computed,past,further,names,clock⟩
  · rw [computed]
    exact .insert found nofun (.of_noted continues level ⟨.stay going.continues going.state,fun _ => clock⟩)
  · rw [computed]
    refine .insert found (fun other member => ?_) (.of_noted continues level ⟨.finish further (.inl active) ?_,fun _ => clock⟩)
    · rw [mem_singleton.mp member]
      exact names.trans (continues.jobId.trans (keyed entry.jobId job found))
    · cases past with
      | ended terminal => exact .inl terminal
      | requeued _ pending => exact .inr ⟨active,pending⟩

end

/-- What the controller emits: a completion carries a verdict, a state change activates or re-pends, and
a submission takes an id no job has. -/
def Emits (s : State) (op : WalOperation) : Prop :=
  Emitted op ∧ ∀ (jobId : JobId) (spec : JobSpec), op = .jobSubmit jobId spec → s.jobs[jobId]? = none

variable {op : WalOperation} {log : List (Env × WalOperation)} {count : Nat}

theorem Emits.plain {s : State} (emitted : Emitted op)
    (other : ∀ jobId spec, op ≠ .jobSubmit jobId spec) : Emits s op :=
  ⟨emitted,fun jobId spec same => absurd same (other jobId spec)⟩

theorem applyOperation_turns (config : Config) (env : Env) {s : State} (emits : Emits s op)
    (keyed : Keyed s.jobs) (settled : Settled s.jobs) :
    Turns (Punctual s op) (dateOf env op) s.jobs (applyOperation config env s op).1.jobs
      (applyOperation config env s op).2.jobsFinalized := by
  by_cases plain : ordinary op = true
  · exact (applyOperation_acts plain emits.1 settled).turns keyed
  cases op with
  | jobSubmit jobId spec => exact jobSubmit_turns (emits.2 jobId spec rfl)
  | jobStart entry =>
    have silent : (applyJobStart s entry).2.jobsFinalized = [] := by
      unfold applyJobStart
      dsimp only
      split <;> rfl
    change Turns _ _ s.jobs _ (applyJobStart s entry).2.jobsFinalized
    rw [silent]
    exact jobStart_noted.alone
  | jobNodeComplete entry => exact jobNodeComplete_turns keyed
  | nodeRegister entry => exact .refl
  | nodeUpdate entry =>
    have silent : (applyNodeUpdate config env s entry).2.jobsFinalized = [] := by
      unfold applyNodeUpdate
      split <;> rfl
    change Turns _ _ s.jobs _ (applyNodeUpdate config env s entry).2.jobsFinalized
    rw [silent]
    exact nodeUpdate_noted.alone
  | _ => exact absurd rfl plain

section

variable {config : Config}

def recordsOf (jobId : JobId) (records : List JobFinalized) : Nat := records.countP fun record => record.jobId = jobId

theorem recordsOf_eq (jobId : JobId) (records : List JobFinalized) :
    recordsOf jobId records = (recordsFor jobId records).length := countP_eq_length_filter

def stateOf (s : State) (jobId : JobId) : Option JobState := (s.jobs[jobId]?).map Job.state

def Activates (config : Config) (s : State) (entry : Env × WalOperation) (jobId : JobId) : Prop :=
  stateOf s jobId = some .pending ∧ stateOf (step config s entry) jobId = some .running

def EndsWaiting (config : Config) (s : State) (entry : Env × WalOperation) (jobId : JobId) : Prop :=
  stateOf s jobId = some .pending ∧ (stateOf (step config s entry) jobId).any JobState.isTerminal = true

instance (s : State) (entry : Env × WalOperation) (jobId : JobId) : Decidable (Activates config s entry jobId) :=
  inferInstanceAs (Decidable (_ ∧ _))

instance (s : State) (entry : Env × WalOperation) (jobId : JobId) : Decidable (EndsWaiting config s entry jobId) :=
  inferInstanceAs (Decidable (_ ∧ _))

def endRecords (config : Config) (jobId : JobId) : State → List (Env × WalOperation) → Nat
  | _, [] => 0
  | s, entry :: log =>
    recordsOf jobId (applyOperation config entry.1 s entry.2).2.jobsFinalized +
      endRecords config jobId (step config s entry) log

def waitingEnds (config : Config) (jobId : JobId) : State → List (Env × WalOperation) → Nat
  | _, [] => 0
  | s, entry :: log =>
    (if EndsWaiting config s entry jobId then 1 else 0) + waitingEnds config jobId (step config s entry) log

def isActiveIn (s : State) (jobId : JobId) : Bool := (stateOf s jobId).any JobState.isActive

structure Orderly (s : State) : Prop where
  keyed : Keyed s.jobs
  settled : Settled s.jobs

theorem step_orderly (config : Config) {s : State} {entry : Env × WalOperation} (orderly : Orderly s)
    (emits : Emits s entry.2) : Orderly (step config s entry) := by
  have turns := applyOperation_turns config entry.1 emits orderly.keyed orderly.settled
  exact ⟨turns.keyed orderly.keyed,turns.settled orderly.settled⟩

theorem Turn.running {jobId : JobId} {before after : Option Job} (turn : Turn jobId before after count)
    (active : (before.map Job.state).any JobState.isActive = true) :
    ((after.map Job.state).any JobState.isActive = true ∧ count = 0) ∨
      ((after.map Job.state).any JobState.isActive = false ∧ count = 1) := by
  have unfinished {job : Job} (past : job.state.isFinalized = true)
      (active : ((some job).map Job.state).any JobState.isActive = true) : False := by
    rw [active_live (Or.inl active)] at past
    cases past
  cases turn with
  | absent | submit => cases active
  | @stay job next continues state =>
    refine .inl ⟨?_,rfl⟩
    change next.state.isActive = true
    rcases state with same | shift
    · rw [same]
      exact active
    · generalize next.state = target at shift
      generalize job.state = source at shift
      cases shift <;> rfl
  | @finish job next continues live past =>
    refine .inr ⟨?_,rfl⟩
    change next.state.isActive = false
    generalize next.state = target at past
    rcases past with terminal | ⟨_,pending⟩
    · cases target <;> first | rfl | cases terminal
    · rw [pending]; rfl
  | reopen continues past | purge past => exact (unfinished past active).elim

theorem Turn.resting {jobId : JobId} {before after : Option Job} (turn : Turn jobId before after count)
    (rests : (before.map Job.state).any JobState.isActive = false)
    (still : ¬(before.map Job.state = some .pending ∧ after.map Job.state = some .running)) :
    (after.map Job.state).any JobState.isActive = false ∧
      count = if before.map Job.state = some .pending ∧ (after.map Job.state).any JobState.isTerminal = true
        then 1 else 0 := by
  cases turn with
  | absent => exact ⟨rfl,rfl⟩
  | @submit next names pending =>
    simp only [map_some,pending]
    exact ⟨rfl,by simp⟩
  | @stay job next continues state =>
    simp only [map_some,some_inj] at rests still ⊢
    rcases state with same | shift
    · rw [same]
      refine ⟨rests,?_⟩
      rw [if_neg]
      rintro ⟨pending,terminal⟩
      rw [pending] at terminal
      cases terminal
    · generalize next.state = target at shift still
      generalize job.state = source at shift still rests
      cases shift with
      | activate => exact absurd ⟨rfl,rfl⟩ still
      | _ => cases rests
  | @finish job next continues live past =>
    simp only [map_some,any_some,some_inj] at rests still ⊢
    have pending : job.state = .pending := live.resolve_left (by rw [rests]; decide)
    have terminal : next.state.isTerminal = true := past.resolve_right fun active => by
      rw [rests] at active
      cases active.1
    rw [if_pos ⟨pending,terminal⟩]
    refine ⟨?_,rfl⟩
    generalize next.state = target at terminal
    cases target <;> first | rfl | cases terminal
  | @reopen job next continues past pending =>
    simp only [map_some,pending]
    exact ⟨rfl,by simp [JobState.isTerminal]⟩
  | purge past => exact ⟨rfl,by simp⟩

variable {jobId : JobId}

theorem resting_records (s : State) (orderly : Orderly s)
    (emits : Along (step config) (fun s entry => Emits s entry.2) s log)
    (still : Along (step config) (fun s entry => ¬Activates config s entry jobId) s log)
    (rests : isActiveIn s jobId = false) :
    isActiveIn (run config s log) jobId = false ∧ endRecords config jobId s log = waitingEnds config jobId s log := by
  induction log generalizing s with
  | nil => exact ⟨rests,rfl⟩
  | cons entry log ih =>
    have turns := applyOperation_turns config entry.1 emits.1 orderly.keyed orderly.settled
    have one := (turns jobId).turn.resting rests still.1
    have rest := ih _ (step_orderly config orderly emits.1) emits.2 still.2 one.1
    refine ⟨rest.1,?_⟩
    unfold endRecords waitingEnds
    rw [rest.2,recordsOf_eq,one.2]
    rfl

theorem running_records (s : State) (orderly : Orderly s)
    (emits : Along (step config) (fun s entry => Emits s entry.2) s log)
    (still : Along (step config) (fun s entry => ¬Activates config s entry jobId) s log)
    (active : isActiveIn s jobId = true) :
    (isActiveIn (run config s log) jobId = true ∧ endRecords config jobId s log = waitingEnds config jobId s log) ∨
      (isActiveIn (run config s log) jobId = false ∧
        endRecords config jobId s log = 1 + waitingEnds config jobId s log) := by
  induction log generalizing s with
  | nil => exact .inl ⟨active,rfl⟩
  | cons entry log ih =>
    have turns := applyOperation_turns config entry.1 emits.1 orderly.keyed orderly.settled
    have orderly' := step_orderly config orderly emits.1
    have awake : ¬EndsWaiting config s entry jobId := by
      rintro ⟨pending,_⟩
      rw [isActiveIn,pending] at active
      cases active
    unfold endRecords waitingEnds
    rw [if_neg awake,Nat.zero_add,recordsOf_eq]
    rcases (turns jobId).turn.running active with ⟨on,silent⟩ | ⟨off,once⟩
    · rw [silent,Nat.zero_add]
      exact ih _ orderly' emits.2 still.2 on
    · have rest := resting_records _ orderly' emits.2 still.2 off
      rw [once,rest.2]
      exact .inr ⟨rest.1,rfl⟩

/-- From an activation of a job up to the next, the answers hold one end record for the run and one for
each time the job ended as it waited; as long as no next one has come, at most that. -/
theorem one_end_record_per_run (config : Config) (s : State) (orderly : Orderly s) (jobId : JobId)
    (before between : List (Env × WalOperation)) (start : Env × WalOperation)
    (emits : Along (step config) (fun s entry => Emits s entry.2) s (before ++ start :: between))
    (starts : Activates config (run config s before) start jobId)
    (still : Along (step config) (fun s entry => ¬Activates config s entry jobId) (run config s (before ++ [start]))
      between) :
    endRecords config jobId (run config s (before ++ [start])) between ≤
        1 + waitingEnds config jobId (run config s (before ++ [start])) between ∧
      ∀ next : Env × WalOperation, Activates config (run config s (before ++ start :: between)) next jobId →
        endRecords config jobId (run config s (before ++ [start])) between =
          1 + waitingEnds config jobId (run config s (before ++ [start])) between := by
  have split : run config s (before ++ start :: between) = run config (run config s (before ++ [start])) between := by
    rw [run,run,run,append_cons,foldl_append]
  have parts := Along.append.mp (append_cons before start between ▸ emits)
  have there := invariant_run (fun s entry kept ok => step_orderly config kept ok) orderly parts.1
  have active : isActiveIn (run config s (before ++ [start])) jobId = true := by
    have runs := starts.2
    rw [run,foldl_append]
    change (stateOf (step config (run config s before) start) jobId).any _ = true
    rw [runs]
    rfl
  rcases running_records (run config s _) there parts.2 still active with ⟨on,none⟩ | ⟨off,once⟩
  · refine ⟨none.trans_le (Nat.le_add_left _ _),fun next again => ?_⟩
    rw [isActiveIn,← split,again.1] at on
    cases on
  · exact ⟨once.le,fun _ _ => once⟩

end

section

def requeueSlice : ResourceAllocations := { cpus := 4, memoryMb := 1024 }

def requeuePlacement : Placement where
  nodeNames := ["n1"]
  resources := requeueSlice
  perNodeAlloc := (∅ : Table String ResourceAllocations).insert "n1" requeueSlice

def requeueAdmin : Actor := ⟨"root",none⟩

def requeueStart (attempt : Nat) : WalOperation :=
  .jobStart { jobId := 1, nodes := ["n1"], resources := requeueSlice, perNodeAlloc := requeuePlacement.perNodeAlloc,
              runAttempt := attempt }

def requeueActivate (attempt : Nat) : WalOperation :=
  .jobStateChange { jobId := 1, oldState := .pending, newState := .running, expectedRunAttempt := some attempt }

def requeueOpening : List (Env × WalOperation) :=
  [(.ordered 0,.jobSubmit 1 {}),
    (.ordered 0,.nodeRegister { name := "n1", resources := { cpus := 8, memoryMb := 4096 }, address := "n1" }),
    (.ordered 0,(requeueStart 1).stampOccurredAt 0)]

def firstActivation : Env × WalOperation := (.ordered 0,(requeueActivate 1).stampOccurredAt 0)

def requeueBetween : List (Env × WalOperation) :=
  [(.ordered 1,(WalOperation.jobUserRequeue
      { jobId := 1, beginTime := some (Duration.seconds 5 + 1), by_ := some requeueAdmin }).stampOccurredAt 1),
    (.ordered 2,(jobCancelled 1 ⟨"Admin","root",none⟩).stampOccurredAt 2),
    (.ordered 3,(WalOperation.jobUserRequeue { jobId := 1, by_ := some requeueAdmin }).stampOccurredAt 3),
    (.ordered (Duration.seconds 6),(requeueStart 2).stampOccurredAt (Duration.seconds 6))]

def secondActivation : Env × WalOperation :=
  (.ordered (Duration.seconds 6),(requeueActivate 2).stampOccurredAt (Duration.seconds 6))

def requeueState (length : Nat) : State :=
  run {} (.fresh {}) ((requeueOpening ++ firstActivation :: requeueBetween).take length)

private theorem requeue_emits :
    Along (step {}) (fun s entry => Emits s entry.2) (.fresh {}) (requeueOpening ++ firstActivation :: requeueBetween) := by
  refine ⟨⟨trivial,fun _ _ _ => rfl⟩,?_⟩
  refine ⟨.plain trivial ?_,.plain trivial ?_,.plain (.inl rfl) ?_,.plain trivial ?_,.plain rfl ?_,.plain trivial ?_,
    .plain trivial ?_,trivial⟩ <;> (intro _ _ same; cases same)

private theorem requeue_still :
    Along (step {}) (fun s entry => ¬Activates {} s entry 1) (run {} (.fresh {}) (requeueOpening ++ [firstActivation]))
      requeueBetween := by
  refine ⟨?_,?_,?_,?_,trivial⟩ <;> decide +kernel

theorem one_end_record_per_run_requeue :
    Orderly (.fresh {}) ∧ Activates {} (run {} (.fresh {}) requeueOpening) firstActivation 1 ∧
      endRecords {} 1 (run {} (.fresh {}) (requeueOpening ++ [firstActivation])) requeueBetween ≤
        1 + waitingEnds {} 1 (run {} (.fresh {}) (requeueOpening ++ [firstActivation])) requeueBetween := by
  have orderly : Orderly (.fresh {}) := ⟨fun _ _ found => (by cases found),fun _ _ found => (by cases found)⟩
  have starts : Activates {} (run {} (.fresh {}) requeueOpening) firstActivation 1 := by decide +kernel
  exact ⟨orderly,starts,(one_end_record_per_run {} _ orderly 1 _ _ _ requeue_emits starts requeue_still).1⟩

/-- A requeued job cancelled as it waits gets a second end record before it runs again. -/
theorem two_end_records_between_activations :
    (reservePlacement (requeueState 2) (fun _ _ => true) 1 requeuePlacement = some (requeueStart 1) ∧
      activateJob (requeueState 3) 1 1 = some (requeueActivate 1) ∧
      (requeueOneJob 1 5 (requeueState 4) 1 requeueAdmin true false).map (·.stampOccurredAt 1) =
        (requeueBetween[0]?).map Prod.snd ∧
      (cancelJobFor 2 (requeueState 5) 1 ⟨"root",none,false⟩ true).map (·.stampOccurredAt 2) =
        (requeueBetween[1]?).map Prod.snd ∧
      (requeueOneJob 3 5 (requeueState 6) 1 requeueAdmin true false).map (·.stampOccurredAt 3) =
        (requeueBetween[2]?).map Prod.snd ∧
      reservePlacement (requeueState 7) (fun _ _ => true) 1 requeuePlacement = some (requeueStart 2) ∧
      activateJob (requeueState 8) 1 2 = some (requeueActivate 2)) ∧
    Activates {} (requeueState 3) firstActivation 1 ∧
    Along (step {}) (fun s entry => ¬Activates {} s entry 1) (requeueState 4) requeueBetween ∧
    Activates {} (requeueState 8) secondActivation 1 ∧
    endRecords {} 1 (requeueState 4) requeueBetween = 2 := by
  refine ⟨⟨rfl,rfl,rfl,rfl,rfl,rfl,rfl⟩,?_,requeue_still,?_,?_⟩ <;> decide +kernel

end

end Spur.Cluster
