import Spur.Cluster.Conservation
import Spur.Cluster.EndRecords

/-! Whole logs: each job goes through the life of a job, each run is recorded once, and a quiet cluster is free. -/
namespace Spur.Cluster
open Spur.Library Spur.Library.Run List Option

/-- Where a job stands between two entries of the log. -/
inductive Phase where
  | absent | waiting | running | suspended | draining | ended
  deriving DecidableEq

namespace Phase

def of : Option JobState → Phase
  | none => absent
  | some .pending => waiting
  | some .running => running
  | some .suspended => suspended
  | some .completing => draining
  | some _ => ended

def active : Phase → Bool
  | running | suspended | draining => true
  | _ => false

/-- The life of a job, with the end records of each change. Only an ended job is reopened or forgotten. -/
inductive Next : Phase → Phase → Nat → Prop
  | stay (phase : Phase) : Next phase phase 0
  | submit : Next absent waiting 0
  | start : Next waiting running 0
  | suspend : Next running suspended 0
  | resume : Next suspended running 0
  | drain : Next running draining 0
  | drainSuspended : Next suspended draining 0
  | abandon : Next waiting ended 1
  | finish {phase : Phase} (active : phase.active) : Next phase ended 1
  | requeue {phase : Phase} (active : phase.active) : Next phase waiting 1
  | reopen : Next ended waiting 0
  | forget : Next ended absent 0

def starts (first second : Phase) : Bool := first = waiting && second = running

def abandons (first second : Phase) : Bool := first = waiting && second = ended

theorem of_finalized {state : JobState} (past : state.isFinalized) : of (some state) = ended := by
  cases state <;> first | rfl | cases past

theorem active_of {state : JobState} : (of (some state)).active = state.isActive := by
  cases state <;> rfl

theorem Next.runs {first second : Phase} {records : Nat} (next : Next first second records) :
    records + second.active.toNat = first.active.toNat + (first.starts second).toNat + (first.abandons second).toNat := by
  cases next with
  | stay => cases first <;> rfl
  | finish active => cases first <;> first | rfl | cases active
  | requeue active => cases first <;> first | rfl | cases active
  | _ => rfl

end Phase

variable {s : State} {jobId : JobId}

theorem Turn.next {before after : Option Job} {count : Nat} (turn : Turn jobId before after count) :
    Phase.Next (.of (before.map Job.state)) (.of (after.map Job.state)) count := by
  cases turn with
  | absent => exact .stay _
  | submit names pending =>
    rw [map_some,pending]
    exact .submit
  | @stay job next continues state =>
    simp only [map_some]
    generalize next.state = target, job.state = source at state
    rcases state with rfl | shift
    · exact .stay _
    · cases shift
      exacts [.start,.resume,.suspend,.drain,.drainSuspended]
  | @finish job next continues live past =>
    simp only [map_some]
    rcases past with terminal | ⟨active,pending⟩
    · rw [Phase.of_finalized (terminal_finalized terminal)]
      rcases live with active | pending
      · exact .finish (by rwa [Phase.active_of])
      · rw [pending]
        exact .abandon
    · rw [pending]
      exact .requeue (by rwa [Phase.active_of])
  | reopen continues past pending =>
    simp only [map_some,pending,Phase.of_finalized past]
    exact .reopen
  | purge past =>
    simp only [map_some,map_none,Phase.of_finalized past]
    exact .forget

theorem Turn.continues {job next : Job} {count : Nat} (turn : Turn jobId (some job) (some next) count) :
    Continues job next := by
  cases turn <;> assumption

def phaseIn (s : State) (jobId : JobId) : Phase := .of (stateOf s jobId)

structure Passage where
  before : Phase
  after : Phase
  records : Nat

/-- What each entry of the log does to a job, with the end records it is answered with. -/
def passages (config : Config) (jobId : JobId) : State → List (Env × WalOperation) → List Passage
  | _, [] => []
  | s, entry :: log =>
    ⟨phaseIn s jobId,phaseIn (step config s entry) jobId,
      recordsOf jobId (applyOperation config entry.1 s entry.2).2.jobsFinalized⟩ ::
      passages config jobId (step config s entry) log

theorem step_next (config : Config) (jobId : JobId) (orderly : Orderly s) {entry : Env × WalOperation}
    (emits : Emits s entry.2) : Phase.Next (phaseIn s jobId) (phaseIn (step config s entry) jobId)
      (recordsOf jobId (applyOperation config entry.1 s entry.2).2.jobsFinalized) := by
  rw [recordsOf_eq]
  exact (applyOperation_turns config entry.1 emits orderly.keyed orderly.settled jobId).turn.next

section

variable (config : Config) (s : State) (orderly : Orderly s) (log : List (Env × WalOperation))
  (emits : Along (step config) (fun s entry => Emits s entry.2) s log) (jobId : JobId)

include orderly emits

/-- Whatever entries the controller emits, every job goes through the life of a job from entry to entry, and after
none of them stands in one of the two states a preemption or a requeue passes through. -/
theorem jobs_live_their_life :
    (∀ passage ∈ passages config jobId s log, passage.before.Next passage.after passage.records) ∧
      stateOf (run config s log) jobId ≠ some .preempted ∧ stateOf (run config s log) jobId ≠ some .requeued := by
  induction log generalizing s with
  | nil =>
    refine ⟨nofun,?_,?_⟩ <;> intro seen <;> obtain ⟨job,stored,state⟩ := map_eq_some_iff.mp seen
    · exact (orderly.settled jobId job stored).1 state
    · exact (orderly.settled jobId job stored).2 state
  | cons entry log ih =>
    obtain ⟨later,visible⟩ := ih _ (step_orderly config orderly emits.1) emits.2
    exact ⟨forall_mem_cons.mpr ⟨step_next config jobId orderly emits.1,later⟩,visible⟩

/-- Every run of a job is recorded once: a log is answered with as many end records as there were runs under way
before it or started by it, and ends of the job as it waited, less the run still under way after it. -/
theorem runs_recorded_once :
    endRecords config jobId s log + (phaseIn (run config s log) jobId).active.toNat =
      (phaseIn s jobId).active.toNat +
        (passages config jobId s log).countP (fun passage => passage.before.starts passage.after) +
        (passages config jobId s log).countP (fun passage => passage.before.abandons passage.after) := by
  induction log generalizing s with
  | nil => exact Nat.zero_add _
  | cons entry log ih =>
    have one := (step_next config jobId orderly emits.1).runs
    have rest := ih _ (step_orderly config orderly emits.1) emits.2
    unfold endRecords passages
    rw [run,foldl_cons,countP_cons,countP_cons]
    rw [run] at rest
    simp only [Bool.toNat,Bool.cond_eq_ite] at one rest ⊢
    omega

/-- As long as a job stays in the table it keeps its id, and its run attempt never falls. -/
theorem attempts_never_fall
    (stays : Along (step config) (fun s entry => (step config s entry).jobs[jobId]?.isSome) s log) (job : Job)
    (found : s.jobs[jobId]? = some job) :
    ∃ next, (run config s log).jobs[jobId]? = some next ∧ Continues job next := by
  induction log generalizing s job with
  | nil => exact ⟨job,found,.refl job⟩
  | cons entry log ih =>
    have turn := (applyOperation_turns config entry.1 emits.1 orderly.keyed orderly.settled jobId).turn
    obtain ⟨next,stored⟩ := isSome_iff_exists.mp stays.1
    rw [found,show (applyOperation config entry.1 s entry.2).1.jobs[jobId]? = some next from stored] at turn
    obtain ⟨last,there,later⟩ := ih _ (step_orderly config orderly emits.1) emits.2 stays.2 next stored
    exact ⟨last,there,turn.continues.trans later⟩

end

/-- A cluster whose live jobs hold no node is as free as the one the log began with. -/
theorem quiet_cluster_is_free (config : Config) (s : State) (unheld : Unheld s) (log : List (Env × WalOperation))
    (shaped : Along (step config) (fun s entry => Shaped s entry.2) s log)
    (unraced : Along (step config) (fun s entry => Unraced s entry.2) s log)
    (quiet : ∀ (jobId : JobId) (job : Job), (run config s log).jobs[jobId]? = some job →
      job.state.isFinalized ∨ job.allocatedNodes = []) : Unheld (run config s log) := by
  have balanced := invariant_run (fun s _ balanced ok => step_balanced s balanced ok.1 ok.2) unheld.balanced
    (shaped.and unraced)
  refine ⟨fun jobId job stored => ?_,fun name node stored => ?_,balanced.settled⟩
  · cases past : job.state.isFinalized with
    | true => exact .inl rfl
    | false =>
      have unplaced := (quiet jobId job stored).resolve_left (by simp [past])
      have placed := balanced.placed jobId job stored past
      exact .inr ⟨unplaced,placed.released (by simp [Job.holdsAPlacement,unplaced])⟩
  · refine ⟨balanced.named name node stored,balanced.distinct name node stored,fun meter => ?_⟩
    rw [balanced.charged name node stored meter]
    refine Table.total_eq_zero fun jobId job found => ?_
    have nothing : heldSlice job name = none :=
      (quiet jobId job found).elim heldSlice_finalized heldSlice_unplaced
    rw [heldCharge,nothing]
    rfl

section

def startingLog : List (Env × WalOperation) := requeueOpening ++ [firstActivation]

private theorem starting_emits : Along (step {}) (fun s entry => Emits s entry.2) (.fresh {}) startingLog := by
  refine ⟨⟨trivial,fun _ _ _ => rfl⟩,?_⟩
  refine ⟨.plain trivial ?_,.plain trivial ?_,.plain (.inl rfl) ?_,trivial⟩ <;> (intro _ _ same; cases same)

private theorem fresh_orderly : Orderly (.fresh {}) :=
  ⟨fun _ _ found => (by cases found),fun _ _ found => (by cases found)⟩

theorem jobs_live_their_life_starting : stateOf (run {} (.fresh {}) startingLog) 1 ≠ some .preempted :=
  (jobs_live_their_life {} _ fresh_orderly _ starting_emits 1).2.1

theorem runs_recorded_once_starting :
    endRecords {} 1 (.fresh {}) startingLog + (phaseIn (run {} (.fresh {}) startingLog) 1).active.toNat = 1 :=
  (runs_recorded_once {} _ fresh_orderly _ starting_emits 1).trans (by decide +kernel)

theorem attempts_never_fall_submitted :
    ∃ job next, (run {} (step {} (.fresh {}) (.ordered 0,.jobSubmit 1 {})) [firstActivation]).jobs[1]? = some next ∧
      Continues job next :=
  ⟨_,attempts_never_fall {} _ (step_orderly {} fresh_orderly starting_emits.1) [firstActivation]
    ⟨.plain (.inl rfl) (by intro _ _ same; cases same),trivial⟩ 1 ⟨by decide +kernel,trivial⟩ _ rfl⟩

theorem quiet_cluster_is_free_registered : Unheld (run {} (.fresh {}) (raceOpening.drop 1)) :=
  quiet_cluster_is_free {} _ fresh_unheld _ ⟨⟨trivial,trivial⟩,trivial⟩ ⟨fun _ _ found => (by cases found),trivial⟩
    fun _ _ found => (by cases found)

end

end Spur.Cluster
