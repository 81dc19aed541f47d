import Spur.Cluster.Apply
import Spur.Library.Pointwise

/-! The clock of a job's run, and what an entry makes of it. -/
namespace Spur.Cluster
open Spur Spur.Library

/-- One run's clock: its start, the seconds of its closed suspensions and the start of an open one. -/
@[ext] structure Stint where
  start : Option Time := none
  closed : Int := 0
  since : Option Time := none

namespace Stint

def suspendedBy (date : Time) (stint : Stint) : Int :=
  stint.closed + stint.since.elim 0 fun since => max (Duration.numSeconds (date - since)) 0

def close (date : Time) (stint : Stint) : Stint := ⟨stint.start,stint.suspendedBy date,none⟩

def runTime (date : Time) (stint : Stint) : Option Duration :=
  stint.start.map fun start => max (date - start - Duration.seconds (stint.suspendedBy date)) 0

def elapsed (date : Time) (stint : Stint) : Nat :=
  ((stint.runTime date).map fun d => (max d.numSeconds 0).toNat).getD 0

def deadline (now : Time) (timeLimit : Duration) (stint : Stint) : Option Time :=
  stint.start.map fun start => start + timeLimit + Duration.seconds (stint.suspendedBy now)

theorem close_since {stint : Stint} (running : stint.since = none) (date : Time) : stint.close date = stint := by
  obtain ⟨start,closed,since⟩ := stint
  cases running
  simp [close,suspendedBy]

theorem elapsed_close (date : Time) (stint : Stint) : (stint.close date).elapsed date = stint.elapsed date := by
  have same : (stint.close date).suspendedBy date = stint.suspendedBy date := Int.add_zero _
  unfold elapsed runTime
  rw [same]
  rfl

end Stint

def stintOf (job : Job) : Stint := ⟨job.startTime,job.suspendedSecs,job.suspendedAt⟩

namespace Stint

/-- The clock of the run a job is in, from the changes of its state alone: a start sets it anew, a
suspension opens on it and closes again. -/
def next (date : Time) (before after : Option JobState) (stint : Stint) : Stint :=
  if after = some .running ∧ before.any JobState.isActive = false then ⟨some date,0,none⟩
  else if before = some .running ∧ after = some .suspended then { stint with since := some date }
  else if before = some .suspended ∧ after ≠ some .suspended then stint.close date
  else stint

theorem next_self (date : Time) (state : JobState) (stint : Stint) :
    stint.next date (some state) (some state) = stint := by
  cases state <;> rfl

end Stint

/-- The job carries the clock of its run, open while it is suspended; between runs no suspension is open on it. -/
structure Carries (job : Job) (clock : Stint) : Prop where
  run : job.state.isActive = true → stintOf job = clock ∧ (clock.since.isSome = true ↔ job.state = .suspended)
  rest : job.state.isActive = false → job.suspendedAt = none

/-- What one entry makes of a job's clock follows the change of its state, and an end record it emits of a run
reports the time on that clock. -/
def Ticks (date : Time) (before after : Option Job) (elapsed : List Nat) : Prop :=
  ∀ clock, (∀ job ∈ before, Carries job clock) →
    (∀ next ∈ after, Carries next (clock.next date (before.map Job.state) (after.map Job.state))) ∧
      ∀ job ∈ before, job.state.isActive = true → ∀ secs ∈ elapsed, secs = clock.elapsed date

structure Level (job next : Job) : Prop where
  state : next.state = job.state
  run : job.state.isActive = true → stintOf next = stintOf job
  rest : job.suspendedAt = none → next.suspendedAt = none

theorem Level.refl {job : Job} : Level job job := ⟨rfl,fun _ => rfl,id⟩

theorem Level.trans {first second third : Job} (left : Level first second) (right : Level second third) :
    Level first third :=
  ⟨right.state.trans left.state,fun active => (right.run (left.state ▸ active)).trans (left.run active),
    fun since => right.rest (left.rest since)⟩

theorem Level.same {job next : Job} (state : next.state = job.state) (stint : stintOf next = stintOf job) :
    Level job next :=
  ⟨state,fun _ => stint,fun since => (congrArg Stint.since stint).trans since⟩

theorem Level.waiting {job next : Job} (pending : job.state = .pending) (state : next.state = .pending)
    (since : next.suspendedAt = job.suspendedAt) : Level job next :=
  ⟨state.trans pending.symm,fun active => by simp [pending,JobState.isActive] at active,fun rest => since.trans rest⟩

theorem Level.carries {job next : Job} {clock : Stint} (level : Level job next) (carries : Carries job clock) :
    Carries next clock := by
  refine ⟨fun active => ?_,fun idle => level.rest (carries.rest (level.state ▸ idle))⟩
  rw [level.state] at active ⊢
  rw [level.run active]
  exact carries.run active

variable {state : JobState} {stored : Option Job}

theorem live_active (live : state = .running ∨ state = .suspended) : state.isActive = true := by
  rcases live with rfl | rfl <;> rfl

theorem idle_of_terminal (terminal : state.isTerminal = true) : state.isActive = false := by
  cases state <;> first | rfl | cases terminal

variable {elapsed : List Nat} {date : Time}

namespace Ticks

variable {job next : Job}

theorem of (carried : ∀ clock, Carries job clock → Carries next (clock.next date (some job.state) (some next.state)))
    (reported : job.state.isActive = true → ∀ secs ∈ elapsed, secs = (stintOf job).elapsed date) :
    Ticks date (some job) (some next) elapsed := by
  intro clock before
  have carries := before job rfl
  refine ⟨fun _ same => Option.some.inj same ▸ carried clock carries,fun _ same active secs member => ?_⟩
  cases same
  rw [reported active secs member,(carries.run active).1]

theorem refl {date : Time} : Ticks date stored stored [] := by
  cases stored with
  | none => exact fun _ _ => ⟨fun _ same => (by cases same),fun _ same => (by cases same)⟩
  | some job => exact of (fun clock carries => by rwa [Stint.next_self]) fun _ _ member => by cases member

theorem after {mid : Job} (level : Level job mid) (ticks : Ticks date (some mid) stored elapsed) :
    Ticks date (some job) stored elapsed := by
  intro clock before
  obtain ⟨carried,reported⟩ := ticks clock fun _ same => Option.some.inj same ▸ level.carries (before job rfl)
  dsimp only [Option.map_some] at carried
  rw [level.state] at carried
  refine ⟨carried,fun _ same active => ?_⟩
  cases same
  exact reported mid rfl (level.state ▸ active)

theorem level {mid : Job} (ticks : Ticks date stored (some mid) elapsed) (level : Level mid next) :
    Ticks date stored (some next) elapsed := by
  intro clock before
  obtain ⟨carried,reported⟩ := ticks clock before
  refine ⟨fun _ same => ?_,reported⟩
  cases same
  dsimp only [Option.map_some]
  rw [level.state]
  exact level.carries (carried mid rfl)

theorem keep (level : Level job next) : Ticks date (some job) (some next) [] := refl.level level

theorem start (pending : job.state = .pending) (unspent : job.suspendedSecs = 0) (running : next.state = .running)
    (stint : stintOf next = { stintOf job with start := some date }) : Ticks date (some job) (some next) [] := by
  refine of (fun clock carries => ⟨fun _ => ?_,fun idle => ?_⟩) nofun
  · have rested := carries.rest (by rw [pending]; rfl)
    rw [stint,pending,running]
    exact ⟨Stint.ext rfl unspent rested,iff_of_false Bool.false_ne_true nofun⟩
  · rw [running] at idle
    cases idle

theorem pause (running : job.state = .running) (suspended : next.state = .suspended)
    (stint : stintOf next = { stintOf job with since := some date }) : Ticks date (some job) (some next) [] := by
  refine of (fun clock carries => ⟨fun _ => ?_,fun idle => ?_⟩) nofun
  · rw [stint,(carries.run (by rw [running]; rfl)).1,running,suspended]
    exact ⟨rfl,iff_of_true rfl rfl⟩
  · rw [suspended] at idle
    cases idle

/-- A suspension ends with the run that goes on or drains; a run that was not suspended drains as it is. -/
theorem close (live : job.state = .running ∨ job.state = .suspended)
    (leaves : next.state = .completing ∨ job.state = .suspended ∧ next.state = .running)
    (stint : stintOf next = (stintOf job).close date) : Ticks date (some job) (some next) [] := by
  refine of (fun clock carries => ⟨fun _ => ?_,fun idle => ?_⟩) nofun
  · obtain ⟨runs,opens⟩ := carries.run (live_active live)
    rw [stint,runs]
    rcases live with running | suspended
    · have since : clock.since = none := by simpa [running] using opens
      have completing := leaves.resolve_right fun both => by rw [running] at both; cases both.1
      rw [running,completing,Stint.close_since since]
      exact ⟨rfl,iff_of_false (show ¬ clock.since.isSome = true by simp [since]) nofun⟩
    · rcases leaves with completing | ⟨-,going⟩
      · rw [suspended,completing]
        exact ⟨rfl,iff_of_false Bool.false_ne_true nofun⟩
      · rw [suspended,going]
        exact ⟨rfl,iff_of_false Bool.false_ne_true nofun⟩
  · rcases leaves with completing | ⟨-,running⟩ <;> simp_all [JobState.isActive]

theorem rest (idle : next.state.isActive = false) (since : ∀ clock, Carries job clock → next.suspendedAt = none)
    (reported : job.state.isActive = true → ∀ secs ∈ elapsed, secs = (stintOf job).elapsed date) :
    Ticks date (some job) (some next) elapsed :=
  of (fun clock carries => ⟨fun active => by simp [idle] at active,fun _ => since clock carries⟩) reported

theorem finish {secs : Nat} (idle : next.state.isActive = false) (since : next.suspendedAt = none)
    (reports : secs = (stintOf job).elapsed date) : Ticks date (some job) (some next) [secs] :=
  .rest idle (fun _ _ => since) fun _ _ member => (List.mem_singleton.mp member).trans reports

theorem reopen (rests : job.state.isActive = false) (idle : next.state.isActive = false)
    (since : next.suspendedAt = job.suspendedAt) : Ticks date (some job) (some next) [] :=
  .rest idle (fun _ carries => since.trans (carries.rest rests)) fun active => by simp [rests] at active

end Ticks

end Spur.Cluster
