import Spur.Library.Advance
import Spur.Sched.NodeMatch
import Spur.Sched.Packing

/-! The timeline of one node and the earliest start of a request on it, from the scheduler's `timeline`. -/
namespace Spur.Sched
open Spur Spur.Library List

structure Interval where
  start : Time
  end_ : Time
  resources : ResourceAllocations
  jobId : Option JobId

/-- A node with its allocation intervals, sorted by start. The capacity is the node's inventory. -/
structure NodeTimeline where
  node : Node
  intervals : List Interval

/-- A sweep over the interval events: what is allocated at its instant, the intervals still to start,
and the active ones with the one that ends first in front. -/
structure AllocationSweep where
  used : ResourceAllocations
  upcoming : List Interval
  ending : List Interval

namespace AllocationSweep

def push (interval : Interval) (ending : List Interval) : List Interval :=
  ending.orderedInsert (fun a b => a.end_ < b.end_) interval

def enter (time : Time) (used : ResourceAllocations) (ending : List Interval) : List Interval → AllocationSweep
  | [] => ⟨used,[],ending⟩
  | interval :: rest =>
    if interval.start ≤ time then enter time (used.add interval.resources) (push interval ending) rest
    else ⟨used,interval :: rest,ending⟩

def leave (time : Time) (used : ResourceAllocations) : List Interval → ResourceAllocations × List Interval
  | [] => (used,[])
  | interval :: rest =>
    if interval.end_ ≤ time then leave time (used.subtract interval.resources) rest else (used,interval :: rest)

def advanceTo (sweep : AllocationSweep) (time : Time) : AllocationSweep :=
  let entered := enter time sweep.used sweep.ending sweep.upcoming
  let (used,ending) := leave time entered.used entered.ending
  { entered with used, ending }

def new (intervals : List Interval) (time : Time) : AllocationSweep :=
  advanceTo ⟨{},intervals,[]⟩ time

def earliestActiveEnd (sweep : AllocationSweep) : Option Time := sweep.ending.head?.map Interval.end_

end AllocationSweep

def maxLookahead : Duration := unlimitedJobDuration

namespace NodeTimeline

variable (timeline : NodeTimeline)

def total : ResourceSet := timeline.node.totalResources

def accumulatedAt (time : Time) : ResourceAllocations :=
  ((timeline.intervals.takeWhile fun i => i.start ≤ time).filter fun i => time < i.end_).foldl
    (fun used interval => used.add interval.resources) {}

def canSatisfyAt (time : Time) (request : ResourceSet) : Bool :=
  timeline.total.canSatisfyWithAllocated (timeline.accumulatedAt time) request

/-- The first interval starting inside the window where the request no longer fits: its end. -/
def durationBlocker (request : ResourceSet) (start : Time) :
    AllocationSweep → List Interval → Option Time × AllocationSweep
  | sweep, [] => (none,sweep)
  | sweep, interval :: rest =>
    if interval.start ≤ start ∨ interval.end_ ≤ start then durationBlocker request start sweep rest
    else
      let sweep := sweep.advanceTo interval.start
      if timeline.total.canSatisfyWithAllocated sweep.used request then durationBlocker request start sweep rest
      else (some interval.end_,sweep)

def startRound (request : ResourceSet) (duration : Duration) (maxCheck : Time) :
    Time × AllocationSweep → (Time × AllocationSweep) ⊕ Time
  | (candidate,sweep) =>
    if maxCheck < candidate then .inr maxCheck
    else
      let sweep := sweep.advanceTo candidate
      if timeline.total.canSatisfyWithAllocated sweep.used request then
        match timeline.durationBlocker request candidate sweep
            (timeline.intervals.takeWhile fun i => i.start < candidate + duration) with
        | (some jump,sweep) => .inl (jump,sweep)
        | (none,_) => .inr candidate
      else match sweep.earliestActiveEnd with
        | some end_ => .inl (end_,sweep)
        | none => .inr candidate

/-- Every later candidate is the end of an interval, so the rounds are at most one more than those. -/
def earliestStart (request : ResourceSet) (duration : Duration) (after : Time) : Time :=
  let maxCheck := after + maxLookahead
  (advance (timeline.startRound request duration maxCheck) (timeline.intervals.length + 1)
    (after,AllocationSweep.new timeline.intervals after)).getD maxCheck

def reserveForJob (start end_ : Time) (resources : ResourceAllocations) (jobId : Option JobId) : NodeTimeline :=
  { timeline with
    intervals := List.insertionSort (fun a b => a.start ≤ b.start)
      (timeline.intervals ++ [(⟨start,end_,resources,jobId⟩ : Interval)]) }

variable {timeline}

theorem reserveForJob_perm (start end_ : Time) (resources : ResourceAllocations) (jobId : Option JobId) :
    (timeline.reserveForJob start end_ resources jobId).intervals.Perm
      (⟨start,end_,resources,jobId⟩ :: timeline.intervals) :=
  (perm_insertionSort _ _).trans (perm_append_singleton _ _)

end NodeTimeline

variable {request : ResourceSet} {duration : Duration}

section

variable {time : Time} {used : ResourceAllocations} {ending upcoming intervals : List Interval} {sweep : AllocationSweep}

def AllocationSweep.Over (intervals : List Interval) (sweep : AllocationSweep) : Prop :=
  sweep.upcoming ⊆ intervals ∧ sweep.ending ⊆ intervals

theorem AllocationSweep.enter_over (active : ending ⊆ intervals) (later : upcoming ⊆ intervals) :
    (enter time used ending upcoming).Over intervals := by
  induction upcoming generalizing used ending with
  | nil => exact ⟨nil_subset _,active⟩
  | cons interval rest ih =>
    rw [cons_subset] at later
    unfold enter
    split
    · refine ih ?_ later.2
      intro x inside
      rcases (mem_orderedInsert _).mp inside with rfl | old
      · exact later.1
      · exact active old
    · exact ⟨cons_subset.mpr later,active⟩

theorem AllocationSweep.leave_sublist : (leave time used ending).2.Sublist ending := by
  induction ending generalizing used with
  | nil => exact List.Sublist.refl _
  | cons interval rest ih =>
    unfold leave
    split
    · exact ih.cons _
    · exact List.Sublist.refl _

theorem AllocationSweep.advanceTo_over (within : sweep.Over intervals) : (sweep.advanceTo time).Over intervals := by
  obtain ⟨later,active⟩ := @enter_over time _ _ _ _ within.2 within.1
  exact ⟨later,fun x inside => active (leave_sublist.subset inside)⟩

theorem AllocationSweep.leave_head {end_ : Time} (first : (leave time used ending).2.head?.map Interval.end_ = some end_) :
    time < end_ := by
  induction ending generalizing used with
  | nil => cases first
  | cons interval rest ih =>
    unfold leave at first
    split at first
    · exact ih first
    next running =>
      cases first
      exact not_le.mp running

variable {timeline : NodeTimeline} {request : ResourceSet} {start : Time}

theorem NodeTimeline.durationBlocker_over (within : sweep.Over intervals) (inside : upcoming ⊆ intervals) :
    (timeline.durationBlocker request start sweep upcoming).2.Over intervals ∧
      ∀ jump, (timeline.durationBlocker request start sweep upcoming).1 = some jump →
        start < jump ∧ ∃ i ∈ intervals, i.end_ = jump := by
  induction upcoming generalizing sweep with
  | nil => exact ⟨within,fun jump found => by cases found⟩
  | cons interval rest ih =>
    rw [cons_subset] at inside
    unfold durationBlocker
    split
    · exact ih within inside.2
    rename_i ahead
    rw [not_or,not_le,not_le] at ahead
    dsimp only
    split
    · exact ih (AllocationSweep.advanceTo_over within) inside.2
    · refine ⟨AllocationSweep.advanceTo_over within,fun jump found => ?_⟩
      cases found
      exact ⟨ahead.2,interval,inside.1,rfl⟩

theorem NodeTimeline.startRound_moves {maxCheck : Time}
    {state later : Time × AllocationSweep} (within : state.2.Over timeline.intervals)
    (moved : timeline.startRound request duration maxCheck state = .inl later) :
    later.2.Over timeline.intervals ∧ state.1 < later.1 ∧
      later.1 ∈ (timeline.intervals.map Interval.end_).toFinset := by
  obtain ⟨candidate,sweep⟩ := state
  have swept : (sweep.advanceTo candidate).Over _ := AllocationSweep.advanceTo_over within
  unfold startRound at moved
  dsimp only at moved
  split at moved
  · cases moved
  split at moved
  · have opening : (timeline.intervals.takeWhile fun i => i.start < candidate + duration) ⊆ timeline.intervals :=
      ( takeWhile_prefix _).subset
    have blocked := @durationBlocker_over _ _ _ timeline request candidate swept opening
    split at moved
    next jump after found =>
      cases moved
      rw [found] at blocked
      obtain ⟨ahead,i,listed,rfl⟩ := blocked.2 jump rfl
      exact ⟨blocked.1,ahead,by simpa using ⟨i,listed,rfl⟩⟩
    · cases moved
  · split at moved
    next end_ first =>
      cases moved
      refine ⟨swept,AllocationSweep.leave_head first,?_⟩
      obtain ⟨i,head,rfl⟩ := Option.map_eq_some_iff.mp first
      have listed := swept.2 (List.mem_of_mem_head? head)
      simpa using ⟨i,listed,rfl⟩
    · cases moved

theorem NodeTimeline.earliestStart_ends (timeline : NodeTimeline) (request : ResourceSet) (duration : Duration) (after : Time) :
    EndsWithin (timeline.startRound request duration (after + maxLookahead)) Prod.fst (timeline.intervals.length + 1)
      (after,AllocationSweep.new timeline.intervals after) := by
  refine endsWithin_of_stops _ _ _ (fun state later within moved => startRound_moves within moved)
    (AllocationSweep.advanceTo_over ⟨List.Subset.refl _,nil_subset _⟩) ?_
  rw [length_map]
  exact Nat.lt_succ_self _

theorem NodeTimeline.earliestStart_answer (request : ResourceSet) (duration : Duration) (after : Time) :
    advance (timeline.startRound request duration (after + maxLookahead)) (timeline.intervals.length + 1)
      (after,AllocationSweep.new timeline.intervals after) = some (timeline.earliestStart request duration after) :=
  (timeline.earliestStart_ends request duration after).answer

theorem lt_lookahead {time : Time} : time < time + maxLookahead :=
  lt_add_of_pos_right time (by decide)

namespace NodeTimeline

def opening (timeline : NodeTimeline) (after : Time) : AllocationSweep :=
  (AllocationSweep.new timeline.intervals after).advanceTo after

def upTo (timeline : NodeTimeline) (windowEnd : Time) : List Interval :=
  timeline.intervals.takeWhile fun i => i.start < windowEnd

theorem startRound_answer {maxCheck answer : Time}
    {state : Time × AllocationSweep} (answered : timeline.startRound request duration maxCheck state = .inr answer) :
    answer = maxCheck ∨ answer = state.1 ∧
      ((timeline.total.canSatisfyWithAllocated (state.2.advanceTo state.1).used request ∧
          (timeline.durationBlocker request state.1 (state.2.advanceTo state.1) (timeline.upTo (state.1 + duration))).1 =
            none) ∨
        (timeline.total.canSatisfyWithAllocated (state.2.advanceTo state.1).used request = false ∧
          (state.2.advanceTo state.1).ending = [])) := by
  unfold startRound at answered
  dsimp only at answered
  split at answered
  · cases answered
    exact .inl rfl
  split at answered
  next fits =>
    split at answered
    · cases answered
    next free =>
      cases answered
      exact .inr ⟨rfl,.inl ⟨fits,congrArg _ free⟩⟩
  next short =>
    split at answered
    · cases answered
    next none_active =>
      cases answered
      refine .inr ⟨rfl,.inr ⟨by simpa using short,?_⟩⟩
      simpa [AllocationSweep.earliestActiveEnd] using none_active

theorem earliestStart_cases (request : ResourceSet) (duration : Duration) (after : Time) :
    ∃ last : Time × AllocationSweep, last.2.Over timeline.intervals ∧
      timeline.startRound request duration (after + maxLookahead) last =
        .inr (timeline.earliestStart request duration after) ∧
      (last = (after,AllocationSweep.new timeline.intervals after) ∨
        (after < last.1 ∧ ∃ i ∈ timeline.intervals, i.end_ = last.1)) := by
  obtain ⟨last,within,answered,reached⟩ := advance_clock _ _
    _ (fun state later within moved => startRound_moves within moved)
    (AllocationSweep.advanceTo_over ⟨List.Subset.refl _,nil_subset _⟩)
    (timeline.earliestStart_answer request duration after)
  refine ⟨last,within,answered,reached.imp_right fun later => ⟨later.1,?_⟩⟩
  simpa using later.2

theorem le_earliestStart (request : ResourceSet) (duration : Duration) (after : Time) :
    after ≤ timeline.earliestStart request duration after := by
  obtain ⟨last,_,answered,reached⟩ := timeline.earliestStart_cases request duration after
  rcases startRound_answer answered with far | ⟨found,_⟩
  · rw [far]
    exact lt_lookahead.le
  rw [found]
  rcases reached with rfl | later
  · exact le_rfl
  · exact later.1.le

theorem earliestStart_eq (request : ResourceSet) (duration : Duration) (after : Time) :
    timeline.earliestStart request duration after = after ∨
      (∃ i ∈ timeline.intervals, i.end_ = timeline.earliestStart request duration after) ∨
      timeline.earliestStart request duration after = after + maxLookahead := by
  obtain ⟨last,_,answered,reached⟩ := timeline.earliestStart_cases request duration after
  rcases startRound_answer answered with far | ⟨found,_⟩
  · exact .inr (.inr far)
  · rcases reached with rfl | ⟨_,i,listed,same⟩
    · exact .inl found
    · exact .inr (.inl ⟨i,listed,same.trans found.symm⟩)

theorem earliestStart_eq_after {after : Time} (atOnce : timeline.earliestStart request duration after = after) :
    (timeline.total.canSatisfyWithAllocated (timeline.opening after).used request ∧
        (timeline.durationBlocker request after (timeline.opening after) (timeline.upTo (after + duration))).1 = none) ∨
      (timeline.total.canSatisfyWithAllocated (timeline.opening after).used request = false ∧
        (timeline.opening after).ending = []) := by
  obtain ⟨last,_,answered,reached⟩ := timeline.earliestStart_cases request duration after
  rw [atOnce] at answered
  rcases startRound_answer answered with far | ⟨found,verdict⟩
  · exact absurd far lt_lookahead.ne
  rcases reached with rfl | later
  · exact verdict
  · exact absurd found later.1.ne

end NodeTimeline

end

section

open ResourceAllocations AllocationSweep

variable {now : Time} {timeline : NodeTimeline}

theorem takeWhile_eq_filter {intervals : List Interval} (sorted : intervals.Pairwise fun a b => a.start ≤ b.start)
    (time : Time) : (intervals.takeWhile fun i => i.start ≤ time) = intervals.filter fun i => i.start ≤ time := by
  induction intervals with
  | nil => rfl
  | cons interval rest ih =>
    rw [pairwise_cons] at sorted
    by_cases started : interval.start ≤ time
    · rw [takeWhile_cons_of_pos (by simpa using started),filter_cons_of_pos (by simpa using started),ih sorted.2]
    rw [takeWhile_cons_of_neg (by simpa using started),filter_cons_of_neg (by simpa using started)]
    symm
    rw [filter_eq_nil_iff]
    intro other inside soon
    exact started ((sorted.1 other inside).trans (of_decide_eq_true soon))

namespace NodeTimeline

/-- A timeline as a pass at `now` keeps it: sorted, with every interval still ahead or just begun. -/
structure Current (now : Time) (timeline : NodeTimeline) : Prop where
  sorted : timeline.intervals.Pairwise fun a b => a.start ≤ b.start
  later : ∀ i ∈ timeline.intervals, now ≤ i.start
  running : ∀ i ∈ timeline.intervals, now < i.end_

def heldAt (timeline : NodeTimeline) (time : Time) : List ResourceAllocations :=
  ((timeline.intervals.filter fun i => i.start ≤ time).filter fun i => time < i.end_).map Interval.resources

theorem accumulatedAt_eq (sorted : timeline.intervals.Pairwise fun a b => a.start ≤ b.start) (time : Time) :
    timeline.accumulatedAt time = sumOf (timeline.heldAt time) := by
  unfold accumulatedAt heldAt sumOf
  rw [takeWhile_eq_filter sorted,foldl_map]

theorem enter_eq {time : Time} (used : ResourceAllocations) (ending upcoming : List Interval) :
    (enter time used ending upcoming).used = (upcoming.takeWhile fun i => i.start ≤ time).foldl
        (fun used i => used.add i.resources) used ∧
      (enter time used ending upcoming).upcoming = (upcoming.dropWhile fun i => i.start ≤ time) ∧
      (enter time used ending upcoming).ending.Perm (ending ++ upcoming.takeWhile fun i => i.start ≤ time) := by
  induction upcoming generalizing used ending with
  | nil => simp [enter]
  | cons interval rest ih =>
    unfold enter
    by_cases started : interval.start ≤ time
    · rw [if_pos started,takeWhile_cons_of_pos (by simpa using started),
        dropWhile_cons_of_pos (by simpa using started)]
      obtain ⟨used,later,active⟩ := ih _ _
      refine ⟨used,later,active.trans ?_⟩
      have entered : (push interval ending).Perm _ := perm_orderedInsert _ _ _
      exact (entered.append_right _).trans perm_middle.symm
    · rw [if_neg started,takeWhile_cons_of_neg (by simpa using started),
        dropWhile_cons_of_neg (by simpa using started)]
      simp

theorem leave_of_running {time : Time} {ending : List Interval} (running : ∀ i ∈ ending, time < i.end_)
    (used : ResourceAllocations) : leave time used ending = (used,ending) := by
  cases ending with
  | nil => rfl
  | cons interval rest =>
    unfold leave
    rw [if_neg (running interval mem_cons_self).not_ge]

theorem enter_again (time : Time) (used : ResourceAllocations) (ending upcoming : List Interval) :
    enter time used ending (upcoming.dropWhile fun i => i.start ≤ time) =
      ⟨used,upcoming.dropWhile fun i => i.start ≤ time,ending⟩ := by
  cases rest : upcoming.dropWhile fun i => i.start ≤ time with
  | nil => rfl
  | cons interval others =>
    have head := List.head?_dropWhile_not (fun i : Interval => decide (i.start ≤ time)) upcoming
    rw [rest] at head
    unfold enter
    rw [if_neg (by simpa using head)]

theorem opening_now (current : timeline.Current now) : (timeline.opening now).used = timeline.accumulatedAt now ∧
      (timeline.opening now).ending.Perm (timeline.intervals.filter fun i => i.start ≤ now) := by
  have all_running : ∀ i ∈ timeline.intervals.takeWhile (fun i => i.start ≤ now), now < i.end_ :=
    fun i inside => current.running i (( takeWhile_prefix _).subset inside)
  obtain ⟨used,later,active⟩ := enter_eq {} [] _
  have stay := leave_of_running fun i inside => all_running i (active.subset inside)
  -- The second visit finds nothing to enter and nothing to leave.
  have again : timeline.opening now = enter now {} [] timeline.intervals := by
    unfold opening AllocationSweep.new advanceTo
    dsimp only
    rw [stay]
    rw [later,enter_again]
    rw [stay,← later]
  rw [again]
  constructor
  · rw [used]
    unfold accumulatedAt
    rw [filter_eq_self.mpr fun i inside => by simpa using all_running i inside]
  · rw [← takeWhile_eq_filter current.sorted]
    exact active

theorem heldAt_now (current : timeline.Current now) :
    timeline.heldAt now = (timeline.intervals.filter fun i => i.start ≤ now).map Interval.resources := by
  unfold heldAt
  congr 1
  rw [filter_eq_self]
  intro i inside
  simpa using current.running i (mem_filter.mp inside).1

theorem fits_of_atOnce (current : timeline.Current now) (idle : timeline.total.canSatisfyWithAllocated {} request)
    (atOnce : timeline.earliestStart request duration now = now) :
    timeline.total.canSatisfyWithAllocated (timeline.accumulatedAt now) request := by
  obtain ⟨used,active⟩ := opening_now current
  rcases earliestStart_eq_after atOnce with ⟨fits,_⟩ | ⟨short,empty⟩
  · rwa [used] at fits
  rw [empty] at active
  have nothing : timeline.heldAt now = [] := by
    rw [heldAt_now current,nil_perm.mp active,map_nil]
  have unused : (timeline.opening now).used = {} := by
    rw [used,accumulatedAt_eq current.sorted,nothing]
    rfl
  rw [unused] at short
  rw [short] at idle
  cases idle

end NodeTimeline

end

end Spur.Sched
