import Spur.Sched.Sweep

/-! The search for the earliest start over the sweep goes in step with the plain one, and what that answers. -/
namespace Spur.Sched
open Spur Spur.Library AllocationSweep ResourceAllocations List

/-- A sweep made at the first of some instants and advanced to each of the others. -/
def AllocationSweep.visits (intervals : List Interval) (instants : List Time) : AllocationSweep :=
  instants.foldl advanceTo ⟨{},intervals,[]⟩

namespace NodeTimeline

section

variable (timeline : NodeTimeline) (request : ResourceSet)

def bruteBlocker (start windowEnd : Time) : List Interval → Option Time
  | [] => none
  | interval :: rest =>
    if interval.start ≤ start ∨ interval.end_ ≤ start then bruteBlocker start windowEnd rest
    else if windowEnd ≤ interval.start then none
    else if timeline.canSatisfyAt interval.start request then bruteBlocker start windowEnd rest
    else some interval.end_

def bruteRound (duration : Duration) (maxCheck candidate : Time) : Time ⊕ Time :=
  if maxCheck < candidate then .inr maxCheck
  else if timeline.canSatisfyAt candidate request then
    match timeline.bruteBlocker request candidate (candidate + duration) timeline.intervals with
    | some jump => .inl jump
    | none => .inr candidate
  else match (((timeline.intervals.filter fun i => i.start ≤ candidate).filter fun i =>
      candidate < i.end_).map Interval.end_).min? with
    | some end_ => .inl end_
    | none => .inr candidate

/-- The search of the timeline's tests, which counts every instant it looks at from scratch. -/
def bruteEarliestStart (duration : Duration) (after : Time) : Option Time :=
  advance (timeline.bruteRound request duration (after + maxLookahead)) (timeline.intervals.length + 1) after

/-- A timeline in the order it is kept in, whose intervals last and whose counters hold all of them together. -/
structure Regular : Prop where
  sorted : timeline.intervals.Pairwise fun a b => a.start ≤ b.start
  lasting : ∀ i ∈ timeline.intervals, i.start < i.end_
  room : ∀ meter, (timeline.intervals.map fun i => Meter.read i.resources meter).sum ≤ meter.bound

end

end NodeTimeline

variable {after : Time} {walked : List Interval}

section

variable {gpuIds : List Nat} {intervals : List Interval} {time later : Time} {sweep : AllocationSweep}
  {timeline : NodeTimeline} {request : ResourceSet} {duration : Duration}

theorem tracks_visits (bounded : Bounded gpuIds intervals) {instants : List Time}
    (ordered : (instants ++ [later]).Pairwise (· ≤ ·)) : ∃ time ≤ later, Tracks gpuIds intervals time (visits intervals instants) := by
  induction instants using List.reverseRecOn generalizing later with
  | nil => exact ⟨later,le_rfl,tracks_start later⟩
  | append_singleton earlier last ih =>
    obtain ⟨before,_,behind⟩ := pairwise_append.mp ordered
    obtain ⟨time,from_,tracks⟩ := ih before
    refine ⟨last,behind last (by simp) later (by simp),?_⟩
    unfold visits at tracks ⊢
    rw [foldl_append]
    exact tracks.advanceTo bounded from_

theorem Tracks.earliestActiveEnd_eq (tracks : Tracks gpuIds intervals time sweep) (bounded : Bounded gpuIds intervals)
    (sorted : intervals.Pairwise fun a b => a.start ≤ b.start) (from_ : time ≤ later) :
    (sweep.advanceTo later).earliestActiveEnd =
      (((intervals.filter fun i => i.start ≤ later).filter fun i => later < i.end_).map Interval.end_).min? := by
  have ordered := (tracks.advanceTo bounded from_).ordered
  have ends := (tracks.active bounded sorted from_).map Interval.end_
  unfold earliestActiveEnd
  cases active : (sweep.advanceTo later).ending with
  | nil =>
    rw [active,map_nil,nil_perm] at ends
    rw [ends]
    rfl
  | cons first rest =>
    rw [active] at ordered ends
    symm
    refine List.min?_eq_some_iff.mpr ⟨ends.subset (by simp),fun end_ inside => ?_⟩
    obtain ⟨i,listed,rfl⟩ := mem_map.mp (ends.symm.subset inside)
    rcases mem_cons.mp listed with rfl | behind
    · exact le_rfl
    · exact (pairwise_cons.mp ordered).1 i behind

/-- The round over a sweep and the one from scratch look at the same candidate, which the sweep has not passed. -/
def InStep (timeline : NodeTimeline) (state : Time × AllocationSweep) (candidate : Time) : Prop :=
  state.1 = candidate ∧ ∃ time ≤ candidate,
    Tracks (timeline.total.gpus.map GpuResource.stableId) timeline.intervals time state.2

section

variable (regular : timeline.Regular)
  (telling : ∀ i ∈ timeline.intervals, Telling (timeline.total.gpus.map GpuResource.stableId) i.resources)

include regular telling

theorem NodeTimeline.Regular.bounded : Bounded (timeline.total.gpus.map GpuResource.stableId) timeline.intervals :=
  ⟨telling,regular.room⟩

theorem check_eq (tracks : Tracks (timeline.total.gpus.map GpuResource.stableId) timeline.intervals time sweep)
    (from_ : time ≤ later) : timeline.total.canSatisfyWithAllocated (sweep.advanceTo later).used request =
      timeline.canSatisfyAt later request :=
  (tracks.held (regular.bounded telling) regular.sorted from_).check_congr
    (counts_accumulatedAt (regular.bounded telling) regular.sorted later)

theorem durationBlocker_brute {start windowEnd : Time} {walked : List Interval} (window : start < windowEnd)
    (tracks : Tracks (timeline.total.gpus.map GpuResource.stableId) timeline.intervals time sweep)
    (part : walked.Sublist timeline.intervals) (ahead : ∀ i ∈ walked, start < i.start → time ≤ i.start) :
    (timeline.durationBlocker request start sweep (walked.takeWhile fun i => i.start < windowEnd)).1 =
        timeline.bruteBlocker request start windowEnd walked ∧
      ∀ jump, timeline.bruteBlocker request start windowEnd walked = some jump → ∃ time ≤ jump,
        Tracks (timeline.total.gpus.map GpuResource.stableId) timeline.intervals time
          (timeline.durationBlocker request start sweep (walked.takeWhile fun i => i.start < windowEnd)).2 := by
  induction walked generalizing time sweep with
  | nil => exact ⟨rfl,fun jump found => (by cases found)⟩
  | cons interval rest ih =>
    have rest_ := sublist_of_cons_sublist part
    have lasts := regular.lasting interval (part.subset mem_cons_self)
    have ordered := (pairwise_cons.mp (regular.sorted.sublist part)).1
    unfold NodeTimeline.bruteBlocker
    by_cases skipped : interval.start ≤ start ∨ interval.end_ ≤ start
    · have early : interval.start < windowEnd := by
        rcases skipped with begun | ended
        · exact begun.trans_lt window
        · exact (lasts.trans_le ended).trans window
      rw [if_pos skipped,takeWhile_cons_of_pos (by simpa using early)]
      unfold NodeTimeline.durationBlocker
      rw [if_pos skipped]
      exact ih tracks rest_ fun i inside => ahead i (mem_cons_of_mem _ inside)
    rw [if_neg skipped]
    by_cases beyond : windowEnd ≤ interval.start
    · rw [if_pos beyond,takeWhile_cons_of_neg (by simpa using beyond)]
      exact ⟨rfl,fun jump found => (by cases found)⟩
    have from_ : time ≤ interval.start := ahead interval mem_cons_self (not_le.mp (not_or.mp skipped).1)
    rw [if_neg beyond,takeWhile_cons_of_pos (by simpa using beyond)]
    unfold NodeTimeline.durationBlocker
    rw [if_neg skipped]
    dsimp only
    rw [check_eq regular telling tracks from_]
    have moved := tracks.advanceTo (regular.bounded telling) from_
    by_cases fits : timeline.canSatisfyAt interval.start request = true
    · rw [if_pos fits,if_pos fits]
      exact ih moved rest_ fun i inside _ => ordered i inside
    · rw [if_neg fits,if_neg fits]
      refine ⟨rfl,fun jump found => ⟨interval.start,?_,moved⟩⟩
      cases found
      exact lasts.le

theorem startRound_brute (positive : 0 < duration) {maxCheck : Time} {state : Time × AllocationSweep} {candidate : Time}
    (inStep : InStep timeline state candidate) :
    Sum.LiftRel (InStep timeline) Eq (timeline.startRound request duration maxCheck state)
      (timeline.bruteRound request duration maxCheck candidate) := by
  obtain ⟨_,sweep⟩ := state
  obtain ⟨rfl,time,from_,tracks⟩ := inStep
  rename_i candidate
  have moved := tracks.advanceTo (regular.bounded telling) from_
  unfold NodeTimeline.startRound NodeTimeline.bruteRound
  dsimp only
  by_cases far : maxCheck < candidate
  · rw [if_pos far,if_pos far]
    exact .inr rfl
  rw [if_neg far,if_neg far,check_eq regular telling tracks from_]
  by_cases fits : timeline.canSatisfyAt candidate request = true
  · rw [if_pos fits,if_pos fits]
    obtain ⟨same,reached⟩ := @durationBlocker_brute _ _ timeline request regular telling candidate _
      _ (lt_add_of_pos_right _ positive) moved (List.Sublist.refl _) fun i _ begins => begins.le
    generalize timeline.durationBlocker request candidate _ _ = found at same reached ⊢
    obtain ⟨first,swept⟩ := found
    subst same
    cases blocked : timeline.bruteBlocker request candidate _ _ with
    | none => exact .inr rfl
    | some jump => exact .inl ⟨rfl,reached jump blocked⟩
  · rw [if_neg fits,if_neg fits,← tracks.earliestActiveEnd_eq (regular.bounded telling) regular.sorted from_]
    cases first : (sweep.advanceTo candidate).earliestActiveEnd with
    | none => exact .inr rfl
    | some end_ => exact .inl ⟨rfl,candidate,(leave_head first).le,moved⟩

theorem bruteEarliestStart_eq (positive : 0 < duration) {request : ResourceSet} :
    timeline.bruteEarliestStart request duration after = some (timeline.earliestStart request duration after) := by
  rw [← timeline.earliestStart_answer request duration after]
  have first := (tracks_start after).advanceTo (regular.bounded telling) le_rfl
  have start : InStep timeline (after,AllocationSweep.new _ after) after := ⟨rfl,after,le_rfl,first⟩
  exact (advance_simulates (fun state copy inStep => startRound_brute regular telling positive inStep) start).symm

end

/-- The sweep counts at every instant it visits what is counted there from scratch, and the two searches agree. -/
theorem sweep_agrees (regular : timeline.Regular) (request : ResourceSet) (positive : 0 < duration) (after : Time) :
    (∀ (earlier : List Time) (time : Time), (earlier ++ [time]).Pairwise (· ≤ ·) → ∀ meter : Meter,
      meter.read (visits timeline.intervals (earlier ++ [time])).used = meter.read (timeline.accumulatedAt time)) ∧
    ((∀ i ∈ timeline.intervals, Telling (timeline.total.gpus.map GpuResource.stableId) i.resources) →
      timeline.bruteEarliestStart request duration after = some (timeline.earliestStart request duration after)) := by
  refine ⟨fun earlier time ordered meter => ?_,fun telling => bruteEarliestStart_eq regular telling positive⟩
  have bounded : Bounded _ _ :=
    ⟨fun i inside id listed => .inl (mem_flatMap.mpr ⟨i,inside,listed⟩),regular.room⟩
  obtain ⟨before,from_,tracks⟩ := tracks_visits bounded ordered
  have counts := tracks.held bounded regular.sorted from_
  unfold visits at counts ⊢
  rw [foldl_append]
  exact (counts.read meter).trans ((counts_accumulatedAt bounded regular.sorted time).read meter).symm

end

section

variable {timeline : NodeTimeline} {request : ResourceSet} {duration : Duration} {start windowEnd time later : Time}

theorem heldAt_sublist (still : ∀ i ∈ timeline.intervals, i.start ≤ later → later < i.end_ → i.start ≤ time ∧ time < i.end_) :
    (timeline.heldAt later).Sublist (timeline.heldAt time) := by
  unfold NodeTimeline.heldAt
  simp only [filter_filter]
  have part : (timeline.intervals.filter fun i => decide (later < i.end_) && decide (i.start ≤ later)) =
      (timeline.intervals.filter fun i => decide (time < i.end_) && decide (i.start ≤ time)).filter
        fun i => decide (later < i.end_) && decide (i.start ≤ later) := by
    rw [filter_filter]
    refine filter_congr fun i inside => ?_
    by_cases active : i.start ≤ later ∧ later < i.end_
    · simp [still i inside active.1 active.2]
    · rw [and_comm] at active
      simp [active]
  rw [part]
  exact filter_sublist.map _

theorem sum_heldAt_le (weight : ResourceAllocations → Nat) (time : Time) :
    ((timeline.heldAt time).map weight).sum ≤ (timeline.intervals.map fun i => weight i.resources).sum := by
  unfold NodeTimeline.heldAt
  rw [map_map]
  exact ((filter_sublist.trans filter_sublist).map _).sum_le_sum fun _ _ => Nat.zero_le _

theorem bruteBlocker_some {jump : Time}
    (found : timeline.bruteBlocker request start windowEnd walked = some jump) : ∃ i ∈ walked,
      start < i.start ∧ i.start < windowEnd ∧ timeline.canSatisfyAt i.start request = false ∧ i.end_ = jump := by
  induction walked with
  | nil => cases found
  | cons interval rest ih =>
    unfold NodeTimeline.bruteBlocker at found
    split at found
    · exact (ih found).imp fun i blocks => ⟨mem_cons_of_mem _ blocks.1,blocks.2⟩
    next open_ =>
    split at found
    · cases found
    next early =>
    split at found
    · exact (ih found).imp fun i blocks => ⟨mem_cons_of_mem _ blocks.1,blocks.2⟩
    next short =>
      cases found
      exact ⟨interval,mem_cons_self,not_le.mp (not_or.mp open_).1,not_le.mp early,by simpa using short,rfl⟩

theorem bruteBlocker_none (ordered : walked.Pairwise fun a b => a.start ≤ b.start)
    (clear : timeline.bruteBlocker request start windowEnd walked = none) : ∀ i ∈ walked,
      start < i.start → start < i.end_ → i.start < windowEnd → timeline.canSatisfyAt i.start request := by
  induction walked with
  | nil => simp
  | cons interval rest ih =>
    rw [pairwise_cons] at ordered
    unfold NodeTimeline.bruteBlocker at clear
    intro i inside begins lasts early
    split at clear
    next skipped =>
      rcases mem_cons.mp inside with rfl | behind
      · exact absurd skipped (not_or.mpr ⟨begins.not_ge,lasts.not_ge⟩)
      · exact ih ordered.2 clear i behind begins lasts early
    split at clear
    next beyond =>
      rcases mem_cons.mp inside with rfl | behind
      · exact absurd early beyond.not_gt
      · exact absurd early (beyond.trans (ordered.1 i behind)).not_gt
    split at clear
    next fits =>
      rcases mem_cons.mp inside with rfl | behind
      · exact fits
      · exact ih ordered.2 clear i behind begins lasts early
    · cases clear

/-- Somewhere in the window from an instant the request does not fit. -/
def Blocked (timeline : NodeTimeline) (request : ResourceSet) (duration : Duration) (sooner : Time) : Prop :=
  ∃ time, sooner ≤ time ∧ time < sooner + duration ∧ timeline.canSatisfyAt time request = false

section

variable (regular : timeline.Regular)
  (telling : ∀ i ∈ timeline.intervals, Telling (timeline.total.gpus.map GpuResource.stableId) i.resources)
  (small : (timeline.intervals.map fun i => i.resources.totalDeviceCount "gpu").sum < 2 ^ 32)
  (idle : timeline.total.canSatisfyWithAllocated {} request) (positive : 0 < duration)

include regular telling small in
theorem canSatisfyAt_mono
    (still : ∀ i ∈ timeline.intervals, i.start ≤ later → later < i.end_ → i.start ≤ time ∧ time < i.end_)
    (fits : timeline.canSatisfyAt time request) : timeline.canSatisfyAt later request := by
  have bounded := regular.bounded telling
  exact (counts_accumulatedAt bounded regular.sorted later).check_mono (counts_accumulatedAt bounded regular.sorted time)
    (heldAt_sublist still) ((sum_heldAt_le (totalDeviceCount · "gpu") time).trans_lt small) fits

include regular telling idle positive

/-- What every round keeps holds of the answer, where the request fits and nothing that starts in the window blocks it. -/
theorem earliestStart_found (Inv : Time → Prop) (first : Inv after) (kept : ∀ candidate later, Inv candidate →
      timeline.bruteRound request duration (after + maxLookahead) candidate = .inl later → Inv later)
    (before : timeline.earliestStart request duration after < after + maxLookahead) :
    Inv (timeline.earliestStart request duration after) ∧
      timeline.canSatisfyAt (timeline.earliestStart request duration after) request ∧
      timeline.bruteBlocker request (timeline.earliestStart request duration after)
        (timeline.earliestStart request duration after + duration) timeline.intervals = none := by
  obtain ⟨last,inv,answered⟩ := advance_answer Inv kept first (bruteEarliestStart_eq regular telling positive)
  unfold NodeTimeline.bruteRound at answered
  split at answered
  · exact absurd (Sum.inr.inj answered) before.ne'
  split at answered
  next fits =>
    split at answered
    · cases answered
    next clear =>
      rw [← Sum.inr.inj answered]
      exact ⟨inv,fits,clear⟩
  next short =>
    split at answered
    · cases answered
    next none_ =>
      -- Nothing is active there, so the request was compared with the empty node.
      rw [List.min?_eq_none_iff,map_eq_nil_iff] at none_
      refine absurd ?_ short
      unfold NodeTimeline.canSatisfyAt
      rw [NodeTimeline.accumulatedAt_eq regular.sorted,NodeTimeline.heldAt,none_]
      exact idle

include small

theorem earliestStart_fits (before : timeline.earliestStart request duration after < after + maxLookahead)
    (begun : timeline.earliestStart request duration after ≤ time)
    (open_ : time < timeline.earliestStart request duration after + duration) : timeline.canSatisfyAt time request := by
  obtain ⟨_,fits,clear⟩ := earliestStart_found regular telling idle positive _ trivial (fun _ _ _ _ => trivial) before
  generalize timeline.earliestStart request duration after = start at fits clear begun open_
  -- What is held rises only where an interval starts: the last such instant up to this one decides.
  obtain ⟨last,listed,latest⟩ := ((insert start ((timeline.intervals.map _).filter
    fun t => start < t ∧ t ≤ time).toFinset)).exists_max_image id ⟨start,by simp⟩
  have reached : last ≤ time ∧ timeline.canSatisfyAt last request := by
    rcases Finset.mem_insert.mp listed with rfl | later
    · exact ⟨begun,fits⟩
    obtain ⟨begins,inside⟩ := mem_filter.mp (mem_toFinset.mp later)
    obtain ⟨i,member,rfl⟩ := mem_map.mp begins
    obtain ⟨ahead,past⟩ := of_decide_eq_true inside
    exact ⟨past,bruteBlocker_none regular.sorted clear i member ahead (ahead.trans (regular.lasting i member))
      (past.trans_lt open_)⟩
  refine canSatisfyAt_mono regular telling small (fun i inside begins lasts => ⟨?_,reached.1.trans_lt lasts⟩) reached.2
  rcases le_or_gt _ start with early | ahead
  · exact early.trans (latest start (by simp))
  · exact latest _ (Finset.mem_insert_of_mem (mem_toFinset.mpr (mem_filter.mpr
      ⟨mem_map_of_mem inside,decide_eq_true ⟨ahead,begins⟩⟩)))

omit idle in
theorem bruteRound_passes {maxCheck candidate next : Time} (stuck : ∀ i ∈ timeline.intervals, candidate < i.start →
      timeline.canSatisfyAt i.start request = false →
      ∀ time, i.start ≤ time → time < i.end_ → timeline.canSatisfyAt time request = false)
    (moved : timeline.bruteRound request duration maxCheck candidate = .inl next) :
    candidate ≤ next ∧ ∀ sooner, candidate ≤ sooner → sooner < next → Blocked timeline request duration sooner := by
  unfold NodeTimeline.bruteRound at moved
  split at moved
  · cases moved
  split at moved
  · split at moved
    next jump found =>
      cases moved
      obtain ⟨i,inside,begins,early,short,rfl⟩ := bruteBlocker_some found
      refine ⟨(begins.trans (regular.lasting i inside)).le,fun sooner new most => ?_⟩
      rcases le_or_gt sooner i.start with covers | beyond
      · exact ⟨i.start,covers,early.trans_le (add_le_add_left new duration),short⟩
      · exact ⟨sooner,le_rfl,lt_add_of_pos_right _ positive,stuck i inside begins short sooner beyond.le most⟩
    · cases moved
  next short =>
    split at moved
    next end_ found =>
      cases moved
      obtain ⟨listed,least⟩ := List.min?_eq_some_iff.mp found
      have active : ∀ i ∈ timeline.intervals, i.start ≤ candidate → candidate < i.end_ → next ≤ i.end_ := by
        intro i inside begun lasts
        refine least i.end_ (mem_map_of_mem (mem_filter.mpr ⟨mem_filter.mpr ⟨inside,?_⟩,?_⟩))
        · exact decide_eq_true begun
        · exact decide_eq_true lasts
      obtain ⟨i,inside,rfl⟩ := mem_map.mp listed
      have lasts : candidate < i.end_ := of_decide_eq_true (mem_filter.mp inside).2
      refine ⟨lasts.le,fun sooner new most => ⟨sooner,le_rfl,lt_add_of_pos_right _ positive,?_⟩⟩
      -- Nothing held at the candidate ends before.
      refine Bool.eq_false_iff.mpr fun fits => short ?_
      exact canSatisfyAt_mono regular telling small
        (fun j member begun lasts => ⟨begun.trans new,most.trans_le (active j member begun lasts)⟩) fits
    · cases moved

end

end

section

def steppedTimeline : NodeTimeline where
  node := Node.new "n1" { cpus := 8 }
  intervals := [⟨0,10,{ cpus := 4 },none⟩,⟨5,100,{ cpus := 4 },none⟩]

theorem regular_stepped : steppedTimeline.Regular where
  sorted := by decide
  lasting := by decide
  room := fun meter => by cases meter <;> simp [steppedTimeline,Meter.read,Meter.bound,countAt,devicesOf,u32Max]

theorem sweep_agrees_stepped : Meter.cpus.read (visits steppedTimeline.intervals [0,7]).used =
      Meter.cpus.read (steppedTimeline.accumulatedAt 7) ∧
    steppedTimeline.bruteEarliestStart { cpus := 4 } 20 0 = some (steppedTimeline.earliestStart { cpus := 4 } 20 0) := by
  obtain ⟨counted,agree⟩ := sweep_agrees regular_stepped _ (show (0 : Int) < 20 by decide) 0
  exact ⟨counted [0] 7 (by decide) .cpus,agree (by simp [steppedTimeline,Telling,deviceIds,devicesOf])⟩

def emptyEntry : NodeTimeline where
  node := Node.new "n1" { cpus := 8, gpus := [⟨0,"mi300x",0,[],.pcie,0,none⟩] }
  intervals := [⟨0,10,{ devices := (∅ : Table String _).insert "gpu" [⟨0,1⟩] },none⟩,
    ⟨0,20,{ devices := (∅ : Table String _).insert "gpu" [⟨7,0⟩] },none⟩]

/-- The sweep drops the empty entry when the other interval ends, and then the node lists every id held again. -/
theorem empty_entry_parts : emptyEntry.Regular ∧
    emptyEntry.earliestStart { gpus := [⟨0,"any",0,[],.pcie,0,none⟩] } 5 0 = 10 ∧
    emptyEntry.bruteEarliestStart { gpus := [⟨0,"any",0,[],.pcie,0,none⟩] } 5 0 = some 20 := by
  refine ⟨⟨by decide,by decide,fun meter => ?_⟩,by decide +kernel,by decide +kernel⟩
  cases meter with
  | cpus => decide
  | memory => decide
  | device name id =>
    simp only [emptyEntry,map_cons,Meter.read,devicesOf,Table.find_insert]
    have wide : 1 ≤ u64Max := by decide
    split
    · simp only [Option.getD_some,countAt,map_cons,map_nil,sum_cons,sum_nil,Meter.bound]
      split <;> split <;> omega
    · simp [countAt]

end

end Spur.Sched
