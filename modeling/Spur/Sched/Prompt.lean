import Spur.Library.Front
import Spur.Sched.Planning

/-! A job that finds enough quiet nodes starts at once. -/
namespace Spur.Sched
open Spur Spur.Library List

section

variable {timeline : NodeTimeline} {request : ResourceSet} {duration : Duration} {now : Time}

theorem earliestStart_of_quiet (lasts : 0 < duration) (quiet : ∀ i ∈ timeline.intervals, now + duration ≤ i.start) :
    timeline.earliestStart request duration now = now := by
  have later : ∀ i ∈ timeline.intervals, now < i.start :=
    fun i listed => (lt_add_of_pos_right now lasts).trans_le (quiet i listed)
  have still : AllocationSweep.advanceTo ⟨{},timeline.intervals,[]⟩ now = ⟨{},timeline.intervals,[]⟩ := by
    unfold AllocationSweep.advanceTo
    cases slots : timeline.intervals with
    | nil => rfl
    | cons first rest =>
      have ahead := later first (slots ▸ mem_cons_self)
      simp only [AllocationSweep.enter,if_neg ahead.not_ge,AllocationSweep.leave]
  have none_ : timeline.intervals.takeWhile (fun i => i.start < now + duration) = [] := by
    cases slots : timeline.intervals with
    | nil => rfl
    | cons first rest =>
      have ahead := quiet first (slots ▸ mem_cons_self)
      exact takeWhile_cons_of_neg (by simpa using ahead)
  have first : timeline.startRound request duration (now + maxLookahead)
      (now,AllocationSweep.new timeline.intervals now) = .inr now := by
    unfold NodeTimeline.startRound AllocationSweep.new
    dsimp only
    rw [if_neg lt_lookahead.not_gt,still,still,none_]
    split
    · rfl
    · rfl
  have answer := timeline.earliestStart_answer request duration now
  rw [advance_first first] at answer
  exact (Option.some.inj answer).symm

end

section

variable {spread : Bool}

theorem ahead_start {a b : Ranked} (before : Ranked.ahead spread a b) : a.start ≤ b.start := by
  unfold Ranked.ahead at before
  split at before
  · exact (of_decide_eq_true before).le
  next same => exact (not_not.mp same).le

instance (spread : Bool) : Std.Total fun a b : Ranked => Ranked.ahead spread a b = true := by
  refine ⟨fun a b => ?_⟩
  unfold Ranked.ahead
  grind

instance (spread : Bool) : IsTrans Ranked fun a b => Ranked.ahead spread a b = true := by
  refine ⟨fun a b c => ?_⟩
  unfold Ranked.ahead
  grind

end

section

variable {reservations : List Reservation} {job : PendingJob} {gate : HandoffGate} {now : Time}
  {timelines : List NodeTimeline} {select : Option (List String → Nat → List String)}

theorem gate_unblocked {jobId : JobId} {node : String} (none_ : gate.blockers jobId node = []) :
    gate.hides jobId node = false ∧ gate.floor jobId node now = now := by
  unfold HandoffGate.hides HandoffGate.floor
  rw [none_]
  exact ⟨rfl,rfl⟩

def quiet (reservations : List Reservation) (job : PendingJob) (gate : HandoffGate) (now : Time)
    (candidate : NodeTimeline × Nat) : Bool :=
  candidate.1.intervals.all (fun i => now + jobDuration job.spec ≤ i.start) &&
    gate.floor job.jobId candidate.1.node.name now == now &&
    (reservationBlocker reservations job candidate.1.node.name now (jobDuration job.spec)).isNone

/-- The candidates are taken in the order of their starts: no node is listed to come first and none is moved
for locality. -/
def startOrder (select : Option (List String → Nat → List String)) (job : PendingJob) : Bool :=
  !(NodePlacement.new job).nodelistIsAdditive && (select.isNone || decide (neededNodes job ≤ 1) ||
    !(job.spec.topology == some "tree" || job.spec.topology == some "block"))

/-- The job takes the same on each node, and finds as many quiet nodes as it needs: among others if candidates are
taken by their starts, else all of them. -/
structure Prompt (reservations : List Reservation) (select : Option (List String → Nat → List String)) (now : Time)
    (pass : Pass) (job : PendingJob) : Prop where
  even : heterogeneous job = false
  lasts : 0 < jobDuration job.spec
  enough : neededNodes job ≤ (findSuitableNodes reservations job pass.gate now pass.timelines).countP
    (quiet reservations job pass.gate now)
  order : startOrder select job ∨ ∀ candidate ∈ findSuitableNodes reservations job pass.gate now pass.timelines,
    quiet reservations job pass.gate now candidate

theorem rank_of_quiet (lasts : 0 < jobDuration job.spec) {candidate : NodeTimeline × Nat}
    (free : quiet reservations job gate now candidate) : (rank reservations job gate now candidate).start = now := by
  simp only [quiet,Bool.and_eq_true,all_eq_true,decide_eq_true_eq,beq_iff_eq,Option.isNone_iff_eq_none] at free
  unfold rank
  dsimp only
  rw [free.1.2]
  exact earliestValidStart_of_free (earliestStart_of_quiet lasts free.1.1) free.2

theorem pickNodes_of_startOrder (order : startOrder select job) (ranked : List Ranked) : pickNodes job select ranked =
    (ranked.insertionSort fun a b => Ranked.ahead job.spec.spreadJob a b).take (neededNodes job) := by
  simp only [startOrder,Bool.and_eq_true,Bool.not_eq_true'] at order
  obtain ⟨separate,unmoved⟩ := order
  unfold pickNodes
  dsimp only
  rw [separate,if_neg Bool.false_ne_true]
  cases select with
  | none => rfl
  | some select =>
    have kept : (decide (neededNodes job > 1) && (job.spec.topology == some "tree" || job.spec.topology == some "block")) =
        false := by
      rw [Bool.and_eq_false_iff]
      simp only [Bool.or_eq_true,Bool.not_eq_true'] at unmoved
      exact unmoved.imp (fun few => by simpa using few) id
    dsimp only
    rw [kept,if_neg Bool.false_ne_true]

theorem picked_soon (enough : neededNodes job ≤ (candidates reservations job gate now timelines).countP
      fun ranked => decide (ranked.start ≤ now))
    (order : startOrder select job ∨ ∀ ranked ∈ candidates reservations job gate now timelines, ranked.start ≤ now) :
    ∀ ranked ∈ pickNodes job select (candidates reservations job gate now timelines), ranked.start ≤ now := by
  intro ranked inside
  rcases order with order | all
  · rw [pickNodes_of_startOrder order] at inside
    have fronted : Fronted (fun ranked : Ranked => decide (ranked.start ≤ now))
        ((candidates reservations job gate now timelines).insertionSort
          fun a b => Ranked.ahead job.spec.spreadJob a b) := by
      refine fronted_insertionSort (fun a b before early => ?_)
      rw [decide_eq_true_eq] at early ⊢
      exact (ahead_start before).trans early
    rw [← (perm_insertionSort (fun a b => Ranked.ahead _ a b = true) _).countP_eq] at enough
    simpa using fronted.of_mem_take enough inside
  · exact all ranked (pickNodes_subperm.subset inside)

theorem commonNext_of_prompt {picked : List Ranked}
    (picks : picked = pickNodes job select (candidates reservations job gate now timelines))
    (prompt : ∀ ranked ∈ picked, ranked.start ≤ now) : commonNext reservations job picked now = now := by
  rcases @commonNext_mem _ job picked now with same | ⟨ranked,inside,same⟩
  · exact same
  have early := prompt _ inside
  rw [picks] at inside
  obtain ⟨candidate,_,rfl⟩ := mem_picked inside
  have floor : gate.floor _ _ now = now :=
    le_antisymm (le_earliestValidStart.trans early) le_floor
  unfold rank at early
  dsimp only at early
  rw [floor] at early
  rw [same]
  exact le_antisymm early le_earliestValidStart

theorem placeJob_soon (even : heterogeneous job = false)
    (enough : neededNodes job ≤ (candidates reservations job gate now timelines).countP
      fun ranked => decide (ranked.start ≤ now))
    (order : startOrder select job ∨ ∀ ranked ∈ candidates reservations job gate now timelines, ranked.start ≤ now) :
    ∃ placement, placeJob reservations job gate now timelines select = some placement ∧ placement.start = now := by
  obtain ⟨picked,picks⟩ : ∃ picked, picked = pickNodes job select (candidates reservations job gate now timelines) := ⟨_,rfl⟩
  have starts := picked_soon enough order
  rw [← picks] at starts
  have first : firstStart now picked = now := by
    refine le_antisymm ?_ (picks ▸ le_firstStart)
    unfold firstStart
    cases largest : (picked.map Ranked.start).max? with
    | none => exact le_rfl
    | some latest =>
      obtain ⟨ranked,inside,rfl⟩ := mem_map.mp (List.max?_mem largest)
      exact starts ranked inside
  have answered : commonRound reservations job now picked now =
      .inr (some (now,picked.foldl (fun allocs r => allocs.insert r.name (uniformAlloc job r now)) ∅)) := by
    unfold commonRound
    rw [commonNext_of_prompt picks starts,if_neg (fun early => early.1 rfl),even,if_pos (by rfl)]
  have ends : advance _ (commonFuel reservations picked) _ = _ :=
    (congrArg _ first).trans (advance_first answered)
  exact ⟨⟨picked,now,_⟩,placeJob_some.mpr ⟨enough.trans countP_le_length,picks,ends⟩,rfl⟩

theorem placeJob_prompt {pass : Pass} (prompt : Prompt reservations select now pass job) :
    ∃ placement, placeJob reservations job pass.gate now pass.timelines select = some placement ∧
      placement.start = now := by
  have soon : ∀ candidate, quiet _ job _ now candidate →
      (rank reservations job pass.gate now candidate).start ≤ now := fun _ free => (rank_of_quiet prompt.lasts free).le
  refine placeJob_soon prompt.even (prompt.enough.trans ?_) (prompt.order.imp_right fun all ranked inside => ?_)
  · unfold candidates
    rw [countP_map]
    refine countP_mono_left fun candidate _ free => ?_
    simpa using soon candidate free
  · obtain ⟨candidate,listed,rfl⟩ := mem_map.mp inside
    exact soon candidate (all candidate listed)

theorem leftOut_single {cluster : Cluster} (unbound : requiresGpuProperties job.spec = false) :
    leftOut cluster now [job] (scheduleJobs cluster now [job] 0) job = false := by
  unfold leftOut
  cases key : hetKey job with
  | none => rfl
  | some group =>
    have single : (hetMembers [job] group).length ≤ 1 := length_filter_le _ _
    have members : ∀ member ∈ hetMembers [job] group, requiresGpuProperties member.spec = false := by
      intro member inside
      rw [mem_singleton.mp (mem_filter.mp inside).1]
      exact unbound
    refine decide_eq_false fun skipped => ?_
    have before := (mem_checkedPass.2.mp skipped).resolve_right fun short => single.not_gt short.1.2
    obtain ⟨_,needs⟩ := mem_filter.mp (mem_toFinset.mp before)
    rw [Bool.and_eq_true,any_eq_true] at needs
    obtain ⟨member,inside,gpu⟩ := needs.2
    rw [members member inside] at gpu
    cases gpu

theorem planAt_of_placeJob {cluster : Cluster} {pending : List PendingJob} {index : Nat} {placement : Placement}
    (kept : leftOut cluster now pending (scheduleJobs cluster now pending index) job = false)
    (valid : constraintOk cluster.fabric.isSome job.spec)
    (unbound : cluster.fabric.isSome → requiresGpuProperties job.spec = false)
    (found : placeJob cluster.reservations job (scheduleJobs cluster now pending index).gate now
      (scheduleJobs cluster now pending index).timelines cluster.selectLocalNodes = some placement)
    (start : placement.start = now) :
    planAt cluster now pending index job = some ⟨placement.names,placement.start,placement.perNodeAlloc⟩ := by
  have plain : plainPlan cluster now (checkedPass cluster now pending (scheduleJobs cluster now pending index) job) job =
      some ⟨placement.names,placement.start,placement.perNodeAlloc⟩ := by
    unfold plainPlan
    rw [checkedPass_frame.1,checkedPass_frame.2.1,found]
    exact if_pos (.inl start.le)
  unfold planAt planOf
  rw [kept,valid,if_neg Bool.false_ne_true]
  cases fabric : cluster.fabric with
  | none => exact plain
  | some context =>
    rw [fabric] at unbound
    dsimp only
    rw [unbound rfl]
    exact plain

theorem planAt_prompt {cluster : Cluster} {pending : List PendingJob} {index : Nat}
    (kept : leftOut cluster now pending (scheduleJobs cluster now pending index) job = false)
    (valid : constraintOk cluster.fabric.isSome job.spec)
    (unbound : cluster.fabric.isSome → requiresGpuProperties job.spec = false)
    (prompt : Prompt cluster.reservations cluster.selectLocalNodes now (scheduleJobs cluster now pending index) job) :
    ∃ plan, planAt cluster now pending index job = some plan ∧ plan.start = now := by
  obtain ⟨placement,found,start⟩ := placeJob_prompt prompt
  exact ⟨_,planAt_of_placeJob kept valid unbound found start,start⟩

end

end Spur.Sched
