import Spur.Sched.Dispatch

/-! Where plans come from: a placement found at the instant of the pass, on nodes or on the GPUs of a group. -/
namespace Spur.Sched
open Spur Spur.Library List

section

variable {reservations : List Reservation} {job : PendingJob} {gate : HandoffGate} {now : Time}
  {timelines : List NodeTimeline} {select : Option (List String → Nat → List String)} {placement : Placement}

theorem placeJob_floor (found : placeJob reservations job gate now timelines select = some placement) {ranked : Ranked}
    (inside : ranked ∈ placement.picked) : gate.floor job.jobId ranked.name now ≤ placement.start := by
  obtain ⟨-,picks,ends_⟩ := placeJob_some.mp found
  have first : ranked.start ≤ firstStart now placement.picked := by
    have member : ranked.start ∈ placement.picked.map _ := mem_map_of_mem inside
    unfold firstStart
    cases largest : (placement.picked.map Ranked.start).max? with
    | none =>
      rw [List.max?_eq_none_iff.mp largest] at member
      cases member
    | some latest => exact (List.max?_eq_some_iff.mp largest).2 _ member
  rw [picks] at inside first ends_
  obtain ⟨suitable,_,rfl⟩ := mem_picked inside
  exact le_rank_start.trans (first.trans (commonStart_spec le_firstStart ends_).1)

end

section

variable {cluster : Cluster} {now start : Time} {pass : Pass} {job : PendingJob} {context : FabricContext}
  {constraints : Constraints} {block : Option FabricBlock} {allowed : List (String × Nat)} {best planned : Planned}
  {floor : Time}

/-- A plan at the instant of the pass: a placement of the job, or of the job without its GPU terms on the
timelines of one group of GPUs. -/
inductive Seat (cluster : Cluster) (now : Time) (pass : Pass) (job : PendingJob) (names : List String) : Prop where
  | plain {placement : Placement} (unbound : requiresGpuProperties job.spec = false)
      (found : placeJob cluster.reservations job pass.gate now pass.timelines cluster.selectLocalNodes = some placement)
      (atOnce : placement.start ≤ now) (same : placement.names = names)
  | bound {context : FabricContext} {constraints : Constraints} {demand : GpuDemand}
      {group : Option FabricBlock × List (String × Nat)} {placement : Placement}
      (fabric : cluster.fabric = some context) (parsed : Constraints.parse job.spec.constraint = some constraints)
      (asks : (resolveGpuDemand job.spec).toOption = some demand)
      (tried : group ∈ triedGroups cluster context constraints demand) (needs : requiresGpuProperties job.spec)
      (found : placeJob cluster.reservations (blockJob job constraints) pass.gate now
        (pass.timelines.map (project job constraints group.2)) cluster.selectLocalNodes = some placement)
      (atOnce : placement.start ≤ now) (same : placement.names = names)

def Seats (cluster : Cluster) (now : Time) (pass : Pass) (job : PendingJob) (planned : Planned) : Prop :=
  ∀ assignment start, planned = some (assignment,start) → start ≤ now → Seat cluster now pass job assignment.nodes

theorem planGpuJob_seats (fresh : ∀ timeline ∈ pass.timelines, ∀ i ∈ timeline.intervals, i.jobId ≠ some job.jobId)
    (fabric : cluster.fabric = some context) (needs : requiresGpuProperties job.spec) :
    Seats cluster now pass job (planGpuJob cluster context now pass job) := by
  intro assignment start planned atOnce
  obtain @⟨constraints,demand,group,floor,placement,parsed,asks,tried,from_,trialed⟩ := planGpuJob_bound fresh _ planned
  have begins : start = placement.start := trialed.start
  have later : floor ≤ start := (placeJob_placed trialed.found).later.trans begins.ge
  have exactly : floor = now := le_antisymm (later.trans atOnce) from_
  subst exactly
  exact .bound fabric parsed asks tried needs trialed.found (begins ▸ atOnce) (trialed.nodes (begins ▸ atOnce)).symm

variable {pending : List PendingJob} {plan : Plan}

theorem planOf_seat (fresh : ∀ timeline ∈ pass.timelines, ∀ i ∈ timeline.intervals, i.jobId ≠ some job.jobId)
    (planned : planOf cluster now pending pass job = some plan) (atOnce : plan.start ≤ now) :
    Seat cluster now (checkedPass cluster now pending pass job) job plan.names := by
  rcases planOf_cases planned with ⟨unbound,found⟩ | ⟨context,fabric,needs,found⟩
  · obtain ⟨placement,placed,rfl⟩ := plainPlan_placed found
    exact .plain unbound placed atOnce rfl
  obtain ⟨⟨assignment,start⟩,best,rfl⟩ := Option.map_eq_some_iff.mp found
  refine planGpuJob_seats ?_ fabric needs assignment start best atOnce
  rw [checkedPass_frame.1]
  exact fresh

end

section

variable {cluster : Cluster} {now : Time} {pending : List PendingJob}

theorem scheduleJobs_succ {index : Nat} {job : PendingJob} (at_ : pending[index]? = some job) :
    scheduleJobs cluster now pending (index + 1) =
      scheduleJob cluster now pending (scheduleJobs cluster now pending index) job := by
  unfold scheduleJobs
  rw [take_add_one,at_,foldl_append]
  rfl

theorem scheduleJobs_past {index : Nat} (past : pending[index]? = none) :
    scheduleJobs cluster now pending (index + 1) = scheduleJobs cluster now pending index := by
  unfold scheduleJobs
  rw [take_add_one,past,Option.toList_none,append_nil]

def planAt (cluster : Cluster) (now : Time) (pending : List PendingJob) (index : Nat) (job : PendingJob) : Option Plan :=
  planOf cluster now pending (scheduleJobs cluster now pending index) job

theorem turn_effect {index : Nat} {job : PendingJob} (at_ : pending[index]? = some job) :
    Effect now job (checkedPass cluster now pending (scheduleJobs cluster now pending index) job)
      (planAt cluster now pending index job) (scheduleJobs cluster now pending (index + 1)) := by
  rw [scheduleJobs_succ at_]
  exact scheduleJob_effect fun _ _ => planGpuJob_own

theorem mem_assignments {maxJobs : Nat} {assignment : Assignment} :
    assignment ∈ (scheduleJobs cluster now pending maxJobs).assignments ↔
      ∃ index job plan, index < maxJobs ∧ pending[index]? = some job ∧ planAt cluster now pending index job = some plan ∧
        plan.start ≤ now ∧ assignment = ⟨job.jobId,plan.names,plan.perNodeAlloc⟩ := by
  induction maxJobs with
  | zero => simp [scheduleJobs]
  | succ count ih =>
    cases at_ : pending[count]? with
    | none =>
      rw [scheduleJobs_past at_,ih]
      constructor
      · rintro ⟨index,job,plan,early,found⟩
        exact ⟨index,job,plan,early.trans (Nat.lt_succ_self count),found⟩
      rintro ⟨index,job,plan,early,found⟩
      rcases Nat.lt_succ_iff_lt_or_eq.mp early with before | rfl
      · exact ⟨index,job,plan,before,found⟩
      · rw [at_] at found
        cases found.1
    | some job =>
      have effect := @turn_effect cluster now pending count job at_
      rw [effect.assignments,checkedPass_frame.2.2,mem_append,ih]
      constructor
      · rintro (⟨index,other,plan,early,found⟩ | new)
        · exact ⟨index,other,plan,early.trans (Nat.lt_succ_self count),found⟩
        · cases planned : planAt cluster now pending count job with
          | none =>
            rw [planned] at new
            cases new
          | some plan =>
            rw [planned,assigned] at new
            split at new
            next atOnce => exact ⟨count,job,plan,Nat.lt_succ_self count,at_,planned,atOnce,mem_singleton.mp new⟩
            · cases new
      · rintro ⟨index,other,plan,early,there,planned,atOnce,rfl⟩
        rcases Nat.lt_succ_iff_lt_or_eq.mp early with before | rfl
        · exact .inl ⟨index,other,plan,before,there,planned,atOnce,rfl⟩
        rw [at_] at there
        cases there
        rw [planned,assigned,if_pos atOnce]
        exact .inr mem_cons_self

theorem scheduleJobs_timelines {index : Nat} :
    (scheduleJobs cluster now pending index).timelines.map NodeTimeline.node = cluster.nodes ∧
      ∀ timeline ∈ (scheduleJobs cluster now pending index).timelines, ∀ i ∈ timeline.intervals, ∀ jobId,
        i.jobId = some jobId → ∃ before < index, (pending[before]?).map (·.jobId) = some jobId := by
  induction index with
  | zero =>
    refine ⟨seed_nodes,fun timeline inside i listed jobId own => ?_⟩
    obtain ⟨node,_,rfl⟩ := mem_map.mp inside
    rw [(mem_seed.mp listed).2] at own
    cases own
  | succ index ih =>
    have earlier : ∀ jobId, (∃ before < index, (pending[before]?).map (·.jobId) = some jobId) →
        ∃ before < index + 1, (pending[before]?).map _ = some jobId :=
      fun jobId ⟨before,early,found⟩ => ⟨before,early.trans (Nat.lt_succ_self index),found⟩
    cases at_ : pending[index]? with
    | none =>
      rw [scheduleJobs_past at_]
      exact ⟨ih.1,fun timeline inside i listed jobId own => earlier jobId (ih.2 timeline inside i listed jobId own)⟩
    | some job =>
      have grown := (@turn_effect cluster now pending index job at_).slots
      rw [checkedPass_frame.1] at grown
      refine ⟨grown.nodes.trans ih.1,fun timeline inside i listed jobId own => ?_⟩
      rcases grown.slots inside listed with ⟨old,there,within⟩ | ⟨mine,-⟩
      · exact earlier jobId (ih.2 old there i within jobId own)
      · refine ⟨index,Nat.lt_succ_self index,?_⟩
        rw [at_,← own,mine]
        rfl

theorem scheduleJobs_fresh (distinct : (pending.map (·.jobId)).Nodup) {index : Nat} {job : PendingJob}
    (at_ : pending[index]? = some job) : ∀ timeline ∈ (scheduleJobs cluster now pending index).timelines,
      ∀ i ∈ timeline.intervals, i.jobId ≠ some job.jobId := by
  intro timeline inside i listed own
  obtain ⟨before,early,found⟩ := scheduleJobs_timelines.2 timeline inside i listed _ own
  have first : (pending.map (·.jobId))[before]? = some job.jobId := by rw [List.getElem?_map,found]
  have second : (pending.map (·.jobId))[index]? = some job.jobId := by rw [List.getElem?_map,at_]; rfl
  have same := (List.getElem?_inj (List.getElem?_eq_some_iff.mp first).1 distinct).mp (first.trans second.symm)
  omega

end

section

variable {cluster : Cluster} {now : Time} {pending : List PendingJob}

def slotAt (cluster : Cluster) (now : Time) (pending : List PendingJob) (turn : Nat) (name : String) :
    Option Interval := do
  let job ← pending[turn]?
  let plan ← planAt cluster now pending turn job
  let alloc ← plan.perNodeAlloc[name]?
  some ⟨plan.start,plan.start + jobDuration job.spec,alloc,some job.jobId⟩

theorem scheduleJobs_slots (names : (cluster.nodes.map Node.name).Nodup) {index : Nat} :
    ∀ timeline ∈ (scheduleJobs cluster now pending index).timelines,
      timeline.intervals.Pairwise (fun a b => a.start ≤ b.start) ∧ ∀ i, i ∈ timeline.intervals ↔
        i ∈ (seed cluster now timeline.node).intervals ∨
          ∃ turn < index, slotAt cluster now pending turn timeline.node.name = some i := by
  induction index with
  | zero =>
    intro timeline inside
    obtain ⟨node,_,rfl⟩ := mem_map.mp inside
    refine ⟨?_,fun i => ?_⟩
    · rw [seed_intervals]
      split <;> simp
    · rw [seed_node]
      exact ⟨.inl,fun either => either.resolve_right fun ⟨_,early,_⟩ => absurd early (Nat.not_lt_zero _)⟩
  | succ index ih =>
    have apart : (nodeNames (scheduleJobs cluster now pending index).timelines).Nodup := by
      rwa [nodeNames_nodes,scheduleJobs_timelines.1]
    have unmoved : ∀ timeline ∈ (scheduleJobs cluster now pending index).timelines,
        slotAt cluster now pending index timeline.node.name = none →
        timeline.intervals.Pairwise (fun a b => a.start ≤ b.start) ∧ ∀ i, i ∈ timeline.intervals ↔
          i ∈ (seed cluster now timeline.node).intervals ∨
            ∃ turn < index + 1, slotAt cluster now pending turn timeline.node.name = some i := by
      intro timeline inside absent
      refine ⟨(ih timeline inside).1,fun i => ((ih timeline inside).2 i).trans (or_congr_right ?_)⟩
      refine ⟨fun ⟨turn,early,slot⟩ => ⟨turn,early.trans (Nat.lt_succ_self _),slot⟩,fun ⟨turn,early,slot⟩ => ?_⟩
      rcases Nat.lt_succ_iff_lt_or_eq.mp early with before | rfl
      · exact ⟨turn,before,slot⟩
      · rw [absent] at slot
        cases slot
    cases at_ : pending[index]? with
    | none =>
      rw [scheduleJobs_past at_]
      exact fun timeline inside => unmoved timeline inside (by simp [slotAt,at_])
    | some job =>
      have booked := (@turn_effect cluster now pending index job at_).timelines
      rw [checkedPass_frame.1] at booked
      rw [booked apart]
      cases planned : planAt cluster now pending index job with
      | none => exact fun timeline inside => unmoved timeline inside (by simp [slotAt,at_,planned])
      | some plan =>
        intro timeline inside
        rcases book_mem inside with ⟨old,there,alloc,given_,rfl⟩ | ⟨there,absent⟩
        · refine ⟨pairwise_insertionSort _ _,fun i => ?_⟩
          have slot : slotAt cluster now pending index old.node.name =
              some ⟨plan.start,plan.start + jobDuration job.spec,alloc,some job.jobId⟩ := by
            simp [slotAt,at_,planned,given_]
          rw [(old.reserveForJob_perm _ _ _ _).mem_iff,mem_cons,(ih old there).2 i]
          constructor
          · rintro (rfl | seeded | ⟨turn,early,found⟩)
            · exact .inr ⟨index,Nat.lt_succ_self _,slot⟩
            · exact .inl seeded
            · exact .inr ⟨turn,early.trans (Nat.lt_succ_self _),found⟩
          · rintro (seeded | ⟨turn,early,found⟩)
            · exact .inr (.inl seeded)
            · rcases Nat.lt_succ_iff_lt_or_eq.mp early with before | rfl
              · exact .inr (.inr ⟨turn,before,found⟩)
              · exact .inl (Option.some.inj (found.symm.trans slot))
        · exact unmoved timeline there (by simp [slotAt,at_,planned,absent])

end

end Spur.Sched
