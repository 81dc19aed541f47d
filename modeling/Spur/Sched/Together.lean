import Spur.Sched.Prompt

/-! Heterogeneous jobs: a group whose components are all prompt starts as a whole. -/
namespace Spur.Sched
open Spur Spur.Library List

section

variable {cluster : Cluster} {now : Time} {pending : List PendingJob} {group : JobId} {index later : Nat} {job : PendingJob}

def skippedAt (cluster : Cluster) (now : Time) (pending : List PendingJob) (index : Nat) (job : PendingJob) : Finset JobId :=
  (checkedPass cluster now pending (scheduleJobs cluster now pending index) job).skippedGroups

theorem skippedAt_next (at_ : pending[index]? = some job) :
    (scheduleJobs cluster now pending (index + 1)).skippedGroups = skippedAt cluster now pending index job :=
  (turn_effect at_).skipped

theorem skipped_step {index : Nat} : (scheduleJobs cluster now pending index).skippedGroups ⊆
      (scheduleJobs cluster now pending (index + 1)).skippedGroups ∧
    (scheduleJobs cluster now pending index).checkedGroups ⊆
      (scheduleJobs cluster now pending (index + 1)).checkedGroups ∧
    ∀ group ∈ (scheduleJobs cluster now pending (index + 1)).skippedGroups,
      group ∈ (scheduleJobs cluster now pending index).checkedGroups →
      group ∈ (scheduleJobs cluster now pending index).skippedGroups := by
  cases at_ : pending[index]? with
  | none =>
    rw [scheduleJobs_past at_]
    exact ⟨Finset.Subset.refl _,Finset.Subset.refl _,fun _ inside _ => inside⟩
  | some job =>
    have effect := @turn_effect cluster now pending index job at_
    rw [effect.skipped,effect.checked]
    refine ⟨fun group old => mem_checkedPass.2.mpr (.inl old),fun group old => mem_checkedPass.1.mpr (.inl old),
      fun group inside checked => ?_⟩
    exact (mem_checkedPass.2.mp inside).resolve_right fun new => new.2.1 checked

theorem skipped_mono (order : index ≤ later) : (scheduleJobs cluster now pending index).skippedGroups ⊆
    (scheduleJobs cluster now pending later).skippedGroups := by
  induction order with
  | refl => exact Finset.Subset.refl _
  | step _ ih => exact ih.trans skipped_step.1

theorem checked_mono (order : index ≤ later) : (scheduleJobs cluster now pending index).checkedGroups ⊆
    (scheduleJobs cluster now pending later).checkedGroups := by
  induction order with
  | refl => exact Finset.Subset.refl _
  | step _ ih => exact ih.trans skipped_step.2.1

theorem skipped_settled (order : index ≤ later) (checked : group ∈ (scheduleJobs cluster now pending index).checkedGroups)
    (inside : group ∈ (scheduleJobs cluster now pending later).skippedGroups) :
    group ∈ (scheduleJobs cluster now pending index).skippedGroups := by
  induction order with
  | refl => exact inside
  | step order ih => exact ih (skipped_step.2.2 group inside (checked_mono order checked))

theorem checked_of_turn (at_ : pending[index]? = some job) (mine : hetKey job = some group)
    (several : 1 < (hetMembers pending group).length) :
    group ∈ (scheduleJobs cluster now pending (index + 1)).checkedGroups := by
  rw [(turn_effect at_).checked]
  exact mem_checkedPass.1.mpr (.inr ⟨mine,several⟩)

theorem verdict_iff {first second : PendingJob} (atFirst : pending[index]? = some first) (mineFirst : hetKey first = some group)
    (several : 1 < (hetMembers pending group).length) (order : index < later) :
    group ∈ skippedAt cluster now pending index first ↔ group ∈ skippedAt cluster now pending later second := by
  constructor
  · intro inside
    rw [← skippedAt_next atFirst] at inside
    exact mem_checkedPass.2.mpr (.inl (skipped_mono order inside))
  · intro inside
    have checked := @checked_of_turn cluster now pending group index first atFirst mineFirst several
    have before := (mem_checkedPass.2.mp inside).resolve_right fun new => new.2.1 (checked_mono order checked)
    rw [← skippedAt_next atFirst]
    exact skipped_settled order checked before

def Started (cluster : Cluster) (now : Time) (pending : List PendingJob) (maxJobs : Nat) (job : PendingJob) : Prop :=
  ∃ assignment ∈ (scheduleJobs cluster now pending maxJobs).assignments, assignment.jobId = job.jobId

variable {maxJobs : Nat}

theorem Started.turn (ids : (pending.map (·.jobId)).Nodup) (mine : hetKey job = some group) (at_ : pending[index]? = some job)
    (started : Started cluster now pending maxJobs job) :
    index < maxJobs ∧ group ∉ skippedAt cluster now pending index job := by
  obtain ⟨assignment,given_,own⟩ := started
  obtain ⟨turn,other,plan,within,there,planned,_,rfl⟩ := mem_assignments.mp given_
  have same : turn = index := by
    have first : (pending.map (·.jobId))[turn]? = some job.jobId := by
      rw [List.getElem?_map,there]
      exact congrArg some own
    have second : (pending.map (·.jobId))[index]? = some job.jobId := by rw [List.getElem?_map,at_]; rfl
    exact (List.getElem?_inj (List.getElem?_eq_some_iff.mp first).1 ids).mp (first.trans second.symm)
  subst same
  cases there.symm.trans at_
  refine ⟨within,fun left => ?_⟩
  unfold planAt planOf leftOut at planned
  unfold skippedAt at left
  rw [mine,Option.elim_some,if_pos (decide_eq_true left)] at planned
  cases planned

theorem started_of_prompt (at_ : pending[index]? = some job) (within : index < maxJobs) (mine : hetKey job = some group)
    (kept : group ∉ skippedAt cluster now pending index job) (valid : constraintOk cluster.fabric.isSome job.spec)
    (unbound : cluster.fabric.isSome → requiresGpuProperties job.spec = false)
    (prompt : Prompt cluster.reservations cluster.selectLocalNodes now (scheduleJobs cluster now pending index) job) :
    Started cluster now pending maxJobs job := by
  have open_ : leftOut cluster now pending (scheduleJobs cluster now pending index) job = false := by
    unfold leftOut
    rw [mine]
    exact decide_eq_false kept
  obtain ⟨plan,planned,start⟩ := planAt_prompt open_ valid unbound prompt
  exact ⟨_,mem_assignments.mpr ⟨index,job,plan,within,at_,planned,start.le,rfl⟩,rfl⟩

/-- What keeps a group whole: a component needs a binding, none is within the limit, the first one finds that some
component has too few candidates, or each is within the limit and prompt when its turn comes. -/
inductive KeptWhole (cluster : Cluster) (now : Time) (pending : List PendingJob) (maxJobs : Nat) (group : JobId) : Prop where
  | unbindable (fabric : cluster.fabric.isSome) {member : PendingJob} (inside : member ∈ hetMembers pending group)
      (needs : requiresGpuProperties member.spec)
  | beyond (each : ∀ index < maxJobs, ∀ job, pending[index]? = some job → hetKey job ≠ some group)
  | incomplete {index : Nat} {job : PendingJob} (at_ : pending[index]? = some job) (mine : hetKey job = some group)
      (first : ∀ before < index, ∀ other, pending[before]? = some other → hetKey other ≠ some group)
      {member : PendingJob} (inside : member ∈ hetMembers pending group)
      (short : (findSuitableNodes cluster.reservations member (scheduleJobs cluster now pending index).gate now
        (scheduleJobs cluster now pending index).timelines).length < member.spec.numNodes)
  | prompt (each : ∀ index job, pending[index]? = some job → hetKey job = some group → index < maxJobs ∧
      constraintOk cluster.fabric.isSome job.spec ∧
      Prompt cluster.reservations cluster.selectLocalNodes now (scheduleJobs cluster now pending index) job)

theorem mem_hetMembers {member : PendingJob} : member ∈ hetMembers pending group ↔
    ∃ index : Nat, pending[index]? = some member ∧ hetKey member = some group := by
  unfold hetMembers
  rw [mem_filter,mem_iff_getElem?,beq_iff_eq]
  exact ⟨fun ⟨⟨index,at_⟩,mine⟩ => ⟨index,at_,mine⟩,fun ⟨index,at_,mine⟩ => ⟨⟨index,at_⟩,mine⟩⟩

theorem skippedAt_of_unbindable (fabric : cluster.fabric.isSome) {member : PendingJob}
    (inside : member ∈ hetMembers pending group) (needs : requiresGpuProperties member.spec) :
    group ∈ skippedAt cluster now pending index job := by
  obtain ⟨turn,at_,mine⟩ := mem_hetMembers.mp inside
  have unbindable : group ∈ unbindableGroups cluster pending := by
    refine mem_toFinset.mpr (mem_filter.mpr ⟨mem_filterMap.mpr ⟨member,mem_of_getElem? at_,mine⟩,?_⟩)
    rw [fabric,Bool.true_and,any_eq_true]
    exact ⟨member,inside,needs⟩
  exact mem_checkedPass.2.mpr (.inl (skipped_mono (Nat.zero_le index) unbindable))

theorem skippedAt_of_short (mine : hetKey job = some group) (several : 1 < (hetMembers pending group).length)
    (new : group ∉ (scheduleJobs cluster now pending index).checkedGroups) {member : PendingJob}
    (inside : member ∈ hetMembers pending group)
    (short : (findSuitableNodes cluster.reservations member (scheduleJobs cluster now pending index).gate now
      (scheduleJobs cluster now pending index).timelines).length < member.spec.numNodes) :
    group ∈ skippedAt cluster now pending index job := by
  exact mem_checkedPass.2.mpr (.inr ⟨⟨mine,several⟩,new,member,inside,short⟩)

theorem unchecked_before (first : ∀ before < index, ∀ other, pending[before]? = some other → hetKey other ≠ some group) :
    group ∉ (scheduleJobs cluster now pending index).checkedGroups := by
  induction index with
  | zero => exact Finset.notMem_empty _
  | succ index ih =>
    have earlier := ih fun before early => first before (early.trans (Nat.lt_succ_self index))
    cases at_ : pending[index]? with
    | none =>
      rw [scheduleJobs_past at_]
      exact earlier
    | some job =>
      have other := first index (Nat.lt_succ_self index) job at_
      rw [(turn_effect at_).checked,mem_checkedPass.1,not_or]
      exact ⟨earlier,fun found => other found.1⟩

/-- A heterogeneous job of several components that is kept whole starts with all of them or with none. Pending
jobs have distinct ids. -/
theorem het_group_starts_together (ids : (pending.map (·.jobId)).Nodup) (several : 1 < (hetMembers pending group).length)
    (whole : KeptWhole cluster now pending maxJobs group) :
    (∀ member ∈ hetMembers pending group, Started cluster now pending maxJobs member) ∨
      ∀ member ∈ hetMembers pending group, ¬ Started cluster now pending maxJobs member := by
  have verdict : ∀ {index later first second}, pending[index]? = some first → pending[later]? = some second →
      hetKey first = some group → hetKey second = some group →
      (group ∈ skippedAt cluster now pending index first ↔ group ∈ skippedAt cluster now pending later second) := by
    intro index later first second atFirst atSecond mineFirst mineSecond
    rcases lt_trichotomy index later with order | rfl | order
    · exact verdict_iff atFirst mineFirst several order
    · cases atFirst.symm.trans atSecond
      exact Iff.rfl
    · exact (verdict_iff atSecond mineSecond several order).symm
  -- The verdict of any component, with the limit, keeps every component from starting.
  have none_ : ∀ {index job}, pending[index]? = some job → hetKey job = some group →
      group ∈ skippedAt cluster now pending index job →
      ∀ member ∈ hetMembers pending group, ¬ Started cluster now pending maxJobs member := by
    intro index job at_ mine left member inside started
    obtain ⟨turn,there,own⟩ := mem_hetMembers.mp inside
    exact (started.turn ids own there).2 ((verdict at_ there mine own).mp left)
  cases whole with
  | unbindable fabric inside needs =>
    obtain ⟨turn,there,own⟩ := mem_hetMembers.mp inside
    exact .inr (none_ there own (skippedAt_of_unbindable fabric inside needs))
  | beyond each =>
    refine .inr fun member inside started => ?_
    obtain ⟨turn,there,own⟩ := mem_hetMembers.mp inside
    exact each turn (started.turn ids own there).1 member there own
  | incomplete at_ mine first inside short =>
    exact .inr (none_ at_ mine (skippedAt_of_short mine several (unchecked_before first) inside short))
  | prompt each =>
    by_cases some_ : ∃ member ∈ hetMembers pending group, Started cluster now pending maxJobs member
    · obtain ⟨member,inside,started⟩ := some_
      obtain ⟨turn,there,own⟩ := mem_hetMembers.mp inside
      have kept := (started.turn ids own there).2
      refine .inl fun other listed => ?_
      obtain ⟨index,at_,mine⟩ := mem_hetMembers.mp listed
      obtain ⟨within,valid,prompt⟩ := each index other at_ mine
      refine started_of_prompt at_ within mine (fun left => kept ((verdict at_ there mine own).mp left)) valid
        (fun fabric => ?_) prompt
      by_contra needs
      exact kept (skippedAt_of_unbindable fabric listed (by simpa using needs))
    · push Not at some_
      exact .inr some_

end

section

def components (tasks : Nat) : List PendingJob :=
  [{ request 1 { numTasks := tasks } with hetGroup := some 0 },
    { request 2 { numTasks := tasks } with hetJobId := some 1, hetGroup := some 1 }]

def idleNodes (cpus : Nat) : Cluster where
  nodes := [{ Node.new "n1" { cpus := cpus } with state := .idle },{ Node.new "n2" { cpus := cpus } with state := .idle }]

theorem components_prompt {index : Nat} {job : PendingJob} (at_ : (components 3)[index]? = some job) :
    index < 10 ∧ constraintOk (idleNodes 4).fabric.isSome job.spec ∧ Prompt (idleNodes 4).reservations
      (idleNodes 4).selectLocalNodes 0 (scheduleJobs (idleNodes 4) 0 (components 3) index) job := by
  match index with
  | 0 =>
    cases at_
    exact ⟨by decide,by decide +kernel,by decide +kernel,by decide +kernel,by decide +kernel,.inl (by decide +kernel)⟩
  | 1 =>
    cases at_
    exact ⟨by decide,by decide +kernel,by decide +kernel,by decide +kernel,by decide +kernel,.inl (by decide +kernel)⟩
  | n + 2 => cases at_

theorem het_group_starts_together_apart :
    (∀ member ∈ hetMembers (components 3) 1, Started (idleNodes 4) 0 (components 3) 10 member) ∨
      ∀ member ∈ hetMembers (components 3) 1, ¬ Started (idleNodes 4) 0 (components 3) 10 member :=
  het_group_starts_together (by decide) (by decide +kernel) (.prompt fun index job at_ _ => components_prompt at_)

def idleNode (cpus : Nat) : Cluster := loneCluster { cpus := cpus } {} none

/-- A node with room for one of the components at a time, and a limit of one job, each start one without the other. -/
theorem het_group_torn : (1 < (hetMembers (components 3) 1).length ∧ ∃ first ∈ hetMembers (components 3) 1,
      ∃ second ∈ hetMembers (components 3) 1,
        Started (idleNode 4) 0 (components 3) 10 first ∧ ¬ Started (idleNode 4) 0 (components 3) 10 second) ∧
    (1 < (hetMembers (components 1) 1).length ∧ ∃ first ∈ hetMembers (components 1) 1,
      ∃ second ∈ hetMembers (components 1) 1,
        Started (idleNode 4) 0 (components 1) 1 first ∧ ¬ Started (idleNode 4) 0 (components 1) 1 second) := by
  unfold Started
  decide +kernel

end

end Spur.Sched
