import Spur.Sched.Placing

/-! What one job's turn in a pass comes to: a plan, or none. -/
namespace Spur.Sched
open Spur Spur.Library List Option

structure Plan where
  names : List String
  start : Time
  perNodeAlloc : Table String ResourceAllocations

section

variable (cluster : Cluster) (now : Time) (pending : List PendingJob) (pass : Pass) (job : PendingJob)

def plainPlan : Option Plan :=
  match placeJob cluster.reservations job pass.gate now pass.timelines cluster.selectLocalNodes with
  | none => none
  | some placement =>
    if placement.start ≤ now ∨ !job.idleFill then some ⟨placement.names,placement.start,placement.perNodeAlloc⟩ else none

def boundPlan (context : FabricContext) : Option Plan :=
  (planGpuJob cluster context now pass job).map fun planned => ⟨planned.1.nodes,planned.2,planned.1.perNodeAlloc⟩

def checkedPass : Pass := (hetKey job).elim pass (checkGroup cluster now pending pass)

def leftOut : Bool := (hetKey job).elim false fun group =>
  decide (group ∈ (checkedPass cluster now pending pass job).skippedGroups)

def planOf : Option Plan :=
  if leftOut cluster now pending pass job then none
  else if !constraintOk cluster.fabric.isSome job.spec then none
  else match cluster.fabric with
    | some context =>
      if requiresGpuProperties job.spec then
        boundPlan cluster now (checkedPass cluster now pending pass job) job context
      else plainPlan cluster now (checkedPass cluster now pending pass job) job
    | none => plainPlan cluster now (checkedPass cluster now pending pass job) job

end

def assigned (now : Time) (job : PendingJob) : Option Plan → List Assignment
  | none => []
  | some plan => if plan.start ≤ now then [⟨job.jobId,plan.names,plan.perNodeAlloc⟩] else []

section

variable {P : Interval → Prop} {old mid new : List NodeTimeline}

/-- The same nodes, each with its old slots and new ones that `P` holds of. -/
def Grown (P : Interval → Prop) (old new : List NodeTimeline) : Prop :=
  List.Forall₂ (fun a b => a.node = b.node ∧ ∃ own, (∀ i ∈ own, P i) ∧ b.intervals.Perm (own ++ a.intervals)) old new

namespace Grown

theorem refl {old : List NodeTimeline} : Grown P old old :=
  forall₂_same.mpr fun _ _ => ⟨rfl,[],by simp,.refl _⟩

theorem trans (first : Grown P old mid) (second : Grown P mid new) : Grown P old new := by
  induction first generalizing new with
  | nil => exact second
  | cons head _ ih =>
    cases second with
    | cons next rest =>
      obtain ⟨node,own,mine,slots⟩ := head
      obtain ⟨also_,more,yours,both⟩ := next
      refine .cons ⟨node.trans also_,more ++ own,?_,?_⟩ (ih rest)
      · exact forall_mem_append.mpr ⟨yours,mine⟩
      · rw [append_assoc]
        exact both.trans ((perm_append_left_iff more).mpr slots)

theorem modify {start end_ : Time} {alloc : ResourceAllocations} {jobId : Option JobId} (own : P ⟨start,end_,alloc,jobId⟩)
    (old : List NodeTimeline) (index : Nat) :
    Grown P old (old.modify index fun timeline => timeline.reserveForJob start end_ alloc jobId) := by
  induction old generalizing index with
  | nil => cases index <;> exact .nil
  | cons timeline rest ih =>
    cases index with
    | zero => exact .cons ⟨rfl,[_],by simpa using own,timeline.reserveForJob_perm start end_ alloc jobId⟩ refl
    | succ index => exact .cons ⟨rfl,[],by simp,.refl _⟩ (ih index)

theorem foldl {α : Type} {step : List NodeTimeline → α → List NodeTimeline} (each : ∀ old entry, Grown P old (step old entry))
    (entries : List α) (old : List NodeTimeline) : Grown P old (entries.foldl step old) := by
  induction entries generalizing old with
  | nil => exact refl
  | cons entry entries ih => exact (each old entry).trans (ih _)

theorem nodes (grown : Grown P old new) : new.map NodeTimeline.node = old.map NodeTimeline.node := by
  induction grown with
  | nil => rfl
  | cons head _ ih => rw [map_cons,map_cons,head.1,ih]

theorem slots (grown : Grown P old new) {timeline : NodeTimeline} (inside : timeline ∈ new) {i : Interval}
    (listed : i ∈ timeline.intervals) : (∃ before ∈ old, i ∈ before.intervals) ∨ P i := by
  induction grown with
  | nil => cases inside
  | @cons before _ _ _ head _ ih =>
    rcases mem_cons.mp inside with rfl | later
    · obtain ⟨-,own,mine,same⟩ := head
      rcases mem_append.mp (same.subset listed) with new_ | kept
      · exact .inr (mine i new_)
      · exact .inl ⟨before,mem_cons_self,kept⟩
    · exact (ih later).imp_left fun ⟨other,there,within⟩ => ⟨other,mem_cons_of_mem _ there,within⟩

end Grown

theorem reserveAll_grown {placement : Placement} {start : Time} {job : PendingJob} {timelines : List NodeTimeline}
    (own : ∀ alloc, P ⟨start,start + jobDuration job.spec,alloc,some job.jobId⟩) :
    Grown P timelines (reserveAll timelines placement start job) :=
  .foldl (fun old (ranked : Ranked) => .modify (own _) old _) _ _

end

section

variable {timeline : NodeTimeline} {placement : Placement} {timelines : List NodeTimeline} {start end_ now : Time} {allocs : Table String ResourceAllocations}
  {jobId : JobId}

def book (timelines : List NodeTimeline) (start end_ : Time) (allocs : Table String ResourceAllocations)
    (jobId : JobId) : List NodeTimeline :=
  timelines.map fun timeline => match allocs[timeline.node.name]? with
    | some alloc => timeline.reserveForJob start end_ alloc (some jobId)
    | none => timeline

theorem reserveAll_eq_book {reservations : List Reservation} {job : PendingJob} {gate : HandoffGate}
    (placed : Placed reservations job gate now timelines placement)
    (names : (nodeNames timelines).Nodup) {start : Time} :
    reserveAll timelines placement start job =
      book timelines start (start + jobDuration job.spec) placement.perNodeAlloc job.jobId := by
  apply ext_getElem?
  intro i
  unfold reserveAll book
  rw [List.getElem?_map]
  obtain ⟨_,outside,inside⟩ := foldl_keyed _ Ranked.index
    (fun (timelines : List NodeTimeline) i => timelines[i]?) (fun timelines ranked => timelines.modify ranked.index
      fun timeline => timeline.reserveForJob start (start + jobDuration job.spec)
        ((placement.perNodeAlloc[ranked.name]?).getD {}) (some job.jobId))
    (fun ranked before after => after = before.map fun timeline => timeline.reserveForJob start
      (start + jobDuration job.spec) ((placement.perNodeAlloc[ranked.name]?).getD {}) (some job.jobId))
    (fun _ _ _ => trivial) (fun s ranked k _ other => by simp [Ne.symm other])
    (fun s ranked _ => by simp) timelines trivial
  by_cases picked : ∃ ranked ∈ placement.picked, ranked.index = i
  · obtain ⟨ranked,listed,rfl⟩ := picked
    obtain ⟨alloc,found,_⟩ := plannedAt_find placed.planned (placed.names_nodup names) listed
    rw [inside placed.distinct ranked listed,placed.at_index listed]
    unfold Ranked.name at found ⊢
    simp only [map_some,found,getD_some]
  · push Not at picked
    rw [outside i (by simpa using picked)]
    cases here : timelines[i]? with
    | none => rfl
    | some timeline =>
      have absent : timeline.node.name ∉ placement.picked.map Ranked.name := by
        intro listed
        obtain ⟨ranked,inside,same⟩ := List.mem_map.mp listed
        refine picked ranked inside ?_
        have there : (nodeNames timelines)[ranked.index]? = some timeline.node.name := by
          simp [placed.at_index inside,← same,Ranked.name]
        have also_ : (nodeNames timelines)[i]? = some timeline.node.name := by simp [here]
        exact (List.getElem?_inj (List.getElem?_eq_some_iff.mp there).1 names).mp (there.trans also_.symm)
      simp [plannedAt_absent placed.planned absent]

private theorem modify_named {name : String} {f : NodeTimeline → NodeTimeline} (names : (nodeNames timelines).Nodup) :
    (match timelines.findIdx? fun timeline => timeline.node.name == name with
      | some index => timelines.modify index f
      | none => timelines) = timelines.map fun timeline => if timeline.node.name = name then f timeline else timeline := by
  induction timelines with
  | nil => rfl
  | cons timeline rest ih =>
    rw [nodeNames,map_cons,nodup_cons] at names
    rw [List.findIdx?_cons,map_cons]
    by_cases same : timeline.node.name = name
    · have others : (rest.map fun timeline => if timeline.node.name = name then f timeline else timeline) = rest := by
        rw [map_congr_left (g := id),List.map_id]
        intro other listed
        rw [if_neg ?_]
        · rfl
        · intro again
          exact names.1 (List.mem_map.mpr ⟨other,listed,again.trans same.symm⟩)
      simp [same,others]
    · rw [← ih names.2]
      simp only [beq_iff_eq,same]
      cases rest.findIdx? fun timeline => timeline.node.name == name with
      | none => rfl
      | some index => simp

theorem reserveEach_eq_book (names : (nodeNames timelines).Nodup) : allocs.toList.foldl (fun timelines entry =>
      match timelines.findIdx? fun timeline => timeline.node.name == entry.1 with
      | some index => timelines.modify index fun timeline => timeline.reserveForJob start end_ entry.2 (some jobId)
      | none => timelines) timelines = book timelines start end_ allocs jobId := by
  have each : ∀ (entries : List (String × ResourceAllocations)) (timelines : List _),(nodeNames timelines).Nodup →
      entries.foldl (fun timelines entry =>
        match timelines.findIdx? fun timeline => timeline.node.name == entry.1 with
        | some index => timelines.modify index fun timeline => timeline.reserveForJob start end_ entry.2 (some jobId)
        | none => timelines) timelines =
      timelines.map fun timeline => entries.foldl (fun timeline entry => if timeline.node.name = entry.1 then
        timeline.reserveForJob start end_ entry.2 (some jobId) else timeline) timeline := by
    intro entries
    induction entries with
    | nil => simp
    | cons entry entries ih =>
      intro timelines names
      rw [foldl_cons,modify_named names,ih,List.map_map]
      · rfl
      rw [nodeNames,List.map_map]
      convert names using 2
      funext timeline
      simp only [Function.comp_apply]
      split <;> rfl
  rw [each _ timelines names]
  refine map_congr_left fun timeline _ => ?_
  obtain ⟨_,outside,inside⟩ := foldl_keyed _ Prod.fst
    (fun (timeline : NodeTimeline) name => if timeline.node.name = name then some timeline else none)
    (fun timeline entry => if timeline.node.name = entry.1 then
      timeline.reserveForJob start end_ entry.2 (some jobId) else timeline)
    (fun entry before after => after = before.map (·.reserveForJob start end_ entry.2 (some jobId)))
    (fun _ _ _ => trivial) (fun s entry name _ other => by grind [NodeTimeline.reserveForJob])
    (fun s entry _ => by grind [NodeTimeline.reserveForJob]) timeline trivial
  cases found : allocs[timeline.node.name]? with
  | some alloc =>
    have listed := Std.ExtTreeMap.mem_toList_iff_getElem?_eq_some.mpr found
    have own := inside (Table.nodup_keys_toList allocs) _ listed
    rw [if_pos rfl] at own
    exact (ite_none_right_eq_some.mp own).2 |> Option.some.inj
  | none =>
    have kept := outside timeline.node.name (by
      intro listed
      obtain ⟨entry,there,same⟩ := List.mem_map.mp listed
      rw [← same,Std.ExtTreeMap.mem_toList_iff_getElem?_eq_some.mp there] at found
      cases found)
    rw [if_pos rfl] at kept
    exact (ite_none_right_eq_some.mp kept).2 |> Option.some.inj

theorem book_mem (inside : timeline ∈ book timelines start end_ allocs jobId) :
    (∃ old ∈ timelines, ∃ alloc, allocs[old.node.name]? = some alloc ∧
        timeline = old.reserveForJob start end_ alloc (some jobId)) ∨
      (timeline ∈ timelines ∧ allocs[timeline.node.name]? = none) := by
  obtain ⟨old,listed,rfl⟩ := List.mem_map.mp inside
  cases found : allocs[old.node.name]? with
  | some alloc => exact .inl ⟨old,listed,alloc,found,rfl⟩
  | none => exact .inr ⟨listed,found⟩

theorem book_nodes : (book timelines start end_ allocs jobId).map NodeTimeline.node =
    timelines.map NodeTimeline.node := by
  unfold book
  rw [List.map_map]
  refine map_congr_left fun timeline _ => ?_
  simp only [Function.comp_apply]
  split <;> rfl

end

section

variable {cluster : Cluster} {now : Time} {pending : List PendingJob} {pass : Pass} {job : PendingJob}

structure Effect (now : Time) (job : PendingJob) (pass : Pass) (plan : Option Plan) (next : Pass) : Prop where
  gate : next.gate = plan.elim pass.gate fun plan => pass.gate.ownerPlanned job.jobId plan.names plan.start now
  assignments : next.assignments = pass.assignments ++ assigned now job plan
  skipped : next.skippedGroups = pass.skippedGroups
  checked : next.checkedGroups = pass.checkedGroups
  slots : Grown (fun i => i.jobId = some job.jobId ∧ plan.map Plan.start = some i.start) pass.timelines next.timelines
  timelines : (nodeNames pass.timelines).Nodup → next.timelines = plan.elim pass.timelines fun plan =>
    book pass.timelines plan.start (plan.start + jobDuration job.spec) plan.perNodeAlloc job.jobId

theorem Effect.none {now : Time} {job : PendingJob} {pass : Pass} : Effect now job pass .none pass where
  gate := rfl
  assignments := (append_nil _).symm
  skipped := rfl
  checked := rfl
  slots := .refl
  timelines := fun _ => rfl

theorem schedulePlain_effect :
    Effect now job pass (plainPlan cluster now pass job) (schedulePlain cluster now pass job) := by
  unfold schedulePlain plainPlan
  cases found : placeJob _ job _ now _ _ with
  | none => exact Effect.none
  | some placement =>
    have placed := placeJob_placed found
    dsimp only
    by_cases atOnce : placement.start ≤ now
    · have begins := le_antisymm atOnce placed.later
      rw [if_pos atOnce,if_pos (.inl atOnce),if_pos (.inl atOnce)]
      refine ⟨rfl,by rw [assigned,if_pos atOnce],rfl,rfl,reserveAll_grown fun _ => ⟨rfl,congrArg some begins⟩,fun names => ?_⟩
      rw [begins]
      exact reserveAll_eq_book placed names
    rw [if_neg atOnce]
    by_cases borrows : job.idleFill
    · have unplanned : ¬ (placement.start ≤ now ∨ (!job.idleFill) = true) := by simp [atOnce,borrows]
      rw [if_pos borrows,if_neg unplanned,if_neg unplanned]
      exact Effect.none
    · have planned : placement.start ≤ now ∨ (!job.idleFill) = true := by simp [borrows]
      rw [if_neg borrows,if_pos planned,if_pos planned]
      exact ⟨rfl,by rw [assigned,if_neg atOnce,append_nil],rfl,rfl,reserveAll_grown fun _ => ⟨rfl,rfl⟩,
        fun names => reserveAll_eq_book placed names⟩

theorem scheduleBound_effect {context : FabricContext}
    (own : ∀ planned ∈ planGpuJob cluster context now pass job, planned.1.jobId = job.jobId) :
    Effect now job pass (boundPlan cluster now pass job context) (scheduleBound cluster context now pass job) := by
  unfold scheduleBound boundPlan
  cases planned : planGpuJob cluster context now pass job with
  | none => exact Effect.none
  | some plan =>
    obtain ⟨assignment,start⟩ := plan
    have same := own _ planned
    refine ⟨rfl,?_,rfl,rfl,.foldl (fun old entry => ?_) _ _,reserveEach_eq_book⟩
    · rw [map_some,assigned]
      dsimp only
      by_cases atOnce : start ≤ now
      · rw [if_pos atOnce,if_pos atOnce,← same]
      · rw [if_neg atOnce,if_neg atOnce,append_nil]
    · split
      · exact .modify ⟨by rfl,by rfl⟩ old _
      · exact .refl

theorem checkedPass_frame : (checkedPass cluster now pending pass job).timelines = pass.timelines ∧
    (checkedPass cluster now pending pass job).gate = pass.gate ∧
    (checkedPass cluster now pending pass job).assignments = pass.assignments := by
  unfold checkedPass
  cases hetKey job with
  | none => exact ⟨rfl,rfl,rfl⟩
  | some group =>
    rw [elim_some]
    unfold checkGroup
    dsimp only
    split <;> exact ⟨rfl,rfl,rfl⟩

/-- A group of several components is looked at once; it is left out when a component finds too few nodes. -/
theorem mem_checkedPass {group : JobId} :
    (group ∈ (checkedPass cluster now pending pass job).checkedGroups ↔ group ∈ pass.checkedGroups ∨
      hetKey job = some group ∧ 1 < (hetMembers pending group).length) ∧
    (group ∈ (checkedPass cluster now pending pass job).skippedGroups ↔ group ∈ pass.skippedGroups ∨
      (hetKey job = some group ∧ 1 < (hetMembers pending group).length) ∧ group ∉ pass.checkedGroups ∧
        ∃ member ∈ hetMembers pending group, (findSuitableNodes cluster.reservations member pass.gate now
          pass.timelines).length < member.spec.numNodes) := by
  unfold checkedPass
  cases hetKey job with
  | none => simp
  | some mine =>
    rw [elim_some,some_inj]
    unfold checkGroup
    dsimp only
    split
    next closed =>
      constructor
      · refine (or_iff_left_of_imp ?_).symm
        rintro ⟨rfl,several⟩
        exact closed.resolve_left several.not_ge
      · refine (or_iff_left ?_).symm
        rintro ⟨⟨rfl,several⟩,new,-⟩
        exact closed.elim several.not_ge new
    next open_ =>
      obtain ⟨several,new⟩ := not_or.mp open_
      rw [Nat.not_le] at several
      constructor
      · rw [Finset.mem_insert,or_comm,eq_comm]
        exact or_congr_right (and_iff_left_of_imp fun same => same ▸ several).symm
      · split
        next complete =>
          refine (or_iff_left ?_).symm
          rintro ⟨⟨rfl,-⟩,-,member,inside,short⟩
          exact absurd (of_decide_eq_true (List.all_eq_true.mp complete member inside)) short.not_ge
        next short =>
          rw [Finset.mem_insert,or_comm,eq_comm]
          refine or_congr_right ⟨?_,fun found => found.1.1⟩
          rintro rfl
          rw [Bool.not_eq_true,List.all_eq_false] at short
          obtain ⟨member,inside,few⟩ := short
          exact ⟨⟨rfl,several⟩,new,member,inside,by simpa using few⟩

theorem scheduleJob_effect (own : ∀ context, cluster.fabric = some context →
      ∀ planned ∈ planGpuJob cluster context now (checkedPass cluster now pending pass job) job,
        planned.1.jobId = job.jobId) :
    Effect now job (checkedPass cluster now pending pass job) (planOf cluster now pending pass job)
      (scheduleJob cluster now pending pass job) := by
  unfold scheduleJob planOf
  change Effect _ _ _ _ (if leftOut cluster now pending pass job = true then checkedPass cluster now pending pass job else _)
  split
  · exact Effect.none
  split
  · exact Effect.none
  cases fabric : cluster.fabric with
  | none => exact schedulePlain_effect
  | some context =>
    dsimp only
    split
    · exact scheduleBound_effect (own context fabric)
    · exact schedulePlain_effect

variable {plan : Plan}

theorem planOf_cases (planned : planOf cluster now pending pass job = some plan) :
    (requiresGpuProperties job.spec = false ∧
        plainPlan cluster now (checkedPass cluster now pending pass job) job = some plan) ∨
      ∃ context, cluster.fabric = some context ∧ requiresGpuProperties job.spec ∧
        boundPlan cluster now (checkedPass cluster now pending pass job) job context = some plan := by
  unfold planOf at planned
  split at planned
  · cases planned
  split at planned
  · cases planned
  rename_i ok
  split at planned
  next context fabric =>
    split at planned
    next needs => exact .inr ⟨context,fabric,needs,planned⟩
    next unbound => exact .inl ⟨by simpa using unbound,planned⟩
  next fabric =>
    rw [fabric] at ok
    have both : constraintsValid job.spec = true ∧ requiresGpuProperties job.spec = false := by
      simpa [constraintOk] using ok
    exact .inl ⟨both.2,planned⟩

theorem plainPlan_placed (found : plainPlan cluster now pass job = some plan) :
    ∃ placement, placeJob cluster.reservations job pass.gate now pass.timelines cluster.selectLocalNodes = some placement ∧
      plan = ⟨placement.names,placement.start,placement.perNodeAlloc⟩ := by
  unfold plainPlan at found
  split at found
  · cases found
  next placement placed =>
    split at found
    · exact ⟨placement,placed,(Option.some.inj found).symm⟩
    · cases found

end

section

variable {cluster : Cluster} {now : Time} {node : Node}

theorem seed_node : (seed cluster now node).node = node := by
  unfold seed
  split <;> rfl

theorem seed_nodes : (cluster.nodes.map (seed cluster now)).map NodeTimeline.node = cluster.nodes := by
  rw [List.map_map]
  exact (map_congr_left fun node _ => seed_node).trans (List.map_id _)

def busyUntil (cluster : Cluster) (now : Time) (node : Node) : Time :=
  (cluster.busyUntil[node.name]?).getD (now + Duration.seconds (24 * 60 * 60))

theorem seed_intervals : (seed cluster now node).intervals =
    if node.isCharged then [⟨now,busyUntil cluster now node,node.allocResources,none⟩] else [] := by
  unfold seed
  split <;> rfl

theorem mem_seed {i : Interval} : i ∈ (seed cluster now node).intervals ↔
    node.isCharged ∧ i = ⟨now,busyUntil cluster now node,node.allocResources,none⟩ := by
  rw [seed_intervals]
  split
  next charged => simp [charged]
  next idle => simp [idle]

theorem seed_lasts (busy : ∀ until_, cluster.busyUntil[node.name]? = some until_ → now < until_) :
    now < busyUntil cluster now node := by
  unfold busyUntil
  cases found : cluster.busyUntil[node.name]? with
  | none => exact lt_add_of_pos_right now (by decide)
  | some until_ => exact busy until_ found

end

end Spur.Sched
