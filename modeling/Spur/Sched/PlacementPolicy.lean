import Spur.Library.Front
import Spur.Sched.Planning

/-! Where an assignment may go: partition, features, node list, exclusions and reservations. -/
namespace Spur.Sched
open Spur Spur.Library List

section

variable {job : PendingJob} {select : Option (List String → Nat → List String)} {ranked : List Ranked}

theorem pickNodes_length (enough : neededNodes job ≤ ranked.length) :
    (pickNodes job select ranked).length = neededNodes job := by
  obtain ⟨order,same,picked⟩ := @pickNodes_eq job select ranked
  rw [picked,length_take]
  split
  · rw [length_insertionSort,same.length_eq,min_eq_left enough]
  · rw [same.length_eq,min_eq_left enough]

theorem listed_mem_pickNodes (additive : (NodePlacement.new job).nodelistIsAdditive)
    (distinct : (ranked.map Ranked.name).Nodup) {one : Ranked} (inside : one ∈ ranked)
    (listed : (NodePlacement.new job).isListed one.name) : one ∈ pickNodes job select ranked := by
  obtain ⟨order,same,picked⟩ := @pickNodes_eq job select ranked
  rw [picked,if_pos additive]
  have total : Std.Total fun a b : Ranked =>
      ((NodePlacement.new job).isListed a.name || !(NodePlacement.new job).isListed b.name) = true :=
    ⟨fun a b => by cases (NodePlacement.new job).isListed a.name <;> simp⟩
  have transitive : IsTrans Ranked fun a b =>
      ((NodePlacement.new job).isListed a.name || !(NodePlacement.new job).isListed b.name) = true :=
    ⟨fun a b c => by cases (NodePlacement.new job).isListed a.name <;> cases (NodePlacement.new job).isListed b.name <;> simp⟩
  have fronted : Fronted (fun r : Ranked => (NodePlacement.new job).isListed r.name) (order.insertionSort fun a b =>
      (NodePlacement.new job).isListed a.name || !(NodePlacement.new job).isListed b.name) := by
    refine fronted_insertionSort (fun a b first second => ?_)
    simpa [second] using first
  refine fronted.mem_take ?_ ((mem_insertionSort _).mpr (same.mem_iff.mpr inside)) listed
  -- The listed candidates have distinct listed names, fewer than the nodes needed.
  rw [(perm_insertionSort _ order).countP_eq,same.countP_eq,countP_eq_length_filter]
  unfold NodePlacement.nodelistIsAdditive at additive
  cases names : (NodePlacement.new job).nodelist with
  | none => simp [names] at additive
  | some set =>
    rw [names] at additive
    have few : set.card < neededNodes job := of_decide_eq_true additive
    have kept : ((ranked.filter fun r => (NodePlacement.new job).isListed r.name).map _).Nodup :=
      distinct.sublist (filter_sublist.map _)
    have within : ((ranked.filter fun r => (NodePlacement.new job).isListed r.name).map Ranked.name).toFinset ⊆ set := by
      intro name there
      obtain ⟨r,found,rfl⟩ := mem_map.mp (mem_toFinset.mp there)
      have mem := (mem_filter.mp found).2
      simpa [NodePlacement.isListed,names] using mem
    have count := Finset.card_le_card within
    rw [toFinset_card_of_nodup kept,length_map] at count
    exact count.trans few.le

end

section

variable {reservations : List Reservation} {job : PendingJob} {gate : HandoffGate} {now : Time}
  {timelines : List NodeTimeline} {select : Option (List String → Nat → List String)} {placement : Placement}

theorem listed_suitable (additive : (NodePlacement.new job).nodelistIsAdditive)
    (some_ : findSuitableNodes reservations job gate now timelines ≠ []) {timeline : NodeTimeline} {index : Nat}
    (at_ : timelines[index]? = some timeline) (listed : (NodePlacement.new job).isListed timeline.node.name)
    (eligible : (NodePlacement.new job).eligible timeline.node reservations now)
    (large : timeline.total.canSatisfy (jobResourceRequest job.spec)) :
    (timeline,index) ∈ findSuitableNodes reservations job gate now timelines := by
  have inside : timeline ∈ timelines := mem_of_getElem? at_
  unfold findSuitableNodes at some_ ⊢
  dsimp only at some_ ⊢
  split at some_
  · exact absurd rfl some_
  rename_i open_
  rw [if_neg open_]
  simp only [Bool.or_eq_true,not_or,Bool.not_eq_true] at open_
  obtain ⟨available,unhidden⟩ := open_
  have usable : (NodePlacement.new job).matchesForReservation timeline.node reservations now := by
    unfold NodePlacement.additiveListedNodeUnavailable at available
    rw [additive,Bool.true_and,any_eq_false] at available
    have here := available _ (mem_map_of_mem inside)
    unfold NodeTimeline.total at large
    simpa [listed,eligible,large] using here
  have shown : gate.hides job.jobId timeline.node.name = false := by
    by_cases none_ : gate.owners.isEmpty
    · have absent : gate.owners[timeline.node.name]? = none := by
        rw [Std.ExtTreeMap.isEmpty_iff.mp none_]
        exact Std.ExtTreeMap.getElem?_empty
      simp [HandoffGate.hides,HandoffGate.blockers,absent]
    · rw [additive,Bool.and_true,Bool.eq_false_iff.mpr none_,Bool.not_false,Bool.true_and,any_eq_false] at unhidden
      simpa [listed] using unhidden timeline inside
  refine mem_filter.mpr ⟨List.mem_zipIdx_iff_getElem?.mpr at_,?_⟩
  unfold NodeTimeline.total at large
  simp [usable,large,shown]

theorem candidates_nodup (names : (timelines.map fun timeline => timeline.node.name).Nodup) :
    ((candidates reservations job gate now timelines).map Ranked.name).Nodup := by
  have same : (candidates reservations job gate now timelines).map Ranked.name =
      (findSuitableNodes reservations job gate now timelines).map fun suitable => suitable.1.node.name := by
    unfold candidates
    rw [map_map]
    rfl
  rw [same]
  unfold findSuitableNodes
  dsimp only
  split
  · exact nodup_nil
  refine List.Nodup.sublist (filter_sublist.map _) ?_
  have all : (timelines.zipIdx.map fun suitable => suitable.1.node.name) =
      timelines.map fun timeline => timeline.node.name := by
    conv_rhs => rw [← zipIdx_map_fst 0 timelines]
    rw [map_map]
    rfl
  rw [all]
  exact names

end

section

variable {reservations : List Reservation} {job : PendingJob} {gate : HandoffGate} {now : Time}
  {timelines : List NodeTimeline} {select : Option (List String → Nat → List String)} {placement : Placement}

def Authorized (job : Job) (reservation : Reservation) : Prop :=
  named job.spec.reservation = some reservation.name ∧ reservation.allowsUser job.spec.user job.spec.account

def Unreserved (reservations : List Reservation) (job : PendingJob) (now : Time) (name : String) : Prop :=
  ∀ reservation ∈ reservations, reservation.coversNode name → reservation.startTime < now + jobDuration job.spec →
    now < reservation.endTime → Authorized job.toJob reservation

theorem blocker_iff {name : String} :
    reservationBlocker reservations job name now (jobDuration job.spec) = none ↔ Unreserved reservations job now name := by
  unfold reservationBlocker
  rw [List.max?_eq_none_iff,map_eq_nil_iff,filter_eq_nil_iff]
  constructor
  · intro clear reservation inside covers before after
    have apart := clear _ inside
    unfold prospectiveOverlapAt at apart
    simpa [covers,before,after,Authorized] using apart
  · intro unreserved reservation inside overlap
    simp only [prospectiveOverlapAt,Bool.and_eq_true,decide_eq_true_eq] at overlap
    obtain ⟨⟨⟨covers,barred⟩,before⟩,after⟩ := overlap
    obtain ⟨same,allowed⟩ := unreserved _ inside covers before after
    simp [same,allowed] at barred

/-- The nodes of a placement: as many as needed, distinct, eligible and large enough. -/
structure Chosen (reservations : List Reservation) (job : PendingJob) (now : Time) (timelines : List NodeTimeline)
    (names : List String) : Prop where
  count : names.length = neededNodes job
  distinct : names.Nodup
  suitable : ∀ name ∈ names, ∃ timeline ∈ timelines, timeline.node.name = name ∧
    (NodePlacement.new job).eligible timeline.node reservations now ∧
    timeline.total.canSatisfy (jobResourceRequest job.spec)
  unreserved : ∀ name ∈ names, Unreserved reservations job now name
  listed : (NodePlacement.new job).nodelistIsAdditive → ∀ timeline ∈ timelines,
    (NodePlacement.new job).isListed timeline.node.name →
    (NodePlacement.new job).eligible timeline.node reservations now →
    timeline.total.canSatisfy (jobResourceRequest job.spec) → timeline.node.name ∈ names

theorem placeJob_chosen (names : (timelines.map fun timeline => timeline.node.name).Nodup)
    (found : placeJob reservations job gate now timelines select = some placement) (atOnce : placement.start ≤ now) :
    Chosen reservations job now timelines placement.names := by
  have placed := placeJob_placed found
  obtain ⟨enough,picked,_⟩ := placeJob_some.mp found
  constructor
  · rw [Placement.names,length_map,picked,pickNodes_length enough]
  · exact placed.names_nodup names
  · intro name inside
    obtain ⟨ranked,taken,rfl⟩ := mem_map.mp inside
    obtain ⟨at_,usable,large,_⟩ := mem_findSuitableNodes (placed.suitable ranked taken)
    simp only [NodePlacement.matchesForReservation,Bool.and_eq_true] at usable
    exact ⟨ranked.timeline,mem_of_getElem? at_,rfl,usable.1.1.2,large⟩
  · intro name inside
    obtain ⟨ranked,taken,rfl⟩ := mem_map.mp inside
    exact blocker_iff.mp (placed.free_now taken atOnce).2.2
  · intro additive timeline inside listed eligible large
    obtain ⟨index,at_⟩ := mem_iff_getElem?.mp inside
    have some_ : findSuitableNodes reservations job gate now timelines ≠ [] := by
      intro none_
      have positive : 0 < neededNodes job := Nat.lt_of_lt_of_le Nat.zero_lt_one (le_max_right _ _)
      rw [candidates,none_] at enough
      exact absurd enough (Nat.not_le.mpr positive)
    have suitable := listed_suitable additive some_ at_ listed eligible large
    have taken : rank reservations job gate now (timeline,index) ∈ placement.picked := by
      rw [picked]
      exact listed_mem_pickNodes additive (candidates_nodup names) (mem_map_of_mem suitable) listed
    exact mem_map_of_mem (f := Ranked.name) taken

end

section

variable {job : PendingJob} {constraints : Constraints} {reservations : List Reservation} {now : Time}

theorem new_blockJob (parsed : Constraints.parse job.spec.constraint = some constraints) (gpu : constraints.hasGpu) :
    NodePlacement.new (blockJob job constraints) =
      { NodePlacement.new job with job := (blockJob job constraints).toJob } := by
  unfold NodePlacement.new NodePlacement.build
  have joined : Constraints.parse (blockJob job _).spec.constraint =
      some _ := Constraints.parse_joined (Constraints.parse_features parsed gpu)
  rw [joined,parsed]
  rfl

theorem Chosen.of_block (parsed : Constraints.parse job.spec.constraint = some constraints) (gpu : constraints.hasGpu)
    {allowed : List (String × Nat)} {timelines : List NodeTimeline} {names : List String}
    (chosen : Chosen reservations (blockJob job constraints) now
      (timelines.map (project job constraints allowed)) names) :
    names.length = neededNodes job ∧ names.Nodup ∧ (∀ name ∈ names, ∃ timeline ∈ timelines, timeline.node.name = name ∧
        (NodePlacement.new job).eligible timeline.node reservations now) ∧
      (∀ name ∈ names, Unreserved reservations job now name) ∧
      ((NodePlacement.new job).nodelistIsAdditive → ∀ timeline ∈ timelines,
        (NodePlacement.new job).isListed timeline.node.name →
        (NodePlacement.new job).eligible timeline.node reservations now →
        (project job constraints allowed ⟨timeline.node,[]⟩).total.canSatisfy (jobResourceRequest job.spec) →
        timeline.node.name ∈ names) := by
  have same := new_blockJob parsed gpu
  refine ⟨chosen.count,chosen.distinct,fun name inside => ?_,chosen.unreserved,fun additive timeline there listed
    eligible large => ?_⟩
  · obtain ⟨projected,there,named_,eligible,_⟩ := chosen.suitable name inside
    obtain ⟨timeline,listed,rfl⟩ := mem_map.mp there
    rw [same] at eligible
    exact ⟨timeline,listed,named_,eligible⟩
  · have listing := chosen.listed
    rw [same] at listing
    exact listing additive (project job _ allowed timeline) (mem_map_of_mem there) listed eligible large

end

section

variable {cluster : Cluster} {now : Time} {pending : List PendingJob}

/-- What a job's nodes must be: as many distinct ones as it asks for, in its partition, with its features, within
its node list and outside its exclusions, and free of reservations that do not admit it over its window. -/
structure Policy (cluster : Cluster) (now : Time) (job : PendingJob) (names : List String) : Prop where
  count : names.length = max job.spec.numNodes 1
  distinct : names.Nodup
  fits : ∀ name ∈ names, (NodePlacement.new job).allowsName name ∧ ∃ node ∈ cluster.nodes, node.name = name ∧
    (NodePlacement.new job).inPartition node ∧ (NodePlacement.new job).hasFeatures node
  unreserved : ∀ name ∈ names, Unreserved cluster.reservations job now name

/-- The inventories a node is judged by: its own, or its part of each group of GPUs the job is tried on. -/
def views (cluster : Cluster) (job : PendingJob) (node : Node) : List ResourceSet :=
  if requiresGpuProperties job.spec then
    match cluster.fabric,Constraints.parse job.spec.constraint,(resolveGpuDemand job.spec).toOption with
    | some context,some constraints,some demand => (triedGroups cluster context constraints demand).map fun group =>
        (project job constraints group.2 ⟨node,[]⟩).total
    | _,_,_ => []
  else [node.totalResources]

def ListedUsable (cluster : Cluster) (now : Time) (job : PendingJob) : Prop :=
  ∀ name, (NodePlacement.new job).isListed name → ∃ node ∈ cluster.nodes, node.name = name ∧
    (NodePlacement.new job).eligible node cluster.reservations now ∧
    ∀ view ∈ views cluster job node, view.canSatisfy (jobResourceRequest job.spec)

def ListsAll (job : PendingJob) (names : List String) : Prop :=
  ∀ name, (NodePlacement.new job).isListed name → name ∈ names

variable {pass : Pass} {job : PendingJob} {chosen : List String}

theorem Policy.of_eligible (nodes : pass.timelines.map NodeTimeline.node = cluster.nodes)
    (count : chosen.length = neededNodes job) (distinct : chosen.Nodup)
    (suitable : ∀ name ∈ chosen, ∃ timeline ∈ pass.timelines, timeline.node.name = name ∧
      (NodePlacement.new job).eligible timeline.node cluster.reservations now)
    (unreserved : ∀ name ∈ chosen, Unreserved cluster.reservations job now name) : Policy cluster now job chosen := by
  refine ⟨count,distinct,fun name inside => ?_,unreserved⟩
  obtain ⟨timeline,there,rfl,eligible⟩ := suitable name inside
  simp only [NodePlacement.eligible,Bool.and_eq_true] at eligible
  exact ⟨eligible.1.1.1,timeline.node,nodes ▸ mem_map_of_mem there,rfl,eligible.1.1.2,eligible.1.2⟩

theorem Seat.policy (seat : Seat cluster now pass job chosen) (nodes : pass.timelines.map NodeTimeline.node = cluster.nodes)
    (names : (cluster.nodes.map Node.name).Nodup) :
    Policy cluster now job chosen ∧ ((NodePlacement.new job).nodelistIsAdditive →
      (ListedUsable cluster now job → ListsAll job chosen) ∧
      (requiresGpuProperties job.spec = false → ListsAll job chosen → ListedUsable cluster now job)) := by
  have distinct : (pass.timelines.map fun timeline => timeline.node.name).Nodup := by
    rw [← nodes,map_map] at names
    exact names
  have timelineOf : ∀ node ∈ cluster.nodes, ∃ timeline ∈ pass.timelines, timeline.node = node := by
    intro node there
    rw [← nodes] at there
    exact mem_map.mp there
  cases seat with
  | plain unbound found atOnce same =>
    subst same
    have placed := placeJob_chosen distinct found atOnce
    refine ⟨.of_eligible nodes placed.count placed.distinct (fun name inside => ?_) placed.unreserved,
      fun additive => ⟨fun usable name listed => ?_,fun _ all name listed => ?_⟩⟩
    · obtain ⟨timeline,there,named_,eligible,_⟩ := placed.suitable name inside
      exact ⟨timeline,there,named_,eligible⟩
    · obtain ⟨node,there,rfl,eligible,large⟩ := usable name listed
      obtain ⟨timeline,held,rfl⟩ := timelineOf node there
      refine placed.listed additive timeline held listed eligible (large _ ?_)
      simp [views,unbound,NodeTimeline.total]
    · obtain ⟨timeline,there,rfl,eligible,large⟩ := placed.suitable name (all name listed)
      refine ⟨timeline.node,nodes ▸ mem_map_of_mem there,rfl,eligible,fun view viewed => ?_⟩
      simp only [views,unbound,Bool.false_eq_true,if_false,mem_singleton] at viewed
      rw [viewed]
      exact large
  | @bound context constraints demand group placement fabric parsed asks tried needs found atOnce same =>
    subst same
    have gpu : constraints.hasGpu := by
      unfold requiresGpuProperties at needs
      rw [parsed] at needs
      exact needs
    have projected : ((pass.timelines.map (project job constraints group.2)).map
        fun timeline => timeline.node.name).Nodup := by
      rw [map_map]
      exact distinct
    obtain ⟨count,once,suitable,unreserved,listing⟩ := (placeJob_chosen projected found atOnce).of_block parsed gpu
    refine ⟨.of_eligible nodes count once suitable unreserved,
      fun additive => ⟨fun usable name listed => ?_,fun unbound => ?_⟩⟩
    · obtain ⟨node,there,rfl,eligible,large⟩ := usable name listed
      obtain ⟨timeline,held,rfl⟩ := timelineOf node there
      refine listing additive timeline held listed eligible (large _ ?_)
      simp only [views,needs,fabric,parsed,asks]
      exact mem_map_of_mem (f := fun group : Option _ × List _ =>
        (project job _ _ ⟨timeline.node,[]⟩).total) tried
    · rw [needs] at unbound
      cases unbound

/-- Every assignment follows the policy of its job. It has every node of an additive list when each is eligible
and large enough, and a job without GPU terms only then. Nodes have distinct names and jobs distinct ids. -/
theorem assignment_follows_policy (names : (cluster.nodes.map Node.name).Nodup)
    (ids : (pending.map (·.jobId)).Nodup) {maxJobs : Nat} {assignment : Assignment}
    (given_ : assignment ∈ (scheduleJobs cluster now pending maxJobs).assignments) :
    ∃ job ∈ pending, job.jobId = assignment.jobId ∧ Policy cluster now job assignment.nodes ∧
      ((NodePlacement.new job).nodelistIsAdditive → (ListedUsable cluster now job → ListsAll job assignment.nodes) ∧
        (requiresGpuProperties job.spec = false → ListsAll job assignment.nodes → ListedUsable cluster now job)) := by
  obtain ⟨index,job,plan,_,at_,planned,atOnce,rfl⟩ := mem_assignments.mp given_
  have seat := planOf_seat (scheduleJobs_fresh ids at_) planned atOnce
  have nodes : (checkedPass cluster now pending (scheduleJobs cluster now pending index) job).timelines.map
      NodeTimeline.node = cluster.nodes := by
    rw [checkedPass_frame.1]
    exact scheduleJobs_timelines.1
  exact ⟨job,mem_of_getElem? at_,rfl,seat.policy nodes names⟩

end

def smallFirst : Cluster where
  nodes := [{ Node.new "n1" { cpus := 1 } with state := .idle },{ Node.new "n2" { cpus := 4 } with state := .idle },
    { Node.new "n3" { cpus := 4 } with state := .idle }]

def pairWith (name : String) : List PendingJob :=
  [request 1 { numNodes := 2, numTasks := 4, nodelist := some name }]

theorem assignment_follows_policy_pair :
    ∃ assignment ∈ (scheduleJobs smallFirst 0 (pairWith "n2") 10).assignments, "n2" ∈ assignment.nodes ∧
      ∃ job ∈ pairWith "n2", job.jobId = assignment.jobId ∧ Policy smallFirst 0 job assignment.nodes ∧
        ((NodePlacement.new job).nodelistIsAdditive →
          (ListedUsable smallFirst 0 job → ListsAll job assignment.nodes) ∧
          (requiresGpuProperties job.spec = false → ListsAll job assignment.nodes → ListedUsable smallFirst 0 job)) := by
  have started : ∃ assignment ∈ (scheduleJobs smallFirst 0 (pairWith "n2") 10).assignments,
      "n2" ∈ assignment.nodes := by decide +kernel
  obtain ⟨assignment,given_,inside⟩ := started
  exact ⟨assignment,given_,inside,assignment_follows_policy (by decide) (by decide) given_⟩

/-- A listed node that is too small, or not in the cluster, is left out and the job starts without it. -/
theorem additive_list_dropped : ["n1","n9"].Forall fun name =>
    ∃ assignment ∈ (scheduleJobs smallFirst 0 (pairWith name) 10).assignments,
      (∀ job ∈ pairWith name, (NodePlacement.new job).nodelistIsAdditive ∧ (NodePlacement.new job).isListed name) ∧
        name ∉ assignment.nodes := by
  decide +kernel

end Spur.Sched
