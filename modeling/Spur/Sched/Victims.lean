import Spur.Sched.PlacementPolicy
import Spur.Sched.Prompt

/-! The victim search of reclaim and preemption, from `satisfiable_victim_set`, and the pass after they left. -/
namespace Spur.Sched
open Spur Spur.Library List Option

def nodeOccupants (holders : List Job) (assigned : List Assignment) : Table String (List JobId) :=
  let occupy := fun (occupants : Table String (List JobId)) (jobId : JobId) (node : String) =>
    occupants.insert node ((occupants[node]?).getD [] ++ [jobId])
  let held := holders.foldl (fun occupants job =>
    (job.allocatedNodes.filter job.isHeldOn).foldl (occupy · job.jobId ·) occupants) ∅
  assigned.foldl (fun occupants assignment => assignment.nodes.foldl (occupy · assignment.jobId ·) occupants) held

structure VictimPool where
  evictable : Finset JobId
  /-- Every job that holds each node, evictable or not. -/
  occupants : Table String (List JobId)
  priority : Table JobId Int
  /-- The bound of an opportunistic reclaimer. -/
  maxPriority : Option Int := none

namespace VictimPool

variable (pool : VictimPool)

def priorityOf (jobId : JobId) : Int := (pool.priority[jobId]?).getD 0

def mayEvict (jobId : JobId) : Bool :=
  decide (jobId ∈ pool.evictable) && pool.maxPriority.elim true fun bound => pool.priorityOf jobId < bound

def cost (onNode : List JobId) : Int := ((onNode.map pool.priorityOf).max?).getD 0

def cheaper (a b : String × List JobId) : Bool :=
  if pool.cost a.2 ≠ pool.cost b.2 then pool.cost a.2 < pool.cost b.2 else decide (¬ b.1 < a.1)

end VictimPool

def handoffAllows (cluster : Cluster) (job : PendingJob) (node : String) : Bool :=
  (cluster.handoffs[node]?).elim true fun owners => owners.contains job.jobId

def listedNodeHandedOff (cluster : Cluster) (job : PendingJob) (placement : NodePlacement) : Bool :=
  !cluster.handoffs.isEmpty && placement.nodelistIsAdditive &&
    cluster.nodes.any fun node => placement.isListed node.name && !handoffAllows cluster job node.name

section

variable (reclaimer : PendingJob) (pool : VictimPool) (cluster : Cluster) (now : Time)

def hostable (node : Node) : Bool :=
  (NodePlacement.new reclaimer).matchesForReservation node cluster.reservations now &&
    node.totalResources.canSatisfy (jobResourceRequest reclaimer.spec) && handoffAllows cluster reclaimer node.name

def evacuable (node : Node) : Option (String × List JobId) :=
  ((pool.occupants[node.name]?).filter fun onNode => onNode.all pool.mayEvict).map fun onNode => (node.name,onNode)

def spend (needed : Nat) (spent : Nat × Finset JobId) (entry : String × List JobId) : Nat × Finset JobId :=
  if needed ≤ spent.1 then spent else (spent.1 + 1,spent.2 ∪ entry.2.toFinset)

def satisfiableVictimSet : Option (Finset JobId) :=
  if listedNodeHandedOff cluster reclaimer (NodePlacement.new reclaimer) then none
  else
    let needed := neededNodes reclaimer
    let nodes := cluster.nodes.filter (hostable reclaimer cluster now)
    let empty := nodes.countP fun node => (pool.occupants[node.name]?).isNone
    let sorted := (nodes.filterMap (evacuable pool)).insertionSort fun a b => pool.cheaper a b
    let (have_,victims) := sorted.foldl (spend needed) (empty,∅)
    if needed ≤ have_ ∧ victims ≠ ∅ then some victims else none

end

section

variable {needed : Nat}

theorem foldl_spend (entries : List (String × List JobId)) (spent : Nat × Finset JobId) :
    entries.foldl (spend needed) spent = (spent.1 + min (needed - spent.1) entries.length,
      spent.2 ∪ ((entries.take (needed - spent.1)).flatMap Prod.snd).toFinset) := by
  induction entries generalizing spent with
  | nil => simp
  | cons entry entries ih =>
    rw [foldl_cons,ih]
    unfold spend
    by_cases enough : needed ≤ spent.1
    · rw [if_pos enough,Nat.sub_eq_zero_of_le enough]
      simp
    · obtain ⟨more,left⟩ : ∃ more, needed - spent.1 = more + 1 := ⟨needed - spent.1 - 1,by omega⟩
      have later : needed - (spent.1 + 1) = more := by omega
      rw [if_neg enough]
      rw [left,later,take_succ_cons,flatMap_cons,toFinset_append,Finset.union_assoc,length_cons]
      refine Prod.ext ?_ rfl
      omega

end

variable {entry : String × List JobId} {gone : Finset JobId} {node : Node}

section

variable {reclaimer : PendingJob} {pool : VictimPool} {cluster : Cluster} {now : Time} {victims : Finset JobId}

def vacated (pool : VictimPool) (victims : Finset JobId) (node : Node) : Bool :=
  (pool.occupants[node.name]?).elim true fun onNode => decide (onNode.toFinset ⊆ victims)

def emptiable (reclaimer : PendingJob) (pool : VictimPool) (cluster : Cluster) (now : Time) : List (String × List JobId) :=
  (cluster.nodes.filter (hostable reclaimer cluster now)).filterMap (evacuable pool)

theorem mayEvict_of_evacuable (found : evacuable pool node = some entry) :
    ∀ jobId ∈ entry.2, pool.mayEvict jobId = true := by
  obtain ⟨onNode,listed,rfl⟩ := map_eq_some_iff.mp found
  exact List.all_eq_true.mp (filter_eq_some_iff.mp listed).2

theorem countP_vacated (clear : ∀ jobId ∈ gone, pool.mayEvict jobId = true) (nodes : List Node) :
    nodes.countP (vacated pool gone) = (nodes.countP fun node => (pool.occupants[node.name]?).isNone) +
      (nodes.filterMap (evacuable pool)).countP fun entry => decide (entry.2.toFinset ⊆ gone) := by
  induction nodes with
  | nil => rfl
  | cons node nodes ih =>
    rw [countP_cons,countP_cons,ih]
    cases onNode : pool.occupants[node.name]? with
    | none =>
      rw [filterMap_cons_none (by simp [evacuable,onNode])]
      simp only [vacated,onNode,elim_none,isNone_none]
      omega
    | some ids =>
      by_cases free : ids.all pool.mayEvict = true
      · have listed : evacuable pool node = some (node.name,ids) := by
          simp only [evacuable,onNode,filter_some,if_pos free,map_some]
        rw [filterMap_cons_some listed,countP_cons]
        simp only [vacated,onNode,elim_some,isNone_some,Bool.false_eq_true,if_false]
        omega
      · -- A holder that may not be evicted is not among those gone.
        have stays : ¬ids.toFinset ⊆ gone := fun inside => free (List.all_eq_true.mpr fun jobId listed =>
          clear jobId (inside (List.mem_toFinset.mpr listed)))
        rw [filterMap_cons_none (by simp only [evacuable,onNode,filter_some,if_neg free,map_none])]
        simp [vacated,onNode,stays]

/-- A set is found when the empty nodes do not suffice but the cheapest of the others make up for the rest, and then it
is what holds those. -/
theorem satisfiableVictimSet_taken (found : satisfiableVictimSet reclaimer pool cluster now = some victims) :
    ∃ taken rest, (emptiable reclaimer pool cluster now).Perm (taken ++ rest) ∧
      ((cluster.nodes.filter (hostable reclaimer cluster now)).countP fun node =>
        (pool.occupants[node.name]?).isNone) + taken.length = neededNodes reclaimer ∧
      victims = (taken.flatMap Prod.snd).toFinset := by
  unfold satisfiableVictimSet at found
  split at found
  · cases found
  dsimp only at found
  rw [foldl_spend] at found
  obtain ⟨sorted,order,same⟩ : ∃ sorted, sorted.Perm (emptiable reclaimer pool cluster now) ∧
      (emptiable reclaimer pool cluster now).insertionSort (fun a b => pool.cheaper a b) = sorted :=
    ⟨_,perm_insertionSort _ _,rfl⟩
  unfold emptiable at same
  rw [same] at found
  generalize List.countP _ _ = empty at found ⊢
  split at found
  next enough =>
    obtain ⟨reached,some_⟩ := enough
    rw [← Option.some.inj found]
    refine ⟨sorted.take (neededNodes reclaimer - empty),sorted.drop (neededNodes reclaimer - empty),?_,?_,?_⟩
    · rw [take_append_drop]
      exact order.symm
    · have short : neededNodes reclaimer - empty ≠ 0 := fun none_ => some_ (by simp [none_])
      rw [length_take]
      omega
    · simp
  · cases found

theorem victims_mayEvict {taken rest : List (String × List JobId)}
    (order : (emptiable reclaimer pool cluster now).Perm (taken ++ rest)) :
    ∀ jobId ∈ (taken.flatMap Prod.snd).toFinset, pool.mayEvict jobId = true := by
  intro jobId listed
  obtain ⟨entry,inside,held⟩ := mem_flatMap.mp (List.mem_toFinset.mp listed)
  obtain ⟨node,-,found⟩ := mem_filterMap.mp (order.mem_iff.mpr (mem_append_left rest inside))
  exact mayEvict_of_evacuable found jobId held

theorem countP_hostable (clear : ∀ jobId ∈ gone, pool.mayEvict jobId = true)
    {taken rest : List (String × List JobId)} (order : (emptiable reclaimer pool cluster now).Perm (taken ++ rest)) :
    (cluster.nodes.countP fun node => vacated pool gone node && hostable reclaimer cluster now node) =
      ((cluster.nodes.filter (hostable reclaimer cluster now)).countP fun node =>
        (pool.occupants[node.name]?).isNone) +
      ((taken.countP fun entry => decide (entry.2.toFinset ⊆ gone)) +
        rest.countP fun entry => decide (entry.2.toFinset ⊆ gone)) := by
  rw [← countP_filter,countP_vacated clear,← countP_append,← order.countP_eq]
  rfl

theorem satisfiableVictimSet_count (found : satisfiableVictimSet reclaimer pool cluster now = some victims) :
    neededNodes reclaimer ≤ cluster.nodes.countP fun node =>
      vacated pool victims node && hostable reclaimer cluster now node := by
  obtain ⟨taken,rest,order,reached,rfl⟩ := satisfiableVictimSet_taken found
  have emptied : ∀ entry ∈ taken, decide (entry.2.toFinset ⊆ (taken.flatMap Prod.snd).toFinset) = true := by
    intro entry inside
    refine decide_eq_true fun jobId held => ?_
    rw [List.mem_toFinset] at held ⊢
    exact mem_flatMap.mpr ⟨entry,inside,held⟩
  rw [countP_hostable (victims_mayEvict order) order,countP_eq_length.mpr emptied]
  omega

/-- Every node that could be emptied has a holder that holds no other such node. -/
def OwnHolders (entries : List (String × List JobId)) : Prop :=
  ∀ entry ∈ entries, ∃ jobId ∈ entry.2, ∀ other ∈ entries.erase entry, jobId ∉ other.2

theorem OwnHolders.apart {entries taken rest : List (String × List JobId)} (own : OwnHolders entries)
    (order : entries.Perm (taken ++ rest)) (left : entry ∈ rest) :
    ¬entry.2.toFinset ⊆ (taken.flatMap Prod.snd).toFinset := by
  intro inside
  obtain ⟨before,after,rfl⟩ := append_of_mem left
  have front : (entry :: (taken ++ (before ++ after))).Perm entries := by
    refine List.Perm.trans ?_ order.symm
    rw [← append_assoc,← append_assoc]
    exact perm_middle.symm
  obtain ⟨listed,others⟩ := cons_perm_iff_perm_erase.mp front
  obtain ⟨jobId,held,single⟩ := own entry listed
  obtain ⟨other,inTaken,shared⟩ := mem_flatMap.mp (List.mem_toFinset.mp (inside (List.mem_toFinset.mpr held)))
  exact single other (others.mem_iff.mp (mem_append_left _ inTaken)) shared

/-- No victim is needless: without one of them too few nodes come free. -/
theorem satisfiableVictimSet_minimal {fewer : Finset JobId} (own : OwnHolders (emptiable reclaimer pool cluster now))
    (found : satisfiableVictimSet reclaimer pool cluster now = some victims) (proper : fewer ⊂ victims) :
    (cluster.nodes.countP fun node => vacated pool fewer node && hostable reclaimer cluster now node) <
      neededNodes reclaimer := by
  obtain ⟨taken,rest,order,reached,rfl⟩ := satisfiableVictimSet_taken found
  obtain ⟨spared,wanted,kept⟩ := Finset.exists_of_ssubset proper
  obtain ⟨entry,inTaken,held⟩ := mem_flatMap.mp (List.mem_toFinset.mp wanted)
  -- The node of a spared victim stays held, and those not taken had a holder outside the set anyway.
  have stays : (taken.countP fun entry => decide (entry.2.toFinset ⊆ fewer)) < taken.length := by
    refine lt_of_le_of_ne countP_le_length fun all => kept ?_
    exact of_decide_eq_true (countP_eq_length.mp all entry inTaken) (List.mem_toFinset.mpr held)
  have untouched : (rest.countP fun entry => decide (entry.2.toFinset ⊆ fewer)) = 0 := by
    refine countP_eq_zero.mpr fun entry left emptied => own.apart order left ?_
    exact (of_decide_eq_true emptied).trans proper.subset
  rw [countP_hostable (fun jobId listed => victims_mayEvict order jobId (proper.subset listed)) order]
  omega

end

section

variable {reclaimer : PendingJob} {pool : VictimPool} {cluster : Cluster} {now : Time} {victims : Finset JobId}
  {slices : JobId → String → ResourceAllocations}

def chargeOf (slices : JobId → String → ResourceAllocations) (onNode : List JobId) (node : String) :
    ResourceAllocations :=
  onNode.foldl (fun used jobId => used.add (slices jobId node)) {}

def Occupied (slices : JobId → String → ResourceAllocations) (occupants : Table String (List JobId))
    (cluster : Cluster) : Prop :=
  ∀ node ∈ cluster.nodes, node.allocResources = chargeOf slices ((occupants[node.name]?).getD []) node.name

def evictNode (slices : JobId → String → ResourceAllocations) (occupants : Table String (List JobId))
    (victims : Finset JobId) (node : Node) : Node :=
  let onNode := (occupants[node.name]?).getD []
  if onNode.any (· ∈ victims) then
    { node with allocResources := chargeOf slices (onNode.filter (· ∉ victims)) node.name }
  else node

def evict (slices : JobId → String → ResourceAllocations) (occupants : Table String (List JobId))
    (victims : Finset JobId) (cluster : Cluster) : Cluster :=
  { cluster with nodes := cluster.nodes.map (evictNode slices occupants victims) }

theorem evictNode_eq (node : Node) : evictNode slices pool.occupants victims node =
    { node with allocResources := (evictNode slices pool.occupants victims node).allocResources } := by
  unfold evictNode
  dsimp only
  split <;> rfl

theorem evictNode_vacated (occupied : Occupied slices pool.occupants cluster)
    (inside : node ∈ cluster.nodes) (empty : vacated pool victims node) :
    evictNode slices pool.occupants victims node = { node with allocResources := {} } := by
  have charge := occupied node inside
  rw [evictNode_eq]
  congr 1
  unfold evictNode
  unfold vacated at empty
  cases onNode : pool.occupants[node.name]? with
  | none =>
    rw [onNode] at charge
    simpa [chargeOf] using charge
  | some ids =>
    rw [onNode] at empty charge
    have gone : ids.toFinset ⊆ victims := of_decide_eq_true empty
    have none_ : ids.filter (· ∉ victims) = [] := by
      rw [filter_eq_nil_iff]
      intro jobId listed
      simpa using gone (List.mem_toFinset.mpr listed)
    dsimp only [getD_some]
    split
    · rw [none_]
      rfl
    rename_i untouched
    cases ids with
    | nil => exact charge
    | cons first rest =>
      refine absurd ?_ untouched
      rw [any_cons,decide_eq_true (gone (by simp))]
      rfl

theorem gate_open {node : String} (allowed : handoffAllows cluster reclaimer node) :
    (HandoffGate.mk cluster.handoffs ∅ []).blockers reclaimer.jobId node = [] := by
  unfold handoffAllows at allowed
  unfold HandoffGate.blockers
  cases handed : cluster.handoffs[node]? with
  | none => rfl
  | some owners =>
    rw [handed,elim_some] at allowed
    rw [filter_some,allowed]
    rfl

theorem prompt_after_eviction (occupied : Occupied slices pool.occupants cluster)
    (found : satisfiableVictimSet reclaimer pool cluster now = some victims) (even : heterogeneous reclaimer = false)
    (lasts : 0 < jobDuration reclaimer.spec) (order : startOrder cluster.selectLocalNodes reclaimer)
    (unreserved : ∀ node ∈ cluster.nodes, hostable reclaimer cluster now node →
      Unreserved cluster.reservations reclaimer now node.name) :
    Prompt cluster.reservations cluster.selectLocalNodes now
      (scheduleJobs (evict slices pool.occupants victims cluster) now [reclaimer] 0) reclaimer := by
  refine ⟨even,lasts,(satisfiableVictimSet_count found).trans ?_,.inl order⟩
  have separate : (NodePlacement.new reclaimer).nodelistIsAdditive = false := by
    simp only [startOrder,Bool.and_eq_true,Bool.not_eq_true'] at order
    exact order.1
  have shown : ∀ node, hostable reclaimer cluster now node →
      (HandoffGate.mk cluster.handoffs ∅ []).hides reclaimer.jobId node.name = false ∧
      (HandoffGate.mk cluster.handoffs ∅ []).floor reclaimer.jobId node.name now = now := by
    intro node host
    simp only [hostable,Bool.and_eq_true] at host
    exact gate_unblocked (gate_open host.2)
  unfold findSuitableNodes NodePlacement.additiveListedNodeUnavailable
  dsimp only
  rw [separate,Bool.false_and,Bool.and_false,Bool.false_and,Bool.or_false,if_neg Bool.false_ne_true,countP_filter]
  -- Neither the candidates' positions nor the timelines' other fields matter.
  change _ ≤ (((evict slices _ victims cluster).nodes.map _).zipIdx).countP ((fun timeline =>
      quiet _ reclaimer (HandoffGate.mk _ ∅ []) now (timeline,0) &&
        ((NodePlacement.new reclaimer).matchesForReservation _ _ now && timeline.node.totalResources.canSatisfy _ &&
          !(HandoffGate.mk _ ∅ []).hides _ timeline.node.name)) ∘ Prod.fst)
  rw [← countP_map,zipIdx_map_fst,countP_map]
  unfold evict
  rw [countP_map]
  refine countP_mono_left fun node inside good => ?_
  rw [Bool.and_eq_true] at good
  obtain ⟨empty,host⟩ := good
  obtain ⟨visible,floor⟩ := shown node host
  have clear := blocker_iff.mpr (unreserved node inside host)
  simp only [hostable,Bool.and_eq_true] at host
  simp only [Function.comp_apply]
  rw [evictNode_vacated occupied inside empty]
  have idle : ∀ cluster : Cluster, seed cluster now { node with allocResources := {} } =
      ⟨{ node with allocResources := {} },[]⟩ := by
    intro cluster
    unfold seed
    exact if_neg (by simp [Node.isCharged,ResourceAllocations.hasDevices])
  rw [idle]
  simp only [quiet,floor,clear,visible,host.1.2,Bool.not_false,Bool.and_true,beq_self_eq_true]
  exact host.1.1

/-- Once the victims are gone, a pass for the job alone starts it: when it takes the same on each node, has no GPU
terms and no additive node list, is not moved for locality, and meets no reservation on the nodes that could host it. -/
theorem eviction_starts_reclaimer (occupied : Occupied slices pool.occupants cluster)
    (found : satisfiableVictimSet reclaimer pool cluster now = some victims)
    (valid : constraintOk cluster.fabric.isSome reclaimer.spec) (unbound : requiresGpuProperties reclaimer.spec = false)
    (even : heterogeneous reclaimer = false) (lasts : 0 < jobDuration reclaimer.spec)
    (order : startOrder cluster.selectLocalNodes reclaimer)
    (unreserved : ∀ node ∈ cluster.nodes, hostable reclaimer cluster now node →
      Unreserved cluster.reservations reclaimer now node.name) {maxJobs : Nat} (runs : 0 < maxJobs) :
    ∃ assignment ∈ (scheduleJobs (evict slices pool.occupants victims cluster) now [reclaimer] maxJobs).assignments,
      assignment.jobId = reclaimer.jobId := by
  have prompt := prompt_after_eviction occupied found even lasts order unreserved
  obtain ⟨plan,planned,start⟩ := @planAt_prompt reclaimer now (evict slices _ victims cluster) _ 0
    (leftOut_single unbound) valid (fun _ => unbound) prompt
  have first : [reclaimer][0]? = some reclaimer := rfl
  exact ⟨⟨reclaimer.jobId,plan.names,plan.perNodeAlloc⟩,
    mem_assignments.mpr ⟨0,reclaimer,plan,runs,first,planned,start.le,rfl⟩,rfl⟩

end

section

def twoCpus : JobId → String → ResourceAllocations := fun _ _ => { cpus := 2 }

def holder (jobId : JobId) (node : String) : Job := { Job.new 0 jobId {} with state := .running, allocatedNodes := [node] }

def crowdedNode (name : String) (gpus : List GpuResource) : Node :=
  { Node.new name { cpus := 4, gpus } with state := .allocated, allocResources := { cpus := 2 } }

def crowded (gpus : List GpuResource) : Cluster where
  nodes := [crowdedNode "n1" gpus,crowdedNode "n2" gpus,crowdedNode "n3" gpus]

def crowdedPool : VictimPool where
  evictable := {2,3}
  occupants := nodeOccupants [holder 1 "n1",holder 2 "n2",holder 3 "n3"] []
  priority := ∅

theorem occupied_crowded {gpus : List GpuResource} : Occupied twoCpus crowdedPool.occupants (crowded gpus) := by
  have jobs : ∀ name ∈ ["n1","n2","n3"], ((crowdedPool.occupants[name]?).getD []).length = 1 := by decide +kernel
  intro node inside
  have named_ : node.name ∈ ["n1","n2","n3"] ∧ node.allocResources = { cpus := 2 } := by
    simp only [crowded,mem_cons,not_mem_nil,or_false] at inside
    rcases inside with rfl | rfl | rfl <;> exact ⟨by simp [crowdedNode,Node.new],rfl⟩
  obtain ⟨jobId,single⟩ := length_eq_one_iff.mp (jobs _ named_.1)
  rw [single,named_.2]
  change { cpus := 2 } = ({} : ResourceAllocations).add { cpus := 2 }
  decide +kernel

theorem eviction_starts_reclaimer_single : ∃ assignment ∈ (scheduleJobs (evict twoCpus crowdedPool.occupants {2} (crowded []))
    0 [request 9 { numTasks := 3 }] 10).assignments, assignment.jobId = 9 := by
  refine eviction_starts_reclaimer occupied_crowded (by decide +kernel) (by decide +kernel) (by decide +kernel)
    (by decide +kernel) (by decide +kernel) (by decide +kernel) (fun node _ _ reservation inside => ?_) (by decide)
  cases inside

def reservedSoon : Cluster :=
  { crowded [] with
    reservations := [⟨"r",Duration.seconds 10,Duration.seconds 20,["n2"],[],["root"],{},"root"⟩] }

/-- A listed node that stays occupied, a task share and a GPU share larger than a node, and a reservation within the
window: victims are found, and the job does not start once they are gone. -/
theorem eviction_in_vain : [
      (request 9 { numNodes := 2, numTasks := 6, nodelist := some "n1" },crowded [],({2,3} : Finset JobId)),
      (request 9 { numNodes := 2, numTasks := 9 },crowded [],{2,3}),
      (request 9 { numNodes := 2, numTasks := 2, gpus := some ⟨3,none⟩ },crowded [gpuOfType 1 "mi300x"],{2,3}),
      (request 9 { numTasks := 3 },reservedSoon,{2})].Forall fun entry =>
    Occupied twoCpus crowdedPool.occupants entry.2.1 ∧
      satisfiableVictimSet entry.1 crowdedPool entry.2.1 0 = some entry.2.2 ∧
      ¬ ∃ assignment ∈ (scheduleJobs (evict twoCpus crowdedPool.occupants entry.2.2 entry.2.1) 0 [entry.1]
        10).assignments, assignment.jobId = entry.1.jobId := by
  refine ⟨⟨occupied_crowded,?_⟩,⟨occupied_crowded,?_⟩,⟨occupied_crowded,?_⟩,⟨occupied_crowded,?_⟩⟩
  · decide +kernel
  · decide +kernel
  · decide +kernel
  · decide +kernel

/-- A job over one node takes the cheapest evictable holder, and no less would do. -/
theorem satisfiableVictimSet_minimal_single : ((crowded []).nodes.countP fun node =>
      vacated crowdedPool ∅ node && hostable (request 9 { numTasks := 3 }) (crowded []) 0 node) < 1 := by
  have found : satisfiableVictimSet (request 9 { numTasks := 3 }) crowdedPool (crowded []) 0 = some {2} := by
    decide +kernel
  refine satisfiableVictimSet_minimal ?_ found (by decide)
  unfold OwnHolders
  decide +kernel

def spanningPool : VictimPool where
  evictable := {1,2}
  occupants := nodeOccupants [{ holder 1 "n1" with allocatedNodes := ["n1","n3"] },holder 2 "n2"] []
  priority := (∅ : Table JobId Int).insert 1 5

/-- The cheapest node goes first, and the job taken next would have freed two nodes by itself. -/
theorem spanning_makes_needless_victim :
    satisfiableVictimSet (request 9 { numNodes := 2 }) spanningPool (crowded []) 0 = some {1,2} ∧
      neededNodes (request 9 { numNodes := 2 }) ≤ (crowded []).nodes.countP fun node =>
        vacated spanningPool {1} node && hostable (request 9 { numNodes := 2 }) (crowded []) 0 node := by
  decide +kernel

end

end Spur.Sched
