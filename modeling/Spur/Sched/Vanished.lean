import Spur.Sched.Planning

/-! A charge that names a GPU the inventory no longer lists: the node's GPUs are not trusted to be free. -/
namespace Spur.Sched
open Spur Spur.Library ResourceAllocations List Option

section

variable {total request : ResourceSet} {current : ResourceAllocations} {id : Nat}

theorem canSatisfy_unknown (named : id ∈ current.deviceIds "gpu") (lost : id ∉ total.gpus.map GpuResource.stableId)
    (fits : total.canSatisfyWithAllocated current request) : request.gpus = [] := by
  have unknown : total.holdsUnknownGpu current = true := by
    refine List.any_eq_true.mpr ⟨id,named,?_⟩
    simpa using fun gpu present same => lost (List.mem_map.mpr ⟨gpu,present,same⟩)
  exact (canSatisfy_iff.mp fits).2.2.1.resolve_right (by simp [unknown])

theorem build_gpuless (none_ : request.gpus = []) (noGpu : request.generic["gpu"]? = none) :
    (buildNodeAllocation total current request).devices["gpu"]? = none := by
  unfold buildNodeAllocation
  rw [find_pushGeneric noGpu]
  unfold ResourceSet.gpuCounts pushGpus
  rw [none_]
  exact Std.ExtTreeMap.getElem?_empty

end

section
open AllocationSweep

variable {time : Time} {used : ResourceAllocations} {held : Interval} {id : Nat} {timeline : NodeTimeline}

private theorem leave_names {ending : List Interval} (named : id ∈ used.deviceIds "gpu") (inside : held ∈ ending)
    (lasts : time < held.end_) (others : ∀ i ∈ ending, i.end_ ≤ time → i.resources.devices["gpu"]? = none) :
    id ∈ (leave time used ending).1.deviceIds "gpu" ∧ held ∈ (leave time used ending).2 := by
  induction ending generalizing used with
  | nil => cases inside
  | cons first ending ih =>
    unfold leave
    split
    next over_ =>
      have gone := others first mem_cons_self over_
      have later : held ∈ ending := by
        rcases mem_cons.mp inside with rfl | later
        · exact absurd over_ lasts.not_ge
        · exact later
      refine ih ?_ later fun i listed => others i (mem_cons_of_mem _ listed)
      unfold deviceIds at named ⊢
      rwa [devicesOf_subtract,gone]
    next => exact ⟨named,inside⟩

/-- A slot that is still running is counted when a search opens, whatever slots have ended by then, as long as none
of those holds GPUs. -/
theorem opening_names (sorted : timeline.intervals.Pairwise fun a b => a.start ≤ b.start)
    (inside : held ∈ timeline.intervals) (begun : held.start ≤ time) (lasts : time < held.end_)
    (named : id ∈ held.resources.deviceIds "gpu")
    (others : ∀ i ∈ timeline.intervals, i.start ≤ time → i.end_ ≤ time → i.resources.devices["gpu"]? = none) :
    id ∈ (timeline.opening time).used.deviceIds "gpu" ∧ held ∈ (timeline.opening time).ending := by
  have active : held ∈ timeline.intervals.takeWhile fun i => i.start ≤ time := by
    rw [takeWhile_eq_filter sorted]
    exact mem_filter.mpr ⟨inside,by simpa using begun⟩
  have ended : ∀ i ∈ timeline.intervals.takeWhile (fun i => i.start ≤ time), i.end_ ≤ time →
      i.resources.devices["gpu"]? = none := by
    intro i listed
    rw [takeWhile_eq_filter sorted] at listed
    obtain ⟨within,starts⟩ := mem_filter.mp listed
    exact others i within (by simpa using starts)
  obtain ⟨total,later,perm⟩ := NodeTimeline.enter_eq {} [] _
  have first : id ∈ (enter time {} [] timeline.intervals).used.deviceIds "gpu" := by
    rw [total,← foldl_map]
    exact mem_deviceIds_sumOf.mpr ⟨_,List.mem_map_of_mem active,named⟩
  obtain ⟨kept,still⟩ := @leave_names time _ held id _ first
    (perm.symm.subset active) lasts fun i listed => ended i (perm.subset listed)
  unfold NodeTimeline.opening AllocationSweep.new AllocationSweep.advanceTo
  -- Opened twice at one instant: nothing enters the second time.
  have nothing : (enter time {} [] timeline.intervals).upcoming.takeWhile (fun i => i.start ≤ time) = [] := by
    rw [later]
    exact takeWhile_eq_nil_iff.mpr fun some_ => by simpa using dropWhile_get_zero_not _ _ some_
  obtain ⟨total_,_,perm_⟩ := NodeTimeline.enter_eq _ _ _
  rw [nothing] at total_ perm_
  rw [append_nil] at perm_
  refine leave_names (by rw [total_]; exact kept) (perm_.symm.subset still) lasts fun i listed => ended i ?_
  exact perm.subset (leave_sublist.subset (perm_.subset listed))

end

section

variable {reservations : List Reservation} {job : PendingJob} {gate : HandoffGate} {now : Time}
  {timelines : List NodeTimeline} {placement : Placement} {timeline : NodeTimeline} {held : Interval} {id : Nat}

theorem Placed.gpuless (placed : Placed reservations job gate now timelines placement) (names : (nodeNames timelines).Nodup)
    (atOnce : placement.start ≤ now) (inside : timeline ∈ timelines)
    (sorted : timeline.intervals.Pairwise fun a b => a.start ≤ b.start)
    (running : held ∈ timeline.intervals) (begun : held.start ≤ now) (lasts : now < held.end_)
    (named : id ∈ held.resources.deviceIds "gpu") (lost : id ∉ timeline.total.gpus.map GpuResource.stableId)
    (others : ∀ i ∈ timeline.intervals, i.start ≤ now → i.end_ ≤ now → i.resources.devices["gpu"]? = none)
    (stocked : timeline.total.gpus ≠ []) {alloc : ResourceAllocations}
    (found : placement.perNodeAlloc[timeline.node.name]? = some alloc) : alloc.devices["gpu"]? = none := by
  obtain ⟨ranked,chosen,rfl,built⟩ := placed.gives names inside found
  obtain ⟨exactly,free,-⟩ := placed.free_now chosen atOnce
  have timed : (timingRequest job ranked.timeline).gpus = [] := by
    obtain ⟨counted,ending⟩ := opening_names sorted running begun lasts named others
    rcases NodeTimeline.earliestStart_eq_after free with ⟨fits,_⟩ | ⟨_,none_⟩
    · exact canSatisfy_unknown counted lost fits
    · rw [none_] at ending
      cases ending
  have current : id ∈ (ranked.timeline.accumulatedAt now).deviceIds "gpu" := by
    rw [NodeTimeline.accumulatedAt_eq sorted]
    refine mem_deviceIds_sumOf.mpr ⟨held.resources,List.mem_map_of_mem ?_,named⟩
    exact mem_filter.mpr ⟨mem_filter.mpr ⟨running,by simpa using begun⟩,by simpa using lasts⟩
  rcases built with ⟨_,rfl⟩ | ⟨_,request,enough,noGpu,rfl⟩
  · unfold uniformAlloc
    unfold timingRequest at timed
    split
    next exclusive =>
      rw [if_pos exclusive] at timed
      exact absurd timed stocked
    next shared =>
      rw [if_neg shared] at timed
      exact build_gpuless timed genericRequest_gpu
  · rw [exactly] at enough
    exact build_gpuless (canSatisfy_unknown current lost enough) noGpu

def Unclaimed (job : PendingJob) (node : Node) : Prop :=
  ∀ constraints, Constraints.parse job.spec.constraint = some constraints →
    ∀ gpu ∈ node.totalResources.gpus, constraints.matchesGpu gpu → constraints.groupKey node.name gpu = none

variable {cluster : Cluster} {pending : List PendingJob} {pass : Pass} {context : FabricContext} {node : Node}

theorem BoundPlan.unclaimed {plan : Assignment × Time} (bound : BoundPlan cluster context now pass job plan)
    (nodes : pass.timelines.map NodeTimeline.node = cluster.nodes) (names : (cluster.nodes.map Node.name).Nodup)
    (inside : node ∈ cluster.nodes) (unclaimed : Unclaimed job node) : plan.1.perNodeAlloc[node.name]? = none := by
  obtain @⟨constraints,demand,group,floor,placement,parsed,asks,tried,from_,trialed⟩ := bound
  have apart : (pass.timelines.map fun timeline => timeline.node.name).Nodup := by
    rw [← nodes,List.map_map] at names
    exact names
  rw [← nodes] at inside
  obtain ⟨timeline,there,rfl⟩ := List.mem_map.mp inside
  have bare : (project job constraints group.2 timeline).total.gpus = [] := by
    refine filter_eq_nil_iff.mpr fun gpu present allowed => ?_
    obtain ⟨_,key,members⟩ := triedGroups_spec tried
    obtain ⟨other,listed,same,match_,own,_,fits,keyed,_⟩ := members _ (contains_iff_mem.mp allowed)
    have itself := inj_on_of_nodup_map names listed (nodes ▸ List.mem_map_of_mem there) same
    subst itself
    rw [unclaimed _ parsed match_ own fits] at keyed
    cases keyed
  have absent : placement.perNodeAlloc[timeline.node.name]? = none := by
    refine plannedAt_absent (placeJob_placed trialed.found).planned fun picked => ?_
    obtain ⟨ranked,listed,same⟩ := List.mem_map.mp picked
    obtain ⟨at_,matches_,_⟩ := mem_findSuitableNodes ((placeJob_placed trialed.found).suitable ranked listed)
    obtain ⟨real,real_there,made⟩ := List.mem_map.mp (mem_of_getElem? at_)
    rw [Ranked.name,← made] at same
    have itself := inj_on_of_nodup_map apart real_there there same
    subst itself
    rw [← made] at matches_
    have down : (project job constraints group.2 real).node.state = .down := by
      refine if_pos ?_
      rw [Bool.or_eq_true,Bool.or_eq_true]
      exact .inl (.inl (List.isEmpty_iff.mpr bare))
    simp [NodePlacement.matchesForReservation,down,NodeState.isUp] at matches_
  have swapped := trialed.allocs apart timeline there
  rw [absent] at swapped
  cases given_ : plan.1.perNodeAlloc[timeline.node.name]? with
  | none => rfl
  | some alloc =>
    rw [given_] at swapped
    exact swapped.elim

end

section

variable {cluster : Cluster} {now : Time} {pending : List PendingJob} {node : Node} {id : Nat}

theorem isCharged_of_gpu (named : id ∈ node.allocResources.deviceIds "gpu") : node.isCharged := by
  unfold Node.isCharged ResourceAllocations.hasDevices
  rw [Bool.or_eq_true]
  refine .inr ?_
  cases stored : node.allocResources.devices["gpu"]? with
  | none => simp [deviceIds,devicesOf,stored] at named
  | some devices =>
    have entries : devices ≠ [] := by
      rintro rfl
      simp [deviceIds,devicesOf,stored] at named
    exact List.any_eq_true.mpr ⟨("gpu",devices),Std.ExtTreeMap.mem_toList_iff_getElem?_eq_some.mpr stored,
      by simpa using entries⟩

theorem slotAt_gpuless (names : (cluster.nodes.map Node.name).Nodup) (ids : (pending.map (·.jobId)).Nodup)
    (busy : ∀ (name : String) (until_ : Time), cluster.busyUntil[name]? = some until_ → now < until_)
    (inside : node ∈ cluster.nodes) (named : id ∈ node.allocResources.deviceIds "gpu")
    (lost : id ∉ node.totalResources.gpus.map GpuResource.stableId) (stocked : node.totalResources.gpus ≠ [])
    (unclaimed : cluster.fabric.isSome → ∀ job ∈ pending, requiresGpuProperties job.spec → Unclaimed job node)
    {turn : Nat} : ∀ i, slotAt cluster now pending turn node.name = some i → i.start ≤ now →
      i.resources.devices["gpu"]? = none := by
  induction turn using Nat.strong_induction_on with
  | _ turn earlier =>
    intro i slot atOnce
    obtain ⟨job,at_,rest⟩ := bind_eq_some_iff.mp slot
    obtain ⟨plan,planned,rest⟩ := bind_eq_some_iff.mp rest
    obtain ⟨alloc,given_,rest⟩ := bind_eq_some_iff.mp rest
    cases rest
    have nodes := (@scheduleJobs_timelines cluster now pending turn).1
    have frame := (@checkedPass_frame cluster now pending (scheduleJobs cluster now pending turn) job).1
    rcases planOf_cases planned with ⟨_,found⟩ | ⟨context,fabric,needs,found⟩
    · obtain ⟨placement,chosen,rfl⟩ := plainPlan_placed found
      rw [frame] at chosen
      have placed := placeJob_placed chosen
      have apart : (nodeNames (scheduleJobs cluster now pending turn).timelines).Nodup := by rwa [nodeNames_nodes,nodes]
      obtain ⟨timeline,there,rfl⟩ := List.mem_map.mp (nodes ▸ inside)
      obtain ⟨sorted,slots⟩ := scheduleJobs_slots names timeline there
      refine placed.gpuless apart atOnce there sorted
        ((slots _).mpr (.inl (mem_seed.mpr ⟨isCharged_of_gpu named,rfl⟩))) le_rfl (seed_lasts (busy _)) named lost ?_
        stocked given_
      intro i within begun over_
      rcases (slots i).mp within with seeded | ⟨before,early,slot⟩
      · rw [(mem_seed.mp seeded).2] at over_
        exact absurd over_ (seed_lasts (busy _)).not_ge
      · exact earlier before early i slot begun
    · obtain ⟨best,chosen,rfl⟩ := map_eq_some_iff.mp found
      have bound := @planGpuJob_bound now _
        cluster job context (by rw [frame]; exact scheduleJobs_fresh ids at_) best chosen
      rw [bound.unclaimed (by rw [frame]; exact nodes) names inside
        (unclaimed (by rw [fabric]; rfl) job (mem_of_getElem? at_) needs)] at given_
      cases given_

/-- With the expected releases ahead, no job is given a GPU of a node whose charge names one the inventory lost, if no
job with GPU terms claims one there. -/
theorem vanished_gpu_blocks_node {maxJobs : Nat} (names : (cluster.nodes.map Node.name).Nodup)
    (ids : (pending.map (·.jobId)).Nodup)
    (busy : ∀ (name : String) (until_ : Time), cluster.busyUntil[name]? = some until_ → now < until_)
    (inside : node ∈ cluster.nodes) (lost : node.totalResources.holdsUnknownGpu node.allocResources)
    (unclaimed : cluster.fabric.isSome → ∀ job ∈ pending, requiresGpuProperties job.spec → Unclaimed job node) :
    ∀ assignment ∈ (scheduleJobs cluster now pending maxJobs).assignments, ∀ alloc,
      assignment.perNodeAlloc[node.name]? = some alloc →
        ∀ id ∈ alloc.deviceIds "gpu", id ∉ node.totalResources.gpus.map GpuResource.stableId := by
  intro assignment listed alloc given_ id taken present
  obtain ⟨lost_,named,absent⟩ := List.any_eq_true.mp lost
  have stocked : node.totalResources.gpus ≠ [] := fun empty => by simp [empty] at present
  obtain ⟨turn,job,plan,_,at_,planned,atOnce,rfl⟩ := mem_assignments.mp listed
  have slot : slotAt cluster now pending turn node.name =
      some ⟨plan.start,plan.start + jobDuration job.spec,alloc,some job.jobId⟩ := by
    simp [slotAt,at_,planned,given_]
  have empty := slotAt_gpuless names ids busy inside named (by simpa using absent) stocked unclaimed _ slot atOnce
  simp [deviceIds,devicesOf,show alloc.devices["gpu"]? = none from empty] at taken

end

section

def lostGpu : Cluster :=
  { loneCluster twoGpus (gpuCharge 9 1) (some gpuBindings) with
    busyUntil := (∅ : Table String Time).insert "n1" (Duration.seconds 10) }

def oneGpu (jobId : JobId) (constraint : Option String) : PendingJob :=
  request jobId { gpusPerNode := some ⟨1,none⟩, constraint }

theorem lostGpu_busy (name : String) (until_ : Time) (found : lostGpu.busyUntil[name]? = some until_) : 0 < until_ := by
  have stored := Table.find_insert.symm.trans found
  split at stored
  · cases stored
    decide
  · simp at stored

theorem vanished_gpu_blocks_node_typed :
    (scheduleJobs lostGpu 0 [oneGpu 1 none,oneGpu 2 (some "gpu.type=mi250"),request 3 {}] 10).assignments.length = 1 ∧
      ∀ assignment ∈ (scheduleJobs lostGpu 0 [oneGpu 1 none,oneGpu 2 (some "gpu.type=mi250"),request 3 {}]
        10).assignments, ∀ alloc, assignment.perNodeAlloc["n1"]? = some alloc →
          ∀ id ∈ alloc.deviceIds "gpu", id ∉ twoGpus.gpus.map GpuResource.stableId := by
  refine ⟨by decide +kernel,@vanished_gpu_blocks_node lostGpu 0 _ _ 10 (nodup_singleton _) (by decide) lostGpu_busy
    (mem_singleton_self _) (by decide +kernel) fun _ job listed needs constraints parsed gpu present fits => ?_⟩
  have typed : Constraints.parse (some "gpu.type=mi250") = some { predicates := [⟨.kind,.eq,.text "mi250"⟩] } := by
    decide +kernel
  have plain : requiresGpuProperties (oneGpu 1 none).spec = false ∧ requiresGpuProperties (request 3 {}).spec = false := by
    decide +kernel
  simp only [mem_cons,not_mem_nil,or_false] at listed
  rcases listed with rfl | rfl | rfl
  · cases needs
  · cases typed.symm.trans parsed
    have none_ : ∀ gpu ∈ twoGpus.gpus, Constraints.matchesGpu { predicates := [⟨.kind,.eq,.text "mi250"⟩] } gpu = false := by
      decide +kernel
    rw [none_ gpu present] at fits
    cases fits
  · cases needs

/-- The same request is refused without a GPU term, and given a GPU of the node with one. -/
theorem constrained_job_given_blocked_gpu : lostGpu.nodes.map (fun node =>
      node.totalResources.holdsUnknownGpu node.allocResources) = [true] ∧
    (∀ (name : String) (until_ : Time), lostGpu.busyUntil[name]? = some until_ → 0 < until_) ∧
    (scheduleJobs lostGpu 0 [oneGpu 1 none] 10).assignments.length = 0 ∧
    ((scheduleJobs lostGpu 0 [oneGpu 1 (some "gpu.type=mi300x")] 10).assignments.map fun assignment =>
      (assignment.perNodeAlloc["n1"]?).map (deviceIds · "gpu")) = [some [1]] ∧
    twoGpus.gpus.map GpuResource.stableId = [1,2] :=
  ⟨by decide +kernel,lostGpu_busy,by decide +kernel,by decide +kernel,rfl⟩

end

end Spur.Sched
