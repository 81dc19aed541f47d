import Spur.Sched.Earliest
import Spur.Sched.Dispatch

/-! The slots a pass plans stay within the node up to the horizon of the search. -/
namespace Spur.Sched
open Spur Spur.Library ResourceAllocations List

/-- The cpus, memory and GPUs of each type that a list of allocations takes are within an inventory. -/
structure CountFit (total : ResourceSet) (held : List ResourceAllocations) : Prop where
  cpus : (held.map cpus).sum ≤ total.cpus
  memory : (held.map memoryMb).sum ≤ total.memoryMb
  gpus : ∀ gpuType, (held.map (gpusHeld total gpuType)).sum ≤ total.gpus.countP fun gpu => gpu.gpuType == gpuType

variable {memoryMb count more : Nat} {timelines : List NodeTimeline} {node : Node} {next : Pass}

section

variable {total request : ResourceSet} {current alloc : ResourceAllocations} {gpuType : String}

private theorem pickGpus_typed (distinct : (total.gpus.map GpuResource.stableId).Nodup) {kind : String}
    (other : kind ≠ "any") (apart : kind ≠ gpuType) :
    load (ofGpuType total gpuType) AllocatedDevice.count (total.pickGpus current (some kind) count) = 0 := by
  unfold load
  rw [filter_eq_nil_iff.mpr]
  · rfl
  intro dev inside
  obtain ⟨id,taken,rfl⟩ := mem_map.mp inside
  obtain ⟨-,-,gpu,present,rfl,typed⟩ := mem_availableGpuIds (mem_of_mem_take taken)
  have named := (typed kind rfl).resolve_left other
  unfold ofGpuType AllocatedDevice.injectable
  rw [findGpu_of_mem distinct present]
  simpa [named] using apart

private theorem load_pickGpus_le (kind : Option String) (count : Nat) :
    load (ofGpuType total gpuType) AllocatedDevice.count (total.pickGpus current kind count) ≤ count := by
  refine load_le_sum.trans ?_
  unfold ResourceSet.pickGpus
  rw [map_map]
  have ones : (((total.availableGpuIds current kind).take count).map
      (AllocatedDevice.count ∘ AllocatedDevice.injectable)).sum = ((total.availableGpuIds current kind).take count).length := by
    simp [Function.comp_def,AllocatedDevice.injectable]
  rw [ones]
  exact length_take_le _ _

theorem gpusHeld_build (distinct : (total.gpus.map GpuResource.stableId).Nodup) (noGpu : request.generic["gpu"]? = none)
    (named : gpuType ≠ "any") :
    gpusHeld total gpuType (buildNodeAllocation total current request) ≤
      request.gpus.countP (fun gpu => gpu.gpuType == gpuType) + request.gpus.countP fun gpu => gpu.gpuType == "any" := by
  have fold : ∀ (wanted : List _) (alloc : ResourceAllocations),
      gpusHeld total gpuType (pushGpus total current wanted alloc) ≤ gpusHeld total gpuType alloc +
        (((wanted.filter fun entry => entry.1 == gpuType).map Prod.snd).sum +
          ((wanted.filter fun entry => entry.1 == "any").map Prod.snd).sum) := by
    intro wanted
    induction wanted with
    | nil => simp [pushGpus]
    | cons entry rest ih =>
      obtain ⟨kind,count⟩ := entry
      intro alloc
      refine (ih _).trans ?_
      have pushed : ∀ devices, gpusHeld total gpuType (alloc.pushDevices "gpu" devices) =
          gpusHeld total gpuType alloc + load (ofGpuType total gpuType) AllocatedDevice.count devices := by
        intro devices
        unfold gpusHeld
        rw [devicesOf_pushDevices,if_pos rfl,load_append]
      dsimp only
      rw [pushed]
      by_cases any : kind = "any"
      · have taken := @load_pickGpus_le total (current.add alloc) gpuType none count
        rw [if_pos any,filter_cons_of_neg (by simpa [any] using named.symm),
          filter_cons_of_pos (by simp [any]),map_cons,sum_cons]
        omega
      · rw [if_neg any,filter_cons_of_neg (p := fun entry : String × Nat => entry.1 == "any") (by simpa using any)]
        by_cases same : kind = gpuType
        · have taken := @load_pickGpus_le total (current.add alloc) gpuType (some kind) count
          rw [filter_cons_of_pos (by simpa using same),map_cons,sum_cons]
          omega
        · rw [pickGpus_typed distinct any same,filter_cons_of_neg (by simpa using same)]
          omega
  have held : gpusHeld total gpuType (buildNodeAllocation total current request) =
      gpusHeld total gpuType (pushGpus total current request.gpuCounts.toList
        { cpus := request.cpus, memoryMb := request.memoryMb, generation := total.generation }) := by
    unfold gpusHeld buildNodeAllocation
    rw [devicesOf_pushGeneric noGpu]
  rw [held]
  refine (fold _ _).trans ?_
  rw [sum_entries_at,sum_entries_at,gpuCounts_getD,gpuCounts_getD]
  simp [gpusHeld,devicesOf]

theorem gpusHeld_exclusive (formed : total.WellFormed) {gpuType : String} :
    gpusHeld total gpuType (buildExclusiveAllocation total memoryMb) =
      total.gpus.countP fun gpu => gpu.gpuType == gpuType := by
  unfold gpusHeld
  rw [devicesOf_buildExclusive formed.noGenericGpu]
  have each : ∀ gpus : List _, gpus ⊆ total.gpus → load (ofGpuType total gpuType) AllocatedDevice.count
        (gpus.map fun gpu => AllocatedDevice.injectable gpu.stableId) = gpus.countP fun gpu => gpu.gpuType == gpuType := by
    intro gpus
    induction gpus with
    | nil => intro _; rfl
    | cons gpu rest ih =>
      intro inside
      rw [cons_subset] at inside
      have own : ofGpuType total gpuType (AllocatedDevice.injectable gpu.stableId) = (gpu.gpuType == gpuType) := by
        unfold ofGpuType AllocatedDevice.injectable
        rw [findGpu_of_mem formed.distinct inside.1]
        rfl
      rw [map_cons,load_cons,ih inside.2,own,countP_cons,Nat.add_comm]
      rfl
  exact each _ (List.Subset.refl _)

/-- An allocation that a node may make: within its inventory, with GPUs of its own. -/
structure Slot (total : ResourceSet) (alloc : ResourceAllocations) : Prop where
  scalars : ScalarFit total [alloc]
  gpus : alloc.totalDeviceCount "gpu" ≤ total.gpus.length
  known : alloc.deviceIds "gpu" ⊆ total.gpus.map GpuResource.stableId

theorem Slot.cpus (slot : Slot total alloc) : alloc.cpus ≤ total.cpus := by
  simpa using slot.scalars.cpus

theorem Slot.memory (slot : Slot total alloc) : alloc.memoryMb ≤ total.memoryMb := by
  simpa using slot.scalars.memory

theorem Slot.generic (slot : Slot total alloc) {name : String} (other : name ≠ "gpu") :
    alloc.totalDeviceCount name ≤ (total.generic[name]?).getD 0 := by
  simpa using slot.scalars.generic name other

private theorem total_of_single {devices : List AllocatedDevice} {ids : List Nat}
    (distinct : (devices.map AllocatedDevice.deviceId).Nodup) (known : ∀ dev ∈ devices, dev.deviceId ∈ ids)
    (single : ∀ dev ∈ devices, dev.count = 1) : (devices.map AllocatedDevice.count).sum ≤ ids.length := by
  have ones : (devices.map AllocatedDevice.count).sum = (devices.map AllocatedDevice.deviceId).length := by
    rw [map_congr_left single]
    simp
  rw [ones]
  refine (List.Nodup.subperm distinct fun id inside => ?_).length_le
  obtain ⟨dev,listed,rfl⟩ := mem_map.mp inside
  exact known dev listed

private theorem scalarFit_nil {total : ResourceSet} : ScalarFit total [] where
  cpus := Nat.zero_le _
  memory := Nat.zero_le _
  generic := fun _ _ => Nat.zero_le _

private theorem totals_nil : Totals {} [] where
  cpus := rfl
  memory := rfl
  generic := fun _ _ => rfl

theorem slot_share (formed : total.WellFormed) {current : ResourceAllocations}
    (idle : total.canSatisfyWithAllocated {} request) (noGpu : request.generic["gpu"]? = none) :
    Slot total (buildNodeAllocation total current request) := by
  obtain ⟨cpus,memory,generic⟩ := buildNodeAllocation_scalars total current
  have free := @freeGpus_build total current formed.distinct request noGpu
  refine ⟨scalarFit_share scalarFit_nil totals_nil idle cpus.le memory.le
    fun name other => (generic name other).le,?_,?_⟩
  · have bound := total_of_single free.distinct free.known free.single
    rwa [length_map] at bound
  · intro id inside
    obtain ⟨dev,listed,rfl⟩ := mem_map.mp inside
    exact free.known dev listed

theorem slot_whole (formed : total.WellFormed) (room : memoryMb ≤ total.memoryMb) :
    Slot total (buildExclusiveAllocation total memoryMb) := by
  obtain ⟨cpus,memory,generic⟩ := buildExclusiveAllocation_scalars total
  refine ⟨scalarFit_share scalarFit_nil totals_nil canSatisfy_self cpus.le (memory.trans_le room)
    fun name other => (generic name other).le,?_,?_⟩
  · unfold totalDeviceCount
    rw [devicesOf_buildExclusive formed.noGenericGpu]
    simp [Function.comp_def,AllocatedDevice.injectable]
  · unfold deviceIds
    rw [devicesOf_buildExclusive formed.noGenericGpu,map_map]
    exact List.Subset.refl _

end

section

variable {total request : ResourceSet} {alloc : ResourceAllocations} {timeline : NodeTimeline} {now start end_ : Time}
  {slots : Nat}

structure Ample (slots : Nat) (total : ResourceSet) : Prop where
  cpus : slots * total.cpus ≤ u32Max
  memory : slots * total.memoryMb ≤ u64Max
  generic : ∀ name : String, slots * (total.generic[name]?).getD 0 ≤ u64Max
  gpus : slots * total.gpus.length < 2 ^ 32

theorem Ample.mono (ample : Ample more total) (le : slots ≤ more) : Ample slots total where
  cpus := (Nat.mul_le_mul_right _ le).trans ample.cpus
  memory := (Nat.mul_le_mul_right _ le).trans ample.memory
  generic := fun name => (Nat.mul_le_mul_right _ le).trans (ample.generic name)
  gpus := (Nat.mul_le_mul_right _ le).trans_lt ample.gpus

/-- A timeline with a number of slots at most, which together fit at every instant up to the horizon. -/
structure Kept (now : Time) (slots : Nat) (timeline : NodeTimeline) : Prop extends timeline.Current now where
  lasting : ∀ i ∈ timeline.intervals, i.start < i.end_
  few : timeline.intervals.length ≤ slots
  slot : ∀ i ∈ timeline.intervals, Slot timeline.total i.resources
  fits : ∀ time, time < now + maxLookahead → CountFit timeline.total (timeline.heldAt time)

private theorem sum_le_mul {α : Type} {weight : α → Nat} {members : List α} {bound : Nat}
    (each : ∀ x ∈ members, weight x ≤ bound) (few : members.length ≤ slots) :
    (members.map weight).sum ≤ slots * bound := by
  have whole := sum_le_card_nsmul _ bound fun value inside => by
    obtain ⟨x,listed,rfl⟩ := mem_map.mp inside
    exact each x listed
  rw [length_map] at whole
  exact whole.trans (Nat.mul_le_mul_right bound few)

theorem Kept.telling (kept : Kept now slots timeline) :
    ∀ i ∈ timeline.intervals, Telling (timeline.total.gpus.map GpuResource.stableId) i.resources :=
  fun i inside _ listed => .inl ((kept.slot i inside).known listed)

theorem Kept.regular (kept : Kept now slots timeline) (ample : Ample slots timeline.total) : timeline.Regular where
  sorted := kept.sorted
  lasting := kept.lasting
  room := fun meter => by
    cases meter with
    | cpus =>
      refine (sum_le_mul (fun i inside => ?_) kept.few).trans ample.cpus
      exact (kept.slot i inside).cpus
    | memory =>
      refine (sum_le_mul (fun i inside => ?_) kept.few).trans ample.memory
      exact (kept.slot i inside).memory
    | device name id =>
      by_cases gpu : name = "gpu"
      · subst gpu
        have all := sum_le_mul (fun i inside => (countAt_le_total id).trans (kept.slot i inside).gpus) kept.few
        have small := ample.gpus
        exact all.trans (le_of_lt (small.trans (show 2 ^ 32 < u64Max by decide)))
      · refine (sum_le_mul (fun i inside => (countAt_le_total id).trans ?_) kept.few).trans (ample.generic name)
        exact (kept.slot i inside).generic gpu

theorem Kept.small (kept : Kept now slots timeline) (ample : Ample slots timeline.total) :
    (timeline.intervals.map fun i => i.resources.totalDeviceCount "gpu").sum < 2 ^ 32 :=
  (sum_le_mul (fun i inside => (kept.slot i inside).gpus) kept.few).trans_lt ample.gpus

/-- The GPUs of an allocation are covered by those the request was checked for: type by type, or by the
wildcard where the node has one type only. -/
def Drawn (total request : ResourceSet) (alloc : ResourceAllocations) : Prop :=
  (∀ gpuType, gpuType ≠ "any" →
      gpusHeld total gpuType alloc ≤ request.gpus.countP fun gpu => gpu.gpuType == gpuType) ∨
    ∃ kind, (∀ gpu ∈ total.gpus, gpu.gpuType = kind) ∧
      gpusHeld total kind alloc ≤ request.gpus.countP fun gpu => gpu.gpuType == "any"

theorem gpusHeld_absent {gpuType : String} (absent : ∀ gpu ∈ total.gpus, gpu.gpuType ≠ gpuType)
    (alloc : ResourceAllocations) : gpusHeld total gpuType alloc = 0 := by
  unfold gpusHeld load
  rw [filter_eq_nil_iff.mpr]
  · rfl
  intro dev _
  unfold ofGpuType
  cases found : total.findGpu _ with
  | none => simp
  | some gpu => simpa using absent gpu (List.mem_of_find?_eq_some found)

theorem gpusHeld_le_total {total : ResourceSet} {gpuType : String} {alloc : ResourceAllocations} :
    gpusHeld total gpuType alloc ≤ alloc.totalDeviceCount "gpu" :=
  load_le_sum

/-- In a window that the search found free, the allocation fits beside what is held at every instant. -/
theorem Kept.beside {duration : Duration} (kept : Kept now slots timeline) (ample : Ample slots timeline.total)
    (formed : timeline.total.WellFormed) (idle : timeline.total.canSatisfyWithAllocated {} request)
    (free : timeline.earliestStart request duration start = start) (cpus : alloc.cpus ≤ request.cpus)
    (memory : alloc.memoryMb ≤ request.memoryMb) (drawn : Drawn timeline.total request alloc) {time : Time}
    (begun : start ≤ time) (open_ : time < start + duration) (before : time < now + maxLookahead) :
    CountFit timeline.total (alloc :: timeline.heldAt time) := by
  have regular := kept.regular ample
  have positive : 0 < duration := pos_of_lt_add_right (begun.trans_lt open_)
  have fits : timeline.canSatisfyAt time request := earliestStart_fits regular kept.telling (kept.small ample) idle positive
    (by rw [free]; exact lt_lookahead) (by rwa [free]) (by rwa [free])
  have counts := counts_accumulatedAt (regular.bounded kept.telling) kept.sorted time
  have small := (sum_heldAt_le (totalDeviceCount · "gpu") time).trans_lt (kept.small ample)
  have now_ := kept.fits time before
  obtain ⟨enoughCpus,enoughMemory,typed⟩ := canSatisfy_counts counts small fits
  refine ⟨?_,?_,fun gpuType => ?_⟩
  · have held := now_.cpus
    rw [map_cons,sum_cons]
    omega
  · have held := now_.memory
    rw [map_cons,sum_cons]
    omega
  · have held := now_.gpus gpuType
    rw [map_cons,sum_cons]
    by_cases wildcard : gpuType = "any"
    · rw [wildcard] at held ⊢
      rw [gpusHeld_absent formed.noWildcard]
      omega
    rcases drawn with each | ⟨kind,single,few⟩
    · have own := each gpuType wildcard
      have enough := typed gpuType wildcard
      omega
    · by_cases same : gpuType = kind
      · subst same
        have enough := canSatisfy_any fits single
        rw [counts.deviceTotal] at enough
        have part : ((timeline.heldAt time).map (gpusHeld timeline.total gpuType)).sum ≤
            ((timeline.heldAt time).map _).sum :=
          sum_le_sum fun held _ => gpusHeld_le_total
        omega
      · rw [gpusHeld_absent fun gpu inside => by rw [single gpu inside]; exact Ne.symm same]
        omega

theorem CountFit.perm {held others : List ResourceAllocations} (fit : CountFit total held) (same : others.Perm held) :
    CountFit total others where
  cpus := (same.map _).sum_eq.trans_le fit.cpus
  memory := (same.map _).sum_eq.trans_le fit.memory
  gpus := fun gpuType => (same.map _).sum_eq.trans_le (fit.gpus gpuType)

theorem Kept.mono (kept : Kept now slots timeline) (le : slots ≤ more) : Kept now more timeline :=
  { kept with few := kept.few.trans le }

theorem Kept.reserve (kept : Kept now slots timeline) (later : now ≤ start) (lasts : start < end_)
    (slot : Slot timeline.total alloc) (beside : ∀ time, start ≤ time → time < end_ → time < now + maxLookahead →
      CountFit timeline.total (alloc :: timeline.heldAt time)) {jobId : Option JobId} :
    Kept now (slots + 1) (timeline.reserveForJob start end_ alloc jobId) := by
  refine ⟨reserveForJob_current kept.toCurrent later (later.trans_lt lasts),forall_reserve lasts kept.lasting,?_,
    forall_reserve slot kept.slot,fun time before => CountFit.perm ?_ heldAt_reserve⟩
  · rw [(timeline.reserveForJob_perm start end_ alloc jobId).length_eq]
    exact Nat.succ_le_succ kept.few
  · split
    next open_ => exact beside time open_.1 open_.2 before
    · exact kept.fits time before

end

/-- Each node gives the job the share it was timed with: the job is even over its nodes, and takes whole
nodes, no GPUs, GPUs of a named type, or GPUs of a node that has one type only. -/
def Steady (node : Node) (job : PendingJob) : Prop :=
  heterogeneous job = false ∧ (job.spec.exclusive = true ∨ (demandOf job.spec).isNone = true ∨
    (∃ kind, (demandOf job.spec).gpuType = some kind ∧ kind ≠ "any") ∨
    ∃ kind, ∀ gpu ∈ node.totalResources.gpus, gpu.gpuType = kind)

section

variable {nodes : List Node} {now : Time} {slots : Nat} {pass : Pass} {cluster : Cluster} {job : PendingJob}
  {pending : List PendingJob}

theorem countP_placeholderGpus {gpuType : Option String} (kind : String) :
    (placeholderGpus count gpuType).countP (fun gpu => gpu.gpuType == kind) =
      if gpuType.getD "any" = kind then count else 0 := by
  unfold placeholderGpus
  rw [countP_map]
  split
  next same =>
    rw [countP_eq_length.mpr]
    · exact length_range
    · simp [same]
  next other =>
    simpa using fun _ _ => other

theorem drawn_share (formed : node.totalResources.WellFormed) {current : ResourceAllocations}
    (shared : job.spec.exclusive = false) (steady : Steady node job) :
    Drawn node.totalResources (jobResourceRequest job.spec)
      (buildNodeAllocation node.totalResources current (jobResourceRequest job.spec)) := by
  have asked : ∀ kind, (jobResourceRequest _).gpus.countP _ =
      if (demandOf job.spec).gpuType.getD "any" = kind then (demandOf _).homogeneousPerNode.getD 1 else 0 :=
    countP_placeholderGpus
  have held : ∀ kind, kind ≠ "any" → gpusHeld _ kind (buildNodeAllocation _ current
      (jobResourceRequest job.spec)) ≤ _ := fun kind named =>
    gpusHeld_build formed.distinct genericRequest_gpu named
  rcases steady.2 with exclusive | none_ | ⟨kind,named,typed⟩ | ⟨kind,single⟩
  · rw [shared] at exclusive
    cases exclusive
  · refine .inl fun kind typed => (held kind typed).trans (le_of_eq ?_)
    have zero : (demandOf job.spec).homogeneousPerNode.getD 1 = 0 := by
      cases demand : demandOf _ with
      | none => rfl
      | perNode counts gpuType => rw [demand] at none_; cases none_
      | total count gpuType => rw [demand] at none_; cases none_
    rw [asked "any",zero,ite_self,Nat.add_zero]
  · refine .inl fun other typed_ => (held other typed_).trans (le_of_eq ?_)
    rw [asked "any",named,Option.getD_some,if_neg typed,Nat.add_zero]
  · by_cases wild : (demandOf job.spec).gpuType.getD "any" = "any"
    · refine .inr ⟨kind,single,?_⟩
      by_cases any : kind = "any"
      · rw [gpusHeld_absent]
        · exact Nat.zero_le _
        · rw [any]
          exact formed.noWildcard
      · refine (held kind any).trans (le_of_eq ?_)
        rw [asked kind,wild,if_neg (Ne.symm any),Nat.zero_add]
    · refine .inl fun other typed_ => (held other typed_).trans (le_of_eq ?_)
      rw [asked "any",if_neg wild,Nat.add_zero]

theorem Placed.beside {reservations : List Reservation} {gate : HandoffGate}
    {placement : Placement} (placed : Placed reservations job gate now timelines placement)
    (names : (timelines.map fun timeline => timeline.node.name).Nodup) {timeline : NodeTimeline}
    (inside : timeline ∈ timelines) (kept : Kept now slots timeline) (ample : Ample slots timeline.total)
    (formed : timeline.total.WellFormed) (steady : Steady timeline.node job) {alloc : ResourceAllocations}
    (found : placement.perNodeAlloc[timeline.node.name]? = some alloc) :
    Slot timeline.total alloc ∧ ∀ time, placement.start ≤ time → time < placement.start + jobDuration job.spec →
      time < now + maxLookahead → CountFit timeline.total (alloc :: timeline.heldAt time) := by
  obtain ⟨ranked,listed,rfl,how⟩ := placed.gives names inside found
  obtain ⟨_,_,idle,_⟩ := mem_findSuitableNodes (placed.suitable ranked listed)
  rcases how with ⟨_,rfl⟩ | ⟨uneven,_⟩
  swap
  · rw [steady.1] at uneven
    cases uneven
  have free : ∀ time, placement.start ≤ time → time < now + maxLookahead → ranked.timeline.earliestStart
      _ _ _ = placement.start :=
    fun time begun before => (placed.free_at listed (begun.trans_lt before)).1
  unfold uniformAlloc timingRequest at *
  cases exclusive : job.spec.exclusive with
  | true =>
    have room := (canSatisfy_iff.mp idle).2.1
    rw [exclusive] at free
    refine ⟨slot_whole formed room,fun time begun open_ before => ?_⟩
    obtain ⟨cpus,memory,_⟩ := buildExclusiveAllocation_scalars _
    exact kept.beside ample formed canSatisfy_self (free time begun before) cpus.le (memory.trans_le room)
      (.inl fun gpuType _ => (gpusHeld_exclusive formed).le) begun open_ before
  | false =>
    rw [exclusive] at free
    refine ⟨slot_share formed idle genericRequest_gpu,fun time begun open_ before => ?_⟩
    obtain ⟨cpus,memory,_⟩ := buildNodeAllocation_scalars _ _
    exact kept.beside ample formed idle (free time begun before) cpus.le memory.le
      (drawn_share formed exclusive steady) begun open_ before

/-- The timelines are those of the nodes, each with a number of slots at most that fit to the horizon. -/
structure Spread (nodes : List Node) (now : Time) (slots : Nat) (pass : Pass) : Prop where
  nodes : pass.timelines.map NodeTimeline.node = nodes
  kept : ∀ timeline ∈ pass.timelines, Kept now slots timeline

theorem Spread.congr (spread : Spread nodes now slots pass) (same : next.timelines = pass.timelines) :
    Spread nodes now slots next := by
  constructor
  · rw [same]; exact spread.nodes
  · rw [same]; exact spread.kept

theorem Spread.mono (spread : Spread nodes now slots pass) (le : slots ≤ more) : Spread nodes now more pass :=
  ⟨spread.nodes,fun timeline inside => (spread.kept timeline inside).mono le⟩

theorem Spread.book {start end_ : Time} {allocs : Table String ResourceAllocations} {jobId : JobId}
    (spread : Spread nodes now slots pass) (later : now ≤ start) (lasts : start < end_)
    (timelines : next.timelines = book pass.timelines start end_ allocs jobId)
    (beside : ∀ timeline ∈ pass.timelines, ∀ alloc, allocs[timeline.node.name]? = some alloc →
      Slot timeline.total alloc ∧ ∀ time, start ≤ time → time < end_ → time < now + maxLookahead →
        CountFit timeline.total (alloc :: timeline.heldAt time)) : Spread nodes now (slots + 1) next := by
  constructor
  · rw [timelines,book_nodes,spread.nodes]
  intro timeline inside
  rw [timelines] at inside
  rcases book_mem inside with ⟨old,listed,alloc,found,rfl⟩ | ⟨listed,_⟩
  · obtain ⟨slot,room⟩ := beside old listed alloc found
    exact (spread.kept old listed).reserve later lasts slot room
  · exact (spread.kept timeline listed).mono (Nat.le_succ slots)

theorem scheduleJob_spread (pending : List PendingJob) (spread : Spread cluster.nodes now slots pass)
    (names : (cluster.nodes.map Node.name).Nodup) (formed : ∀ node ∈ cluster.nodes, node.totalResources.WellFormed)
    (ample : ∀ node ∈ cluster.nodes, Ample slots node.totalResources) (steady : ∀ node ∈ cluster.nodes, Steady node job)
    (unbound : cluster.fabric = none ∨ requiresGpuProperties job.spec = false) (lasts : 0 < jobDuration job.spec) :
    Spread cluster.nodes now (slots + 1) (scheduleJob cluster now pending pass job) := by
  have checked := spread.congr (@checkedPass_frame cluster now pending pass job).1
  have distinct : (nodeNames (checkedPass cluster now pending pass job).timelines).Nodup := by
    rwa [nodeNames_nodes,checked.nodes]
  have booked := (@scheduleJob_effect cluster now pending pass job fun _ _ => planGpuJob_own).timelines distinct
  cases planned : planOf cluster now pending pass job with
  | none =>
    rw [planned] at booked
    exact (checked.congr booked).mono (Nat.le_succ slots)
  | some plan =>
    rw [planned] at booked
    rcases planOf_cases planned with ⟨-,found⟩ | ⟨context,fabric,needs,-⟩
    · obtain ⟨placement,answer,rfl⟩ := plainPlan_placed found
      have placed := placeJob_placed answer
      refine checked.book placed.later (lt_add_of_pos_right _ lasts) booked fun timeline inside alloc at_ => ?_
      have own : timeline.node ∈ cluster.nodes := checked.nodes ▸ mem_map_of_mem inside
      exact placed.beside distinct inside (checked.kept timeline inside) (ample _ own) (formed _ own) (steady _ own) at_
    · rcases unbound with none_ | free
      · rw [none_] at fabric
        cases fabric
      · rw [free] at needs
        cases needs

end

section

variable {now : Time} {pass : Pass} {cluster : Cluster} {job : PendingJob} {before middle after : List NodeTimeline}

def Extended (before after : List NodeTimeline) : Prop :=
  List.Forall₂ (fun a b => a.node = b.node ∧ a.intervals.Subperm b.intervals) before after

theorem Extended.refl : Extended timelines timelines :=
  forall₂_same.mpr fun _ _ => ⟨rfl,List.Subperm.refl _⟩

theorem Extended.trans (first : Extended before middle) (second : Extended middle after) : Extended before after := by
  induction first generalizing after with
  | nil => exact second
  | cons head _ ih =>
    cases second with
    | cons next rest => exact .cons ⟨head.1.trans next.1,head.2.trans next.2⟩ (ih rest)

theorem Grown.extended {P : Interval → Prop} (grown : Grown P before after) : Extended before after :=
  List.Forall₂.imp (fun _ _ ⟨node,own,_,slots⟩ =>
    ⟨node,(sublist_append_right own _).subperm.trans slots.symm.subperm⟩) grown

theorem extended_scheduleJob {pending : List PendingJob} :
    Extended pass.timelines (scheduleJob cluster now pending pass job).timelines := by
  have grown := (@scheduleJob_effect cluster now pending pass job fun _ _ => planGpuJob_own).slots
  rw [checkedPass_frame.1] at grown
  exact grown.extended

theorem extended_scheduleJobs {pending : List PendingJob} {earlier maxJobs : Nat} (le : earlier ≤ maxJobs) :
    Extended (scheduleJobs cluster now pending earlier).timelines (scheduleJobs cluster now pending maxJobs).timelines := by
  obtain ⟨more,rfl⟩ := Nat.exists_eq_add_of_le le
  unfold scheduleJobs
  rw [take_add,foldl_append]
  generalize (pending.take earlier).foldl _ _ = pass
  generalize (pending.drop earlier).take more = rest
  induction rest generalizing pass with
  | nil => exact Extended.refl
  | cons job rest ih => exact extended_scheduleJob.trans (ih _)

end

section

variable {cluster : Cluster} {now : Time} {pending : List PendingJob}

theorem seed_kept (charge : Slot node.totalResources node.allocResources)
    (fits : CountFit node.totalResources [node.allocResources])
    (busy : ∀ (name : String) (until_ : Time), cluster.busyUntil[name]? = some until_ → now < until_) :
    Kept now 1 (seed cluster now node) := by
  have empty : Kept now 0 ⟨node,[]⟩ := by
    refine ⟨⟨by simp,by simp,by simp⟩,by simp,by simp,by simp,fun time _ => ?_⟩
    exact ⟨Nat.zero_le _,Nat.zero_le _,fun _ => Nat.zero_le _⟩
  unfold seed
  split
  · exact empty.reserve le_rfl (seed_lasts (busy _)) charge (fun time _ _ _ => fits)
  · exact empty.mono (Nat.zero_le 1)

theorem seeds_spread (charges : ∀ node ∈ cluster.nodes, Slot node.totalResources node.allocResources)
    (fits : ∀ node ∈ cluster.nodes, CountFit node.totalResources [node.allocResources])
    (busy : ∀ (name : String) (until_ : Time), cluster.busyUntil[name]? = some until_ → now < until_) (gate : HandoffGate)
    (skipped : Finset JobId) :
    Spread cluster.nodes now 1
      { timelines := cluster.nodes.map (seed cluster now), gate, skippedGroups := skipped } := by
  refine ⟨seed_nodes,fun timeline inside => ?_⟩
  obtain ⟨node,listed,rfl⟩ := mem_map.mp inside
  exact seed_kept (charges node listed) (fits node listed) busy

theorem run_spread (pending : List PendingJob) (names : (cluster.nodes.map Node.name).Nodup)
    (formed : ∀ node ∈ cluster.nodes, node.totalResources.WellFormed) {jobs : List PendingJob} {slots bound : Nat}
    (ample : ∀ node ∈ cluster.nodes, Ample bound node.totalResources) (few : slots + jobs.length ≤ bound)
    (steady : ∀ job ∈ jobs, ∀ node ∈ cluster.nodes, Steady node job)
    (unbound : cluster.fabric = none ∨ ∀ job ∈ jobs, requiresGpuProperties job.spec = false)
    (lasts : ∀ job ∈ jobs, 0 < jobDuration job.spec) {pass : Pass} (spread : Spread cluster.nodes now slots pass) :
    Spread cluster.nodes now (slots + jobs.length) (jobs.foldl (scheduleJob cluster now pending) pass) := by
  induction jobs generalizing pass slots with
  | nil => exact spread
  | cons job rest ih =>
    rw [length_cons] at few ⊢
    have enough : ∀ node ∈ cluster.nodes, Ample slots _ := fun node inside =>
      (ample node inside).mono (by omega)
    have step := scheduleJob_spread pending spread names formed enough (steady job mem_cons_self)
      (unbound.imp_right fun all => all job mem_cons_self) (lasts job mem_cons_self)
    have rest_ : Spread _ now _ _ := ih (by omega) (fun other inside => steady other (mem_cons_of_mem _ inside))
      (unbound.imp_right fun all other inside => all other (mem_cons_of_mem _ inside))
      (fun other inside => lasts other (mem_cons_of_mem _ inside)) step
    rwa [Nat.add_right_comm] at rest_

/-- Backfill takes nothing that is planned: at every instant before the horizon the slots of a node fit
together, and the slots of the jobs ahead in the list stay. -/
theorem slots_fit_to_horizon (cluster : Cluster) (now : Time) (pending : List PendingJob) (maxJobs : Nat)
    (presented : Presented cluster now pending)
    (charges : ∀ node ∈ cluster.nodes, CountFit node.totalResources [node.allocResources] ∧
      node.allocResources.totalDeviceCount "gpu" ≤ node.totalResources.gpus.length)
    (formed : ∀ node ∈ cluster.nodes, node.totalResources.WellFormed)
    (ample : ∀ node ∈ cluster.nodes, Ample (pending.length + 1) node.totalResources)
    (steady : ∀ job ∈ pending, ∀ node ∈ cluster.nodes, Steady node job)
    (unbound : cluster.fabric = none ∨ ∀ job ∈ pending, requiresGpuProperties job.spec = false) :
    (∀ timeline ∈ (scheduleJobs cluster now pending maxJobs).timelines, ∀ time, time < now + maxLookahead →
        CountFit timeline.total (timeline.heldAt time)) ∧
      ∀ earlier, earlier ≤ maxJobs → Extended (scheduleJobs cluster now pending earlier).timelines
        (scheduleJobs cluster now pending maxJobs).timelines := by
  refine ⟨?_,fun earlier le => extended_scheduleJobs le⟩
  have chosen : (pending.take maxJobs).Sublist pending := take_sublist _ _
  have seeds := seeds_spread (fun node inside => ⟨presented.scalars node inside,(charges node inside).2,
    (presented.charged node inside).2⟩) (fun node inside => (charges node inside).1) presented.busy
    { owners := cluster.handoffs } (unbindableGroups cluster pending)
  have ran := run_spread pending presented.names formed ample
    (by have := chosen.length_le; omega) (fun job inside => steady job (chosen.subset inside))
    (unbound.imp_right fun all job inside => all job (chosen.subset inside))
    (fun job inside => presented.lasts (chosen.subset inside)) seeds
  exact fun timeline inside => (ran.kept timeline inside).fits

end

theorem slots_fit_to_horizon_two_gpus :
    (∀ timeline ∈ (scheduleJobs (loneCluster twoGpus (gpuCharge 1 1) none) 0 [request 1 { numTasks := 2 }] 10).timelines,
        ∀ time, time < 0 + maxLookahead → CountFit timeline.total (timeline.heldAt time)) ∧
      ∀ earlier, earlier ≤ 10 → Extended
        (scheduleJobs (loneCluster twoGpus (gpuCharge 1 1) none) 0 [request 1 { numTasks := 2 }] earlier).timelines
        (scheduleJobs (loneCluster twoGpus (gpuCharge 1 1) none) 0 [request 1 { numTasks := 2 }] 10).timelines := by
  refine slots_fit_to_horizon _ _ _ _ (presented_lone (inRange_of_noGeneric (by decide) (by decide) rfl) (by decide)
    scalarFit_gpuCharge (by decide +kernel) (by decide +kernel) rfl (by simp [request,Job.new])) ?_ ?_ ?_ ?_
    (.inl rfl)
  · intro node inside
    obtain rfl := mem_singleton.mp inside
    refine ⟨⟨by decide +kernel,by decide +kernel,fun gpuType => ?_⟩,by decide +kernel⟩
    by_cases own : gpuType = "mi300x"
    · subst own
      decide +kernel
    change ([gpuCharge 1 1].map (gpusHeld twoGpus gpuType)).sum ≤ _
    have absent : ∀ gpu ∈ twoGpus.gpus, gpu.gpuType ≠ gpuType := by
      simpa [twoGpus,gpuOfType] using Ne.symm own
    simp [gpusHeld_absent absent]
  · intro node inside
    obtain rfl := mem_singleton.mp inside
    exact ⟨inRange_of_noGeneric (by decide) (by decide) rfl,by decide,rfl,by decide⟩
  · intro node inside
    obtain rfl := mem_singleton.mp inside
    exact ⟨by decide,by decide,fun name => by simp [Node.new,twoGpus],by decide⟩
  · intro job inside node _
    obtain rfl := mem_singleton.mp inside
    exact ⟨by decide +kernel,.inr (.inl (by decide +kernel))⟩

section

def tenSeconds : Time := Duration.seconds 10

def twoNodes (first second : ResourceSet) (firstCpus secondCpus : Nat) : Cluster where
  nodes := [{ Node.new "n1" first with state := .idle, allocResources := { cpus := firstCpus } },
    { Node.new "n2" second with state := .idle, allocResources := { cpus := secondCpus } }]
  busyUntil := (∅ : Table String Time).insert "n1" tenSeconds

def unevenBehind : List PendingJob :=
  [request 1 { numTasks := 3, nodelist := some "n1" },request 2 { numNodes := 2, numTasks := 3 }]

def twoTypes : ResourceSet := { cpus := 4, gpus := [gpuOfType 1 "mi300x",gpuOfType 2 "mi210"] }

def wildcardBehind : List PendingJob :=
  [request 1 { numTasks := 3, nodelist := some "n1", gpusPerNode := some ⟨1,some "mi300x"⟩ },
    request 2 { nodelist := some "n1", gpusPerNode := some ⟨1,none⟩ }]

theorem presented_two {first second : ResourceSet} {firstCpus secondCpus : Nat} {pending : List PendingJob}
    (firstRange : first.InRange) (secondRange : second.InRange)
    (firstIds : (first.gpus.map GpuResource.stableId).Nodup) (secondIds : (second.gpus.map GpuResource.stableId).Nodup)
    (firstFits : firstCpus ≤ first.cpus) (secondFits : secondCpus ≤ second.cpus)
    (limits : ∀ job ∈ pending, job.spec.timeLimit = none) :
    Presented (twoNodes first second firstCpus secondCpus) 0 pending := by
  have scalars : ∀ (total : ResourceSet) (held : Nat), held ≤ total.cpus → ScalarFit total [{ cpus := held }] :=
    fun total held fits => ⟨by simpa using fits,by simp,fun name _ => by simp [totalDeviceCount,devicesOf]⟩
  refine ⟨by simp [twoNodes,Node.new],?_,?_,?_,?_,?_,?_,?_⟩
  · simpa [twoNodes] using ⟨firstRange,secondRange⟩
  · simpa [twoNodes] using ⟨firstIds,secondIds⟩
  · simpa [twoNodes] using ⟨scalars first firstCpus firstFits,scalars second secondCpus secondFits⟩
  · simp [twoNodes,deviceIds,devicesOf]
  · simp [twoNodes]
  · intro name until_ found
    change ((∅ : Table String Time).insert "n1" tenSeconds)[name]? = some until_ at found
    rw [Table.find_insert] at found
    split at found
    · cases found
      decide
    · simp at found
  · intro job inside limit found
    rw [limits job inside] at found
    cases found

/-- Ten seconds from now the slots of a node exceed it, by an uneven share and by a wildcard GPU. -/
theorem later_share_overruns_slot : (Presented (twoNodes { cpus := 4 } { cpus := 4 } 2 3) 0 unevenBehind ∧
      ∃ timeline ∈ (scheduleJobs (twoNodes { cpus := 4 } { cpus := 4 } 2 3) 0 unevenBehind 10).timelines,
        ¬ CountFit timeline.total (timeline.heldAt tenSeconds)) ∧
    (Presented (twoNodes twoTypes { cpus := 4 } 2 0) 0 wildcardBehind ∧
      ∃ timeline ∈ (scheduleJobs (twoNodes twoTypes { cpus := 4 } 2 0) 0 wildcardBehind 10).timelines,
        ¬ CountFit timeline.total (timeline.heldAt tenSeconds)) := by
  refine ⟨⟨?_,?_⟩,?_,?_⟩
  · exact presented_two (inRange_of_noGeneric (by decide) (by decide) rfl) (inRange_of_noGeneric (by decide) (by decide) rfl)
      (by decide) (by decide) (by decide) (by decide) (by simp [unevenBehind,request,Job.new])
  · have taken : (4,5) ∈ (scheduleJobs (twoNodes { cpus := 4 } { cpus := 4 } 2 3) 0 unevenBehind 10).timelines.map
        fun timeline => (timeline.total.cpus,((timeline.heldAt tenSeconds).map cpus).sum) := by decide +kernel
    obtain ⟨timeline,inside,same⟩ := mem_map.mp taken
    refine ⟨timeline,inside,fun fit => ?_⟩
    have within := fit.cpus
    obtain ⟨capacity,used⟩ := Prod.mk.inj same
    rw [used,capacity] at within
    exact absurd within (by decide)
  · exact presented_two (inRange_of_noGeneric (by decide) (by decide) rfl) (inRange_of_noGeneric (by decide) (by decide) rfl)
      (by decide) (by decide) (by decide) (by decide) (by simp [wildcardBehind,request,Job.new])
  · have taken : (1,2) ∈ (scheduleJobs (twoNodes twoTypes { cpus := 4 } 2 0) 0 wildcardBehind 10).timelines.map
        fun timeline => (timeline.total.gpus.countP fun gpu => gpu.gpuType == "mi300x",
          ((timeline.heldAt tenSeconds).map (gpusHeld timeline.total "mi300x")).sum) := by decide +kernel
    obtain ⟨timeline,inside,same⟩ := mem_map.mp taken
    refine ⟨timeline,inside,fun fit => ?_⟩
    have within := fit.gpus "mi300x"
    obtain ⟨capacity,used⟩ := Prod.mk.inj same
    rw [used,capacity] at within
    exact absurd within (by decide)

end

end Spur.Sched
