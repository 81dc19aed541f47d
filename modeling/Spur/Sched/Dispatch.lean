import Spur.Sched.Turn

/-! On every node the charge and the allocations of a pass together stay within the inventory. -/
namespace Spur.Sched
open Spur Spur.Library ResourceAllocations List Option Table

variable {timeline : NodeTimeline} {placement : Placement}

section

variable {timeline : NodeTimeline} {start end_ now : Time} {alloc : ResourceAllocations} {jobId : Option JobId}

theorem forall_reserve {Q : Interval → Prop} (own : Q ⟨start,end_,alloc,jobId⟩) (old : ∀ i ∈ timeline.intervals, Q i) :
    ∀ i ∈ (timeline.reserveForJob start end_ alloc jobId).intervals, Q i := by
  intro i inside
  rcases mem_cons.mp ((timeline.reserveForJob_perm start end_ alloc jobId).subset inside) with rfl | before
  · exact own
  · exact old i before

theorem reserveForJob_current (current : timeline.Current now) (later : now ≤ start) (lasts : now < end_) :
    (timeline.reserveForJob start end_ alloc jobId).Current now := by
  refine ⟨?_,forall_reserve later current.later,forall_reserve lasts current.running⟩
  exact pairwise_insertionSort _ _

theorem heldAt_reserve : ((timeline.reserveForJob start end_ alloc jobId).heldAt now).Perm
    (if start ≤ now ∧ now < end_ then alloc :: timeline.heldAt now else timeline.heldAt now) := by
  have same := timeline.reserveForJob_perm start end_ alloc jobId
  refine (((same.filter _).filter _).map _).trans (List.Perm.of_eq ?_)
  unfold NodeTimeline.heldAt
  by_cases begun : start ≤ now
  · by_cases open_ : now < end_
    · simp [begun,open_]
    · simp [open_]
  · simp [begun]

end

def given (assignments : List Assignment) (name : String) : List ResourceAllocations :=
  assignments.filterMap fun assignment => assignment.perNodeAlloc[name]?

def seeded (node : Node) : List ResourceAllocations := if node.isCharged then [node.allocResources] else []

/-- Between two jobs: the timelines are those of the nodes, they hold at the instant of the pass the
charges and what was assigned, all of it fits, and every other slot belongs to a job already seen. -/
structure Sound (nodes : List Node) (now : Time) (seen : List JobId) (pass : Pass) : Prop where
  nodes : pass.timelines.map NodeTimeline.node = nodes
  current : ∀ timeline ∈ pass.timelines, timeline.Current now
  held : ∀ timeline ∈ pass.timelines,
    (timeline.heldAt now).Perm (given pass.assignments timeline.node.name ++ seeded timeline.node)
  fits : ∀ timeline ∈ pass.timelines, Fits timeline.total (timeline.heldAt now)
  owners : ∀ timeline ∈ pass.timelines, ∀ i ∈ timeline.intervals, ∀ owner, i.jobId = some owner → owner ∈ seen

namespace Sound

variable {nodes : List Node} {now start end_ : Time} {seen : List JobId} {pass next : Pass} {jobId : JobId}

theorem names_nodup (sound : Sound nodes now seen pass) (names : (nodes.map Node.name).Nodup) :
    (nodeNames pass.timelines).Nodup := by
  rwa [nodeNames_nodes,sound.nodes]

theorem mono {others : List JobId} (sound : Sound nodes now seen pass) (more : seen ⊆ others) :
    Sound nodes now others pass :=
  { sound with owners := fun timeline inside i listed owner owned => more (sound.owners timeline inside i listed owner owned) }

theorem congr (sound : Sound nodes now seen pass) (timelines : next.timelines = pass.timelines)
    (assignments : next.assignments = pass.assignments) : Sound nodes now seen next := by
  constructor
  · rw [timelines]; exact sound.nodes
  · rw [timelines]; exact sound.current
  · rw [timelines,assignments]; exact sound.held
  · rw [timelines]; exact sound.fits
  · rw [timelines]; exact sound.owners

theorem booked (sound : Sound nodes now seen pass) (assignment : Assignment) (later : now ≤ start) (lasts : now < end_)
    (timelines : next.timelines = book pass.timelines start end_ assignment.perNodeAlloc jobId)
    (assignments : next.assignments = if start ≤ now then pass.assignments ++ [assignment] else pass.assignments)
    (room : start ≤ now → ∀ timeline ∈ pass.timelines, ∀ alloc,
      assignment.perNodeAlloc[timeline.node.name]? = some alloc → Fits timeline.total (alloc :: timeline.heldAt now)) :
    Sound nodes now (jobId :: seen) next := by
  have shown : ∀ name, given next.assignments name = given pass.assignments name ++
      if start ≤ now then (assignment.perNodeAlloc[name]?).toList else [] := by
    intro name
    rw [assignments]
    unfold given
    split
    · cases found : assignment.perNodeAlloc[name]? with
      | none => simp [found]
      | some alloc => simp [found]
    · rw [append_nil]
  suffices each : ∀ timeline ∈ next.timelines, timeline.Current now ∧ (timeline.heldAt now).Perm _ ∧ Fits _ _ ∧
      ∀ i ∈ timeline.intervals, ∀ owner, i.jobId = some owner → owner ∈ jobId :: seen from
    ⟨by rw [timelines,book_nodes,sound.nodes],fun timeline inside => (each timeline inside).1,
      fun timeline inside => (each timeline inside).2.1,fun timeline inside => (each timeline inside).2.2.1,
      fun timeline inside => (each timeline inside).2.2.2⟩
  intro timeline inside
  rw [timelines] at inside
  rw [shown]
  rcases book_mem inside with ⟨old,listed,alloc,found,rfl⟩ | ⟨listed,absent⟩
  · have held := @heldAt_reserve old start end_ now alloc (some jobId)
    refine ⟨reserveForJob_current (sound.current old listed) later lasts,held.trans ?_,?_,forall_reserve ?_ ?_⟩
    · change List.Perm _ (given _ _ ++
        (if start ≤ now then (assignment.perNodeAlloc[old.node.name]?).toList else []) ++ seeded _)
      rw [found,toList_some]
      by_cases begun : start ≤ now
      · rw [if_pos ⟨begun,lasts⟩,if_pos begun,append_assoc]
        exact ((sound.held old listed).cons alloc).trans perm_middle.symm
      · rw [if_neg fun both => begun both.1,if_neg begun,append_nil]
        exact sound.held old listed
    · refine Fits.subperm ?_ held.subperm
      split
      next begun => exact room begun.1 old listed alloc found
      · exact sound.fits old listed
    · exact fun owner owned => Option.some.inj owned ▸ mem_cons_self
    · exact fun i within owner owned => mem_cons_of_mem _ (sound.owners old listed i within owner owned)
  · rw [absent,toList_none,ite_self,append_nil]
    exact ⟨sound.current timeline listed,sound.held timeline listed,sound.fits timeline listed,
      fun i within owner owned => mem_cons_of_mem _ (sound.owners timeline listed i within owner owned)⟩

end Sound

section

variable {reservations : List Reservation} {job : PendingJob} {gate : HandoffGate} {now : Time}
  {timelines : List NodeTimeline} {alloc : ResourceAllocations}

theorem Placed.granted (placed : Placed reservations job gate now timelines placement)
    (distinct : (nodeNames timelines).Nodup) (atOnce : placement.start ≤ now)
    (inside : timeline ∈ timelines) (current : timeline.Current now)
    (found : placement.perNodeAlloc[timeline.node.name]? = some alloc) :
    Granted timeline.total (sumOf (timeline.heldAt now)) alloc := by
  obtain ⟨ranked,chosen,rfl,built⟩ := placed.gives distinct inside found
  obtain ⟨exactly,free,-⟩ := placed.free_now chosen atOnce
  obtain ⟨_,_,idle,_⟩ := mem_findSuitableNodes (placed.suitable ranked chosen)
  have satisfied : ranked.timeline.total.canSatisfyWithAllocated {} (timingRequest job ranked.timeline) := by
    unfold timingRequest
    split
    · exact canSatisfy_self
    · exact idle
  have fits := NodeTimeline.fits_of_atOnce current satisfied free
  rw [NodeTimeline.accumulatedAt_eq current.sorted] at fits
  unfold Share at built
  rw [exactly,NodeTimeline.accumulatedAt_eq current.sorted] at built
  rcases built with ⟨_,rfl⟩ | ⟨_,request,enough,noGpu,rfl⟩
  · unfold uniformAlloc
    unfold timingRequest at fits
    split
    next exclusive =>
      rw [if_pos exclusive] at fits
      exact .whole fits (canSatisfy_iff.mp idle).2.1
    next shared =>
      rw [if_neg shared] at fits
      rw [NodeTimeline.accumulatedAt_eq current.sorted]
      exact .share fits genericRequest_gpu
  · exact .share enough noGpu

end

variable {alloc : ResourceAllocations}

namespace Sound

variable {nodes : List Node} {now : Time} {seen : List JobId} {pass : Pass} {cluster : Cluster} {job : PendingJob}

theorem formed_of_mem (sound : Sound nodes now seen pass) (formed : ∀ node ∈ nodes, node.totalResources.WellFormed)
    (inside : timeline ∈ pass.timelines) : timeline.total.WellFormed := by
  refine formed _ ?_
  rw [← sound.nodes]
  exact List.mem_map_of_mem inside

theorem room (sound : Sound nodes now seen pass) (names : (nodes.map Node.name).Nodup)
    (formed : ∀ node ∈ nodes, node.totalResources.WellFormed)
    (placed : Placed cluster.reservations job pass.gate now pass.timelines placement) (atOnce : placement.start ≤ now)
    (inside : timeline ∈ pass.timelines)
    (found : placement.perNodeAlloc[timeline.node.name]? = some alloc) :
    Fits timeline.total (alloc :: timeline.heldAt now) :=
  Granted.fits (sound.formed_of_mem formed inside)
    (placed.granted (sound.names_nodup names) atOnce inside (sound.current timeline inside) found)
    (sound.fits timeline inside)

end Sound

section

variable {job : PendingJob} {constraints : Constraints} {allowed : List (String × Nat)} {timeline : NodeTimeline}
  {now : Time}

private def narrow (gpus : List GpuResource) (alloc : ResourceAllocations) : ResourceAllocations :=
  { alloc with devices := alloc.devices.modify "gpu" fun devices =>
      devices.filter fun device => gpus.any fun gpu => gpu.stableId == device.deviceId }

private theorem narrow_devicesOf {gpus : List GpuResource} {alloc : ResourceAllocations} {name : String}
    (other : name ≠ "gpu") : (narrow gpus alloc).devicesOf name = alloc.devicesOf name := by
  unfold narrow devicesOf
  rw [find_modify,if_neg (Ne.symm other)]

theorem project_gpus : (project job constraints allowed timeline).total.gpus.Sublist timeline.total.gpus :=
  filter_sublist

theorem nodeNames_project (timelines : List NodeTimeline) :
    nodeNames (timelines.map (project job constraints allowed)) = nodeNames timelines := by
  rw [nodeNames,List.map_map]
  rfl

theorem project_current (current : timeline.Current now) : (project job constraints allowed timeline).Current now := by
  constructor
  · exact pairwise_map.mpr current.sorted
  · intro i inside
    obtain ⟨old,listed,rfl⟩ := List.mem_map.mp inside
    exact current.later old listed
  · intro i inside
    obtain ⟨old,listed,rfl⟩ := List.mem_map.mp inside
    exact current.running old listed

private theorem project_heldAt : (project job constraints allowed timeline).heldAt now =
    (timeline.heldAt now).map (narrow (project job constraints allowed timeline).total.gpus) := by
  unfold NodeTimeline.heldAt project
  rw [List.filter_map,List.filter_map,List.map_map,List.map_map]
  rfl

theorem project_scalarFit (extra : List ResourceAllocations) :
    ScalarFit (project job constraints allowed timeline).total
      (extra ++ (project job constraints allowed timeline).heldAt now) ↔
      ScalarFit timeline.total (extra ++ timeline.heldAt now) := by
  rw [project_heldAt]
  generalize (project job _ allowed timeline).total.gpus = gpus
  have same (f : ResourceAllocations → Nat) (kept : ∀ alloc, f (narrow gpus alloc) = f alloc) :
      (extra ++ (timeline.heldAt now).map (narrow gpus)).map f = (extra ++ timeline.heldAt now).map f := by
    rw [map_append,map_append,List.map_map]
    exact congrArg _ (map_congr_left fun alloc _ => kept alloc)
  have cpus := same ResourceAllocations.cpus fun _ => rfl
  have memory := same ResourceAllocations.memoryMb fun _ => rfl
  have generic (name : String) (other : name ≠ "gpu") := same (totalDeviceCount · name) fun alloc => by
    unfold totalDeviceCount
    rw [narrow_devicesOf other]
  constructor
  · exact fun fit => ⟨cpus ▸ fit.cpus,memory ▸ fit.memory,fun name other => generic name other ▸ fit.generic name other⟩
  · intro fit
    refine ⟨?_,?_,fun name other => ?_⟩
    · rw [cpus]; exact fit.cpus
    · rw [memory]; exact fit.memory
    · rw [generic name other]; exact fit.generic name other

end

variable {entries : List (NodeTimeline × NodeTimeline)} {node : Node}

section

variable {context : FabricContext} {job : PendingJob} {constraints : Constraints} {block : Option FabricBlock}
  {start : Time} {rebind : Rebind} {timeline projected : NodeTimeline}

structure Rebound (job : PendingJob) (start : Time) (timeline projected : NodeTimeline)
    (trialed alloc : ResourceAllocations) : Prop where
  cpus : alloc.cpus = trialed.cpus
  memory : alloc.memoryMb = trialed.memoryMb
  others : ∀ name, name ≠ "gpu" → alloc.devicesOf name = trialed.devicesOf name
  gpus : (trialed.totalDeviceCount "gpu" = 0 ∧ alloc.devicesOf "gpu" = trialed.devicesOf "gpu") ∨
    ∃ ids : List Nat, alloc.devicesOf "gpu" = ids.map AllocatedDevice.injectable ∧
      ids.Sublist (projected.total.gpus.map GpuResource.stableId) ∧
      ∀ i ∈ timeline.intervals, i.start < start + jobDuration job.spec → start < i.end_ →
        ∀ id ∈ ids, id ∉ i.resources.deviceIds "gpu"

/-- A node of the trial gives as many GPUs as it did there, and a node outside of it gives nothing. -/
def Swapped (job : PendingJob) (start : Time) (timeline projected : NodeTimeline) :
    Option ResourceAllocations → Option ResourceAllocations → Prop
  | some trialed,some alloc => Rebound job start timeline projected trialed alloc ∧
      alloc.totalDeviceCount "gpu" = trialed.totalDeviceCount "gpu"
  | none,none => True
  | _,_ => False

theorem swapped_of_devices {trialed alloc bound : ResourceAllocations}
    (swapped : Swapped job start timeline projected (some trialed) (some alloc)) (cpus : bound.cpus = alloc.cpus)
    (memory : bound.memoryMb = alloc.memoryMb) (devices : bound.devices = alloc.devices) :
    Swapped job start timeline projected (some trialed) (some bound) := by
  have same : ∀ name, bound.devicesOf name = alloc.devicesOf name := fun name => by
    unfold devicesOf
    rw [devices]
  obtain ⟨rebound,count⟩ := swapped
  refine ⟨⟨cpus.trans rebound.cpus,memory.trans rebound.memory,fun name other => ?_,?_⟩,?_⟩
  · rw [same,rebound.others name other]
  · rw [same]
    exact rebound.gpus
  · unfold totalDeviceCount at count ⊢
    rw [same,count]

theorem swapped_windowGpus {trialed : ResourceAllocations} {ids : List Nat}
    (taken : ids = (windowGpus job timeline projected start).take (trialed.totalDeviceCount "gpu"))
    (enough : trialed.totalDeviceCount "gpu" ≤ ids.length) :
    Swapped job start timeline projected (some trialed) (some (if 0 < trialed.totalDeviceCount "gpu" then
      { trialed with devices := trialed.devices.insert "gpu" (ids.map AllocatedDevice.injectable) } else trialed)) := by
  split
  next some_ =>
    have listed : ResourceAllocations.devicesOf
        { trialed with devices := trialed.devices.insert "gpu" (ids.map AllocatedDevice.injectable) } "gpu" =
          ids.map AllocatedDevice.injectable := by
      unfold devicesOf
      rw [find_insert,if_pos rfl,getD_some]
    refine ⟨⟨rfl,rfl,fun name other => ?_,.inr ⟨ids,listed,?_,?_⟩⟩,?_⟩
    · unfold devicesOf
      rw [find_insert_ne (Ne.symm other)]
    · rw [taken]
      exact (take_sublist _ _).trans (filter_sublist.map _)
    · intro i within begins lasts id picked held
      rw [taken] at picked
      obtain ⟨gpu,kept,rfl⟩ := List.mem_map.mp (mem_of_mem_take picked)
      have clear := (mem_filter.mp kept).2
      have shares : i ∈ overlapping job timeline start := mem_filter.mpr ⟨within,by simpa using ⟨begins,lasts⟩⟩
      simp only [Bool.and_eq_true,Bool.not_eq_true',contains_eq_mem,decide_eq_false_iff_not,mem_flatMap] at clear
      exact clear.1 ⟨i,shares,held⟩
    · have ones : ((ids.map AllocatedDevice.injectable).map AllocatedDevice.count).sum = ids.length := by
        simp [AllocatedDevice.injectable,Function.comp_def]
      conv_lhs => rw [totalDeviceCount,listed,ones,taken]
      rw [taken] at enough
      exact le_antisymm (length_take_le _ _) enough
  next none_ => exact ⟨⟨rfl,rfl,fun _ _ => rfl,.inl ⟨Nat.eq_zero_of_not_pos none_,rfl⟩⟩,rfl⟩

theorem rebindNode_valid
    (valid : (rebindNode context job constraints block start rebind (timeline,projected)).valid = true) :
    rebind.valid = true ∧ (∀ name, name ≠ projected.node.name →
        (rebindNode context job constraints block start rebind (timeline,projected)).allocs[name]? =
          rebind.allocs[name]?) ∧
      Swapped job start timeline projected rebind.allocs[projected.node.name]?
        (rebindNode context job constraints block start rebind (timeline,projected)).allocs[projected.node.name]? := by
  unfold rebindNode at valid ⊢
  dsimp only at valid ⊢
  cases stored : rebind.allocs[projected.node.name]? with
  | none =>
    rw [stored] at valid
    refine ⟨valid,fun _ _ => rfl,?_⟩
    rw [stored]
    trivial
  | some trialed =>
    rw [stored] at valid
    dsimp only at valid ⊢
    split at valid
    · cases valid
    rename_i enough
    rw [if_neg enough]
    rw [length_map,not_lt] at enough
    have swapped := @swapped_windowGpus job start timeline projected trialed _ rfl enough
    generalize (if 0 < trialed.totalDeviceCount "gpu" then _ else trialed) = bare at swapped valid ⊢
    -- The bindings are recorded beside the devices and change none of them.
    have bound_swapped : ∀ alloc, bindFabric context block projected.node bare = some alloc →
        Swapped job start timeline projected (some trialed) (some alloc) := by
      intro alloc bound
      cases block with
      | none =>
        cases bound
        exact swapped
      | some block =>
        obtain ⟨binding,_,rfl⟩ := map_eq_some_iff.mp bound
        exact swapped_of_devices swapped rfl rfl rfl
    have written : ∀ alloc : ResourceAllocations, Swapped job start timeline projected (some trialed) (some alloc) →
        (∀ name, name ≠ projected.node.name →
          (rebind.allocs.insert projected.node.name alloc)[name]? = rebind.allocs[name]?) ∧
        Swapped job start timeline projected (some trialed)
          (rebind.allocs.insert projected.node.name alloc)[projected.node.name]? := by
      refine fun alloc kept => ⟨fun name other => find_insert_ne (Ne.symm other),?_⟩
      rw [find_insert,if_pos rfl]
      exact kept
    cases bound : bindFabric context block _ bare with
    | none =>
      rw [bound] at valid
      cases valid
    | some alloc =>
      rw [bound] at valid
      dsimp only at valid ⊢
      split at valid
      next plain =>
        rw [if_pos plain]
        exact ⟨valid,written alloc (bound_swapped alloc bound)⟩
      next properties =>
        rw [if_neg properties]
        split at valid
        · cases valid
        next binding accepted => exact ⟨valid,written _ (swapped_of_devices (bound_swapped alloc bound) rfl rfl rfl)⟩

theorem rebindFold_swapped (names : (entries.map fun entry => entry.2.node.name).Nodup)
    (valid : (entries.foldl (rebindNode context job constraints block start) rebind).valid = true) :
    rebind.valid = true ∧ (∀ name, name ∉ entries.map (fun entry => entry.2.node.name) →
        (entries.foldl (rebindNode context job constraints block start) rebind).allocs[name]? = rebind.allocs[name]?) ∧
      ∀ entry ∈ entries, Swapped job start entry.1 entry.2 rebind.allocs[entry.2.node.name]?
        (entries.foldl (rebindNode context job constraints block start) rebind).allocs[entry.2.node.name]? := by
  obtain ⟨good,outside,inside⟩ := foldl_keyed (fun rebind : Rebind => rebind.valid = true)
    (fun entry : NodeTimeline × NodeTimeline => entry.2.node.name) _ _
    (fun entry => Swapped job start entry.1 _) (fun _ _ kept => (rebindNode_valid kept).1)
    (fun _ _ name kept other => (rebindNode_valid kept).2.1 name other) (fun _ _ kept => (rebindNode_valid kept).2.2) rebind valid
  exact ⟨good,outside,inside names⟩

theorem rebindFold_retryAt {intervals : List Interval} (inside : ∀ entry ∈ entries, entry.1.intervals ⊆ intervals)
    (retries : ∀ next, rebind.retryAt = some next → next ∈ intervals.map Interval.end_) :
    ∀ next, (entries.foldl (rebindNode context job constraints block start) rebind).retryAt = some next →
      next ∈ intervals.map Interval.end_ := by
  induction entries generalizing rebind with
  | nil => exact retries
  | cons entry entries ih =>
    refine ih (fun other listed => inside other (mem_cons_of_mem _ listed)) ?_
    have within := inside entry mem_cons_self
    intro next
    unfold rebindNode
    dsimp only
    split
    · exact retries next
    split
    · intro earliest
      rcases mem_append.mp (List.min?_mem earliest) with before | new
      · exact retries next (by simpa using before)
      · have found := List.min?_mem (mem_toList.mp new)
        obtain ⟨i,listed,rfl⟩ := List.mem_map.mp (mem_filter.mp found).1
        exact List.mem_map_of_mem (within (mem_filter.mp listed).1)
    · split
      · exact retries next
      · split
        · exact retries next
        · split
          · exact retries next
          · exact retries next

end

section

variable {job : PendingJob} {timelines : List NodeTimeline} {start : Time}

private def slotOf (job : PendingJob) (timeline : NodeTimeline) : Option Interval :=
  timeline.intervals.find? fun interval => interval.jobId == some job.jobId

private theorem slotOf_some {i : Interval} (hit : slotOf job timeline = some i) :
    i ∈ timeline.intervals ∧ i.jobId = some job.jobId :=
  ⟨List.mem_of_find?_eq_some hit,by simpa using List.find?_some hit⟩

private theorem trialSlot_start {trialed : List NodeTimeline} (read : (trialSlot job trialed).1 = some start) :
    ∃ timeline ∈ trialed, ∃ i ∈ timeline.intervals, i.jobId = some job.jobId ∧ i.start = start := by
  suffices each : ∀ slot : Option Time × Table String _,(trialed.foldl _ slot).1 = some start →
      slot.1 = some start ∨ ∃ timeline ∈ trialed, ∃ i ∈ timeline.intervals, i.jobId = some _ ∧ i.start = start from
    (each _ read).resolve_left (by simp)
  clear read
  induction trialed with
  | nil => exact fun _ => .inl
  | cons first rest ih =>
    intro slot read
    rcases ih _ read with before | ⟨timeline,there,slot⟩
    · dsimp only at before
      split at before
      next i hit => exact .inr ⟨first,mem_cons_self,i,(slotOf_some hit).1,(slotOf_some hit).2,Option.some.inj before⟩
      next => exact .inl before
    · exact .inr ⟨timeline,mem_cons_of_mem _ there,slot⟩

private theorem trialSlot_alloc {trialed : List NodeTimeline} (inside : timeline ∈ trialed)
    (names : (nodeNames trialed).Nodup) :
    (trialSlot job trialed).2[timeline.node.name]? = (slotOf job timeline).map Interval.resources := by
  have own : (trialSlot job trialed).2[timeline.node.name]? = ((slotOf job timeline).map Interval.resources).or _ :=
    (foldl_keyed (fun _ => True) (fun timeline : NodeTimeline => timeline.node.name)
      (fun (slot : Option Time × Table String ResourceAllocations) name => slot.2[name]?) _
      (fun timeline before after => after = ((slotOf job timeline).map Interval.resources).or before)
      (fun _ _ _ => trivial) (fun s timeline name _ other => by
        dsimp only
        split
        · exact find_insert_ne (Ne.symm other)
        · rfl)
      (fun s timeline _ => by
        unfold slotOf
        dsimp only
        split
        next hit => simp [hit]
        next hit => simp [hit]) (none,∅) trivial).2.2 names timeline inside
  rw [own]
  rw [Std.ExtTreeMap.getElem?_empty,or_none]

theorem trialSlot_book (fresh : ∀ timeline ∈ timelines, ∀ i ∈ timeline.intervals, i.jobId ≠ some job.jobId) {end_ : Time}
    {allocs : Table String ResourceAllocations} (names : (nodeNames timelines).Nodup) (inside : timeline ∈ timelines) :
    (trialSlot job (book timelines start end_ allocs job.jobId)).2[timeline.node.name]? = allocs[timeline.node.name]? := by
  have found := @trialSlot_alloc _ job (book timelines start end_ allocs job.jobId) (List.mem_map_of_mem inside)
    (by rwa [nodeNames_nodes,book_nodes,← nodeNames_nodes])
  cases given_ : allocs[timeline.node.name]? with
  | none =>
    rw [given_] at found
    refine found.trans ?_
    cases hit : slotOf job timeline with
    | none => rfl
    | some i => exact absurd (slotOf_some hit).2 (fresh timeline inside i (slotOf_some hit).1)
  | some alloc =>
    rw [given_] at found
    refine found.trans ?_
    have perm := timeline.reserveForJob_perm start end_ alloc (some job.jobId)
    cases hit : slotOf job _ with
    | none => exact absurd (List.find?_eq_none.mp hit _ (perm.symm.subset mem_cons_self)) (by simp)
    | some i =>
      obtain ⟨listed,own⟩ := slotOf_some hit
      rcases mem_cons.mp (perm.subset listed) with rfl | before
      · rfl
      · exact absurd own (fresh timeline inside i before)

end

section

variable {job : PendingJob} {constraints : Constraints} {allowed : List (String × Nat)} {timeline : NodeTimeline}
  {now : Time}

theorem project_wellFormed (formed : timeline.total.WellFormed) :
    (project job constraints allowed timeline).total.WellFormed where
  cpus := formed.cpus
  memory := formed.memory
  generic := formed.generic
  distinct := formed.distinct.sublist (project_gpus.map _)
  noGenericGpu := formed.noGenericGpu
  noWildcard := fun gpu inside => formed.noWildcard gpu (project_gpus.subset inside)

theorem Rebound.fits {trialed alloc : ResourceAllocations} (current : timeline.Current now)
    (formed : timeline.total.WellFormed) (fits : Fits timeline.total (timeline.heldAt now))
    (lasts : 0 < jobDuration job.spec)
    (granted : Granted (project job constraints allowed timeline).total
      (sumOf ((project job constraints allowed timeline).heldAt now)) trialed)
    (rebound : Rebound job now timeline (project job constraints allowed timeline) trialed alloc) :
    Fits timeline.total (alloc :: timeline.heldAt now) := by
  have narrowed : ScalarFit (project job constraints allowed timeline).total
      _ := (project_scalarFit []).mpr fits.toScalarFit
  have formed_ := @project_wellFormed job constraints allowed timeline formed
  have scalars : ScalarFit _ (trialed :: timeline.heldAt now) := (project_scalarFit [trialed]).mp
    (granted.scalarFit narrowed (totals_sumOf formed_.toInRange narrowed))
  have free : FreeGpus timeline.total (sumOf (timeline.heldAt now)) (alloc.devicesOf "gpu") := by
    rcases rebound.gpus with ⟨zero,same⟩ | ⟨ids,same,listed,clear⟩
    · have empty : trialed.devicesOf "gpu" = [] := by
        rw [eq_nil_iff_forall_not_mem]
        intro dev there
        have counted := granted.single formed_ dev there
        have part := single_le_sum (l := (trialed.devicesOf "gpu").map _)
          (fun _ _ => Nat.zero_le _) dev.count (List.mem_map_of_mem there)
        unfold totalDeviceCount at zero
        omega
      rw [same,empty]
      exact ⟨by simp,by simp,by simp,by simp⟩
    · rw [same]
      refine freeGpus_of_ids (formed_.distinct.sublist listed) (fun id picked held => ?_)
        (List.Subset.trans listed.subset (project_gpus.map _).subset)
      obtain ⟨other,there,own⟩ := mem_deviceIds_sumOf.mp held
      rw [NodeTimeline.heldAt_now current] at there
      obtain ⟨i,active,rfl⟩ := List.mem_map.mp there
      obtain ⟨within,begun⟩ := mem_filter.mp active
      have begins : i.start < now + jobDuration _ :=
        (show i.start ≤ now by simpa using begun).trans_lt (lt_add_of_pos_right now lasts)
      exact clear i within begins (current.running i within) id picked own
  refine { gpuFit_cons fits.toGpuFit free with cpus := ?_, memory := ?_, generic := fun name other => ?_ }
  · have counted := scalars.cpus
    rw [map_cons] at counted ⊢
    rwa [rebound.cpus]
  · have counted := scalars.memory
    rw [map_cons] at counted ⊢
    rwa [rebound.memory]
  · have counted := scalars.generic name other
    rw [map_cons] at counted ⊢
    unfold totalDeviceCount at counted ⊢
    rwa [rebound.others name other]

end

/-- A plan that may be booked: not before the pass, and at its instant within what is free. -/
def Plans (now : Time) (timelines : List NodeTimeline) (planned : Planned) : Prop :=
  ∀ assignment start, planned = some (assignment,start) → now ≤ start ∧
    (start ≤ now → ∀ timeline ∈ timelines, ∀ alloc, assignment.perNodeAlloc[timeline.node.name]? = some alloc →
      Fits timeline.total (alloc :: timeline.heldAt now))

section

variable {nodes : List Node} {now : Time} {seen : List JobId} {pass : Pass} {cluster : Cluster} {job : PendingJob}
  {constraints : Constraints} {context : FabricContext} {block : Option FabricBlock} {allowed : List (String × Nat)}
  {best planned : Planned} {floor : Time}

private theorem zip_project (timelines : List NodeTimeline) :
    timelines.zip (timelines.map (project job constraints allowed)) =
      timelines.map fun timeline => (timeline,project job constraints allowed timeline) := by
  have both := @List.zip_map' _ _ _ id (project job constraints allowed) timelines
  rw [List.map_id] at both
  exact both

theorem groupRound_cases
    (answered : groupRound cluster context now pass job constraints block allowed best floor = .inr planned) :
    planned = best ∨ ∃ plan allocs,
      let trialed := trial cluster pass job constraints (pass.timelines.map (project job constraints allowed)) floor
      let rebind := (pass.timelines.map fun timeline => (timeline,project job constraints allowed timeline)).foldl
        (rebindNode context job constraints block plan.2) { allocs }
      planned = some plan ∧ plan.1.jobId = job.jobId ∧ trialSlot job trialed.timelines = (some plan.2,allocs) ∧
        rebind.valid = true ∧ plan.1.perNodeAlloc = rebind.allocs ∧
        ∀ names, trialed.assignments.head?.map Assignment.nodes = some names → plan.1.nodes = names := by
  unfold groupRound at answered
  dsimp only at answered
  split at answered
  · exact .inl (Sum.inr.inj answered).symm
  rename_i start allocs slot
  split at answered
  · exact .inl (Sum.inr.inj answered).symm
  split at answered
  next valid =>
    rw [zip_project] at answered valid
    refine .inr ⟨_,allocs,(Sum.inr.inj answered).symm,rfl,slot,valid,rfl,fun names first => ?_⟩
    rw [first,getD_some]
  · split at answered
    · exact .inl (Sum.inr.inj answered).symm
    · split at answered
      · exact .inl (Sum.inr.inj answered).symm
      · cases answered

/-- A plan read from a trial: a placement, from a floor on, of the job without its GPU terms on the timelines of one
group, with the GPUs of each node replaced. -/
structure Trialed (cluster : Cluster) (pass : Pass) (job : PendingJob) (constraints : Constraints)
    (allowed : List (String × Nat)) (floor : Time) (placement : Placement) (plan : Assignment × Time) : Prop where
  found : placeJob cluster.reservations (blockJob job constraints) pass.gate floor
    (pass.timelines.map (project job constraints allowed)) cluster.selectLocalNodes = some placement
  start : plan.2 = placement.start
  nodes : placement.start ≤ floor → plan.1.nodes = placement.names
  allocs : (nodeNames pass.timelines).Nodup → ∀ timeline ∈ pass.timelines,
    Swapped job plan.2 timeline (project job constraints allowed timeline)
      placement.perNodeAlloc[timeline.node.name]? plan.1.perNodeAlloc[timeline.node.name]?

theorem groupRound_trialed (fresh : ∀ timeline ∈ pass.timelines, ∀ i ∈ timeline.intervals, i.jobId ≠ some job.jobId)
    (answered : groupRound cluster context now pass job constraints block allowed best floor = .inr planned) :
    planned = best ∨ ∃ placement plan, planned = some plan ∧
      Trialed cluster pass job constraints allowed floor placement plan := by
  rcases groupRound_cases answered with same | ⟨plan,allocs,chosen,_,slot,valid,given_,nodes⟩
  · exact .inl same
  suffices trialed : ∃ placement, Trialed cluster pass job _ allowed floor placement plan from
    .inr (trialed.imp fun _ holds => ⟨plan,chosen,holds⟩)
  have fresh_ : ∀ timeline ∈ pass.timelines.map (project job constraints allowed), ∀ i ∈ timeline.intervals,
      i.jobId ≠ some job.jobId := by
    intro timeline there i within
    obtain ⟨real,listed,rfl⟩ := List.mem_map.mp there
    obtain ⟨old,before,rfl⟩ := List.mem_map.mp within
    exact fresh real listed old before
  obtain ⟨timeline,inside,i,listed,own,begins⟩ := trialSlot_start (congrArg _ slot)
  have effect := @schedulePlain_effect cluster floor
    { timelines := pass.timelines.map (project job constraints allowed), gate := pass.gate } (blockJob job constraints)
  unfold trial at slot nodes inside
  dsimp only at slot nodes inside
  split at slot
  next ok =>
    rw [if_pos ok] at nodes inside
    rcases Grown.slots effect.slots inside listed with ⟨old,before,within⟩ | ⟨-,starts⟩
    · exact absurd own (fresh_ old before i within)
    obtain ⟨plain,planned,starts⟩ := map_eq_some_iff.mp starts
    obtain ⟨placement,found,rfl⟩ := plainPlan_placed planned
    rw [planned] at effect
    -- The slot is read back as it was booked, and then only the GPUs change.
    refine ⟨placement,found,begins.symm.trans starts.symm,fun atOnce => nodes _ ?_,fun apart timeline inside => ?_⟩
    · rw [effect.assignments,assigned,if_pos atOnce]
      rfl
    have apart_ : (nodeNames (pass.timelines.map (project job constraints allowed))).Nodup := by rwa [nodeNames_project]
    have swapped := (rebindFold_swapped (by rw [List.map_map]; exact apart) valid).2.2 _ (List.mem_map_of_mem inside)
    have stored := @trialSlot_book _ _ _ placement.start
      fresh_ (placement.start + jobDuration job.spec) placement.perNodeAlloc apart_ (List.mem_map_of_mem inside)
    rw [effect.timelines apart_] at slot
    rw [given_]
    exact (congrArg (fun slot : Option Time × Table String _ => slot.2[timeline.node.name]?) slot).symm.trans
      stored ▸ swapped
  · rw [if_neg (by assumption)] at inside
    exact absurd own (fresh_ timeline inside i listed)

theorem groupRound_moves {later : Time} (from_ : now ≤ floor)
    (moved : groupRound cluster context now pass job constraints block allowed best floor = .inl later) :
    now ≤ later ∧ floor < later ∧
      later ∈ ((pass.timelines.flatMap NodeTimeline.intervals).map Interval.end_).toFinset := by
  unfold groupRound at moved
  dsimp only at moved
  split at moved
  · cases moved
  split at moved
  · cases moved
  split at moved
  · cases moved
  split at moved
  · cases moved
  rename_i next_ retried
  split at moved
  · cases moved
  rename_i ahead
  cases moved
  rw [not_or,not_le] at ahead
  refine ⟨from_.trans ahead.1.le,ahead.1,?_⟩
  rw [List.mem_toFinset]
  refine rebindFold_retryAt ?_ (by simp) _ retried
  intro entry inside i listed
  exact mem_flatMap.mpr ⟨entry.1,(of_mem_zip inside).1,listed⟩

theorem tryGroup_answer (best : Planned) (group : Option FabricBlock × List (String × Nat)) :
    advance (groupRound cluster context now pass job constraints group.1 group.2 best) (groupFuel pass) now =
      some (tryGroup cluster context now pass job constraints best group) := by
  refine (endsWithin_of_stops _ id _ (fun _ _ from_ moved => groupRound_moves from_ moved) le_rfl ?_).answer
  rw [length_map]
  exact Nat.lt_succ_self _

def triedGroups (cluster : Cluster) (context : FabricContext) (constraints : Constraints) (demand : GpuDemand) :
    List (Option FabricBlock × List (String × Nat)) :=
  let blocks := if constraints.sameFabric then (healthyBlocks context.blocks).map some else [none]
  let groups := blocks.flatMap fun block => (gpuGroups cluster constraints block).map fun group => (block,group)
  groups.filter fun group => demand.sum ≤ group.2.length

theorem triedGroups_spec {demand : GpuDemand} {group : Option FabricBlock × List (String × Nat)}
    (tried : group ∈ triedGroups cluster context constraints demand) :
    (constraints.sameFabric = true → ∃ block ∈ context.blocks, block.hasIssues = false ∧ group.1 = some block) ∧
      ∃ key, ∀ entry ∈ group.2, ∃ node ∈ cluster.nodes, node.name = entry.1 ∧
        ∃ gpu ∈ node.totalResources.gpus, gpu.stableId = entry.2 ∧ constraints.matchesGpu gpu ∧
          constraints.groupKey node.name gpu = some key ∧ ∀ block, group.1 = some block →
            ∃ m ∈ block.members, m.device.node = node.name ∧ m.device.stableId = gpu.stableId := by
  obtain ⟨within,_⟩ := mem_filter.mp tried
  obtain ⟨block,chosen,made⟩ := mem_flatMap.mp within
  obtain ⟨members,grouped,rfl⟩ := List.mem_map.mp made
  constructor
  · intro same
    rw [if_pos same] at chosen
    obtain ⟨healthy,listed,rfl⟩ := List.mem_map.mp chosen
    have kept := mem_filter.mp ((perm_insertionSort _ _).subset listed)
    exact ⟨healthy,kept.1,by simpa using kept.2,rfl⟩
  · obtain ⟨key,_,rfl⟩ := List.mem_map.mp grouped
    refine ⟨key,fun entry inside => ?_⟩
    obtain ⟨⟨name,id,own⟩,kept,rfl⟩ := List.mem_map.mp (mem_dedup.mp inside)
    obtain ⟨admitted,same⟩ := mem_filter.mp kept
    obtain ⟨node,there,listed⟩ := mem_flatMap.mp admitted
    obtain ⟨gpu,present,admits⟩ := mem_filterMap.mp listed
    dsimp only at admits same
    obtain ⟨good,found⟩ := ite_none_right_eq_some.mp admits
    obtain ⟨_,keyed,made⟩ := map_eq_some_iff.mp found
    cases made
    rw [Bool.and_eq_true] at good
    refine ⟨node,there,rfl,gpu,present,rfl,good.1,by rw [keyed,beq_iff_eq.mp same],?_⟩
    rintro member rfl
    simpa using good.2

theorem planGpuJob_inv (Inv : Planned → Prop) (nothing : Inv none)
    (round : ∀ constraints demand, Constraints.parse job.spec.constraint = some constraints →
      (resolveGpuDemand job.spec).toOption = some demand →
      ∀ group ∈ triedGroups cluster context constraints demand, ∀ best floor planned, Inv best → now ≤ floor →
        groupRound cluster context now pass job constraints group.1 group.2 best floor = .inr planned → Inv planned) :
    Inv (planGpuJob cluster context now pass job) := by
  unfold planGpuJob
  split
  · exact nothing
  cases parsed : Constraints.parse _ with
  | none => exact nothing
  | some constraints =>
    cases asks : (resolveGpuDemand _).toOption with
    | none => exact nothing
    | some demand =>
      refine List.foldlRecOn _ _ nothing fun best kept group tried => ?_
      obtain ⟨floor,from_,answered⟩ := advance_answer _
        (fun _ _ from_ moved => (groupRound_moves from_ moved).1) le_rfl
        (@tryGroup_answer now pass cluster job _ context best group)
      exact round _ demand parsed asks group tried best floor _ kept from_ answered

inductive BoundPlan (cluster : Cluster) (context : FabricContext) (now : Time) (pass : Pass) (job : PendingJob)
    (plan : Assignment × Time) : Prop where
  | of {constraints : Constraints} {demand : GpuDemand} {group : Option FabricBlock × List (String × Nat)} {floor : Time}
      {placement : Placement} (parsed : Constraints.parse job.spec.constraint = some constraints)
      (asks : (resolveGpuDemand job.spec).toOption = some demand)
      (tried : group ∈ triedGroups cluster context constraints demand) (from_ : now ≤ floor)
      (trialed : Trialed cluster pass job constraints group.2 floor placement plan)

theorem planGpuJob_bound (fresh : ∀ timeline ∈ pass.timelines, ∀ i ∈ timeline.intervals, i.jobId ≠ some job.jobId) :
    ∀ plan ∈ planGpuJob cluster context now pass job, BoundPlan cluster context now pass job plan := by
  refine planGpuJob_inv (fun planned => ∀ plan ∈ planned, BoundPlan cluster context now pass job plan) (by simp) ?_
  intro constraints demand parsed asks group tried best floor planned kept from_ answered plan chosen
  rcases groupRound_trialed fresh answered with rfl | ⟨placement,_,rfl,trialed⟩
  · exact kept plan chosen
  · cases chosen
    exact .of parsed asks tried from_ trialed

theorem planGpuJob_plans (sound : Sound nodes now seen pass) (names : (nodes.map Node.name).Nodup)
    (formed : ∀ node ∈ nodes, node.totalResources.WellFormed) (lasts : 0 < jobDuration job.spec)
    (unseen : job.jobId ∉ seen) : Plans now pass.timelines (planGpuJob cluster context now pass job) := by
  have fresh : ∀ timeline ∈ pass.timelines, ∀ i ∈ timeline.intervals, i.jobId ≠ some _ :=
    fun timeline inside i listed own => unseen (sound.owners timeline inside i listed _ own)
  intro assignment start planned
  obtain @⟨constraints,_,group,floor,placement,_,_,_,from_,trialed⟩ := planGpuJob_bound fresh _ planned
  have placed := placeJob_placed trialed.found
  have begins : start = placement.start := trialed.start
  have later : floor ≤ start := placed.later.trans begins.ge
  refine ⟨from_.trans later,fun atOnce timeline there alloc stored => ?_⟩
  have exactly : floor = now := le_antisymm (later.trans atOnce) from_
  have begun : start = now := le_antisymm atOnce (from_.trans later)
  have swapped := trialed.allocs (sound.names_nodup names) timeline there
  rw [stored] at swapped
  cases found : placement.perNodeAlloc[timeline.node.name]? with
  | none =>
    rw [found] at swapped
    exact swapped.elim
  | some before =>
    rw [found] at swapped
    rw [exactly] at placed
    have granted := placed.granted (by rw [nodeNames_project]; exact sound.names_nodup names) (begins ▸ atOnce)
      (List.mem_map_of_mem there) (project_current (sound.current timeline there)) found
    rw [begun] at swapped
    exact swapped.1.fits (sound.current timeline there) (sound.formed_of_mem formed there) (sound.fits timeline there)
      lasts granted

theorem planGpuJob_own : ∀ plan ∈ planGpuJob cluster context now pass job, plan.1.jobId = job.jobId := by
  refine planGpuJob_inv (fun planned => ∀ plan ∈ planned, plan.1.jobId = job.jobId) (by simp) ?_
  intro _ _ _ _ _ _ _ _ planned own _ answered
  rcases groupRound_cases answered with rfl | ⟨plan,_,rfl,mine,_⟩
  · exact own
  · simpa using mine

end

section

variable {cluster : Cluster} {now : Time} {pending : List PendingJob} {seen : List JobId} {pass : Pass} {job : PendingJob}

theorem scheduleJob_sound (pending : List PendingJob) (sound : Sound cluster.nodes now seen pass)
    (names : (cluster.nodes.map Node.name).Nodup)
    (formed : ∀ node ∈ cluster.nodes, node.totalResources.WellFormed) (lasts : 0 < jobDuration job.spec)
    (unseen : job.jobId ∉ seen) :
    Sound cluster.nodes now (job.jobId :: seen) (scheduleJob cluster now pending pass job) := by
  obtain ⟨timelines,-,assignments⟩ := @checkedPass_frame cluster now pending pass job
  have checked : Sound _ now seen _ :=
    sound.congr timelines assignments
  have effect := @scheduleJob_effect cluster now pending pass job fun _ _ => planGpuJob_own
  have booked := effect.timelines (checked.names_nodup names)
  have added := effect.assignments
  cases planned : planOf cluster now pending pass job with
  | none =>
    rw [planned] at booked added
    exact (checked.congr booked (added.trans (append_nil _))).mono (subset_cons_self _ _)
  | some plan =>
    rw [planned] at booked added
    have plans : now ≤ plan.start ∧ (plan.start ≤ now → ∀ timeline ∈ (checkedPass cluster now pending pass job).timelines,
        ∀ alloc, plan.perNodeAlloc[timeline.node.name]? = some alloc → Fits timeline.total (alloc :: timeline.heldAt now)) := by
      rcases planOf_cases planned with ⟨-,found⟩ | ⟨context,-,-,found⟩
      · obtain ⟨placement,placed,rfl⟩ := plainPlan_placed found
        have placed := placeJob_placed placed
        exact ⟨placed.later,fun atOnce timeline inside alloc at_ => checked.room names formed placed atOnce inside at_⟩
      · obtain ⟨⟨assignment,start⟩,best,rfl⟩ := map_eq_some_iff.mp found
        exact planGpuJob_plans checked names formed lasts unseen assignment start best
    refine checked.booked ⟨job.jobId,plan.names,plan.perNodeAlloc⟩ plans.1 (plans.1.trans_lt (lt_add_of_pos_right _ lasts))
      booked ?_ plans.2
    rw [added,assigned]
    split
    · rfl
    · exact append_nil _

/-- A node's charge is within its inventory, and one that holds memory holds a cpu or a device. -/
structure WellCharged (node : Node) : Prop where
  fits : Fits node.totalResources [node.allocResources]
  memory : 0 < node.allocResources.memoryMb → node.isCharged

theorem seeded_sublist : (seeded node).Sublist [node.allocResources] := by
  unfold seeded
  split
  · exact List.Sublist.refl _
  · exact nil_sublist _

theorem seed_sound (charges : ∀ node ∈ cluster.nodes, WellCharged node)
    (busy : ∀ node ∈ cluster.nodes, node.isCharged → ∀ until_, cluster.busyUntil[node.name]? = some until_ → now < until_)
    {gate : HandoffGate} {skipped : Finset JobId} :
    Sound cluster.nodes now []
      { timelines := cluster.nodes.map (seed cluster now), gate, skippedGroups := skipped } := by
  have held : ∀ node ∈ cluster.nodes, ((seed cluster now node).heldAt now) = seeded node := by
    intro node inside
    unfold NodeTimeline.heldAt seeded
    rw [seed_intervals]
    split
    next charged => simp [seed_lasts (busy node inside charged)]
    · rfl
  refine ⟨seed_nodes,?_,?_,?_,?_⟩
  · intro timeline inside
    obtain ⟨node,listed,rfl⟩ := List.mem_map.mp inside
    refine ⟨?_,fun i within => ?_,fun i within => ?_⟩
    · rw [seed_intervals]
      split <;> simp
    · rw [(mem_seed.mp within).2]
    · obtain ⟨charged,rfl⟩ := mem_seed.mp within
      exact seed_lasts (busy node listed charged)
  · intro timeline inside
    obtain ⟨node,listed,rfl⟩ := List.mem_map.mp inside
    rw [seed_node,held node listed]
    exact .refl _
  · intro timeline inside
    obtain ⟨node,listed,rfl⟩ := List.mem_map.mp inside
    unfold NodeTimeline.total
    rw [seed_node,held node listed]
    exact (charges node listed).fits.subperm seeded_sublist.subperm
  · intro timeline inside i within owner owned
    obtain ⟨node,-,rfl⟩ := List.mem_map.mp inside
    rw [(mem_seed.mp within).2] at owned
    cases owned

structure Presented (cluster : Cluster) (now : Time) (pending : List PendingJob) : Prop where
  names : (cluster.nodes.map Node.name).Nodup
  range : ∀ node ∈ cluster.nodes, node.totalResources.InRange
  gpuIds : ∀ node ∈ cluster.nodes, (node.totalResources.gpus.map GpuResource.stableId).Nodup
  scalars : ∀ node ∈ cluster.nodes, ScalarFit node.totalResources [node.allocResources]
  charged : ∀ node ∈ cluster.nodes, (node.allocResources.deviceIds "gpu").Nodup ∧
    node.allocResources.deviceIds "gpu" ⊆ node.totalResources.gpus.map GpuResource.stableId
  memory : ∀ node ∈ cluster.nodes, 0 < node.allocResources.memoryMb → node.isCharged
  busy : ∀ (name : String) (until_ : Time), cluster.busyUntil[name]? = some until_ → now < until_
  limits : ∀ job ∈ pending, ∀ limit, job.spec.timeLimit = some limit → 0 < limit

theorem Presented.wellCharged (presented : Presented cluster now pending) (inside : node ∈ cluster.nodes)
    (counted : ∀ dev ∈ node.allocResources.devicesOf "gpu", 0 < dev.count % 2 ^ 32) : WellCharged node where
  fits := { presented.scalars node inside with
    distinct := by simpa using (presented.charged node inside).1
    known := by simpa using fun id => @(presented.charged node inside).2 id
    counted := by simpa using counted }
  memory := presented.memory node inside

theorem Presented.lasts (presented : Presented cluster now pending) {job : PendingJob} (inside : job ∈ pending) :
    0 < jobDuration job.spec := by
  unfold jobDuration
  cases limit : job.spec.timeLimit with
  | none => decide
  | some span => exact presented.limits job inside span limit

theorem run_sound {pending : List PendingJob} (names : (cluster.nodes.map Node.name).Nodup)
    (formed : ∀ node ∈ cluster.nodes, node.totalResources.WellFormed) {jobs : List PendingJob}
    (lasts : ∀ job ∈ jobs, 0 < jobDuration job.spec) (ids : (jobs.map fun job => job.jobId).Nodup)
    (unseen : ∀ job ∈ jobs, job.jobId ∉ seen) (sound : Sound cluster.nodes now seen pass) :
    ∃ all, Sound cluster.nodes now all (jobs.foldl (scheduleJob cluster now pending) pass) := by
  induction jobs generalizing pass seen with
  | nil => exact ⟨seen,sound⟩
  | cons job jobs ih =>
    rw [map_cons,nodup_cons] at ids
    have step := scheduleJob_sound pending sound names formed (lasts job mem_cons_self) (unseen job mem_cons_self)
    refine ih (fun other inside => lasts other (mem_cons_of_mem _ inside)) ids.2 ?_ step
    intro other inside before
    rcases mem_cons.mp before with same | older
    · exact ids.1 (List.mem_map.mpr ⟨other,inside,same⟩)
    · exact unseen other (mem_cons_of_mem _ inside) older

theorem Fits.cons_uncharged {held : List ResourceAllocations} (charge : WellCharged node)
    (idle : node.isCharged = false) (fits : Fits node.totalResources held) :
    Fits node.totalResources (node.allocResources :: held) := by
  unfold Node.isCharged at idle
  rw [Bool.or_eq_false_iff,decide_eq_false_iff_not] at idle
  have none_ : ∀ name, node.allocResources.devicesOf name = [] := by
    intro name
    unfold devicesOf
    cases found : node.allocResources.devices[name]? with
    | none => rfl
    | some devices =>
      have empty := List.any_eq_false.mp idle.2 _ (Std.ExtTreeMap.mem_toList_iff_getElem?_eq_some.mpr found)
      simpa using empty
  have memory : node.allocResources.memoryMb = 0 := by
    refine Nat.eq_zero_of_not_pos fun some_ => ?_
    have charged := charge.memory some_
    unfold Node.isCharged at charged
    rw [Bool.or_eq_true,decide_eq_true_eq,idle.2] at charged
    simp only [Bool.false_eq_true,or_false] at charged
    exact idle.1 charged
  have cpus : node.allocResources.cpus = 0 := by omega
  constructor
  · constructor
    · simpa [cpus] using fits.cpus
    · simpa [memory] using fits.memory
    · intro name other
      simpa [totalDeviceCount,none_] using fits.generic name other
  · constructor
    · simpa [deviceIds,none_] using fits.distinct
    · intro alloc inside
      rcases mem_cons.mp inside with rfl | later
      · simp [deviceIds,none_]
      · exact fits.known alloc later
    · intro alloc inside
      rcases mem_cons.mp inside with rfl | later
      · simp [none_]
      · exact fits.counted alloc later

theorem fits_of_seeds {pending : List PendingJob} {maxJobs : Nat} (names : (cluster.nodes.map Node.name).Nodup)
    (formed : ∀ node ∈ cluster.nodes, node.totalResources.WellFormed)
    (charges : ∀ node ∈ cluster.nodes, WellCharged node)
    (busy : ∀ node ∈ cluster.nodes, node.isCharged → ∀ until_, cluster.busyUntil[node.name]? = some until_ → now < until_)
    (lasts : ∀ job ∈ pending, 0 < jobDuration job.spec) (ids : (pending.map fun job => job.jobId).Nodup) :
    ∀ node ∈ cluster.nodes, Fits node.totalResources
      (node.allocResources :: given (scheduleJobs cluster now pending maxJobs).assignments node.name) := by
  intro node inside
  have chosen : (pending.take maxJobs).Sublist pending := take_sublist _ _
  obtain ⟨all,sound⟩ := run_sound names formed
    (fun job there => lasts job (chosen.subset there)) (ids.sublist (chosen.map _)) (by simp)
    (seed_sound charges busy)
  have listed : node ∈ (scheduleJobs cluster now pending maxJobs).timelines.map NodeTimeline.node := by
    unfold scheduleJobs
    rw [sound.nodes]
    exact inside
  obtain ⟨timeline,there,rfl⟩ := List.mem_map.mp listed
  have held : (timeline.heldAt now).Perm _ := sound.held timeline there
  have fits := (sound.fits timeline there).subperm held.symm.subperm
  unfold seeded at fits
  split at fits
  · exact fits.subperm (perm_append_singleton _ _).symm.subperm
  next idle =>
    rw [append_nil] at fits
    exact Fits.cons_uncharged (charges _ inside) (by simpa using idle) fits

/-- No pass gives out more than a node has. The names `gpu` and `any` are reserved, a charged GPU is
counted, and pending jobs have distinct ids. -/
theorem dispatch_fits (cluster : Cluster) (now : Time) (pending : List PendingJob) (maxJobs : Nat)
    (presented : Presented cluster now pending)
    (noGenericGpu : ∀ node ∈ cluster.nodes, node.totalResources.generic["gpu"]? = none)
    (noWildcard : ∀ node ∈ cluster.nodes, ∀ gpu ∈ node.totalResources.gpus, gpu.gpuType ≠ "any")
    (counted : ∀ node ∈ cluster.nodes, ∀ dev ∈ node.allocResources.devicesOf "gpu", 0 < dev.count % 2 ^ 32)
    (ids : (pending.map fun job => job.jobId).Nodup) :
    ∀ node ∈ cluster.nodes, Fits node.totalResources
      (node.allocResources :: given (scheduleJobs cluster now pending maxJobs).assignments node.name) :=
  fits_of_seeds presented.names (fun node there => { presented.range node there with
      distinct := presented.gpuIds node there
      noGenericGpu := noGenericGpu node there
      noWildcard := noWildcard node there })
    (fun _ there => presented.wellCharged there (counted _ there))
    (fun node _ _ until_ found => presented.busy _ until_ found) (fun _ there => presented.lasts there) ids

end

section

def loneCluster (total : ResourceSet) (held : ResourceAllocations) (fabric : Option FabricContext) : Cluster where
  nodes := [{ Node.new "n1" total with state := .idle, allocResources := held }]
  fabric := fabric

def gpuCharge (id count : Nat) : ResourceAllocations where
  devices := (∅ : Table String (List AllocatedDevice)).insert "gpu" [⟨id,count⟩]

def gpuOfType (id : Nat) (gpuType : String) : GpuResource := ⟨id,gpuType,0,[],.pcie,id,none⟩

def request (jobId : JobId) (spec : JobSpec) : PendingJob := { toJob := Job.new 0 jobId spec }

def gpuBindings : FabricContext where
  blocks := []
  bindBlock := fun _ _ _ => none
  bindGpus := fun node alloc => some ⟨node.name,alloc.generation,
    (node.totalResources.gpus.filter fun gpu => (alloc.deviceIds "gpu").contains gpu.stableId).map fun gpu =>
      ⟨gpu.stableId,gpu.gpuType,gpu.topology⟩⟩

variable {total : ResourceSet} {held : ResourceAllocations} {fabric : Option FabricContext} {pending : List PendingJob}

theorem presented_lone (range : total.InRange) (gpuIds : (total.gpus.map GpuResource.stableId).Nodup)
    (scalars : ScalarFit total [held]) (distinct : (held.deviceIds "gpu").Nodup)
    (known : held.deviceIds "gpu" ⊆ total.gpus.map GpuResource.stableId) (memory : held.memoryMb = 0)
    (limits : ∀ job ∈ pending, job.spec.timeLimit = none) : Presented (loneCluster total held fabric) 0 pending where
  names := by simp [loneCluster]
  range := by simpa [loneCluster,Node.new] using range
  gpuIds := by simpa [loneCluster,Node.new] using gpuIds
  scalars := by simpa [loneCluster,Node.new] using scalars
  charged := by simpa [loneCluster] using ⟨distinct,known⟩
  memory := by simp [loneCluster,memory]
  busy := by simp [loneCluster]
  limits := by
    intro job inside limit found
    rw [limits job inside] at found
    cases found

theorem scalarFit_gpuCharge {total : ResourceSet} {id count : Nat} : ScalarFit total [gpuCharge id count] where
  cpus := by simp [gpuCharge]
  memory := by simp [gpuCharge]
  generic := fun name other => by
    simp [gpuCharge,totalDeviceCount,devicesOf,Ne.symm other]

theorem scalarFit_idle {total : ResourceSet} : ScalarFit total [{}] where
  cpus := by simp
  memory := by simp
  generic := fun name other => by simp [totalDeviceCount,devicesOf]

theorem inRange_of_noGeneric (cpus : total.cpus ≤ u32Max) (memory : total.memoryMb ≤ u64Max)
    (generic : total.generic = ∅) : total.InRange := ⟨cpus,memory,fun name => by simp [generic]⟩

end

def twoGpus : ResourceSet where
  cpus := 4
  generation := 1
  fabricBindingVersion := 3
  gpus := [gpuOfType 1 "mi300x",gpuOfType 2 "mi300x"]

theorem dispatch_fits_two_gpus : (loneCluster twoGpus (gpuCharge 1 1) none).nodes.Forall fun node =>
    Fits node.totalResources (node.allocResources :: given (scheduleJobs (loneCluster twoGpus (gpuCharge 1 1) none) 0
      [request 1 { numTasks := 2, gpusPerNode := some ⟨1,none⟩ }] 10).assignments node.name) := by
  rw [forall_iff_forall_mem]
  refine dispatch_fits _ _ _ _ (presented_lone (inRange_of_noGeneric (by decide) (by decide) rfl) (by decide)
    scalarFit_gpuCharge (by decide +kernel) (by decide +kernel) rfl (by simp [request,Job.new])) ?_ ?_ ?_ ?_
  · simp [loneCluster,Node.new,twoGpus]
  · simp [loneCluster,Node.new,twoGpus,gpuOfType]
  · simp [loneCluster,gpuCharge,devicesOf]
  · simp

def countedGpus : ResourceSet := { cpus := 4, generic := (∅ : Table String Nat).insert "gpu" 2 }

def wildcardGpus : ResourceSet := { cpus := 4, gpus := [gpuOfType 1 "any",gpuOfType 2 "mi300x"] }

def wholeNode : PendingJob := request 1 { exclusive := true }

def threeCpus (constraint : Option String) : PendingJob :=
  request 1 { numTasks := 3, gpusPerNode := some ⟨1,none⟩, constraint }

/-- Four lone nodes on which a pass gives out what is not free: GPUs listed as a count-only resource, a
GPU type named like the wildcard, a charged GPU with a count of zero, and two pending jobs with one id. -/
theorem reserved_names_or_shared_ids_oversubscribe : (Presented (loneCluster countedGpus {} none) 0 [wholeNode] ∧
      ¬ Fits countedGpus ({} ::
        given (scheduleJobs (loneCluster countedGpus {} none) 0 [wholeNode] 10).assignments "n1")) ∧
    (Presented (loneCluster wildcardGpus (gpuCharge 1 1) none) 0 [wholeNode] ∧ ¬ Fits wildcardGpus (gpuCharge 1 1 ::
        given (scheduleJobs (loneCluster wildcardGpus (gpuCharge 1 1) none) 0 [wholeNode] 10).assignments "n1")) ∧
    (Presented (loneCluster twoGpus (gpuCharge 1 0) none) 0 [wholeNode] ∧
      ¬ ((gpuCharge 1 0 :: given (scheduleJobs (loneCluster twoGpus (gpuCharge 1 0) none) 0 [wholeNode]
        10).assignments "n1").flatMap (deviceIds · "gpu")).Nodup) ∧
    (Presented (loneCluster twoGpus {} (some gpuBindings)) 0 [threeCpus none,threeCpus (some "gpu.type=mi300x")] ∧
      ¬ Fits twoGpus ({} :: given (scheduleJobs (loneCluster twoGpus {} (some gpuBindings)) 0
        [threeCpus none,threeCpus (some "gpu.type=mi300x")] 10).assignments "n1")) := by
  refine ⟨⟨?_,?_⟩,⟨?_,?_⟩,⟨?_,?_⟩,?_,?_⟩
  · refine presented_lone ⟨by decide,by decide,fun name => ?_⟩ (by decide) scalarFit_idle (by decide +kernel)
      (by decide +kernel) rfl (by simp [wholeNode,request,Job.new])
    unfold countedGpus
    rw [find_insert]
    split <;> simp [u64Max]
  · intro fits
    have ids : (given (scheduleJobs (loneCluster countedGpus {} none) 0 [wholeNode] 10).assignments "n1").map
        (deviceIds · "gpu") = [[0]] := by decide +kernel
    obtain ⟨alloc,inside,same⟩ := List.mem_map.mp (ids ▸ mem_singleton_self [0])
    have known := fits.known alloc (mem_cons_of_mem _ inside) 0 (by simp [same])
    simp [countedGpus] at known
  · exact presented_lone (inRange_of_noGeneric (by decide) (by decide) rfl) (by decide) scalarFit_gpuCharge
      (by decide +kernel) (by decide +kernel) rfl (by simp [wholeNode,request,Job.new])
  · intro fits
    exact absurd fits.distinct (by decide +kernel)
  · exact presented_lone (inRange_of_noGeneric (by decide) (by decide) rfl) (by decide) scalarFit_gpuCharge
      (by decide +kernel) (by decide +kernel) rfl (by simp [wholeNode,request,Job.new])
  · decide +kernel
  · exact presented_lone (inRange_of_noGeneric (by decide) (by decide) rfl) (by decide) scalarFit_idle
      (by decide +kernel) (by decide +kernel) rfl (by simp [threeCpus,request,Job.new])
  · intro fits
    exact absurd fits.cpus (by decide +kernel)

end Spur.Sched
