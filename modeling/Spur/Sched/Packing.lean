import Spur.Sched.Capacity
import Spur.Library.Tally

/-! A request that the capacity check admits fits beside the allocations held. -/
namespace Spur
open Spur.Library List Table

variable {held : List ResourceAllocations}

namespace ResourceAllocations

private theorem mem_ids_addDevices {devices entries : List AllocatedDevice} {id : Nat} :
    id ∈ (devices.foldl addDevice entries).map AllocatedDevice.deviceId ↔
      id ∈ entries.map AllocatedDevice.deviceId ∨ id ∈ devices.map AllocatedDevice.deviceId := by
  induction devices generalizing entries with
  | nil => simp
  | cons dev devices ih =>
    rw [foldl_cons,ih,ids_addDevice,map_cons,mem_cons]
    split
    next listed =>
      constructor
      · rintro (old | later)
        · exact .inl old
        · exact .inr (.inr later)
      · rintro (old | rfl | later)
        · exact .inl old
        · exact .inl listed
        · exact .inr later
    next => simp [or_assoc]

theorem mem_deviceIds_add {alloc other : ResourceAllocations} {gresName : String} {id : Nat} :
    id ∈ (alloc.add other).deviceIds gresName ↔ id ∈ alloc.deviceIds gresName ∨ id ∈ other.deviceIds gresName := by
  unfold deviceIds
  rw [devicesOf_add]
  exact mem_ids_addDevices

private def countSum (devices : List AllocatedDevice) : Nat := (devices.map AllocatedDevice.count).sum

private theorem countSum_addDevice (entries : List AllocatedDevice) (dev : AllocatedDevice)
    (fits : countSum entries + dev.count ≤ u64Max) : countSum (addDevice entries dev) = countSum entries + dev.count := by
  induction entries with
  | nil => simp [addDevice,countSum]
  | cons entry entries ih =>
    have split_ : countSum (entry :: entries) = entry.count + countSum entries := rfl
    unfold addDevice
    split
    · have whole : countSum ({ entry with count := min (entry.count + dev.count) u64Max } :: entries) =
          min _ u64Max + countSum entries := rfl
      omega
    · have whole : countSum (entry :: addDevice entries dev) = entry.count + countSum _ := rfl
      omega

private theorem countSum_addDevices (devices entries : List AllocatedDevice)
    (fits : countSum entries + countSum devices ≤ u64Max) :
    countSum (devices.foldl addDevice entries) = countSum entries + countSum devices := by
  induction devices generalizing entries with
  | nil => rfl
  | cons dev devices ih =>
    have split_ : countSum (dev :: devices) = dev.count + countSum devices := rfl
    have head := countSum_addDevice entries dev (by omega)
    rw [foldl_cons,ih _ (by omega)]
    omega

theorem totalDeviceCount_add {alloc other : ResourceAllocations} {gresName : String}
    (fits : alloc.totalDeviceCount gresName + other.totalDeviceCount gresName ≤ u64Max) :
    (alloc.add other).totalDeviceCount gresName =
      alloc.totalDeviceCount gresName + other.totalDeviceCount gresName := by
  unfold totalDeviceCount at fits ⊢
  rw [devicesOf_add]
  exact countSum_addDevices _ _ fits

def sumOf (held : List ResourceAllocations) : ResourceAllocations := held.foldl add {}

theorem mem_deviceIds_sumOf {held : List ResourceAllocations} {gresName : String} {id : Nat} :
    id ∈ (sumOf held).deviceIds gresName ↔ ∃ alloc ∈ held, id ∈ alloc.deviceIds gresName := by
  have fold : ∀ (held : List _) (start : ResourceAllocations),id ∈ (held.foldl add start).deviceIds gresName ↔
        id ∈ start.deviceIds gresName ∨ ∃ alloc ∈ held, id ∈ alloc.deviceIds gresName := by
    intro held
    induction held with
    | nil => simp
    | cons alloc held ih =>
      intro start
      rw [foldl_cons,ih,mem_deviceIds_add]
      simp [or_assoc]
  rw [sumOf,fold]
  simp [deviceIds,devicesOf]

private theorem sumOf_counter (counter : ResourceAllocations → Nat) {bound : Nat} (empty : counter {} = 0)
    (adds : ∀ a b, counter a + counter b ≤ bound → counter (a.add b) = counter a + counter b)
    (fits : (held.map counter).sum ≤ bound) :
    counter (sumOf held) = (held.map counter).sum := by
  have fold : ∀ (held : List _) (start : ResourceAllocations),counter start + (held.map counter).sum ≤ bound →
        counter (held.foldl add start) = counter start + (held.map counter).sum := by
    intro held
    induction held with
    | nil => simp
    | cons alloc held ih =>
      intro start fits
      rw [map_cons,sum_cons] at fits ⊢
      have head := adds start alloc (by omega)
      rw [foldl_cons,ih _ (by omega)]
      omega
  have whole := fold held {} (by omega)
  rw [empty,Nat.zero_add] at whole
  exact whole

theorem sumOf_cpus (fits : (held.map cpus).sum ≤ u32Max) : (sumOf held).cpus = (held.map cpus).sum :=
  sumOf_counter cpus rfl (fun _ _ small => Nat.min_eq_left small) fits

theorem sumOf_memoryMb (fits : (held.map memoryMb).sum ≤ u64Max) : (sumOf held).memoryMb = (held.map memoryMb).sum :=
  sumOf_counter memoryMb rfl (fun _ _ small => Nat.min_eq_left small) fits

theorem sumOf_totalDeviceCount {gresName : String} (fits : (held.map (totalDeviceCount · gresName)).sum ≤ u64Max) :
    (sumOf held).totalDeviceCount gresName = (held.map (totalDeviceCount · gresName)).sum :=
  sumOf_counter (totalDeviceCount · gresName) (by simp [totalDeviceCount,devicesOf])
    (fun _ _ small => totalDeviceCount_add small) fits

theorem devicesOf_pushDevices (alloc : ResourceAllocations) (gresName name : String) (devices : List AllocatedDevice) :
    (alloc.pushDevices gresName devices).devicesOf name =
      if gresName = name then alloc.devicesOf name ++ devices else alloc.devicesOf name := by
  unfold pushDevices
  rw [devicesOf,find_insert]
  split
  next same => rw [Option.getD_some,same]
  next => rfl

end ResourceAllocations

section

open ResourceAllocations

theorem sum_entries_at (t : Table String Nat) (key : String) :
    ((t.toList.filter fun entry => entry.1 == key).map Prod.snd).sum = (t[key]?).getD 0 := by
  have distinct := (nodup_keys_toList t).sublist (filter_sublist (p := fun entry => entry.1 == key) |>.map _)
  have listed (entry : String × Nat) : entry ∈ t.toList.filter (fun entry => entry.1 == key) ↔
      entry.1 = key ∧ t[key]? = some entry.2 := by
    rw [mem_filter,beq_iff_eq,and_comm]
    refine and_congr_right fun same => ?_
    rw [← same]
    exact Std.ExtTreeMap.mem_toList_iff_getElem?_eq_some
  generalize t.toList.filter _ = entries at distinct listed
  match entries with
  | [] =>
    cases found : t[key]? with
    | none => rfl
    | some v => cases (listed (key,v)).mpr ⟨rfl,found⟩
  | [entry] =>
    rw [((listed entry).mp mem_cons_self).2]
    simp
  | first :: second :: rest =>
    -- Two entries of one key are not both listed.
    have same : first.1 = second.1 :=
      ((listed first).mp (by simp)).1.trans ((listed second).mp (by simp)).1.symm
    simp [same] at distinct

variable (inventory : ResourceSet) (current : ResourceAllocations)

theorem pushGeneric_cpus (generic : List (String × Nat)) (alloc : ResourceAllocations) :
    (pushGeneric generic alloc).cpus = alloc.cpus ∧ (pushGeneric generic alloc).memoryMb = alloc.memoryMb := by
  unfold pushGeneric
  induction generic generalizing alloc with
  | nil => exact ⟨rfl,rfl⟩
  | cons entry rest ih =>
    rw [foldl_cons]
    split
    · exact ih _
    · exact ih _

theorem totalDeviceCount_pushGeneric (generic : List (String × Nat)) (alloc : ResourceAllocations) (name : String) :
    (pushGeneric generic alloc).totalDeviceCount name =
      alloc.totalDeviceCount name + ((generic.filter fun entry => entry.1 == name).map Prod.snd).sum := by
  unfold pushGeneric
  induction generic generalizing alloc with
  | nil => rfl
  | cons entry rest ih =>
    have pushed : ∀ count, (alloc.pushDevices entry.1 [⟨0,count⟩]).totalDeviceCount name =
        alloc.totalDeviceCount name + if entry.1 = name then count else 0 := by
      intro count
      unfold totalDeviceCount
      rw [devicesOf_pushDevices]
      split <;> simp
    rw [foldl_cons,ih]
    by_cases same : entry.1 = name
    · rw [filter_cons_of_pos (by simpa using same),map_cons,sum_cons]
      split
      · rw [pushed,if_pos same]
        omega
      · omega
    · rw [filter_cons_of_neg (by simpa using same)]
      split
      · rw [pushed,if_neg same,Nat.add_zero]
      · rfl

theorem find_pushGeneric {generic : Table String Nat} {name : String} (absent : generic[name]? = none)
    (alloc : ResourceAllocations) : (pushGeneric generic.toList alloc).devices[name]? = alloc.devices[name]? := by
  have others : ∀ entry ∈ generic.toList, entry.1 ≠ name := by
    rintro entry inside rfl
    rw [Std.ExtTreeMap.mem_toList_iff_getElem?_eq_some,absent] at inside
    cases inside
  unfold pushGeneric
  generalize generic.toList = entries at others
  induction entries generalizing alloc with
  | nil => rfl
  | cons entry rest ih =>
    rw [forall_mem_cons] at others
    rw [foldl_cons,ih _ others.2]
    split
    · exact find_insert_ne others.1
    · rfl

theorem devicesOf_pushGeneric {generic : Table String Nat} {name : String} (absent : generic[name]? = none)
    (alloc : ResourceAllocations) : (pushGeneric generic.toList alloc).devicesOf name = alloc.devicesOf name :=
  congrArg (Option.getD · []) (find_pushGeneric absent alloc)

theorem pushGpus_scalars {wanted : List (String × Nat)} (alloc : ResourceAllocations) :
    (pushGpus inventory current wanted alloc).cpus = alloc.cpus ∧
      (pushGpus inventory current wanted alloc).memoryMb = alloc.memoryMb ∧
      ∀ name, name ≠ "gpu" → (pushGpus inventory current wanted alloc).devicesOf name = alloc.devicesOf name := by
  unfold pushGpus
  induction wanted generalizing alloc with
  | nil => exact ⟨rfl,rfl,fun _ _ => rfl⟩
  | cons entry rest ih =>
    rw [foldl_cons]
    obtain ⟨cpus,memory,other⟩ := ih _
    refine ⟨cpus,memory,fun name different => ?_⟩
    rw [other name different,devicesOf_pushDevices,if_neg (Ne.symm different)]

theorem buildNodeAllocation_scalars {request : ResourceSet} :
    (buildNodeAllocation inventory current request).cpus = request.cpus ∧
      (buildNodeAllocation inventory current request).memoryMb = request.memoryMb ∧
      ∀ name, name ≠ "gpu" → (buildNodeAllocation inventory current request).totalDeviceCount name =
        (request.generic[name]?).getD 0 := by
  unfold buildNodeAllocation
  have scalars := pushGeneric_cpus request.generic.toList (pushGpus inventory current request.gpuCounts.toList
    { cpus := request.cpus, memoryMb := request.memoryMb, generation := inventory.generation })
  obtain ⟨cpus,memory,other⟩ := pushGpus_scalars inventory current _
  refine ⟨scalars.1.trans cpus,scalars.2.trans memory,fun name different => ?_⟩
  rw [totalDeviceCount_pushGeneric,sum_entries_at,totalDeviceCount,other name different]
  simp [devicesOf]

theorem buildExclusiveAllocation_scalars {memoryMb : Nat} :
    (buildExclusiveAllocation inventory memoryMb).cpus = inventory.cpus ∧
      (buildExclusiveAllocation inventory memoryMb).memoryMb = memoryMb ∧
      ∀ name, name ≠ "gpu" → (buildExclusiveAllocation inventory memoryMb).totalDeviceCount name =
        (inventory.generic[name]?).getD 0 := by
  unfold buildExclusiveAllocation
  split
  · have scalars := pushGeneric_cpus inventory.generic.toList
      { cpus := inventory.cpus, memoryMb := memoryMb, generation := inventory.generation }
    refine ⟨scalars.1,scalars.2,fun name different => ?_⟩
    rw [totalDeviceCount_pushGeneric,sum_entries_at]
    simp [totalDeviceCount,devicesOf]
  · have scalars := pushGeneric_cpus inventory.generic.toList (pushDevices
      { cpus := inventory.cpus, memoryMb := memoryMb, generation := inventory.generation } "gpu"
      (inventory.gpus.map fun gpu => AllocatedDevice.injectable gpu.stableId))
    refine ⟨scalars.1,scalars.2,fun name different => ?_⟩
    rw [totalDeviceCount_pushGeneric,sum_entries_at,totalDeviceCount,devicesOf_pushDevices,if_neg (Ne.symm different)]
    simp [devicesOf]

end

section

open ResourceAllocations

private theorem addDevice_fresh {entries : List AllocatedDevice} {dev : AllocatedDevice}
    (fresh : dev.deviceId ∉ entries.map AllocatedDevice.deviceId) : addDevice entries dev = entries ++ [dev] := by
  induction entries with
  | nil => rfl
  | cons entry entries ih =>
    rw [map_cons,mem_cons,not_or] at fresh
    rw [addDevice,if_neg (Ne.symm fresh.1),ih fresh.2,cons_append]

private theorem addDevices_fresh {devices entries : List AllocatedDevice}
    (distinct : ((entries ++ devices).map AllocatedDevice.deviceId).Nodup) :
    devices.foldl addDevice entries = entries ++ devices := by
  induction devices generalizing entries with
  | nil => simp
  | cons dev devices ih =>
    have fresh : dev.deviceId ∉ entries.map AllocatedDevice.deviceId := by
      rw [map_append,nodup_append] at distinct
      intro listed
      exact distinct.2.2 _ listed _ mem_cons_self rfl
    rw [foldl_cons,addDevice_fresh fresh,ih (by simpa using distinct)]
    simp

theorem devicesOf_sumOf {gresName : String} (distinct : (held.flatMap (deviceIds · gresName)).Nodup) :
    (sumOf held).devicesOf gresName = held.flatMap (devicesOf · gresName) := by
  have ids : ∀ held : List _, (held.flatMap (devicesOf · gresName)).map AllocatedDevice.deviceId =
      held.flatMap (deviceIds · gresName) := by
    intro held
    rw [map_flatMap]
    rfl
  have fold : ∀ (held : List _) (start : ResourceAllocations),
      ((start.devicesOf gresName ++ held.flatMap (devicesOf · gresName)).map AllocatedDevice.deviceId).Nodup →
        (held.foldl add start).devicesOf gresName = start.devicesOf gresName ++ held.flatMap (devicesOf · gresName) := by
    intro held
    induction held with
    | nil => simp
    | cons alloc held ih =>
      intro start distinct
      rw [flatMap_cons,← append_assoc] at distinct
      have head : (start.add alloc).devicesOf gresName = start.devicesOf gresName ++ alloc.devicesOf gresName := by
        rw [devicesOf_add]
        refine addDevices_fresh (distinct.sublist ?_)
        exact (sublist_append_left _ _).map _
      rw [foldl_cons,ih _ (by rwa [head]),head,flatMap_cons,append_assoc]
  have whole := fold held {} (by
    rw [map_append,ids]
    simpa [devicesOf] using distinct)
  rw [sumOf,whole]
  simp [devicesOf]

end

section

open ResourceAllocations

variable {inventory : ResourceSet} {current : ResourceAllocations}

theorem mem_availableGpuIds {gpuType : Option String} {id : Nat}
    (free : id ∈ inventory.availableGpuIds current gpuType) :
    id ∉ current.deviceIds "gpu" ∧ id ∈ inventory.gpus.map GpuResource.stableId ∧
      ∃ gpu ∈ inventory.gpus, gpu.stableId = id ∧ ∀ kind, gpuType = some kind → kind = "any" ∨ gpu.gpuType = kind := by
  unfold ResourceSet.availableGpuIds at free
  split at free
  · cases free
  obtain ⟨gpu,inside,rfl⟩ := mem_map.mp free
  obtain ⟨listed,open_⟩ := mem_filter.mp inside
  simp only [Bool.and_eq_true,Bool.or_eq_true,beq_iff_eq,Bool.not_eq_true',contains_eq_mem,
    decide_eq_false_iff_not] at open_
  refine ⟨open_.1,mem_map_of_mem listed,gpu,listed,rfl,?_⟩
  rintro kind rfl
  simpa [eq_comm] using open_.2

theorem nodup_availableGpuIds (distinct : (inventory.gpus.map GpuResource.stableId).Nodup) {gpuType : Option String} :
    (inventory.availableGpuIds current gpuType).Nodup := by
  unfold ResourceSet.availableGpuIds
  split
  · exact nodup_nil
  · exact distinct.sublist (filter_sublist.map _)

structure FreeGpus (inventory : ResourceSet) (current : ResourceAllocations) (devices : List AllocatedDevice) : Prop where
  distinct : (devices.map AllocatedDevice.deviceId).Nodup
  free : ∀ dev ∈ devices, dev.deviceId ∉ current.deviceIds "gpu"
  known : ∀ dev ∈ devices, dev.deviceId ∈ inventory.gpus.map GpuResource.stableId
  single : ∀ dev ∈ devices, dev.count = 1

theorem freeGpus_of_ids {ids : List Nat} (distinct : ids.Nodup) (free : ∀ id ∈ ids, id ∉ current.deviceIds "gpu")
    (known : ids ⊆ inventory.gpus.map GpuResource.stableId) :
    FreeGpus inventory current (ids.map AllocatedDevice.injectable) where
  distinct := by
    rw [map_map]
    exact (map_id ids).symm ▸ distinct
  free := forall_mem_map.mpr free
  known := forall_mem_map.mpr fun _ inside => known inside
  single := forall_mem_map.mpr fun _ _ => rfl

theorem freeGpus_pushGpus (distinct : (inventory.gpus.map GpuResource.stableId).Nodup) {wanted : List (String × Nat)}
    {alloc : ResourceAllocations} (own : FreeGpus inventory current (alloc.devicesOf "gpu")) :
    FreeGpus inventory current ((pushGpus inventory current wanted alloc).devicesOf "gpu") := by
  unfold pushGpus
  induction wanted generalizing alloc with
  | nil => exact own
  | cons entry rest ih =>
    refine ih ?_
    rw [devicesOf_pushDevices,if_pos rfl]
    generalize (if entry.1 = "any" then none else some _) = gpuType
    have available : ∀ id ∈ (inventory.availableGpuIds (current.add alloc) gpuType).take entry.2, _ :=
      fun id inside => mem_availableGpuIds (mem_of_mem_take inside)
    simp only [mem_deviceIds_add,not_or] at available
    have picked := freeGpus_of_ids ((nodup_availableGpuIds distinct).sublist (take_sublist _ _))
      (fun id inside => (available id inside).1.1) fun id inside => (available id inside).2.1
    refine ⟨?_,forall_mem_append.mpr ⟨own.free,picked.free⟩,forall_mem_append.mpr ⟨own.known,picked.known⟩,
      forall_mem_append.mpr ⟨own.single,picked.single⟩⟩
    rw [map_append]
    refine List.Nodup.append own.distinct picked.distinct fun id old new => ?_
    obtain ⟨_,chosen,rfl⟩ := mem_map.mp new
    obtain ⟨_,inside,rfl⟩ := mem_map.mp chosen
    exact (available _ inside).1.2 old

theorem freeGpus_build (distinct : (inventory.gpus.map GpuResource.stableId).Nodup) {request : ResourceSet}
    (noGpu : request.generic["gpu"]? = none) :
    FreeGpus inventory current ((buildNodeAllocation inventory current request).devicesOf "gpu") := by
  unfold buildNodeAllocation
  rw [devicesOf_pushGeneric noGpu]
  refine freeGpus_pushGpus distinct ?_
  constructor <;> simp [devicesOf]

theorem devicesOf_buildExclusive (noGpu : inventory.generic["gpu"]? = none) (memoryMb : Nat) :
    (buildExclusiveAllocation inventory memoryMb).devicesOf "gpu" =
      inventory.gpus.map fun gpu => AllocatedDevice.injectable gpu.stableId := by
  unfold buildExclusiveAllocation
  rw [devicesOf_pushGeneric noGpu]
  split
  next none_ =>
    rw [List.isEmpty_iff.mp none_]
    simp [devicesOf]
  next =>
    rw [devicesOf_pushDevices]
    simp [devicesOf]

end

section

open ResourceAllocations

variable {set : ResourceSet} {alloc : ResourceAllocations} {request : ResourceSet}

theorem gpuCounts_getD (set : ResourceSet) (gpuType : String) :
    (set.gpuCounts[gpuType]?).getD 0 = set.gpus.countP fun gpu => gpu.gpuType == gpuType := by
  have fold : ∀ (gpus : List GpuResource) (counts : Table String Nat),
      ((gpus.foldl (fun counts gpu => counts.insert gpu.gpuType ((counts[gpu.gpuType]?).getD 0 + 1)) counts)[gpuType]?).getD
        0 = (counts[gpuType]?).getD 0 + gpus.countP fun gpu => gpu.gpuType == gpuType := by
    intro gpus
    induction gpus with
    | nil => simp
    | cons gpu gpus ih =>
      intro counts
      rw [foldl_cons,ih,find_insert]
      by_cases same : gpu.gpuType = gpuType
      · rw [if_pos same,Option.getD_some,same,countP_cons_of_pos (by simpa using same)]
        omega
      · rw [if_neg same,countP_cons_of_neg (by simpa using same)]
  unfold ResourceSet.gpuCounts
  rw [fold,Std.ExtTreeMap.getElem?_empty,Option.getD_none,Nat.zero_add]

theorem sum_gpuCounts (set : ResourceSet) : (set.gpuCounts.toList.map Prod.snd).sum = set.gpus.length := by
  have fold : ∀ (gpus : List GpuResource) (counts : Table String Nat),
      Table.total (fun _ n => n) (gpus.foldl (fun counts gpu =>
        counts.insert gpu.gpuType ((counts[gpu.gpuType]?).getD 0 + 1)) counts) = Table.total (fun _ n => n) counts + gpus.length := by
    intro gpus
    induction gpus with
    | nil => simp
    | cons gpu gpus ih =>
      intro counts
      have more := total_insert (f := fun _ n => n) counts gpu.gpuType ((counts[gpu.gpuType]?).getD 0 + 1)
      have before : Table.share (fun _ n => n) counts gpu.gpuType = (counts[gpu.gpuType]?).getD 0 := by
        unfold Table.share
        cases counts[gpu.gpuType]? <;> rfl
      rw [foldl_cons,ih,length_cons]
      omega
  rw [sum_values]
  unfold ResourceSet.gpuCounts
  rw [fold,total_eq_zero (by simp),Nat.zero_add]

def ofGpuType (set : ResourceSet) (gpuType : String) (dev : AllocatedDevice) : Bool :=
  (set.findGpu dev.deviceId).elim false fun gpu => gpu.gpuType == gpuType

theorem availGpus_find (set : ResourceSet) (alloc : ResourceAllocations) (gpuType : String) :
    ((set.availGpus alloc)[gpuType]?).getD 0 = set.gpus.countP (fun gpu => gpu.gpuType == gpuType) -
      load (ofGpuType set gpuType) (fun dev => dev.count % 2 ^ 32) (alloc.devicesOf "gpu") := by
  rw [← gpuCounts_getD]
  unfold ResourceSet.availGpus
  generalize alloc.devicesOf "gpu" = devices, set.gpuCounts = avail
  induction devices generalizing avail with
  | nil => simp
  | cons dev devices ih =>
    rw [foldl_cons,ih,load_cons]
    unfold ofGpuType
    cases set.findGpu _ with
    | none => simp
    | some gpu =>
      simp only [Option.elim_some,beq_iff_eq]
      rw [find_insert]
      by_cases same : gpu.gpuType = gpuType
      · subst same
        rw [if_pos rfl,if_pos rfl,Option.getD_some,Nat.sub_sub]
      · rw [if_neg same,if_neg same,Nat.zero_add]

theorem findGpu_of_mem (distinct : (set.gpus.map GpuResource.stableId).Nodup) {gpu : GpuResource}
    (present : gpu ∈ set.gpus) : set.findGpu gpu.stableId = some gpu := by
  unfold ResourceSet.findGpu
  obtain ⟨first,hit⟩ := Option.isSome_iff_exists.mp (List.find?_isSome (p := fun g => g.stableId == gpu.stableId)
    |>.mpr ⟨gpu,present,by simp⟩)
  have key := List.find?_some hit
  rw [hit]
  congr 1
  exact inj_on_of_nodup_map distinct (List.mem_of_find?_eq_some hit) present (by simpa using key)

def freeCount (set : ResourceSet) (alloc : ResourceAllocations) (gpuType : String) : Nat :=
  if gpuType = "any" then set.gpus.length - alloc.totalDeviceCount "gpu" % 2 ^ 32
  else set.gpus.countP (fun gpu => gpu.gpuType == gpuType) -
    load (ofGpuType set gpuType) (fun dev => dev.count % 2 ^ 32) (alloc.devicesOf "gpu")

theorem canSatisfy_iff : set.canSatisfyWithAllocated alloc request ↔
    request.cpus ≤ set.cpus - alloc.cpus ∧ request.memoryMb ≤ set.memoryMb - alloc.memoryMb ∧
      (request.gpus = [] ∨ set.holdsUnknownGpu alloc = false) ∧
      (∀ gpuType, request.gpus.countP (fun gpu => gpu.gpuType == gpuType) ≤ freeCount set alloc gpuType) ∧
      ∀ name, (request.generic[name]?).getD 0 ≤ (set.generic[name]?).getD 0 - alloc.totalDeviceCount name := by
  have free (gpuType : String) (count : Nat) :
      set.gpuCountFits alloc gpuType count = true ↔ count ≤ freeCount set alloc gpuType := by
    unfold ResourceSet.gpuCountFits freeCount
    rw [sum_gpuCounts,availGpus_find]
    split <;> exact decide_eq_true_iff
  unfold ResourceSet.canSatisfyWithAllocated
  simp only [Bool.and_eq_true,Bool.or_eq_true,Bool.not_eq_true',decide_eq_true_eq,all_eq_true,List.isEmpty_iff,free,
    and_assoc]
  rw [forall_entries_le _,
    forall_entries_le fun name => (set.generic[name]?).getD 0 - alloc.totalDeviceCount name]
  simp only [gpuCounts_getD]

theorem canSatisfy_self {set : ResourceSet} : set.canSatisfyWithAllocated {} set := by
  have nothing : ∀ name, ({} : ResourceAllocations).devicesOf name = [] := fun name => rfl
  refine canSatisfy_iff.mpr ⟨le_rfl,le_rfl,.inr ?_,fun gpuType => ?_,fun name => ?_⟩
  · simp [ResourceSet.holdsUnknownGpu,deviceIds,nothing]
  · unfold freeCount
    split
    · simpa [totalDeviceCount,nothing] using countP_le_length
    · simp [nothing]
  · simp [totalDeviceCount,nothing]

end

section

open ResourceAllocations

variable {inventory request : ResourceSet} {current : ResourceAllocations} {kind : String}

theorem devicesOf_build (noGpu : request.generic["gpu"]? = none) (one : ∀ gpu ∈ request.gpus, gpu.gpuType = kind) :
    (buildNodeAllocation inventory current request).devicesOf "gpu" =
      inventory.pickGpus current (if kind = "any" then none else some kind) request.gpus.length := by
  unfold buildNodeAllocation
  rw [devicesOf_pushGeneric noGpu]
  generalize same : ({ cpus := request.cpus, memoryMb := request.memoryMb, generation := inventory.generation } :
    ResourceAllocations) = scalar
  have bare : scalar.devicesOf "gpu" = [] := by
    rw [← same]
    rfl
  have alike : inventory.pickGpus (current.add scalar) = inventory.pickGpus current := by
    have ids : (current.add scalar).deviceIds "gpu" = current.deviceIds "gpu" := by
      unfold deviceIds
      rw [devicesOf_add,bare]
      rfl
    unfold ResourceSet.pickGpus ResourceSet.availableGpuIds ResourceSet.holdsUnknownGpu
    rw [ids]
  have counted : ∀ (gpus : List GpuResource) (n : Nat), (∀ gpu ∈ gpus, gpu.gpuType = kind) →
      gpus.foldl (fun counts gpu => counts.insert gpu.gpuType ((counts[gpu.gpuType]?).getD 0 + 1))
        ((∅ : Table String Nat).insert kind n) = (∅ : Table String Nat).insert kind (n + gpus.length) := by
    intro gpus
    induction gpus with
    | nil => simp
    | cons gpu gpus ih =>
      intro n one
      obtain ⟨rfl,rest⟩ := forall_mem_cons.mp one
      have more : n + (gpus.length + 1) = n + 1 + gpus.length := by omega
      rw [foldl_cons,length_cons,more,← ih _ rest]
      congr 1
      exact Table.ext fun key => by grind
  unfold ResourceSet.gpuCounts pushGpus
  cases asked : request.gpus with
  | nil => exact bare
  | cons gpu gpus =>
    rw [asked] at one
    obtain ⟨rfl,rest⟩ := forall_mem_cons.mp one
    have entries : (gpus.foldl (fun counts gpu => counts.insert gpu.gpuType ((counts[gpu.gpuType]?).getD 0 + 1))
        ((∅ : Table String Nat).insert gpu.gpuType 1)).toList = [(gpu.gpuType,gpus.length + 1)] := by
      rw [counted gpus 1 rest,← perm_singleton]
      refine (perm_ext_iff_of_nodup ?_ (nodup_singleton _)).mpr fun entry => ?_
      · exact (nodup_keys_toList _).of_map
      · grind
    rw [foldl_cons,Std.ExtTreeMap.getElem?_empty,Option.getD_none,entries,foldl_cons,foldl_nil,
      devicesOf_pushDevices,bare,alike]
    rfl

/-- The held GPUs of one kind are no more than what their devices count. -/
theorem countP_held_le (distinct : (inventory.gpus.map GpuResource.stableId).Nodup) (q : GpuResource → Bool)
    {weight : AllocatedDevice → Nat} (counted : ∀ dev ∈ current.devicesOf "gpu", 1 ≤ weight dev) :
    (inventory.gpus.filter fun gpu => (current.deviceIds "gpu").contains gpu.stableId).countP q ≤
      load (fun dev => (inventory.findGpu dev.deviceId).elim false q) weight (current.devicesOf "gpu") := by
  have ids : (((inventory.gpus.filter fun gpu => (current.deviceIds "gpu").contains gpu.stableId).filter q).map
      GpuResource.stableId) ⊆ ((current.devicesOf "gpu").filter fun dev =>
        (inventory.findGpu dev.deviceId).elim false q).map AllocatedDevice.deviceId := by
    intro id listed
    obtain ⟨gpu,kept,rfl⟩ := mem_map.mp listed
    obtain ⟨held,good⟩ := mem_filter.mp kept
    obtain ⟨present,named⟩ := mem_filter.mp held
    obtain ⟨dev,own,same⟩ := mem_map.mp (contains_iff_mem.mp named)
    refine mem_map.mpr ⟨dev,mem_filter.mpr ⟨own,?_⟩,same⟩
    rw [same,findGpu_of_mem distinct present]
    exact good
  have few := (List.Nodup.subperm (distinct.sublist ((filter_sublist.trans filter_sublist).map _)) ids).length_le
  rw [length_map,length_map,← countP_eq_length_filter] at few
  refine few.trans (le_of_eq_of_le (length_map weight).symm (length_le_sum_of_one_le _ ?_))
  exact forall_mem_map.mpr fun dev inside => counted dev (mem_filter.mp inside).1

theorem freeCount_le_available (distinct : (inventory.gpus.map GpuResource.stableId).Nodup)
    (known : inventory.holdsUnknownGpu current = false) (counted : ∀ dev ∈ current.devicesOf "gpu", 0 < dev.count)
    (few : current.totalDeviceCount "gpu" < 2 ^ 32) {kind : String} : freeCount inventory current kind ≤
      (inventory.availableGpuIds current (if kind = "any" then none else some kind)).length := by
  have uncut : ∀ dev ∈ current.devicesOf "gpu", 1 ≤ dev.count % 2 ^ 32 := by
    intro dev inside
    have part := single_le_sum (l := (current.devicesOf "gpu").map _) (fun _ _ => Nat.zero_le _)
      dev.count (mem_map_of_mem inside)
    rw [Nat.mod_eq_of_lt (part.trans_lt few)]
    exact counted dev inside
  have open_ (q : GpuResource → Bool) := countP_eq_countP_filter_add inventory.gpus q fun gpu =>
    (current.deviceIds "gpu").contains gpu.stableId
  unfold freeCount ResourceSet.availableGpuIds
  rw [known,if_neg Bool.false_ne_true,length_map]
  split
  next any =>
    have held := countP_held_le distinct (fun _ => true) counted
    have all := open_ fun _ => true
    have within := held.trans load_le_sum
    change _ ≤ current.totalDeviceCount "gpu" at within
    simp only [countP_true] at all within
    simp only [beq_self_eq_true,Bool.true_or,Bool.and_true]
    omega
  next typed =>
    have held := countP_held_le distinct (fun gpu => gpu.gpuType == kind) uncut
    have all := open_ fun gpu => gpu.gpuType == kind
    change _ ≤ load (ofGpuType inventory kind) _ _ at held
    have same : (inventory.gpus.filter fun gpu => !(current.deviceIds "gpu").contains gpu.stableId &&
        (some kind == none || some kind == some "any" || some kind == some gpu.gpuType)).length =
          (inventory.gpus.filter fun gpu => !(current.deviceIds "gpu").contains gpu.stableId).countP
            fun gpu => gpu.gpuType == kind := by
      rw [countP_filter,countP_eq_length_filter]
      congr 1
      refine filter_congr fun gpu _ => Bool.eq_iff_iff.mpr ?_
      simp only [Bool.and_eq_true,Bool.or_eq_true,beq_iff_eq,Option.some.injEq,typed,reduceCtorEq,false_or,
        eq_comm (a := kind),and_comm]
    omega

/-- A request of one GPU type that the check admits is given all it asks for, on free GPUs of that type. -/
theorem build_exact (inventory request : ResourceSet) (current : ResourceAllocations) (kind : String)
    (distinct : (inventory.gpus.map GpuResource.stableId).Nodup)
    (counted : ∀ name, ∀ dev ∈ current.devicesOf name, 0 < dev.count) (few : current.totalDeviceCount "gpu" < 2 ^ 32)
    (noGpu : request.generic["gpu"]? = none) (one : ∀ gpu ∈ request.gpus, gpu.gpuType = kind)
    (fits : inventory.canSatisfyWithAllocated current request) :
    let alloc := buildNodeAllocation inventory current request
    alloc.cpus = request.cpus ∧ alloc.memoryMb = request.memoryMb ∧
      (∀ name, name ≠ "gpu" → alloc.totalDeviceCount name = (request.generic[name]?).getD 0) ∧
      (alloc.deviceIds "gpu").length = request.gpus.length ∧ (alloc.deviceIds "gpu").Nodup ∧
      ∀ id ∈ alloc.deviceIds "gpu", id ∉ current.deviceIds "gpu" ∧
        ∃ gpu ∈ inventory.gpus, gpu.stableId = id ∧ (kind = "any" ∨ gpu.gpuType = kind) := by
  intro alloc
  obtain ⟨cpus,memory,generic⟩ := buildNodeAllocation_scalars inventory current
  have ids : alloc.deviceIds "gpu" =
      (inventory.availableGpuIds current (if kind = "any" then none else some kind)).take request.gpus.length := by
    unfold deviceIds
    rw [devicesOf_build noGpu one,ResourceSet.pickGpus,map_map]
    exact map_id _
  have enough : request.gpus.length ≤
      (inventory.availableGpuIds current (if kind = "any" then none else some kind)).length := by
    obtain ⟨_,_,unknown,gpus,_⟩ := canSatisfy_iff.mp fits
    rcases unknown with none_ | known
    · rw [none_]
      exact Nat.zero_le _
    have all := countP_eq_length.mpr fun gpu inside => beq_iff_eq.mpr (one gpu inside)
    exact (all.symm.trans_le (gpus kind)).trans (freeCount_le_available distinct known (counted "gpu") few)
  refine ⟨cpus,memory,generic,?_,?_,fun id inside => ?_⟩
  · rw [ids,length_take,Nat.min_eq_left enough]
  · rw [ids]
    exact (nodup_availableGpuIds distinct).sublist (take_sublist _ _)
  · rw [ids] at inside
    obtain ⟨free,-,gpu,present,same,typed⟩ := mem_availableGpuIds (mem_of_mem_take inside)
    refine ⟨free,gpu,present,same,?_⟩
    by_cases any : kind = "any"
    · exact .inl any
    · exact typed kind (if_neg any)

def gpusOf (ids : List Nat) : ResourceSet where
  gpus := ids.map fun id => ⟨id,"mi300x",0,[],.pcie,id,none⟩

def holding (id count : Nat) : ResourceAllocations where
  devices := (∅ : Table String (List AllocatedDevice)).insert "gpu" [⟨id,count⟩]

theorem build_exact_second : (buildNodeAllocation (gpusOf [1,2]) (holding 1 1) (gpusOf [0])).deviceIds "gpu" = [2] ∧
    ((buildNodeAllocation (gpusOf [1,2]) (holding 1 1) (gpusOf [0])).deviceIds "gpu").length = 1 := by
  refine ⟨by decide +kernel,(build_exact _ _ _ "mi300x" (by decide) ?_ (by decide +kernel)
    (by decide +kernel) (by decide) (by decide +kernel)).2.2.2.1⟩
  intro name dev inside
  unfold holding devicesOf at inside
  rw [find_insert] at inside
  split at inside
  · rw [mem_singleton.mp inside]
    decide
  · simp at inside

/-- A count of 2^32 is cut to nothing by the check, which then admits a GPU that is not free; and a count-only resource
named as the GPUs are comes out as a GPU id. -/
theorem cut_count_or_gpu_gres_misses :
    ((gpusOf [1]).canSatisfyWithAllocated (holding 1 (2 ^ 32)) (gpusOf [0]) = true ∧
      (buildNodeAllocation (gpusOf [1]) (holding 1 (2 ^ 32)) (gpusOf [0])).deviceIds "gpu" = []) ∧
    ResourceSet.canSatisfyWithAllocated { generic := (∅ : Table String Nat).insert "gpu" 1 } {}
        { generic := (∅ : Table String Nat).insert "gpu" 1 } = true ∧
      (buildNodeAllocation { generic := (∅ : Table String Nat).insert "gpu" 1 } {}
        { generic := (∅ : Table String Nat).insert "gpu" 1 }).deviceIds "gpu" = [0] := by
  decide +kernel

end

structure ResourceSet.InRange (set : ResourceSet) : Prop where
  cpus : set.cpus ≤ u32Max
  memory : set.memoryMb ≤ u64Max
  generic : ∀ name : String, (set.generic[name]?).getD 0 ≤ u64Max

/-- An inventory as nodes report it: GPU ids are distinct, GPUs are not also a count-only resource, and
no GPU type is the wildcard. -/
structure ResourceSet.WellFormed (set : ResourceSet) : Prop extends set.InRange where
  distinct : (set.gpus.map GpuResource.stableId).Nodup
  noGenericGpu : set.generic["gpu"]? = none
  noWildcard : ∀ gpu ∈ set.gpus, gpu.gpuType ≠ "any"

/-- The cpus, memory and count-only resources of the held allocations add up within the inventory. -/
structure ScalarFit (total : ResourceSet) (held : List ResourceAllocations) : Prop where
  cpus : (held.map ResourceAllocations.cpus).sum ≤ total.cpus
  memory : (held.map ResourceAllocations.memoryMb).sum ≤ total.memoryMb
  generic : ∀ name, name ≠ "gpu" →
    (held.map (ResourceAllocations.totalDeviceCount · name)).sum ≤ (total.generic[name]?).getD 0

/-- The GPU ids of the held allocations are ids of the inventory, and each is held once. -/
structure GpuFit (total : ResourceSet) (held : List ResourceAllocations) : Prop where
  distinct : (held.flatMap (ResourceAllocations.deviceIds · "gpu")).Nodup
  known : ∀ alloc ∈ held, ∀ id ∈ alloc.deviceIds "gpu", id ∈ total.gpus.map GpuResource.stableId
  counted : ∀ alloc ∈ held, ∀ dev ∈ alloc.devicesOf "gpu", 0 < dev.count % 2 ^ 32

section

open ResourceAllocations

variable {total request : ResourceSet} {held : List ResourceAllocations} {current alloc : ResourceAllocations}

structure Totals (current : ResourceAllocations) (held : List ResourceAllocations) : Prop where
  cpus : current.cpus = (held.map ResourceAllocations.cpus).sum
  memory : current.memoryMb = (held.map ResourceAllocations.memoryMb).sum
  generic : ∀ name, name ≠ "gpu" →
    current.totalDeviceCount name = (held.map (ResourceAllocations.totalDeviceCount · name)).sum

theorem totals_sumOf (range : total.InRange) (fit : ScalarFit total held) : Totals (sumOf held) held where
  cpus := sumOf_cpus (fit.cpus.trans range.cpus)
  memory := sumOf_memoryMb (fit.memory.trans range.memory)
  generic := fun name other => sumOf_totalDeviceCount ((fit.generic name other).trans (range.generic name))

theorem scalarFit_share (fit : ScalarFit total held) (reads : Totals current held)
    (fits : total.canSatisfyWithAllocated current request) (cpus : alloc.cpus ≤ request.cpus)
    (memory : alloc.memoryMb ≤ request.memoryMb)
    (generic : ∀ name, name ≠ "gpu" → alloc.totalDeviceCount name ≤ (request.generic[name]?).getD 0) :
    ScalarFit total (alloc :: held) := by
  obtain ⟨enoughCpus,enoughMemory,_,_,enough⟩ := canSatisfy_iff.mp fits
  constructor
  · have now := fit.cpus
    rw [map_cons,sum_cons]
    rw [reads.cpus] at enoughCpus
    omega
  · have now := fit.memory
    rw [map_cons,sum_cons]
    rw [reads.memory] at enoughMemory
    omega
  · intro name other
    have now := fit.generic name other
    have asked := generic name other
    have more := enough name
    rw [map_cons,sum_cons]
    rw [reads.generic name other] at more
    omega

theorem gpuFit_cons (fit : GpuFit total held) (free : FreeGpus total (sumOf held) (alloc.devicesOf "gpu")) :
    GpuFit total (alloc :: held) := by
  constructor
  · refine List.Nodup.append free.distinct fit.distinct ?_
    intro id own other
    obtain ⟨dev,listed,rfl⟩ := mem_map.mp own
    refine free.free dev listed ?_
    rw [mem_deviceIds_sumOf]
    simpa using other
  · intro other inside id listed
    rcases mem_cons.mp inside with rfl | old
    · obtain ⟨dev,own,rfl⟩ := mem_map.mp listed
      exact free.known dev own
    · exact fit.known other old id listed
  · intro other inside dev listed
    rcases mem_cons.mp inside with rfl | old
    · rw [free.single dev listed]
      decide
    · exact fit.counted other old dev listed

theorem no_gpu_held (formed : total.WellFormed) (fit : GpuFit total held)
    (fits : total.canSatisfyWithAllocated (sumOf held) total) : ∀ alloc ∈ held, alloc.deviceIds "gpu" = [] := by
  intro alloc inside
  rw [eq_nil_iff_forall_not_mem]
  intro id listed
  obtain ⟨gpu,present,rfl⟩ := mem_map.mp (fit.known alloc inside id listed)
  have enough := (canSatisfy_iff.mp fits).2.2.2.1 gpu.gpuType
  rw [freeCount,if_neg (formed.noWildcard gpu present)] at enough
  have counted : 0 < total.gpus.countP fun other => other.gpuType == gpu.gpuType :=
    countP_pos_iff.mpr ⟨gpu,present,by simp⟩
  obtain ⟨dev,own,same⟩ := mem_map.mp listed
  have found : total.findGpu dev.deviceId = some gpu := by
    rw [same]
    exact findGpu_of_mem formed.distinct present
  -- The held device takes one of its type, so not all of them are free.
  have taken : 1 ≤ load (ofGpuType total gpu.gpuType) (fun dev => dev.count % 2 ^ 32) ((sumOf held).devicesOf "gpu") := by
    rw [devicesOf_sumOf fit.distinct]
    have member : dev ∈ held.flatMap (devicesOf · "gpu") := mem_flatMap.mpr ⟨alloc,inside,own⟩
    have part := @load_le_of_sublist _ (ofGpuType total gpu.gpuType) (fun dev => dev.count % 2 ^ 32) [dev] _
      (singleton_sublist.mpr member)
    have counted := fit.counted alloc inside dev own
    rw [load_cons,if_pos (by simp [ofGpuType,found])] at part
    omega
  omega

/-- An allocation the scheduler makes on a node: a share the check admits, or the whole of an idle node. -/
inductive Granted (total : ResourceSet) (current : ResourceAllocations) : ResourceAllocations → Prop where
  | share {request : ResourceSet} (fits : total.canSatisfyWithAllocated current request)
      (noGpu : request.generic["gpu"]? = none) : Granted total current (buildNodeAllocation total current request)
  | whole {memoryMb : Nat} (fits : total.canSatisfyWithAllocated current total) (room : memoryMb ≤ total.memoryMb) :
      Granted total current (buildExclusiveAllocation total memoryMb)

theorem Granted.scalarFit (granted : Granted total current alloc) (fit : ScalarFit total held)
    (reads : Totals current held) : ScalarFit total (alloc :: held) := by
  cases granted with
  | share fits _ =>
    obtain ⟨cpus,memory,generic⟩ := buildNodeAllocation_scalars total current
    exact scalarFit_share fit reads fits cpus.le memory.le fun name other => (generic name other).le
  | whole fits room =>
    obtain ⟨cpus,memory,generic⟩ := buildExclusiveAllocation_scalars total
    exact scalarFit_share fit reads fits cpus.le (memory.trans_le room) fun name other => (generic name other).le

theorem Granted.gpuFit (formed : total.WellFormed) (granted : Granted total (sumOf held) alloc)
    (fit : GpuFit total held) : GpuFit total (alloc :: held) := by
  refine gpuFit_cons fit ?_
  cases granted with
  | share fits noGpu => exact freeGpus_build formed.distinct noGpu
  | whole fits room =>
    have idle := no_gpu_held formed fit fits
    rw [devicesOf_buildExclusive formed.noGenericGpu]
    have free := @freeGpus_of_ids total (sumOf held) _ formed.distinct (fun id _ listed => ?_) (List.Subset.refl _)
    · rwa [map_map] at free
    · obtain ⟨other,inside,own⟩ := mem_deviceIds_sumOf.mp listed
      rw [idle other inside] at own
      cases own

theorem Granted.single (formed : total.WellFormed)
    (granted : Granted total current alloc) : ∀ dev ∈ alloc.devicesOf "gpu", dev.count = 1 := by
  cases granted with
  | share fits noGpu => exact (freeGpus_build formed.distinct noGpu).single
  | whole fits room =>
    intro dev listed
    rw [devicesOf_buildExclusive formed.noGenericGpu] at listed
    obtain ⟨gpu,_,rfl⟩ := mem_map.mp listed
    rfl

end

structure Fits (total : ResourceSet) (held : List ResourceAllocations) : Prop extends ScalarFit total held,
    GpuFit total held

theorem Fits.subperm {total : ResourceSet} {held others : List ResourceAllocations} (fits : Fits total held)
    (sub : others.Subperm held) : Fits total others := by
  obtain ⟨same,perm,sub⟩ := sub
  have less (count : ResourceAllocations → Nat) : (others.map count).sum ≤ (held.map count).sum :=
    (perm.map count).sum_eq.ge.trans ((sub.map count).sum_le_sum fun _ _ => Nat.zero_le _)
  have among {alloc : ResourceAllocations} (inside : alloc ∈ others) : alloc ∈ held := sub.subset (perm.mem_iff.mpr inside)
  exact {
    cpus := (less _).trans fits.cpus
    memory := (less _).trans fits.memory
    generic := fun name other => (less _).trans (fits.generic name other)
    distinct := (perm.flatMap_right _).nodup_iff.mp (fits.distinct.sublist (sub.flatMap _))
    known := fun alloc inside => fits.known alloc (among inside)
    counted := fun alloc inside => fits.counted alloc (among inside) }

theorem Granted.fits {total : ResourceSet} {alloc : ResourceAllocations}
    (formed : total.WellFormed) (granted : Granted total (ResourceAllocations.sumOf held) alloc)
    (fits : Fits total held) :
    Fits total (alloc :: held) :=
  { granted.scalarFit fits.toScalarFit (totals_sumOf formed.toInRange fits.toScalarFit),
    granted.gpuFit formed fits.toGpuFit with }

end Spur
