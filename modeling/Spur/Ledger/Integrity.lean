import Spur.Ledger.Allocation
import Spur.Library.Run

/-! The ledger's bitmaps, owners, memory counter and launch markers agree after every run of calls. -/
namespace Spur.Ledger
open Spur Spur.Library Spur.Library.Holdings Spur.Library.Run Spur.Cluster List Option Table

def Owned.cpus (owned : Owned) : List Nat := owned.result.cpuIds

def Owned.gpus (owned : Owned) : List Nat := owned.result.gpuIds

def Owned.memory (owned : Owned) : Nat := owned.result.memoryMb

namespace NodeAllocation

def gpuIds (s : NodeAllocation) : List Nat := s.gpus.map GpuResource.stableId

/-- The bitmaps mark what is owned or excluded, no device has two owners, and what is being launched is
owned. -/
structure Sound (s : NodeAllocation) : Prop where
  indexed : s.cpuIndex = indexCpuIds s.cpuIds
  cpus : Booked s.cpuIds s.allocatedCpus s.unavailable Owned.cpus s.owners
  gpus : Booked s.gpuIds s.gpuAllocated ∅ Owned.gpus s.owners
  launching : ∀ jobId : JobId, s.launching[jobId]?.isSome = true → s.owners[jobId]?.isSome = true

def Weighed (s : NodeAllocation) : Prop := s.allocatedMemoryMb = Table.total (fun _ => Owned.memory) s.owners

end NodeAllocation

variable {cpu runAttempt : Nat} {p : Nat → Nat → Prop} {gpuDeviceIds : List Nat} {fresh : ResourceSet}

section

private theorem find_indexed {cpuIds : List Nat} (distinct : cpuIds.Nodup) {n : Nat} {index : Table Nat Nat} :
    ((cpuIds.zipIdx n).foldl (fun index entry => index.insert entry.1 entry.2) index)[cpu]? =
      ((cpuIds.idxOf? cpu).map (· + n)).or index[cpu]? := by
  induction cpuIds generalizing n index with
  | nil => rfl
  | cons first cpuIds ih =>
    rw [zipIdx_cons,foldl_cons,ih distinct.of_cons,List.idxOf?_cons]
    by_cases same : first = cpu
    · have absent : cpuIds.idxOf? cpu = none := List.idxOf?_eq_none_iff.mpr (same ▸ distinct.notMem)
      simp [same,absent]
    rw [find_insert_ne same]
    simp only [beq_iff_eq,same,if_false]
    cases cpuIds.idxOf? cpu with
    | none => rfl
    | some i =>
      simp only [map_some,some_or,Option.some.injEq]
      omega

theorem find_indexCpuIds {cpuIds : List Nat} (distinct : cpuIds.Nodup) (cpu : Nat) :
    (indexCpuIds cpuIds)[cpu]? = cpuIds.idxOf? cpu := by
  unfold indexCpuIds
  rw [find_indexed distinct]
  simp

variable {s : NodeAllocation}

theorem setCpu_eq_mark (indexed : s.cpuIndex = indexCpuIds s.cpuIds) (distinct : s.cpuIds.Nodup) (bit : Bool) :
    s.setCpu bit = Bitmap.mark s.cpuIds bit := by
  funext bits cpu
  unfold NodeAllocation.setCpu Bitmap.mark
  cases found : s.cpuIds.idxOf? cpu <;> rw [indexed,find_indexCpuIds distinct,found]

theorem isAllocated_eq_marked (indexed : s.cpuIndex = indexCpuIds s.cpuIds) (distinct : s.cpuIds.Nodup) (cpu : Nat) :
    s.isAllocated cpu = Bitmap.marked s.cpuIds s.allocatedCpus cpu := by
  unfold NodeAllocation.isAllocated Bitmap.marked
  rw [indexed,find_indexCpuIds distinct]

theorem gpuPosition_eq (s : NodeAllocation) (id : Nat) : s.gpuPosition id = s.gpuIds.idxOf? id := by
  unfold NodeAllocation.gpuPosition NodeAllocation.gpuIds List.idxOf?
  rw [List.findIdx?_map]
  rfl

theorem setGpu_eq_mark (s : NodeAllocation) (bit : Bool) : s.setGpu bit = Bitmap.mark s.gpuIds bit := by
  funext bits id
  unfold NodeAllocation.setGpu Bitmap.mark
  cases found : s.gpuIds.idxOf? id <;> rw [gpuPosition_eq,found]

theorem gpuIsAllocated_eq_marked (s : NodeAllocation) (id : Nat) :
    s.gpuIsAllocated id = Bitmap.marked s.gpuIds s.gpuAllocated id := by
  unfold NodeAllocation.gpuIsAllocated Bitmap.marked
  rw [gpuPosition_eq]

end

section

open NodeAllocation

variable {s : NodeAllocation}

theorem releaseJob_owners (s : NodeAllocation) (jobId : JobId) : (s.releaseJob jobId).1.owners = s.owners.erase jobId := by
  unfold NodeAllocation.releaseJob
  dsimp only
  split
  next absent =>
    refine Table.ext fun other => ?_
    rw [find_erase]
    split
    next same => rw [← same]; exact absent
    next => rfl
  next => rfl

theorem releaseJob_devices {s : NodeAllocation} {jobId : JobId} :
    (s.releaseJob jobId).1.cpuIds = s.cpuIds ∧ (s.releaseJob jobId).1.gpus = s.gpus ∧
      (s.releaseJob jobId).1.fenced = s.fenced := by
  unfold NodeAllocation.releaseJob
  dsimp only
  split <;> exact ⟨rfl,rfl,rfl⟩

theorem releaseJob_sound (sound : Sound s) (jobId : JobId) : Sound (s.releaseJob jobId).1 := by
  have launching (other : JobId) (marked : (s.launching.erase jobId)[other]?.isSome = true) :
      other ≠ jobId ∧ s.owners[other]?.isSome = true := by
    rw [find_erase] at marked
    split at marked
    · cases marked
    next different => exact ⟨Ne.symm different,sound.launching other marked⟩
  unfold NodeAllocation.releaseJob
  dsimp only
  split
  · exact ⟨sound.indexed,sound.cpus,sound.gpus,fun other marked => (launching other marked).2⟩
  rename_i owned found
  have cpus := sound.cpus.erase found
  have gpus := sound.gpus.erase found
  rw [← setCpu_eq_mark sound.indexed sound.cpus.distinct] at cpus
  rw [← setGpu_eq_mark,filter_eq_self.mpr (fun _ _ => by simp)] at gpus
  refine ⟨sound.indexed,cpus,gpus,fun other marked => ?_⟩
  obtain ⟨different,owns⟩ := launching other marked
  change (s.owners.erase jobId)[other]?.isSome = true
  rw [find_erase,if_neg (Ne.symm different)]
  exact owns

theorem releaseJob_weighed (weighed : Weighed s) (jobId : JobId) : Weighed (s.releaseJob jobId).1 := by
  have moved : Table.total (fun _ => Owned.memory) _ + Table.share _ s.owners jobId =
      Table.total _ _ + Table.share _ _ jobId :=
    total_update jobId fun other different => by
      unfold Table.share
      rw [find_erase,if_neg (Ne.symm different)]
  rw [@Table.share_of_absent _ _ _ _ _ (s.owners.erase jobId) jobId (by rw [find_erase,if_pos rfl])] at moved
  unfold Weighed
  rw [releaseJob_owners]
  unfold NodeAllocation.releaseJob
  dsimp only
  split
  next absent =>
    rw [share_of_absent absent] at moved
    exact weighed.trans moved.symm
  next owned found =>
    rw [share_of_find found] at moved
    change s.allocatedMemoryMb - owned.memory = _
    rw [weighed]
    omega

theorem claimGpus_ok {barred : Nat → Nat → Bool} {ids acc indices : List Nat}
    (claimed : s.claimGpus barred ids acc = .ok indices) :
    ∃ positions, indices = acc ++ positions ∧
      List.Forall₂ (fun id idx => s.gpuPosition id = some idx ∧ barred idx id = false) ids positions := by
  induction ids generalizing acc with
  | nil =>
    cases claimed
    exact ⟨[],(append_nil _).symm,.nil⟩
  | cons id ids ih =>
    unfold claimGpus at claimed
    split at claimed
    · cases claimed
    rename_i idx found
    split at claimed
    · cases claimed
    rename_i allowed
    obtain ⟨positions,rfl,each⟩ := ih claimed
    refine ⟨idx :: positions,by rw [append_assoc]; rfl,.cons ⟨found,?_⟩ each⟩
    simp only [Bool.or_eq_true,not_or,Bool.not_eq_true] at allowed
    exact allowed.1

theorem set_positions {ids positions : List Nat}
    (each : List.Forall₂ (fun id idx => s.gpuPosition id = some idx ∧ p id idx) ids positions) (bits : List Bool) :
    positions.foldl (fun bits idx => bits.set idx true) bits = ids.foldl (Bitmap.mark s.gpuIds true) bits := by
  induction each generalizing bits with
  | nil => rfl
  | cons found _ ih =>
    rw [foldl_cons,foldl_cons,ih]
    unfold Bitmap.mark
    rw [← gpuPosition_eq,found.1]

theorem claimed_each {ids positions : List Nat}
    (each : List.Forall₂ (fun id idx => s.gpuPosition id = some idx ∧ p id idx) ids positions) {id : Nat}
    (inside : id ∈ ids) : ∃ idx, s.gpuPosition id = some idx ∧ p id idx := by
  induction each with
  | nil => cases inside
  | cons found _ ih =>
    rcases mem_cons.mp inside with rfl | later
    · exact ⟨_,found⟩
    · exact ih later

theorem gpu_known {id idx : Nat} (found : s.gpuPosition id = some idx) : id ∈ s.gpuIds := by
  rw [gpuPosition_eq] at found
  by_contra absent
  rw [List.idxOf?_eq_none_iff.mpr absent] at found
  cases found

theorem gpu_marked {id idx : Nat} (found : s.gpuPosition id = some idx) :
    Bitmap.marked s.gpuIds s.gpuAllocated id = s.gpuAllocated.getD idx false := by
  unfold Bitmap.marked
  rw [← gpuPosition_eq,found]
  rfl

theorem Booked.take {keys : List Nat} {bits : List Bool} {excluded : Finset Nat} {keysOf : Owned → List Nat}
    {owners : Table JobId Owned} (booked : Booked keys bits excluded keysOf owners) {jobId : JobId} {owned : Owned}
    (absent : owners[jobId]? = none) (fresh : ∀ k ∈ keysOf owned, k ∈ keys ∧ ¬Held keysOf owners k) :
    Booked keys ((keysOf owned).foldl (Bitmap.mark keys true) bits) excluded keysOf (owners.insert jobId owned) := by
  refine booked.insert absent (fun k inside => (fresh k inside).2) ((Bitmap.length_foldl_mark ..).trans booked.aligned)
    fun k => ?_
  rw [Bitmap.marked_set booked.aligned]
  exact or_congr_right ⟨And.left,fun inside => ⟨inside,(fresh k inside).1⟩⟩

theorem allocateForJob_sound (sound : Sound s) (now : Time) (jobId : JobId) (runAttempt cpus memoryMb : Nat)
    (gpuDeviceIds : List Nat) : Sound (s.allocateForJob now jobId runAttempt cpus memoryMb gpuDeviceIds).1 := by
  unfold allocateForJob
  split
  · exact sound
  split
  · exact sound
  · dsimp only
    have released := releaseJob_sound sound jobId
    have absent : (s.releaseJob jobId).1.owners[jobId]? = none := by
      rw [releaseJob_owners,find_erase,if_pos rfl]
    generalize (s.releaseJob jobId).1 = s at released absent
    split
    · exact released
    rename_i indices claimed
    obtain ⟨positions,rfl,each⟩ := claimGpus_ok claimed
    obtain ⟨free,marks⟩ := Bitmap.takeFree_spec released.cpus.aligned released.cpus.distinct
    refine ⟨released.indexed,?_,?_,fun other marked => ?_⟩
    · refine released.cpus.insert absent (fun k inside held => ?_) ?_ fun k => ?_
      · have unmarked := (free k inside).2
        rw [(released.cpus.marks k).mpr (.inl held)] at unmarked
        cases unmarked
      · exact Bitmap.length_takeFree.trans released.cpus.aligned
      · change Bitmap.marked _ (Bitmap.takeFree _ _ cpus).2 k = true ↔ _
        rw [marks,Bool.or_eq_true,decide_eq_true_eq]
        rfl
    · have gpus := @Booked.take _ _ _ _ _ released.gpus jobId
        ⟨runAttempt,(Bitmap.takeFree s.cpuIds s.allocatedCpus cpus).1,gpuDeviceIds,memoryMb⟩ absent (by
          intro id inside
          obtain ⟨idx,found,open_⟩ := claimed_each each inside
          refine ⟨gpu_known found,fun held => ?_⟩
          have marked := (released.gpus.marks id).mpr (.inl held)
          rw [gpu_marked found] at marked
          rw [Bool.or_eq_false_iff,marked] at open_
          cases open_.1)
      change Booked _ (indices.foldl _ _) ∅ _ _
      rw [set_positions each]
      exact gpus
    · change (s.owners.insert jobId _)[other]?.isSome = true
      rw [find_insert] at marked ⊢
      split
      · rfl
      next different =>
        rw [if_neg different] at marked
        exact released.launching other marked

theorem cpu_claimable (sound : Sound s) {held : List Nat} (claimable : s.cpuIsClaimable held cpu = true) :
    cpu ∈ s.cpuIds ∧ (Held Owned.cpus s.owners cpu → cpu ∈ held) := by
  unfold cpuIsClaimable at claimable
  rw [sound.indexed,find_indexCpuIds sound.cpus.distinct,Option.any_eq_true] at claimable
  obtain ⟨taken,read,allowed⟩ := claimable
  obtain ⟨pos,found,bit⟩ := bind_eq_some_iff.mp read
  constructor
  · by_contra absent
    rw [List.idxOf?_eq_none_iff.mpr absent] at found
    cases found
  · intro holds
    have marked := (sound.cpus.marks cpu).mpr (.inl holds)
    unfold Bitmap.marked at marked
    rw [found,any_some,getD_eq_getElem?_getD,bit] at marked
    cases marked
    simpa using allowed

theorem restoreForJob_sound (sound : Sound s) (jobId : JobId) (runAttempt : Nat) (cpuIds : List Nat) (memoryMb : Nat)
    (gpuDeviceIds : List Nat) : Sound (s.restoreForJob jobId runAttempt cpuIds memoryMb gpuDeviceIds).1 := by
  unfold restoreForJob
  split
  · exact sound
  dsimp only
  split
  · exact sound
  rename_i claimable
  split
  · exact sound
  rename_i indices claimed
  obtain ⟨positions,rfl,each⟩ := claimGpus_ok claimed
  have released := releaseJob_sound sound jobId
  have absent : (s.releaseJob jobId).1.owners[jobId]? = none := by
    rw [releaseJob_owners,find_erase,if_pos rfl]
  -- What the outgoing owner held is free once it has been released.
  have free {keysOf : Owned → List Nat} {k : Nat} (apart : Apart keysOf s.owners)
      (own : Held keysOf s.owners k → k ∈ ((s.owners[jobId]?).map keysOf).getD []) :
      ¬Held keysOf (s.releaseJob jobId).1.owners k := by
    rw [releaseJob_owners,held_erase]
    rintro ⟨other,owned,different,found,inside⟩
    have holds := own ⟨other,owned,found,inside⟩
    cases mine : s.owners[jobId]? with
    | none =>
      rw [mine] at holds
      cases holds
    | some before =>
      rw [mine] at holds
      exact different (apart.same_owner found mine inside holds)
  obtain ⟨cpusKept,gpusKept,_⟩ := releaseJob_devices
  have freshCpus : ∀ cpu ∈ cpuIds, cpu ∈ s.cpuIds ∧ ¬Held Owned.cpus (s.releaseJob jobId).1.owners cpu := by
    intro cpu inside
    have allowed := (List.any_eq_false.mp (Bool.not_eq_true _ ▸ claimable)) cpu inside
    obtain ⟨known,own⟩ := cpu_claimable sound (by simpa using allowed)
    exact ⟨known,free sound.cpus.apart own⟩
  have freshGpus : ∀ id ∈ gpuDeviceIds, id ∈ s.gpuIds ∧ ¬Held Owned.gpus (s.releaseJob jobId).1.owners id := by
    intro id inside
    obtain ⟨idx,found,open_⟩ := claimed_each each inside
    refine ⟨gpu_known found,free sound.gpus.apart fun held => ?_⟩
    have marked := (sound.gpus.marks id).mpr (.inl held)
    rw [gpu_marked found] at marked
    rw [marked,Bool.true_and,Bool.not_eq_false',contains_iff_mem] at open_
    exact open_
  have marked (bits : List Bool) : indices.foldl (fun bits idx => bits.set idx true) bits =
      gpuDeviceIds.foldl (Bitmap.mark (s.releaseJob jobId).1.gpuIds true) bits := by
    rw [set_positions each]
    unfold gpuIds
    rw [gpusKept]
  have setCpus := setCpu_eq_mark released.indexed released.cpus.distinct true
  generalize (s.releaseJob jobId).1 = t at *
  rw [← cpusKept] at freshCpus
  have gpuIdsKept : s.gpuIds = t.gpuIds := by
    unfold gpuIds
    rw [gpusKept]
  rw [gpuIdsKept] at freshGpus
  refine ⟨released.indexed,?_,?_,fun other launching => ?_⟩
  · have cpus := @Booked.take _ _ _ _ _ released.cpus jobId ⟨runAttempt,cpuIds,gpuDeviceIds,memoryMb⟩ absent freshCpus
    rw [setCpus]
    exact cpus
  · have gpus := @Booked.take _ _ _ _ _ released.gpus jobId ⟨runAttempt,cpuIds,gpuDeviceIds,memoryMb⟩ absent freshGpus
    change Booked _ (indices.foldl _ _) ∅ _ _
    rw [marked]
    exact gpus
  · have owns := released.launching other launching
    change (t.owners.insert jobId _)[other]?.isSome = true
    rw [find_insert]
    split
    · rfl
    · exact owns

theorem commitJob_sound (sound : Sound s) (jobId : JobId) (runAttempt : Nat) : Sound (s.commitJob jobId runAttempt).1 := by
  unfold commitJob
  split
  · refine ⟨sound.indexed,sound.cpus,sound.gpus,fun other marked => sound.launching other ?_⟩
    rw [find_erase] at marked
    split at marked
    · cases marked
    · exact marked
  · exact sound

theorem releaseJobIf_sound (sound : Sound s) (jobId : JobId) (runAttempt : Nat) :
    Sound (s.releaseJobIf jobId runAttempt).1 := by
  unfold releaseJobIf
  split
  · exact releaseJob_sound sound jobId
  · exact sound

theorem releaseJobs_sound (sound : Sound s) {jobIds : List JobId} :
    Sound (jobIds.foldl (fun s jobId => (s.releaseJob jobId).1) s) := by
  induction jobIds generalizing s with
  | nil => exact sound
  | cons jobId jobIds ih => exact ih (releaseJob_sound sound jobId)

theorem markCpusUnavailable_sound (sound : Sound s) {cpus : List Nat} : Sound (s.markCpusUnavailable cpus) := by
  unfold markCpusUnavailable
  induction cpus generalizing s with
  | nil => exact sound
  | cons cpu cpus ih =>
    rw [foldl_cons]
    apply ih
    split
    next pos found =>
      rw [sound.indexed,find_indexCpuIds sound.cpus.distinct] at found
      have listed : cpu ∈ s.cpuIds := by
        by_contra absent
        rw [List.idxOf?_eq_none_iff.mpr absent] at found
        cases found
      have cpus := sound.cpus.exclude listed
      unfold Bitmap.mark at cpus
      rw [found] at cpus
      exact ⟨sound.indexed,cpus,sound.gpus,sound.launching⟩
    next => exact sound

theorem mem_heldCpus : cpu ∈ s.heldCpus ↔ Held Owned.cpus s.owners cpu := by
  unfold heldCpus
  rw [mem_flatMap]
  constructor
  · rintro ⟨⟨jobId,owned⟩,member,inside⟩
    exact ⟨jobId,owned,Std.ExtTreeMap.mem_toList_iff_getElem?_eq_some.mp member,inside⟩
  · rintro ⟨jobId,owned,found,inside⟩
    exact ⟨(jobId,owned),Std.ExtTreeMap.mem_toList_iff_getElem?_eq_some.mpr found,inside⟩

theorem setSpecExclusions_sound (sound : Sound s) {specCpus : List Nat} : Sound (s.setSpecExclusions specCpus) := by
  apply markCpusUnavailable_sound
  rw [setCpu_eq_mark sound.indexed sound.cpus.distinct]
  refine ⟨sound.indexed,sound.cpus.readmit fun cpu => ?_,sound.gpus,sound.launching⟩
  simp [mem_heldCpus]

theorem kept_of_lost_empty (distinct : (onlineCpuIds fresh).Nodup) (kept : s.lostDevices fresh = []) :
    (∀ cpu, Held Owned.cpus s.owners cpu → cpu ∈ onlineCpuIds fresh) ∧
      ∀ id, Held Owned.gpus s.owners id → id ∈ fresh.gpus.map GpuResource.stableId := by
  unfold lostDevices at kept
  have sorted := mergeSort_perm (List.filterMap (fun x : JobId × Owned =>
      if (x.2.result.gpuIds.filter fun id => !(fresh.gpus.map GpuResource.stableId).contains id).isEmpty then none
      else some (x.1,x.2.result.gpuIds.filter fun id => !(fresh.gpus.map GpuResource.stableId).contains id)) s.owners.toList ++
    List.filterMap (fun x : JobId × Owned =>
      if x.2.result.cpuIds.any fun cpu => !(indexCpuIds (onlineCpuIds fresh)).contains cpu then some (x.1,[]) else none)
      s.owners.toList) fun a b => a.1 ≤ b.1
  rw [kept] at sorted
  obtain ⟨noGpus,noCpus⟩ := append_eq_nil_iff.mp sorted.nil_eq.symm
  rw [filterMap_eq_nil_iff] at noGpus noCpus
  constructor
  · rintro cpu ⟨jobId,owned,found,inside⟩
    have none := noCpus _ (Std.ExtTreeMap.mem_toList_iff_getElem?_eq_some.mpr found)
    split at none
    · cases none
    rename_i present
    have here := List.any_eq_false.mp (Bool.not_eq_true _ ▸ present) cpu inside
    rw [Bool.not_eq_true,Std.ExtTreeMap.contains_eq_isSome_getElem?,find_indexCpuIds distinct] at here
    by_contra absent
    rw [List.idxOf?_eq_none_iff.mpr absent] at here
    cases here
  · rintro id ⟨jobId,owned,found,inside⟩
    have none := noGpus _ (Std.ExtTreeMap.mem_toList_iff_getElem?_eq_some.mpr found)
    split at none
    next empty =>
      rw [List.isEmpty_iff,filter_eq_nil_iff] at empty
      simpa using empty id inside
    · cases none

theorem updateCapacity_sound (sound : Sound s) (cpus : (onlineCpuIds fresh).Nodup)
    (gpus : (fresh.gpus.map GpuResource.stableId).Nodup) : Sound (s.updateCapacity fresh).1 := by
  unfold updateCapacity
  dsimp only
  split
  · exact sound
  rename_i nothing
  obtain ⟨cpusKept,gpusKept⟩ := kept_of_lost_empty cpus (not_not.mp nothing)
  have bookedCpus := Booked.rebuild sound.cpus.apart cpus cpusKept
  have bookedGpus := Booked.rebuild sound.gpus.apart gpus gpusKept
  rw [length_map] at bookedGpus
  refine ⟨rfl,?_,?_,sound.launching⟩
  · rw [setCpu_eq_mark rfl cpus]
    exact bookedCpus
  · rw [setGpu_eq_mark]
    exact bookedGpus

def Owned.rename (renamed : Table Nat Nat) (owned : Owned) : Owned :=
  { owned with result := { owned.result with gpuIds := owned.result.gpuIds.map (renamedId renamed) } }

theorem renameGpus_sound (sound : Sound s) {renamed : Table Nat Nat}
    (injective : Set.InjOn (renamedId renamed) {id | id ∈ s.gpuIds}) : Sound (s.renameGpus renamed) := by
  have ids : (s.renameGpus renamed).gpuIds = s.gpuIds.map (renamedId renamed) := by
    unfold gpuIds renameGpus
    rw [List.map_map,List.map_map]
    rfl
  have gpus : Booked _ _ ∅ _ (s.owners.map fun _ => Owned.rename renamed) := sound.gpus.map (fun _ => rfl) injective
  rw [← ids] at gpus
  have owners : (s.renameGpus renamed).owners = s.owners.map fun _ => Owned.rename renamed := rfl
  refine ⟨sound.indexed,⟨sound.cpus.distinct,sound.cpus.aligned,?_,fun cpu => ?_⟩,gpus,fun jobId marked => ?_⟩
  · exact sound.cpus.apart.map (fun _ => (List.map_id _).symm) fun _ _ _ _ same => same
  · rw [owners,held_map (fun _ => (List.map_id _).symm)]
    exact (sound.cpus.marks cpu).trans (or_congr_left ⟨fun held => ⟨cpu,held,rfl⟩,fun ⟨_,held,same⟩ => same ▸ held⟩)
  · rw [owners,find_map,isSome_map]
    exact sound.launching jobId marked

theorem weighed_of_same {t : NodeAllocation} (weighed : Weighed s) (memory : t.allocatedMemoryMb = s.allocatedMemoryMb)
    (owners : t.owners = s.owners) : Weighed t := by
  unfold Weighed
  rw [memory,owners]
  exact weighed

theorem record_weighed (weighed : Weighed s) {jobId : JobId} {result : AllocationResult}
    (absent : s.owners[jobId]? = none) (fits : s.allocatedMemoryMb + result.memoryMb < 2 ^ 64) (indices : List Nat) :
    Weighed (s.record jobId runAttempt result indices) := by
  have moved := total_insert (f := fun _ => Owned.memory) s.owners jobId ⟨runAttempt,result⟩
  rw [share_of_absent absent] at moved
  change (s.allocatedMemoryMb + result.memoryMb) % 2 ^ 64 = _
  rw [Nat.mod_eq_of_lt fits,weighed]
  exact moved.symm

theorem releaseJob_absent (s : NodeAllocation) (jobId : JobId) : (s.releaseJob jobId).1.owners[jobId]? = none := by
  rw [releaseJob_owners,find_erase,if_pos rfl]

theorem allocateForJob_weighed (weighed : Weighed s) {now : Time} {jobId : JobId} {cpus memoryMb : Nat} (fits : (s.releaseJob jobId).1.allocatedMemoryMb + memoryMb < 2 ^ 64) :
    Weighed (s.allocateForJob now jobId runAttempt cpus memoryMb gpuDeviceIds).1 := by
  have released := releaseJob_weighed weighed jobId
  unfold allocateForJob
  split
  · exact weighed
  split
  · exact weighed
  · dsimp only
    split
    · exact released
    next indices _ => exact record_weighed (weighed_of_same released rfl rfl) (releaseJob_absent s jobId) fits indices

theorem restoreForJob_weighed (weighed : Weighed s) {jobId : JobId} {cpuIds : List Nat} {memoryMb : Nat} (fits : (s.releaseJob jobId).1.allocatedMemoryMb + memoryMb < 2 ^ 64) :
    Weighed (s.restoreForJob jobId runAttempt cpuIds memoryMb gpuDeviceIds).1 := by
  have released := releaseJob_weighed weighed jobId
  unfold restoreForJob
  split
  · exact weighed
  dsimp only
  split
  · exact weighed
  · split
    · exact weighed
    next indices _ => exact record_weighed (weighed_of_same released rfl rfl) (releaseJob_absent s jobId) fits indices

theorem markCpusUnavailable_owners {cpus : List Nat} (s : NodeAllocation) :
    (s.markCpusUnavailable cpus).owners = s.owners ∧
      (s.markCpusUnavailable cpus).allocatedMemoryMb = s.allocatedMemoryMb := by
  unfold markCpusUnavailable
  induction cpus generalizing s with
  | nil => exact ⟨rfl,rfl⟩
  | cons cpu cpus ih =>
    rw [foldl_cons]
    refine ⟨(ih _).1.trans ?_,(ih _).2.trans ?_⟩
    · split <;> rfl
    · split <;> rfl

end

section

open NodeAllocation

/-- The inventories a call brings name each device once, and a rename keeps the ids apart. -/
def WellFormed (s : NodeAllocation) : LedgerCall → Prop
  | .updateCapacity fresh => (onlineCpuIds fresh).Nodup ∧ (fresh.gpus.map GpuResource.stableId).Nodup
  | .renameGpus renamed => Set.InjOn (renamedId renamed) {id | id ∈ s.gpuIds}
  | _ => True

def Fits (s : NodeAllocation) : LedgerCall → Prop
  | .allocateForJob jobId _ _ memoryMb _ => (s.releaseJob jobId).1.allocatedMemoryMb + memoryMb < 2 ^ 64
  | .restoreForJob jobId _ _ memoryMb _ => (s.releaseJob jobId).1.allocatedMemoryMb + memoryMb < 2 ^ 64
  | _ => True

theorem step_sound (s : NodeAllocation) (entry : Env × LedgerCall) (sound : Sound s) (wellFormed : WellFormed s entry.2) :
    Sound (s.step entry) := by
  obtain ⟨env,call⟩ := entry
  cases call with
  | allocateForJob => exact allocateForJob_sound sound ..
  | restoreForJob => exact restoreForJob_sound sound ..
  | commitJob => exact commitJob_sound sound ..
  | releaseJob jobId => exact releaseJob_sound sound jobId
  | releaseJobIf => exact releaseJobIf_sound sound ..
  | reconcile live launchingTtl => exact releaseJobs_sound sound
  | updateCapacity fresh => exact updateCapacity_sound sound wellFormed.1 wellFormed.2
  | renameGpus renamed => exact renameGpus_sound sound wellFormed
  | markCpusUnavailable cpus => exact markCpusUnavailable_sound sound
  | setSpecExclusions specCpus => exact setSpecExclusions_sound sound
  | setFenced => exact ⟨sound.indexed,sound.cpus,sound.gpus,sound.launching⟩

theorem step_weighed (s : NodeAllocation) {entry : Env × LedgerCall} (weighed : Weighed s) (fits : Fits s entry.2) :
    Weighed (s.step entry) := by
  obtain ⟨env,call⟩ := entry
  cases call with
  | allocateForJob => exact allocateForJob_weighed weighed fits
  | restoreForJob => exact restoreForJob_weighed weighed fits
  | commitJob jobId runAttempt =>
    change Weighed (s.commitJob jobId runAttempt).1
    unfold commitJob
    split <;> exact weighed_of_same weighed rfl rfl
  | releaseJob jobId => exact releaseJob_weighed weighed jobId
  | releaseJobIf jobId runAttempt =>
    change Weighed (s.releaseJobIf jobId runAttempt).1
    unfold releaseJobIf
    split
    · exact releaseJob_weighed weighed jobId
    · exact weighed
  | reconcile live launchingTtl =>
    change Weighed ((s.orphaned env live _).foldl _ s)
    generalize s.orphaned env live _ = jobIds
    induction jobIds generalizing s with
    | nil => exact weighed
    | cons jobId jobIds ih => exact ih _ (releaseJob_weighed weighed jobId) trivial
  | updateCapacity fresh =>
    change Weighed (s.updateCapacity fresh).1
    unfold updateCapacity
    dsimp only
    split <;> exact weighed_of_same weighed rfl rfl
  | renameGpus renamed =>
    change s.allocatedMemoryMb = Table.total _ (s.owners.map fun _ => Owned.rename renamed)
    rw [total_map]
    exact weighed
  | markCpusUnavailable cpus =>
    obtain ⟨owners,memory⟩ := markCpusUnavailable_owners s
    exact weighed_of_same weighed memory owners
  | setSpecExclusions specCpus =>
    obtain ⟨owners,memory⟩ := markCpusUnavailable_owners _
    exact weighed_of_same weighed memory owners
  | setFenced => exact weighed_of_same weighed rfl rfl

theorem new_sound {resources : ResourceSet} (cpus : (onlineCpuIds resources).Nodup)
    (gpus : (resources.gpus.map GpuResource.stableId).Nodup) : Sound (.new resources) := by
  refine ⟨rfl,.empty cpus,?_,fun _ marked => by cases marked⟩
  have booked : Booked _ _ _ Owned.gpus (∅ : Table JobId Owned) := .empty gpus
  rw [length_map] at booked
  exact booked

structure Integrity (s : NodeAllocation) : Prop where
  cpusDisjoint : ∀ (a b : JobId) (left right : Owned), s.owners[a]? = some left → s.owners[b]? = some right → a ≠ b →
    left.result.cpuIds.Disjoint right.result.cpuIds
  cpusMarked : ∀ cpu, s.isAllocated cpu = true ↔
    (∃ (jobId : JobId) (owned : Owned), s.owners[jobId]? = some owned ∧ cpu ∈ owned.result.cpuIds) ∨ cpu ∈ s.unavailable
  gpusDisjoint : ∀ (a b : JobId) (left right : Owned), s.owners[a]? = some left → s.owners[b]? = some right → a ≠ b →
    left.result.gpuIds.Disjoint right.result.gpuIds
  gpusMarked : ∀ id, s.gpuIsAllocated id = true ↔
    ∃ (jobId : JobId) (owned : Owned), s.owners[jobId]? = some owned ∧ id ∈ owned.result.gpuIds
  memory : s.allocatedMemoryMb = Table.total (fun _ owned => owned.result.memoryMb) s.owners
  launching : ∀ jobId : JobId, jobId ∈ s.launching → jobId ∈ s.owners

theorem integrity_of_sound {s : NodeAllocation} (sound : Sound s) (weighed : Weighed s) : Integrity s := by
  refine ⟨sound.cpus.apart,fun cpu => ?_,sound.gpus.apart,fun id => ?_,weighed,fun jobId marked => ?_⟩
  · rw [isAllocated_eq_marked sound.indexed sound.cpus.distinct]
    exact sound.cpus.marks cpu
  · rw [gpuIsAllocated_eq_marked,sound.gpus.marks]
    exact or_iff_left (Finset.notMem_empty id)
  · rw [Std.ExtTreeMap.mem_iff_isSome_getElem?] at marked ⊢
    exact sound.launching jobId marked

theorem ledger_integrity (resources : ResourceSet) (cpus : (onlineCpuIds resources).Nodup)
    (gpus : (resources.gpus.map GpuResource.stableId).Nodup) (calls : List (Env × LedgerCall))
    (meets : Along step (fun s entry => WellFormed s entry.2 ∧ Fits s entry.2) (.new resources) calls) :
    Integrity (calls.foldl step (.new resources)) := by
  have start : Sound _ ∧ Weighed (.new resources) :=
    ⟨new_sound cpus gpus,(total_eq_zero fun _ _ found => by cases found).symm⟩
  obtain ⟨sound,weighed⟩ := @invariant_run _ _ step _ (fun s => Sound s ∧ Weighed s)
    (fun s entry kept met => ⟨step_sound s entry kept.1 met.1,step_weighed s kept.2 met.2⟩) _ _ start meets
  exact integrity_of_sound sound weighed

def ledgerGpu (stableId : Nat) : GpuResource :=
  { deviceId := stableId, gpuType := "mi300x", memoryMb := 65536, peerGpus := [], linkType := .pcie, stableId, topology := none }

def ledgerInventory : ResourceSet := { cpus := 4, memoryMb := 8192, gpus := [ledgerGpu 256,ledgerGpu 512] }

def ledgerCalls : List (Env × LedgerCall) :=
  [(.ordered 0,.allocateForJob 1 1 2 4096 [256]),
    (.ordered 1,.renameGpus ((∅ : Table Nat Nat).insert 256 257)),
    (.ordered 2,.commitJob 1 1),
    (.ordered 3,.setSpecExclusions [0]),
    (.ordered 4,.releaseJobIf 1 1)]

theorem ledger_integrity_released : Integrity (ledgerCalls.foldl step (.new ledgerInventory)) := by
  refine ledger_integrity _ (by decide +kernel) (by decide +kernel) _ ?_
  refine ⟨⟨trivial,?_⟩,⟨?_,trivial⟩,⟨trivial,trivial⟩,⟨trivial,trivial⟩,⟨trivial,trivial⟩,trivial⟩
  · change _ < _
    decide +kernel
  · have distinct : ((NodeAllocation.step (.new ledgerInventory) (.ordered 0,.allocateForJob 1 1 2 4096 [256])).gpuIds.map
        (renamedId ((∅ : Table Nat Nat).insert 256 257))).Nodup := by decide +kernel
    exact fun _ one _ two same => inj_on_of_nodup_map distinct one two same

end

end Spur.Ledger
