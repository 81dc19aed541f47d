import Spur.Ledger.Integrity

/-! A granted reservation is exclusive until its own end, whatever calls others make in between. -/
namespace Spur.Ledger
open Spur Spur.Library Spur.Library.Holdings Spur.Library.Run Spur.Cluster NodeAllocation List Table

def grantedTo (s : NodeAllocation) (entry : Env × LedgerCall) : Option (JobId × AllocationResult) :=
  match entry.2,(s.perform entry).2 with
  | .allocateForJob jobId _ _ _ _,.granted (.ok result) => some (jobId,result)
  | .restoreForJob jobId _ _ _ _,.granted (.ok result) => some (jobId,result)
  | _,_ => none

def Ends (jobId : JobId) (runAttempt : Nat) (s : NodeAllocation) (entry : Env × LedgerCall) : Prop :=
  match entry.2 with
  | .releaseJob owner => owner = jobId
  | .releaseJobIf owner attempt => owner = jobId ∧ attempt = runAttempt
  | .allocateForJob owner attempt _ _ _ => owner = jobId ∧ runAttempt ≤ attempt ∧ (grantedTo s entry).isSome = true
  | .restoreForJob owner attempt _ _ _ => owner = jobId ∧ runAttempt ≤ attempt ∧ (grantedTo s entry).isSome = true
  | .reconcile live launchingTtl => jobId ∈ (s.reconcile entry.1 live launchingTtl).2
  | _ => False

def Older (jobId : JobId) (runAttempt : Nat) : LedgerCall → Prop
  | .allocateForJob owner attempt _ _ _ => owner = jobId ∧ attempt < runAttempt
  | .restoreForJob owner attempt _ _ _ => owner = jobId ∧ attempt < runAttempt
  | .commitJob owner attempt => owner = jobId ∧ attempt < runAttempt
  | .releaseJobIf owner attempt => owner = jobId ∧ attempt < runAttempt
  | _ => False

def followed (result : AllocationResult) (calls : List (Env × LedgerCall)) : AllocationResult :=
  calls.foldl (fun result entry => match entry.2 with
    | .renameGpus renamed => { result with gpuIds := result.gpuIds.map (renamedId renamed) }
    | _ => result) result

/-- Known GPUs, each named once, that no other job holds and no fence keeps from this one. -/
def Grantable (s : NodeAllocation) (jobId : JobId) (gpuDeviceIds : List Nat) : Prop :=
  gpuDeviceIds.Nodup ∧ ∀ id ∈ gpuDeviceIds, id ∈ s.gpuIds ∧
    (∀ (other : JobId) (owned : Owned), s.owners[other]? = some owned → id ∈ owned.result.gpuIds → other = jobId) ∧
    (id ∈ s.fenced → id ∈ s.ownerGpuIdsAny jobId)

def Feasible (jobId : JobId) (runAttempt : Nat) (s : NodeAllocation) : LedgerCall → Prop
  | .allocateForJob owner attempt _ _ gpuDeviceIds =>
    owner = jobId → runAttempt ≤ attempt → jobId ∉ s.launching → Grantable s jobId gpuDeviceIds
  | _ => True

variable {cpuIds gpuDeviceIds : List Nat}

variable {entry : Env × LedgerCall} {attempt memoryMb : Nat} {result : AllocationResult}

section

variable {s : NodeAllocation} {jobId other : JobId}

theorem releaseJob_other (different : jobId ≠ other) : (s.releaseJob jobId).1.owners[other]? = s.owners[other]? := by
  rw [releaseJob_owners,find_erase,if_neg different]

theorem releaseJobs_other {jobIds : List JobId} (absent : other ∉ jobIds) :
    (jobIds.foldl (fun s jobId => (s.releaseJob jobId).1) s).owners[other]? = s.owners[other]? := by
  induction jobIds generalizing s with
  | nil => rfl
  | cons jobId jobIds ih =>
    rw [mem_cons,not_or] at absent
    rw [foldl_cons,ih absent.2,releaseJob_other (Ne.symm absent.1)]

/-- A refused launch stopped at the gate, or it has dropped the owner it was to replace. -/
theorem allocateForJob_cases {s : NodeAllocation} {now : Time} {jobId : JobId} {runAttempt cpus : Nat}
    {gpuDeviceIds : List Nat} :
    let out := s.allocateForJob now jobId runAttempt cpus memoryMb gpuDeviceIds
    (∃ error, out.2 = .error error ∧ out.1 =
      if s.launching.contains jobId || (s.owners[jobId]?).any fun existing => existing.runAttempt > runAttempt then s
      else (s.releaseJob jobId).1) ∨
    ∃ result, out.2 = .ok result ∧ out.1.owners = (s.releaseJob jobId).1.owners.insert jobId ⟨runAttempt,result⟩ := by
  unfold allocateForJob
  split
  next launching =>
    rw [launching]
    exact .inl ⟨_,rfl,rfl⟩
  next idle =>
    rw [Bool.eq_false_iff.mpr idle]
    split
    next newer =>
      rw [newer]
      exact .inl ⟨_,rfl,rfl⟩
    next current =>
      rw [Bool.eq_false_iff.mpr current]
      dsimp only
      split
      · exact .inl ⟨_,rfl,rfl⟩
      · exact .inr ⟨_,rfl,rfl⟩

theorem restoreForJob_cases {s : NodeAllocation} {jobId : JobId} {runAttempt : Nat} {cpuIds : List Nat}
    {gpuDeviceIds : List Nat} :
    let out := s.restoreForJob jobId runAttempt cpuIds memoryMb gpuDeviceIds
    (∃ error, out.2 = .error error ∧ out.1 = s) ∨
    ∃ result, out.2 = .ok result ∧ out.1.owners = (s.releaseJob jobId).1.owners.insert jobId ⟨runAttempt,result⟩ := by
  unfold restoreForJob
  split
  · exact .inl ⟨_,rfl,rfl⟩
  dsimp only
  split
  · exact .inl ⟨_,rfl,rfl⟩
  split
  · exact .inl ⟨_,rfl,rfl⟩
  · exact .inr ⟨_,rfl,rfl⟩

/-- The job and the attempt that a call asks to reserve for. -/
def asks : LedgerCall → Option (JobId × Nat)
  | .allocateForJob jobId runAttempt _ _ _ => some (jobId,runAttempt)
  | .restoreForJob jobId runAttempt _ _ _ => some (jobId,runAttempt)
  | _ => none

theorem asked_cases {s : NodeAllocation} (asked : asks entry.2 = some (jobId,attempt)) :
    (grantedTo s entry = none ∧ (s.step entry = s ∨ s.step entry = (s.releaseJob jobId).1)) ∨
      ∃ result, grantedTo s entry = some (jobId,result) ∧
        (s.step entry).owners = (s.releaseJob jobId).1.owners.insert jobId ⟨attempt,result⟩ := by
  obtain ⟨env,call⟩ := entry
  unfold grantedTo
  cases call with
  | allocateForJob _ _ cpus memoryMb gpuDeviceIds =>
    cases asked
    dsimp only [perform,Prod.map]
    obtain ⟨error,answer,same⟩ | ⟨result,answer,owners⟩ :=
      allocateForJob_cases
    · rw [answer]
      split at same
      · exact .inl ⟨rfl,.inl same⟩
      · exact .inl ⟨rfl,.inr same⟩
    · rw [answer]
      exact .inr ⟨result,rfl,owners⟩
  | restoreForJob _ _ cpuIds memoryMb gpuDeviceIds =>
    cases asked
    dsimp only [perform,Prod.map]
    obtain ⟨error,answer,same⟩ | ⟨result,answer,owners⟩ :=
      restoreForJob_cases
    · rw [answer]
      exact .inl ⟨rfl,.inl same⟩
    · rw [answer]
      exact .inr ⟨result,rfl,owners⟩
  | commitJob | releaseJob | releaseJobIf | reconcile | updateCapacity | renameGpus | markCpusUnavailable
  | setSpecExclusions | setFenced => cases asked

theorem grantedTo_owners
    (granted : grantedTo s entry = some (jobId,result)) : ∃ attempt, asks entry.2 = some (jobId,attempt) ∧
      WellFormed s entry.2 ∧ (s.step entry).owners = (s.releaseJob jobId).1.owners.insert jobId ⟨attempt,result⟩ := by
  obtain ⟨attempt,asked,formed⟩ : ∃ attempt, asks entry.2 = some _ ∧ WellFormed s entry.2 := by
    unfold grantedTo at granted
    split at granted
    iterate 2
      rename_i same _
      cases granted
      rw [same]
      exact ⟨_,rfl,trivial⟩
    · cases granted
  obtain ⟨refused,-⟩ | ⟨given,same,owners⟩ := asked_cases asked
  · rw [refused] at granted
    cases granted
  · cases same.symm.trans granted
    exact ⟨attempt,asked,formed,owners⟩

theorem gpuPosition_injective {a b idx : Nat} (first : s.gpuPosition a = some idx) (second : s.gpuPosition b = some idx) :
    a = b := by
  obtain ⟨inside,here,_⟩ := List.findIdx?_eq_some_iff_getElem.mp first
  obtain ⟨_,there,_⟩ := List.findIdx?_eq_some_iff_getElem.mp second
  exact (beq_iff_eq.mp here).symm.trans (beq_iff_eq.mp there)

theorem claimGpus_succeeds {barred : Nat → Nat → Bool} {ids acc : List Nat} (distinct : ids.Nodup)
    (open_ : ∀ id ∈ ids, ∃ idx, s.gpuPosition id = some idx ∧ barred idx id = false ∧ idx ∉ acc) :
    ∃ indices, s.claimGpus barred ids acc = .ok indices := by
  induction ids generalizing acc with
  | nil => exact ⟨acc,rfl⟩
  | cons id ids ih =>
    obtain ⟨idx,found,allowed,fresh⟩ := open_ id mem_cons_self
    unfold claimGpus
    rw [found]
    dsimp only
    rw [allowed,if_neg (by simpa using fresh)]
    refine ih distinct.of_cons fun later inside => ?_
    obtain ⟨other,foundLater,allowedLater,freshLater⟩ := open_ later (mem_cons_of_mem id inside)
    refine ⟨other,foundLater,allowedLater,?_⟩
    rw [mem_append,mem_singleton,not_or]
    refine ⟨freshLater,?_⟩
    rintro rfl
    exact distinct.notMem (gpuPosition_injective found foundLater ▸ inside)

theorem allocateForJob_succeeds (sound : Sound s) {gpuDeviceIds : List Nat} (grantable : Grantable s jobId gpuDeviceIds)
    {runAttempt : Nat} (idle : s.launching.contains jobId = false)
    (current : ((s.owners[jobId]?).any fun existing => existing.runAttempt > runAttempt) = false) {now : Time}
    {cpus : Nat} :
    ∃ result, (s.allocateForJob now jobId runAttempt cpus memoryMb gpuDeviceIds).2 = .ok result := by
  have released := releaseJob_sound sound jobId
  obtain ⟨_,gpusKept,fencedKept⟩ := releaseJob_devices
  unfold allocateForJob
  rw [idle,current]
  dsimp only
  obtain ⟨indices,claimed⟩ := @claimGpus_succeeds _ (fun idx id =>
      (s.releaseJob jobId).1.gpuAllocated.getD idx false ||
        (decide (id ∈ (s.releaseJob jobId).1.fenced) && !(s.ownerGpuIdsAny jobId).contains id)) _ []
    grantable.1 (by
      intro id inside
      obtain ⟨known,alone,fence⟩ := grantable.2 id inside
      have listed : id ∈ (s.releaseJob jobId).1.gpuIds := by
        unfold gpuIds
        rw [gpusKept]
        exact known
      cases found : (s.releaseJob jobId).1.gpuPosition id with
      | none =>
        rw [gpuPosition_eq,List.idxOf?_eq_none_iff] at found
        exact absurd listed found
      | some idx =>
        refine ⟨idx,rfl,?_,not_mem_nil⟩
        have free : (s.releaseJob jobId).1.gpuAllocated.getD idx false = false := by
          rw [← gpu_marked found,← Bool.not_eq_true,released.gpus.marks,releaseJob_owners,held_erase]
          rintro (⟨other,owned,different,stored,holds⟩ | none)
          · exact different (alone other owned stored holds)
          · cases none
        rw [free,fencedKept]
        by_cases fenced : id ∈ s.fenced
        · simp [fence fenced]
        · simp [fenced])
  rw [claimed]
  exact ⟨_,rfl⟩

end

section

variable {s : NodeAllocation} {jobId : JobId}

def LedgerAnswer.refuses : LedgerAnswer → Bool
  | .granted (.error _) => true
  | .capacity (.allocatedDevicesLost _) => true
  | _ => false

/-- A launch under a job id that a committed attempt no newer still owns. -/
def Relaunches (s : NodeAllocation) : LedgerCall → Prop
  | .allocateForJob jobId runAttempt _ _ _ => jobId ∉ s.launching ∧ ∃ owned, s.owners[jobId]? = some owned ∧
    owned.runAttempt ≤ runAttempt
  | _ => False

theorem releaseJob_unknown (idle : jobId ∉ s.launching) (absent : s.owners[jobId]? = none) : (s.releaseJob jobId).1 = s := by
  have same : s.launching.erase jobId = s.launching := by
    refine Table.ext fun other => ?_
    rw [find_erase]
    split
    next equal => rw [← equal,Std.ExtTreeMap.getElem?_eq_none idle]
    · rfl
  unfold NodeAllocation.releaseJob
  dsimp only
  rw [same,absent]

theorem releaseJob_changes {owned : Owned} (owns : s.owners[jobId]? = some owned) : (s.releaseJob jobId).1 ≠ s := by
  intro same
  have gone := releaseJob_absent s jobId
  rw [same,owns] at gone
  cases gone

/-- A refused call leaves the ledger as it was, unless it was to replace an owner. -/
theorem refused_unchanged_iff (s : NodeAllocation) (entry : Env × LedgerCall)
    (refused : (s.perform entry).2.refuses) : s.step entry = s ↔ ¬Relaunches s entry.2 := by
  obtain ⟨env,call⟩ := entry
  cases call with
  | allocateForJob jobId runAttempt cpus memoryMb gpuDeviceIds =>
    dsimp only [perform,Prod.map] at refused
    obtain ⟨error,-,same⟩ | ⟨result,answer,-⟩ := allocateForJob_cases
    · change (s.allocateForJob _ jobId runAttempt cpus memoryMb _).1 = s ↔ ¬(_ ∧ _)
      rw [same]
      by_cases idle : jobId ∈ s.launching
      · simp [idle]
      cases owns : s.owners[jobId]? with
      | none => simp [releaseJob_unknown idle owns]
      | some owned =>
        by_cases newer : owned.runAttempt > runAttempt
        · simp [newer]
        · simp [releaseJob_changes owns]
    · rw [answer] at refused
      cases refused
  | restoreForJob jobId runAttempt cpuIds memoryMb gpuDeviceIds =>
    refine iff_of_true ?_ id
    dsimp only [perform,Prod.map] at refused
    obtain ⟨error,-,same⟩ | ⟨result,answer,-⟩ := restoreForJob_cases
    · exact same
    · rw [answer] at refused
      cases refused
  | updateCapacity fresh =>
    refine iff_of_true ?_ id
    change (s.updateCapacity fresh).1 = s
    dsimp only [perform] at refused
    unfold updateCapacity at refused ⊢
    dsimp only at refused ⊢
    split at refused
    next lost => rw [if_pos lost]
    · cases refused
  | commitJob | releaseJob | releaseJobIf | reconcile | renameGpus | markCpusUnavailable | setSpecExclusions
  | setFenced => cases refused

def firstCommitted : NodeAllocation :=
  [((.ordered 0,.allocateForJob 1 1 2 4096 [256]) : Env × LedgerCall),(.ordered 1,.commitJob 1 1)].foldl
    NodeAllocation.step (.new ledgerInventory)

theorem refused_unchanged_taken : firstCommitted.step (.ordered 2,.allocateForJob 2 1 1 0 [256]) = firstCommitted :=
  (refused_unchanged_iff _ _ (by decide +kernel)).mpr fun ⟨_,_,owns,_⟩ => by
    cases owns

/-- The job's second attempt asks for a GPU the node does not have, and its first one is gone from the ledger. -/
theorem refused_relaunch_changes_ledger :
    (firstCommitted.perform (.ordered 2,.allocateForJob 1 2 2 4096 [768])).2.refuses = true ∧
      firstCommitted.step (.ordered 2,.allocateForJob 1 2 2 4096 [768]) ≠ firstCommitted := by
  refine ⟨by decide +kernel,fun same => ?_⟩
  have kept : (firstCommitted.step (.ordered 2,.allocateForJob 1 2 2 4096 [768])).owners[1]? = firstCommitted.owners[1]? := by
    rw [same]
  revert kept
  decide +kernel

end

section

variable {s : NodeAllocation} {jobId : JobId} {runAttempt : Nat} {held : AllocationResult}

structure Reserved (jobId : JobId) (runAttempt : Nat) (s : NodeAllocation) (held : AllocationResult) : Prop where
  sound : Sound s
  owns : s.owners[jobId]? = some ⟨runAttempt,held⟩

theorem Reserved.newer (reserved : Reserved jobId runAttempt s held) :
    ((s.owners[jobId]?).any fun existing => existing.runAttempt > attempt) = decide (attempt < runAttempt) := by
  rw [reserved.owns]
  rfl

theorem Reserved.current (reserved : Reserved jobId runAttempt s held) :
    ((s.owners[jobId]?).any fun owned => owned.runAttempt == attempt) = (runAttempt == attempt) := by
  rw [reserved.owns]
  rfl

theorem Reserved.older (reserved : Reserved jobId runAttempt s held)
    (older : Older jobId runAttempt entry.2) : s.step entry = s := by
  obtain ⟨env,call⟩ := entry
  cases call with
  | allocateForJob owner attempt cpus memoryMb gpuDeviceIds =>
    obtain ⟨rfl,earlier⟩ := older
    change (s.allocateForJob _ owner attempt cpus memoryMb _).1 = s
    unfold allocateForJob
    split
    · rfl
    · rw [reserved.newer,if_pos (decide_eq_true earlier)]
  | restoreForJob owner attempt cpuIds memoryMb gpuDeviceIds =>
    obtain ⟨rfl,earlier⟩ := older
    change (s.restoreForJob owner attempt cpuIds memoryMb _).1 = s
    unfold restoreForJob
    rw [reserved.newer,if_pos (decide_eq_true earlier)]
  | commitJob owner attempt =>
    obtain ⟨rfl,earlier⟩ := older
    change (s.commitJob owner attempt).1 = s
    unfold commitJob
    rw [reserved.current,if_neg (by simpa using earlier.ne')]
  | releaseJobIf owner attempt =>
    obtain ⟨rfl,earlier⟩ := older
    change (s.releaseJobIf owner attempt).1 = s
    unfold releaseJobIf
    rw [reserved.current,if_neg (by simpa using earlier.ne')]
  | releaseJob | reconcile | updateCapacity | renameGpus | markCpusUnavailable | setSpecExclusions | setFenced => cases older

theorem Reserved.asked (reserved : Reserved jobId runAttempt s held) {owner : JobId} (asked : asks entry.2 = some (owner,attempt))
    (goes : ¬(owner = jobId ∧ runAttempt ≤ attempt ∧ (grantedTo s entry).isSome = true))
    (kept : owner = jobId → attempt < runAttempt ∨ grantedTo s entry = none → s.step entry = s) :
    (s.step entry).owners[jobId]? = some ⟨runAttempt,held⟩ := by
  by_cases same : owner = jobId
  · have unchanged : s.step entry = s := by
      refine kept same ?_
      by_contra granted
      push Not at granted
      exact goes ⟨same,granted.1,Option.ne_none_iff_isSome.mp granted.2⟩
    rw [unchanged]
    exact reserved.owns
  obtain ⟨-,unchanged | dropped⟩ | ⟨result,-,owners⟩ := asked_cases asked
  · rw [unchanged]
    exact reserved.owns
  · rw [dropped,releaseJob_other same]
    exact reserved.owns
  · rw [owners,find_insert_ne same,releaseJob_other same]
    exact reserved.owns

theorem Reserved.step (reserved : Reserved jobId runAttempt s held)
    (wellFormed : WellFormed s entry.2) (feasible : Feasible jobId runAttempt s entry.2)
    (goes : ¬Ends jobId runAttempt s entry) : Reserved jobId runAttempt (s.step entry) (followed held [entry]) := by
  refine ⟨step_sound s entry reserved.sound wellFormed,?_⟩
  obtain ⟨env,call⟩ := entry
  cases call with
  | allocateForJob owner attempt cpus memoryMb gpuDeviceIds =>
    refine reserved.asked rfl goes fun same reason => ?_
    by_cases earlier : attempt < runAttempt
    · exact reserved.older ⟨same,earlier⟩
    have refused := reason.resolve_left earlier
    unfold grantedTo at refused
    dsimp only [perform,Prod.map] at refused
    obtain ⟨error,answer,gated⟩ | ⟨result,answer,-⟩ := allocateForJob_cases
    · refine gated.trans (if_pos ?_)
      subst same
      rw [reserved.newer,decide_eq_false earlier,Bool.or_false]
      by_contra idle
      -- A launch that gets past the gate is granted.
      obtain ⟨result,granted⟩ := allocateForJob_succeeds reserved.sound (feasible rfl (Nat.le_of_not_lt earlier)
        (mt Std.ExtTreeMap.contains_iff_mem.mpr idle)) (Bool.eq_false_iff.mpr idle)
        (reserved.newer.trans (decide_eq_false earlier))
      cases answer.symm.trans granted
    · rw [answer] at refused
      cases refused
  | restoreForJob owner attempt cpuIds memoryMb gpuDeviceIds =>
    refine reserved.asked rfl goes fun same reason => ?_
    obtain ⟨error,-,unchanged⟩ | ⟨result,answer,-⟩ := restoreForJob_cases
    · exact unchanged
    obtain earlier | refused := reason
    · exact reserved.older ⟨same,earlier⟩
    · unfold grantedTo at refused
      dsimp only [perform,Prod.map] at refused
      rw [answer] at refused
      cases refused
  | commitJob owner attempt =>
    change (s.commitJob owner attempt).1.owners[jobId]? = some ⟨runAttempt,held⟩
    unfold commitJob
    split <;> exact reserved.owns
  | releaseJob owner =>
    change (s.releaseJob owner).1.owners[jobId]? = some ⟨runAttempt,held⟩
    rw [releaseJob_other goes]
    exact reserved.owns
  | releaseJobIf owner attempt =>
    change (s.releaseJobIf owner attempt).1.owners[jobId]? = some ⟨runAttempt,held⟩
    unfold releaseJobIf
    by_cases same : owner = jobId
    · have stale : attempt ≠ runAttempt := fun equal => goes ⟨same,equal⟩
      rw [same,reserved.current,if_neg (by simpa using Ne.symm stale)]
      exact reserved.owns
    · split
      · rw [releaseJob_other same]
        exact reserved.owns
      · exact reserved.owns
  | reconcile live launchingTtl =>
    have spared : jobId ∉ s.orphaned env live _ := goes
    exact (releaseJobs_other spared).trans reserved.owns
  | updateCapacity fresh =>
    change (s.updateCapacity fresh).1.owners[jobId]? = some ⟨runAttempt,held⟩
    unfold updateCapacity
    dsimp only
    split <;> exact reserved.owns
  | renameGpus renamed =>
    change (s.owners.map fun _ => Owned.rename renamed)[jobId]? = _
    rw [find_map,reserved.owns]
    rfl
  | markCpusUnavailable cpus =>
    change (s.markCpusUnavailable cpus).owners[jobId]? = some ⟨runAttempt,held⟩
    rw [(markCpusUnavailable_owners s).1]
    exact reserved.owns
  | setSpecExclusions specCpus =>
    change (s.setSpecExclusions specCpus).owners[jobId]? = some ⟨runAttempt,held⟩
    unfold setSpecExclusions
    rw [(markCpusUnavailable_owners _).1]
    exact reserved.owns
  | setFenced => exact reserved.owns

theorem Reserved.run {calls : List (Env × LedgerCall)} (reserved : Reserved jobId runAttempt s held)
    (meets : Along NodeAllocation.step (fun s entry => WellFormed s entry.2 ∧ Feasible jobId runAttempt s entry.2) s calls)
    (goes : Along NodeAllocation.step (fun s entry => ¬Ends jobId runAttempt s entry) s calls) :
    Reserved jobId runAttempt (calls.foldl NodeAllocation.step s) (followed held calls) := by
  induction calls generalizing s held with
  | nil => exact reserved
  | cons entry calls ih =>
    exact ih (reserved.step meets.1.1 meets.1.2 goes.1) meets.2 goes.2

theorem Reserved.disjoint (reserved : Reserved jobId runAttempt s held) {other : JobId} (granted : grantedTo s entry = some (other,result)) (different : other ≠ jobId) :
    result.cpuIds.Disjoint held.cpuIds ∧ result.gpuIds.Disjoint held.gpuIds := by
  obtain ⟨attempt,-,formed,owners⟩ := grantedTo_owners granted
  have sound := step_sound s entry reserved.sound formed
  have theirs : (s.step entry).owners[other]? = some ⟨attempt,result⟩ := by rw [owners,find_insert,if_pos rfl]
  have ours : (s.step entry).owners[jobId]? = some ⟨runAttempt,held⟩ := by
    rw [owners,find_insert_ne different,releaseJob_other different]
    exact reserved.owns
  exact ⟨sound.cpus.apart other jobId _ _ theirs ours different,sound.gpus.apart other jobId _ _ theirs ours different⟩

/-- From its grant up to the call that ends it, a reservation is its attempt's alone. -/
theorem reservation_exclusive (resources : ResourceSet) (cpuIds : (onlineCpuIds resources).Nodup)
    (gpuIds : (resources.gpus.map GpuResource.stableId).Nodup) (before after : List (Env × LedgerCall)) (env : Env)
    (jobId : JobId) (runAttempt cpus memoryMb : Nat) (gpuDeviceIds : List Nat) (result : AllocationResult)
    (s : NodeAllocation) (reached : s = before.foldl NodeAllocation.step (.new resources))
    (formed : Along NodeAllocation.step (fun s entry => WellFormed s entry.2) (.new resources) before)
    (granted : grantedTo s (env,.allocateForJob jobId runAttempt cpus memoryMb gpuDeviceIds) = some (jobId,result))
    (t : NodeAllocation) (launched : t = s.step (env,.allocateForJob jobId runAttempt cpus memoryMb gpuDeviceIds))
    (meets : Along NodeAllocation.step (fun s entry => WellFormed s entry.2 ∧ Feasible jobId runAttempt s entry.2) t after)
    (goes : Along NodeAllocation.step (fun s entry => ¬Ends jobId runAttempt s entry) t after) :
    ((after.foldl NodeAllocation.step t).commitJob jobId runAttempt).2 = true ∧
      (∀ entry : Env × LedgerCall, Older jobId runAttempt entry.2 →
        (after.foldl NodeAllocation.step t).step entry = after.foldl NodeAllocation.step t) ∧
      ∀ (entry : Env × LedgerCall) (other : JobId) (theirs : AllocationResult),
        grantedTo (after.foldl NodeAllocation.step t) entry = some (other,theirs) → other ≠ jobId →
          theirs.cpuIds.Disjoint (followed result after).cpuIds ∧ theirs.gpuIds.Disjoint (followed result after).gpuIds := by
  have start : Sound s := by
    rw [reached]
    exact invariant_run step_sound (new_sound cpuIds gpuIds) formed
  have reserved : Reserved jobId runAttempt t result := by
    obtain ⟨attempt,same,formed,owners⟩ := grantedTo_owners granted
    cases same
    rw [launched]
    refine ⟨step_sound s _ start formed,?_⟩
    rw [owners,find_insert,if_pos rfl]
  have still := reserved.run meets goes
  refine ⟨?_,fun entry older => still.older older,fun entry other theirs given different => still.disjoint given different⟩
  unfold commitJob
  rw [still.current,if_pos (by simp)]

def meanwhile : List (Env × LedgerCall) :=
  [(.ordered 1,.allocateForJob 2 1 2 0 [512]),(.ordered 2,.renameGpus ((∅ : Table Nat Nat).insert 256 257))]

theorem reservation_exclusive_renamed :
    ((meanwhile.foldl NodeAllocation.step ((NodeAllocation.new ledgerInventory).step
      (.ordered 0,.allocateForJob 1 1 2 4096 [256]))).commitJob 1 1).2 = true := by
  refine (reservation_exclusive _ (by decide +kernel) (by decide +kernel) [] meanwhile _ 1 1 2 4096 [256]
    ⟨[0,1],[256],4096⟩ _ rfl trivial (by decide +kernel) _ rfl ?_ ?_).1
  · refine ⟨⟨trivial,fun same => ?_⟩,⟨?_,trivial⟩,trivial⟩
    · cases same
    · have distinct : ((((NodeAllocation.new ledgerInventory).step (.ordered 0,.allocateForJob 1 1 2 4096 [256])).step
          (.ordered 1,.allocateForJob 2 1 2 0 [512])).gpuIds.map
          (renamedId ((∅ : Table Nat Nat).insert 256 257))).Nodup := by decide +kernel
      exact fun _ one _ two same => inj_on_of_nodup_map distinct one two same
  · exact ⟨fun ends => (by cases ends.1),fun ends => ends,trivial⟩

def refusedRelaunch : List (Env × LedgerCall) :=
  [(.ordered 1,.commitJob 1 1),(.ordered 2,.allocateForJob 1 2 2 4096 [768])]

/-- The refused relaunch drops the reservation it did not replace, and the next job gets its devices. -/
theorem refused_relaunch_drops_reservation :
    ∃ t : NodeAllocation, t = refusedRelaunch.foldl NodeAllocation.step ((NodeAllocation.new ledgerInventory).step
        (.ordered 0,.allocateForJob 1 1 2 4096 [256])) ∧
      grantedTo (.new ledgerInventory) (.ordered 0,.allocateForJob 1 1 2 4096 [256]) = some (1,⟨[0,1],[256],4096⟩) ∧
      Along NodeAllocation.step (fun s entry => WellFormed s entry.2 ∧ ¬Ends 1 1 s entry)
        ((NodeAllocation.new ledgerInventory).step (.ordered 0,.allocateForJob 1 1 2 4096 [256])) refusedRelaunch ∧
      (t.commitJob 1 1).2 = false ∧
      grantedTo t (.ordered 3,.allocateForJob 2 1 2 4096 [256]) = some (2,⟨[0,1],[256],4096⟩) := by
  refine ⟨_,rfl,by decide +kernel,⟨⟨trivial,fun ends => ends⟩,⟨trivial,?_⟩,trivial⟩,by decide +kernel,by decide +kernel⟩
  rintro ⟨_,_,given⟩
  revert given
  decide +kernel

end

end Spur.Ledger
