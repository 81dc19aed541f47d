import Spur.GpuIdentity

/-! What an allocation charges, one meter at a time: cpus, memory, and the count held of each device id. -/
namespace Spur
open Spur.Library List

inductive Meter where
  | cpus
  | memory
  | device (gresName : String) (deviceId : Nat)
  deriving DecidableEq

def countAt (devices : List AllocatedDevice) (deviceId : Nat) : Nat :=
  (devices.map fun dev => if dev.deviceId = deviceId then dev.count else 0).sum

namespace Meter

def read (alloc : ResourceAllocations) : Meter → Nat
  | cpus => alloc.cpus
  | memory => alloc.memoryMb
  | device gresName deviceId => countAt (alloc.devicesOf gresName) deviceId

def bound : Meter → Nat
  | cpus => u32Max
  | memory | device .. => u64Max

end Meter

def ResourceAllocations.Fits (alloc other : ResourceAllocations) : Prop :=
  ∀ meter : Meter, meter.read alloc + meter.read other ≤ meter.bound

def ResourceAllocations.Distinct (alloc : ResourceAllocations) : Prop :=
  ∀ gresName : String, (alloc.deviceIds gresName).Nodup

variable {devices : List AllocatedDevice} {meter : Meter}

namespace ResourceAllocations

section

variable {entries : List AllocatedDevice} {dev : AllocatedDevice} {deviceId : Nat}

private theorem countAt_cons (dev : AllocatedDevice) (devices : List AllocatedDevice) (deviceId : Nat) :
    countAt (dev :: devices) deviceId = (if dev.deviceId = deviceId then dev.count else 0) + countAt devices deviceId :=
  rfl

theorem countAt_of_absent (absent : deviceId ∉ entries.map AllocatedDevice.deviceId) :
    countAt entries deviceId = 0 := by
  induction entries with
  | nil => rfl
  | cons entry entries ih =>
    rw [map_cons,mem_cons,not_or] at absent
    rw [countAt_cons,if_neg (Ne.symm absent.1),ih absent.2]

theorem ids_addDevice (entries : List AllocatedDevice) (dev : AllocatedDevice) :
    (addDevice entries dev).map AllocatedDevice.deviceId =
      if dev.deviceId ∈ entries.map AllocatedDevice.deviceId then entries.map AllocatedDevice.deviceId
      else entries.map AllocatedDevice.deviceId ++ [dev.deviceId] := by
  induction entries with
  | nil => rfl
  | cons entry entries ih =>
    unfold addDevice
    by_cases same : entry.deviceId = dev.deviceId
    · rw [if_pos same,if_pos (by rw [map_cons,same]; exact mem_cons_self)]
      rfl
    have skip : (dev.deviceId ∈ (entry :: entries).map AllocatedDevice.deviceId) =
        (dev.deviceId ∈ entries.map AllocatedDevice.deviceId) := by
      simp [Ne.symm same]
    rw [if_neg same,map_cons,ih]
    simp only [skip]
    split <;> rfl

private theorem nodup_addDevices {entries : List AllocatedDevice}
    (distinct : (entries.map AllocatedDevice.deviceId).Nodup) :
    ((devices.foldl addDevice entries).map AllocatedDevice.deviceId).Nodup := by
  induction devices generalizing entries with
  | nil => exact distinct
  | cons dev devices ih =>
    apply ih
    rw [ids_addDevice]
    split
    next => exact distinct
    next fresh => exact nodup_append_comm.mp (nodup_cons.mpr ⟨fresh,distinct⟩)

private theorem countAt_addDevice {entries : List AllocatedDevice} {dev : AllocatedDevice} {deviceId : Nat}
    (fits : countAt entries dev.deviceId + dev.count ≤ u64Max) :
    countAt (addDevice entries dev) deviceId =
      countAt entries deviceId + if dev.deviceId = deviceId then dev.count else 0 := by
  induction entries with
  | nil => simp [addDevice,countAt]
  | cons entry entries ih =>
    rw [countAt_cons] at fits
    unfold addDevice
    by_cases same : entry.deviceId = dev.deviceId
    · rw [if_pos same] at fits
      rw [if_pos same,countAt_cons,countAt_cons,same]
      dsimp only
      split <;> omega
    · rw [if_neg same,countAt_cons,countAt_cons]
      omega

private theorem countAt_addDevices {entries : List AllocatedDevice} {deviceId : Nat}
    (fits : ∀ id, countAt entries id + countAt devices id ≤ u64Max) :
    countAt (devices.foldl addDevice entries) deviceId = countAt entries deviceId + countAt devices deviceId := by
  induction devices generalizing entries with
  | nil => rfl
  | cons dev devices ih =>
    have room : countAt entries dev.deviceId + dev.count ≤ u64Max := by
      have whole := fits dev.deviceId
      rw [countAt_cons,if_pos rfl] at whole
      omega
    rw [foldl_cons,ih,countAt_addDevice room,countAt_cons,Nat.add_assoc]
    intro id
    have whole := fits id
    rw [countAt_cons] at whole
    rw [countAt_addDevice room]
    omega

private theorem ids_subtractDevice (entries : List AllocatedDevice) (dev : AllocatedDevice) :
    (subtractDevice entries dev).map AllocatedDevice.deviceId = entries.map AllocatedDevice.deviceId := by
  induction entries with
  | nil => rfl
  | cons entry entries ih =>
    unfold subtractDevice
    split
    · rfl
    · rw [map_cons,ih,map_cons]

private theorem ids_subtractDevices (devices entries : List AllocatedDevice) :
    (devices.foldl subtractDevice entries).map AllocatedDevice.deviceId = entries.map AllocatedDevice.deviceId := by
  induction devices generalizing entries with
  | nil => rfl
  | cons dev devices ih => rw [foldl_cons,ih,ids_subtractDevice]

private theorem countAt_subtractDevice {entries : List AllocatedDevice} {dev : AllocatedDevice} {deviceId : Nat}
    (distinct : (entries.map AllocatedDevice.deviceId).Nodup) :
    countAt (subtractDevice entries dev) deviceId =
      countAt entries deviceId - if dev.deviceId = deviceId then dev.count else 0 := by
  induction entries with
  | nil => rw [subtractDevice,countAt,map_nil,sum_nil,Nat.zero_sub]
  | cons entry entries ih =>
    rw [map_cons,nodup_cons] at distinct
    unfold subtractDevice
    by_cases same : entry.deviceId = dev.deviceId
    · rw [if_pos same,countAt_cons,countAt_cons,← same]
      dsimp only
      split
      next named =>
        -- The only entry of this id is the first one.
        rw [countAt_of_absent (by rw [← named]; exact distinct.1)]
        omega
      next => omega
    · rw [if_neg same,countAt_cons,countAt_cons,ih distinct.2]
      by_cases named : dev.deviceId = deviceId
      · rw [if_neg (by rw [← named]; exact same)]
        omega
      · rw [if_neg named]
        omega

private theorem countAt_subtractDevices (devices entries : List AllocatedDevice) {deviceId : Nat}
    (distinct : (entries.map AllocatedDevice.deviceId).Nodup) :
    countAt (devices.foldl subtractDevice entries) deviceId = countAt entries deviceId - countAt devices deviceId := by
  induction devices generalizing entries with
  | nil => rfl
  | cons dev devices ih =>
    rw [foldl_cons,ih _ (by rw [ids_subtractDevice]; exact distinct),
      countAt_subtractDevice distinct,countAt_cons,Nat.sub_sub]

private theorem countAt_positive (entries : List AllocatedDevice) (deviceId : Nat) :
    countAt (entries.filter fun dev => dev.count > 0) deviceId = countAt entries deviceId := by
  induction entries with
  | nil => rfl
  | cons entry entries ih =>
    rw [filter_cons]
    split
    · rw [countAt_cons,countAt_cons,ih]
    next spent =>
      have zero : entry.count = 0 := by simpa using spent
      rw [ih,countAt_cons,zero,ite_self,Nat.zero_add]

end

theorem devicesOf_add (alloc other : ResourceAllocations) (gresName : String) :
    (alloc.add other).devicesOf gresName = (other.devicesOf gresName).foldl addDevice (alloc.devicesOf gresName) := by
  unfold devicesOf add
  rw [Table.find_mergeOver_perm (List.Perm.refl _)]
  cases other.devices[gresName]? <;> rfl

private theorem subtractDevices_nil (devices : List AllocatedDevice) : devices.foldl subtractDevice [] = [] := by
  apply map_eq_nil_iff.mp
  rw [ids_subtractDevices,map_nil]

theorem devicesOf_subtract (alloc other : ResourceAllocations) (gresName : String) :
    (alloc.subtract other).devicesOf gresName =
      match other.devices[gresName]? with
      | none => alloc.devicesOf gresName
      | some devices => (devices.foldl subtractDevice (alloc.devicesOf gresName)).filter fun dev => dev.count > 0 := by
  unfold devicesOf subtract
  rw [Table.find_mergeOver_perm (List.Perm.refl _)]
  cases other.devices[gresName]? with
  | none => rfl
  | some devices =>
    cases alloc.devices[gresName]? with
    | none => simp [subtractDevices,subtractDevices_nil]
    | some entry =>
      dsimp only [subtractDevices,Option.bind_some,Option.getD_some]
      split
      next spent => rw [List.isEmpty_iff.mp spent]; rfl
      next => rfl

variable {alloc other : ResourceAllocations}

theorem distinct_add (distinct : alloc.Distinct) : (alloc.add other).Distinct := by
  intro gresName
  unfold deviceIds
  rw [devicesOf_add]
  exact nodup_addDevices (distinct gresName)

theorem distinct_subtract (distinct : alloc.Distinct) : (alloc.subtract other).Distinct := by
  intro gresName
  unfold deviceIds
  rw [devicesOf_subtract]
  split
  · exact distinct gresName
  next devices found =>
    refine List.Nodup.sublist (List.Sublist.map _ filter_sublist) ?_
    rw [ids_subtractDevices]
    exact distinct gresName

theorem read_add (fits : alloc.Fits other) : meter.read (alloc.add other) = meter.read alloc + meter.read other := by
  cases meter with
  | cpus => exact Nat.min_eq_left (fits .cpus)
  | memory => exact Nat.min_eq_left (fits .memory)
  | device gresName deviceId =>
    simp only [Meter.read]
    rw [devicesOf_add]
    exact countAt_addDevices fun id => fits (.device gresName id)

theorem read_subtract {alloc : ResourceAllocations} (distinct : alloc.Distinct) {other : ResourceAllocations} : meter.read (alloc.subtract other) = meter.read alloc - meter.read other := by
  cases meter with
  | cpus => rfl
  | memory => rfl
  | device gresName deviceId =>
    simp only [Meter.read]
    rw [devicesOf_subtract]
    split
    next absent => rw [devicesOf.eq_def other,absent]; rfl
    next devices found =>
      rw [countAt_positive,countAt_subtractDevices _ _ (distinct gresName),devicesOf.eq_def other,found]
      rfl

section

variable (renamed : Table Nat Nat)

private noncomputable def counts (devices : List AllocatedDevice) : ℕ →₀ ℕ :=
  (devices.map fun dev => Finsupp.single dev.deviceId dev.count).sum

private theorem counts_apply {deviceId : Nat} : counts devices deviceId = countAt devices deviceId := by
  induction devices with
  | nil => rfl
  | cons dev devices ih =>
    rw [countAt_cons,← ih]
    simp [counts,Finsupp.single_apply]

private theorem counts_rename (devices : List AllocatedDevice) :
    counts (renameDevices renamed devices) = (counts devices).mapDomain (renameId renamed) := by
  induction devices with
  | nil => exact Finsupp.mapDomain_zero.symm
  | cons dev devices ih =>
    have head : counts (dev :: devices) = Finsupp.single _ _ + counts devices := rfl
    rw [head,Finsupp.mapDomain_add,Finsupp.mapDomain_single,← ih]
    rfl

theorem countAt_rename_sum {ι : Type} {indices : Finset ι} {slices : ι → List AllocatedDevice}
    (balanced : ∀ id, countAt devices id = ∑ i ∈ indices, countAt (slices i) id) {deviceId : Nat} :
    countAt (renameDevices renamed devices) deviceId =
      ∑ i ∈ indices, countAt (renameDevices renamed (slices i)) deviceId := by
  have whole : counts devices = ∑ i ∈ indices, counts (slices i) := by
    apply Finsupp.ext
    intro id
    rw [Finsupp.finsetSum_apply,counts_apply,balanced id]
    exact Finset.sum_congr rfl fun i _ => counts_apply.symm
  rw [← counts_apply,counts_rename,whole,Finsupp.mapDomain_finsetSum,Finsupp.finsetSum_apply]
  refine Finset.sum_congr rfl fun i _ => ?_
  rw [← counts_apply,counts_rename]

theorem devicesOf_rename (alloc : ResourceAllocations) (gresName : String) :
    (renameGpuIds renamed alloc).devicesOf gresName =
      if gresName = "gpu" then renameDevices renamed (alloc.devicesOf gresName) else alloc.devicesOf gresName := by
  unfold devicesOf renameGpuIds
  rw [Table.find_modify]
  by_cases gpu : gresName = "gpu"
  · rw [if_pos gpu,if_pos gpu.symm]
    cases alloc.devices[gresName]? <;> rfl
  · rw [if_neg gpu,if_neg (Ne.symm gpu)]

theorem distinct_rename {alloc : ResourceAllocations} (distinct : alloc.Distinct)
    (injective : Set.InjOn (renameId renamed) {id | id ∈ alloc.deviceIds "gpu"}) :
    (renameGpuIds renamed alloc).Distinct := by
  intro gresName
  unfold deviceIds
  rw [devicesOf_rename]
  split
  next gpu =>
    subst gpu
    have ids : (renameDevices renamed (alloc.devicesOf "gpu")).map AllocatedDevice.deviceId =
        (alloc.deviceIds "gpu").map (renameId renamed) := by
      simp [renameDevices,deviceIds]
    rw [ids]
    exact List.Nodup.map_on (fun x inside y also => injective inside also) (distinct "gpu")
  next => exact distinct gresName

end

end ResourceAllocations
end Spur
