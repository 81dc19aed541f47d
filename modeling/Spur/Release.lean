import Spur.Charge

/-! Slices may be released in any order, as long as the charge lists each device id once. -/
namespace Spur
open Spur.Library List Option ResourceAllocations

namespace ResourceAllocations

private def lessen (taken : Nat → Nat) (entry : AllocatedDevice) : AllocatedDevice :=
  { entry with count := entry.count - taken entry.deviceId }

private def shrink (taken : Nat → Nat) (entries : List AllocatedDevice) : List AllocatedDevice :=
  (entries.map (lessen taken)).filter fun dev => dev.count > 0

private theorem subtractDevice_eq {entries : List AllocatedDevice} {dev : AllocatedDevice}
    (distinct : (entries.map AllocatedDevice.deviceId).Nodup) :
    subtractDevice entries dev = entries.map (lessen (countAt [dev])) := by
  have single (deviceId : Nat) : countAt [dev] deviceId = if dev.deviceId = deviceId then dev.count else 0 :=
    Nat.add_zero _
  induction entries with
  | nil => rfl
  | cons entry entries ih =>
    rw [map_cons,nodup_cons] at distinct
    unfold subtractDevice
    rw [map_cons]
    by_cases same : entry.deviceId = dev.deviceId
    · have others : ∀ other ∈ entries, lessen (countAt [dev]) other = other := by
        intro other member
        unfold lessen
        rw [single,if_neg,Nat.sub_zero]
        intro named
        exact distinct.1 (same.trans named ▸ List.mem_map_of_mem member)
      rw [if_pos same,map_congr_left others,List.map_id']
      unfold lessen
      rw [single,if_pos same.symm]
    · rw [if_neg same,ih distinct.2]
      conv_rhs => unfold lessen
      rw [single,if_neg (Ne.symm same)]
      rfl

private theorem subtractDevices_eq (devices entries : List AllocatedDevice)
    (distinct : (entries.map AllocatedDevice.deviceId).Nodup) :
    devices.foldl subtractDevice entries = entries.map (lessen (countAt devices)) := by
  induction devices generalizing entries with
  | nil => exact (List.map_id' entries).symm
  | cons dev devices ih =>
    have ids : (entries.map (lessen (countAt [dev]))).map AllocatedDevice.deviceId =
        entries.map AllocatedDevice.deviceId := by
      rw [List.map_map]
      rfl
    rw [foldl_cons,subtractDevice_eq distinct,ih _ (ids ▸ distinct),List.map_map]
    refine map_congr_left fun entry _ => ?_
    unfold lessen
    dsimp only [Function.comp_apply]
    rw [Nat.sub_sub]
    rfl

private theorem shrink_shrink (first second : Nat → Nat) (entries : List AllocatedDevice) :
    shrink second (shrink first entries) = shrink (fun id => first id + second id) entries := by
  unfold shrink
  induction entries with
  | nil => rfl
  | cons entry entries ih =>
    rw [map_cons,map_cons,filter_cons,filter_cons]
    split
    next left =>
      rw [map_cons,filter_cons,ih]
      unfold lessen
      rw [Nat.sub_sub]
    next spent =>
      rw [if_neg,ih]
      simp only [lessen,gt_iff_lt,decide_eq_true_eq,Nat.not_lt] at spent ⊢
      omega

private theorem find_subtract (alloc other : ResourceAllocations) (gresName : String) :
    (alloc.subtract other).devices[gresName]? =
      match other.devices[gresName]? with
      | none => alloc.devices[gresName]?
      | some devices => subtractDevices alloc.devices[gresName]? devices := by
  unfold subtract
  rw [Table.find_mergeOver_perm (List.Perm.refl _)]
  cases other.devices[gresName]? <;> rfl

private theorem subtractDevices_shrink {old : Option (List AllocatedDevice)} {devices : List AllocatedDevice}
    (distinct : ((old.getD []).map AllocatedDevice.deviceId).Nodup) :
    subtractDevices old devices = (old.map (shrink (countAt devices))).filter fun left => !left.isEmpty := by
  cases old with
  | none => rfl
  | some entries =>
    unfold subtractDevices
    rw [bind_some,subtractDevices_eq devices entries distinct,map_some]
    unfold shrink
    cases ((entries.map (lessen _)).filter fun dev => decide (dev.count > 0)) <;> rfl

private theorem nodup_shrink {taken : Nat → Nat} {entries : List AllocatedDevice}
    (distinct : (entries.map AllocatedDevice.deviceId).Nodup) :
    ((shrink taken entries).map AllocatedDevice.deviceId).Nodup := by
  refine List.Nodup.sublist (List.Sublist.map _ filter_sublist) ?_
  rw [List.map_map]
  exact distinct

private theorem subtractDevices_twice {old : Option (List AllocatedDevice)} {first second : List AllocatedDevice}
    (distinct : ((old.getD []).map AllocatedDevice.deviceId).Nodup) :
    subtractDevices (subtractDevices old first) second =
      (old.map (shrink fun id => countAt first id + countAt second id)).filter fun left => !left.isEmpty := by
  rw [subtractDevices_shrink distinct]
  cases old with
  | none => rfl
  | some entries =>
    rw [map_some,map_some,← shrink_shrink]
    cases spent : shrink _ entries with
    | nil => rfl
    | cons dev devices =>
      have left : ((shrink (countAt first) entries).map _).Nodup := nodup_shrink distinct
      rw [spent] at left
      exact subtractDevices_shrink left

variable {alloc : ResourceAllocations}

theorem subtract_comm (distinct : alloc.Distinct) (first second : ResourceAllocations) :
    (alloc.subtract first).subtract second = (alloc.subtract second).subtract first := by
  have devices : ((alloc.subtract first).subtract second).devices = ((alloc.subtract second).subtract first).devices := by
    apply Table.ext
    intro gresName
    rw [find_subtract,find_subtract,find_subtract,find_subtract]
    cases second.devices[gresName]? with
    | none => rfl
    | some later =>
      cases first.devices[gresName]? with
      | none => rfl
      | some sooner =>
        dsimp only
        rw [subtractDevices_twice (distinct gresName),subtractDevices_twice (distinct gresName)]
        simp only [Nat.add_comm]
  unfold subtract at devices ⊢
  dsimp only at devices ⊢
  rw [devices,Nat.sub_right_comm,Nat.sub_right_comm alloc.memoryMb]

private theorem hasDevices_false : alloc.hasDevices = false ↔
      ∀ (gresName : String) devices, alloc.devices[gresName]? = some devices → devices = [] := by
  unfold hasDevices
  rw [List.any_eq_false]
  constructor
  · intro unused gresName devices found
    have empty := unused _ (Std.ExtTreeMap.mem_toList_iff_getElem?_eq_some.mpr found)
    simpa using empty
  · rintro unused ⟨gresName,devices⟩ member
    have empty := unused gresName devices (Std.ExtTreeMap.mem_toList_iff_getElem?_eq_some.mp member)
    simpa using empty

private theorem hasDevices_subtract (unused : alloc.hasDevices = false)
    {other : ResourceAllocations} : (alloc.subtract other).hasDevices = false := by
  rw [hasDevices_false] at unused ⊢
  intro gresName devices found
  rw [find_subtract] at found
  split at found
  · exact unused gresName devices found
  rename_i taken _
  cases before : alloc.devices[gresName]? with
  | none => rw [before] at found; cases found
  | some entries =>
    rw [before,unused gresName entries before,@subtractDevices_shrink (some []) taken nodup_nil] at found
    cases found

end ResourceAllocations

namespace Node

private theorem stateFromAlloc_release (node : Node) (slice : ResourceAllocations) : ({ node.updateStateFromAlloc with
        allocResources := node.allocResources.subtract slice } : Node).stateFromAlloc =
      ({ node with allocResources := node.allocResources.subtract slice } : Node).stateFromAlloc := by
  have freed : (node.allocResources.cpus = 0 ∧ node.allocResources.hasDevices = false) →
      (node.allocResources.subtract slice).cpus = 0 ∧ (node.allocResources.subtract slice).hasDevices = false := by
    rintro ⟨cpus,devices⟩
    exact ⟨by rw [ResourceAllocations.subtract,cpus,Nat.zero_sub],hasDevices_subtract devices⟩
  unfold updateStateFromAlloc stateFromAlloc
  dsimp only
  by_cases draining : node.state = .draining
  · rw [if_pos draining]
    split
    next free => rw [if_pos (freed free)]; rfl
    next => rw [if_pos rfl]
  · rw [if_neg draining,if_neg draining]
    by_cases hold : node.state.isAdminHold = true
    · rw [if_pos hold,if_neg draining]
    rw [if_neg hold,if_neg hold]
    have up : (if node.allocResources.cpus = 0 ∧ node.allocResources.hasDevices = false then NodeState.idle
        else if node.allocResources.cpus ≥ node.totalResources.cpus then .allocated else .mixed).isUp = true := by
      split_ifs <;> rfl
    generalize (if node.allocResources.cpus = 0 ∧ node.allocResources.hasDevices = false then NodeState.idle
      else if node.allocResources.cpus ≥ node.totalResources.cpus then .allocated else .mixed) = between at up ⊢
    cases between <;> first | rfl | cases up

theorem release_comm {node : Node} (distinct : node.allocResources.Distinct) {first second : ResourceAllocations} :
    (node.release first).release second = (node.release second).release first := by
  have states := stateFromAlloc_release { node with allocResources := node.allocResources.subtract first } second
  have others := stateFromAlloc_release { node with allocResources := node.allocResources.subtract second } first
  have charge := subtract_comm distinct first second
  unfold release
  unfold updateStateFromAlloc at states others ⊢
  dsimp only at states others ⊢
  rw [states,others,charge]

end Node
end Spur
