import Spur.Sched.Timeline

/-! At every instant the sweep over a timeline holds, meter by meter, the sum of the active allocations. -/
namespace Spur.Sched
open Spur Spur.Library ResourceAllocations List

/-- A GPU entry whose id a list lacks counts something. -/
def Telling (gpuIds : List Nat) (alloc : ResourceAllocations) : Prop :=
  ∀ id ∈ alloc.deviceIds "gpu", id ∈ gpuIds ∨ 0 < Meter.read alloc (.device "gpu" id)

theorem count_le_countAt {devices : List AllocatedDevice} {dev : AllocatedDevice} (inside : dev ∈ devices) :
    dev.count ≤ countAt devices dev.deviceId := by
  exact single_le_sum (fun _ _ => Nat.zero_le _) _ (mem_map.mpr ⟨dev,inside,if_pos rfl⟩)

variable {other : ResourceAllocations} {timeline : NodeTimeline} {f : Nat → Nat}

theorem Telling.subtract {gpuIds : List Nat} {alloc : ResourceAllocations} (telling : Telling gpuIds alloc) :
    Telling gpuIds (alloc.subtract other) := by
  intro id listed
  change _ ∨ 0 < countAt _ id
  unfold deviceIds at listed
  rw [devicesOf_subtract] at listed ⊢
  split at listed
  · exact telling id listed
  · -- What is left of a list that shrank has no empty entry.
    obtain ⟨dev,inside,rfl⟩ := mem_map.mp listed
    have counted := of_decide_eq_true (mem_filter.mp inside).2
    exact .inr (counted.trans_le (count_le_countAt inside))

/-- An allocation that counts, on every meter, what a list of allocations holds. -/
structure Counts (gpuIds : List Nat) (used : ResourceAllocations) (held : List ResourceAllocations) : Prop where
  distinct : used.Distinct
  read : ∀ meter, Meter.read used meter = (held.map (Meter.read · meter)).sum
  telling : Telling gpuIds used

namespace Counts

variable {gpuIds : List Nat} {used alloc : ResourceAllocations} {held others : List ResourceAllocations}

theorem nil {gpuIds : List Nat} : Counts gpuIds {} [] where
  distinct := fun name => by simp [deviceIds,devicesOf]
  read := fun meter => by cases meter <;> simp [Meter.read,devicesOf,countAt]
  telling := by simp [Telling,deviceIds,devicesOf]

theorem perm (counts : Counts gpuIds used held) (same : held.Perm others) : Counts gpuIds used others :=
  { counts with read := fun meter => (counts.read meter).trans (same.map _).sum_eq }

theorem fits (counts : Counts gpuIds used held)
    (room : ∀ meter, ((alloc :: held).map (Meter.read · meter)).sum ≤ meter.bound) : used.Fits alloc := by
  intro meter
  rw [counts.read meter,Nat.add_comm]
  exact room meter

theorem cons (counts : Counts gpuIds used held) (telling : Telling gpuIds alloc)
    (room : ∀ meter, ((alloc :: held).map (Meter.read · meter)).sum ≤ meter.bound) :
    Counts gpuIds (used.add alloc) (alloc :: held) where
  distinct := distinct_add counts.distinct
  read := fun meter => by
    rw [read_add (counts.fits room),counts.read meter,map_cons,sum_cons,Nat.add_comm]
  telling := fun id listed => by
    rw [read_add (counts.fits room)]
    rcases mem_deviceIds_add.mp listed with old | new
    · exact (counts.telling id old).imp_right fun some_ => Nat.add_pos_left some_ _
    · exact (telling id new).imp_right fun some_ => Nat.add_pos_right _ some_

theorem tail (counts : Counts gpuIds used (alloc :: held)) : Counts gpuIds (used.subtract alloc) held where
  distinct := distinct_subtract counts.distinct
  read := fun meter => by
    rw [read_subtract counts.distinct,counts.read meter,map_cons,sum_cons]
    omega
  telling := counts.telling.subtract

end Counts

section

open AllocationSweep NodeTimeline

variable {gpuIds : List Nat} {time later : Time} {used : ResourceAllocations} {ending upcoming intervals : List Interval}
  {sweep : AllocationSweep} {interval : Interval}

structure Bounded (gpuIds : List Nat) (intervals : List Interval) : Prop where
  telling : ∀ i ∈ intervals, Telling gpuIds i.resources
  room : ∀ meter, (intervals.map fun i => Meter.read i.resources meter).sum ≤ meter.bound

theorem Bounded.subperm {others : List Interval} (bounded : Bounded gpuIds intervals) (sub : others.Subperm intervals) :
    Bounded gpuIds others where
  telling := fun i inside => bounded.telling i (sub.subset inside)
  room := fun meter => by
    refine le_trans ?_ (bounded.room meter)
    obtain ⟨same,perm,part⟩ := sub
    rw [← (perm.map _).sum_eq]
    exact (part.map _).sum_le_sum fun _ _ => Nat.zero_le _

private theorem push_ordered (ordered : ending.Pairwise fun a b => a.end_ ≤ b.end_) :
    (push interval ending).Pairwise fun a b => a.end_ ≤ b.end_ := by
  unfold push
  induction ending with
  | nil => simp
  | cons first rest ih =>
    rw [pairwise_cons] at ordered
    unfold List.orderedInsert
    split
    next sooner =>
      refine pairwise_cons.mpr ⟨fun i inside => ?_,pairwise_cons.mpr ordered⟩
      rcases mem_cons.mp inside with rfl | behind
      · exact sooner.le
      · exact sooner.le.trans (ordered.1 i behind)
    next after =>
      refine pairwise_cons.mpr ⟨fun i inside => ?_,ih ordered.2⟩
      rcases mem_cons.mp ((perm_orderedInsert _ _ _).subset inside) with rfl | behind
      · exact not_lt.mp after
      · exact ordered.1 i behind

private theorem enter_counts (bounded : Bounded gpuIds (ending ++ upcoming))
    (ordered : ending.Pairwise fun a b => a.end_ ≤ b.end_) (counts : Counts gpuIds used (ending.map Interval.resources)) :
    (enter time used ending upcoming).ending.Pairwise (fun a b => a.end_ ≤ b.end_) ∧
      Counts gpuIds (enter time used ending upcoming).used
        ((enter time used ending upcoming).ending.map Interval.resources) := by
  induction upcoming generalizing used ending with
  | nil => exact ⟨ordered,counts⟩
  | cons interval rest ih =>
    unfold enter
    split
    · have entered : (push interval ending).Perm _ := perm_orderedInsert _ _ _
      have moved : (push interval ending ++ rest).Perm _ :=
        (entered.append_right rest).trans perm_middle.symm
      refine ih (bounded.subperm moved.subperm) (push_ordered ordered) ?_
      refine Counts.perm ?_ (entered.map _).symm
      refine counts.cons (bounded.telling interval (by simp)) fun meter => ?_
      have part : (interval :: ending).Subperm _ :=
        ((sublist_append_left _ rest).subperm).trans perm_middle.symm.subperm
      have room := (bounded.subperm part).room meter
      rw [← map_cons (f := Interval.resources),map_map]
      exact room
    · exact ⟨ordered,counts⟩

private theorem leave_counts (ordered : ending.Pairwise fun a b => a.end_ ≤ b.end_)
    (counts : Counts gpuIds used (ending.map Interval.resources)) :
    (leave time used ending).2 = ending.filter (fun i => time < i.end_) ∧
      Counts gpuIds (leave time used ending).1 ((leave time used ending).2.map Interval.resources) := by
  induction ending generalizing used with
  | nil => exact ⟨rfl,counts⟩
  | cons interval rest ih =>
    rw [pairwise_cons] at ordered
    unfold leave
    split
    next ended =>
      rw [filter_cons_of_neg (by simpa using ended)]
      exact ih ordered.2 counts.tail
    next running =>
      refine ⟨?_,counts⟩
      symm
      rw [filter_eq_self]
      intro i inside
      have runs := not_le.mp running
      rcases mem_cons.mp inside with rfl | behind
      · simpa using runs
      · simpa using runs.trans_le (ordered.1 i behind)

/-- A sweep at an instant: what has started is entered, what has ended is left, and the rest is counted. -/
structure Tracks (gpuIds : List Nat) (intervals : List Interval) (time : Time) (sweep : AllocationSweep) : Prop where
  parts : ∃ entered, entered ++ sweep.upcoming = intervals ∧ (∀ i ∈ entered, i.start ≤ time) ∧
    sweep.ending.Perm (entered.filter fun i => time < i.end_)
  ordered : sweep.ending.Pairwise fun a b => a.end_ ≤ b.end_
  counts : Counts gpuIds sweep.used (sweep.ending.map Interval.resources)

theorem tracks_start {gpuIds : List Nat} {intervals : List Interval} (time : Time) :
    Tracks gpuIds intervals time ⟨{},intervals,[]⟩ where
  parts := ⟨[],rfl,by simp,List.Perm.refl _⟩
  ordered := List.Pairwise.nil
  counts := Counts.nil

theorem Tracks.advanceTo (tracks : Tracks gpuIds intervals time sweep) (bounded : Bounded gpuIds intervals)
    (from_ : time ≤ later) : Tracks gpuIds intervals later (sweep.advanceTo later) := by
  obtain ⟨entered,whole,started,active⟩ := tracks.parts
  have part : (sweep.ending ++ sweep.upcoming).Subperm intervals := by
    rw [← whole]
    exact (active.append_right _).subperm.trans (filter_sublist.append_right _).subperm
  obtain ⟨_,rest,moved⟩ := enter_eq _ _ _
  obtain ⟨ordered,counts⟩ := @enter_counts gpuIds later _ _ _ (bounded.subperm part) tracks.ordered tracks.counts
  obtain ⟨left,counted⟩ := @leave_counts gpuIds later _ _ ordered counts
  refine ⟨⟨entered ++ sweep.upcoming.takeWhile fun i => i.start ≤ later,?_,?_,?_⟩,?_,counted⟩
  · change _ ++ (enter later _ _ _).upcoming = intervals
    rw [rest,append_assoc,takeWhile_append_dropWhile,whole]
  · intro i inside
    rcases mem_append.mp inside with before | new
    · exact (started i before).trans from_
    · simpa using mem_takeWhile_imp new
  · change (leave later _ _).2.Perm _
    rw [left,filter_append]
    refine (moved.filter _).trans ?_
    rw [filter_append]
    refine List.Perm.append_right _ ((active.filter _).trans ?_)
    rw [filter_filter]
    refine List.Perm.of_eq (filter_congr fun i _ => ?_)
    by_cases runs : later < i.end_
    · simp [from_.trans_lt runs]
    · simp [runs]
  · exact ordered.sublist leave_sublist

theorem Tracks.active (tracks : Tracks gpuIds intervals time sweep) (bounded : Bounded gpuIds intervals)
    (sorted : intervals.Pairwise fun a b => a.start ≤ b.start) (from_ : time ≤ later) :
    (sweep.advanceTo later).ending.Perm
      ((intervals.filter fun i => i.start ≤ later).filter fun i => later < i.end_) := by
  obtain ⟨entered,whole,started,active⟩ := (tracks.advanceTo bounded from_).parts
  have ahead : ∀ i ∈ (sweep.advanceTo later).upcoming, ¬ i.start ≤ later := by
    obtain ⟨_,rest,_⟩ := enter_eq _ _ _
    change ∀ i ∈ (enter later _ _ _).upcoming, _
    have part : (enter later sweep.used sweep.ending sweep.upcoming).upcoming.Sublist intervals := by
      rw [← whole]
      exact sublist_append_right _ _
    have ordered := sorted.sublist part
    rw [rest] at ordered ⊢
    cases first : sweep.upcoming.dropWhile fun i => i.start ≤ later with
    | nil => simp
    | cons head others =>
      have head_later := List.head?_dropWhile_not (fun i : Interval => decide (i.start ≤ later)) sweep.upcoming
      rw [first] at head_later ordered
      rw [pairwise_cons] at ordered
      have beyond : later < head.start := by simpa using head_later
      intro i inside
      rcases mem_cons.mp inside with rfl | behind
      · exact beyond.not_ge
      · exact (beyond.trans_le (ordered.1 i behind)).not_ge
  refine active.trans (List.Perm.of_eq ?_)
  have kept : entered.filter (fun i => i.start ≤ later) = entered :=
    filter_eq_self.mpr fun i inside => by simpa using started i inside
  have none_ : (sweep.advanceTo later).upcoming.filter (fun i => i.start ≤ later) = [] :=
    filter_eq_nil_iff.mpr fun i inside => by simpa using ahead i inside
  rw [← whole,filter_append,kept,none_,append_nil]

theorem Tracks.held (tracks : Tracks gpuIds timeline.intervals time sweep)
    (bounded : Bounded gpuIds timeline.intervals) (sorted : timeline.intervals.Pairwise fun a b => a.start ≤ b.start)
    (from_ : time ≤ later) : Counts gpuIds (sweep.advanceTo later).used (timeline.heldAt later) :=
  (tracks.advanceTo bounded from_).counts.perm ((tracks.active bounded sorted from_).map _)

theorem Bounded.sum (bounded : Bounded gpuIds intervals) :
    Counts gpuIds (sumOf (intervals.map Interval.resources)) (intervals.map Interval.resources) := by
  induction intervals using List.reverseRecOn with
  | nil => exact Counts.nil
  | append_singleton intervals interval ih =>
    have counts := ih (bounded.subperm (sublist_append_left _ _).subperm)
    have last : (interval :: intervals).Perm _ := (perm_append_singleton _ _).symm
    refine Counts.perm ?_ (last.map _)
    unfold sumOf
    rw [map_append,foldl_append]
    refine counts.cons (bounded.telling interval (by simp)) fun meter => ?_
    rw [← map_cons (f := Interval.resources),map_map]
    exact (bounded.subperm last.subperm).room meter

theorem counts_accumulatedAt (bounded : Bounded gpuIds timeline.intervals)
    (sorted : timeline.intervals.Pairwise fun a b => a.start ≤ b.start) (time : Time) :
    Counts gpuIds (timeline.accumulatedAt time) (timeline.heldAt time) := by
  rw [accumulatedAt_eq sorted]
  exact (bounded.subperm (filter_sublist.trans filter_sublist).subperm).sum

end

section

variable {gpuIds : List Nat} {used : ResourceAllocations} {held : List ResourceAllocations} {total : ResourceSet}
  {devices others : List AllocatedDevice} {ids : Finset Nat}

private theorem load_eq_sum_countAt {wanted : Nat → Bool} (listed : ∀ dev ∈ devices, dev.deviceId ∈ ids) :
    load (fun dev => wanted dev.deviceId) AllocatedDevice.count devices =
      ∑ id ∈ ids.filter (wanted ·), countAt devices id := by
  induction devices with
  | nil => simp [countAt]
  | cons dev devices ih =>
    have head : ∑ id ∈ ids.filter (wanted ·), (if dev.deviceId = id then dev.count else 0) =
        if wanted dev.deviceId then dev.count else 0 := by
      simp [listed dev _]
    rw [load_cons,ih fun other inside => listed other (mem_cons_of_mem _ inside),← head,← Finset.sum_add_distrib]
    rfl

private theorem countAt_map (zero : f 0 = 0) (distinct : (devices.map AllocatedDevice.deviceId).Nodup)
    (id : Nat) : countAt (devices.map fun dev => { dev with count := f dev.count }) id = f (countAt devices id) := by
  induction devices with
  | nil => exact zero.symm
  | cons dev devices ih =>
    rw [map_cons,nodup_cons] at distinct
    change (if dev.deviceId = id then f _ else 0) + _ = f ((if dev.deviceId = id then dev.count else 0) + _)
    change _ + countAt _ id = f (_ + countAt devices id)
    rw [ih distinct.2]
    by_cases same : dev.deviceId = id
    · rw [if_pos same,if_pos same,countAt_of_absent (same ▸ distinct.1),zero]
      rfl
    · rw [if_neg same,if_neg same,Nat.zero_add,Nat.zero_add]

theorem load_le_of_countAt (zero : f 0 = 0) (distinct : (devices.map AllocatedDevice.deviceId).Nodup)
    (distinct' : (others.map AllocatedDevice.deviceId).Nodup)
    (each : ∀ id, f (countAt devices id) ≤ f (countAt others id)) (wanted : Nat → Bool) :
    load (fun dev => wanted dev.deviceId) (fun dev => f dev.count) devices ≤
      load (fun dev => wanted dev.deviceId) (fun dev => f dev.count) others := by
  have cut : ∀ list ∈ [devices,others], load (fun dev => wanted dev.deviceId) (fun dev => f dev.count) list =
      ∑ id ∈ (((devices ++ others).map AllocatedDevice.deviceId).toFinset).filter (wanted ·),
        countAt (list.map fun dev => { dev with count := f dev.count }) id := by
    intro list among
    rw [← load_eq_sum_countAt]
    · unfold load
      rw [filter_map,map_map]
      rfl
    · rw [forall_mem_map]
      intro dev inside
      refine mem_toFinset.mpr (mem_map.mpr ⟨dev,mem_append.mpr ?_,rfl⟩)
      rcases mem_cons.mp among with rfl | second
      · exact .inl inside
      · exact .inr (mem_singleton.mp second ▸ inside)
  rw [cut devices (by simp),cut others (by simp)]
  refine Finset.sum_le_sum fun id _ => ?_
  rw [countAt_map zero distinct,countAt_map zero distinct']
  exact each id

theorem totalDeviceCount_eq_load (alloc : ResourceAllocations) (gresName : String) :
    alloc.totalDeviceCount gresName = load (fun _ => true) AllocatedDevice.count (alloc.devicesOf gresName) := by
  unfold load totalDeviceCount
  rw [filter_true]

theorem countAt_le_total {devices : List AllocatedDevice} (id : Nat) :
    countAt devices id ≤ (devices.map AllocatedDevice.count).sum := by
  refine sum_le_sum fun dev _ => ?_
  split
  · exact le_rfl
  · exact Nat.zero_le _

theorem Counts.load_eq (counts : Counts gpuIds used held) (gresName : String) (wanted : Nat → Bool) :
    load (fun dev => wanted dev.deviceId) AllocatedDevice.count (used.devicesOf gresName) = (held.map fun alloc =>
        load (fun dev => wanted dev.deviceId) AllocatedDevice.count (alloc.devicesOf gresName)).sum := by
  obtain ⟨ids,listed⟩ : ∃ ids : Finset Nat, ∀ alloc ∈ used :: held, ∀ dev ∈ alloc.devicesOf gresName,
      dev.deviceId ∈ ids := by
    refine ⟨((used :: held).flatMap (deviceIds · gresName)).toFinset,fun alloc inside dev there => ?_⟩
    exact mem_toFinset.mpr (mem_flatMap.mpr ⟨alloc,inside,mem_map_of_mem there⟩)
  rw [load_eq_sum_countAt (listed used mem_cons_self)]
  have reads : ∀ id, countAt _ id = (held.map fun alloc => countAt _ id).sum :=
    fun id => counts.read (.device gresName id)
  simp only [reads]
  clear counts reads
  induction held with
  | nil => simp
  | cons alloc held ih =>
    simp only [map_cons,sum_cons]
    rw [Finset.sum_add_distrib,ih,load_eq_sum_countAt (listed alloc (by simp))]
    intro other inside
    refine listed other ?_
    rcases mem_cons.mp inside with rfl | behind
    · simp
    · simp [behind]

theorem Counts.deviceTotal (counts : Counts gpuIds used held) {gresName : String} :
    used.totalDeviceCount gresName = (held.map (ResourceAllocations.totalDeviceCount · gresName)).sum := by
  simp only [totalDeviceCount_eq_load]
  exact counts.load_eq gresName fun _ => true

def gpusHeld (total : ResourceSet) (gpuType : String) (alloc : ResourceAllocations) : Nat :=
  load (ofGpuType total gpuType) AllocatedDevice.count (alloc.devicesOf "gpu")

end

section

variable {gpuIds : List Nat} {used : ResourceAllocations} {held : List ResourceAllocations} {total request : ResourceSet}
  {gpuType : String}

private theorem load_congr_weight {α : Type} {scope : α → Bool} {weight other : α → Nat} {members : List α}
    (same : ∀ x ∈ members, weight x = other x) : load scope weight members = load scope other members := by
  unfold load
  congr 1
  exact map_congr_left fun x inside => same x (mem_filter.mp inside).1

/-- What fits beside an allocation fits beside one that counts no more. -/
theorem canSatisfy_mono {less more : ResourceAllocations} (few : less.Distinct) (many : more.Distinct)
    (telling : Telling (total.gpus.map GpuResource.stableId) less)
    (reads : ∀ meter, Meter.read less meter ≤ Meter.read more meter)
    (cut : ∀ id, countAt (less.devicesOf "gpu") id % 2 ^ 32 ≤ countAt (more.devicesOf "gpu") id % 2 ^ 32)
    (cutTotal : less.totalDeviceCount "gpu" % 2 ^ 32 ≤ more.totalDeviceCount "gpu" % 2 ^ 32)
    (fits : total.canSatisfyWithAllocated more request) : total.canSatisfyWithAllocated less request := by
  have totals : ∀ name, less.totalDeviceCount name ≤ more.totalDeviceCount name := by
    intro name
    rw [totalDeviceCount_eq_load,totalDeviceCount_eq_load]
    exact load_le_of_countAt (f := id) rfl (few name) (many name) (fun id => reads (.device name id)) fun _ => true
  have free : ∀ gpuType, freeCount total more gpuType ≤ freeCount total less gpuType := by
    intro gpuType
    unfold freeCount
    split
    · exact Nat.sub_le_sub_left cutTotal _
    · refine Nat.sub_le_sub_left ?_ _
      exact load_le_of_countAt (f := (· % 2 ^ 32)) rfl (few "gpu") (many "gpu") cut
        fun id => (total.findGpu id).elim false fun gpu => gpu.gpuType == gpuType
  have known : total.holdsUnknownGpu more = false → total.holdsUnknownGpu less = false := by
    unfold ResourceSet.holdsUnknownGpu
    simp only [any_eq_false]
    intro all id listed
    rcases telling id listed with present | counted
    · obtain ⟨gpu,inside,same⟩ := mem_map.mp present
      simpa using ⟨gpu,inside,same⟩
    · refine all id (by_contra fun absent => ?_)
      have none_ : Meter.read more (.device "gpu" id) = 0 := countAt_of_absent absent
      exact absurd (reads (.device "gpu" id)) (by omega)
  obtain ⟨cpus,memory,unknown,gpus,generic⟩ := canSatisfy_iff.mp fits
  exact canSatisfy_iff.mpr ⟨cpus.trans (Nat.sub_le_sub_left (reads .cpus) _),
    memory.trans (Nat.sub_le_sub_left (reads .memory) _),unknown.imp_right known,fun gpuType => (gpus gpuType).trans (free gpuType),
    fun name => (generic name).trans (Nat.sub_le_sub_left (totals name) _)⟩

theorem Counts.check_congr (counts : Counts (total.gpus.map GpuResource.stableId) used held)
    (counts' : Counts (total.gpus.map GpuResource.stableId) other held) {request : ResourceSet} :
    total.canSatisfyWithAllocated used request = total.canSatisfyWithAllocated other request := by
  have same : ∀ meter, Meter.read used meter = Meter.read other meter :=
    fun meter => (counts.read meter).trans (counts'.read meter).symm
  have same_ : used.totalDeviceCount "gpu" = other.totalDeviceCount "gpu" :=
    counts.deviceTotal.trans counts'.deviceTotal.symm
  have each : ∀ id, countAt _ id = countAt _ id :=
    fun id => same (.device "gpu" id)
  rw [Bool.eq_iff_iff]
  constructor
  · exact canSatisfy_mono counts'.distinct counts.distinct counts'.telling (fun meter => (same meter).ge)
      (fun id => by rw [each id]) (by rw [same_])
  · exact canSatisfy_mono counts.distinct counts'.distinct counts.telling (fun meter => (same meter).le)
      (fun id => by rw [each id]) (by rw [same_])

theorem Counts.check_mono {more : List ResourceAllocations}
    (counts : Counts (total.gpus.map GpuResource.stableId) used held)
    (counts' : Counts (total.gpus.map GpuResource.stableId) other more) (part : held.Sublist more)
    (small : (more.map (ResourceAllocations.totalDeviceCount · "gpu")).sum < 2 ^ 32)
    (fits : total.canSatisfyWithAllocated other request) : total.canSatisfyWithAllocated used request := by
  have sums : ∀ weight : ResourceAllocations → Nat, (held.map weight).sum ≤ (more.map weight).sum :=
    fun weight => (part.map weight).sum_le_sum fun _ _ => Nat.zero_le _
  have reads : ∀ meter, Meter.read used meter ≤ Meter.read other meter := fun meter => by
    rw [counts.read,counts'.read]
    exact sums _
  have totals : used.totalDeviceCount "gpu" ≤ other.totalDeviceCount "gpu" := by
    rw [counts.deviceTotal,counts'.deviceTotal]
    exact sums _
  rw [← counts'.deviceTotal] at small
  refine canSatisfy_mono counts.distinct counts'.distinct counts.telling reads (fun id => ?_) ?_ fits
  · have own : countAt _ id ≤ other.totalDeviceCount "gpu" := countAt_le_total id
    have below : countAt _ id ≤ countAt _ id := reads (.device "gpu" id)
    rw [Nat.mod_eq_of_lt (by omega),Nat.mod_eq_of_lt (by omega)]
    exact below
  · rw [Nat.mod_eq_of_lt (by omega),Nat.mod_eq_of_lt small]
    exact totals

theorem canSatisfy_counts (counts : Counts gpuIds used held)
    (small : (held.map (ResourceAllocations.totalDeviceCount · "gpu")).sum < 2 ^ 32)
    (fits : total.canSatisfyWithAllocated used request) :
    request.cpus ≤ total.cpus - (held.map cpus).sum ∧ request.memoryMb ≤ total.memoryMb - (held.map memoryMb).sum ∧
      ∀ gpuType, gpuType ≠ "any" → request.gpus.countP (fun gpu => gpu.gpuType == gpuType) ≤
        total.gpus.countP (fun gpu => gpu.gpuType == gpuType) - (held.map (gpusHeld total gpuType)).sum := by
  obtain ⟨enoughCpus,enoughMemory,_,typed,_⟩ := canSatisfy_iff.mp fits
  have readCpus : used.cpus = (held.map cpus).sum := counts.read .cpus
  have readMemory : used.memoryMb = (held.map memoryMb).sum := counts.read .memory
  refine ⟨by rwa [readCpus] at enoughCpus,by rwa [readMemory] at enoughMemory,fun gpuType named => ?_⟩
  have enough := typed gpuType
  rw [freeCount,if_neg named] at enough
  have exactly : ∀ dev ∈ used.devicesOf "gpu", dev.count % 2 ^ 32 = dev.count := by
    intro dev inside
    have part := single_le_sum (l := (used.devicesOf "gpu").map _) (fun _ _ => Nat.zero_le _)
      dev.count (mem_map_of_mem inside)
    rw [← counts.deviceTotal] at small
    exact Nat.mod_eq_of_lt (part.trans_lt small)
  rw [load_congr_weight exactly] at enough
  have loads := counts.load_eq "gpu" fun id => (total.findGpu id).elim false fun gpu => gpu.gpuType == gpuType
  change load (ofGpuType total gpuType) _ _ = _ at loads
  rw [loads] at enough
  exact enough

theorem canSatisfy_any {alloc : ResourceAllocations} (fits : total.canSatisfyWithAllocated alloc request)
    (single : ∀ gpu ∈ total.gpus, gpu.gpuType = gpuType) :
    request.gpus.countP (fun gpu => gpu.gpuType == "any") ≤
      total.gpus.countP (fun gpu => gpu.gpuType == gpuType) - alloc.totalDeviceCount "gpu" % 2 ^ 32 := by
  have all : total.gpus.countP _ = total.gpus.length :=
    countP_eq_length.mpr fun gpu inside => beq_iff_eq.mpr (single gpu inside)
  rw [all]
  exact (canSatisfy_iff.mp fits).2.2.2.1 "any"

end

end Spur.Sched
