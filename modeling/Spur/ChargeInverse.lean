import Spur.Charge
import Spur.Library.Run

/-! Charging and releasing as arithmetic, up to the order of device entries and empty lists. -/
namespace Spur.ResourceAllocations
open Spur.Library Spur.Library.Run List

/-- `aggregate_allocations`. -/
def aggregateAllocations (allocs : List ResourceAllocations) : ResourceAllocations :=
  allocs.foldl add {}

structure Tidy (alloc : ResourceAllocations) : Prop where
  distinct : alloc.Distinct
  positive : ∀ gresName, ∀ dev ∈ alloc.devicesOf gresName, 0 < dev.count

/-- Equal charges up to the order of device entries and empty lists. -/
def SameCharge (alloc other : ResourceAllocations) : Prop :=
  alloc.cpus = other.cpus ∧ alloc.memoryMb = other.memoryMb ∧
    ∀ gresName, (alloc.devicesOf gresName).Perm (other.devicesOf gresName)

def Same (alloc other : ResourceAllocations) : Prop :=
  alloc.SameCharge other ∧ alloc.generation = other.generation ∧ alloc.fabricBinding = other.fabricBinding ∧
    alloc.gpuBinding = other.gpuBinding

variable {entries : List AllocatedDevice} {dev : AllocatedDevice}

theorem mem_iff_countAt
    (distinct : (entries.map AllocatedDevice.deviceId).Nodup) (positive : ∀ entry ∈ entries, 0 < entry.count) :
    dev ∈ entries ↔ 0 < dev.count ∧ countAt entries dev.deviceId = dev.count := by
  induction entries with
  | nil =>
    simp only [not_mem_nil,false_iff,not_and]
    exact Nat.ne_of_lt
  | cons entry entries ih =>
    rw [map_cons,nodup_cons] at distinct
    rw [forall_mem_cons] at positive
    have head : countAt (entry :: entries) dev.deviceId =
        (if entry.deviceId = dev.deviceId then entry.count else 0) + countAt entries dev.deviceId := rfl
    rw [head,mem_cons,ih distinct.2 positive.2]
    by_cases same : entry.deviceId = dev.deviceId
    · rw [if_pos same,countAt_of_absent (same ▸ distinct.1)]
      cases dev
      cases entry
      grind
    · grind

variable {alloc other : ResourceAllocations}

theorem sameCharge_of_meters (tidy : alloc.Tidy) (also : other.Tidy)
    (meters : ∀ meter : Meter, meter.read alloc = meter.read other) : alloc.SameCharge other := by
  refine ⟨meters .cpus,meters .memory,fun gresName => ?_⟩
  rw [perm_ext_iff_of_nodup ((tidy.distinct gresName).of_map _) ((also.distinct gresName).of_map _)]
  intro dev
  have same : countAt (alloc.devicesOf gresName) _ = countAt (other.devicesOf gresName) _ :=
    meters (.device gresName dev.deviceId)
  rw [mem_iff_countAt (tidy.distinct gresName) (tidy.positive gresName),same,
    mem_iff_countAt (also.distinct gresName) (also.positive gresName)]

private theorem positive_addDevice (more : 0 < dev.count)
    (positive : ∀ entry ∈ entries, 0 < entry.count) : ∀ entry ∈ addDevice entries dev, 0 < entry.count := by
  induction entries with
  | nil => simpa [addDevice] using more
  | cons entry entries ih =>
    rw [forall_mem_cons] at positive
    unfold addDevice
    split
    · refine forall_mem_cons.mpr ⟨?_,positive.2⟩
      exact lt_min (Nat.add_pos_right _ more) (by decide)
    · exact forall_mem_cons.mpr ⟨positive.1,ih positive.2⟩

theorem Tidy.add (tidy : alloc.Tidy) (also : other.Tidy) : (alloc.add other).Tidy := by
  refine ⟨distinct_add tidy.distinct,fun gresName => ?_⟩
  rw [devicesOf_add]
  have positive := tidy.positive gresName
  have more := also.positive gresName
  generalize alloc.devicesOf gresName = entries,other.devicesOf gresName = devices at positive more ⊢
  induction devices generalizing entries with
  | nil => exact positive
  | cons dev devices ih =>
    rw [forall_mem_cons] at more
    exact ih _ (positive_addDevice more.1 positive) more.2

theorem Tidy.subtract (tidy : alloc.Tidy) : (alloc.subtract other).Tidy := by
  refine ⟨distinct_subtract tidy.distinct,fun gresName dev inside => ?_⟩
  rw [devicesOf_subtract] at inside
  split at inside
  · exact tidy.positive gresName dev inside
  · exact of_decide_eq_true (mem_filter.mp inside).2

/-- A way to bring allocations together, two sums at a time. -/
inductive Summing where
  | one (alloc : ResourceAllocations)
  | both (left right : Summing)

namespace Summing

def total : Summing → ResourceAllocations
  | one alloc => alloc
  | both left right => left.total.add right.total

def parts : Summing → List ResourceAllocations
  | one alloc => [alloc]
  | both left right => left.parts ++ right.parts

end Summing

def Unsaturated (allocs : List ResourceAllocations) : Prop :=
  ∀ meter : Meter, (allocs.map meter.read).sum ≤ meter.bound

theorem Summing.total_reads {sum : Summing} (tidy : ∀ alloc ∈ sum.parts, alloc.Tidy) (fits : Unsaturated sum.parts) :
    sum.total.Tidy ∧ ∀ meter : Meter, meter.read sum.total = (sum.parts.map meter.read).sum := by
  induction sum with
  | one alloc => exact ⟨tidy alloc mem_cons_self,fun _ => sum_singleton.symm⟩
  | both left right first second =>
    have split (meter : Meter) : ((left.parts ++ right.parts).map meter.read).sum =
        (left.parts.map meter.read).sum + (right.parts.map meter.read).sum := by
      rw [map_append,sum_append]
    obtain ⟨tidyLeft,readLeft⟩ := first (fun alloc listed => tidy alloc (mem_append_left _ listed)) fun meter =>
      (Nat.le_add_right _ _).trans ((split meter).symm.trans_le (fits meter))
    obtain ⟨tidyRight,readRight⟩ := second (fun alloc listed => tidy alloc (mem_append_right _ listed)) fun meter =>
      (Nat.le_add_left _ _).trans ((split meter).symm.trans_le (fits meter))
    have room : left.total.Fits right.total := by
      intro meter
      rw [readLeft,readRight,← split meter]
      exact fits meter
    refine ⟨tidyLeft.add tidyRight,fun meter => ?_⟩
    rw [Summing.total,read_add room,readLeft,readRight]
    exact (split meter).symm

theorem aggregate_reads {allocs : List ResourceAllocations} (tidy : ∀ alloc ∈ allocs, alloc.Tidy)
    (fits : Unsaturated allocs) : (aggregateAllocations allocs).Tidy ∧
      ∀ meter : Meter, meter.read (aggregateAllocations allocs) = (allocs.map meter.read).sum := by
  let sum := allocs.foldl (fun sum alloc => Summing.both sum (.one alloc)) (.one {})
  have total : sum.total = aggregateAllocations allocs := (foldl_hom Summing.total fun _ _ => rfl).symm
  have parts : sum.parts = {} :: allocs := by
    have each : allocs.foldl (fun parts alloc => parts ++ [alloc]) _ = sum.parts :=
      foldl_hom Summing.parts fun _ _ => rfl
    rw [← each,foldl_append_eq_append,← flatMap_def,flatMap_singleton']
    rfl
  have empty (meter : Meter) : meter.read {} = 0 := by
    cases meter <;> simp [Meter.read,devicesOf,countAt]
  have tidyEmpty : Tidy {} := by
    constructor <;> simp [Distinct,deviceIds,devicesOf]
  have whole := @Summing.total_reads sum
  rw [parts,total,forall_mem_cons] at whole
  simp only [Unsaturated,map_cons,sum_cons,empty,Nat.zero_add] at whole
  exact whole ⟨tidyEmpty,tidy⟩ fits

theorem charging_and_releasing_inverse :
    (∀ alloc other : ResourceAllocations, alloc.Tidy → other.Tidy → alloc.Fits other →
      ((alloc.add other).subtract other).Same alloc) ∧
    ∀ (sum : Summing) (allocs : List ResourceAllocations), sum.parts.Perm allocs → (∀ alloc ∈ allocs, alloc.Tidy) →
      Unsaturated allocs → sum.total.SameCharge (aggregateAllocations allocs) := by
  constructor
  · intro alloc other tidy also fits
    refine ⟨sameCharge_of_meters (tidy.add also).subtract tidy fun meter => ?_,rfl,rfl,rfl⟩
    rw [read_subtract (tidy.add also).distinct,read_add fits,Nat.add_sub_cancel]
  · intro sum allocs same tidy fits
    have sums (meter : Meter) := (same.map meter.read).sum_eq
    obtain ⟨whole,reads⟩ := Summing.total_reads (fun alloc listed => tidy alloc (same.subset listed)) fun meter =>
      (sums meter).trans_le (fits meter)
    obtain ⟨listed,readsListed⟩ := aggregate_reads tidy fits
    refine sameCharge_of_meters whole listed fun meter => ?_
    rw [reads,readsListed]
    exact sums meter

theorem charging_and_releasing_inverse_merged :
    let alloc (count : Nat) : ResourceAllocations := { cpus := 2, devices := .insert ∅ "gpu" [⟨3,count⟩] }
    (((alloc 1).add (alloc 2)).subtract (alloc 2)).Same (alloc 1) := by
  intro alloc
  have listed (count : Nat) (gresName : String) :
      (alloc count).devicesOf gresName = if "gpu" = gresName then [⟨3,count⟩] else [] := by
    unfold devicesOf
    rw [Table.find_insert]
    split <;> simp
  have tidy (count : Nat) (positive : 0 < count) : (alloc count).Tidy := by
    refine ⟨fun gresName => ?_,fun gresName => ?_⟩
    · rw [deviceIds,listed]
      split <;> simp
    · rw [listed]
      split <;> simp [positive]
  refine charging_and_releasing_inverse.1 _ _ (tidy 1 (by decide)) (tidy 2 (by decide)) fun meter => ?_
  cases meter with
  | cpus => decide
  | memory => decide
  | device gresName deviceId =>
    simp only [Meter.read,listed]
    split <;> simp [countAt,Meter.bound] <;> split <;> decide

section

/-- The books of one node: its charge and the allocations held on it. -/
structure Books where
  charge : ResourceAllocations := {}
  held : List ResourceAllocations := []

inductive Booking where
  | charge (alloc : ResourceAllocations)
  | release (alloc : ResourceAllocations)

def Books.book (books : Books) : Booking → Books
  | .charge alloc => ⟨books.charge.add alloc,alloc :: books.held⟩
  | .release alloc => ⟨books.charge.subtract alloc,books.held.erase alloc⟩

def Books.Accepts (books : Books) : Booking → Prop
  | .charge alloc => alloc.Tidy ∧ Unsaturated (alloc :: books.held)
  | .release alloc => alloc ∈ books.held

structure Books.Kept (books : Books) : Prop where
  tidy : books.charge.Tidy
  held : ∀ alloc ∈ books.held, alloc.Tidy
  fits : Unsaturated books.held
  reads : ∀ meter : Meter, meter.read books.charge = (books.held.map meter.read).sum

theorem Books.Kept.book {books : Books} (kept : books.Kept) {booking : Booking} (accepts : books.Accepts booking) :
    (books.book booking).Kept := by
  cases booking with
  | charge alloc =>
    have room : books.charge.Fits alloc := fun meter => by
      rw [kept.reads,Nat.add_comm]
      exact accepts.2 meter
    refine ⟨kept.tidy.add accepts.1,forall_mem_cons.mpr ⟨accepts.1,kept.held⟩,accepts.2,fun meter => ?_⟩
    change meter.read (books.charge.add alloc) = _
    rw [read_add room,kept.reads,Nat.add_comm]
    rfl
  | release alloc =>
    have sums (meter : Meter) : (books.held.map meter.read).sum =
        meter.read alloc + ((books.held.erase alloc).map meter.read).sum :=
      ((perm_cons_erase accepts).map meter.read).sum_eq
    refine ⟨kept.tidy.subtract,fun other listed => kept.held other (mem_of_mem_erase listed),fun meter => ?_,
      fun meter => ?_⟩
    · exact (Nat.le_add_left _ _).trans ((sums meter).symm.trans_le (kept.fits meter))
    · change meter.read (books.charge.subtract alloc) = _
      rw [read_subtract kept.tidy.distinct,kept.reads,sums,Nat.add_sub_cancel_left]
      rfl

/-- However charges and releases interleave, the charge they leave is the one recomputed from what is still held. -/
theorem charge_is_what_is_held (bookings : List Booking) (accepted : Along Books.book Books.Accepts {} bookings) :
    (bookings.foldl Books.book {}).charge.SameCharge (aggregateAllocations (bookings.foldl Books.book {}).held) := by
  have start : Books.Kept {} := by
    obtain ⟨tidy,reads⟩ := @aggregate_reads [] nofun fun _ => Nat.zero_le _
    exact ⟨tidy,nofun,fun _ => Nat.zero_le _,reads⟩
  have kept := invariant_run (fun _ _ kept accepts => kept.book accepts) start accepted
  obtain ⟨tidy,reads⟩ := aggregate_reads kept.held kept.fits
  exact sameCharge_of_meters kept.tidy tidy fun meter => (kept.reads meter).trans (reads meter).symm

theorem charge_is_what_is_held_released :
    ((({} : ResourceAllocations).add { cpus := 2 }).subtract { cpus := 2 }).SameCharge {} := by
  refine charge_is_what_is_held [.charge { cpus := 2 },.release { cpus := 2 }] ⟨⟨?_,fun meter => ?_⟩,?_,trivial⟩
  · constructor <;> simp [Distinct,deviceIds,devicesOf]
  · cases meter <;> simp [Meter.read,Meter.bound,devicesOf,countAt,u32Max]
  · exact mem_cons_self

end

end Spur.ResourceAllocations
