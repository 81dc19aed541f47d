import Spur.Library.Bitmap
import Spur.Library.Table

/-! Owners that hold lists of keys, and a bitmap that marks exactly what is held or excluded. -/
namespace Spur.Library.Holdings
open Std List Option Table

variable {J H K : Type} [Ord J] [TransOrd J] (keysOf : H → List K)

def Held (owners : Table J H) (k : K) : Prop := ∃ (job : J) (held : H), owners[job]? = some held ∧ k ∈ keysOf held

def Apart (owners : Table J H) : Prop :=
  ∀ (a b : J) (left right : H), owners[a]? = some left → owners[b]? = some right → a ≠ b → (keysOf left).Disjoint (keysOf right)

variable {keysOf} {owners : Table J H}

theorem Apart.same_owner (apart : Apart keysOf owners) {a b : J} {left right : H} {k : K} (first : owners[a]? = some left)
    (second : owners[b]? = some right) (inside : k ∈ keysOf left) (also : k ∈ keysOf right) : a = b := by
  by_contra different
  exact apart a b left right first second different inside also

theorem not_held_empty {k : K} : ¬Held keysOf (∅ : Table J H) k := by
  rintro ⟨job,held,found,_⟩
  simp at found

theorem apart_empty : Apart keysOf (∅ : Table J H) := by
  intro a _ left _ found
  simp at found

variable [LawfulEqOrd J]

section

variable {L : Type} {change : H → H} {keysAfter : H → List L} {f : K → L}

theorem held_map (moved : ∀ held, keysAfter (change held) = (keysOf held).map f) {l : L} :
    Held keysAfter (owners.map fun _ => change) l ↔ ∃ k, Held keysOf owners k ∧ f k = l := by
  constructor
  · rintro ⟨job,held,found,inside⟩
    rw [find_map] at found
    obtain ⟨before,stored,rfl⟩ := map_eq_some_iff.mp found
    rw [moved] at inside
    obtain ⟨k,listed,same⟩ := List.mem_map.mp inside
    exact ⟨k,⟨job,before,stored,listed⟩,same⟩
  · rintro ⟨k,⟨job,held,found,inside⟩,same⟩
    refine ⟨job,change held,?_,?_⟩
    · rw [find_map,found]
      rfl
    · rw [moved]
      exact List.mem_map.mpr ⟨k,inside,same⟩

theorem Apart.map (apart : Apart keysOf owners) (moved : ∀ held, keysAfter (change held) = (keysOf held).map f)
    (injective : Set.InjOn f {k | Held keysOf owners k}) : Apart keysAfter (owners.map fun _ => change) := by
  intro a b left right first second different l inside also
  rw [find_map] at first second
  obtain ⟨one,foundOne,rfl⟩ := map_eq_some_iff.mp first
  obtain ⟨two,foundTwo,rfl⟩ := map_eq_some_iff.mp second
  rw [moved] at inside also
  obtain ⟨k,listed,rfl⟩ := List.mem_map.mp inside
  obtain ⟨m,too,same⟩ := List.mem_map.mp also
  cases injective ⟨b,two,foundTwo,too⟩ ⟨a,one,foundOne,listed⟩ same
  exact apart a b one two foundOne foundTwo different listed too

end

section

variable [DecidableEq J]

theorem Apart.erase (apart : Apart keysOf owners) {job : J} : Apart keysOf (owners.erase job) := by
  intro a b left right first second
  rw [find_erase] at first second
  split at first
  · cases first
  · split at second
    · cases second
    · exact apart a b left right first second

theorem held_erase {job : J} {k : K} :
    Held keysOf (owners.erase job) k ↔ ∃ (other : J) (held : H), other ≠ job ∧ owners[other]? = some held ∧ k ∈ keysOf held := by
  constructor
  · rintro ⟨other,held,found,inside⟩
    rw [find_erase] at found
    split at found
    · cases found
    next different => exact ⟨other,held,Ne.symm different,found,inside⟩
  · rintro ⟨other,held,different,found,inside⟩
    exact ⟨other,held,by rw [find_erase,if_neg (Ne.symm different)]; exact found,inside⟩

theorem Apart.held_erase (apart : Apart keysOf owners) {job : J} {held : H} (found : owners[job]? = some held) {k : K} :
    Held keysOf (owners.erase job) k ↔ Held keysOf owners k ∧ k ∉ keysOf held := by
  rw [Holdings.held_erase]
  constructor
  · rintro ⟨other,left,different,stored,inside⟩
    refine ⟨⟨other,left,stored,inside⟩,fun also => different ?_⟩
    exact apart.same_owner stored found inside also
  · rintro ⟨⟨other,left,stored,inside⟩,outside⟩
    refine ⟨other,left,?_,stored,inside⟩
    rintro rfl
    cases Option.some.inj (found.symm.trans stored)
    exact outside inside

theorem Apart.insert (apart : Apart keysOf owners) {job : J} {held : H}
    (fresh : ∀ k ∈ keysOf held, ¬Held keysOf owners k) : Apart keysOf (owners.insert job held) := by
  intro a b left right first second different k inside also
  rw [find_insert] at first second
  split at first
  · cases first
    split at second
    next one two => exact different (one.symm.trans two)
    · exact fresh k inside ⟨b,right,second,also⟩
  · split at second
    · cases second
      exact fresh k also ⟨a,left,first,inside⟩
    · exact apart a b left right first second different inside also

theorem held_insert {job : J} {held : H} (absent : owners[job]? = none) {k : K} :
    Held keysOf (owners.insert job held) k ↔ k ∈ keysOf held ∨ Held keysOf owners k := by
  constructor
  · rintro ⟨other,left,found,inside⟩
    rw [find_insert] at found
    split at found
    · cases found
      exact .inl inside
    · exact .inr ⟨other,left,found,inside⟩
  · rintro (inside | ⟨other,left,found,inside⟩)
    · exact ⟨job,held,by rw [find_insert,if_pos rfl],inside⟩
    · refine ⟨other,left,?_,inside⟩
      rw [find_insert_ne]
      · exact found
      · rintro rfl
        cases absent.symm.trans found

end

section

variable [DecidableEq K]

/-- The bitmap marks exactly the keys that are held or excluded, and no key has two holders. -/
structure Booked (keys : List K) (bits : List Bool) (excluded : Finset K) (keysOf : H → List K) (owners : Table J H) :
    Prop where
  distinct : keys.Nodup
  aligned : bits.length = keys.length
  apart : Apart keysOf owners
  marks : ∀ k, Bitmap.marked keys bits k = true ↔ Held keysOf owners k ∨ k ∈ excluded

namespace Booked

variable {keys : List K} {bits : List Bool} {excluded : Finset K}

omit [LawfulEqOrd J] in
theorem known (booked : Booked keys bits excluded keysOf owners) {k : K} (taken : Held keysOf owners k ∨ k ∈ excluded) :
    k ∈ keys := by
  by_contra absent
  have unmarked : Bitmap.marked keys bits k = false := Bitmap.marked_absent absent
  rw [(booked.marks k).mpr taken] at unmarked
  cases unmarked

omit [LawfulEqOrd J] in
theorem empty (distinct : keys.Nodup) : Booked keys (List.replicate keys.length false) ∅ keysOf (∅ : Table J H) := by
  refine ⟨distinct,length_replicate,apart_empty,fun k => ?_⟩
  rw [Bitmap.marked_replicate]
  refine iff_of_false (by decide) ?_
  rintro (held | inside)
  · exact not_held_empty held
  · cases inside

theorem erase [DecidableEq J] (booked : Booked keys bits excluded keysOf owners) {job : J} {held : H} (found : owners[job]? = some held) :
    Booked keys (((keysOf held).filter fun k => decide (k ∉ excluded)).foldl (Bitmap.mark keys false) bits) excluded
      keysOf (owners.erase job) := by
  refine ⟨booked.distinct,(Bitmap.length_foldl_mark ..).trans booked.aligned,booked.apart.erase,fun k => ?_⟩
  rw [Bitmap.marked_clear booked.aligned,booked.marks,booked.apart.held_erase found,mem_filter,decide_eq_true_eq]
  tauto

theorem insert [DecidableEq J] {after : List Bool} (booked : Booked keys bits excluded keysOf owners) {job : J} {held : H}
    (absent : owners[job]? = none) (fresh : ∀ k ∈ keysOf held, ¬Held keysOf owners k)
    (aligned : after.length = keys.length)
    (marks : ∀ k, Bitmap.marked keys after k = true ↔ Bitmap.marked keys bits k = true ∨ k ∈ keysOf held) :
    Booked keys after excluded keysOf (owners.insert job held) := by
  refine ⟨booked.distinct,aligned,booked.apart.insert fresh,fun k => ?_⟩
  rw [marks,booked.marks,held_insert absent]
  tauto

theorem map {change : H → H} {f : K → K} (booked : Booked keys bits ∅ keysOf owners)
    (moved : ∀ held, keysOf (change held) = (keysOf held).map f) (injective : Set.InjOn f {k | k ∈ keys}) :
    Booked (keys.map f) bits ∅ keysOf (owners.map fun _ => change) := by
  refine ⟨booked.distinct.map_on injective,?_,booked.apart.map moved ?_,fun l => ?_⟩
  · rw [length_map,booked.aligned]
  · exact fun a one b two same => injective (booked.known (.inl one)) (booked.known (.inl two)) same
  rw [held_map moved]
  constructor
  · intro marked
    have listed : l ∈ keys.map f := by
      by_contra absent
      rw [Bitmap.marked_absent absent] at marked
      cases marked
    obtain ⟨k,member,rfl⟩ := List.mem_map.mp listed
    rw [Bitmap.marked_map injective member,booked.marks] at marked
    exact .inl ⟨k,marked.resolve_right (Finset.notMem_empty k),rfl⟩
  · rintro (⟨k,held,rfl⟩ | inside)
    · rw [Bitmap.marked_map injective (booked.known (.inl held)),booked.marks]
      exact .inl held
    · cases inside

theorem rebuild {fresh : List K} (apart : Apart keysOf owners) (distinct : fresh.Nodup)
    (still : ∀ k, Held keysOf owners k → k ∈ fresh) :
    Booked fresh (owners.toList.foldl (fun bits entry => (keysOf entry.2).foldl (Bitmap.mark fresh true) bits)
      (List.replicate fresh.length false)) ∅ keysOf owners := by
  have flat : owners.toList.foldl (fun bits entry => (keysOf entry.2).foldl (Bitmap.mark fresh true) bits)
      (List.replicate fresh.length false) = (owners.toList.flatMap fun entry => keysOf entry.2).foldl
        (Bitmap.mark fresh true) (List.replicate fresh.length false) := by
    rw [foldl_flatMap]
  have aligned : (List.replicate _ false).length = fresh.length := length_replicate
  rw [flat]
  refine ⟨distinct,(Bitmap.length_foldl_mark ..).trans aligned,apart,fun k => ?_⟩
  have listed : k ∈ (owners.toList.flatMap fun entry => keysOf entry.2) ↔ Held keysOf owners k := by
    rw [mem_flatMap]
    constructor
    · rintro ⟨⟨job,held⟩,member,inside⟩
      exact ⟨job,held,ExtTreeMap.mem_toList_iff_getElem?_eq_some.mp member,inside⟩
    · rintro ⟨job,held,found,inside⟩
      exact ⟨(job,held),ExtTreeMap.mem_toList_iff_getElem?_eq_some.mpr found,inside⟩
  rw [Bitmap.marked_set aligned,Bitmap.marked_replicate,listed]
  constructor
  · rintro (unmarked | ⟨held,_⟩)
    · cases unmarked
    · exact .inl held
  · rintro (held | inside)
    · exact .inr ⟨held,still k held⟩
    · cases inside

omit [LawfulEqOrd J] in
theorem exclude (booked : Booked keys bits excluded keysOf owners) {k : K} (listed : k ∈ keys) :
    Booked keys (Bitmap.mark keys true bits k) (Insert.insert k excluded) keysOf owners := by
  refine ⟨booked.distinct,(Bitmap.length_mark ..).trans booked.aligned,booked.apart,fun other => ?_⟩
  rw [Bitmap.marked_mark booked.aligned,Finset.mem_insert]
  by_cases same : other = k
  · rw [if_pos ⟨same,listed⟩]
    exact iff_of_true rfl (.inr (.inl same))
  · rw [if_neg (fun both => same both.1),booked.marks]
    simp [same]

omit [LawfulEqOrd J] in
theorem readmit (booked : Booked keys bits excluded keysOf owners) {freed : List K} {idle : K → Bool}
    (idles : ∀ k, idle k = true ↔ ¬Held keysOf owners k) :
    Booked keys ((freed.filter idle).foldl (Bitmap.mark keys false) bits) (excluded \ freed.toFinset) keysOf owners := by
  refine ⟨booked.distinct,(Bitmap.length_foldl_mark ..).trans booked.aligned,booked.apart,fun k => ?_⟩
  rw [Bitmap.marked_clear booked.aligned,booked.marks,mem_filter,idles,Finset.mem_sdiff,List.mem_toFinset]
  tauto

end Booked

end

end Spur.Library.Holdings
