import Mathlib

/-! Marks over a list of keys, kept as a bitmap aligned with the keys by position. -/
namespace Spur.Library.Bitmap
open List

variable {K : Type} [DecidableEq K]

def marked (keys : List K) (bits : List Bool) (k : K) : Bool := (keys.idxOf? k).any fun i => bits.getD i false

def mark (keys : List K) (bit : Bool) (bits : List Bool) (k : K) : List Bool :=
  match keys.idxOf? k with
  | some i => bits.set i bit
  | none => bits

def takeFree : List K → List Bool → Nat → List K × List Bool
  | _ :: keys, true :: bits, n =>
    let (taken,rest) := takeFree keys bits n
    (taken,true :: rest)
  | key :: keys, false :: bits, n + 1 =>
    let (taken,rest) := takeFree keys bits n
    (key :: taken,true :: rest)
  | _, bits, _ => ([],bits)

section

variable (key k : K) (keys : List K) (first bit : Bool) (bits : List Bool)

@[simp] theorem marked_nil : marked [] bits k = false := rfl

theorem marked_cons : marked (key :: keys) (first :: bits) k = if key = k then first else marked keys bits k := by
  unfold marked
  rw [List.idxOf?_cons]
  by_cases same : key = k
  · simp [same]
  · simp only [beq_iff_eq,same]
    cases keys.idxOf? k <;> simp

@[simp] theorem mark_nil : mark [] bit bits k = bits := rfl

theorem mark_cons : mark (key :: keys) bit (first :: bits) k =
    if key = k then bit :: bits else first :: mark keys bit bits k := by
  unfold mark
  rw [List.idxOf?_cons]
  by_cases same : key = k
  · simp [same]
  · simp only [beq_iff_eq,same]
    cases keys.idxOf? k <;> simp

end

variable {keys : List K} {bits : List Bool}

@[simp] theorem length_mark (bit : Bool) (k : K) : (mark keys bit bits k).length = bits.length := by
  unfold mark
  split <;> simp

theorem marked_absent {k : K} (absent : k ∉ keys) : marked keys bits k = false := by
  unfold marked
  rw [List.idxOf?_eq_none_iff.mpr absent]
  rfl

theorem marked_mark (aligned : bits.length = keys.length) (bit : Bool) (k other : K) :
    marked keys (mark keys bit bits k) other = if other = k ∧ k ∈ keys then bit else marked keys bits other := by
  induction keys generalizing bits with
  | nil => simp
  | cons key keys ih =>
    cases bits with
    | nil => cases aligned
    | cons first bits =>
      have rest := @ih bits (Nat.succ.inj aligned)
      rw [mark_cons]
      by_cases same : key = k
      · subst same
        rw [if_pos rfl,marked_cons,marked_cons]
        by_cases here : other = key
        · simp [here]
        · simp [here,Ne.symm here]
      · rw [if_neg same,marked_cons,marked_cons,rest]
        by_cases here : key = other
        · subst here
          simp [same]
        · simp [here,Ne.symm same]

@[simp] theorem length_foldl_mark (bit : Bool) (ks : List K) :
    (ks.foldl (mark keys bit) bits).length = bits.length := by
  induction ks generalizing bits with
  | nil => rfl
  | cons k ks ih => rw [foldl_cons,ih,length_mark]

theorem marked_foldl_mark (aligned : bits.length = keys.length) (bit : Bool) (ks : List K) (other : K) :
    marked keys (ks.foldl (mark keys bit) bits) other =
      if other ∈ ks ∧ other ∈ keys then bit else marked keys bits other := by
  induction ks generalizing bits with
  | nil => simp
  | cons k ks ih =>
    rw [foldl_cons,ih (by rw [length_mark,aligned]),marked_mark aligned]
    by_cases same : other = k
    · subst same
      by_cases listed : other ∈ keys
      · by_cases later : other ∈ ks <;> simp [listed]
      · simp [listed]
    · simp [same]

theorem marked_set (aligned : bits.length = keys.length) (ks : List K) (k : K) :
    marked keys (ks.foldl (mark keys true) bits) k = true ↔ marked keys bits k = true ∨ k ∈ ks ∧ k ∈ keys := by
  rw [marked_foldl_mark aligned]
  split
  next both => exact iff_of_true rfl (.inr both)
  next neither => exact (or_iff_left neither).symm

theorem marked_clear (aligned : bits.length = keys.length) (ks : List K) (k : K) :
    marked keys (ks.foldl (mark keys false) bits) k = true ↔ marked keys bits k = true ∧ k ∉ ks := by
  rw [marked_foldl_mark aligned]
  split
  next both => exact iff_of_false (by decide) fun still => still.2 both.1
  rename_i neither
  refine ⟨fun marked => ⟨marked,fun inside => neither ⟨inside,?_⟩⟩,And.left⟩
  by_contra absent
  rw [marked_absent absent] at marked
  cases marked

theorem marked_replicate (keys : List K) (n : Nat) (k : K) : marked keys (List.replicate n false) k = false := by
  unfold marked
  cases keys.idxOf? k with
  | none => rfl
  | some i =>
    rw [Option.any_some,getD_eq_getElem?_getD,List.getElem?_replicate]
    split <;> rfl

theorem marked_map {f : K → K} (apart : Set.InjOn f {k | k ∈ keys}) {k : K} (member : k ∈ keys) :
    marked (keys.map f) bits (f k) = marked keys bits k := by
  induction keys generalizing bits with
  | nil => cases member
  | cons key keys ih =>
    cases bits with
    | nil =>
      unfold marked
      cases (List.map f _).idxOf? (f k) <;> cases (key :: keys).idxOf? k <;> simp
    | cons first bits =>
      rw [map_cons,marked_cons,marked_cons]
      by_cases same : key = k
      · rw [if_pos same,if_pos (by rw [same])]
      have further : k ∈ keys := (mem_cons.mp member).resolve_left (Ne.symm same)
      have different : f key ≠ f k := fun equal => same (apart mem_cons_self member equal)
      rw [if_neg same,if_neg different]
      exact ih (fun a inside b also => apart (mem_cons_of_mem key inside) (mem_cons_of_mem key also)) further

omit [DecidableEq K] in
theorem length_takeFree {n : Nat} : (takeFree keys bits n).2.length = bits.length := by
  fun_induction takeFree keys bits n with
  | case1 _ keys bits n taken rest equal ih => simpa [equal] using ih
  | case2 key keys bits n taken rest equal ih => simpa [equal] using ih
  | case3 => rfl

theorem takeFree_spec (aligned : bits.length = keys.length) (distinct : keys.Nodup) {n : Nat} :
    (∀ k ∈ (takeFree keys bits n).1, k ∈ keys ∧ marked keys bits k = false) ∧
      ∀ k, marked keys (takeFree keys bits n).2 k = (marked keys bits k || decide (k ∈ (takeFree keys bits n).1)) := by
  fun_induction takeFree keys bits n with
  | case1 key keys bits n taken rest equal ih =>
    obtain ⟨free,marks⟩ := ih (Nat.succ.inj aligned) distinct.of_cons
    rw [equal] at free marks
    refine ⟨fun k member => ?_,fun k => ?_⟩
    · have elsewhere : key ≠ k := fun same => distinct.notMem (same ▸ (free k member).1)
      rw [marked_cons,if_neg elsewhere]
      exact ⟨mem_cons_of_mem key (free k member).1,(free k member).2⟩
    · rw [marked_cons,marked_cons,marks]
      split
      · rfl
      · rfl
  | case2 key keys bits n taken rest equal ih =>
    obtain ⟨free,marks⟩ := ih (Nat.succ.inj aligned) distinct.of_cons
    rw [equal] at free marks
    refine ⟨fun k member => ?_,fun k => ?_⟩
    · rw [marked_cons]
      rcases mem_cons.mp member with rfl | later
      · exact ⟨mem_cons_self,if_pos rfl⟩
      · have elsewhere : key ≠ k := fun same => distinct.notMem (same ▸ (free k later).1)
        rw [if_neg elsewhere]
        exact ⟨mem_cons_of_mem key (free k later).1,(free k later).2⟩
    · rw [marked_cons,marked_cons,marks]
      split
      next same => simp [same]
      next different => simp [Ne.symm different]
  | case3 keys bits n _ _ => simp

end Spur.Library.Bitmap
