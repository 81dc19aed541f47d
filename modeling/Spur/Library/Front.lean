import Mathlib

/-! Lists that have some of their members in front of all the others. -/
namespace Spur.Library
open List

variable {α : Type} {p : α → Bool} {items : List α}

def Fronted (p : α → Bool) (items : List α) : Prop := items.Pairwise fun a b => p b → p a

theorem fronted_insertionSort {r : α → α → Prop} [DecidableRel r] [Std.Total r] [IsTrans α r]
    (respects : ∀ a b, r a b → p b → p a) {items : List α} : Fronted p (items.insertionSort r) :=
  (pairwise_insertionSort r items).imp fun {a b} => respects a b

theorem Fronted.getElem_iff (fronted : Fronted p items) {i : Nat} (inside : i < items.length) :
    p items[i] ↔ i < items.countP p := by
  induction items generalizing i with
  | nil => cases inside
  | cons first rest ih =>
    obtain ⟨before,later⟩ := pairwise_cons.mp fronted
    by_cases good : p first
    · rw [countP_cons_of_pos good]
      cases i with
      | zero => simpa using good
      | succ i =>
        rw [getElem_cons_succ,ih later _]
        exact Nat.succ_lt_succ_iff.symm
    · have others : ∀ x ∈ rest, ¬ p x := fun x listed holds => good (before x listed holds)
      rw [countP_cons_of_neg good,countP_eq_zero.mpr others]
      refine iff_of_false (fun holds => ?_) (Nat.not_lt_zero i)
      cases i with
      | zero => exact good holds
      | succ i => exact others _ (getElem_mem _) holds

theorem Fronted.mem_take (fronted : Fronted p items) {room : Nat} (few : items.countP p ≤ room) {x : α}
    (listed : x ∈ items) (holds : p x) : x ∈ items.take room := by
  obtain ⟨i,inside,rfl⟩ := getElem_of_mem listed
  have early := (fronted.getElem_iff inside).mp holds
  exact mem_take_iff_getElem.mpr ⟨i,lt_min (early.trans_le few) inside,rfl⟩

theorem Fronted.of_mem_take (fronted : Fronted p items) {room : Nat} (enough : room ≤ items.countP p) {x : α}
    (taken : x ∈ items.take room) : p x := by
  obtain ⟨i,early,rfl⟩ := mem_take_iff_getElem.mp taken
  have inside := early.trans_le (min_le_right _ _)
  exact (fronted.getElem_iff inside).mpr ((early.trans_le (min_le_left _ _)).trans_le enough)

end Spur.Library
