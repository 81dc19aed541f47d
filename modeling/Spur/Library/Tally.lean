import Mathlib

/-! Admission under a cap: members are admitted one by one, each adding its weight to what was there. -/
namespace Spur.Library
open List

variable {α : Type}

def load (scope : α → Bool) (weight : α → Nat) (members : List α) : Nat := ((members.filter scope).map weight).sum

section

variable (scope : α → Bool) (weight : α → Nat)

@[simp] theorem load_nil : load scope weight [] = 0 := rfl

theorem load_cons (x : α) (members : List α) :
    load scope weight (x :: members) = (if scope x then weight x else 0) + load scope weight members := by
  unfold load
  rw [filter_cons]
  split
  · rw [map_cons,sum_cons]
  · rw [Nat.zero_add]

theorem load_le_sum {scope : α → Bool} {weight : α → Nat} {members : List α} :
    load scope weight members ≤ (members.map weight).sum :=
  (filter_sublist.map _).sum_le_sum fun _ _ => Nat.zero_le _

theorem load_append (members others : List α) :
    load scope weight (members ++ others) = load scope weight members + load scope weight others := by
  unfold load
  rw [filter_append,map_append,sum_append]

theorem load_add_load_not (members : List α) :
    load scope weight members + load (fun x => !scope x) weight members = (members.map weight).sum := by
  induction members with
  | nil => rfl
  | cons x members ih =>
    rw [load_cons,load_cons,map_cons]
    cases scope x <;> simp <;> omega

variable {scope weight}

theorem load_perm {members others : List α} (same : members.Perm others) :
    load scope weight members = load scope weight others :=
  ((same.filter scope).map weight).sum_eq

theorem load_le_of_sublist {members others : List α} (sub : members.Sublist others) :
    load scope weight members ≤ load scope weight others :=
  ((sub.filter scope).map weight).sum_le_sum fun _ _ => Nat.zero_le _

theorem load_le_of_subperm {members others : List α} (sub : members.Subperm others) :
    load scope weight members ≤ load scope weight others := by
  obtain ⟨same,perm,sublist⟩ := sub
  rw [← load_perm perm]
  exact load_le_of_sublist sublist

end

structure Cap (α : Type) where
  scope : α → Bool
  weight : α → Nat
  base : Nat
  limit : Nat

namespace Cap

variable (cap : Cap α)

def Holds (members : List α) : Prop :=
  cap.base + load cap.scope cap.weight members ≤ max cap.limit cap.base

def Admits (members : List α) (x : α) : Prop :=
  cap.scope x → cap.base + load cap.scope cap.weight members + cap.weight x ≤ cap.limit

variable {cap}

theorem holds_nil : cap.Holds [] := by
  exact Nat.le_max_right _ _

theorem Holds.cons {members : List α} {x : α} (holds : cap.Holds members) (admits : cap.Admits members x) :
    cap.Holds (x :: members) := by
  unfold Holds at holds ⊢
  rw [load_cons]
  split
  next inside =>
    have room := admits inside
    omega
  next => omega

theorem Holds.subperm {members others : List α} (holds : cap.Holds members) (sub : others.Subperm members) :
    cap.Holds others := by
  have fewer := @load_le_of_subperm _ cap.scope cap.weight _ _ sub
  unfold Holds at holds ⊢
  omega

end Cap
end Spur.Library
