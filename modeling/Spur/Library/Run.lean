import Mathlib

/-! Runs of a deterministic machine over a list of inputs. -/
namespace Spur.Library.Run

universe u v

variable {S : Type u} {A : Type v} (step : S → A → S) (ok : S → A → Prop)

def Along : S → List A → Prop
  | _, [] => True
  | s, a :: as => ok s a ∧ Along (step s a) as

variable {step ok}

theorem Along.take {s : S} {as : List A} (along : Along step ok s as) (n : Nat) : Along step ok s (as.take n) := by
  induction as generalizing s n with
  | nil => rw [List.take_nil]; exact along
  | cons a as ih =>
    cases n with
    | zero => exact True.intro
    | succ n => exact ⟨along.1,ih along.2 n⟩

theorem Along.append {s : S} {as bs : List A} :
    Along step ok s (as ++ bs) ↔ Along step ok s as ∧ Along step ok (as.foldl step s) bs := by
  induction as generalizing s with
  | nil => exact ⟨fun along => ⟨True.intro,along⟩,And.right⟩
  | cons a as ih =>
    change ok s a ∧ Along step ok (step s a) (as ++ bs) ↔ (ok s a ∧ Along step ok (step s a) as) ∧ _
    rw [ih,and_assoc]
    rfl

theorem Along.and {also : S → A → Prop} {s : S} {as : List A} (along : Along step ok s as)
    (too : Along step also s as) : Along step (fun s a => ok s a ∧ also s a) s as := by
  induction as generalizing s with
  | nil => exact True.intro
  | cons a as ih => exact ⟨⟨along.1,too.1⟩,ih along.2 too.2⟩

theorem invariant_run {inv : S → Prop} (kept : ∀ s a, inv s → ok s a → inv (step s a)) {s : S} {as : List A}
    (start : inv s) (along : Along step ok s as) : inv (as.foldl step s) := by
  induction as generalizing s with
  | nil => exact start
  | cons a as ih => exact ih (kept s a start along.1) along.2

theorem along_of_invariant {inv : S → Prop} {holds : S → A → Prop} (kept : ∀ s a, inv s → ok s a → inv (step s a))
    (gives : ∀ s a, inv s → ok s a → holds s a) {s : S} {as : List A} (start : inv s) (along : Along step ok s as) :
    Along step holds s as := by
  induction as generalizing s with
  | nil => exact True.intro
  | cons a as ih => exact ⟨gives s a start along.1,ih (kept s a start along.1) along.2⟩

end Spur.Library.Run
