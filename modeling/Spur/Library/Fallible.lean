import Mathlib

/-! Computations that may fail, read backwards. -/
namespace Spur.Library.Fallible
open List Option

universe u

variable {ε α β : Type u}

theorem bind_ok {x : Except ε α} {f : α → Except ε β} {b : β} : (x >>= f) = .ok b ↔ ∃ a, x = .ok a ∧ f a = .ok b := by
  cases x with
  | error e =>
    constructor
    · intro h
      cases h
    · rintro ⟨a,h,-⟩
      cases h
  | ok a =>
    constructor
    · intro h
      exact ⟨a,rfl,h⟩
    · rintro ⟨_,h,result⟩
      cases h
      exact result

variable {items : List α}

theorem mapM_eq_some_iff {f : α → Option β} {results : List β} :
    items.mapM f = some results ↔ List.Forall₂ (fun a b => f a = some b) items results := by
  induction items generalizing results with
  | nil => simp [eq_comm]
  | cons first rest ih =>
    rw [mapM_cons]
    constructor
    · intro done
      obtain ⟨head,this,done⟩ := bind_eq_some_iff.mp done
      obtain ⟨tail,those,done⟩ := bind_eq_some_iff.mp done
      cases done
      exact .cons this (ih.mp those)
    · rintro (- | ⟨this,those⟩)
      exact bind_eq_some_iff.mpr ⟨_,this,bind_eq_some_iff.mpr ⟨_,ih.mpr those,rfl⟩⟩

theorem exists_related {R : α → β → Prop} {results : List β} (each : List.Forall₂ R items results)
    {b : β} (listed : b ∈ results) : ∃ a ∈ items, R a b := by
  induction each with
  | nil => cases listed
  | cons this _ ih =>
    rcases mem_cons.mp listed with rfl | later
    · exact ⟨_,mem_cons_self,this⟩
    · obtain ⟨a,inside,found⟩ := ih later
      exact ⟨a,mem_cons_of_mem _ inside,found⟩

theorem exists_of_mem_mapM {f : α → Option β} {results : List β} (done : items.mapM f = some results)
    {b : β} (listed : b ∈ results) : ∃ a ∈ items, f a = some b :=
  exists_related (mapM_eq_some_iff.mp done) listed

theorem exists_result_of_mapM {f : α → Option β} {results : List β} (done : items.mapM f = some results)
    {a : α} (listed : a ∈ items) : ∃ b ∈ results, f a = some b :=
  exists_related (mapM_eq_some_iff.mp done).flip listed

theorem mapM_isSome_iff {f : α → Option β} :
    (∃ results, items.mapM f = some results) ↔ ∀ a ∈ items, ∃ b, f a = some b := by
  constructor
  · rintro ⟨results,done⟩ a listed
    obtain ⟨b,-,found⟩ := exists_result_of_mapM done listed
    exact ⟨b,found⟩
  · intro each
    induction items with
    | nil => exact ⟨[],rfl⟩
    | cons first rest ih =>
      obtain ⟨b,this⟩ := each first mem_cons_self
      obtain ⟨results,those⟩ := ih fun a listed => each a (mem_cons_of_mem first listed)
      exact ⟨b :: results,mapM_eq_some_iff.mpr (.cons this (mapM_eq_some_iff.mp those))⟩

/-- Steps that append each item's output while there is room append all of it when there is room for all. -/
theorem foldlM_append_each {γ : Type u} {step : List γ → α → Except ε (List γ)} {room : Nat} {outs : List (List γ)}
    (each : List.Forall₂ (fun a out => ∀ acc : List γ, acc.length + out.length ≤ room → step acc a = .ok (acc ++ out))
      items outs) {acc : List γ} (fits : acc.length + outs.flatten.length ≤ room) :
    items.foldlM step acc = .ok (acc ++ outs.flatten) := by
  induction each generalizing acc with
  | nil =>
    rw [flatten_nil,append_nil]
    rfl
  | cons one _ ih =>
    rw [flatten_cons,length_append] at fits
    rw [foldlM_cons,one acc (by omega),flatten_cons,← append_assoc]
    refine ih ?_
    rw [length_append]
    omega

theorem foldlM_append {γ : Type u} {step : List γ → α → Except ε (List γ)} {out : α → List γ} {room : Nat}
    (one : ∀ a ∈ items, ∀ acc, acc.length + (out a).length ≤ room → step acc a = .ok (acc ++ out a))
    {acc : List γ} (fits : acc.length + (items.flatMap out).length ≤ room) :
    items.foldlM step acc = .ok (acc ++ items.flatMap out) :=
  foldlM_append_each (forall₂_map_right_iff.mpr (forall₂_same.mpr one)) fits

end Spur.Library.Fallible
