import Mathlib

/-! Loops that move a clock forward end within as many rounds as there are stops ahead. -/
namespace Spur.Library

variable {σ α T : Type}

/-- Run a step until it answers, for at most `fuel` rounds. -/
def advance (next : σ → σ ⊕ α) : Nat → σ → Option α
  | 0, _ => none
  | fuel + 1, state => match next state with
    | .inl later => advance next fuel later
    | .inr answer => some answer

variable {next : σ → σ ⊕ α}

theorem advance_answer (Inv : σ → Prop) (kept : ∀ state later, Inv state → next state = .inl later → Inv later)
    {fuel : Nat} {state : σ} {answer : α} (start : Inv state) (ends : advance next fuel state = some answer) :
    ∃ last, Inv last ∧ next last = .inr answer := by
  induction fuel generalizing state with
  | zero => cases ends
  | succ fuel ih =>
    unfold advance at ends
    split at ends
    next later moved => exact ih (kept state later start moved) ends
    next found answered =>
      cases ends
      exact ⟨state,start,answered⟩

theorem advance_first {fuel : Nat} {state : σ} {answer : α} (answered : next state = .inr answer) :
    advance next (fuel + 1) state = some answer := by
  rw [advance,answered]

theorem advance_simulates {τ : Type} {other : τ → τ ⊕ α} {R : σ → τ → Prop}
    (step : ∀ state copy, R state copy → Sum.LiftRel R Eq (next state) (other copy)) {state : σ} {copy : τ}
    (start : R state copy) {fuel : Nat} : advance next fuel state = advance other fuel copy := by
  induction fuel generalizing state copy with
  | zero => rfl
  | succ fuel ih =>
    unfold advance
    have both := step state copy start
    generalize next state = first, other copy = second at both ⊢
    cases both with
    | inl related => exact ih related
    | inr same => exact congrArg some same

section

variable [LinearOrder T]

/-- From `start` the rounds end within the fuel, and each round that goes on moves the clock forward. -/
structure EndsWithin (next : σ → σ ⊕ α) (clock : σ → T) (fuel : Nat) (start : σ) : Prop where
  ends : (advance next fuel start).isSome
  forward : ∀ state later, Relation.ReflTransGen (fun state later => next state = .inl later) start state →
    next state = .inl later → clock state < clock later

theorem EndsWithin.answer {clock : σ → T} {fuel : Nat} {start : σ} (within : EndsWithin next clock fuel start) {default : α} :
    advance next fuel start = some ((advance next fuel start).getD default) := by
  obtain ⟨answer,ends⟩ := Option.isSome_iff_exists.mp within.ends
  rw [ends,Option.getD_some]

variable (Inv : σ → Prop) (clock : σ → T) (stops : List T)

private theorem advance_isSome (moves : ∀ state later, Inv state → next state = .inl later →
      Inv later ∧ clock state < clock later ∧ clock later ∈ stops.toFinset)
    {fuel : Nat} {state : σ} (start : Inv state) (enough : (stops.toFinset.filter (clock state < ·)).card < fuel) :
    (advance next fuel state).isSome := by
  induction fuel generalizing state with
  | zero => omega
  | succ fuel ih =>
    unfold advance
    split
    next later moved =>
      obtain ⟨inv,ahead,stop⟩ := moves state later start moved
      refine ih inv (Nat.lt_of_lt_of_le (Finset.card_lt_card ?_) (Nat.le_of_lt_succ enough))
      -- The stop just reached is no longer ahead.
      refine Finset.ssubset_iff_of_subset (fun t inside => ?_) |>.mpr ⟨clock later,?_,?_⟩
      · obtain ⟨listed,beyond⟩ := Finset.mem_filter.mp inside
        exact Finset.mem_filter.mpr ⟨listed,ahead.trans beyond⟩
      · exact Finset.mem_filter.mpr ⟨stop,ahead⟩
      · exact fun inside => lt_irrefl _ (Finset.mem_filter.mp inside).2
    next => rfl

theorem endsWithin_of_stops (moves : ∀ state later, Inv state → next state = .inl later →
      Inv later ∧ clock state < clock later ∧ clock later ∈ stops.toFinset)
    {fuel : Nat} {start : σ} (inv : Inv start) (enough : stops.length < fuel) : EndsWithin next clock fuel start where
  ends :=
    have few := (Finset.card_filter_le _ _).trans stops.toFinset_card_le
    advance_isSome Inv clock stops moves inv (few.trans_lt enough)
  forward state later reached moved := by
    have kept : Inv state := by
      clear moved
      induction reached with
      | refl => exact inv
      | tail _ moved ih => exact (moves _ _ ih moved).1
    exact (moves state later kept moved).2.1

theorem advance_clock (moves : ∀ state later, Inv state → next state = .inl later →
      Inv later ∧ clock state < clock later ∧ clock later ∈ stops.toFinset)
    {fuel : Nat} {state : σ} {answer : α} (start : Inv state) (ends : advance next fuel state = some answer) :
    ∃ last, Inv last ∧ next last = .inr answer ∧
      (last = state ∨ (clock state < clock last ∧ clock last ∈ stops.toFinset)) := by
  refine (advance_answer (fun last => Inv last ∧ (last = state ∨ (clock state < clock last ∧ clock last ∈ stops.toFinset)))
    ?_ ⟨start,.inl rfl⟩ ends).imp fun last found => ⟨found.1.1,found.2,found.1.2⟩
  rintro current later ⟨inv,reached⟩ moved
  obtain ⟨kept,ahead,stop⟩ := moves current later inv moved
  refine ⟨kept,.inr ⟨?_,stop⟩⟩
  rcases reached with rfl | ⟨before,_⟩
  · exact ahead
  · exact before.trans ahead

end

end Spur.Library
