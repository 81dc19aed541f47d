import Spur.Library.Table

/-! Tables related entry by entry, and folds whose outcome does not depend on the order of visits. -/
namespace Spur.Library

section

variable {S A B : Type} {inv : S → Prop} {f : S → A → S} {g : S → B → S}

theorem foldl_inv (kept : ∀ s a, inv s → inv (f s a)) {as : List A} {s : S} (holds : inv s) : inv (as.foldl f s) := by
  induction as generalizing s with
  | nil => exact holds
  | cons a as ih => exact ih (kept s a holds)

theorem foldl_step_comm (kept : ∀ s b, inv s → inv (g s b)) (comm : ∀ s a b, inv s → g (f s a) b = f (g s b) a)
    {a : A} {bs : List B} {s : S} (holds : inv s) : bs.foldl g (f s a) = f (bs.foldl g s) a := by
  induction bs generalizing s with
  | nil => rfl
  | cons b bs ih => rw [List.foldl_cons,comm s a b holds,ih (kept s b holds),List.foldl_cons]

theorem foldl_foldl_comm (keptF : ∀ s a, inv s → inv (f s a)) (keptG : ∀ s b, inv s → inv (g s b))
    (comm : ∀ s a b, inv s → g (f s a) b = f (g s b) a) {as : List A} {bs : List B} {s : S} (holds : inv s) :
    bs.foldl g (as.foldl f s) = as.foldl f (bs.foldl g s) := by
  induction as generalizing s with
  | nil => rfl
  | cons a as ih => rw [List.foldl_cons,List.foldl_cons,ih (keptF s a holds),foldl_step_comm keptG comm holds]

end

namespace Table
open Std

section

variable {K V W : Type} [Ord K] [TransOrd K]

def Related (R : V → W → Prop) (t : Table K V) (u : Table K W) : Prop := ∀ k : K, Option.Rel R t[k]? u[k]?

variable {R : V → W → Prop} {t : Table K V} {u : Table K W}

namespace Related

theorem both (related : Related R t u) {k : K} :
    (t[k]? = none ∧ u[k]? = none) ∨ ∃ v w, t[k]? = some v ∧ u[k]? = some w ∧ R v w := by
  have entry := related k
  generalize t[k]? = first at entry ⊢
  generalize u[k]? = second at entry ⊢
  cases entry with
  | none => exact .inl ⟨rfl,rfl⟩
  | some same => exact .inr ⟨_,_,rfl,rfl,same⟩

theorem comesFrom (related : Related R t u) {k : K} {w : W} (stored : u[k]? = some w) : ∃ v, t[k]? = some v ∧ R v w := by
  rcases related.both with ⟨_,absent⟩ | ⟨v,same,found,there,entry⟩
  · rw [absent] at stored
    cases stored
  · cases Option.some.inj (stored.symm.trans there)
    exact ⟨v,found,entry⟩

theorem refl {R : V → V → Prop} (same : ∀ v, R v v) {t : Table K V} : Related R t t := by
  intro k
  cases t[k]? with
  | none => exact .none
  | some v => exact .some (same v)

theorem trans {X : Type} {S : W → X → Prop} {T : V → X → Prop} {v : Table K X} (left : Related R t u)
    (right : Related S u v) (both : ∀ a b c, R a b → S b c → T a c) : Related T t v := by
  intro k
  have first := left k
  have second := right k
  generalize t[k]? = before at first ⊢
  generalize u[k]? = between at first second
  generalize v[k]? = after at second ⊢
  cases first with
  | none => cases second; exact .none
  | some one => cases second with | some two => exact .some (both _ _ _ one two)

variable [LawfulEqOrd K]

theorem map {V' W' : Type} {R' : V' → W' → Prop} {f : K → V → V'} {g : K → W → W'} (related : Related R t u)
    (kept : ∀ k v w, R v w → R' (f k v) (g k w)) : Related R' (ExtTreeMap.map f t) (ExtTreeMap.map g u) := by
  intro a
  rw [find_map,find_map]
  rcases related.both with ⟨missing,absent⟩ | ⟨v,w,found,stored,same⟩
  · rw [missing,absent]
    exact .none
  · rw [found,stored]
    exact .some (kept a v w same)

theorem filter {p : K → V → Bool} {q : K → W → Bool} (related : Related R t u)
    (same : ∀ k v w, R v w → p k v = q k w) : Related R (t.filter p) (u.filter q) := by
  intro a
  rw [find_filter,find_filter]
  rcases related.both with ⟨missing,absent⟩ | ⟨v,w,found,stored,entry⟩
  · rw [missing,absent]
    exact .none
  rw [found,stored,Option.filter_some,Option.filter_some,same a v w entry]
  split
  · exact .some entry
  · exact .none

theorem map_eq {X : Type} {f : V → X} {g : W → X} (related : Related R t u) (same : ∀ v w, R v w → f v = g w) :
    ExtTreeMap.map (fun _ v => f v) t = ExtTreeMap.map (fun _ w => g w) u := by
  apply ext
  intro a
  rw [find_map,find_map]
  rcases related.both with ⟨missing,absent⟩ | ⟨v,w,found,stored,entry⟩
  · rw [missing,absent]
    rfl
  · rw [found,stored]
    exact congrArg some (same v w entry)

variable [DecidableEq K]

theorem insert (related : Related R t u) (k : K) {v : V} {w : W} (same : R v w) :
    Related R (t.insert k v) (u.insert k w) := by
  intro a
  rw [find_insert,find_insert]
  split
  · exact .some same
  · exact related a

theorem insert_right {R : V → V → Prop} (same : ∀ v, R v v) {t : Table K V} {k : K} {v w : V} (found : t[k]? = some v)
    (changed : R v w) : Related R t (t.insert k w) := by
  intro other
  rw [Table.find_insert]
  split
  next equal =>
    rw [← equal,found]
    exact .some changed
  next => exact refl same other

theorem modify_right {R : V → V → Prop} {f : V → V} (same : ∀ v, R v v) (changed : ∀ v, R v (f v)) {t : Table K V}
    {k : K} : Related R t (t.modify k f) := by
  intro other
  rw [Table.find_modify]
  split
  · cases t[other]? with
    | none => exact .none
    | some v => exact .some (changed v)
  · exact refl same other

theorem map_right {R : V → W → Prop} {f : K → V → W} (changed : ∀ k v, R v (f k v)) {t : Table K V} :
    Related R t (ExtTreeMap.map f t) := by
  intro k
  rw [Table.find_map]
  cases t[k]? with
  | none => exact .none
  | some v => exact .some (changed k v)

theorem erase (related : Related R t u) {k : K} : Related R (t.erase k) (u.erase k) := by
  intro a
  rw [find_erase,find_erase]
  split
  · exact .none
  · exact related a

theorem modify {f : V → V} {g : W → W} (related : Related R t u) (k : K) (kept : ∀ v w, R v w → R (f v) (g w)) :
    Related R (t.modify k f) (u.modify k g) := by
  intro a
  rw [find_modify,find_modify]
  split
  · rcases related.both with ⟨missing,absent⟩ | ⟨v,w,found,stored,same⟩
    · rw [missing,absent]
      exact .none
    · rw [found,stored]
      exact .some (kept v w same)
  · exact related a

end Related
end

section

variable {K V E : Type} [Ord K] [TransOrd K]

def sweep (change : V → V) (act : V → E → E) (state : Table K V × E) (k : K) : Table K V × E :=
  (state.1.modify k change,(state.1[k]?).elim state.2 fun v => act v state.2)

variable {change : V → V} {act : V → E → E} {inv : E → Prop}

variable {state : Table K V × E}

theorem sweep_inv (kept : ∀ v e, inv e → inv (act v e)) (holds : inv state.2) {k : K} :
    inv (sweep change act state k).2 := by
  unfold sweep
  cases state.1[k]? with
  | none => exact holds
  | some v => exact kept v _ holds

variable [LawfulEqOrd K] [DecidableEq K]

theorem modify_comm {t : Table K V} {a b : K} {f g : V → V} (comm : ∀ v, a = b → t[a]? = some v → g (f v) = f (g v)) :
    (t.modify a f).modify b g = (t.modify b g).modify a f := by
  apply ext
  intro k
  rw [find_modify,find_modify,find_modify,find_modify]
  split_ifs with second first
  · cases found : t[k]? with
    | none => rfl
    | some v => exact congrArg some (comm v (first.trans second.symm) (first ▸ found))
  all_goals rfl

theorem sweep_comm (swap : ∀ v w e, inv e → act w (act v e) = act v (act w e)) (holds : inv state.2) (a b : K) :
    sweep change act (sweep change act state a) b = sweep change act (sweep change act state b) a := by
  by_cases same : a = b
  · rw [same]
  unfold sweep
  rw [modify_comm fun _ equal _ => absurd equal same,find_modify,find_modify,if_neg same,if_neg (Ne.symm same)]
  refine Prod.ext rfl ?_
  cases state.1[a]? with
  | none => rfl
  | some v =>
    cases state.1[b]? with
    | none => rfl
    | some w => exact swap v w _ holds

theorem foldl_sweep_perm (kept : ∀ v e, inv e → inv (act v e))
    (swap : ∀ v w e, inv e → act w (act v e) = act v (act w e)) {keys others : List K} (perm : keys.Perm others)
    (holds : inv state.2) :
    keys.foldl (sweep change act) state = others.foldl (sweep change act) state := by
  induction perm generalizing state with
  | nil => rfl
  | cons k _ ih => exact ih (sweep_inv kept holds)
  | swap a b rest => rw [List.foldl_cons,List.foldl_cons,List.foldl_cons,List.foldl_cons,sweep_comm swap holds]
  | trans _ _ first second => rw [first holds,second holds]

theorem foldl_sweep_related {V' E' : Type} {R : V → V' → Prop} {Q : E → E' → Prop} {change' : V' → V'}
    {act' : V' → E' → E'} (changed : ∀ v w, R v w → R (change v) (change' w))
    (acted : ∀ v w e d, R v w → Q e d → Q (act v e) (act' w d)) (keys : List K)
    {other : Table K V' × E'} (tables : Related R state.1 other.1) (accumulated : Q state.2 other.2) :
    Related R (keys.foldl (sweep change act) state).1 (keys.foldl (sweep change' act') other).1 ∧
      Q (keys.foldl (sweep change act) state).2 (keys.foldl (sweep change' act') other).2 := by
  induction keys generalizing state other with
  | nil => exact ⟨tables,accumulated⟩
  | cons k keys ih =>
    refine ih (tables.modify k changed) ?_
    unfold sweep
    rcases tables.both with ⟨missing,absent⟩ | ⟨v,w,found,stored,same⟩
    · rw [missing,absent]
      exact accumulated
    · rw [found,stored]
      exact acted v w _ _ same accumulated

end
end Table
end Spur.Library
