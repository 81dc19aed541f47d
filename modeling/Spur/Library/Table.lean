import Mathlib

/-! Finite tables with extensional equality, as the model of a hash map. -/
namespace Spur.Library
open Std List

/-- A finite map; two tables with the same lookups are equal. -/
abbrev Table (K V : Type) [Ord K] := ExtTreeMap K V compare

/-- A fold whose steps each change one key, all of them different, as long as the state stays `ok`:
every key is changed by its own step only. -/
theorem foldl_keyed {S B K V : Type} (ok : S → Prop) (key : B → K) (view : S → K → V) (f : S → B → S)
    (R : B → V → V → Prop) (back : ∀ s b, ok (f s b) → ok s)
    (frame : ∀ s b k, ok (f s b) → k ≠ key b → view (f s b) k = view s k)
    (own : ∀ s b, ok (f s b) → R b (view s (key b)) (view (f s b) (key b)))
    {bs : List B} (s : S) (fine : ok (bs.foldl f s)) :
    ok s ∧ (∀ k, k ∉ bs.map key → view (bs.foldl f s) k = view s k) ∧
      ((bs.map key).Nodup → ∀ b ∈ bs, R b (view s (key b)) (view (bs.foldl f s) (key b))) := by
  induction bs generalizing s with
  | nil => exact ⟨fine,fun _ _ => rfl,by simp⟩
  | cons b bs ih =>
    rw [foldl_cons] at fine ⊢
    obtain ⟨good,outside,inside⟩ := ih _ fine
    refine ⟨back s b good,fun k absent => ?_,fun distinct c listed => ?_⟩
    · rw [map_cons,mem_cons,not_or] at absent
      rw [outside k absent.2,frame s b k good absent.1]
    rw [map_cons,nodup_cons] at distinct
    rcases mem_cons.mp listed with rfl | later
    · rw [outside _ distinct.1]
      exact own s c good
    · have apart : key c ≠ key b := fun same => distinct.1 (same ▸ mem_map_of_mem later)
      rw [← frame s b _ good apart]
      exact inside distinct.2 c later

namespace Table

instance {A B : Type} [Ord A] [Ord B] : Ord (A × B) := lexOrd

instance {A B : Type} [Ord A] [Ord B] [TransOrd A] [TransOrd B] : TransOrd (A × B) :=
  inferInstanceAs (TransCmp (compareLex (compareOn Prod.fst) (compareOn Prod.snd)))

instance : TransOrd (Nat × Nat × Nat) := inferInstance

instance {A B : Type} [Ord A] [Ord B] [LawfulEqOrd A] [LawfulEqOrd B] : LawfulEqOrd (A × B) where
  compare_self := by
    intro pair
    change (compare pair.1 pair.1).then (compare pair.2 pair.2) = .eq
    simp
  eq_of_compare := by
    intro left right same
    change (compare left.1 right.1).then (compare left.2 right.2) = .eq at same
    rw [Ordering.then_eq_eq] at same
    exact Prod.ext (LawfulEqCmp.eq_of_compare same.1) (LawfulEqCmp.eq_of_compare same.2)

section

variable {K V W : Type} [Ord K] [TransOrd K]

theorem mem_iff_find {t : Table K V} {k : K} : k ∈ t ↔ ∃ v, t[k]? = some v := by
  rw [ExtTreeMap.mem_iff_isSome_getElem?,Option.isSome_iff_exists]

theorem nodup_keys_toList (t : Table K V) : (t.toList.map Prod.fst).Nodup := by
  rw [ExtTreeMap.map_fst_toList_eq_keys]
  exact ExtTreeMap.nodup_keys

variable [LawfulEqOrd K]

theorem find_insert [DecidableEq K] {t : Table K V} {k a : K} {v : V} :
    (t.insert k v)[a]? = if k = a then some v else t[a]? := by
  simp [ExtTreeMap.getElem?_insert]

theorem find_insert_ne {t : Table K V} {k a : K} {v : V} (different : k ≠ a) : (t.insert k v)[a]? = t[a]? := by
  simp [ExtTreeMap.getElem?_insert,different]

theorem find_erase [DecidableEq K] (t : Table K V) (k a : K) : (t.erase k)[a]? = if k = a then none else t[a]? := by
  simp [ExtTreeMap.getElem?_erase]

theorem find_modify [DecidableEq K] {t : Table K V} {k a : K} {f : V → V} :
    (t.modify k f)[a]? = if k = a then t[a]?.map f else t[a]? := by
  by_cases same : k = a
  · subst same; simp
  · simp [ExtTreeMap.getElem?_modify,same]

theorem find_map (t : Table K V) (f : K → V → W) (a : K) : (ExtTreeMap.map f t)[a]? = t[a]?.map (f a) :=
  ExtTreeMap.getElem?_map

theorem find_filter (t : Table K V) (p : K → V → Bool) (a : K) : (t.filter p)[a]? = t[a]?.filter (p a) := by
  simp [ExtTreeMap.getElem?_filter]

theorem ext {t u : Table K V} (same : ∀ k : K, t[k]? = u[k]?) : t = u :=
  ExtTreeMap.ext_getElem? same

theorem modify_of_find {t : Table K V} {k : K} {v : V} {f : V → V} (found : t[k]? = some v) :
    t.modify k f = t.insert k (f v) := by
  classical
  apply ext
  intro a
  rw [find_modify,find_insert]
  split
  next same =>
    subst same
    rw [found]
    rfl
  next => rfl

theorem modify_of_absent {t : Table K V} {k : K} {f : V → V} (absent : t[k]? = none) : t.modify k f = t := by
  classical
  apply ext
  intro a
  rw [find_modify]
  split
  next same =>
    subst same
    rw [absent]
    rfl
  next => rfl

theorem ofList_map_toList [DecidableEq K] (t : Table K V) (f : V → W) :
    (ExtTreeMap.ofList (t.toList.map fun entry => (entry.1,f entry.2)) compare : Table K W) =
      ExtTreeMap.map (fun _ v => f v) t := by
  have keys : (t.toList.map fun entry => (entry.1,f entry.2)).map Prod.fst = t.toList.map Prod.fst := by
    rw [map_map]
    rfl
  have distinct : (t.toList.map fun entry => (entry.1,f entry.2)).Pairwise
      fun a b => ¬compare a.1 b.1 = Ordering.eq := by
    have nodup := nodup_keys_toList t
    rw [← keys,List.Nodup,pairwise_map] at nodup
    exact nodup.imp fun different same => different (LawfulEqOrd.eq_of_compare same)
  apply ext
  intro k
  rw [find_map]
  cases found : t[k]? with
  | none =>
    refine ExtTreeMap.getElem?_ofList_of_contains_eq_false ?_
    rw [keys,ExtTreeMap.map_fst_toList_eq_keys,← Bool.not_eq_true,contains_iff_mem,ExtTreeMap.mem_keys,mem_iff_find]
    rintro ⟨v,stored⟩
    rw [found] at stored
    cases stored
  | some v =>
    refine ExtTreeMap.getElem?_ofList_of_mem (ReflOrd.compare_self) distinct (mem_map.mpr ⟨(k,v),?_,rfl⟩)
    exact ExtTreeMap.mem_toList_iff_getElem?_eq_some.mpr found

theorem find_foldl_modify [DecidableEq K] {f : K → V → V} (skip : K → Bool) {keys : List K} (distinct : keys.Nodup)
    {t : Table K V} {a : K} :
    (keys.foldl (fun t k => if skip k then t else t.modify k (f k)) t)[a]? =
      if a ∈ keys ∧ skip a = false then t[a]?.map (f a) else t[a]? := by
  obtain ⟨_,outside,inside⟩ := foldl_keyed _ id (fun (t : Table K V) k => t[k]?)
    (fun t k => if skip k then t else t.modify k (f k)) (fun k v w => w = if skip k = false then v.map (f k) else v)
    (fun _ _ _ => trivial) (fun s b k _ other => by
      split
      · rfl
      · exact find_modify.trans (if_neg (Ne.symm other)))
    (fun s b _ => by cases skipped : skip b <;> simp) t trivial
  rw [map_id] at outside inside
  by_cases listed : a ∈ keys
  · simpa [listed] using inside distinct a listed
  · rw [if_neg (fun both => listed both.1),outside a listed]

end

section

variable {K V W : Type} [Ord K] [TransOrd K] [LawfulEqOrd K]

/-- Visit `entries` in order, rewriting the slot of each key from its old content and the entry. -/
def mergeOver (f : Option V → W → Option V) (entries : List (K × W)) (t : Table K V) : Table K V :=
  entries.foldl (fun acc entry => acc.alter entry.1 fun old => f old entry.2) t

private theorem find_alter_ne {t : Table K V} {k a : K} {f : Option V → Option V} (different : k ≠ a) :
    (t.alter k f)[a]? = t[a]? := by
  simp [ExtTreeMap.getElem?_alter,different]

theorem find_mergeOver_absent (f : Option V → W → Option V) {entries : List (K × W)} (t : Table K V) {k : K}
    (absent : ∀ w, (k,w) ∉ entries) : (mergeOver f entries t)[k]? = t[k]? := by
  induction entries generalizing t with
  | nil => rfl
  | cons entry entries ih =>
    have different : entry.1 ≠ k := by
      rintro rfl
      exact absent _ mem_cons_self
    have rest := ih (t.alter entry.1 fun old => f old entry.2) fun w member =>
      absent w (mem_cons_of_mem _ member)
    exact rest.trans (find_alter_ne different)

theorem find_mergeOver_mem {f : Option V → W → Option V} {entries : List (K × W)} (t : Table K V) {k : K} {w : W}
    (distinct : (entries.map Prod.fst).Nodup) (member : (k,w) ∈ entries) :
    (mergeOver f entries t)[k]? = f t[k]? w := by
  induction entries generalizing t with
  | nil => cases member
  | cons entry entries ih =>
    rw [map_cons,nodup_cons] at distinct
    rcases mem_cons.mp member with same | later
    · subst same
      have rest := find_mergeOver_absent f (t.alter k fun old => f old w) fun w' inside =>
        distinct.1 (mem_map.mpr ⟨(k,w'),inside,rfl⟩)
      exact rest.trans (by simp)
    · have different : entry.1 ≠ k := by
        rintro rfl
        exact distinct.1 (mem_map.mpr ⟨(entry.1,w),later,rfl⟩)
      have rest := ih (t.alter entry.1 fun old => f old entry.2) distinct.2 later
      rw [find_alter_ne different] at rest
      exact rest

theorem find_mergeOver_perm {f : Option V → W → Option V} {t : Table K V} {u : Table K W} {entries : List (K × W)}
    (order : entries.Perm u.toList) (k : K) :
    (mergeOver f entries t)[k]? = match u[k]? with
      | none => t[k]?
      | some w => f t[k]? w := by
  have distinct : (entries.map _).Nodup :=
    (order.map _).nodup_iff.mpr (nodup_keys_toList u)
  cases found : u[k]? with
  | none =>
    refine find_mergeOver_absent f t fun w member => ?_
    have stored := ExtTreeMap.mem_toList_iff_getElem?_eq_some.mp (order.mem_iff.mp member)
    rw [found] at stored
    cases stored
  | some w =>
    exact find_mergeOver_mem t distinct (order.mem_iff.mpr (ExtTreeMap.mem_toList_iff_getElem?_eq_some.mpr found))

end

section

variable {K V W : Type} [Ord K] [TransOrd K]

def share (f : K → V → ℕ) (t : Table K V) (k : K) : ℕ := (t[k]?).elim 0 (f k)

theorem share_of_find {f : K → V → ℕ} {t : Table K V} {k : K} {v : V} (found : t[k]? = some v) :
    share f t k = f k v := by
  simp [share,found]

theorem share_of_absent {f : K → V → ℕ} {t : Table K V} {k : K} (absent : t[k]? = none) : share f t k = 0 := by
  simp [share,absent]

variable [DecidableEq K]

def total (f : K → V → ℕ) (t : Table K V) : ℕ := ∑ k ∈ t.keys.toFinset, share f t k

theorem total_eq_zero {f : K → V → ℕ} {t : Table K V} (nothing : ∀ k v, t[k]? = some v → f k v = 0) :
    total f t = 0 := by
  refine Finset.sum_eq_zero fun k _ => ?_
  cases found : t[k]? with
  | none => exact share_of_absent found
  | some v => rw [share_of_find found]; exact nothing k v found

variable [LawfulEqOrd K]

private theorem share_outside {f : K → V → ℕ} {t : Table K V} {k : K}
    (outside : k ∉ t.keys.toFinset) : share f t k = 0 := by
  apply share_of_absent
  rw [mem_toFinset,ExtTreeMap.mem_keys,mem_iff_find] at outside
  cases found : t[k]? with
  | none => rfl
  | some v => exact absurd ⟨v,found⟩ outside

private theorem total_over (f : K → V → ℕ) (t : Table K V) {s : Finset K}
    (covers : t.keys.toFinset ⊆ s) : total f t = ∑ k ∈ s, share f t k :=
  Finset.sum_subset covers fun _ _ outside => share_outside outside

theorem total_update {f : K → V → ℕ} {g : K → W → ℕ} {t : Table K V} {u : Table K W} (a : K)
    (elsewhere : ∀ k, k ≠ a → share g u k = share f t k) :
    total g u + share f t a = total f t + share g u a := by
  let s := insert a (t.keys.toFinset ∪ u.keys.toFinset)
  have left : total f t = ∑ k ∈ s, share f t k :=
    total_over f t fun k inside => Finset.mem_insert_of_mem (Finset.mem_union_left _ inside)
  have right : total g u = ∑ k ∈ s, share g u k :=
    total_over g u fun k inside => Finset.mem_insert_of_mem (Finset.mem_union_right _ inside)
  have member : a ∈ s := Finset.mem_insert_self _ _
  rw [left,right,← Finset.add_sum_erase s _ member,← Finset.add_sum_erase s _ member]
  have rest : ∑ k ∈ s.erase a, share g u k = ∑ k ∈ s.erase a, share f t k :=
    Finset.sum_congr rfl fun k inside => elsewhere k (Finset.ne_of_mem_erase inside)
  omega

theorem total_congr {f : K → V → ℕ} {g : K → W → ℕ} {t : Table K V} {u : Table K W}
    (same : ∀ k, share g u k = share f t k) : total g u = total f t := by
  let s := t.keys.toFinset ∪ u.keys.toFinset
  rw [total_over f t (s := s) Finset.subset_union_left,total_over g u (s := s) Finset.subset_union_right]
  exact Finset.sum_congr rfl fun k _ => same k

theorem total_map (f : K → W → ℕ) (g : K → V → W) (t : Table K V) :
    total f (ExtTreeMap.map g t) = total (fun k v => f k (g k v)) t := by
  refine total_congr fun k => ?_
  unfold share
  rw [find_map]
  cases t[k]? <;> rfl

theorem total_insert {f : K → V → ℕ} (t : Table K V) (k : K) (v : V) :
    total f (t.insert k v) + share f t k = total f t + f k v := by
  have moved := total_update (f := f) (g := f) (t := t) (u := t.insert k v) k (by
    intro a different
    simp [share,find_insert_ne (Ne.symm different)])
  rwa [share_of_find (f := f) (t := t.insert k v) (v := v) (by simp)] at moved

theorem sum_values (t : Table K ℕ) : (t.toList.map Prod.snd).sum = total (fun _ n => n) t := by
  unfold total
  rw [← ExtTreeMap.map_fst_toList_eq_keys,sum_toFinset _ (nodup_keys_toList t),map_map]
  refine congrArg _ (map_congr_left fun entry inside => ?_)
  exact (share_of_find (f := fun _ n => n) (ExtTreeMap.mem_toList_iff_getElem?_eq_some.mp inside)).symm

omit [DecidableEq K] in
theorem forall_entries_le {t : Table K ℕ} (f : K → ℕ) :
    (∀ entry ∈ t.toList, entry.2 ≤ f entry.1) ↔ ∀ k, (t[k]?).getD 0 ≤ f k := by
  constructor
  · intro each k
    cases found : t[k]? with
    | none => exact Nat.zero_le _
    | some n => exact each (k,n) (ExtTreeMap.mem_toList_iff_getElem?_eq_some.mpr found)
  · intro each entry inside
    have below := each entry.1
    rwa [ExtTreeMap.mem_toList_iff_getElem?_eq_some.mp inside] at below

theorem share_le_total (f : K → V → ℕ) (t : Table K V) (k : K) : share f t k ≤ total f t := by
  by_cases inside : k ∈ t.keys.toFinset
  · exact Finset.single_le_sum (f := share f t) (fun _ _ => Nat.zero_le _) inside
  · rw [share_outside inside]; exact Nat.zero_le _

end

end Table
end Spur.Library
