import Spur.Library.Table

/-! A bounded record whose entries are kept until an instant of their own. -/
namespace Spur.Library.Retention
open Std Spur.Library

section

variable {K V : Type} [Ord K] [TransOrd K] [LawfulEqOrd K] (keptUntil : V → Nat)

def evictExpired (record : Table K V) (now : Nat) : Table K V := record.filter fun _ v => now < keptUntil v

def evictEarliest (record : Table K V) : Table K V :=
  match record.toList.argmin fun entry => keptUntil entry.2 with
  | some victim => record.erase victim.1
  | none => record

def put (capacity : Nat) (record : Table K V) (key : K) (v : V) : Table K V :=
  (if record.size ≥ capacity && !record.contains key then evictEarliest keptUntil record else record).insert key v

theorem find_evictExpired {record : Table K V} {now : Nat} {key : K} :
    (evictExpired keptUntil record now)[key]? = record[key]?.filter fun v => now < keptUntil v := by
  unfold evictExpired
  rw [ExtTreeMap.getElem?_filter']

def Room (capacity : Nat) (record : Table K V) (key : K) : Prop := key ∈ record ∨ record.size < capacity

theorem find_put [DecidableEq K] {capacity : Nat} {record : Table K V} {key : K} (room : Room capacity record key) {v : V} {other : K} :
    (put keptUntil capacity record key v)[other]? = if key = other then some v else record[other]? := by
  have kept : ¬(record.size ≥ capacity && !record.contains key) = true := by
    rcases room with present | small
    · simp [ExtTreeMap.mem_iff_contains.mp present]
    · simp [Nat.not_le.mpr small]
  unfold put
  rw [if_neg kept,Table.find_insert]

theorem find_of_put [DecidableEq K] {capacity : Nat} {record : Table K V} {key other : K} {v w : V}
    (found : (put keptUntil capacity record key v)[other]? = some w) :
    key = other ∧ v = w ∨ record[other]? = some w := by
  unfold put at found
  rw [Table.find_insert] at found
  split at found
  · next same => exact .inl ⟨same,Option.some.inj found⟩
  split at found
  · unfold evictEarliest at found
    split at found
    · rw [Table.find_erase] at found
      split at found
      · cases found
      · exact .inr found
    · exact .inr found
  · exact .inr found

end

end Spur.Library.Retention
