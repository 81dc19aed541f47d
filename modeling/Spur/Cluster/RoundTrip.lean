import Spur.LogCodec
import Spur.Cluster.Propose

/-! Which log entries survive their own encoding, and a replica that applies what it read. -/
namespace Spur.Cluster
open Spur Spur.Library Option

def KeepsClears : WalOperation → Prop
  | .partitionUpdate _ patch => patch.maxTimeMinutes ≠ some none ∧ patch.defaultTimeMinutes ≠ some none ∧
    patch.maxNodes ≠ some none ∧ patch.preemptExemptTime ≠ some none
  | _ => True

private theorem nested_iff {o : Option (Option Nat)} : o.join.map some = o ↔ o ≠ some none := by
  rcases o with _ | _ | n <;> simp

theorem readBack_patch_iff {patch : PartitionPatch} :
    patch.readBack = patch ↔ patch.maxTimeMinutes ≠ some none ∧ patch.defaultTimeMinutes ≠ some none ∧
      patch.maxNodes ≠ some none ∧ patch.preemptExemptTime ≠ some none := by
  rw [← nested_iff,← nested_iff,← nested_iff,← nested_iff]
  obtain ⟨nodes,selector,state,maxTime,defaultTime,maxNodes⟩ := patch
  simp [PartitionPatch.readBack]

theorem readBack_iff {op : WalOperation} : op.readBack = op ↔ KeepsClears op := by
  cases op with
  | partitionUpdate name patch =>
    rw [WalOperation.readBack,WalOperation.partitionUpdate.injEq]
    exact ⟨fun same => readBack_patch_iff.mp same.2,fun keeps => ⟨rfl,readBack_patch_iff.mpr keeps⟩⟩
  | _ => exact iff_of_true rfl trivial

def reread [Chrono] (log : List (Env × WalOperation)) : Option (List (Env × WalOperation)) :=
  log.mapM fun entry => (WalOperation.ofJson entry.2.toJson).map (entry.1,·)

theorem reread_eq [Chrono] (log : List (Env × WalOperation)) :
    reread log = some (log.map fun entry => (entry.1,entry.2.readBack)) := by
  unfold reread
  induction log with
  | nil => rfl
  | cons entry log ih =>
    rw [List.mapM_cons,ofJson_toJson,ih]
    rfl

/-- An entry reads back as itself exactly when it clears none of the four limits; where all entries of
a log do, applying the log read back reaches the state that applying the log in memory does. -/
theorem log_round_trip [Chrono] : (∀ op : WalOperation, WalOperation.ofJson op.toJson = some op ↔ KeepsClears op) ∧
      ∀ (config : Config) (s : State) (log : List (Env × WalOperation)), (∀ entry ∈ log, KeepsClears entry.2) →
        (reread log).map (run config s) = some (run config s log) := by
  constructor
  · intro op
    rw [ofJson_toJson,some_inj]
    exact readBack_iff
  · intro config s log keeps
    have same : (log.map fun entry => (entry.1,entry.2.readBack)) = log := by
      refine (List.map_congr_left fun entry member => ?_).trans (List.map_id log)
      exact Prod.ext rfl (readBack_iff.mpr (keeps entry member))
    rw [reread_eq,same,map_some]

@[reducible] def tallyChrono : Chrono where
  instant t := String.ofList (List.replicate (Equiv.intEquivNat t) 'x')
  readInstant s := some (Equiv.intEquivNat.symm s.length)
  instant_law := fun t => by simp
  duration d := [.num d]
  readDuration
    | [.num d] => some d
    | _ => none
  duration_law := fun _ => rfl

section

local instance : Chrono := tallyChrono

theorem log_round_trip_tally : KeepsClears (.jobResume 7 3) ∧
    WalOperation.ofJson (WalOperation.jobResume 7 3).toJson = some (.jobResume 7 3) :=
  ⟨trivial,((@log_round_trip _).1 _).mpr trivial⟩

def cappedState : State := { partitions := [{ name := "gpu", maxNodes := some 4 }] }

def liftCap : WalOperation := .partitionUpdate "gpu" { maxNodes := some none }

/-- The leader lifts the cap; a replica that reads the entry back keeps it. -/
theorem cleared_limit_lost :
    updatePartition (fun _ => none) cappedState "gpu" { clearMaxNodes := true } = some liftCap ∧
      WalOperation.ofJson liftCap.toJson ≠ some liftCap ∧
      (run {} cappedState [(.ordered 0,liftCap)]).partitions.map Partition.maxNodes = [none] ∧
      ((reread [(.ordered 0,liftCap)]).map fun log => (run {} cappedState log).partitions.map Partition.maxNodes) =
        some [some 4] := by
  refine ⟨rfl,fun same => ?_,rfl,?_⟩
  · rw [ofJson_toJson,some_inj,readBack_iff] at same
    exact same.2.2.1 rfl
  · rw [reread_eq]
    rfl

end

end Spur.Cluster
