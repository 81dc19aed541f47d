import Spur.EndReason
import Spur.Wal

/-! The replicated state of the controller, what an apply answers, and the local clock and map order it reads. -/
namespace Spur.Cluster
open Spur Spur.Library

structure Config where
  firstJobId : JobId := 1
  maxBatchRequeue : Nat := 5
  nodes : List NodeConfig := []
  partitions : List Partition := []

structure State where
  jobs : Table JobId Job := ∅
  nodes : Table String Node := ∅
  partitions : List Partition := []
  deletedPartitionNames : Finset String := ∅
  configSeededPartitions : Finset String := ∅
  reservations : List Reservation := []
  steps : Table (JobId × StepId) JobStep := ∅
  nextStepId : Table JobId StepId := ∅
  nextJobId : JobId := 1
  tokens : Table String AdmissionToken := ∅
  k0s : K0sClusterState := {}
  preemptFreedNodes : Table String (Table JobId Nat) := ∅

/-- A controller before any log entry is applied: its partitions come from the configuration. -/
def State.fresh (config : Config) : State where
  partitions := config.partitions
  configSeededPartitions := (config.partitions.map Partition.name).toFinset
  nextJobId := config.firstJobId

structure ClientResponse where
  jobsFinalized : List JobFinalized := []
  reservationCreated : Bool := false
  partitionCreated : Bool := false
  jobStarted : Bool := false
  stateChangeApplied : Bool := false
  excludeApplied : Bool := false
  preemptSignalApplied : Bool := false
  suspendApplied : Bool := false
  preemptApplied : Bool := false
  timeLimitApplied : Bool := false
  deriving DecidableEq

/-- One replica's surroundings during one apply. -/
structure Env where
  now : Time
  visit : {α : Type} → List α → List α
  visit_perm : ∀ {α : Type} (entries : List α), (visit entries).Perm entries

def Env.ordered (now : Time) : Env where
  now := now
  visit := id
  visit_perm := fun _ => .refl _

end Spur.Cluster
