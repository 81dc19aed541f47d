import Spur.Cluster.Placement
import Spur.Cluster.Propose
import Spur.Library.Run

/-! Conservation of node charges along whole logs, and the race in which it fails. -/
namespace Spur.Cluster
open Spur Spur.Library Spur.Library.Run List

structure Unheld (s : State) : Prop where
  jobs : ∀ (jobId : JobId) (job : Job), s.jobs[jobId]? = some job →
    job.state.isFinalized = true ∨ job.allocatedNodes = [] ∧ job.nodeCompletions = ∅
  nodes : ∀ (name : String) (node : Node), s.nodes[name]? = some node →
    node.name = name ∧ node.allocResources.Distinct ∧ ∀ meter : Meter, meter.read node.allocResources = 0
  settled : Settled s.jobs

def Shaped (s : State) (op : WalOperation) : Prop :=
  Emitted op ∧ match op with
    | .jobStart entry => StartShape entry s.nodes
    | .jobNodeComplete entry => ∀ job : Job, s.jobs[entry.jobId]? = some job → reportAccepted entry job →
      entry.nodeName ∈ job.allocatedNodes
    | _ => True

/-- The entry meets the state its proposer relied on: a placement finds its job, and not finalized; a
submission and a registration replace nothing that holds nodes; renamed GPU ids stay apart. -/
def Unraced (s : State) : WalOperation → Prop
  | .jobStart entry => startRefused s entry = true ∨
    ∃ job : Job, s.jobs[entry.jobId]? = some job ∧ job.state.isFinalized = false
  | .jobSubmit jobId _ => ∀ job : Job, s.jobs[jobId]? = some job →
    job.state.isFinalized = true ∨ job.holdsAPlacement = false
  | .nodeRegister entry => ∀ (jobId : JobId) (job : Job), s.jobs[jobId]? = some job →
    job.state.isFinalized = true ∨ job.isHeldOn entry.name = false
  | .nodeUpdate entry => ∀ node : Node, s.nodes[entry.name]? = some node → RenamesApart node entry.resources
  | _ => True

theorem Unheld.balanced {s : State} (unheld : Unheld s) : Balanced s.ledger where
  named := fun name node stored => (unheld.nodes name node stored).1
  distinct := fun name node stored => (unheld.nodes name node stored).2.1
  charged := by
    intro name node stored meter
    rw [(unheld.nodes name node stored).2.2 meter,eq_comm]
    refine Table.total_eq_zero fun jobId job found => ?_
    have nothing : heldSlice job name = none := by
      rcases unheld.jobs jobId job found with past | ⟨unplaced,_⟩
      · exact heldSlice_finalized past
      · exact heldSlice_unplaced unplaced
    rw [heldCharge,nothing]
    rfl
  placed := by
    intro jobId job found live
    rcases unheld.jobs jobId job found with past | ⟨unplaced,reports⟩
    · rw [live] at past; cases past
    · exact wellPlaced_unplaced unplaced reports
  settled := unheld.settled

theorem step_balanced {config : Config} (s : State) {entry : Env × WalOperation} (balanced : Balanced s.ledger)
    (shaped : Shaped s entry.2) (unraced : Unraced s entry.2) : Balanced (step config s entry).ledger := by
  obtain ⟨env,op⟩ := entry
  by_cases plain : ordinary op = true
  · exact (applyOperation_acts plain shaped.1 balanced.settled).acts.balanced balanced
  cases op with
  | jobSubmit jobId spec => exact jobSubmit_balanced balanced unraced
  | jobStart start => exact jobStart_balanced balanced shaped.2 unraced
  | jobNodeComplete report => exact jobNodeComplete_balanced balanced shaped.2
  | nodeRegister registration => exact nodeRegister_balanced balanced unraced
  | nodeUpdate update => exact nodeUpdate_balanced balanced unraced
  | _ => exact absurd rfl plain

/-- In every log whose entries are shaped as proposed and lose no race, after every prefix each
registered node is charged exactly the slices of the live jobs held on it. -/
theorem charges_conserved (config : Config) (s : State) (unheld : Unheld s) (log : List (Env × WalOperation))
    (shaped : Along (step config) (fun s entry => Shaped s entry.2) s log)
    (unraced : Along (step config) (fun s entry => Unraced s entry.2) s log) (length : Nat) :
    Conserved (run config s (log.take length)).jobs (run config s (log.take length)).nodes := by
  have both := (shaped.and unraced).take length
  exact (invariant_run (fun s entry balanced ok => step_balanced s balanced ok.1 ok.2) unheld.balanced both).charged

section

def raceSlice : ResourceAllocations := { cpus := 4, memoryMb := 1024 }

def racePlacement : Placement where
  nodeNames := ["n1"]
  resources := raceSlice
  perNodeAlloc := (∅ : Table String ResourceAllocations).insert "n1" raceSlice

def raceOpening : List (Env × WalOperation) :=
  [(.ordered 0,.jobSubmit 1 {}),
    (.ordered 0,.nodeRegister { name := "n1", resources := { cpus := 8, memoryMb := 4096 }, address := "n1" })]

def raceStart : Wal.JobStart :=
  { jobId := 1, nodes := ["n1"], resources := raceSlice, perNodeAlloc := racePlacement.perNodeAlloc, runAttempt := 1 }

def raceCancel : WalOperation := jobCancelled 1 ⟨"System","",none⟩

def raceReserved : List (Env × WalOperation) :=
  raceOpening ++ [(.ordered 2,(WalOperation.jobStart raceStart).stampOccurredAt 2)]

def raceLost : List (Env × WalOperation) :=
  raceOpening ++ [(.ordered 1,raceCancel.stampOccurredAt 1),
    (.ordered 2,(WalOperation.jobStart raceStart).stampOccurredAt 2)]

theorem fresh_unheld {config : Config} : Unheld (.fresh config) where
  jobs := fun _ _ found => by cases found
  nodes := fun _ _ found => by cases found
  settled := fun _ _ found => by cases found

theorem StartShape.of_free {entry : Wal.JobStart} {nodes : Table String Node} {name : String} {slice : ResourceAllocations}
    (only : entry.nodes = [name]) (given : entry.perNodeAlloc[name]? = some slice)
    (free : (nodes[name]?).map Node.allocResources = some {}) (small : ResourceAllocations.Fits {} slice) :
    StartShape entry nodes where
  distinct := only ▸ nodup_singleton name
  sliced other member := by
    rw [only] at member
    cases mem_singleton.mp member
    exact ⟨slice,given⟩
  fits other member node part found cut := by
    rw [only] at member
    cases mem_singleton.mp member
    cases Option.some.inj (given.symm.trans cut)
    rw [found] at free
    rw [Option.some.inj free]
    exact small

private theorem raceSlice_fits : ResourceAllocations.Fits {} raceSlice := by
  rintro (_ | _ | _)
  · decide
  · decide
  · exact Nat.zero_le u64Max

theorem charges_conserved_reserved :
    Unheld (.fresh {}) ∧ Along (step {}) (fun s entry => Shaped s entry.2) (.fresh {}) raceReserved ∧
      Along (step {}) (fun s entry => Unraced s entry.2) (.fresh {}) raceReserved ∧
      Conserved (run {} (.fresh {}) (raceReserved.take 3)).jobs (run {} (.fresh {}) (raceReserved.take 3)).nodes := by
  have shaped : Along (step {}) (fun s entry => Shaped s entry.2) (.fresh {}) raceReserved :=
    ⟨⟨trivial,trivial⟩,⟨trivial,trivial⟩,⟨trivial,StartShape.of_free rfl (by decide +kernel) (by decide +kernel) raceSlice_fits⟩,trivial⟩
  have unraced : Along (step {}) (fun s entry => Unraced s entry.2) (.fresh {}) raceReserved := by
    refine ⟨fun job found => (by cases found),fun jobId job found => ?_,Or.inr ?_,trivial⟩
    · change (Std.ExtTreeMap.insert ∅ 1 _)[jobId]? = some job at found
      rw [Table.find_insert] at found
      split at found
      · cases Option.some.inj found
        exact Or.inr rfl
      · cases found
    · exact ⟨_,rfl,rfl⟩
  exact ⟨fresh_unheld,shaped,unraced,charges_conserved {} _ fresh_unheld _ shaped unraced 3⟩

/-- The cancel of a waiting job commits between the read of a placement and its apply: the job is
finalized, and the placement still charges the node. -/
theorem cancelled_job_keeps_charge :
    Unheld (.fresh {}) ∧ Along (step {}) (fun s entry => Shaped s entry.2) (.fresh {}) raceLost ∧
      cancelJobFor 1 (run {} (.fresh {}) raceOpening) 1 ⟨"",none,true⟩ true = some raceCancel ∧
      reservePlacement (run {} (.fresh {}) raceOpening) (fun _ _ => true) 1 racePlacement = some (.jobStart raceStart) ∧
      ¬Conserved (run {} (.fresh {}) raceLost).jobs (run {} (.fresh {}) raceLost).nodes := by
  refine ⟨fresh_unheld,?_,rfl,rfl,fun conserved => ?_⟩
  · exact ⟨⟨trivial,trivial⟩,⟨trivial,trivial⟩,⟨rfl,trivial⟩,⟨trivial,StartShape.of_free rfl (by decide +kernel) (by decide +kernel) raceSlice_fits⟩,trivial⟩
  have charged : ((run {} (.fresh {}) raceLost).nodes["n1"]?).map (fun node => node.allocResources.cpus) = some 4 := by
    decide +kernel
  obtain ⟨node,stored,cpus⟩ := Option.map_eq_some_iff.mp charged
  have equal := conserved "n1" node stored .cpus
  change node.allocResources.cpus = 0 at equal
  omega

end

end Spur.Cluster
