import Spur.Charge
import Spur.Cluster.Refinement

/-! The charge of every node is the sum of the slices of the live jobs held on it. -/
namespace Spur.Cluster
open Spur Spur.Library List Option Table Bool ResourceAllocations

def heldSlice (job : Job) (name : String) : Option ResourceAllocations :=
  if job.state.isFinalized = false ∧ job.isHeldOn name = true then job.perNodeAlloc[name]? else none

def heldCharge (meter : Meter) (name : String) (_ : JobId) (job : Job) : Nat :=
  (heldSlice job name).elim 0 fun slice => meter.read slice

def Conserved (jobs : Table JobId Job) (nodes : Table String Node) : Prop :=
  ∀ (name : String) (node : Node), nodes[name]? = some node →
    ∀ meter : Meter, meter.read node.allocResources = Table.total (heldCharge meter name) jobs

structure WellPlaced (job : Job) : Prop where
  distinct : job.allocatedNodes.Nodup
  funded : job.allocatedNodes ≠ [] → ∃ total, job.allocatedResources = some total
  sliced : ∀ name ∈ job.allocatedNodes, ∃ slice, job.perNodeAlloc[name]? = some slice
  reported : ∀ name, name ∈ job.nodeCompletions → name ∈ job.allocatedNodes
  waiting : job.state = .pending → job.nodeCompletions = ∅
  released : job.holdsAPlacement = false → job.nodeCompletions = ∅

structure Balanced (ledger : Ledger) : Prop where
  named : ∀ (name : String) (node : Node), ledger.nodes[name]? = some node → node.name = name
  distinct : ∀ (name : String) (node : Node), ledger.nodes[name]? = some node → node.allocResources.Distinct
  charged : Conserved ledger.jobs ledger.nodes
  placed : ∀ (jobId : JobId) (job : Job), ledger.jobs[jobId]? = some job → job.state.isFinalized = false → WellPlaced job
  settled : Settled ledger.jobs

variable {skip : List String} {state : JobState} {jobId : JobId}

section

variable {job next : Job} {name : String}

theorem heldSlice_finalized (past : job.state.isFinalized = true) : heldSlice job name = none := by
  simp [heldSlice,past]

theorem heldSlice_unplaced (nodes : job.allocatedNodes = []) : heldSlice job name = none := by
  simp [heldSlice,Job.isHeldOn,nodes]

theorem heldSlice_same (same : SamePlacement job next) (state : next.state.isFinalized = job.state.isFinalized) :
    heldSlice next name = heldSlice job name := by
  unfold heldSlice Job.isHeldOn
  rw [state,same.nodes,same.reports,same.slices]

theorem isHeldOn_iff : job.isHeldOn name = true ↔ name ∈ job.allocatedNodes ∧ name ∉ job.nodeCompletions := by
  unfold Job.isHeldOn
  rw [and_eq_true,not_eq_true',contains_iff_mem,Std.ExtTreeMap.mem_iff_contains,not_eq_true]

theorem WellPlaced.same (placed : WellPlaced job) (same : SamePlacement job next)
    (state : next.state = .pending → job.state = .pending) : WellPlaced next where
  distinct := same.nodes ▸ placed.distinct
  funded := by rw [same.nodes,same.resources]; exact placed.funded
  sliced := by rw [same.nodes,same.slices]; exact placed.sliced
  reported := by rw [same.nodes,same.reports]; exact placed.reported
  waiting := by rw [same.reports]; exact fun pending => placed.waiting (state pending)
  released := by
    have held : next.holdsAPlacement = job.holdsAPlacement := by
      unfold Job.holdsAPlacement Job.isHeldOn
      rw [same.nodes,same.reports]
    rw [same.reports,held]
    exact placed.released

theorem wellPlaced_unplaced (nodes : job.allocatedNodes = []) (reports : job.nodeCompletions = ∅) : WellPlaced job where
  distinct := by rw [nodes]; exact nodup_nil
  funded := fun placed => absurd nodes placed
  sliced := by rw [nodes]; exact fun name member => absurd member not_mem_nil
  reported := by rw [reports]; exact fun name member => absurd member Std.ExtTreeMap.not_mem_empty
  waiting := fun _ => reports
  released := fun _ => reports

theorem find_releaseJob (placed : WellPlaced job) (live : job.state.isFinalized = false) {nodes : Table String Node} (reports : ∀ name, name ∈ skip ↔ name ∈ job.nodeCompletions) (name : String) :
    (releaseJob job skip nodes)[name]? =
      (nodes[name]?).map fun node => (heldSlice job name).elim node node.release := by
  unfold releaseJob deallocateJobSlices
  by_cases unplaced : job.allocatedNodes = []
  · have nothing : heldSlice job name = none := heldSlice_unplaced unplaced
    rw [unplaced,nothing]
    cases job.allocatedResources <;> simp
  obtain ⟨total,funded⟩ := placed.funded unplaced
  rw [funded]
  rw [find_foldl_modify _ placed.distinct]
  by_cases held : job.isHeldOn name = true
  · have member := isHeldOn_iff.mp held
    obtain ⟨slice,found⟩ := placed.sliced name member.1
    have reads : heldSlice job name = some slice := by simp [heldSlice,live,held,found]
    have kept : skip.contains name = false := by
      rw [← not_eq_true,contains_iff_mem,reports]
      exact member.2
    rw [if_pos ⟨member.1,kept⟩,reads]
    simp [sliceOn,found]
  · have reads : heldSlice job name = none := by simp [heldSlice,held]
    rw [if_neg,reads]
    · simp
    · rintro ⟨member,kept⟩
      rw [← not_eq_true,contains_iff_mem,reports] at kept
      exact held (isHeldOn_iff.mpr ⟨member,kept⟩)

end

section

variable {ledger : Ledger} {nodes : Table String Node}

/-- A node follows one job: what the job's charge gains or loses there, the node's charge does. -/
structure Follows (nodes after : Table String Node) (job next : Job) : Prop where
  node : ∀ (name : String) (changed : Node), after[name]? = some changed →
    ∃ node : Node, nodes[name]? = some node ∧ changed.name = node.name ∧
      (node.allocResources.Distinct →
        changed.allocResources.Distinct ∧ ∀ (meter : Meter) (jobId : JobId),
          heldCharge meter name jobId job ≤ meter.read node.allocResources →
          meter.read changed.allocResources + heldCharge meter name jobId job =
            meter.read node.allocResources + heldCharge meter name jobId next)

variable {job next : Job}

theorem Balanced.follow (balanced : Balanced ledger)
    (found : ledger.jobs[jobId]? = some job) (follows : Follows ledger.nodes nodes job next)
    (placed : next.state.isFinalized = false → WellPlaced next)
    (settled : next.state ≠ .preempted ∧ next.state ≠ .requeued) :
    Balanced ⟨ledger.jobs.insert jobId next,nodes⟩ where
  named := by
    intro name changed stored
    obtain ⟨node,before,kept,_⟩ := follows.node name changed stored
    exact kept.trans (balanced.named name node before)
  distinct := by
    intro name changed stored
    obtain ⟨node,before,_,moved⟩ := follows.node name changed stored
    exact (moved (balanced.distinct name node before)).1
  charged := by
    intro name changed stored meter
    obtain ⟨node,before,_,moved⟩ := follows.node name changed stored
    have sums := balanced.charged name node before meter
    have part := share_le_total (heldCharge meter name) ledger.jobs jobId
    have total := total_insert (f := heldCharge meter name) ledger.jobs jobId next
    rw [share_of_find found] at part total
    have change := (moved (balanced.distinct name node before)).2 meter jobId (by omega)
    dsimp only
    omega
  placed := by
    intro other result stored live
    rw [find_insert] at stored
    split at stored
    · cases Option.some.inj stored
      exact placed live
    · exact balanced.placed other result stored live
  settled := by
    intro other result stored
    rw [find_insert] at stored
    split at stored
    · cases Option.some.inj stored
      exact settled
    · exact balanced.settled other result stored

theorem follows_same (same : ∀ name, heldSlice next name = heldSlice job name) : Follows nodes nodes job next := by
  constructor
  intro name changed stored
  refine ⟨changed,stored,rfl,fun distinct => ⟨distinct,fun meter jobId _ => ?_⟩⟩
  unfold heldCharge
  rw [same name]

theorem follows_released (placed : WellPlaced job) (live : job.state.isFinalized = false) (reports : ∀ name, name ∈ skip ↔ name ∈ job.nodeCompletions)
    (gone : ∀ name, heldSlice next name = none) : Follows nodes (releaseJob job skip nodes) job next := by
  constructor
  intro name changed stored
  rw [find_releaseJob placed live reports,map_eq_some_iff] at stored
  obtain ⟨node,before,rfl⟩ := stored
  unfold heldCharge
  rw [gone name]
  cases held : heldSlice job name with
  | none => exact ⟨node,before,rfl,fun distinct => ⟨distinct,fun _ _ _ => rfl⟩⟩
  | some slice =>
    refine ⟨node,before,rfl,fun distinct => ⟨distinct_subtract distinct,fun meter _ covered => ?_⟩⟩
    change meter.read (node.allocResources.subtract slice) + meter.read slice = meter.read _ + 0
    rw [read_subtract distinct]
    dsimp only [elim_some] at covered
    omega

theorem shift_live {source target : JobState} (shift : LiveShift source target) :
    source.isFinalized = false ∧ target.isFinalized = false ∧ target ≠ .pending := by
  cases shift <;> exact ⟨rfl,rfl,by decide⟩

theorem active_live (live : state.isActive = true ∨ state = .pending) : state.isFinalized = false := by
  rcases live with active | rfl
  · cases state <;> first | rfl | cases active
  · rfl

theorem terminal_finalized (terminal : state.isTerminal = true) : state.isFinalized = true := by
  simp [JobState.isFinalized,terminal]

theorem over_holds (past : Over job next) (name : String) : heldSlice next name = none := by
  cases past with
  | ended terminal => exact heldSlice_finalized (terminal_finalized terminal)
  | requeued _ _ cleared => exact heldSlice_unplaced cleared.nodes

theorem over_placed (past : Over job next) (live : next.state.isFinalized = false) : WellPlaced next := by
  cases past with
  | ended terminal => rw [terminal_finalized terminal] at live; cases live
  | requeued _ _ cleared => exact wellPlaced_unplaced cleared.nodes cleared.reports

variable {records : List JobFinalized}

theorem Move.balanced {release : Table String Node → Table String Node} (move : Move job next records release) (found : ledger.jobs[jobId]? = some job)
    (balanced : Balanced ledger) : Balanced ⟨ledger.jobs.insert jobId next,release ledger.nodes⟩ := by
  have placed := balanced.placed jobId job found
  have settled := move.settled (balanced.settled jobId job found)
  cases move with
  | annotate _ same state =>
    refine balanced.follow found (follows_same fun name => heldSlice_same same (by rw [state])) ?_ settled
    intro live
    rw [state] at live
    exact (placed live).same same fun pending => state ▸ pending
  | shift _ same shift =>
    obtain ⟨live,lives,moved⟩ := shift_live shift
    refine balanced.follow found (follows_same fun name => heldSlice_same same (lives.trans live.symm)) ?_ settled
    exact fun _ => (placed live).same same fun pending => absurd pending moved
  | finish _ live past _ =>
    have lives := active_live live
    refine balanced.follow found ?_ (over_placed past) settled
    exact follows_released (placed lives) lives (fun name => Std.ExtTreeMap.mem_keys) (over_holds past)
  | free _ pending stays nodes _ _ reports =>
    have live := active_live (Or.inr pending)
    have none := (placed live).waiting pending
    refine balanced.follow found ?_ ?_ settled
    · refine follows_released (placed live) live (fun name => ?_) fun name => heldSlice_unplaced nodes
      rw [none]
      simp
    · refine fun _ => wellPlaced_unplaced nodes ?_
      rcases reports with cleared | kept
      · exact cleared
      · rw [kept,none]
  | reopen _ past _ cleared =>
    refine balanced.follow found (follows_same fun name => ?_) ?_ settled
    · rw [heldSlice_finalized past,heldSlice_unplaced cleared.nodes]
    · exact fun _ => wellPlaced_unplaced cleared.nodes cleared.reports

theorem Balanced.sameCharges (balanced : Balanced ledger) (same : SameCharges ledger.nodes nodes) :
    Balanced ⟨ledger.jobs,nodes⟩ := by
  have kept (name : String) (node : Node) (stored : nodes[name]? = some node) :
      ∃ before : Node, ledger.nodes[name]? = some before ∧ before.name = node.name ∧
        before.allocResources = node.allocResources := by
    have equal := same name
    rw [stored,map_some,eq_comm,map_eq_some_iff] at equal
    obtain ⟨before,found,pair⟩ := equal
    exact ⟨before,found,congrArg Prod.fst pair,congrArg Prod.snd pair⟩
  refine ⟨?_,?_,?_,balanced.placed,balanced.settled⟩
  · intro name node stored
    obtain ⟨before,found,named,_⟩ := kept name node stored
    exact named ▸ balanced.named name before found
  · intro name node stored
    obtain ⟨before,found,_,charge⟩ := kept name node stored
    exact charge ▸ balanced.distinct name before found
  · intro name node stored
    obtain ⟨before,found,_,charge⟩ := kept name node stored
    exact charge ▸ balanced.charged name before found

theorem Balanced.sameShares (balanced : Balanced ledger) {jobs : Table JobId Job}
    (shares : ∀ (meter : Meter) (name : String) (jobId : JobId),
      Table.share (heldCharge meter name) jobs jobId = Table.share (heldCharge meter name) ledger.jobs jobId)
    (placed : ∀ (jobId : JobId) (job : Job), jobs[jobId]? = some job → job.state.isFinalized = false → WellPlaced job)
    (settled : Settled jobs) : Balanced ⟨jobs,ledger.nodes⟩ where
  named := balanced.named
  distinct := balanced.distinct
  charged := by
    intro name node stored meter
    rw [balanced.charged name node stored meter]
    exact (total_congr (shares meter name)).symm
  placed := placed
  settled := settled

theorem Act.balanced {before after : Ledger} (act : Act before records after)
    (balanced : Balanced before) : Balanced after := by
  have settled := act.settled balanced.settled
  cases act with
  | move found move => exact move.balanced found balanced
  | @annotateAll f quiet =>
    refine balanced.sameShares (fun meter name jobId => ?_) ?_ settled
    · unfold Table.share
      rw [find_map]
      cases before.jobs[jobId]? with
      | none => rfl
      | some job =>
        obtain ⟨_,same,state⟩ := quiet job
        simp only [map_some,elim_some,heldCharge]
        rw [heldSlice_same same (by rw [state])]
    · intro jobId result stored live
      rw [find_map,map_eq_some_iff] at stored
      obtain ⟨job,found,rfl⟩ := stored
      obtain ⟨_,same,state⟩ := quiet job
      rw [state] at live
      exact (balanced.placed jobId job found live).same same fun pending => state ▸ pending
  | @purge jobIds past =>
    refine balanced.sameShares (fun meter name jobId => ?_) ?_ settled
    · unfold Table.share
      rw [find_filter]
      cases found : before.jobs[jobId]? with
      | none => rfl
      | some job =>
        rw [filter_some]
        split
        · rfl
        rename_i dropped
        have member : jobId ∈ jobIds := by simpa using dropped
        simp only [elim_some,heldCharge]
        rw [heldSlice_finalized (past jobId member job found)]
        rfl
    · intro jobId job stored
      rw [find_filter,filter_eq_some_iff] at stored
      exact balanced.placed jobId job stored.1
  | nodes same => exact balanced.sameCharges same
  | remove name =>
    refine ⟨?_,?_,?_,balanced.placed,balanced.settled⟩ <;>
      (intro other node stored
       rw [find_erase] at stored
       split at stored
       · cases stored)
    · exact balanced.named other node stored
    · exact balanced.distinct other node stored
    · exact balanced.charged other node stored

theorem Acts.balanced {before after : Ledger} (acts : Acts before records after)
    (balanced : Balanced before) : Balanced after := by
  induction acts with
  | done => exact balanced
  | more act _ ih => exact ih (act.balanced balanced)

end

end Spur.Cluster
