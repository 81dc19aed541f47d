import Spur.Cluster.Balance

/-! The five entries that are not moves of the job life alone keep the node charges balanced under stated conditions. -/
namespace Spur.Cluster
open Spur Spur.Library List Option Table ResourceAllocations

section

variable {env : Env} {timestamp : Time} {job : Job}

private theorem active_cases {state : JobState} (active : state.isActive = true) :
    (state = .running ∨ state = .suspended) ∨ state = .completing := by
  cases state <;> simp_all [JobState.isActive]

structure Going (job next : Job) : Prop where
  continues : Continues job next
  same : SamePlacement job next
  state : next.state = job.state ∨ LiveShift job.state next.state

theorem routeThroughCompleting_drains {now at_ : Time} (active : job.state.isActive = true) :
    (job.routeThroughCompleting now at_).state = .completing ∧ Going job (job.routeThroughCompleting now at_) ∧
      Ticks at_ (some job) (some (job.routeThroughCompleting now at_)) [] ∧
      (stintOf (job.routeThroughCompleting now at_)).elapsed at_ = (stintOf job).elapsed at_ ∧
      ∀ clock, Carries job clock → (job.routeThroughCompleting now at_).suspendedAt = none := by
  unfold Job.routeThroughCompleting
  rcases active_cases active with live | completing
  · rw [if_pos live]
    have valid : job.state.validTransition .completing = true := by
      rcases live with running | suspended
      · rw [running]; rfl
      · rw [suspended]; rfl
    obtain ⟨next,moved⟩ := transition_valid valid
    obtain ⟨-,rfl⟩ := transition_eq moved
    have shift : LiveShift job.state .completing := by
      rcases live with running | suspended
      · rw [running]; exact .drain
      · rw [suspended]; exact .drainSuspended
    rw [moved]
    exact ⟨rfl,⟨⟨rfl,le_refl _⟩,⟨rfl,rfl,rfl,rfl⟩,Or.inr shift⟩,.close live (.inl rfl) rfl,
      Stint.elapsed_close at_ (stintOf job),fun _ _ => rfl⟩
  · rw [if_neg (by rw [completing]; decide)]
    refine ⟨completing,⟨.refl job,.refl,Or.inl rfl⟩,.refl,rfl,fun clock carries => ?_⟩
    obtain ⟨runs,opens⟩ := carries.run active
    change (stintOf job).since = none
    rw [runs]
    exact not_isSome_iff_eq_none.mp fun given => absurd (opens.mp given) (by rw [completing]; decide)

theorem going_live {next : Job} (going : Going job next) (active : job.state.isActive = true) :
    next.state.isFinalized = false ∧ next.state ≠ .pending ∧ next.state ≠ .preempted ∧ next.state ≠ .requeued := by
  have live : next.state.isActive = true := by
    rcases going.state with same | shift
    · rw [same]; exact active
    · generalize next.state = target at shift
      generalize job.state = source at shift
      cases shift <;> rfl
  generalize next.state = state at live
  cases state <;> first | exact ⟨rfl,by decide⟩ | cases live

theorem advanceAfterNodeReport_move {env : Env} {timestamp : Time} {grace : Option PreemptPending} (active : job.state.isActive = true)
    (warned : grace.isSome = true → job.state = .running) :
    (job.allNodesCompleted = false ∧ ∃ next, job.advanceAfterNodeReport env grace timestamp = (next,none) ∧
        Going job next ∧ Ticks timestamp (some job) (some next) []) ∨
      (job.allNodesCompleted = true ∧ ∃ next record,
        job.advanceAfterNodeReport env grace timestamp = (next,some record) ∧ Over job next ∧
        Continues job next ∧ record.jobId = job.jobId ∧ Ticks timestamp (some job) (some next) [record.actualSecs]) := by
  have settles (marked : Job) (quiet : Quiet job marked) :
      ∃ next record, (marked.routeThroughCompleting env.now timestamp).finalizeReportedRun env timestamp =
          (next,some record) ∧ Over job next ∧ Continues job next ∧ record.jobId = job.jobId ∧
        Ticks timestamp (some job) (some next) [record.actualSecs] := by
    have going : marked.state.isActive = true := by rw [quiet.level.state]; exact active
    obtain ⟨completing,⟨continues,same,_⟩,-,elapsed,closed⟩ := routeThroughCompleting_drains going
    obtain ⟨next,record,computed,terminal,nodes,resources,slices,reports,later,names,since,secs⟩ :=
      @finalize_completing env _ timestamp completing
    have whole := quiet.same.trans same
    refine ⟨next,record,computed,.ended terminal (nodes.trans whole.nodes) (resources.trans whole.resources)
      (slices.trans whole.slices) reports,quiet.continues.trans (continues.trans later),
      names.trans (continues.jobId.trans quiet.continues.jobId),.after quiet.level (.rest (idle_of_terminal terminal)
        (fun clock carries => since.trans (closed clock carries)) fun _ reported member => ?_)⟩
    rw [mem_singleton.mp member,secs]
    exact elapsed
  unfold Job.advanceAfterNodeReport
  dsimp only
  cases all : job.allNodesCompleted with
  | false =>
    refine Or.inl ⟨rfl,?_⟩
    split
    · obtain ⟨-,going,clock,-⟩ := routeThroughCompleting_drains active
      exact ⟨_,rfl,going,clock⟩
    · exact ⟨job,rfl,⟨.refl job,.refl,Or.inl rfl⟩,.refl⟩
  | true =>
    refine Or.inr ⟨rfl,?_⟩
    split
    · exact settles job .refl
    rename_i pending given
    have running := warned (by
      rw [filter_eq_some_iff] at given
      rw [given.1]
      rfl)
    simp only [Bool.not_true,Bool.false_eq_true,if_false]
    split
    · obtain ⟨next,record,computed,back,cleared,continues,names,clock⟩ := repend_running _ timestamp running
      exact ⟨next,record,computed,.requeued active back cleared,continues,names,clock⟩
    · exact settles _ adoptGraceProvenance_quiet

theorem allNodesCompleted_iff (distinct : job.allocatedNodes.Nodup)
    (reported : ∀ name, name ∈ job.nodeCompletions → name ∈ job.allocatedNodes) :
    job.allNodesCompleted = true ↔ job.allocatedNodes ≠ [] ∧ job.holdsAPlacement = false := by
  have keys : job.nodeCompletions.keys ⊆ job.allocatedNodes := fun name member =>
    reported name (Std.ExtTreeMap.mem_keys.mp member)
  have covers := subperm_of_subset Std.ExtTreeMap.nodup_keys keys
  have held : job.holdsAPlacement = false ↔ job.allocatedNodes ⊆ job.nodeCompletions.keys := by
    unfold Job.holdsAPlacement
    rw [List.any_eq_false]
    constructor
    · intro none name member
      rw [Std.ExtTreeMap.mem_keys]
      by_contra unreported
      exact none name member (isHeldOn_iff.mpr ⟨member,unreported⟩)
    · intro all name member holds
      exact (isHeldOn_iff.mp holds).2 (Std.ExtTreeMap.mem_keys.mp (all member))
  unfold Job.allNodesCompleted
  rw [held,Bool.and_eq_true,beq_iff_eq,Bool.not_eq_true',isEmpty_eq_false_iff,← Std.ExtTreeMap.length_keys]
  refine and_congr_right fun _ => ⟨fun equal => ?_,fun all => ?_⟩
  · exact (covers.perm_of_length_le equal.ge).symm.subset
  · exact (covers.antisymm (subperm_of_subset distinct all)).length_eq

end

variable {job : Job}

variable {entry : Wal.JobNodeComplete} {alloc : ResourceAllocations} {meter : Meter}

section

variable {env : Env} {timestamp : Time} {s : State}

theorem heldSlice_idle (idle : job.state.isFinalized = true ∨ job.holdsAPlacement = false) {name : String} :
    heldSlice job name = none := by
  rcases idle with past | unheld
  · exact heldSlice_finalized past
  unfold heldSlice
  rw [if_neg]
  rintro ⟨_,held⟩
  rw [Job.holdsAPlacement,List.any_eq_false] at unheld
  exact unheld name (isHeldOn_iff.mp held).1 held

theorem Follows.congr {nodes after : Table String Node} {job next other : Job} (follows : Follows nodes after job next)
    (same : ∀ name, heldSlice other name = heldSlice next name) : Follows nodes after job other := by
  constructor
  intro name changed stored
  obtain ⟨node,before,named,moved⟩ := follows.node name changed stored
  refine ⟨node,before,named,fun distinct => ⟨(moved distinct).1,fun meter jobId covered => ?_⟩⟩
  have balance := (moved distinct).2 meter jobId covered
  unfold heldCharge at balance ⊢
  rw [same name]
  exact balance

theorem jobSubmit_balanced {jobId : JobId} {spec : JobSpec} (balanced : Balanced s.ledger)
    (idle : ∀ job : Job, s.jobs[jobId]? = some job → job.state.isFinalized = true ∨ job.holdsAPlacement = false) :
    Balanced (applyJobSubmit env s jobId spec).1.ledger := by
  refine balanced.sameShares (fun meter name other => ?_) ?_ ?_
  · dsimp only [applyJobSubmit,State.ledger]
    unfold Table.share
    rw [find_insert]
    split
    next same =>
      subst same
      cases found : s.jobs[jobId]? with
      | none => rfl
      | some job =>
        simp only [elim_some,heldCharge]
        rw [heldSlice_idle (idle job found)]
        rfl
    next => rfl
  · intro other job stored live
    dsimp only [applyJobSubmit] at stored
    rw [find_insert] at stored
    split at stored
    · cases Option.some.inj stored
      exact wellPlaced_unplaced rfl rfl
    · exact balanced.placed other job stored live
  · intro other job stored
    dsimp only [applyJobSubmit] at stored
    rw [find_insert] at stored
    split at stored
    · cases Option.some.inj stored
      change JobState.pending ≠ .preempted ∧ JobState.pending ≠ .requeued
      decide
    · exact balanced.settled other job stored

/-- A placement the controller may propose: distinct nodes, a slice for each, and room for it on the
node's meters. -/
structure StartShape (entry : Wal.JobStart) (nodes : Table String Node) : Prop where
  distinct : entry.nodes.Nodup
  sliced : ∀ name ∈ entry.nodes, ∃ slice, entry.perNodeAlloc[name]? = some slice
  fits : ∀ name ∈ entry.nodes, ∀ (node : Node) (slice : ResourceAllocations), nodes[name]? = some node →
    entry.perNodeAlloc[name]? = some slice → node.allocResources.Fits slice

theorem follows_started {nodes : Table String Node} {entry : Wal.JobStart} (shape : StartShape entry nodes)
    (live : job.state.isFinalized = false) (unheld : job.holdsAPlacement = false) (reports : job.nodeCompletions = ∅) :
    Follows nodes (allocateJobSlices entry nodes) job (startedJob entry job) := by
  constructor
  intro name changed stored
  have charges : (allocateJobSlices entry nodes)[name]? = _ := find_foldl_modify (fun _ => false) shape.distinct
  rw [charges] at stored
  have before : heldSlice job name = none := heldSlice_idle (Or.inr unheld)
  unfold heldCharge
  rw [before]
  by_cases member : name ∈ entry.nodes
  · obtain ⟨slice,given⟩ := shape.sliced name member
    have after : heldSlice (startedJob entry job) name = some slice := by
      have held : (startedJob entry job).isHeldOn name = true := by
        rw [isHeldOn_iff]
        refine ⟨member,?_⟩
        change name ∉ job.nodeCompletions
        rw [reports]
        exact Std.ExtTreeMap.not_mem_empty
      unfold heldSlice
      rw [if_pos ⟨live,held⟩]
      exact given
    rw [if_pos ⟨member,rfl⟩,map_eq_some_iff] at stored
    obtain ⟨node,found,rfl⟩ := stored
    have read : sliceOn entry.perNodeAlloc entry.resources (max entry.nodes.length 1) name = slice := by
      unfold sliceOn
      rw [given]
      rfl
    refine ⟨node,found,rfl,fun distinct => ⟨distinct_add distinct,fun meter _ _ => ?_⟩⟩
    rw [after,read]
    exact read_add (shape.fits name member node slice found given)
  · have after : heldSlice (startedJob entry job) name = none := by
      unfold heldSlice
      rw [if_neg]
      exact fun held => member (isHeldOn_iff.mp held.2).1
    rw [if_neg (fun both => member both.1)] at stored
    rw [after]
    exact ⟨changed,stored,rfl,fun distinct => ⟨distinct,fun _ _ _ => rfl⟩⟩

def startRefused (s : State) (entry : Wal.JobStart) : Bool :=
  (s.jobs[entry.jobId]?).any fun job => job.holdsAPlacement || (excludedNode job entry.nodes).isSome

theorem jobStart_balanced {entry : Wal.JobStart} (balanced : Balanced s.ledger) (shape : StartShape entry s.nodes)
    (live : startRefused s entry = true ∨
      ∃ job : Job, s.jobs[entry.jobId]? = some job ∧ job.state.isFinalized = false) :
    Balanced (applyJobStart s entry).1.ledger := by
  unfold applyJobStart
  dsimp only
  split
  · exact balanced
  rename_i accepted
  rcases live with refused | ⟨job,found,lives⟩
  · exact absurd refused accepted
  rw [found] at accepted
  have unheld : job.holdsAPlacement = false := by
    rw [any_some,Bool.or_eq_true,not_or] at accepted
    exact Bool.eq_false_iff.mpr accepted.1
  have placed := balanced.placed _ job found lives
  have reports := placed.released unheld
  rw [modify_of_find found]
  refine balanced.follow found (follows_started shape lives unheld reports) (fun _ => ?_)
    (balanced.settled _ job found)
  exact ⟨shape.distinct,fun _ => ⟨entry.resources,rfl⟩,shape.sliced,
    fun name member => absurd (reports ▸ member) Std.ExtTreeMap.not_mem_empty,fun _ => reports,fun _ => reports⟩

def reportedJob (job : Job) (nodeName : String) (completion : NodeCompletion) : Job :=
  { job with nodeCompletions := job.nodeCompletions.insert nodeName completion }

theorem releaseReported_follows (nodes : Table String Node) (placed : WellPlaced job)
    (live : job.state.isFinalized = false) {nodeName : String} (allocated : nodeName ∈ job.allocatedNodes)
    (completion : NodeCompletion) :
    Follows nodes (releaseReported job nodeName nodes) job (reportedJob job nodeName completion) := by
  obtain ⟨total,funded⟩ := placed.funded (ne_nil_of_mem allocated)
  obtain ⟨slice,given⟩ := placed.sliced nodeName allocated
  have elsewhere (name : String) (other : name ≠ nodeName) :
      heldSlice (reportedJob job nodeName completion) name = heldSlice job name := by
    unfold heldSlice Job.isHeldOn reportedJob
    simp [Ne.symm other]
  have here : heldSlice (reportedJob job nodeName completion) nodeName = none := by
    unfold heldSlice Job.isHeldOn reportedJob
    simp
  unfold releaseReported
  rw [funded]
  dsimp only
  by_cases repeated : nodeName ∈ job.nodeCompletions
  · rw [if_pos (Std.ExtTreeMap.mem_iff_contains.mp repeated)]
    refine follows_same fun name => ?_
    by_cases same : name = nodeName
    · subst same
      rw [here]
      unfold heldSlice
      rw [if_neg (fun held => (isHeldOn_iff.mp held.2).2 repeated)]
    · exact elsewhere name same
  · rw [if_neg (fun contained => repeated (Std.ExtTreeMap.mem_iff_contains.mpr contained))]
    have before : heldSlice job nodeName = some slice := by
      unfold heldSlice
      rw [if_pos ⟨live,isHeldOn_iff.mpr ⟨allocated,repeated⟩⟩,given]
    have read : sliceOn job.perNodeAlloc total (max job.allocatedNodes.length 1) nodeName = slice := by
      unfold sliceOn
      rw [given]
      rfl
    rw [read]
    constructor
    intro name changed stored
    rw [find_modify] at stored
    unfold heldCharge
    split at stored
    next same =>
      subst same
      obtain ⟨node,found,rfl⟩ := map_eq_some_iff.mp stored
      refine ⟨node,found,rfl,fun distinct => ⟨distinct_subtract distinct,fun meter _ covered => ?_⟩⟩
      rw [before] at covered ⊢
      rw [here]
      change meter.read (node.allocResources.subtract slice) + meter.read slice = meter.read _ + 0
      rw [read_subtract distinct]
      dsimp only [elim_some] at covered
      omega
    next different =>
      rw [elsewhere name (Ne.symm different)]
      exact ⟨changed,stored,rfl,fun distinct => ⟨distinct,fun _ _ _ => rfl⟩⟩

private theorem reported_subset (placed : WellPlaced job) {nodeName : String}
    (allocated : nodeName ∈ job.allocatedNodes) (completion : NodeCompletion) (name : String)
    (member : name ∈ (reportedJob job nodeName completion).nodeCompletions) : name ∈ job.allocatedNodes := by
  unfold reportedJob at member
  rw [Std.ExtTreeMap.mem_insert] at member
  rcases member with same | before
  · rw [← Std.LawfulEqOrd.eq_of_compare same]
    exact allocated
  · exact placed.reported name before

private theorem reported_placed (placed : WellPlaced job) (active : job.state.isActive = true)
    {nodeName : String} (allocated : nodeName ∈ job.allocatedNodes) {completion : NodeCompletion}
    (unfinished : (reportedJob job nodeName completion).allNodesCompleted = false) :
    WellPlaced (reportedJob job nodeName completion) := by
  have reported := reported_subset placed allocated completion
  refine ⟨placed.distinct,placed.funded,placed.sliced,reported,fun pending => ?_,fun unheld => ?_⟩
  · change job.state = .pending at pending
    rw [pending] at active
    cases active
  · have all := (@allNodesCompleted_iff (reportedJob job nodeName completion) placed.distinct reported).mpr
      ⟨ne_nil_of_mem allocated,unheld⟩
    rw [unfinished] at all
    cases all

def reportAccepted (entry : Wal.JobNodeComplete) (job : Job) : Prop :=
  ¬(entry.runAttempt ≠ 0 ∧ job.runAttempt ≠ 0 ∧ entry.runAttempt < job.runAttempt) ∧ job.state.isActive = true

instance (entry : Wal.JobNodeComplete) (job : Job) : Decidable (reportAccepted entry job) := by
  unfold reportAccepted; infer_instance

theorem applyJobNodeComplete_accepted {env : Env} {timestamp : Time}
    (found : s.jobs[entry.jobId]? = some job) (accepted : reportAccepted entry job) :
    ∃ grace : Option PreemptPending, (grace.isSome = true → job.state = .running) ∧
      (applyJobNodeComplete env timestamp s entry).1.ledger =
        ⟨s.jobs.insert entry.jobId ((reportedJob job entry.nodeName ⟨entry.exitCode,entry.signal⟩).advanceAfterNodeReport
          env grace timestamp).1,releaseReported job entry.nodeName s.nodes⟩ ∧
      (applyJobNodeComplete env timestamp s entry).2.jobsFinalized =
        ((reportedJob job entry.nodeName ⟨entry.exitCode,entry.signal⟩).advanceAfterNodeReport
          env grace timestamp).2.toList := by
  refine ⟨job.preemptGrace.filter fun _ => job.state == .running,fun given => ?_,?_⟩
  · obtain ⟨pending,present⟩ := isSome_iff_exists.mp given
    rw [filter_eq_some_iff] at present
    exact beq_iff_eq.mp present.2
  · unfold applyJobNodeComplete
    rw [found]
    dsimp only
    rw [if_neg accepted.1,if_neg (by rw [accepted.2]; decide)]
    exact ⟨rfl,rfl⟩

theorem applyJobNodeComplete_ignored
    (ignored : ∀ job : Job, s.jobs[entry.jobId]? = some job → ¬reportAccepted entry job) :
    applyJobNodeComplete env timestamp s entry = (s,{}) := by
  unfold applyJobNodeComplete
  split
  · rfl
  rename_i job found
  split
  · rfl
  next fresh =>
    split
    · rfl
    next active => exact absurd ⟨fresh,Bool.not_eq_false _ ▸ active⟩ (ignored job found)

theorem jobNodeComplete_balanced (balanced : Balanced s.ledger)
    (names : ∀ job : Job, s.jobs[entry.jobId]? = some job → reportAccepted entry job →
      entry.nodeName ∈ job.allocatedNodes) :
    Balanced (applyJobNodeComplete env timestamp s entry).1.ledger := by
  by_cases ignored : ∀ job : Job, s.jobs[entry.jobId]? = some job → ¬reportAccepted entry job
  · rw [applyJobNodeComplete_ignored ignored]
    exact balanced
  push Not at ignored
  obtain ⟨job,found,accepted⟩ := ignored
  obtain ⟨grace,warned,ledger,_⟩ := applyJobNodeComplete_accepted found accepted
  have allocated := names job found accepted
  have active := accepted.2
  have lives : job.state.isFinalized = false := active_live (Or.inl active)
  have placed := balanced.placed _ job found lives
  rw [ledger]
  generalize (⟨entry.exitCode,entry.signal⟩ : NodeCompletion) = completion
  have follows := releaseReported_follows s.nodes placed lives allocated completion
  rcases advanceAfterNodeReport_move
      (show (reportedJob job _ completion).state.isActive = true from active) warned with
    ⟨unfinished,next,computed,going,-⟩ | ⟨all,next,record,computed,past,_⟩
  · rw [computed]
    have kept := going_live going active
    refine balanced.follow found (follows.congr fun name => heldSlice_same going.same (kept.1.trans lives.symm))
      (fun _ => ?_) kept.2.2
    exact (reported_placed placed active allocated unfinished).same going.same fun pending => absurd pending kept.2.1
  · rw [computed]
    have reported := reported_subset placed allocated completion
    have unheld := ((@allNodesCompleted_iff (reportedJob job _ completion) placed.distinct reported).mp all).2
    refine balanced.follow found (follows.congr fun name => ?_) (over_placed past) (over_settled past)
    rw [over_holds past,heldSlice_idle (Or.inr unheld)]

end

section

variable {config : Config} {env : Env} {s : State}

theorem registeredNode_charge (entry : Wal.NodeRegister) : (registeredNode config env s entry).name = entry.name ∧
      (registeredNode config env s entry).allocResources = {} :=
  applyNodeConfigPolicy_charge

theorem nodeRegister_balanced {entry : Wal.NodeRegister} (balanced : Balanced s.ledger)
    (unheld : ∀ (jobId : JobId) (job : Job), s.jobs[jobId]? = some job →
      job.state.isFinalized = true ∨ job.isHeldOn entry.name = false) :
    Balanced (applyNodeRegister config env s entry).1.ledger := by
  obtain ⟨named,charge⟩ := @registeredNode_charge config env s entry
  refine ⟨?_,?_,?_,balanced.placed,balanced.settled⟩ <;>
    (intro name node stored
     dsimp only [applyNodeRegister,State.ledger] at stored
     rw [find_insert] at stored
     split at stored)
  next same => rw [← Option.some.inj stored,named,same]
  next => exact balanced.named name node stored
  next same =>
    rw [← Option.some.inj stored,charge]
    exact fun _ => nodup_nil
  next => exact balanced.distinct name node stored
  next same =>
    subst same
    intro meter
    have empty : meter.read ({} : ResourceAllocations) = 0 := by cases meter <;> rfl
    rw [← Option.some.inj stored,charge,empty,eq_comm]
    refine total_eq_zero fun jobId job found => ?_
    unfold heldCharge heldSlice
    rw [if_neg]
    · rfl
    rintro ⟨live,held⟩
    rcases unheld jobId job found with past | free
    · rw [live] at past; cases past
    · rw [held] at free; cases free
  next => exact balanced.charged name node stored

def RenamesApart (node : Node) (resources : ResourceSet) : Prop :=
  Set.InjOn (renameId (renamesFor node resources)) {id | id ∈ node.allocResources.deviceIds "gpu"}

def remappedJob (nodeName : String) (renamed : Table Nat Nat) (job : Job) : Job :=
  if job.state.isTerminal then job
  else { job with perNodeAlloc := job.perNodeAlloc.modify nodeName (renameGpuIds renamed) }

section

variable (renamed : Table Nat Nat) (nodeName : String)

theorem remappedJob_state (job : Job) : (remappedJob nodeName renamed job).state = job.state := by
  unfold remappedJob
  split <;> rfl

theorem remappedJob_placed (placed : WellPlaced job) : WellPlaced (remappedJob nodeName renamed job) := by
  unfold remappedJob
  split
  · exact placed
  refine ⟨placed.distinct,placed.funded,?_,placed.reported,placed.waiting,placed.released⟩
  intro name member
  obtain ⟨slice,given⟩ := placed.sliced name member
  rw [find_modify,given]
  split
  · exact ⟨_,rfl⟩
  · exact ⟨slice,rfl⟩

theorem heldSlice_remapped (job : Job) (name : String) : heldSlice (remappedJob nodeName renamed job) name =
      if nodeName = name then (heldSlice job name).map (renameGpuIds renamed) else heldSlice job name := by
  unfold remappedJob
  split
  next terminal =>
    rw [heldSlice_finalized (terminal_finalized terminal)]
    split <;> rfl
  next =>
    unfold heldSlice Job.isHeldOn
    rw [find_modify]
    split_ifs <;> rfl

private theorem read_renameGpuIds
    (other : ∀ deviceId, meter ≠ .device "gpu" deviceId) : meter.read (renameGpuIds renamed alloc) = meter.read alloc := by
  cases meter with
  | cpus => rfl
  | memory => rfl
  | device gresName deviceId =>
    have different : gresName ≠ "gpu" := fun gpu => other deviceId (gpu ▸ rfl)
    simp only [Meter.read]
    rw [devicesOf_rename,if_neg different]

private def heldGpus (jobs : Table JobId Job) (jobId : JobId) : List AllocatedDevice :=
  ((jobs[jobId]?).bind fun job => heldSlice job nodeName).elim [] fun slice => slice.devicesOf "gpu"

private theorem share_gpu (jobs : Table JobId Job) (deviceId : Nat) (jobId : JobId) :
    Table.share (heldCharge (.device "gpu" deviceId) nodeName) jobs jobId =
      countAt (heldGpus nodeName jobs jobId) deviceId := by
  unfold Table.share heldGpus heldCharge
  cases jobs[jobId]? with
  | none => rfl
  | some job =>
    dsimp only [elim_some,bind_some]
    cases heldSlice job nodeName <;> rfl

theorem total_remapped {jobs : Table JobId Job}
    (charged : ∀ meter : Meter, meter.read alloc = Table.total (heldCharge meter nodeName) jobs) :
    meter.read (renameGpuIds renamed alloc) =
      Table.total (heldCharge meter nodeName) (jobs.map fun _ job => remappedJob nodeName renamed job) := by
  by_cases gpu : ∃ deviceId, meter = .device "gpu" deviceId
  · obtain ⟨deviceId,rfl⟩ := gpu
    have moved : Table.total (heldCharge (.device "gpu" deviceId) nodeName)
          (jobs.map fun _ job => remappedJob nodeName renamed job) =
        ∑ jobId ∈ jobs.keys.toFinset, countAt (renameDevices renamed (heldGpus nodeName jobs jobId)) deviceId := by
      rw [total_map]
      refine Finset.sum_congr rfl fun jobId _ => ?_
      unfold Table.share heldGpus heldCharge
      cases jobs[jobId]? with
      | none => rfl
      | some job =>
        dsimp only [elim_some,bind_some]
        rw [heldSlice_remapped,if_pos rfl]
        cases heldSlice job nodeName with
        | none => rfl
        | some slice =>
          simp only [map_some,elim_some,Meter.read]
          rw [devicesOf_rename,if_pos rfl]
    rw [moved]
    simp only [Meter.read]
    rw [devicesOf_rename]
    refine countAt_rename_sum renamed (fun id => ?_)
    have sum := charged (.device "gpu" id)
    unfold Table.total at sum
    simp only [share_gpu] at sum
    exact sum
  · push Not at gpu
    rw [read_renameGpuIds renamed gpu,charged meter,total_map]
    refine (total_congr fun jobId => ?_).symm
    unfold Table.share heldCharge
    cases jobs[jobId]? with
    | none => rfl
    | some job =>
      dsimp only [elim_some]
      rw [heldSlice_remapped,if_pos rfl]
      cases heldSlice job nodeName with
      | none => rfl
      | some slice => exact read_renameGpuIds renamed gpu

end

theorem updatedNode_charge (entry : Wal.NodeUpdate) (node : Node) :
    (updatedNode config env entry node).name = node.name ∧ (updatedNode config env entry node).allocResources =
        if (renamesFor node entry.resources).isEmpty then node.allocResources
        else renameGpuIds (renamesFor node entry.resources) node.allocResources := by
  refine ⟨applyNodeConfigPolicy_charge.1.trans ?_,applyNodeConfigPolicy_charge.2.trans ?_⟩
  all_goals
    unfold remapNodeGpuAllocations
    split <;> rfl

theorem nodeUpdate_balanced {entry : Wal.NodeUpdate} (balanced : Balanced s.ledger)
    (apart : ∀ node : Node, s.nodes[entry.name]? = some node → RenamesApart node entry.resources) :
    Balanced (applyNodeUpdate config env s entry).1.ledger := by
  unfold applyNodeUpdate
  split
  · exact balanced
  rename_i node found
  obtain ⟨kept,charge⟩ := @updatedNode_charge config env entry node
  have named : node.name = entry.name := balanced.named _ node found
  unfold remapJobGpuAllocations
  split
  next unchanged =>
    rw [if_pos unchanged] at charge
    refine balanced.sameCharges fun name => ?_
    rw [find_insert]
    split
    next same =>
      rw [← same]
      change _ = Option.map _ s.nodes[entry.name]?
      rw [found,map_some,map_some,kept,charge]
    next => rfl
  next changed =>
    rw [if_neg changed] at charge
    change Balanced ⟨s.jobs.map fun _ job => remappedJob _ _ job,s.nodes.insert _ _⟩
    rw [named]
    have separate := apart node found
    unfold RenamesApart at separate
    generalize renamesFor node _ = renamed at charge separate
    have mapped (jobId : JobId) (result : Job)
        (stored : (s.jobs.map fun _ job => remappedJob entry.name renamed job)[jobId]? = some result) :
        ∃ job : Job, s.jobs[jobId]? = some job ∧ result = remappedJob entry.name renamed job := by
      rw [find_map,map_eq_some_iff] at stored
      obtain ⟨job,before,rfl⟩ := stored
      exact ⟨job,before,rfl⟩
    refine ⟨?_,?_,?_,?_,?_⟩
    · intro name changed stored
      rw [find_insert] at stored
      split at stored
      next same => rw [← Option.some.inj stored,kept,named,same]
      next => exact balanced.named name changed stored
    · intro name changed stored
      rw [find_insert] at stored
      split at stored
      next same =>
        rw [← Option.some.inj stored,charge]
        exact distinct_rename renamed (balanced.distinct _ node found) separate
      next => exact balanced.distinct name changed stored
    · intro name changed stored meter
      rw [find_insert] at stored
      split at stored
      next same =>
        subst same
        rw [← Option.some.inj stored,charge]
        exact total_remapped renamed _ (balanced.charged _ node found)
      next different =>
        rw [balanced.charged name changed stored meter,total_map]
        refine total_congr fun jobId => ?_
        unfold Table.share heldCharge
        simp only [heldSlice_remapped,if_neg different]
        rfl
    · intro jobId result stored live
      obtain ⟨job,before,rfl⟩ := mapped jobId result stored
      rw [remappedJob_state] at live
      exact remappedJob_placed renamed _ (balanced.placed jobId job before live)
    · intro jobId result stored
      obtain ⟨job,before,rfl⟩ := mapped jobId result stored
      rw [remappedJob_state]
      exact balanced.settled jobId job before

end

end Spur.Cluster
