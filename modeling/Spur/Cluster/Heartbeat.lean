import Spur.Cluster.Conservation

/-! Heartbeats that rewrite a job's GPU slice on one node: when the books stay balanced. -/
namespace Spur.Cluster
open Spur Spur.Library Spur.Library.Run List Option Table ResourceAllocations

def gpuDevices (ids : List Nat) : List AllocatedDevice := ids.map AllocatedDevice.injectable

def fromDeviceIds (gresName : String) (deviceIds : List Nat) : ResourceAllocations :=
  if deviceIds = [] then {} else { devices := (∅ : Table String (List AllocatedDevice)).insert gresName (gpuDevices deviceIds) }

def gpuIdsMatch (a b : List Nat) : Bool := a.toFinset == b.toFinset

def moveGpuCharge (current reported : List Nat) (alloc : ResourceAllocations) : ResourceAllocations :=
  let toRemove := current.filter fun id => !reported.contains id
  let toAdd := reported.filter fun id => !current.contains id
  let alloc := if toRemove ≠ [] then alloc.subtract (fromDeviceIds "gpu" toRemove) else alloc
  if toAdd ≠ [] then alloc.add (fromDeviceIds "gpu" toAdd) else alloc

def reportedSlice (reported : List Nat) (slice : ResourceAllocations) : ResourceAllocations :=
  { slice with devices := slice.devices.insert "gpu" (gpuDevices reported) }

def reconcileReport (nodeName : String) (s : State) (report : JobId × List Nat) : State :=
  match s.nodes[nodeName]?,s.jobs[report.1]? with
  | some node,some job =>
    match job.perNodeAlloc[nodeName]? with
    | none => s
    | some slice =>
      let current := slice.deviceIds "gpu"
      if gpuIdsMatch current report.2 then s
      else
        { s with
          jobs := s.jobs.insert report.1
            { job with perNodeAlloc := job.perNodeAlloc.insert nodeName (reportedSlice report.2 slice) }
          nodes := s.nodes.insert nodeName
            ({ node with allocResources := moveGpuCharge current report.2 node.allocResources }).updateStateFromAlloc }
  | _,_ => s

def reconcileNodeGpuAllocations (nodeName : String) (reportedGpuIds : List (JobId × List Nat)) (s : State) : State :=
  reportedGpuIds.foldl (reconcileReport nodeName) s

section

theorem countAt_gpuDevices {ids : List Nat} {id : Nat} : countAt (gpuDevices ids) id = ids.count id := by
  induction ids with
  | nil => rfl
  | cons first ids ih =>
    have head : countAt (gpuDevices (first :: ids)) id = (if first = id then 1 else 0) + countAt (gpuDevices ids) id := rfl
    rw [head,ih]
    by_cases same : first = id
    · simp [same,Nat.add_comm]
    · simp [same]

theorem read_fromDeviceIds (ids : List Nat) (meter : Meter) : meter.read (fromDeviceIds "gpu" ids) = match meter with
      | .device gresName id => if gresName = "gpu" then ids.count id else 0
      | _ => 0 := by
  unfold fromDeviceIds
  cases meter with
  | cpus => split <;> rfl
  | memory => split <;> rfl
  | device gresName id =>
    dsimp only [Meter.read,ResourceAllocations.devicesOf]
    split
    next none =>
      rw [none]
      simp [countAt]
    next =>
      rw [find_insert]
      by_cases gpu : gresName = "gpu"
      · rw [if_pos gpu.symm,if_pos gpu]
        exact countAt_gpuDevices
      · rw [if_neg (Ne.symm gpu),if_neg gpu]
        simp [countAt]

theorem count_filter_not_contains (ids others : List Nat) (id : Nat) :
    (ids.filter fun id => !others.contains id).count id = if id ∈ others then 0 else ids.count id := by
  split
  next inside =>
    refine count_eq_zero.mpr fun member => ?_
    have apart := (mem_filter.mp member).2
    simp [inside] at apart
  next outside => exact count_filter (by simp [outside])

variable {alloc : ResourceAllocations}

private theorem read_subtracted (distinct : alloc.Distinct) (ids : List Nat) (meter : Meter) :
    meter.read (if ids ≠ [] then alloc.subtract (fromDeviceIds "gpu" ids) else alloc) =
      meter.read alloc - meter.read (fromDeviceIds "gpu" ids) := by
  split
  · exact read_subtract distinct
  next none =>
    rw [not_not.mp none,read_fromDeviceIds]
    cases meter <;> simp

private theorem read_added {ids : List Nat} (fits : alloc.Fits (fromDeviceIds "gpu" ids)) (meter : Meter) :
    meter.read (if ids ≠ [] then alloc.add (fromDeviceIds "gpu" ids) else alloc) =
      meter.read alloc + meter.read (fromDeviceIds "gpu" ids) := by
  split
  · exact read_add fits
  next none =>
    rw [not_not.mp none,read_fromDeviceIds]
    cases meter <;> simp

theorem read_moveGpuCharge (distinct : alloc.Distinct) {reported : List Nat}
    (room : alloc.Fits (fromDeviceIds "gpu" reported)) (current : List Nat) (meter : Meter) :
    meter.read (moveGpuCharge current reported alloc) = match meter with
      | .device gresName id => if gresName = "gpu" then
          meter.read alloc - (if id ∈ reported then 0 else current.count id) +
            (if id ∈ current then 0 else reported.count id)
        else meter.read alloc
      | _ => meter.read alloc := by
  unfold moveGpuCharge
  dsimp only
  have removed := read_subtracted distinct (current.filter fun id => !reported.contains id)
  generalize (if (current.filter fun id => !reported.contains id) ≠ [] then
    alloc.subtract _ else alloc) = between at removed
  have fits : between.Fits (fromDeviceIds "gpu" (reported.filter fun id => !current.contains id)) := by
    intro meter
    refine le_trans (Nat.add_le_add ?_ ?_) (room meter)
    · rw [removed]
      exact Nat.sub_le _ _
    rw [read_fromDeviceIds,read_fromDeviceIds]
    cases meter with
    | cpus | memory => exact le_refl _
    | device gresName id =>
      dsimp only
      split
      · exact (filter_sublist).count_le id
      · exact le_refl _
  rw [read_added fits,removed,read_fromDeviceIds,read_fromDeviceIds]
  cases meter with
  | cpus | memory => rfl
  | device gresName id =>
    dsimp only
    split
    · rw [count_filter_not_contains,count_filter_not_contains]
    · rfl

theorem distinct_moveGpuCharge (distinct : alloc.Distinct) {current reported : List Nat} :
    (moveGpuCharge current reported alloc).Distinct := by
  unfold moveGpuCharge
  dsimp only
  have removed : (if (current.filter fun id => !reported.contains id) ≠ [] then
      alloc.subtract (fromDeviceIds "gpu" (current.filter fun id => !reported.contains id)) else alloc).Distinct := by
    split
    · exact distinct_subtract distinct
    · exact distinct
  split
  · exact distinct_add removed
  · exact removed

theorem read_reportedSlice (reported : List Nat) (slice : ResourceAllocations) (meter : Meter) :
    meter.read (reportedSlice reported slice) = match meter with
      | .device gresName id => if gresName = "gpu" then reported.count id else meter.read slice
      | _ => meter.read slice := by
  cases meter with
  | cpus | memory => rfl
  | device gresName id =>
    dsimp only [Meter.read,ResourceAllocations.devicesOf,reportedSlice]
    rw [find_insert]
    by_cases gpu : gresName = "gpu"
    · rw [if_pos gpu.symm,if_pos gpu]
      exact countAt_gpuDevices
    · rw [if_neg (Ne.symm gpu),if_neg gpu]

end

/-- What a report may find, for the books to stay balanced: a job that still holds its slice on the node,
each dropped id charged once per listing and each kept id as often as it is reported; or a job that
holds nothing there, and nothing to move. -/
def Settles (nodeName : String) (s : State) (report : JobId × List Nat) : Prop :=
  ∀ (node : Node) (job : Job) (slice : ResourceAllocations), s.nodes[nodeName]? = some node →
    s.jobs[report.1]? = some job → job.perNodeAlloc[nodeName]? = some slice →
    gpuIdsMatch (slice.deviceIds "gpu") report.2 = false →
    if job.state.isFinalized = false ∧ job.isHeldOn nodeName = true then
      ∀ id ∈ slice.deviceIds "gpu",
        if id ∈ report.2 then countAt (slice.devicesOf "gpu") id = report.2.count id
        else Meter.read node.allocResources (.device "gpu" id) - (slice.deviceIds "gpu").count id =
          Meter.read node.allocResources (.device "gpu" id) - countAt (slice.devicesOf "gpu") id
    else (∀ id ∈ report.2, id ∈ slice.deviceIds "gpu") ∧
      ∀ id ∈ slice.deviceIds "gpu", id ∉ report.2 → Meter.read node.allocResources (.device "gpu" id) = 0

def Roomy (nodeName : String) (s : State) (report : JobId × List Nat) : Prop :=
  ∀ node : Node, s.nodes[nodeName]? = some node → node.allocResources.Fits (fromDeviceIds "gpu" report.2)

section

variable {s : State} {nodeName : String} {report : JobId × List Nat} {node : Node} {job : Job} {slice : ResourceAllocations}

def reportedOn (nodeName : String) (reported : List Nat) (slice : ResourceAllocations) (job : Job) : Job :=
  { job with perNodeAlloc := job.perNodeAlloc.insert nodeName (reportedSlice reported slice) }

theorem reconcileReport_moved (registered : s.nodes[nodeName]? = some node) (found : s.jobs[report.1]? = some job)
    (sliced : job.perNodeAlloc[nodeName]? = some slice) (moved : gpuIdsMatch (slice.deviceIds "gpu") report.2 = false) :
    reconcileReport nodeName s report = { s with
      jobs := s.jobs.insert report.1 (reportedOn nodeName report.2 slice job)
      nodes := s.nodes.insert nodeName ({ node with
        allocResources := moveGpuCharge (slice.deviceIds "gpu") report.2 node.allocResources }).updateStateFromAlloc } := by
  unfold reconcileReport
  rw [registered,found]
  dsimp only
  rw [sliced]
  dsimp only
  rw [moved]
  rfl

theorem reconcileReport_idle (idle : ∀ (node : Node) (job : Job) (slice : ResourceAllocations),
      s.nodes[nodeName]? = some node → s.jobs[report.1]? = some job → job.perNodeAlloc[nodeName]? = some slice →
      gpuIdsMatch (slice.deviceIds "gpu") report.2 = true) : reconcileReport nodeName s report = s := by
  unfold reconcileReport
  split
  next node job registered found =>
    split
    · rfl
    next slice sliced =>
      dsimp only
      rw [idle node job slice registered found sliced]
      rfl
  · rfl

theorem heldCharge_elsewhere {name : String} (different : name ≠ nodeName) (reported : List Nat) (meter : Meter) (jobId : JobId) :
    heldCharge meter name jobId (reportedOn nodeName reported slice job) = heldCharge meter name jobId job := by
  have same : heldSlice (reportedOn nodeName reported slice job) name = heldSlice job name := by
    unfold heldSlice
    change (if job.state.isFinalized = false ∧ job.isHeldOn name = true then
      (job.perNodeAlloc.insert nodeName _)[name]? else none) = _
    rw [find_insert_ne (Ne.symm different)]
  unfold heldCharge
  rw [same]

theorem heldCharge_before (sliced : job.perNodeAlloc[nodeName]? = some slice) (meter : Meter) (jobId : JobId) :
    heldCharge meter nodeName jobId job =
      if job.state.isFinalized = false ∧ job.isHeldOn nodeName = true then meter.read slice else 0 := by
  unfold heldCharge heldSlice
  split
  · rw [sliced]; rfl
  · rfl

theorem heldCharge_after (reported : List Nat) (meter : Meter) (jobId : JobId) :
    heldCharge meter nodeName jobId (reportedOn nodeName reported slice job) =
      if job.state.isFinalized = false ∧ job.isHeldOn nodeName = true then meter.read (reportedSlice reported slice) else 0 := by
  have sliced : (reportedOn nodeName reported slice job).perNodeAlloc[nodeName]? = some (reportedSlice reported slice) := by
    unfold reportedOn
    rw [find_insert,if_pos rfl]
  rw [heldCharge_before sliced]
  rfl

theorem conserved_moved (conserved : Conserved s.jobs s.nodes) (registered : s.nodes[nodeName]? = some node)
    (distinct : node.allocResources.Distinct) (found : s.jobs[report.1]? = some job)
    (sliced : job.perNodeAlloc[nodeName]? = some slice) (room : node.allocResources.Fits (fromDeviceIds "gpu" report.2))
    (moved : gpuIdsMatch (slice.deviceIds "gpu") report.2 = false) :
    Conserved (reconcileReport nodeName s report).jobs (reconcileReport nodeName s report).nodes ↔
      ∀ id, Meter.read node.allocResources (.device "gpu" id) -
            (if id ∈ report.2 then 0 else (slice.deviceIds "gpu").count id) +
            (if id ∈ slice.deviceIds "gpu" then 0 else report.2.count id) +
          (if job.state.isFinalized = false ∧ job.isHeldOn nodeName = true then countAt (slice.devicesOf "gpu") id else 0) =
        Meter.read node.allocResources (.device "gpu" id) +
          if job.state.isFinalized = false ∧ job.isHeldOn nodeName = true then report.2.count id else 0 := by
  have totals (name : String) (meter : Meter) := total_insert (f := heldCharge meter name) s.jobs report.1
    (reportedOn nodeName report.2 slice job)
  have shares (name : String) (meter : Meter) : Table.share _ s.jobs _ =
      heldCharge meter name _ job := share_of_find found
  rw [reconcileReport_moved registered found sliced moved]
  constructor
  · intro after id
    have here := after nodeName _ (by rw [find_insert,if_pos rfl]) (.device "gpu" id)
    have total := totals nodeName (.device "gpu" id)
    rw [shares,heldCharge_before sliced,heldCharge_after,← conserved nodeName node registered,← here,
      read_reportedSlice] at total
    change Meter.read (moveGpuCharge _ _ _) _ + _ = _ at total
    rw [read_moveGpuCharge distinct room] at total
    exact total
  · intro agree name other stored meter
    rw [find_insert] at stored
    have total := totals name meter
    rw [shares] at total
    split at stored
    next same =>
      subst same
      cases stored
      change Meter.read (moveGpuCharge _ _ _) meter = _
      rw [heldCharge_before sliced,heldCharge_after,← conserved nodeName node registered,read_reportedSlice] at total
      rw [read_moveGpuCharge distinct room]
      cases meter with
      | cpus | memory =>
        dsimp only at total ⊢
        omega
      | device gresName id =>
        dsimp only at total ⊢
        by_cases gpu : gresName = "gpu"
        · subst gpu
          have same := agree id
          exact Nat.add_right_cancel (same.trans total.symm)
        · rw [if_neg gpu] at total ⊢
          omega
    next different =>
      rw [heldCharge_elsewhere (Ne.symm different)] at total
      rw [conserved name other stored meter]
      exact (Nat.add_right_cancel total).symm

theorem conserved_iff_settles (conserved : Conserved s.jobs s.nodes)
    (distinct : ∀ node : Node, s.nodes[nodeName]? = some node → node.allocResources.Distinct)
    (room : Roomy nodeName s report) :
    Conserved (reconcileReport nodeName s report).jobs (reconcileReport nodeName s report).nodes ↔ Settles nodeName s report := by
  by_cases idle : ∀ (node : Node) (job : Job) (slice : ResourceAllocations),
      s.nodes[nodeName]? = some node → s.jobs[report.1]? = some job → job.perNodeAlloc[nodeName]? = some slice →
      gpuIdsMatch (slice.deviceIds "gpu") report.2 = true
  · rw [reconcileReport_idle idle]
    refine iff_of_true conserved fun node job slice registered found sliced moved => ?_
    rw [idle node job slice registered found sliced] at moved
    cases moved
  · push Not at idle
    obtain ⟨node,job,slice,registered,found,sliced,moves⟩ := idle
    have moved : gpuIdsMatch (slice.deviceIds "gpu") report.2 = false := Bool.not_eq_true _ ▸ moves
    rw [conserved_moved conserved registered (distinct node registered) found sliced (room node registered) moved]
    have only : Settles nodeName s report ↔
        if job.state.isFinalized = false ∧ job.isHeldOn nodeName = true then
          ∀ id ∈ slice.deviceIds "gpu",
            if id ∈ report.2 then countAt (slice.devicesOf "gpu") id = report.2.count id
            else Meter.read node.allocResources (.device "gpu" id) - (slice.deviceIds "gpu").count id =
              Meter.read node.allocResources (.device "gpu" id) - countAt (slice.devicesOf "gpu") id
        else (∀ id ∈ report.2, id ∈ slice.deviceIds "gpu") ∧
          ∀ id ∈ slice.deviceIds "gpu", id ∉ report.2 → Meter.read node.allocResources (.device "gpu" id) = 0 := by
      constructor
      · exact fun settles => settles node job slice registered found sliced moved
      intro holds other third part there stored cut _
      cases Option.some.inj (registered.symm.trans there)
      cases Option.some.inj (found.symm.trans stored)
      cases Option.some.inj (sliced.symm.trans cut)
      exact holds
    rw [only]
    have absent {id : Nat} (outside : id ∉ slice.deviceIds "gpu") : countAt _ id = 0 :=
      countAt_of_absent outside
    split
    next held =>
      have part (id : Nat) : countAt (slice.devicesOf "gpu") id ≤ Meter.read node.allocResources (.device "gpu" id) := by
        have share := share_le_total (heldCharge (.device "gpu" id) nodeName) s.jobs report.1
        rw [share_of_find found,heldCharge_before sliced,if_pos held,← conserved nodeName node registered] at share
        exact share
      constructor
      · intro agree id inside
        have same := agree id
        rw [if_pos inside] at same
        split
        next kept =>
          rw [if_pos kept] at same
          omega
        next dropped =>
          rw [if_neg dropped,count_eq_zero.mpr dropped] at same
          omega
      · intro holds id
        have bound := part id
        by_cases inside : id ∈ slice.deviceIds "gpu"
        · have here := holds id inside
          rw [if_pos inside]
          split at here
          next kept =>
            rw [if_pos kept]
            omega
          next dropped =>
            rw [if_neg dropped,count_eq_zero.mpr dropped]
            omega
        · rw [if_neg inside,absent inside,count_eq_zero.mpr inside,ite_self]
          omega
    next free =>
      constructor
      · intro agree
        refine ⟨fun id reported => ?_,fun id inside dropped => ?_⟩
        · by_contra outside
          have same := agree id
          have positive := count_pos_iff.mpr reported
          rw [if_pos reported,if_neg outside] at same
          omega
        · have same := agree id
          have positive := count_pos_iff.mpr inside
          rw [if_neg dropped,if_pos inside] at same
          omega
      · rintro ⟨inner,spent⟩ id
        by_cases reported : id ∈ report.2
        · rw [if_pos reported,if_pos (inner id reported)]
          omega
        rw [if_neg reported,count_eq_zero.mpr reported,ite_self]
        by_cases inside : id ∈ slice.deviceIds "gpu"
        · rw [spent id inside reported]
          omega
        · rw [count_eq_zero.mpr inside]
          omega

theorem reconcileReport_distinct
    (distinct : ∀ node : Node, s.nodes[nodeName]? = some node → node.allocResources.Distinct) {report : JobId × List Nat} :
    ∀ node : Node, (reconcileReport nodeName s report).nodes[nodeName]? = some node → node.allocResources.Distinct := by
  intro node stored
  unfold reconcileReport at stored
  split at stored
  next before job registered _ =>
    split at stored
    · exact distinct node stored
    dsimp only at stored
    split at stored
    · exact distinct node stored
    · rw [find_insert,if_pos rfl] at stored
      cases stored
      exact distinct_moveGpuCharge (distinct before registered)
  · exact distinct node stored

theorem reconcileReport_balanced (balanced : Balanced s.ledger) (room : Roomy nodeName s report)
    (settles : Settles nodeName s report) : Balanced (reconcileReport nodeName s report).ledger := by
  have distinct : ∀ node : Node, s.nodes[nodeName]? = some node → node.allocResources.Distinct := balanced.distinct nodeName
  have charged := (conserved_iff_settles balanced.charged distinct room).mpr settles
  by_cases idle : ∀ (node : Node) (job : Job) (slice : ResourceAllocations),
      s.nodes[nodeName]? = some node → s.jobs[report.1]? = some job → job.perNodeAlloc[nodeName]? = some slice →
      gpuIdsMatch (slice.deviceIds "gpu") report.2 = true
  · rw [reconcileReport_idle idle]
    exact balanced
  · push Not at idle
    obtain ⟨node,job,slice,registered,found,sliced,moves⟩ := idle
    rw [reconcileReport_moved registered found sliced (Bool.not_eq_true _ ▸ moves)] at charged ⊢
    refine ⟨fun name other stored => ?_,fun name other stored => ?_,charged,fun jobId next stored live => ?_,fun jobId next stored => ?_⟩
    · rw [State.ledger,find_insert] at stored
      split at stored
      next same =>
        cases stored
        exact balanced.named name node (same ▸ registered)
      next => exact balanced.named name other stored
    · rw [State.ledger,find_insert] at stored
      split at stored
      · cases stored
        exact distinct_moveGpuCharge (distinct node registered)
      · exact balanced.distinct name other stored
    · rw [State.ledger,find_insert] at stored
      split at stored
      next same =>
        cases stored
        have placed := balanced.placed _ job found live
        refine ⟨placed.distinct,placed.funded,fun name member => ?_,placed.reported,placed.waiting,placed.released⟩
        change ∃ part, (job.perNodeAlloc.insert nodeName _)[name]? = some part
        rw [find_insert]
        split
        · exact ⟨_,rfl⟩
        · exact placed.sliced name member
      next => exact balanced.placed jobId next stored live
    · rw [State.ledger,find_insert] at stored
      split at stored
      · cases stored
        exact balanced.settled _ job found
      · exact balanced.settled jobId next stored

end

section

variable {nodeName : String}

theorem reports_conserved {reports : List (JobId × List Nat)} {s : State} (conserved : Conserved s.jobs s.nodes)
    (distinct : ∀ node : Node, s.nodes[nodeName]? = some node → node.allocResources.Distinct)
    (room : Along (reconcileReport nodeName) (Roomy nodeName) s reports) :
    (∀ n, Conserved (reconcileNodeGpuAllocations nodeName (reports.take n) s).jobs
        (reconcileNodeGpuAllocations nodeName (reports.take n) s).nodes) ↔
      Along (reconcileReport nodeName) (Settles nodeName) s reports := by
  induction reports generalizing s with
  | nil => exact iff_of_true (fun n => by rw [take_nil]; exact conserved) trivial
  | cons report reports ih =>
    have one := conserved_iff_settles conserved distinct room.1
    constructor
    · intro each
      have first := each 1
      exact ⟨one.mp first,(ih first (reconcileReport_distinct distinct) room.2).mp fun n => each (n + 1)⟩
    · intro settles n
      cases n with
      | zero => exact conserved
      | succ n =>
        exact (ih (one.mpr settles.1) (reconcileReport_distinct distinct) room.2).mpr settles.2 n

/-- The books are balanced after every part of a heartbeat just when each of its reports finds what it may
find; and then, once the jobs held on the node have come to their end, nothing is charged to it. -/
theorem heartbeat_keeps_books (config : Config) (s : State) (nodeName : String) (reports : List (JobId × List Nat))
    (conserved : Conserved s.jobs s.nodes)
    (distinct : ∀ node : Node, s.nodes[nodeName]? = some node → node.allocResources.Distinct)
    (room : Along (reconcileReport nodeName) (Roomy nodeName) s reports) :
    ((∀ n, Conserved (reconcileNodeGpuAllocations nodeName (reports.take n) s).jobs
        (reconcileNodeGpuAllocations nodeName (reports.take n) s).nodes) ↔
      Along (reconcileReport nodeName) (Settles nodeName) s reports) ∧
    (Along (reconcileReport nodeName) (Settles nodeName) s reports → Balanced s.ledger →
      ∀ log : List (Env × WalOperation),
        Along (step config) (fun s entry => Shaped s entry.2) (reconcileNodeGpuAllocations nodeName reports s) log →
        Along (step config) (fun s entry => Unraced s entry.2) (reconcileNodeGpuAllocations nodeName reports s) log →
        (∀ (jobId : JobId) (job : Job), (run config (reconcileNodeGpuAllocations nodeName reports s) log).jobs[jobId]? = some job →
          job.state.isFinalized = true ∨ job.isHeldOn nodeName = false) →
        ∀ node : Node, (run config (reconcileNodeGpuAllocations nodeName reports s) log).nodes[nodeName]? = some node →
          ∀ meter : Meter, meter.read node.allocResources = 0) := by
  refine ⟨reports_conserved conserved distinct room,?_⟩
  intro settles balanced log shaped unraced ended node stored meter
  have after : Balanced _ :=
    @invariant_run _ _ _ _ (fun s => Balanced _)
      (fun s report kept met => reconcileReport_balanced kept met.1 met.2) _ _ balanced (room.and settles)
  have finally_ := @invariant_run _ _ _ _ _
    (fun s entry kept met => step_balanced s kept met.1 met.2) _ _ after (shaped.and unraced)
  rw [finally_.charged nodeName node stored meter]
  refine total_eq_zero fun jobId job found => ?_
  have nothing : heldSlice job nodeName = none := by
    rcases ended jobId job found with past | gone
    · exact heldSlice_finalized past
    · simp [heldSlice,gone]
  rw [heldCharge,nothing]
  rfl

def beatSlice : ResourceAllocations := { cpus := 1, devices := (∅ : Table String (List AllocatedDevice)).insert "gpu" (gpuDevices [7]) }

def beatStart : Wal.JobStart where
  jobId := 1
  nodes := ["n1"]
  resources := beatSlice
  perNodeAlloc := (∅ : Table String ResourceAllocations).insert "n1" beatSlice
  runAttempt := 1

def beatEnd : WalOperation := .jobComplete { jobId := 1, exitCode := 0, state := .completed }

def beatLog : List (Env × WalOperation) :=
  raceOpening ++ [(.ordered 2,(WalOperation.jobStart beatStart).stampOccurredAt 2),
    (.ordered 2,(WalOperation.jobStateChange { jobId := 1, oldState := .pending, newState := .running }).stampOccurredAt 2),
    (.ordered 3,beatEnd.stampOccurredAt 3)]

private theorem read_beatSlice {gresName : String} {deviceId : Nat} : Meter.read beatSlice (.device gresName deviceId) ≤ 1 := by
  dsimp only [Meter.read,ResourceAllocations.devicesOf,beatSlice]
  rw [find_insert]
  split
  · change countAt (gpuDevices [7]) deviceId ≤ 1
    rw [countAt_gpuDevices]
    exact count_le_length
  · exact Nat.zero_le 1

private theorem beatSlice_fits : ResourceAllocations.Fits {} beatSlice := by
  rintro (_ | _ | ⟨gresName,deviceId⟩)
  · decide
  · decide
  · exact (Nat.zero_add _).trans_le (read_beatSlice.trans (show 1 ≤ u64Max by decide))

private theorem beat_meets : Along (step {}) (fun s entry => Shaped s entry.2 ∧ Unraced s entry.2) (.fresh {}) beatLog := by
  refine ⟨⟨⟨trivial,trivial⟩,fun job found => (by cases found)⟩,⟨⟨trivial,trivial⟩,fun jobId job found => ?_⟩,
    ⟨⟨trivial,StartShape.of_free rfl (by decide +kernel) (by decide +kernel) beatSlice_fits⟩,.inr ⟨_,rfl,rfl⟩⟩,⟨⟨.inl rfl,trivial⟩,trivial⟩,⟨⟨rfl,trivial⟩,trivial⟩,
    trivial⟩
  change (Std.ExtTreeMap.insert ∅ 1 _)[jobId]? = some job at found
  rw [find_insert] at found
  split at found
  · cases Option.some.inj found
    exact .inr rfl
  · cases found

private theorem beat_balanced (length : Nat) : Balanced (run {} (.fresh {}) (beatLog.take length)).ledger :=
  @invariant_run _ _ _ _ _
    (fun s entry kept met => step_balanced s kept met.1 met.2) _ _ fresh_unheld.balanced (beat_meets.take length)

theorem heartbeat_keeps_books_renamed :
    Along (reconcileReport "n1") (Settles "n1") (run {} (.fresh {}) (beatLog.take 4)) [(1,[8])] ∧
      ∀ n, Conserved (reconcileNodeGpuAllocations "n1" (List.take n [(1,[8])]) (run {} (.fresh {}) (beatLog.take 4))).jobs
        (reconcileNodeGpuAllocations "n1" (List.take n [(1,[8])]) (run {} (.fresh {}) (beatLog.take 4))).nodes := by
  have balanced := beat_balanced 4
  have charged : ((run {} (.fresh {}) (beatLog.take 4)).nodes["n1"]?).map Node.allocResources = some beatSlice := by
    decide +kernel
  have held : ((run {} (.fresh {}) (beatLog.take 4)).jobs[1]?).map (fun job =>
      (decide (job.state.isFinalized = false ∧ job.isHeldOn "n1" = true),job.perNodeAlloc["n1"]?)) = some (true,some beatSlice) := by
    decide +kernel
  generalize run {} _ _ = s at balanced charged held
  have settles : Along (reconcileReport "n1") (Settles "n1") s [(1,[8])] := by
    refine ⟨fun node job slice registered found sliced _ => ?_,trivial⟩
    obtain ⟨same,stored,both⟩ := map_eq_some_iff.mp held
    cases Option.some.inj (stored.symm.trans found)
    obtain ⟨holds,cut⟩ := Prod.mk.inj both
    cases Option.some.inj (sliced.symm.trans cut)
    rw [if_pos (of_decide_eq_true holds)]
    intro id inside
    cases mem_singleton.mp inside
    rfl
  have room : Along (reconcileReport "n1") (Roomy "n1") s [(1,[8])] := by
    refine ⟨fun node registered meter => ?_,trivial⟩
    obtain ⟨same,stored,both⟩ := map_eq_some_iff.mp charged
    cases Option.some.inj (stored.symm.trans registered)
    rw [both,read_fromDeviceIds]
    cases meter with
    | cpus => decide
    | memory => decide
    | device gresName deviceId =>
      have one : (if gresName = "gpu" then List.count deviceId [8] else 0) ≤ 1 := by
        split
        · exact count_le_length
        · exact Nat.zero_le 1
      exact (Nat.add_le_add read_beatSlice one).trans (show 1 + 1 ≤ u64Max by decide)
  exact ⟨settles,(heartbeat_keeps_books {} s "n1" _ balanced.charged (balanced.distinct "n1") room).1.mpr settles⟩

/-- A heartbeat that still names a job which has completed charges its GPU to the node for good. -/
theorem finished_job_charged_again : Conserved (run {} (.fresh {}) beatLog).jobs (run {} (.fresh {}) beatLog).nodes ∧
      ((run {} (.fresh {}) beatLog).jobs[1]?).map Job.state = some .completed ∧
      ¬Conserved (reconcileNodeGpuAllocations "n1" [(1,[8])] (run {} (.fresh {}) beatLog)).jobs
        (reconcileNodeGpuAllocations "n1" [(1,[8])] (run {} (.fresh {}) beatLog)).nodes := by
  refine ⟨(beat_balanced 5).charged,by decide +kernel,fun conserved => ?_⟩
  have charged : ((reconcileNodeGpuAllocations "n1" [(1,[8])] (run {} (.fresh {}) beatLog)).nodes["n1"]?).map (fun node =>
      Meter.read node.allocResources (.device "gpu" 8)) = some 1 := by decide +kernel
  obtain ⟨node,stored,reads⟩ := map_eq_some_iff.mp charged
  have equal := conserved "n1" node stored (.device "gpu" 8)
  rw [reads] at equal
  cases equal

end

end Spur.Cluster
