import Spur.Sched.PlacementPolicy
import Spur.Sched.Prompt

/-! When the nodes of running jobs are expected to be free, and what a later pass makes of it. -/
namespace Spur.Sched
open Spur Spur.Library List Option

structure Waits where
  complete : Nat
  kill : Nat
  timeoutKill : Nat

def busyUntilMarginSecs : Nat := 5

def heldNodes (job : Job) : List String := job.allocatedNodes.filter job.isHeldOn

section

variable (waits : Waits) (now : Time) (job : Job)

def completingEnd : Time := job.endTime.getD now + Duration.seconds waits.complete

def runningEnd : Time :=
  let suspended := job.suspendedSecs + job.suspendedAt.elim 0 fun since => max (Duration.numSeconds (now - since)) 0
  let limitSecs := Duration.numSeconds (job.spec.timeLimit.getD unlimitedJobDuration)
  let slackSecs := min (limitSecs + suspended + waits.timeoutKill) (Duration.numSeconds unlimitedJobDuration)
  let end_ := job.startTime.getD now + Duration.seconds slackSecs
  job.preemptGrace.elim end_ fun pending => min end_ (pending.deadline + Duration.seconds (waits.kill + busyUntilMarginSecs))

def releaseAt : Time :=
  max (if job.state = .completing then completingEnd waits now job else runningEnd waits now job) now

end

def busyUntilFromRunningJobs (waits : Waits) (now : Time) (running : List Job) : Table String Time :=
  running.foldl (fun busy job => (heldNodes job).foldl (fun busy node =>
    busy.insert node ((busy[node]?).elim (releaseAt waits now job) (max · (releaseAt waits now job)))) busy) ∅

section

variable {waits : Waits} {now : Time}

private theorem raise_find (at_ : Time) (nodes : List String) (busy : Table String Time) (name : String) :
    (nodes.foldl (fun busy node => busy.insert node ((busy[node]?).elim at_ (max · at_))) busy)[name]? =
      if name ∈ nodes then some ((busy[name]?).elim at_ (max · at_)) else busy[name]? := by
  induction nodes generalizing busy with
  | nil => simp
  | cons node nodes ih =>
    rw [foldl_cons,ih,Table.find_insert]
    by_cases same : node = name
    · subst same
      rw [if_pos rfl,if_pos mem_cons_self]
      split
      · cases busy[node]? with
        | none => simp
        | some old => simp
      · rfl
    · have elsewhere : name ∈ node :: nodes ↔ name ∈ nodes := by simp [Ne.symm same]
      simp only [if_neg same,elsewhere]

private theorem foldl_raise (last : Time) (times : List Time) :
    times.foldl (fun (latest : Option Time) at_ => some (latest.elim at_ (max · at_))) (some last) =
      some (times.foldl max last) := by
  induction times generalizing last with
  | nil => rfl
  | cons at_ times ih => exact ih _

theorem busyUntil_find (running : List Job) (name : String) : (busyUntilFromRunningJobs waits now running)[name]? =
      ((running.filter fun job => job.isHeldOn name).map (releaseAt waits now)).max? := by
  have fold : ∀ (running : List Job) (busy : Table String Time),
      (running.foldl (fun busy job => (heldNodes job).foldl (fun busy node =>
        busy.insert node ((busy[node]?).elim (releaseAt waits now job) (max · (releaseAt waits now job)))) busy) busy)[name]? =
      ((running.filter fun job => job.isHeldOn name).map (releaseAt waits now)).foldl
        (fun latest at_ => some (latest.elim at_ (max · at_))) busy[name]? := by
    intro running
    induction running with
    | nil => exact fun _ => rfl
    | cons job running ih =>
      intro busy
      rw [foldl_cons,ih,raise_find]
      by_cases held : job.isHeldOn name
      · have listed : name ∈ heldNodes job := by
          have allocated := held
          simp only [Job.isHeldOn,Bool.and_eq_true,contains_iff_mem] at allocated
          exact mem_filter.mpr ⟨allocated.1,held⟩
        rw [if_pos listed,filter_cons,if_pos held]
        rfl
      · rw [if_neg fun listed : name ∈ heldNodes job => held (mem_filter.mp listed).2,filter_cons,if_neg held]
  unfold busyUntilFromRunningJobs
  rw [fold running ∅]
  cases (running.filter fun job => job.isHeldOn name).map _ with
  | nil => simp
  | cons first rest =>
    rw [foldl_cons,List.max?_cons',Std.ExtTreeMap.getElem?_empty,elim_none,foldl_raise]

end

variable {name : String} {jobId : JobId} {until_ : Time}

section

variable {cluster : Cluster} {now : Time}

def StillHeld (waits : Waits) (read now : Time) (running : List Job) (name : String) : Prop :=
  (∃ job ∈ running, job.isHeldOn name) → ∃ job ∈ running, job.isHeldOn name ∧ now < releaseAt waits read job

theorem stillHeld_iff {waits : Waits} {read : Time} {running : List Job} : StillHeld waits read now running name ↔
      ∀ until_, (busyUntilFromRunningJobs waits read running)[name]? = some until_ → now < until_ := by
  constructor
  · intro still until_ found
    rw [busyUntil_find] at found
    obtain ⟨member,largest⟩ := List.max?_eq_some_iff.mp found
    obtain ⟨job,listed,_⟩ := List.mem_map.mp member
    obtain ⟨inside,held⟩ := mem_filter.mp listed
    obtain ⟨other,there,holds,later⟩ := still ⟨job,inside,held⟩
    exact later.trans_le (largest _ (List.mem_map_of_mem (mem_filter.mpr ⟨there,holds⟩)))
  · rintro ahead ⟨job,inside,held⟩
    have some_ : ((running.filter fun job => job.isHeldOn name).map (releaseAt waits read)) ≠ [] :=
      ne_nil_of_mem (List.mem_map_of_mem (mem_filter.mpr ⟨inside,held⟩))
    obtain ⟨latest,found⟩ := ne_none_iff_exists'.mp fun none_ => some_ (List.max?_eq_none_iff.mp none_)
    obtain ⟨other,listed,rfl⟩ := List.mem_map.mp (List.max?_mem found)
    obtain ⟨there,holds⟩ := mem_filter.mp listed
    exact ⟨other,there,holds,ahead _ (by rw [busyUntil_find,found])⟩

end

section

variable {cluster : Cluster} {now : Time} {node : Node}

theorem earliestStart_of_over {timeline : NodeTimeline} {request : ResourceSet} {duration : Duration} {slot : Interval}
    (only : timeline.intervals = [slot]) (starts : slot.start ≤ now) (ended : slot.end_ ≤ now) :
    timeline.earliestStart request duration now = now := by
  have gone : AllocationSweep.new timeline.intervals now = ⟨({} : ResourceAllocations).add slot.resources |>.subtract
      slot.resources,[],[]⟩ := by
    rw [only]
    simp [AllocationSweep.new,AllocationSweep.advanceTo,AllocationSweep.enter,AllocationSweep.push,AllocationSweep.leave,
      starts,ended]
  have skipped : ∀ sweep, ∀ slots : List Interval, slots.Sublist timeline.intervals →
      (timeline.durationBlocker request now sweep slots).1 = none := by
    intro sweep slots inside
    rw [only,sublist_singleton] at inside
    rcases inside with rfl | rfl
    · rfl
    · simp [NodeTimeline.durationBlocker,starts]
  have first : timeline.startRound request duration (now + maxLookahead)
      (now,AllocationSweep.new timeline.intervals now) = .inr now := by
    rw [gone]
    unfold NodeTimeline.startRound
    dsimp only
    rw [if_neg lt_lookahead.not_gt]
    have still : AllocationSweep.advanceTo ⟨({} : ResourceAllocations).add slot.resources |>.subtract
        slot.resources,[],[]⟩ now = ⟨({} : ResourceAllocations).add _ |>.subtract slot.resources,[],[]⟩ := rfl
    rw [still]
    split
    · split
      next jump sweep found =>
        have clear := skipped ⟨({} : ResourceAllocations).add slot.resources |>.subtract slot.resources,[],[]⟩ _
          (takeWhile_sublist (fun i : Interval => decide (i.start < now + duration)))
        rw [found] at clear
        cases clear
      · rfl
    · rfl
  have answer := timeline.earliestStart_answer request duration now
  rw [advance_first first] at answer
  exact (Option.some.inj answer).symm

structure Open (cluster : Cluster) (now : Time) (node : Node) : Prop where
  free : node.isK0sReserved = false
  up : node.state.isUp
  laidOut : node.layoutBlocked = false
  unreserved : ∀ reservation ∈ cluster.reservations, reservation.coversNode node.name → reservation.isActive now = false

def wholeSpec : JobSpec := { exclusive := true, timeLimit := some 1 }

def wholeOf (jobId : JobId) (name : String) : PendingJob :=
  { toJob := Job.new 0 jobId wholeSpec, preferredNodes := {name} }

theorem wholeSpec_unbound : requiresGpuProperties wholeSpec = false := by decide +kernel

theorem wholeSpec_valid {fabric : Bool} : constraintOk fabric wholeSpec := by
  cases fabric <;> decide +kernel

theorem new_wholeOf (jobId : JobId) (name : String) : NodePlacement.new (wholeOf jobId name) =
    { job := (wholeOf jobId name).toJob, nodelist := some {name}, exclude := ∅, requiredFeatures := [], partitions := [] } := by
  have parsed : Constraints.parse none = some {} := by decide +kernel
  unfold NodePlacement.new NodePlacement.build
  simp [wholeOf,wholeSpec,Job.new,named,parsed]

theorem eligible_wholeOf (open_ : Open cluster now node) :
    (NodePlacement.new (wholeOf jobId node.name)).eligible node cluster.reservations now := by
  rw [new_wholeOf]
  have clear : cluster.reservations.filter (fun r => r.isActive now && r.coversNode node.name) = [] := by
    rw [filter_eq_nil_iff]
    intro reservation inside both
    rw [Bool.and_eq_true] at both
    rw [open_.unreserved _ inside both.2] at both
    cases both.1
  simp [NodePlacement.eligible,NodePlacement.allowsName,NodePlacement.isListed,NodePlacement.inPartition,
    NodePlacement.hasFeatures,NodePlacement.reservationOk,clear,wholeOf,wholeSpec,Job.new,named]

theorem exists_unblocked {cluster : Cluster} :
    ∃ jobId, (HandoffGate.mk cluster.handoffs ∅ []).blockers jobId name = [] := by
  unfold HandoffGate.blockers
  cases cluster.handoffs[name]? with
  | none => exact ⟨0,rfl⟩
  | some owners => cases owners with
    | nil => exact ⟨0,rfl⟩
    | cons owner owners =>
      refine ⟨owner,?_⟩
      rw [filter_some]
      simp

theorem blocker_wholeOf (open_ : Open cluster now node) : reservationBlocker cluster.reservations
    (wholeOf jobId node.name) node.name now (jobDuration (wholeOf jobId node.name).spec) = none := by
  unfold reservationBlocker
  rw [List.max?_eq_none_iff,map_eq_nil_iff,filter_eq_nil_iff]
  intro reservation inside overlap
  simp only [prospectiveOverlapAt,Bool.and_eq_true,decide_eq_true_eq] at overlap
  obtain ⟨⟨⟨covers,_⟩,before⟩,after⟩ := overlap
  have started : reservation.startTime ≤ now := Int.lt_add_one_iff.mp before
  have active := open_.unreserved _ inside covers
  simp [Reservation.isActive,started,after] at active

theorem mem_findSuitable_wholeOf (names : (cluster.nodes.map Node.name).Nodup) (inside : node ∈ cluster.nodes) {gate : HandoffGate} {candidate : NodeTimeline × Nat}
    (suitable : candidate ∈ findSuitableNodes cluster.reservations (wholeOf jobId node.name) gate now
      (cluster.nodes.map (seed cluster now))) : candidate.1 = seed cluster now node := by
  obtain ⟨at_,usable,_⟩ := mem_findSuitableNodes suitable
  obtain ⟨other,there,same⟩ := List.mem_map.mp (mem_of_getElem? at_)
  rw [new_wholeOf] at usable
  have named_ : other.name = node.name := by
    rw [← same,seed_node] at usable
    simp only [NodePlacement.matchesForReservation,NodePlacement.eligible,NodePlacement.allowsName,Bool.and_eq_true] at usable
    have listed := usable.1.1.2.1.1.1.1
    simpa [NodePlacement.nodelistIsAdditive,NodePlacement.isListed,wholeOf,wholeSpec,Job.new] using listed
  rw [← same,inj_on_of_nodup_map names there inside named_]

theorem placeJob_wholeOf (names : (cluster.nodes.map Node.name).Nodup) (inside : node ∈ cluster.nodes)
    (open_ : Open cluster now node) (charged : 0 < node.allocResources.cpus)
    (within : node.allocResources.cpus ≤ node.totalResources.cpus)
    (late : cluster.busyUntil[node.name]? = some until_) (passed : until_ ≤ now)
    (unblocked : (HandoffGate.mk cluster.handoffs ∅ []).blockers jobId node.name = []) :
    ∃ placement, placeJob cluster.reservations (wholeOf jobId node.name) (HandoffGate.mk cluster.handoffs ∅ []) now
      (cluster.nodes.map (seed cluster now)) cluster.selectLocalNodes = some placement ∧ placement.start = now := by
  have taken : node.isCharged := by simp [Node.isCharged,charged]
  have slots : (seed cluster now node).intervals = [⟨now,until_,node.allocResources,none⟩] ∧
      (seed cluster now node).node = node := by
    rw [seed_intervals,if_pos taken,busyUntil,late]
    exact ⟨rfl,seed_node⟩
  have soon : ∀ candidate ∈ findSuitableNodes cluster.reservations (wholeOf jobId node.name)
      (HandoffGate.mk cluster.handoffs ∅ []) now (cluster.nodes.map (seed cluster now)),
      (rank cluster.reservations (wholeOf jobId node.name) (HandoffGate.mk cluster.handoffs ∅ []) now candidate).start ≤
        now := by
    intro candidate suitable
    have same := mem_findSuitable_wholeOf names inside suitable
    unfold rank
    dsimp only
    rw [same,slots.2]
    have floor : (HandoffGate.mk _ ∅ []).floor (wholeOf jobId node.name).jobId _ now = now :=
      (gate_unblocked unblocked).2
    rw [floor]
    refine (earliestValidStart_of_free (earliestStart_of_over slots.1 le_rfl passed) ?_).le
    rw [slots.2]
    exact blocker_wholeOf open_
  have even : heterogeneous (wholeOf jobId node.name) = false := rfl
  refine placeJob_soon even ?_ (.inr fun ranked there => ?_)
  · obtain ⟨index,at_⟩ := mem_iff_getElem?.mp (List.mem_map_of_mem (f := seed cluster now) inside)
    have suitable : (seed cluster now node,index) ∈ findSuitableNodes cluster.reservations (wholeOf jobId node.name)
        (HandoffGate.mk cluster.handoffs ∅ []) now (cluster.nodes.map (seed cluster now)) := by
      have separate : (NodePlacement.new (wholeOf jobId node.name)).nodelistIsAdditive = false := by
        rfl
      unfold findSuitableNodes NodePlacement.additiveListedNodeUnavailable
      dsimp only
      rw [separate,Bool.and_false,Bool.false_and]
      refine mem_filter.mpr ⟨List.mem_zipIdx_iff_getElem?.mpr at_,?_⟩
      have large : node.totalResources.canSatisfy (jobResourceRequest (wholeOf jobId node.name).spec) := by
        have single : jobResourceRequest wholeSpec = { cpus := 1 } := by decide +kernel
        change node.totalResources.canSatisfy (jobResourceRequest wholeSpec)
        rw [single]
        have room : 1 ≤ node.totalResources.cpus := charged.trans_le within
        simp [ResourceSet.canSatisfy,ResourceSet.canSatisfyWithAllocated,ResourceSet.gpuCounts,room]
      have shown : (HandoffGate.mk _ ∅ []).hides (wholeOf jobId node.name).jobId _ = false :=
        (@gate_unblocked _ now _ _ unblocked).1
      simp only [slots.2,NodePlacement.matchesForReservation,eligible_wholeOf open_,open_.free,open_.up,
        open_.laidOut,large,shown,Bool.not_false,Bool.and_self]
    refine (countP_pos_iff.mpr ⟨_,List.mem_map_of_mem suitable,?_⟩)
    simpa using soon _ suitable
  · obtain ⟨candidate,suitable,rfl⟩ := List.mem_map.mp there
    exact soon candidate suitable

theorem late_node_given_twice (names : (cluster.nodes.map Node.name).Nodup) (inside : node ∈ cluster.nodes)
    (open_ : Open cluster now node) (charged : 0 < node.allocResources.cpus)
    (within : node.allocResources.cpus ≤ node.totalResources.cpus)
    (late : cluster.busyUntil[node.name]? = some until_) (passed : until_ ≤ now) :
    ∃ job : PendingJob, 0 < jobDuration job.spec ∧ ¬ Fits node.totalResources
      (node.allocResources :: given (scheduleJobs cluster now [job] 1).assignments node.name) := by
  obtain ⟨jobId,unblocked⟩ := exists_unblocked
  refine ⟨wholeOf jobId node.name,Int.zero_lt_one,fun fits => ?_⟩
  obtain ⟨placement,found,start⟩ := placeJob_wholeOf names inside open_ charged within late passed unblocked
  have seeds : (nodeNames (cluster.nodes.map (seed cluster now))).Nodup := by
    rwa [nodeNames_nodes,seed_nodes]
  have placed := placeJob_placed found
  obtain ⟨ranked,picked⟩ : ∃ ranked, ranked ∈ placement.picked := by
    have count := (placeJob_chosen seeds found start.le).count
    rw [Placement.names,length_map] at count
    exact exists_mem_of_length_pos (count ▸ Nat.one_pos)
  obtain ⟨candidate,suitable,same⟩ := mem_picked ((placeJob_some.mp found).2.1 ▸ picked)
  have timeline : ranked.timeline = seed cluster now node := by
    rw [same]
    exact mem_findSuitable_wholeOf names inside suitable
  have own : (seed cluster now node).node = node := seed_node
  obtain ⟨alloc,stored,shares⟩ := plannedAt_find placed.planned (placed.names_nodup seeds) picked
  have whole : alloc.cpus = node.totalResources.cpus := by
    rcases shares with ⟨_,rfl⟩ | ⟨uneven,_⟩
    · unfold uniformAlloc
      rw [timeline,NodeTimeline.total,own]
      exact (buildExclusiveAllocation_scalars _).1
    · cases uneven
  have planned := @planAt_of_placeJob (wholeOf jobId _) now cluster _ 0 placement
    (leftOut_single wholeSpec_unbound) wholeSpec_valid (fun _ => wholeSpec_unbound) found start
  have first : [wholeOf jobId node.name][0]? = some _ := rfl
  have listed : alloc ∈ given (scheduleJobs cluster now [wholeOf jobId node.name] 1).assignments node.name := by
    refine mem_filterMap.mpr ⟨_,mem_assignments.mpr ⟨0,_,_,Nat.one_pos,first,planned,start.le,rfl⟩,?_⟩
    rw [Ranked.name,timeline,own] at stored
    exact stored
  have counted := fits.cpus
  have part := single_le_sum (fun _ _ => Nat.zero_le _) _ (List.mem_map_of_mem (f := ResourceAllocations.cpus) listed)
  rw [map_cons,sum_cons] at counted
  omega

end

section

variable {cluster : Cluster} {waits : Waits} {read now : Time} {running : List Job}

/-- With the releases read from the running jobs at one instant and a pass at another, held nodes keep what they hold
if on each charged node that a running or completing job holds one such job is expected to leave later; and on an open
node charged with cpus, only then. Charges fit their nodes and hold a cpu or a device if they hold memory. -/
theorem held_while_release_ahead (names : (cluster.nodes.map Node.name).Nodup)
    (formed : ∀ node ∈ cluster.nodes, node.totalResources.WellFormed)
    (charges : ∀ node ∈ cluster.nodes, WellCharged node)
    (releases : cluster.busyUntil = busyUntilFromRunningJobs waits read running) :
    ((∀ node ∈ cluster.nodes, node.isCharged → StillHeld waits read now running node.name) →
      ∀ (pending : List PendingJob) (maxJobs : Nat), (∀ job ∈ pending, 0 < jobDuration job.spec) →
        (pending.map (·.jobId)).Nodup → ∀ node ∈ cluster.nodes, Fits node.totalResources
          (node.allocResources :: given (scheduleJobs cluster now pending maxJobs).assignments node.name)) ∧
    ∀ node ∈ cluster.nodes, Open cluster now node → 0 < node.allocResources.cpus →
      ¬ StillHeld waits read now running node.name → ∃ job : PendingJob, 0 < jobDuration job.spec ∧
        ¬ Fits node.totalResources
          (node.allocResources :: given (scheduleJobs cluster now [job] 1).assignments node.name) := by
  constructor
  · intro still pending maxJobs lasts ids
    refine fits_of_seeds names formed charges (fun node inside charged until_ found => ?_) lasts ids
    rw [releases] at found
    exact stillHeld_iff.mp (still node inside charged) until_ found
  · intro node inside open_ charged late
    rw [stillHeld_iff] at late
    push Not at late
    obtain ⟨until_,found,passed⟩ := late
    rw [← releases] at found
    have within := (charges node inside).fits.cpus
    exact late_node_given_twice names inside open_ charged within found passed

end

section

def tenSecondJob : Job :=
  { Job.new 0 1 { timeLimit := some (Duration.seconds 10) } with
    state := .running, startTime := some 0, allocatedNodes := ["n1"] }

def noWaits : Waits := ⟨0,0,0⟩

def overdue (held : ResourceAllocations) (read : Time) (running : List Job) : Cluster :=
  { loneCluster { cpus := 4, memoryMb := 8 } held none with busyUntil := busyUntilFromRunningJobs noWaits read running }

theorem wellCharged_overdue {held : ResourceAllocations} (cpus : held.cpus ≤ 4) (memory : held.memoryMb ≤ 8)
    (devices : held.devices = ∅) (some_ : 0 < held.cpus) (read : Time) (running : List Job) :
    ∀ node ∈ (overdue held read running).nodes, WellCharged node := by
  intro node inside
  rw [mem_singleton.mp inside]
  refine ⟨⟨⟨by simpa [Node.new] using cpus,by simpa [Node.new] using memory,fun name _ => ?_⟩,?_,?_,?_⟩,fun _ => ?_⟩
  · simp [ResourceAllocations.totalDeviceCount,ResourceAllocations.devicesOf,devices]
  · simp [ResourceAllocations.deviceIds,ResourceAllocations.devicesOf,devices]
  · simp [ResourceAllocations.deviceIds,ResourceAllocations.devicesOf,devices]
  · simp [ResourceAllocations.devicesOf,devices]
  · simp [Node.isCharged,some_]

theorem held_while_release_ahead_ten_seconds : Fits { cpus := 4, memoryMb := 8 } ({ cpus := 2 } :: given (scheduleJobs
        (overdue { cpus := 2 } (Duration.seconds 5) [tenSecondJob]) (Duration.seconds 6)
        [request 2 { numTasks := 2 }] 10).assignments "n1") ∧
      ∃ job : PendingJob, 0 < jobDuration job.spec ∧ ¬ Fits { cpus := 4, memoryMb := 8 } ({ cpus := 2 } ::
        given (scheduleJobs (overdue { cpus := 2 } (Duration.seconds 20) [tenSecondJob]) (Duration.seconds 21) [job]
          1).assignments "n1") := by
  have names : ∀ read, ((overdue { cpus := 2 } read [tenSecondJob]).nodes.map Node.name).Nodup :=
    fun _ => nodup_singleton _
  have charges := @wellCharged_overdue { cpus := 2 } (by decide) (by decide) rfl (by decide)
  have formed : ∀ read, ∀ node ∈ (overdue { cpus := 2 } read [tenSecondJob]).nodes, node.totalResources.WellFormed := by
    intro read node inside
    rw [mem_singleton.mp inside]
    exact { inRange_of_noGeneric (by decide) (by decide) rfl with
      distinct := nodup_nil, noGenericGpu := by simp [Node.new], noWildcard := by simp [Node.new] }
  constructor
  · refine (held_while_release_ahead (names _) (formed _) (charges _ _) rfl).1 (fun node inside _ _ => ?_) _ _
      (by simp [request,Job.new,jobDuration,unlimitedJobDuration,Duration.seconds]) (by simp) _ (mem_singleton_self _)
    rw [mem_singleton.mp inside]
    exact ⟨tenSecondJob,mem_singleton_self _,by decide,by decide +kernel⟩
  · refine (held_while_release_ahead (names _) (formed _) (charges _ _) rfl).2 _ (mem_singleton_self _)
      ⟨rfl,rfl,rfl,by simp [overdue,loneCluster]⟩ (by decide) fun still => ?_
    obtain ⟨job,inside,_,later⟩ := still ⟨tenSecondJob,mem_singleton_self _,by decide⟩
    rw [mem_singleton.mp inside] at later
    exact absurd later (by decide +kernel)

/-- A node held by a job past its time limit, with the release read a second before the pass, and a node of which only
memory is held, are given out again. -/
theorem overdue_node_given_twice : (¬ Fits { cpus := 4, memoryMb := 8 } ({ cpus := 2 } :: given (scheduleJobs
      (overdue { cpus := 2 } (Duration.seconds 20) [tenSecondJob]) (Duration.seconds 21)
      [request 2 { numTasks := 3 }] 10).assignments "n1")) ∧
    ¬ Fits { cpus := 4, memoryMb := 8 } ({ memoryMb := 6 } :: given (scheduleJobs
      (overdue { memoryMb := 6 } (Duration.seconds 5) [tenSecondJob]) (Duration.seconds 5)
      [request 2 { memoryPerNodeMb := some 6 }] 10).assignments "n1") := by
  constructor
  · exact fun fits => absurd fits.cpus (by decide +kernel)
  · exact fun fits => absurd fits.memory (by decide +kernel)

end

end Spur.Sched
