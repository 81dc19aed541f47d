import Spur.TaskLaunch

/-! Fan-out of a batch launch, from `spurctld::scheduler_loop`, `spurd::agent_server` and `spur_core::task_launch`. -/
namespace Spur.FanOut
open Spur.Sched Spur.TaskLaunch List Option

def mpiPmix : String := "pmix"

def mpiMpirun : String := "mpirun"

inductive BatchLaunch where
  | script | loneRank | fanOut | mpirun
  deriving DecidableEq

def useMultiTaskLaunch (tasksPerNode : Nat) (taskFanout : Bool) (mpi : String) (usesStepLaunch : Bool) : Bool :=
  if tasksPerNode ≤ 1 then false
  else if mpi = mpiMpirun then false
  else if taskFanout then true
  else mpi = mpiPmix && !usesStepLaunch

def batchLaunch (tasksPerNode : Nat) (taskFanout : Bool) (mpi : String) (usesStepLaunch : Bool) : BatchLaunch :=
  if mpi = mpiMpirun && taskFanout then .mpirun
  else if useMultiTaskLaunch tasksPerNode taskFanout mpi usesStepLaunch then .fanOut
  else if mpi = mpiPmix && !usesStepLaunch then .loneRank
  else .script

section

variable (spec : JobSpec)

def evenShare : Nat := max (spec.numTasks / max spec.numNodes 1) 1

def dispatchTasksPerNode : Nat := spec.tasksPerNode.getD (evenShare spec)

def taskOffset (nodeIdx : Nat) : Nat := wrap32 (nodeIdx * dispatchTasksPerNode spec)

/-- `tasks_per_node` as the agent reads it from the request, where zero stands for none. -/
def agentTasksPerNode : Nat := if spec.tasksPerNode.getD 0 > 0 then spec.tasksPerNode.getD 0 else evenShare spec

/-- The ranks one agent starts for a launch that is to fan out. Under mpirun it is not the agent that starts them. -/
def startedRanks (usesStepLaunch : Bool) (nodeIdx : Nat) : List Nat :=
  match batchLaunch (agentTasksPerNode spec) true (spec.mpi.getD "") usesStepLaunch with
  | .fanOut => (localProcs (taskOffset spec nodeIdx) (agentTasksPerNode spec)).map PmixLocalProc.rank
  | .loneRank | .script => [procid (taskOffset spec nodeIdx) 0]
  | .mpirun => []

/-- Every task runs once, and every node runs the tasks that were charged to it. -/
structure LaunchesEach (usesStepLaunch : Bool) (nodes : Nat) : Prop where
  ranks : ((List.range nodes).flatMap (startedRanks spec usesStepLaunch)).Perm (List.range spec.numTasks)
  charged : (List.range nodes).map (fun node => (startedRanks spec usesStepLaunch node).length) =
    tasksPerNodeCounts spec nodes

end

section

theorem getElem?_counted (mapping : List Nat) (counts : List Nat) (node : Nat) :
    (mapping.foldl (fun counts node => counts.modify node (· + 1)) counts)[node]? =
      counts[node]?.map (· + mapping.count node) := by
  induction mapping generalizing counts with
  | nil => simp
  | cons first mapping ih =>
    rw [foldl_cons,ih,List.getElem?_modify]
    by_cases same : first = node
    · subst same
      cases counts[first]? with
      | none => simp
      | some count => simp; omega
    · simp [same]

theorem count_filled (share node : Nat) (nodes : List Nat) :
    (nodes.flatMap fun node => List.replicate share node).count node = nodes.count node * share := by
  induction nodes with
  | nil => simp
  | cons first nodes ih =>
    rw [flatMap_cons,count_append,count_cons,count_replicate,Nat.add_mul]
    split <;> omega

theorem dealt_rounds (nodes rounds : Nat) :
    ((List.range (rounds * nodes)).map fun task => task % nodes) = (List.replicate rounds (List.range nodes)).flatten := by
  induction rounds with
  | zero => simp
  | succ rounds ih =>
    rw [Nat.succ_mul,range_add,map_append,replicate_succ',flatten_append,flatten_singleton,List.map_map]
    congr 1
    refine (map_congr_left fun task listed => ?_).trans (List.map_id _)
    have small := mem_range.mp listed
    simp [Nat.mod_eq_of_lt small]

theorem count_rounds (rounds node : Nat) (nodes : List Nat) :
    (List.replicate rounds nodes).flatten.count node = rounds * nodes.count node := by
  induction rounds with
  | zero => simp
  | succ rounds ih => rw [replicate_succ,flatten_cons,count_append,ih,Nat.succ_mul,Nat.add_comm]

theorem count_distributed {nodes share node : Nat} (listed : node < nodes) (distribution : TaskDistribution) :
    (distributeTasks (nodes * share) nodes distribution).count node = share := by
  have some_ : max nodes 1 = nodes := max_eq_left (by omega)
  have once : (List.range nodes).count node = 1 := count_eq_one_of_mem nodup_range (mem_range.mpr listed)
  have even : nodes * share / nodes = share := Nat.mul_div_cancel_left share (by omega)
  have rest : nodes * share % nodes = 0 := Nat.mul_mod_right nodes share
  have filled : ((List.range nodes).flatMap fun node =>
      List.replicate (nodes * share / nodes + if node < nodes * share % nodes then 1 else 0) node).count node = share := by
    simp only [even,rest,Nat.not_lt_zero,if_false,Nat.add_zero]
    rw [count_filled,once,Nat.one_mul]
  have dealt : ((List.range (nodes * share)).map fun task => task % nodes).count node = share := by
    rw [Nat.mul_comm,dealt_rounds,count_rounds,once,Nat.mul_one]
  unfold distributeTasks
  rw [some_]
  cases distribution with
  | block | plane => exact filled
  | cyclic | arbitrary => exact dealt

theorem tasksPerNodeCounts_even {spec : JobSpec} {nodes share : Nat} (implicit : spec.tasksPerNode = none)
    (even : spec.numTasks = nodes * share) : tasksPerNodeCounts spec nodes = List.replicate nodes share := by
  apply ext_getElem?
  intro node
  unfold tasksPerNodeCounts
  rw [implicit]
  rw [getElem?_counted,even]
  by_cases listed : node < nodes
  · rw [count_distributed listed,List.getElem?_replicate,if_pos listed,List.getElem?_replicate,if_pos listed,
      map_some,Nat.zero_add]
  · rw [List.getElem?_replicate,if_neg listed,List.getElem?_replicate,if_neg listed,map_none]

end

section

variable {spec : JobSpec} {usesStepLaunch : Bool}

theorem startedRanks_eq (implicit : spec.tasksPerNode = none) (agents : spec.mpi ≠ some mpiMpirun) (nodeIdx : Nat) :
    startedRanks spec usesStepLaunch nodeIdx = List.range' (taskOffset spec nodeIdx) (evenShare spec) := by
  have local_ : agentTasksPerNode spec = evenShare spec := by
    unfold agentTasksPerNode
    rw [implicit]
    rfl
  have other : spec.mpi.getD "" ≠ mpiMpirun := by
    intro same
    cases named : spec.mpi with
    | none => rw [named] at same; exact absurd same (by decide)
    | some mpi => rw [named] at same; exact agents (named.trans (congrArg some same))
  have positive : 1 ≤ evenShare spec := le_max_right _ _
  unfold startedRanks batchLaunch useMultiTaskLaunch
  rw [local_]
  simp only [other,decide_false,Bool.false_and,if_false]
  by_cases single : evenShare spec ≤ 1
  · have one : evenShare spec = 1 := Nat.le_antisymm single positive
    simp only [single,if_true,Bool.false_eq_true,if_false]
    rw [one]
    split
    next shape => split at shape <;> cases shape
    · rfl
    · rfl
    next shape => split at shape <;> cases shape
  · simp only [single,if_false]
    unfold localProcs procid
    rw [List.map_map,range'_eq_map_range]
    rfl

theorem flatMap_range' (share nodes : Nat) :
    (List.range nodes).flatMap (fun node => List.range' (node * share) share) = List.range (nodes * share) := by
  induction nodes with
  | zero => simp
  | succ nodes ih =>
    rw [range_succ,flatMap_append,ih,Nat.succ_mul,range_add,flatMap_singleton,range'_eq_map_range]

/-- A fan-out starts every task once and as charged exactly when the tasks divide evenly among the nodes. -/
theorem fanout_launches_each_iff (spec : JobSpec) (usesStepLaunch : Bool) (implicit : spec.tasksPerNode = none)
    (agents : spec.mpi ≠ some mpiMpirun) (enough : max spec.numNodes 1 ≤ spec.numTasks) (word : spec.numTasks ≤ u32Max) :
    LaunchesEach spec usesStepLaunch (max spec.numNodes 1) ↔ max spec.numNodes 1 ∣ spec.numTasks := by
  have some_ : 0 < max spec.numNodes 1 := by omega
  have share : evenShare spec = spec.numTasks / max _ 1 :=
    max_eq_left ((Nat.one_le_div_iff some_).mpr enough)
  have started := @startedRanks_eq spec usesStepLaunch implicit agents
  constructor
  · intro each
    have lengths := each.ranks.length_eq
    rw [length_flatMap] at lengths
    simp only [started,length_range',map_const',sum_replicate,length_range] at lengths
    exact ⟨_,lengths.symm⟩
  · rintro ⟨quotient,even⟩
    have exact_ : evenShare spec = quotient := by rw [share,even,Nat.mul_div_cancel_left _ some_]
    have offset : ∀ node < max spec.numNodes 1, taskOffset spec node = node * quotient := by
      intro node listed
      unfold taskOffset dispatchTasksPerNode wrap32
      rw [implicit,getD_none,exact_]
      have below : node * quotient ≤ max _ 1 * quotient := Nat.mul_le_mul_right _ listed.le
      unfold u32Max at word
      omega
    refine ⟨List.Perm.of_eq ?_,?_⟩
    · rw [even,← flatMap_range']
      refine flatMap_congr fun node listed => ?_
      rw [started,exact_,offset node (mem_range.mp listed)]
    · rw [tasksPerNodeCounts_even implicit even]
      simp only [started,length_range',map_const',length_range,exact_]

theorem fanout_launches_each_iff_six : LaunchesEach { numNodes := 3, numTasks := 6 } false 3 ↔ 3 ∣ 6 :=
  fanout_launches_each_iff _ false rfl (by decide) (by decide) (by decide)

/-- Five tasks on two nodes: both start two, the first was charged three, and rank 4 is never started. -/
theorem fanout_drops_the_remainder :
    let spec : JobSpec := { numNodes := 2, numTasks := 5 }
    startedRanks spec false 0 = [0,1] ∧ startedRanks spec false 1 = [2,3] ∧ tasksPerNodeCounts spec 2 = [3,2] ∧
      ¬LaunchesEach spec false 2 := by
  refine ⟨by decide,by decide,by decide,fun each => ?_⟩
  have counts := each.charged
  revert counts
  decide

end

end Spur.FanOut
