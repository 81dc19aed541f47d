import Spur.Sched.Request

/-! The ranks of a step, from `spur_core::task_launch`, `mpi` and `spur_env`. -/
namespace Spur.TaskLaunch
open Spur.Sched List

structure NodeStepTasks where
  nodeIndex : Nat
  taskOffset : Nat
  tasksOnNode : Nat
  deriving DecidableEq

def taskIds (mapping : List Nat) (node : Nat) : List Nat := (mapping.zipIdx.filter fun task => task.1 = node).map Prod.snd

def nodeTasks (mapping : List Nat) (node : Nat) : Option NodeStepTasks :=
  match taskIds mapping node with
  | [] => none
  | first :: rest => some ⟨node,first,(first :: rest).length⟩

def buildStepTaskPlan (numTasks numNodes : Nat) (distribution : TaskDistribution) : List NodeStepTasks :=
  if numTasks = 0 then []
  else
    let numNodes := max numNodes 1
    (List.range numNodes).filterMap (nodeTasks (distributeTasks numTasks numNodes distribution))

def procid (taskOffset localRank : Nat) : Nat := taskOffset + localRank

structure PmixLocalProc where
  rank : Nat
  localRank : Nat
  deriving DecidableEq

def localProcs (taskOffset localCount : Nat) : List PmixLocalProc :=
  (List.range localCount).map fun localRank => ⟨procid taskOffset localRank,localRank⟩

def launchedRanks (plan : List NodeStepTasks) : List (Nat × Nat) :=
  plan.flatMap fun tasks => (localProcs tasks.taskOffset tasks.tasksOnNode).map fun proc => (tasks.nodeIndex,proc.rank)

structure RanksPartition (numTasks numNodes : Nat) (distribution : TaskDistribution) : Prop where
  once : ((launchedRanks (buildStepTaskPlan numTasks numNodes distribution)).map Prod.snd).Perm (List.range numTasks)
  placed : ∀ entry ∈ launchedRanks (buildStepTaskPlan numTasks numNodes distribution),
    (distributeTasks numTasks numNodes distribution)[entry.2]? = some entry.1

section

variable {mapping : List Nat} {node : Nat}

theorem mem_taskIds {task : Nat} : task ∈ taskIds mapping node ↔ mapping[task]? = some node := by
  constructor
  · intro listed
    obtain ⟨⟨_,_⟩,kept,rfl⟩ := mem_map.mp listed
    obtain ⟨present,same⟩ := mem_filter.mp kept
    obtain rfl := of_decide_eq_true same
    exact List.mem_zipIdx_iff_getElem?.mp present
  · intro mapped
    exact mem_map.mpr ⟨(node,task),mem_filter.mpr ⟨List.mem_zipIdx_iff_getElem?.mpr mapped,decide_eq_true rfl⟩,rfl⟩

theorem taskIds_ascending : (taskIds mapping node).Pairwise (· < ·) := by
  have order : (mapping.zipIdx.map Prod.snd).Pairwise (· < ·) := by
    rw [zipIdx_map_snd]
    exact pairwise_lt_range'
  exact order.sublist (filter_sublist.map _)

def Contiguous (mapping : List Nat) (node : Nat) : Prop :=
  ∀ low mid high : Nat, low ≤ mid → mid ≤ high → mapping[low]? = some node → mapping[high]? = some node → mapping[mid]? = some node

def ranksOf (mapping : List Nat) (node : Nat) : List Nat :=
  match taskIds mapping node with
  | [] => []
  | first :: rest => List.range' first (first :: rest).length

private theorem ascending_eq_range' {first : Nat} {rest : List Nat} (order : (first :: rest).Pairwise (· < ·))
    (full : ∀ mid high : Nat, high ∈ first :: rest → first ≤ mid → mid ≤ high → mid ∈ first :: rest) :
    first :: rest = List.range' first (first :: rest).length := by
  induction rest generalizing first with
  | nil => rfl
  | cons second rest ih =>
    obtain ⟨least,order⟩ := pairwise_cons.mp order
    have next : second = first + 1 := by
      have above : first < second := least second mem_cons_self
      have listed := full _ second (by simp) (Nat.le_succ first) above
      rcases mem_cons.mp listed with same | later
      · exact absurd same (Nat.succ_ne_self first)
      · rcases mem_cons.mp later with same | beyond
        · exact same.symm
        · exact absurd ((pairwise_cons.mp order).1 _ beyond) (by omega)
    subst next
    have rest_ := ih order fun mid high listed low under => by
      rcases mem_cons.mp (full mid high (mem_cons_of_mem _ listed) (by omega) under) with same | later
      · omega
      · exact later
    exact congrArg _ rest_

theorem ranksOf_length : (ranksOf mapping node).length = (taskIds mapping node).length := by
  unfold ranksOf
  split
  next none_ => rw [none_]
  next some_ => rw [some_,length_range']

theorem contiguous_iff : Contiguous mapping node ↔ ranksOf mapping node = taskIds mapping node := by
  unfold ranksOf
  constructor
  · intro contiguous
    have order := @taskIds_ascending mapping node
    have all (task : Nat) := @mem_taskIds mapping node task
    split
    next none_ => exact none_.symm
    next first rest some_ =>
      rw [some_] at order all ⊢
      refine (ascending_eq_range' order fun mid high listed low under => ?_).symm
      exact (all mid).mpr (contiguous first mid high low under ((all first).mp mem_cons_self) ((all high).mp listed))
  · intro same low mid high after before lowest highest
    have below := mem_taskIds.mpr lowest
    have above := mem_taskIds.mpr highest
    apply mem_taskIds.mp
    rw [← same] at below above ⊢
    split at below
    next none_ => cases below
    next first rest some_ =>
      simp only [some_,mem_range'_1] at below above ⊢
      omega

theorem ranksOf_subset_iff : ranksOf mapping node ⊆ taskIds mapping node ↔ Contiguous mapping node := by
  rw [contiguous_iff]
  constructor
  · intro subset
    have distinct : (ranksOf mapping node).Nodup := by
      unfold ranksOf
      split
      · exact nodup_nil
      · exact nodup_range'
    have permuted := (distinct.subperm subset).perm_of_length_le ranksOf_length.ge
    have order : (ranksOf mapping node).Pairwise (· < ·) := by
      unfold ranksOf
      split
      · exact List.Pairwise.nil
      · exact pairwise_lt_range'
    exact permuted.eq_of_pairwise (fun a b _ _ less more => absurd less (Nat.lt_asymm more)) order taskIds_ascending
  · intro same
    rw [same]
    exact List.Subset.refl _

end

section

variable {numTasks numNodes : Nat} {distribution : TaskDistribution}

theorem launchedRanks_nodeTasks (mapping nodes : List Nat) : launchedRanks (nodes.filterMap (nodeTasks mapping)) =
    nodes.flatMap fun node => (ranksOf mapping node).map (Prod.mk node) := by
  induction nodes with
  | nil => rfl
  | cons node nodes ih =>
    rw [flatMap_cons,← ih]
    unfold nodeTasks ranksOf
    cases tasks : taskIds mapping node with
    | nil => rw [filterMap_cons_none (by rw [tasks])]; rfl
    | cons first rest =>
      rw [filterMap_cons_some (by rw [tasks])]
      unfold launchedRanks
      rw [flatMap_cons]
      unfold localProcs procid
      dsimp only
      rw [range'_eq_map_range,map_map,map_map]
      rfl

theorem distributeTasks_max : distributeTasks numTasks (max numNodes 1) distribution = distributeTasks numTasks numNodes distribution := by
  unfold distributeTasks
  rw [max_assoc,max_self]

theorem distributeTasks_zero : distributeTasks 0 numNodes distribution = [] := by
  cases distribution <;> simp [distributeTasks]

theorem launchedRanks_plan : launchedRanks (buildStepTaskPlan numTasks numNodes distribution) =
    (List.range (max numNodes 1)).flatMap fun node =>
      (ranksOf (distributeTasks numTasks numNodes distribution) node).map (Prod.mk node) := by
  rw [← launchedRanks_nodeTasks]
  unfold buildStepTaskPlan
  split
  next none_ =>
    have idle : (List.range (max numNodes 1)).filterMap (nodeTasks []) = [] := filterMap_eq_nil_iff.mpr fun _ _ => rfl
    rw [none_,distributeTasks_zero,idle]
  next =>
    dsimp only
    rw [distributeTasks_max]

theorem distributeTasks_lt {node : Nat} (listed : node ∈ distributeTasks numTasks numNodes distribution) :
    node < max numNodes 1 := by
  have filled : node ∈ (List.range (max numNodes 1)).flatMap (fun node =>
      List.replicate (numTasks / max numNodes 1 + if node < numTasks % max numNodes 1 then 1 else 0) node) →
      node < max numNodes 1 := by
    intro listed
    obtain ⟨index,below,here⟩ := mem_flatMap.mp listed
    rw [eq_of_mem_replicate here]
    exact mem_range.mp below
  have dealt : node ∈ (List.range numTasks).map (fun task => task % max numNodes 1) → node < max numNodes 1 := by
    intro listed
    obtain ⟨task,-,rfl⟩ := mem_map.mp listed
    exact Nat.mod_lt task (by omega)
  cases distribution with
  | block | plane => exact filled listed
  | cyclic | arbitrary => exact dealt listed

private theorem even_split_sum (nodes share extra : Nat) :
    ((List.range nodes).map fun node => share + if node < extra then 1 else 0).sum = nodes * share + min nodes extra := by
  induction nodes with
  | zero => simp
  | succ nodes ih =>
    rw [range_succ,map_append,sum_append,Nat.succ_mul]
    simp only [map_cons,map_nil,sum_cons,sum_nil]
    split <;> omega

theorem distributeTasks_length : (distributeTasks numTasks numNodes distribution).length = numTasks := by
  have filled : ((List.range (max numNodes 1)).flatMap (fun node =>
      List.replicate (numTasks / max numNodes 1 + if node < numTasks % max numNodes 1 then 1 else 0) node)).length = numTasks := by
    rw [length_flatMap]
    simp only [length_replicate]
    rw [even_split_sum]
    have rest : numTasks % max numNodes 1 < max numNodes 1 := Nat.mod_lt _ (by omega)
    rw [min_eq_right rest.le]
    exact Nat.div_add_mod numTasks _
  cases distribution with
  | block | plane => exact filled
  | cyclic | arbitrary => exact (length_map _).trans length_range

theorem ranksPartition_iff : RanksPartition numTasks numNodes distribution ↔
    ∀ node, Contiguous (distributeTasks numTasks numNodes distribution) node := by
  constructor
  · intro partition_ node
    apply ranksOf_subset_iff.mp
    intro rank given
    have below : node < max numNodes 1 := by
      have some_ : taskIds (distributeTasks numTasks numNodes distribution) node ≠ [] := by
        intro none_
        rw [eq_nil_of_length_eq_zero (ranksOf_length.trans (congrArg _ none_))] at given
        cases given
      obtain ⟨task,mine⟩ := exists_mem_of_ne_nil _ some_
      exact distributeTasks_lt (mem_of_getElem? (mem_taskIds.mp mine))
    refine mem_taskIds.mpr (partition_.placed (node,rank) ?_)
    rw [launchedRanks_plan]
    exact mem_flatMap.mpr ⟨node,mem_range.mpr below,mem_map.mpr ⟨rank,given,rfl⟩⟩
  · intro contiguous
    have ranks : launchedRanks (buildStepTaskPlan numTasks numNodes distribution) =
        (List.range (max numNodes 1)).flatMap fun node =>
          (taskIds (distributeTasks numTasks numNodes distribution) node).map (Prod.mk node) := by
      rw [launchedRanks_plan]
      exact flatMap_congr fun node _ => congrArg _ (contiguous_iff.mp (contiguous node))
    have listed (entry : Nat × Nat) : entry ∈ launchedRanks (buildStepTaskPlan numTasks numNodes distribution) ↔
        (distributeTasks numTasks numNodes distribution)[entry.2]? = some entry.1 := by
      rw [ranks]
      constructor
      · intro given
        obtain ⟨node,-,here⟩ := mem_flatMap.mp given
        obtain ⟨rank,mine,rfl⟩ := mem_map.mp here
        exact mem_taskIds.mp mine
      · intro mapped
        have below := distributeTasks_lt (mem_of_getElem? mapped)
        exact mem_flatMap.mpr ⟨entry.1,mem_range.mpr below,mem_map.mpr ⟨entry.2,mem_taskIds.mpr mapped,rfl⟩⟩
    refine ⟨(perm_ext_iff_of_nodup ?_ nodup_range).mpr fun rank => ?_,fun entry => (listed entry).mp⟩
    · have bare : (launchedRanks (buildStepTaskPlan numTasks numNodes distribution)).map Prod.snd =
          (List.range (max numNodes 1)).flatMap (taskIds (distributeTasks numTasks numNodes distribution)) := by
        rw [ranks,map_flatMap]
        refine flatMap_congr fun node _ => ?_
        rw [map_map]
        exact map_id _
      rw [bare]
      refine nodup_flatMap.mpr ⟨fun node _ => taskIds_ascending.imp Nat.ne_of_lt,nodup_range.imp fun apart => ?_⟩
      intro task mine yours
      exact apart (Option.some.inj ((mem_taskIds.mp mine).symm.trans (mem_taskIds.mp yours)))
    · rw [mem_map,mem_range]
      constructor
      · rintro ⟨entry,given,rfl⟩
        obtain ⟨short,-⟩ := List.getElem?_eq_some_iff.mp ((listed entry).mp given)
        exact lt_of_lt_of_eq short distributeTasks_length
      · intro short
        have within : rank < (distributeTasks numTasks numNodes distribution).length := distributeTasks_length ▸ short
        exact ⟨(_,rank),(listed _).mpr (List.getElem?_eq_getElem within),rfl⟩

theorem contiguous_of_ascending {mapping : List Nat} (order : mapping.Pairwise (· ≤ ·)) (node : Nat) : Contiguous mapping node := by
  intro low mid high after before lowest highest
  obtain ⟨short,atHigh⟩ := List.getElem?_eq_some_iff.mp highest
  obtain ⟨_,atLow⟩ := List.getElem?_eq_some_iff.mp lowest
  have within : mid < mapping.length := by omega
  have ordered := sortedLE_iff_getElem_le_getElem_of_le.mp (sortedLE_iff_pairwise.mpr order)
  have above := @ordered low mid (by omega) within after
  have below := @ordered mid high within short before
  rw [List.getElem?_eq_getElem within]
  rw [atLow] at above
  rw [atHigh] at below
  exact congrArg some (le_antisymm below above)

private theorem dealt_getElem? {nodes task node : Nat} :
    ((List.range numTasks).map fun task => task % nodes)[task]? = some node ↔ task < numTasks ∧ task % nodes = node := by
  by_cases within : task < numTasks
  · simp [within]
  · simp [within]

theorem contiguous_dealt {nodes : Nat} (some_ : 0 < nodes) :
    (∀ node, Contiguous ((List.range numTasks).map fun task => task % nodes) node) ↔ nodes = 1 ∨ numTasks ≤ nodes := by
  constructor
  · intro contiguous
    by_contra neither
    push Not at neither
    obtain ⟨many,more⟩ := neither
    -- Tasks 0 and `nodes` are both node 0's, task 1 between them is not.
    have first := dealt_getElem?.mpr ⟨some_.trans more,Nat.zero_mod nodes⟩
    have second := dealt_getElem?.mpr ⟨more,Nat.mod_self nodes⟩
    have between := (dealt_getElem?.mp (contiguous 0 0 1 nodes (Nat.zero_le 1) some_ first second)).2
    rw [Nat.mod_eq_of_lt (by omega)] at between
    cases between
  · intro few node low mid high after before lowest highest
    obtain ⟨_,atLow⟩ := dealt_getElem?.mp lowest
    obtain ⟨short,atHigh⟩ := dealt_getElem?.mp highest
    refine dealt_getElem?.mpr ⟨before.trans_lt short,?_⟩
    rcases few with rfl | few
    · rw [Nat.mod_one] at atLow ⊢
      exact atLow
    · rw [Nat.mod_eq_of_lt (by omega)] at atLow atHigh ⊢
      omega

theorem filled_ascending {nodes : Nat} {count : Nat → Nat} :
    ((List.range nodes).flatMap fun node => List.replicate (count node) node).Pairwise (· ≤ ·) := by
  refine pairwise_flatMap.mpr ⟨fun node _ => pairwise_replicate.mpr (.inr le_rfl),?_⟩
  refine pairwise_lt_range.imp fun {low high} less a listed b present => ?_
  rw [eq_of_mem_replicate listed,eq_of_mem_replicate present]
  exact less.le

/-- The ranks of a step form a partition that follows the distribution exactly when the tasks fill one node after the
other, when there is one node, or when no node gets a second task. -/
theorem ranks_form_partition (numTasks numNodes : Nat) (distribution : TaskDistribution) :
    RanksPartition numTasks numNodes distribution ↔
      distribution = .block ∨ distribution = .plane ∨ numNodes ≤ 1 ∨ numTasks ≤ numNodes := by
  rw [ranksPartition_iff]
  have dealt := @contiguous_dealt numTasks (max numNodes 1) (by omega)
  have few : max numNodes 1 = 1 ∨ numTasks ≤ max numNodes 1 ↔ numNodes ≤ 1 ∨ numTasks ≤ numNodes := by omega
  cases distribution with
  | block => exact ⟨fun _ => .inl rfl,fun _ => contiguous_of_ascending filled_ascending⟩
  | plane => exact ⟨fun _ => .inr (.inl rfl),fun _ => contiguous_of_ascending filled_ascending⟩
  | cyclic =>
    refine dealt.trans (few.trans ?_)
    simp
  | arbitrary =>
    refine dealt.trans (few.trans ?_)
    simp

/-- Four tasks dealt to two nodes: rank 1 is given twice and rank 3 never. -/
theorem dealt_ranks_collide : distributeTasks 4 2 .cyclic = [0,1,0,1] ∧
    launchedRanks (buildStepTaskPlan 4 2 .cyclic) = [(0,0),(0,1),(1,1),(1,2)] ∧ ¬RanksPartition 4 2 .cyclic := by
  refine ⟨by decide,by decide,fun partition_ => ?_⟩
  have listed := partition_.once.mem_iff (a := 3) |>.mpr (by decide)
  revert listed
  decide

end

end Spur.TaskLaunch
