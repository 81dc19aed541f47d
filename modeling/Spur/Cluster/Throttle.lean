import Spur.Cluster.Classify

/-! The task limit of arrays over one pass. The gate's counter is not seeded with queued tasks that hold a placement. -/
namespace Spur.Cluster
open Spur Spur.Library Spur.Sched List Option Table

section

variable {α β : Type}

/-- Of the first `k` entries, those of kind `q` are at most what the entries of kind `p` leave, when
no entry of kind `q` stands before one of kind `p`. -/
private theorem countP_take_le {p q : α → Bool} {l : List α} (k : Nat) (apart : ∀ x ∈ l, p x → q x = false)
    (first : l.Pairwise fun x y => p y → q x = false) : (l.take k).countP q ≤ k - l.countP p := by
  induction l generalizing k with
  | nil => simp
  | cons x l ih =>
    rw [pairwise_cons] at first
    obtain _ | k := k
    · simp
    have rest := ih k (fun y inside => apart y (mem_cons_of_mem _ inside)) first.2
    have head := apart x mem_cons_self
    rw [take_succ_cons,countP_cons,countP_cons]
    by_cases kind : q x
    · -- Nothing of kind `p` is left behind an entry of kind `q`.
      have none_left : l.countP p = 0 := by
        rw [countP_eq_zero]
        intro y inside holds
        rw [first.1 y inside holds] at kind
        exact absurd kind (by simp)
      have not_p : p x = false := by
        by_contra holds
        rw [head (by simpa using holds)] at kind
        exact absurd kind (by simp)
      rw [not_p,kind]
      simp only [if_true,Bool.false_eq_true,if_false]
      omega
    · rw [Bool.not_eq_true] at kind
      rw [kind]
      simp only [Bool.false_eq_true,if_false]
      split <;> omega

private theorem countP_le_add {p q r : α → Bool} {l : List α} (covers : ∀ x ∈ l, p x → q x ∨ r x) :
    l.countP p ≤ l.countP q + l.countP r := by
  induction l with
  | nil => simp
  | cons x l ih =>
    have rest := ih fun y inside => covers y (mem_cons_of_mem _ inside)
    have head := covers x mem_cons_self
    rw [countP_cons,countP_cons,countP_cons]
    by_cases holds : p x
    · obtain first | second := head holds
      · rw [if_pos holds,if_pos first]
        omega
      · rw [if_pos holds,if_pos second]
        omega
    · rw [if_neg holds]
      omega

end

def Candidate.view (candidate : Candidate) : Job × Bool := (candidate.job.toJob,candidate.eligible)

def Framed {S : Type} (gate : S → PendingJob → GateOutcome × PendingJob × S) : Prop :=
  ∀ state job, (gate state job).2.1.toJob = job.toJob

theorem retainEligible_sublist {S : Type} {gate : S → PendingJob → GateOutcome × PendingJob × S}
    (framed : Framed gate) (state : S) {candidates : List Candidate} :
    ((retainEligible gate state candidates).2.1.map Candidate.view).Sublist (candidates.map Candidate.view) := by
  induction candidates generalizing state with
  | nil => simp [retainEligible]
  | cons candidate rest ih =>
    unfold retainEligible
    split
    · exact (ih state).cons_cons _
    have same := framed state candidate.job
    generalize gate state _ = answer at same
    obtain ⟨outcome,job,next⟩ := answer
    have tail := ih next
    cases outcome with
    | keep =>
      simp only [map_cons]
      have head : Candidate.view { candidate with job := job } = candidate.view := by
        unfold Candidate.view
        rw [same]
      rw [head]
      exact tail.cons_cons _
    | block reason => exact tail.cons _
    | dropUntagged => exact tail.cons _

theorem retainUnblocked_fst (gate : PendingJob → Option PendingReason) (candidates : List Candidate) :
    (retainUnblocked gate candidates).1 = candidates.filter fun candidate => (gate candidate.job).isNone := by
  induction candidates with
  | nil => rfl
  | cons candidate rest ih =>
    unfold retainUnblocked
    rw [filter_cons]
    cases gate _ with
    | none => simp [ih]
    | some reason => simp [ih]

variable {reserved : PassReservations} {nodes : Table String Node} {jobs : Table JobId Job} {candidate : Candidate}

section

variable (settings : PassSettings) (s : State) (unclaimed : Finset JobId)

theorem pureGate_framed {verdict : PendingJob → Option PendingReason} : Framed (pureGate verdict) :=
  fun _ _ => rfl

theorem accountBlockWith_framed {pending job : PendingJob} {limits : String → String → AccountLimits} {admitted : AccountAdmitted}
    (ok : accountBlockWith pending limits jobs nodes reserved = .ok (admitted,job)) : job.toJob = pending.toJob := by
  unfold accountBlockWith at ok
  split at ok
  · cases ok
    rfl
  dsimp only at ok
  split at ok
  · cases ok
  · cases ok
    rfl

theorem qosBlockWith_framed {pending job : PendingJob} {limits : QosLimits} {consumed : Option Nat} {charge : Nat}
    (ok : qosBlockWith pending limits jobs nodes reserved consumed = .ok (charge,job)) :
    job.toJob = pending.toJob := by
  unfold qosBlockWith at ok
  split at ok
  · cases ok
    rfl
  dsimp only at ok
  split at ok
  · cases ok
    rfl
  · cases ok

theorem quotaGate_framed : Framed (quotaGate settings s unclaimed) := by
  intro pass job
  unfold quotaGate
  split
  · rfl
  rename_i admitted credited admits
  have same := accountBlockWith_framed admits
  dsimp only
  split
  · exact same
  rename_i charge kept passes
  have also := qosBlockWith_framed passes
  split
  · exact also.trans same
  · exact also.trans same

theorem licenseGate_framed : Framed (licenseGate settings s) := by
  intro remaining job
  unfold licenseGate
  dsimp only
  split <;> rfl

theorem burstBufferGate_framed : Framed (burstBufferGate settings s) := by
  intro state job
  unfold burstBufferGate
  dsimp only
  split
  · rfl
  split
  · rfl
  split
  · rfl
  split <;> rfl

theorem claimed_sublist : ((claimed settings s unclaimed).2.1.map Candidate.view).Sublist
    ((throttled settings s).1.map Candidate.view) := by
  unfold claimed placeable accounted
  refine (retainEligible_sublist (quotaGate_framed settings s unclaimed) _).trans ?_
  refine (retainEligible_sublist pureGate_framed _).trans ?_
  exact retainEligible_sublist pureGate_framed _

theorem licensed_sublist : ((licensed settings s unclaimed).2.1.map Candidate.view).Sublist
    ((claimed settings s unclaimed).2.1.map Candidate.view) := by
  unfold licensed possible
  refine (retainEligible_sublist (licenseGate_framed settings s) _).trans ?_
  exact retainEligible_sublist pureGate_framed _

theorem staged_sublist : ((staged settings s unclaimed).2.1.map Candidate.view).Sublist
    ((licensed settings s unclaimed).2.1.map Candidate.view) := by
  unfold staged
  exact retainEligible_sublist (burstBufferGate_framed settings s) _

def eligibleJobs (candidates : List Candidate) : List Job :=
  (candidates.filter Candidate.eligible).map fun candidate => candidate.job.toJob

theorem eligibleJobs_sublist {kept candidates : List Candidate}
    (sub : (kept.map Candidate.view).Sublist (candidates.map Candidate.view)) :
    (eligibleJobs kept).Sublist (eligibleJobs candidates) := by
  have view : ∀ l : List Candidate, eligibleJobs l = ((l.map Candidate.view).filter Prod.snd).map Prod.fst := by
    intro l
    rw [List.filter_map,List.map_map]
    rfl
  rw [view,view]
  exact (sub.filter _).map _

theorem kept_eq : (classifyPendingJobsWith settings s unclaimed).jobs.map PendingJob.toJob =
    eligibleJobs (staged settings s unclaimed).2.1 := by
  unfold classifyPendingJobsWith eligibleJobs
  rw [List.map_map]
  rfl

theorem kept_sublist : ((classifyPendingJobsWith settings s unclaimed).jobs.map PendingJob.toJob).Sublist
    (eligibleJobs (throttled settings s).1) := by
  rw [kept_eq]
  exact eligibleJobs_sublist ((staged_sublist settings s unclaimed).trans
    ((licensed_sublist settings s unclaimed).trans (claimed_sublist settings s unclaimed)))

end

section

variable (settings : PassSettings) (s : State)

def candidateOf (job : Job) : Option Candidate :=
  ((pendingCandidate settings.now job).filter fun candidate =>
    (partitionBlock s.partitions candidate.job).isNone && (dependencyBlock s.jobs settings.now candidate.job).isNone &&
      (reservationBlock s.reservations settings.now candidate.job).isNone).map (prioritize settings s.partitions)

theorem queue_eq : (queue settings s).1 = ((jobList s.jobs).filterMap (candidateOf settings s)).insertionSort
    (fun a b => queueAhead s settings.now a b) := by
  unfold queue
  dsimp only
  rw [retainUnblocked_fst,retainUnblocked_fst,retainUnblocked_fst]
  congr 1
  induction jobList s.jobs with
  | nil => rfl
  | cons job jobs ih =>
    rw [filterMap_cons,filterMap_cons,← ih]
    unfold candidateOf
    cases pendingCandidate _ job with
    | none => rfl
    | some candidate =>
      simp only [filter_some]
      by_cases first : (partitionBlock s.partitions candidate.job).isNone <;>
      by_cases second : (dependencyBlock s.jobs settings.now candidate.job).isNone <;>
      by_cases third : (reservationBlock s.reservations settings.now candidate.job).isNone <;>
        simp [first,second,third]

theorem QueueKey.ahead_total {a b : QueueKey} : a.ahead b ∨ b.ahead a := by
  obtain ⟨ra,ha,pa,ia⟩ := a
  obtain ⟨rb,hb,pb,ib⟩ := b
  unfold QueueKey.ahead
  obtain less | same | more := Nat.lt_trichotomy pa pb
  · cases ra <;> cases rb <;> cases ha <;> cases hb <;> simp [less,less.ne']
  · cases ra <;> cases rb <;> cases ha <;> cases hb <;> simp [same,Nat.le_total]
  · cases ra <;> cases rb <;> cases ha <;> cases hb <;> simp [more,more.ne']

theorem QueueKey.ahead_trans {a b c : QueueKey} (first : a.ahead b) (second : b.ahead c) : a.ahead c := by
  obtain ⟨ra,ha,pa,ia⟩ := a
  obtain ⟨rb,hb,pb,ib⟩ := b
  obtain ⟨rc,hc,pc,ic⟩ := c
  unfold QueueKey.ahead at first second ⊢
  cases ra <;> cases rb <;> cases rc <;> cases ha <;> cases hb <;> cases hc <;> grind

theorem queue_pairwise : (queue settings s).1.Pairwise fun a b => queueAhead s settings.now a b := by
  have total : Std.Total fun a b : Candidate => (queueAhead s settings.now a b : Prop) :=
    ⟨fun a b => QueueKey.ahead_total⟩
  have trans : IsTrans Candidate fun a b => (queueAhead s settings.now a b : Prop) :=
    ⟨fun _ _ _ first second => QueueKey.ahead_trans first second⟩
  exact pairwise_insertionSort _ _

theorem queue_perm : (queue settings s).1.Perm ((jobList s.jobs).filterMap (candidateOf settings s)) := by
  rw [queue_eq]
  exact perm_insertionSort _ _

end

section

variable (arrayId : JobId)

def isTaskOf (job : Job) : Bool := job.spec.arrayJobId == some arrayId

def isTask (candidate : Candidate) : Bool := candidate.eligible && isTaskOf arrayId candidate.job.toJob

theorem arrayGate_admits {cap : Nat} (counts : Table JobId Nat) (candidates : List Candidate)
    (limited : ∀ candidate ∈ candidates, isTaskOf arrayId candidate.job.toJob →
      candidate.job.spec.arrayMaxConcurrent = some cap) :
    (arrayGate counts candidates).1.filter (isTask arrayId) =
      (candidates.filter (isTask arrayId)).take (cap - (counts[arrayId]?).getD 0) := by
  induction candidates generalizing counts with
  | nil => simp [arrayGate]
  | cons candidate rest ih =>
    have tail := fun counts : Table JobId Nat =>
      ih counts fun other inside => limited other (mem_cons_of_mem _ inside)
    have head := limited candidate mem_cons_self
    unfold arrayGate
    split
    next array limit live owner bound =>
      by_cases same : array = arrayId
      · subst same
        have task : isTask array candidate := by simp [isTask,isTaskOf,live,owner]
        have member : isTaskOf array candidate.job.toJob := by simp [isTaskOf,owner]
        have limit_eq : limit = cap := by
          have agreed := bound.symm.trans (head member)
          exact Option.some.inj agreed
        subst limit_eq
        dsimp only
        split
        next full =>
          have dropped : isTask array { candidate with eligible := false } = false := by simp [isTask]
          rw [filter_cons_of_neg (by simp [dropped]),tail,find_insert,if_pos rfl,getD_some,
            Nat.sub_eq_zero_of_le full,take_zero,take_zero]
        next room =>
          rw [filter_cons_of_pos task,filter_cons_of_pos task,tail,find_insert,if_pos rfl,getD_some]
          obtain ⟨left,split_⟩ : ∃ left, limit - (counts[array]?).getD 0 = left + 1 :=
            ⟨limit - (counts[array]?).getD 0 - 1,by omega⟩
          rw [split_]
          congr 2
          omega
      · have other : ∀ flag, isTask arrayId { candidate with eligible := flag } = false := by
          simp [isTask,isTaskOf,owner,same]
        have skip : isTask arrayId candidate = false := other _
        dsimp only
        rw [filter_cons_of_neg (by simp [skip])]
        split
        · rw [filter_cons_of_neg (by simp [other]),tail,find_insert_ne same]
        · rw [filter_cons_of_neg (by simp [skip]),tail,find_insert_ne same]
    next unmatched =>
      have skip : isTask arrayId candidate = false := by
        by_contra task
        rw [Bool.not_eq_false,isTask,Bool.and_eq_true] at task
        have owner : candidate.job.spec.arrayJobId = some arrayId := by simpa [isTaskOf] using task.2
        exact unmatched arrayId cap task.1 owner (head task.2)
      rw [filter_cons_of_neg (by simp [skip]),filter_cons_of_neg (by simp [skip]),tail]

theorem runningArrayCounts_find (jobs : Table JobId Job) :
    ((runningArrayCounts jobs)[arrayId]?).getD 0 = (jobList jobs).countP fun job =>
      (job.state == .running || job.isStoppingForTimeLimit) && !job.idleFill && isTaskOf arrayId job := by
  have counted : ((jobList jobs).filter fun job =>
      (job.state == .running || job.isStoppingForTimeLimit) && !job.idleFill).countP (isTaskOf arrayId) =
        (jobList jobs).countP fun job =>
          (job.state == .running || job.isStoppingForTimeLimit) && !job.idleFill && isTaskOf arrayId job := by
    rw [countP_filter]
    congr 1
    funext job
    rw [Bool.and_comm]
  rw [← counted]
  unfold runningArrayCounts
  refine Eq.trans ?_ (Nat.zero_add _)
  change _ = ((∅ : Table JobId Nat)[arrayId]?).getD 0 + _
  generalize (jobList jobs).filter _ = l, (∅ : Table JobId Nat) = counts
  induction l generalizing counts with
  | nil => rfl
  | cons job l ih =>
    rw [foldl_cons,ih,countP_cons]
    cases owner : job.spec.arrayJobId with
    | none => simp [isTaskOf,owner]
    | some array =>
      simp only [isTaskOf,owner,some_beq_some,beq_iff_eq]
      rw [find_insert]
      by_cases same : array = arrayId
      · rw [if_pos same,if_pos same,getD_some,same]
        omega
      · rw [if_neg same,if_neg same,Nat.add_zero]

end

section

variable (settings : PassSettings) (s : State) (unclaimed : Finset JobId) (arrayId : JobId)

def occupyingTasks (jobs : Table JobId Job) : Nat :=
  (jobList jobs).countP fun job => job.occupiesResources && !job.idleFill && isTaskOf arrayId job

def keptTasks : Nat :=
  (classifyPendingJobsWith settings s unclaimed).jobs.countP fun job => isTaskOf arrayId job.toJob

/-- The job is an eligible candidate, and no task of the array without a placement is queued ahead of it. -/
def goesFirst (placed : Job) : Bool :=
  (candidateOf settings s placed).any fun candidate => candidate.eligible && (jobList s.jobs).all fun other =>
    !isTaskOf arrayId other || other.holdsAPlacement ||
      (candidateOf settings s other).all fun rival => !queueAhead s settings.now rival candidate

/-- Every pending task that holds a placement is met by the gate before the tasks that hold none. -/
def PlacedFirst : Prop :=
  ∀ placed ∈ jobList s.jobs, isTaskOf arrayId placed → placed.state = .pending → placed.holdsAPlacement →
    goesFirst settings s arrayId placed

instance : Decidable (PlacedFirst settings s arrayId) :=
  inferInstanceAs (Decidable (∀ placed ∈ jobList s.jobs, isTaskOf arrayId placed → placed.state = .pending →
    placed.holdsAPlacement → goesFirst settings s arrayId placed))

variable {settings s arrayId}

theorem candidateOf_frame {job : Job} (found : candidateOf settings s job = some candidate) :
    job.state = .pending ∧ candidate.job.spec = job.spec ∧
      candidate.job.toJob.holdsAPlacement = job.holdsAPlacement := by
  obtain ⟨entered,inside,rfl⟩ := map_eq_some_iff.mp found
  have entry := (filter_eq_some_iff.mp inside).1
  unfold pendingCandidate at entry
  dsimp only at entry
  split at entry
  · cases entry
  rename_i live
  split at entry
  · cases entry
  cases entry
  refine ⟨?_,rfl,rfl⟩
  by_contra other
  exact live (by simp [other])

theorem goesFirst_iff {placed : Job} : goesFirst settings s arrayId placed ↔
    ∃ candidate, candidateOf settings s placed = some candidate ∧ candidate.eligible ∧
      ∀ other ∈ jobList s.jobs, isTaskOf arrayId other → other.holdsAPlacement = false →
        ∀ rival, candidateOf settings s other = some rival → queueAhead s settings.now rival candidate = false := by
  unfold goesFirst
  rw [any_eq_true_iff_get]
  constructor
  · rintro ⟨present,holds⟩
    obtain ⟨candidate,found⟩ := isSome_iff_exists.mp present
    simp only [found,Bool.and_eq_true,List.all_eq_true] at holds
    refine ⟨candidate,found,holds.1,fun other listed task free rival entered => ?_⟩
    have behind := holds.2 other listed
    simpa [task,free,entered] using behind
  · rintro ⟨candidate,found,live,behind⟩
    refine ⟨by rw [found]; rfl,?_⟩
    simp only [found,get_some,Bool.and_eq_true,List.all_eq_true]
    refine ⟨live,fun other listed => ?_⟩
    by_cases task : isTaskOf arrayId other
    · cases holds : other.holdsAPlacement with
      | true => simp
      | false =>
        simp only [task,Bool.not_true,Bool.false_or]
        rw [Option.all_eq_true]
        intro rival entered
        rw [behind other listed task holds rival entered]
        rfl
    · simp [task]

theorem mem_queue (inside : candidate ∈ (queue settings s).1) :
    ∃ job ∈ jobList s.jobs, candidateOf settings s job = some candidate := by
  have listed := (queue_perm settings s).mem_iff.mp inside
  exact mem_filterMap.mp listed

private def tasks (settings : PassSettings) (s : State) (arrayId : JobId) : List Candidate :=
  (queue settings s).1.filter (isTask arrayId)

private theorem kept_le_admitted {cap : Nat} (limited : ∀ job ∈ jobList s.jobs, isTaskOf arrayId job →
    job.spec.arrayMaxConcurrent = some cap) :
    keptTasks settings s unclaimed arrayId ≤ ((tasks settings s arrayId).take
      (cap - ((runningArrayCounts s.jobs)[arrayId]?).getD 0)).countP fun candidate =>
        !candidate.job.toJob.holdsAPlacement := by
  have admits := @arrayGate_admits arrayId cap (runningArrayCounts s.jobs) (queue settings s).1 (by
    intro candidate inside task
    obtain ⟨job,listed,found⟩ := mem_queue inside
    obtain ⟨_,spec,_⟩ := candidateOf_frame found
    rw [spec]
    refine limited job listed ?_
    rwa [isTaskOf,spec] at task)
  have passed : (eligibleJobs (throttled settings s).1).countP (isTaskOf arrayId) =
      ((arrayGate (runningArrayCounts s.jobs) (queue settings s).1).1.filter (isTask arrayId)).countP fun candidate =>
        !candidate.job.toJob.holdsAPlacement := by
    unfold eligibleJobs throttled
    rw [countP_map,countP_filter,countP_filter,countP_filter]
    congr 1
    funext candidate
    simp only [Function.comp_apply,isTask]
    cases candidate.eligible <;> cases isTaskOf arrayId _ <;>
      cases candidate.job.toJob.holdsAPlacement <;> rfl
  rw [tasks,← admits,← passed]
  have sub := (kept_sublist settings s unclaimed).countP_le (p := isTaskOf arrayId)
  rwa [countP_map] at sub

private theorem placed_le_tasks (first : PlacedFirst settings s arrayId) :
    ((jobList s.jobs).countP fun job => job.state == .pending && job.holdsAPlacement && isTaskOf arrayId job) ≤
      (tasks settings s arrayId).countP fun candidate => candidate.job.toJob.holdsAPlacement := by
  rw [tasks,countP_filter,(queue_perm settings s).countP_eq,countP_filterMap]
  refine countP_mono_left fun job listed placed => ?_
  rw [Bool.and_eq_true,Bool.and_eq_true,beq_iff_eq] at placed
  obtain ⟨⟨pending,holds⟩,task⟩ := placed
  obtain ⟨candidate,found,live,_⟩ := goesFirst_iff.mp (first job listed task pending holds)
  obtain ⟨_,spec,same⟩ := candidateOf_frame found
  have member : isTaskOf arrayId candidate.job.toJob := by
    rw [isTaskOf] at task ⊢
    rwa [spec]
  rw [found,map_some,same,holds,isTask,live,member]
  rfl

private theorem tasks_placed_first (first : PlacedFirst settings s arrayId) :
    (tasks settings s arrayId).Pairwise fun x y => y.job.toJob.holdsAPlacement →
      (!x.job.toJob.holdsAPlacement) = false := by
  refine List.Pairwise.imp_of_mem ?_ ((queue_pairwise settings s).filter _)
  intro x y insideX insideY ahead holds
  by_contra free
  rw [Bool.not_eq_false,Bool.not_eq_true'] at free
  obtain ⟨queuedX,taskX⟩ := mem_filter.mp insideX
  obtain ⟨queuedY,taskY⟩ := mem_filter.mp insideY
  rw [isTask,Bool.and_eq_true] at taskX taskY
  obtain ⟨other,listedX,foundX⟩ := mem_queue queuedX
  obtain ⟨placed,listedY,foundY⟩ := mem_queue queuedY
  obtain ⟨_,specX,sameX⟩ := candidateOf_frame foundX
  obtain ⟨pendingY,specY,sameY⟩ := candidateOf_frame foundY
  obtain ⟨candidate,found,_,behind⟩ := goesFirst_iff.mp (first placed listedY (by
    rw [isTaskOf,← specY]
    exact taskY.2) pendingY (sameY ▸ holds))
  rw [foundY] at found
  cases found
  have late := behind other listedX (by
    rw [isTaskOf,← specX]
    exact taskX.2) (sameX ▸ free) x foundX
  rw [late] at ahead
  exact absurd ahead (by simp)

/-- The array throttle: in a pass whose placed tasks are queued first, the tasks that occupy resources
and the tasks kept stay within the limit, or within what already occupied. -/
theorem array_throttle (cap : Nat)
    (limited : ∀ job ∈ jobList s.jobs, isTaskOf arrayId job → job.spec.arrayMaxConcurrent = some cap)
    (first : PlacedFirst settings s arrayId) :
    occupyingTasks arrayId s.jobs + keptTasks settings s unclaimed arrayId ≤
      max cap (occupyingTasks arrayId s.jobs) := by
  have kept := @kept_le_admitted settings s unclaimed arrayId cap limited
  have room := countP_take_le (cap - ((runningArrayCounts s.jobs)[arrayId]?).getD 0) (by
      intro x _ holds
      simp [holds]) (tasks_placed_first first)
  have placed := placed_le_tasks first
  have occupied : occupyingTasks arrayId s.jobs ≤ ((runningArrayCounts s.jobs)[arrayId]?).getD 0 +
      (jobList s.jobs).countP fun job => job.state == .pending && job.holdsAPlacement && isTaskOf arrayId job := by
    rw [runningArrayCounts_find]
    refine countP_le_add fun job _ occupies => ?_
    rw [Bool.and_eq_true,Bool.and_eq_true,Job.occupiesResources,Bool.or_eq_true] at occupies
    obtain ⟨⟨running | pending,own⟩,task⟩ := occupies
    · simp [running,own,task]
    · simp [pending,task]
  omega

end

section

def plainSettings : PassSettings where
  now := 0
  effectivePriority := fun base _ _ _ _ => base

def twoTasks (cap : Nat) (placed free : JobId) : State :=
  let spec : JobSpec := { arrayJobId := some 10, arrayMaxConcurrent := some cap }
  { jobs := Std.ExtTreeMap.ofList [(placed,{ Job.new 0 placed spec with allocatedNodes := ["n1"] }),
      (free,Job.new 0 free spec)] compare }

theorem array_throttle_two : occupyingTasks 10 (twoTasks 2 1 2).jobs + keptTasks plainSettings (twoTasks 2 1 2) ∅ 10 ≤
        max 2 (occupyingTasks 10 (twoTasks 2 1 2).jobs) ∧
      keptTasks plainSettings (twoTasks 2 1 2) ∅ 10 = 1 :=
  ⟨array_throttle ∅ 2 (by decide +kernel) (by decide +kernel),by decide +kernel⟩

/-- A task queued ahead of the one that holds the placement takes a second slot of a limit of one. -/
theorem unplaced_task_takes_placed_slot :
    (∀ job ∈ jobList (twoTasks 1 2 1).jobs, isTaskOf 10 job → job.spec.arrayMaxConcurrent = some 1) ∧
      ¬ occupyingTasks 10 (twoTasks 1 2 1).jobs + keptTasks plainSettings (twoTasks 1 2 1) ∅ 10 ≤
        max 1 (occupyingTasks 10 (twoTasks 1 2 1).jobs) := by
  decide +kernel

end

end Spur.Cluster
