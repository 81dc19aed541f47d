import Spur.Cluster.Dependency
import Spur.Cluster.JobEntries

/-! Dependencies over the job table: when each is decided, and that evicting finished jobs changes no verdict. -/
namespace Spur.Cluster
open Spur.Library List Option Table

variable {verdicts : List DependencyResult} {dep : Dependency} {states : List JobState} {keep : JobId → Job → Bool}

section

variable (jobs : Table JobId Job) (now : Time) (job : Job)

/-- The loop of `check_dependencies`, over the verdicts on the dependencies it goes through. -/
def firstOpen (verdicts : List DependencyResult) : DependencyResult :=
  (verdicts.find? (· ≠ .satisfied)).getD .satisfied

def targetStart (target : JobId) : Option Time :=
  ((jobs[target]?).bind Job.startTime).or ((arrayTasks jobs target).filterMap Job.startTime).min?

/-- The state `aftercorr` reads: the task of the same index, or the target itself when one side is no array. -/
def correspondingState (target : JobId) : Option JobState :=
  match job.spec.arrayTaskId with
  | none => resolveTargetState jobs target
  | some task =>
    if (arrayTasks jobs target).isEmpty then resolveTargetState jobs target
    else ((arrayTasks jobs target).find? fun t => t.spec.arrayTaskId == some task).map Job.state

theorem checkDependency_afterCorr (target : JobId) : checkDependency jobs now job (.afterCorr target) =
      okVerdict JobState.isTerminal (correspondingState jobs job target) := by
  unfold checkDependency correspondingState
  cases job.spec.arrayTaskId with
  | none => rfl
  | some task => exact (apply_ite _ _ _ _).symm

theorem firstOpen_cases : firstOpen verdicts = .satisfied ∧ (∀ verdict ∈ verdicts, verdict = .satisfied) ∨
      firstOpen verdicts ∈ verdicts ∧ firstOpen verdicts ≠ .satisfied := by
  unfold firstOpen
  cases found : verdicts.find? _ with
  | none => exact .inl ⟨rfl,by simpa using found⟩
  | some verdict => exact .inr ⟨List.mem_of_find?_eq_some found,by simpa using List.find?_some found⟩

/-- Where no verdict of waiting stands with one of failure, the order does not show. -/
theorem firstOpen_apart (apart : .waiting ∈ verdicts → .failed ∉ verdicts) : firstOpen verdicts =
      if .failed ∈ verdicts then .failed else if .waiting ∈ verdicts then .waiting else .satisfied := by
  obtain ⟨fine,all⟩ | ⟨member,open_⟩ := firstOpen_cases
  · rw [fine,if_neg (mt (all .failed) nofun),if_neg (mt (all .waiting) nofun)]
  cases outcome : firstOpen verdicts <;> simp_all

/-- Another job of the same name and user that holds a singleton back. -/
structure Rival (job other : Job) : Prop where
  stored : ∃ id : JobId, jobs[id]? = some other
  name : other.spec.name = job.spec.name
  user : other.spec.user = job.spec.user
  distinct : other.jobId ≠ job.jobId
  active : other.state = .running ∨ other.state = .pending ∨ other.isStoppingForTimeLimit = true

theorem checkDependency_singleton [Decidable (∃ other, Rival jobs job other)] :
    checkDependency jobs now job .singleton = if ∃ other, Rival jobs job other then .waiting else .satisfied := by
  unfold checkDependency
  dsimp only
  congr 1
  simp only [List.any_eq_true,List.mem_map,Prod.exists,Std.ExtTreeMap.mem_toList_iff_getElem?_eq_some,
    exists_eq_right,Bool.and_eq_true,Bool.or_eq_true,beq_iff_eq,bne_iff_ne,eq_iff_iff]
  exact exists_congr fun other => ⟨fun h => ⟨h.1,h.2.1.1.1,h.2.1.1.2,h.2.1.2,or_assoc.mp h.2.2⟩,
    fun rival => ⟨rival.stored,⟨⟨rival.name,rival.user⟩,rival.distinct⟩,or_assoc.mpr rival.active⟩⟩

/-- A delay that no longer holds an `after` back. -/
def Due : Dependency → Prop
  | .after target delay => ∀ start, targetStart jobs target = some start → start + Duration.seconds (delay * 60) ≤ now
  | _ => True

theorem checkDependency_after {target : JobId} {delay : Nat} (due : Due jobs now (.after target delay)) :
    checkDependency jobs now job (.after target delay) =
      if (targetStart jobs target).isSome ∨ (resolveTargetState jobs target).all JobState.isTerminal then .satisfied
      else .waiting := by
  unfold checkDependency
  dsimp only
  split
  next start hit =>
    have started : targetStart jobs target = some start := hit
    simp [started,due start started]
  next hit =>
    have started : targetStart jobs target = none := hit
    cases resolveTargetState jobs target <;> simp [started]

end

section

variable {jobs : Table JobId Job} {target : JobId}

/-- A target that is stored, as a job or as the tasks of an array, and has ended throughout. -/
structure Finished (jobs : Table JobId Job) (target : JobId) : Prop where
  known : jobs[target]? ≠ none ∨ arrayTasks jobs target ≠ []
  job : ∀ job : Job, jobs[target]? = some job → job.state.isTerminal = true
  tasks : ∀ task ∈ arrayTasks jobs target, task.state.isTerminal = true

/-- The target ended for lack of memory: the job itself, or one task of the array. -/
def RanOut (jobs : Table JobId Job) (target : JobId) : Prop :=
  match jobs[target]? with
  | some job => job.state = .outOfMemory
  | none => ∃ task ∈ arrayTasks jobs target, task.state = .outOfMemory

theorem foldl_worst (first : JobState) : ∃ last, states.foldl (fun worst s => match worst with
        | none => some s
        | some w => if severity w ≤ severity s then some s else some w) (some first) = some last ∧
      last ∈ first :: states ∧ ∀ s ∈ first :: states, severity s ≤ severity last := by
  induction states generalizing first with
  | nil => exact ⟨first,rfl,by simp,by simp⟩
  | cons next states hyp =>
    rw [foldl_cons]
    dsimp only
    split
    next worse =>
      obtain ⟨last,ends,member,most⟩ := hyp next
      refine ⟨last,ends,.tail _ member,fun s at_ => ?_⟩
      obtain rfl | at_ := mem_cons.mp at_
      · exact worse.trans (most next (mem_cons_self ..))
      · exact most s at_
    next better =>
      obtain ⟨last,ends,member,most⟩ := hyp first
      grind

theorem aggregate_finished (some_ : states ≠ []) (ended : ∀ s ∈ states, s.isTerminal = true) :
    ∃ last ∈ states, aggregateArrayState states = some last ∧ (last = .outOfMemory ↔ .outOfMemory ∈ states) := by
  unfold aggregateArrayState
  rw [if_neg (by simpa [some_] using ended)]
  split
  next all =>
    obtain ⟨first,member⟩ := exists_mem_of_ne_nil states some_
    have same : ∀ s ∈ states, s = .completed := by simpa using all
    refine ⟨.completed,same first member ▸ member,rfl,fun h => (nomatch h),fun h => nomatch same _ h⟩
  next mixed =>
    cases listed : states.filter _ with
    | nil => exact absurd (by simpa using listed) mixed
    | cons first rest =>
      obtain ⟨last,ends,member,most⟩ := foldl_worst first
      have inside (s : JobState) : s ∈ first :: rest ↔ s ∈ states ∧ s ≠ .completed := by simp [← listed]
      refine ⟨last,((inside last).mp member).1,ends,fun h => h ▸ ((inside last).mp member).1,fun ran => ?_⟩
      have worst := most _ ((inside _).mpr ⟨ran,nofun⟩)
      revert worst
      cases last <;> decide

theorem resolveTargetState_finished (finished : Finished jobs target) :
    ∃ s, resolveTargetState jobs target = some s ∧ s.isTerminal = true ∧ (s = .outOfMemory ↔ RanOut jobs target) := by
  unfold resolveTargetState RanOut
  cases stored : jobs[target]? with
  | some job => exact ⟨job.state,rfl,finished.job job stored,Iff.rfl⟩
  | none =>
    have tasks := finished.known.resolve_left (not_not_intro stored)
    obtain ⟨last,member,aggregate,ran⟩ := aggregate_finished (by simpa using tasks)
      (List.forall_mem_map.mpr finished.tasks)
    obtain ⟨task,at_,rfl⟩ := List.mem_map.mp member
    exact ⟨task.state,by simp [tasks,aggregate],finished.tasks task at_,by simpa using ran⟩

/-- Two verdicts that decide a target both ways. -/
def Opposite (left right : DependencyResult) : Prop :=
  left = .satisfied ∧ right = .failed ∨ left = .failed ∧ right = .satisfied

theorem opposite_iff (now : Time) (job : Job) (finished : Finished jobs target) :
    Opposite (checkDependency jobs now job (.afterOk target)) (checkDependency jobs now job (.afterNotOk target)) ↔
      ¬ RanOut jobs target := by
  obtain ⟨s,resolved,ended,ran⟩ := resolveTargetState_finished finished
  rw [← ran]
  unfold checkDependency
  dsimp only
  rw [resolved]
  revert ended
  cases s <;> simp [Opposite,okVerdict,failedEnd,JobState.isTerminal]

theorem okVerdict_isTerminal {state : Option JobState} (ended : ∀ s, state = some s → s.isTerminal = true) :
    okVerdict JobState.isTerminal state ≠ .waiting := by
  cases state with
  | none => nofun
  | some s =>
    revert ended
    cases s <;> decide

theorem correspondingState_finished {job : Job} (finished : Finished jobs target) (s : JobState)
    (read : correspondingState jobs job target = some s) : s.isTerminal = true := by
  obtain ⟨last,resolved,ended,-⟩ := resolveTargetState_finished finished
  unfold correspondingState at read
  split at read
  · rwa [Option.some.inj (read.symm.trans resolved)]
  split at read
  · rwa [Option.some.inj (read.symm.trans resolved)]
  obtain ⟨task,found,rfl⟩ := map_eq_some_iff.mp read
  exact finished.tasks task (List.mem_of_find?_eq_some found)

def Dependency.asksEnd (dep : Dependency) (target : JobId) : Prop := dep = .afterOk target ∨ dep = .afterNotOk target

theorem checkDependency_decided {now : Time} {job : Job} (due : Due jobs now dep)
    (aimed : dep.targetJobId = some target) (finished : Finished jobs target)
    (spared : dep.asksEnd target → ¬ RanOut jobs target) : checkDependency jobs now job dep ≠ .waiting := by
  obtain ⟨s,resolved,ended,ran⟩ := resolveTargetState_finished finished
  cases dep <;> cases aimed
  case after delay => simp [checkDependency_after jobs now job due,resolved,ended]
  case afterOk =>
    have decided := (opposite_iff now job finished).mpr (spared (.inl rfl))
    grind [Opposite]
  case afterNotOk =>
    have decided := (opposite_iff now job finished).mpr (spared (.inr rfl))
    grind [Opposite]
  case afterAny => simp [checkDependency,resolved,ended]
  case afterCorr =>
    rw [checkDependency_afterCorr]
    exact okVerdict_isTerminal (correspondingState_finished finished)

theorem dependencies_settle_iff (jobs : Table JobId Job) (now : Time) (job : Job)
    (over_ : ∀ dep ∈ parseDependencies job.spec.dependency,
      Due jobs now dep ∧ ∃ target, dep.targetJobId = some target ∧ Finished jobs target) :
    (checkDependencies jobs now job ≠ .waiting ∧
      ∀ dep ∈ parseDependencies job.spec.dependency, checkDependency jobs now job dep ≠ .waiting ∧
        ∀ target, dep.asksEnd target → Opposite (checkDependency jobs now job (.afterOk target))
          (checkDependency jobs now job (.afterNotOk target))) ↔
      ∀ dep ∈ parseDependencies job.spec.dependency, ∀ target, dep.asksEnd target → ¬ RanOut jobs target := by
  have aims {dep : Dependency} {target : JobId} (asks : dep.asksEnd target) : dep.targetJobId = some target := by
    obtain rfl | rfl := asks <;> rfl
  constructor
  · rintro ⟨-,each⟩ dep member target asks
    obtain ⟨-,target',aimed,finished⟩ := over_ dep member
    cases aimed.symm.trans (aims asks)
    exact (opposite_iff now job finished).mp ((each dep member).2 target asks)
  intro spared
  have decided (dep : Dependency) (member : dep ∈ parseDependencies job.spec.dependency) :
      checkDependency jobs now job dep ≠ .waiting := by
    obtain ⟨due,target,aimed,finished⟩ := over_ dep member
    exact checkDependency_decided due aimed finished (spared dep member target)
  refine ⟨fun waits => ?_,fun dep member => ⟨decided dep member,fun target asks => ?_⟩⟩
  · obtain ⟨fine,-⟩ | ⟨among,-⟩ := firstOpen_cases
    · exact nomatch fine.symm.trans waits
    · obtain ⟨dep,member,judged⟩ := List.mem_map.mp among
      exact decided dep member (judged.trans waits)
  · obtain ⟨-,target',aimed,finished⟩ := over_ dep member
    cases aimed.symm.trans (aims asks)
    exact (opposite_iff now job finished).mpr (spared dep member target asks)

theorem dependencies_settle_failed :
    let ended : Job := { Job.new 0 1 {} with state := .failed }
    let waiter : Job := Job.new 0 2 { dependency := ["afterok:1"] }
    let jobs : Table JobId Job := (∅ : Table JobId Job).insert 1 ended
    checkDependencies jobs 5 waiter ≠ .waiting := by
  intro ended waiter jobs
  have listed : parseDependencies waiter.spec.dependency = [.afterOk 1] := by decide +kernel
  have none : arrayTasks jobs 1 = [] := by decide +kernel
  have stored : jobs[1]? = some ended := find_insert ..
  refine ((dependencies_settle_iff jobs 5 waiter fun dep member => ?_).mpr fun dep member target asks => ?_).1
  · rw [listed,mem_singleton] at member
    subst member
    exact ⟨trivial,1,rfl,by simp [stored],by simp [stored,ended,JobState.isTerminal],by simp [none]⟩
  · rw [listed,mem_singleton] at member
    obtain rfl : 1 = target := by subst member; simpa [Dependency.asksEnd] using asks
    simp [RanOut,stored]

/-- Job 1 ended for lack of memory and is never taken up again; both kinds of waiter wait on. -/
theorem outOfMemory_never_settles :
    let jobs : Table JobId Job := (∅ : Table JobId Job).insert 1 { Job.new 0 1 {} with state := .outOfMemory }
    JobState.isTerminal .outOfMemory = true ∧
      checkDependencies jobs 5 (Job.new 0 2 { dependency := ["afterok:1"] }) = .waiting ∧
      checkDependencies jobs 5 (Job.new 0 2 { dependency := ["afternotok:1"] }) = .waiting := by
  decide +kernel

end

section

variable {jobs : Table JobId Job} {now : Time} {job : Job}

/-- No later state of the target can satisfy the dependency. -/
def Dead (jobs : Table JobId Job) (job : Job) : Dependency → Prop
  | .afterOk target => ∀ s, resolveTargetState jobs target = some s → s.isTerminal = true ∧ s ≠ .completed
  | .afterCorr target => ∀ s, correspondingState jobs job target = some s → s.isTerminal = true ∧ s ≠ .completed
  | .afterNotOk target => ∀ s, resolveTargetState jobs target = some s → s = .completed
  | _ => False

/-- A dependency whose target is still to end, or is held to be, by the code, after it ran out of memory. -/
def Undecided (jobs : Table JobId Job) (job : Job) : Dependency → Prop
  | .after target _ => targetStart jobs target = none ∧ ∃ s ∈ resolveTargetState jobs target, s.isTerminal = false
  | .afterOk target | .afterAny target => ∃ s ∈ resolveTargetState jobs target, s.isTerminal = false
  | .afterNotOk target => ∃ s ∈ resolveTargetState jobs target, s.isTerminal = false ∨ s = .outOfMemory
  | .afterCorr target => ∃ s ∈ correspondingState jobs job target, s.isTerminal = false
  | .singleton => ∃ other, Rival jobs job other

theorem checkDependency_failed_iff (job : Job) (due : Due jobs now dep)
    (spared : ∀ target, dep = .afterOk target → resolveTargetState jobs target ≠ some .outOfMemory) :
    (checkDependency jobs now job dep = .failed ↔ Dead jobs job dep) ∧
      (checkDependency jobs now job dep = .waiting ↔ Undecided jobs job dep) := by
  cases dep with
  | after target delay =>
    rw [checkDependency_after jobs now job due]
    dsimp only [Dead,Undecided]
    cases targetStart jobs target <;> cases resolveTargetState jobs target <;> grind
  | afterOk target =>
    have spared := spared target rfl
    dsimp only [checkDependency,Dead,Undecided]
    revert spared
    rcases resolveTargetState jobs target with - | s
    · simp [okVerdict]
    · cases s <;> simp [okVerdict,failedEnd,JobState.isTerminal]
  | afterAny target =>
    dsimp only [checkDependency,Dead,Undecided]
    rcases resolveTargetState jobs target with - | s
    · simp
    · cases s <;> simp [JobState.isTerminal]
  | afterNotOk target =>
    dsimp only [checkDependency,Dead,Undecided]
    rcases resolveTargetState jobs target with - | s
    · simp
    · cases s <;> simp [failedEnd,JobState.isTerminal]
  | afterCorr target =>
    rw [checkDependency_afterCorr]
    dsimp only [Dead,Undecided]
    rcases correspondingState jobs job target with - | s
    · simp [okVerdict]
    · cases s <;> simp [okVerdict,JobState.isTerminal]
  | singleton =>
    classical
    rw [checkDependency_singleton]
    dsimp only [Dead,Undecided]
    split <;> simp_all

/-- What the order would have to leave alone, and a dead dependency decide. -/
structure Orderless (jobs : Table JobId Job) (now : Time) (job : Job) : Prop where
  permuted : ∀ listed : List Dependency, listed.Perm (parseDependencies job.spec.dependency) →
    firstOpen (listed.map (checkDependency jobs now job)) = checkDependencies jobs now job
  fails : (∃ dep ∈ parseDependencies job.spec.dependency, Dead jobs job dep) → checkDependencies jobs now job = .failed

/-- Some listed dependency holds its verdict whatever is listed with it, when it stands first. -/
theorem Orderless.first (orderless : Orderless jobs now job)
    (member : dep ∈ parseDependencies job.spec.dependency) (open_ : checkDependency jobs now job dep ≠ .satisfied) :
    checkDependencies jobs now job = checkDependency jobs now job dep := by
  rw [← orderless.permuted _ (perm_cons_erase member).symm]
  simp [firstOpen,open_]

theorem orderless_iff (jobs : Table JobId Job) (now : Time) (job : Job)
    (due : ∀ dep ∈ parseDependencies job.spec.dependency, Due jobs now dep) :
    Orderless jobs now job ↔ (∀ target, .afterOk target ∈ parseDependencies job.spec.dependency →
        resolveTargetState jobs target ≠ some .outOfMemory) ∧
      ((∃ dep ∈ parseDependencies job.spec.dependency, Dead jobs job dep) →
        ∀ dep ∈ parseDependencies job.spec.dependency, ¬ Undecided jobs job dep) := by
  constructor
  · intro orderless
    have spared (target : JobId) (member : .afterOk target ∈ parseDependencies job.spec.dependency) :
        resolveTargetState jobs target ≠ some .outOfMemory := by
      intro ran
      have waits : checkDependency jobs now job (.afterOk target) = .waiting := by
        simp [checkDependency,ran,okVerdict,failedEnd]
      have first := orderless.first member (by simp [waits])
      have dead := orderless.fails ⟨_,member,by simp [Dead,ran,JobState.isTerminal]⟩
      simp_all
    refine ⟨spared,fun dead dep member undecided => ?_⟩
    have waits := ((checkDependency_failed_iff job (due dep member) fun target same =>
      spared target (same ▸ member)).2).mpr undecided
    have first := orderless.first member (by simp [waits])
    simp [orderless.fails dead,waits] at first
  rintro ⟨spared,apart⟩
  have judged (dep : Dependency) (member : dep ∈ parseDependencies _) :=
    checkDependency_failed_iff job (due dep member) fun target same => spared target (same ▸ member)
  have alone {listed : List Dependency} (same : listed.Perm (parseDependencies job.spec.dependency)) :
      .waiting ∈ listed.map (checkDependency jobs now job) → .failed ∉ listed.map (checkDependency jobs now job) := by
    simp only [List.mem_map,same.mem_iff]
    rintro ⟨dep,member,waits⟩ ⟨dead,at_,fails⟩
    exact apart ⟨dead,at_,(judged dead at_).1.mp fails⟩ dep member ((judged dep member).2.mp waits)
  refine ⟨fun listed same => ?_,fun ⟨dep,member,dead⟩ => ?_⟩
  · change _ = firstOpen _
    rw [firstOpen_apart (alone same),firstOpen_apart (alone (.refl _))]
    simp only [(same.map _).mem_iff]
  · exact (firstOpen_apart (alone (.refl _))).trans
      (if_pos (List.mem_map.mpr ⟨dep,member,(judged dep member).1.mpr dead⟩))

theorem orderless_failed :
    let jobs : Table JobId Job := (∅ : Table JobId Job).insert 1 { Job.new 0 1 {} with state := .failed }
    Orderless jobs 5 (Job.new 0 3 { dependency := ["afterok:1,afterany:1"] }) := by
  intro jobs
  have listed : parseDependencies ["afterok:1,afterany:1"] = [.afterOk 1,.afterAny 1] := by decide +kernel
  have ended : resolveTargetState jobs 1 = some .failed := by decide +kernel
  refine (orderless_iff jobs 5 _ ?_).mpr ?_ <;> simp only [Job.new,listed] <;>
    simp [Due,Dead,Undecided,ended]

/-- Job 1 runs and job 2 has failed: the waiter fails or waits by the order of its list. -/
theorem listed_order_shows :
    let jobs : Table JobId Job := ((∅ : Table JobId Job).insert 1 { Job.new 0 1 {} with state := .running }).insert 2
      { Job.new 0 2 {} with state := .failed }
    checkDependencies jobs 5 (Job.new 0 3 { dependency := ["afterok:1,afterok:2"] }) = .waiting ∧
      checkDependencies jobs 5 (Job.new 0 3 { dependency := ["afterok:2,afterok:1"] }) = .failed := by
  decide +kernel

end

section

/-- A pending job of the name and user that waits for its singleton turn only. -/
structure Queued (jobs : Table JobId Job) (name user : String) (job : Job) : Prop where
  stored : ∃ id : JobId, jobs[id]? = some job
  pending : job.state = .pending
  name : job.spec.name = name
  user : job.spec.user = user
  only : parseDependencies job.spec.dependency = [.singleton]

theorem singleton_progress_iff (jobs : Table JobId Job) (now : Time) (name user : String) (queue : Set Job)
    (some_ : queue.Nonempty) (queued : ∀ job ∈ queue, Queued jobs name user job)
    (idle : ∀ (id : JobId) (other : Job), jobs[id]? = some other → other.spec.name = name → other.spec.user = user →
      other.state ≠ .running ∧ other.isStoppingForTimeLimit = false) :
    (∃ job ∈ queue, checkDependencies jobs now job = .satisfied) ↔
      ∃ first : JobId, ∀ (id : JobId) (other : Job), jobs[id]? = some other → other.spec.name = name →
        other.spec.user = user → other.state = .pending → other.jobId = first := by
  classical
  have turn {job : Job} (member : job ∈ queue) :
      checkDependencies jobs now job = .satisfied ↔ ∀ other, ¬ Rival jobs job other := by
    unfold checkDependencies
    rw [(queued job member).only,map_singleton,checkDependency_singleton]
    split <;> simp_all
  constructor
  · rintro ⟨job,member,satisfied⟩
    refine ⟨job.jobId,fun id other stored named owned pending => ?_⟩
    have mine := queued job member
    by_contra distinct
    exact (turn member).mp satisfied other
      ⟨⟨id,stored⟩,named.trans mine.name.symm,owned.trans mine.user.symm,distinct,.inr (.inl pending)⟩
  · rintro ⟨first,only⟩
    obtain ⟨job,member⟩ := some_
    refine ⟨job,member,(turn member).mpr fun other rival => ?_⟩
    have mine := queued job member
    obtain ⟨id,stored⟩ := rival.stored
    obtain ⟨own,kept⟩ := mine.stored
    have named := rival.name.trans mine.name
    have owned := rival.user.trans mine.user
    obtain ⟨stopped,free⟩ := idle id other stored named owned
    obtain running | pending | stopping := rival.active
    · exact stopped running
    · exact rival.distinct ((only id other stored named owned pending).trans
        (only own job kept mine.name mine.user mine.pending).symm)
    · simp [free] at stopping

theorem singleton_progress_alone :
    let solo := Job.new 0 1 { name := "a",user := "u",dependency := ["singleton"] }
    ∃ job ∈ ({solo} : Set Job), checkDependencies ((∅ : Table JobId Job).insert 1 solo) 5 job = .satisfied := by
  intro solo
  have stored (id : JobId) (other : Job) : ((∅ : Table JobId Job).insert 1 solo)[id]? = some other ↔
      1 = id ∧ solo = other := by simp [Std.ExtTreeMap.getElem?_insert]
  refine (singleton_progress_iff _ 5 "a" "u" {solo} ⟨solo,rfl⟩ ?_ fun id other found _ _ => ?_).mpr
    ⟨1,fun id other found _ _ _ => ?_⟩
  · rintro job rfl
    exact ⟨⟨1,(stored 1 solo).mpr ⟨rfl,rfl⟩⟩,rfl,rfl,rfl,by decide +kernel⟩
  · obtain ⟨-,rfl⟩ := (stored id other).mp found
    exact ⟨nofun,rfl⟩
  · obtain ⟨-,rfl⟩ := (stored id other).mp found
    rfl

/-- Two jobs of one name and user queued behind nothing but each other. -/
theorem singletons_block_each_other :
    let one := Job.new 0 1 { name := "a",user := "u",dependency := ["singleton"] }
    let two := Job.new 0 2 { name := "a",user := "u",dependency := ["singleton"] }
    let jobs : Table JobId Job := ((∅ : Table JobId Job).insert 1 one).insert 2 two
    checkDependencies jobs 5 one = .waiting ∧ checkDependencies jobs 5 two = .waiting := by
  decide +kernel

end

section

variable {jobs : Table JobId Job} {now : Time} {job : Job}

def reconcileIntervalSecs : Nat := 120

def referenced (jobs : Table JobId Job) : List JobId :=
  ((jobs.toList.map Prod.snd).filter fun job => !job.state.isFinalized).flatMap fun job =>
    (parseDependencies job.spec.dependency).filterMap Dependency.targetJobId

def expiredTerminalJobs (retentionSecs : Nat) (now : Time) (jobs : Table JobId Job) : List JobId :=
  let before := now - Duration.seconds (max retentionSecs reconcileIntervalSecs)
  (jobs.toList.filter fun entry => entry.2.state.isFinalized && entry.2.endTime.any (· < before) &&
    !(referenced jobs).contains entry.1 && entry.2.spec.arrayJobId.all fun p => !(referenced jobs).contains p).map Prod.fst

theorem arrayTasks_filter {target : JobId}
    (kept : ∀ (id : JobId) (task : Job), jobs[id]? = some task → task.spec.arrayJobId = some target →
      keep id task = true) : arrayTasks (jobs.filter keep) target = arrayTasks jobs target := by
  unfold arrayTasks
  rw [Std.ExtTreeMap.toList_filter,List.filter_map,List.filter_map,List.filter_filter]
  refine congrArg _ (filter_congr fun entry member => ?_)
  grind

theorem checkDependency_filter
    (target : ∀ (target id : JobId) (other : Job), dep.targetJobId = some target → jobs[id]? = some other →
      id = target ∨ other.spec.arrayJobId = some target → keep id other = true)
    (live : ∀ (id : JobId) (other : Job), jobs[id]? = some other → other.state.isFinalized = false →
      keep id other = true) :
    checkDependency (jobs.filter keep) now job dep = checkDependency jobs now job dep := by
  have same (id : JobId) (aimed : dep.targetJobId = some id) : (jobs.filter keep)[id]? = jobs[id]? ∧
      arrayTasks (jobs.filter keep) id = arrayTasks jobs id := by
    refine ⟨?_,arrayTasks_filter fun task other stored part => target id task other aimed stored (.inr part)⟩
    rw [find_filter]
    cases stored : jobs[id]? with
    | none => rfl
    | some other => exact if_pos (target id id other aimed stored (.inl rfl))
  cases dep
  case singleton =>
    classical
    rw [checkDependency_singleton,checkDependency_singleton]
    refine if_congr (exists_congr fun other => ⟨fun rival => ?_,fun rival => ?_⟩) rfl rfl
    all_goals
      obtain ⟨id,stored⟩ := rival.stored
      refine ⟨⟨id,?_⟩,rival.name,rival.user,rival.distinct,rival.active⟩
      rw [find_filter] at *
    · exact (filter_eq_some_iff.mp stored).1
    · refine filter_eq_some_iff.mpr ⟨stored,live id other stored ?_⟩
      obtain running | pending | stopping := rival.active
      · rw [running]; rfl
      · rw [pending]; rfl
      · have completing : other.state = .completing := by simp_all [Job.isStoppingForTimeLimit]
        rw [completing]; rfl
  all_goals
    obtain ⟨found,tasks⟩ := same _ rfl
    unfold checkDependency resolveTargetState
    simp only [found,tasks]

theorem eviction_invisible (s : State) (retentionSecs : Nat) (evictedAt now : Time) (id : JobId) (job : Job)
    (stored : s.jobs[id]? = some job) (live : job.state.isFinalized = false) :
    checkDependencies (applyEvictTerminalJobs s (expiredTerminalJobs retentionSecs evictedAt s.jobs)).1.jobs now job =
      checkDependencies s.jobs now job := by
  have named (dep : Dependency) (member : dep ∈ parseDependencies job.spec.dependency) (target : JobId)
      (aimed : dep.targetJobId = some target) : target ∈ referenced s.jobs := by
    refine mem_flatMap.mpr ⟨job,?_,mem_filterMap.mpr ⟨dep,member,aimed⟩⟩
    have listed := Std.ExtTreeMap.mem_toList_iff_getElem?_eq_some.mpr stored
    exact mem_filter.mpr ⟨List.mem_map_of_mem listed,by simp [live]⟩
  -- an evicted id is stored with a finalized job that no dependency reaches
  have evicts {other : JobId} {gone : Job} (found : s.jobs[other]? = some gone)
      (member : other ∈ expiredTerminalJobs retentionSecs evictedAt s.jobs) : gone.state.isFinalized = true ∧
        other ∉ referenced s.jobs ∧ ∀ parent, gone.spec.arrayJobId = some parent → parent ∉ referenced s.jobs := by
    obtain ⟨entry,chosen,rfl⟩ := List.mem_map.mp member
    obtain ⟨listed,picked⟩ := mem_filter.mp chosen
    have same := Std.ExtTreeMap.mem_toList_iff_getElem?_eq_some.mp listed
    obtain rfl : entry.2 = gone := Option.some.inj (same.symm.trans found)
    simp only [Bool.and_eq_true] at picked
    refine ⟨picked.1.1.1,by simpa using picked.1.2,fun parent part => ?_⟩
    simpa [part] using picked.2
  refine congrArg firstOpen (map_congr_left fun dep member => ?_)
  refine checkDependency_filter (fun target other gone aimed found reached => ?_) fun other gone found running => ?_
  · grind
  · grind

theorem eviction_invisible_referenced :
    let done : Job := { Job.new 0 1 {} with state := .completed,endTime := some 0 }
    let waiter := Job.new 0 2 { dependency := ["afterok:1"] }
    let s : State := { jobs := (((∅ : Table JobId Job).insert 1 done).insert 3 done).insert 2 waiter }
    expiredTerminalJobs 0 (Duration.seconds 500) s.jobs = [3] ∧
      checkDependencies (applyEvictTerminalJobs s (expiredTerminalJobs 0 (Duration.seconds 500) s.jobs)).1.jobs 5 waiter =
        checkDependencies s.jobs 5 waiter := by
  intro done waiter s
  exact ⟨by decide +kernel,eviction_invisible s 0 _ 5 2 waiter (find_insert ..) rfl⟩

end

end Spur.Cluster
