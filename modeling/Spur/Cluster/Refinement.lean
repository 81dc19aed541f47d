import Spur.Cluster.Moves

/-! Evictions, completions and the entries that only annotate act on the ledger by moves of the abstract job life. -/
namespace Spur.Cluster
open Spur Spur.Library List Option Table

variable {jobId : JobId} {jobs : Table JobId Job} {failure : Option NodeFailure} {nodes : Table String Node}
  {reason : PendingReason} {jobIds : List JobId} {job : Job} {records : List JobFinalized} {eviction : Eviction}
  {p : Job → Bool} {response : ClientResponse} {f : Job → Job} {after : State} {entry : Wal.JobComplete} {at_ : Time}
  {name : String} {op : WalOperation}

section

variable {env : Env} {timestamp : Time} {s : State} {timely : Prop}

theorem evictedState_terminal (job : Job) : (evictedState job).isTerminal = true := by
  unfold evictedState
  split_ifs <;> rfl

theorem evictRun_finish {next : Job}
    (settled : job.state ≠ .preempted) (evicted : evictRun env timestamp reason failure job = some next) :
    (job.state.isActive = true ∨ job.state = .pending) ∧ Over job next ∧ Continues job next ∧
      Ticks timestamp (some job) (some next) [next.elapsedSecs env.now] := by
  obtain ⟨moved,success,rfl⟩ := map_eq_some_iff.mp evicted
  obtain ⟨valid,rfl⟩ := transition_eq success
  have terminal := evictedState_terminal job
  have elapsed := Stint.elapsed_close timestamp (stintOf job)
  refine ⟨valid_to_terminal valid terminal settled,?_⟩
  dsimp only
  split <;> exact ⟨.ended terminal rfl rfl rfl rfl,⟨rfl,le_refl _⟩,.finish (idle_of_terminal terminal) rfl elapsed⟩

theorem evictRun_active (active : job.state.isActive = true) {env : Env} {date : Time} : ∃ next, evictRun env date reason failure job = some next := by
  have valid : (job.endSuspension date).state.validTransition (evictedState job) = true := by
    change job.state.validTransition _ = true
    unfold evictedState
    generalize job.state = state at active
    split_ifs <;> (cases state <;> first | rfl | cases active)
  obtain ⟨moved,found⟩ := transition_valid valid
  unfold evictRun
  rw [found]
  exact ⟨_,rfl⟩

def Eviction.ledger (eviction : Eviction) : Ledger := ⟨eviction.jobs,eviction.nodes⟩

/-- A chain of acts in which the listed jobs take a turn each, and no other job is touched. -/
structure Swept (timely : Prop) (date : Time) (eviction after : Eviction) (jobIds : List JobId) (records : List JobFinalized) : Prop where
  acts : Acts eviction.ledger records after.ledger
  emitted : after.finalized = eviction.finalized ++ records
  turns : Keyed eviction.jobs → Turns timely date eviction.jobs after.jobs records
  apart : ∀ other ∉ jobIds, after.jobs[other]? = eviction.jobs[other]?
  names : Keyed eviction.jobs → ∀ record ∈ records, record.jobId ∈ jobIds

namespace Swept

variable {first second third : Eviction} {timely : Prop} {date : Time}

theorem refl {date : Time} : Swept timely date eviction eviction jobIds [] :=
  ⟨.done _,(append_nil _).symm,fun _ => .refl,fun _ _ => rfl,fun _ _ member => by cases member⟩

theorem move {jobId : JobId} {job next : Job} {records : List JobFinalized}
    {release : Table String Node → Table String Node} (found : first.jobs[jobId]? = some job)
    (move : Move job next records release) (jobs : second.jobs = first.jobs.insert jobId next)
    (nodes : second.nodes = release first.nodes) (emitted : second.finalized = first.finalized ++ records)
    (clock : Ticks date (some job) (some next) (records.map JobFinalized.actualSecs)) :
    Swept timely date first second [jobId] records := by
  refine ⟨.move found jobs nodes move,emitted,fun keyed => ?_,fun other absent => ?_,fun keyed record member => ?_⟩
  · rw [jobs]
    exact .move keyed found move fun _ => clock
  · rw [jobs]
    exact find_insert_ne fun same => absent (same ▸ mem_cons_self)
  · rw [move.names record member,keyed jobId job found]
    exact mem_cons_self

theorem silent (swept : Swept timely date first second jobIds records)
    (keyed : Keyed first.jobs) (absent : jobId ∉ jobIds) : recordsFor jobId records = [] :=
  recordsFor_other fun record member same => absent (same ▸ swept.names keyed record member)

theorem trans {others : List JobId} {later : List JobFinalized}
    (left : Swept timely date first second jobIds records) (right : Swept timely date second third others later)
    (disjoint : jobIds.Disjoint others) : Swept timely date first third (jobIds ++ others) (records ++ later) := by
  have between (keyed : Keyed _) : Keyed _ := (left.turns keyed).keyed keyed
  refine ⟨left.acts.trans right.acts,?_,fun keyed jobId => ?_,fun jobId absent => ?_,fun keyed record member => ?_⟩
  · rw [right.emitted,left.emitted,append_assoc]
  · have split : recordsFor jobId _ = recordsFor jobId records ++ recordsFor jobId later :=
      filter_append ..
    rw [split]
    by_cases member : jobId ∈ jobIds
    · have elsewhere : jobId ∉ others := fun also => disjoint member also
      rw [right.apart jobId elsewhere,right.silent (between keyed) elsewhere,append_nil]
      exact left.turns keyed jobId
    · rw [left.silent keyed member,← left.apart jobId member]
      exact right.turns (between keyed) jobId
  · rw [mem_append,not_or] at absent
    rw [right.apart jobId absent.2,left.apart jobId absent.1]
  · rw [mem_append] at member ⊢
    exact member.imp (left.names keyed record) (right.names (between keyed) record)

end Swept

theorem evictJobLocked_swept (timely : Prop) {env : Env} (timestamp : Time) (eviction : Eviction) (settled : Settled eviction.jobs) :
    ∃ records, Swept timely timestamp eviction (evictJobLocked env timestamp reason failure eviction jobId) [jobId] records := by
  unfold evictJobLocked
  split
  · exact ⟨[],.refl⟩
  rename_i job found
  split
  next refused =>
    have stopped : Move job (job.endSuspension timestamp) [] id :=
      .annotate ⟨rfl,le_refl _⟩ ⟨rfl,rfl,rfl,rfl⟩ rfl
    have level : Level job (job.endSuspension timestamp) := by
      refine ⟨rfl,fun active => ?_,fun _ => rfl⟩
      obtain ⟨next,evicted⟩ := evictRun_active active
      rw [evicted] at refused
      cases refused
    exact ⟨[],.move found stopped rfl rfl (append_nil _).symm (.keep level)⟩
  next next evicted =>
    obtain ⟨live,past,continues,clock⟩ := evictRun_finish (settled jobId job found).1 evicted
    exact ⟨_,.move found (.finish continues live past continues.jobId) rfl rfl rfl clock⟩

theorem evictJobs_swept (timely : Prop) {env : Env} {timestamp : Time} (distinct : jobIds.Nodup) (eviction : Eviction) (settled : Settled eviction.jobs) :
    ∃ records,
      Swept timely timestamp eviction (jobIds.foldl (evictJobLocked env timestamp reason failure) eviction) jobIds records := by
  induction jobIds generalizing eviction with
  | nil => exact ⟨[],.refl⟩
  | cons jobId jobIds ih =>
    rw [nodup_cons] at distinct
    obtain ⟨first,visited⟩ := evictJobLocked_swept timely timestamp eviction settled
    obtain ⟨later,rest⟩ := ih distinct.2 _ (visited.acts.settled settled)
    exact ⟨first ++ later,visited.trans rest (singleton_disjoint.mpr distinct.1)⟩

def Waiting (jobs : Table JobId Job) (jobId : JobId) : Prop :=
  ∀ job : Job, jobs[jobId]? = some job → job.state = .pending

theorem strandJob_act (waiting : Waiting eviction.jobs jobId) :
    Acts eviction.ledger [] (strandJob eviction jobId).ledger ∧
      (strandJob eviction jobId).finalized = eviction.finalized ∧
      Noted eviction.jobs (strandJob eviction jobId).jobs := by
  unfold strandJob
  split
  · exact ⟨.done _,rfl,.refl⟩
  next job found =>
    have pending := waiting job found
    refine ⟨.move found rfl rfl (.free ⟨rfl,le_refl _⟩ pending pending rfl rfl rfl (Or.inl rfl)),rfl,?_⟩
    exact Table.Related.insert_right (fun job => ⟨.refl job,.refl⟩) found ⟨⟨rfl,le_refl _⟩,.waiting pending pending rfl⟩

theorem strandJobs_acts (jobIds : List JobId) (eviction : Eviction)
    (waiting : ∀ jobId ∈ jobIds, Waiting eviction.jobs jobId) :
    Acts eviction.ledger [] (jobIds.foldl strandJob eviction).ledger ∧
      (jobIds.foldl strandJob eviction).finalized = eviction.finalized ∧
      Noted eviction.jobs (jobIds.foldl strandJob eviction).jobs := by
  induction jobIds generalizing eviction with
  | nil => exact ⟨.done _,rfl,.refl⟩
  | cons jobId jobIds ih =>
    obtain ⟨act,silent,noted⟩ := strandJob_act (waiting jobId mem_cons_self)
    obtain ⟨acts,quiet,later⟩ := ih _ (by
      intro other member next stored
      obtain ⟨job,found,_,level⟩ := noted.comesFrom stored
      rw [level.state]
      exact waiting other (mem_cons_of_mem _ member) job found)
    exact ⟨act.trans acts,quiet.trans silent,noted.trans later⟩

theorem mem_jobsWhere : jobId ∈ jobsWhere env p jobs ↔ ∃ job, jobs[jobId]? = some job ∧ p job = true := by
  unfold jobsWhere
  rw [List.mem_map]
  constructor
  · rintro ⟨⟨found,job⟩,member,rfl⟩
    rw [mem_filter,(env.visit_perm _).mem_iff,Std.ExtTreeMap.mem_toList_iff_getElem?_eq_some] at member
    exact ⟨job,member⟩
  · rintro ⟨job,found,holds⟩
    refine ⟨(jobId,job),?_,rfl⟩
    rw [mem_filter,(env.visit_perm _).mem_iff,Std.ExtTreeMap.mem_toList_iff_getElem?_eq_some]
    exact ⟨found,holds⟩

theorem nodup_jobsWhere {env : Env} : (jobsWhere env p jobs).Nodup := by
  refine List.Nodup.sublist (List.Sublist.map _ filter_sublist) ?_
  exact (((env.visit_perm _).map _).nodup_iff).mpr (nodup_keys_toList jobs)

theorem evictJobsOnNode_acts {timely : Prop} {env : Env} {timestamp : Time} {nodeName : String} {failure : NodeFailure} (settled : Settled jobs) :
    Acts ⟨jobs,nodes⟩ (evictJobsOnNode env timestamp nodeName failure jobs nodes).finalized
        (evictJobsOnNode env timestamp nodeName failure jobs nodes).ledger ∧
      (Keyed jobs → Turns timely timestamp jobs (evictJobsOnNode env timestamp nodeName failure jobs nodes).jobs
        (evictJobsOnNode env timestamp nodeName failure jobs nodes).finalized) := by
  unfold evictJobsOnNode
  dsimp only
  obtain ⟨records,evicts⟩ := evictJobs_swept timely nodup_jobsWhere { jobs, nodes } settled
  generalize List.foldl _ _
    _ = evicted at evicts ⊢
  obtain ⟨strands,silent,noted⟩ := strandJobs_acts
    (jobsWhere env (fun job => job.state == .pending && job.isHeldOn nodeName) _) evicted (by
      intro jobId member job found
      obtain ⟨listed,same,holds⟩ := mem_jobsWhere.mp member
      cases Option.some.inj (found.symm.trans same)
      exact beq_iff_eq.mp (Bool.and_eq_true_iff.mp holds).1)
  rw [silent,evicts.emitted]
  constructor
  · have chain := evicts.acts.trans strands
    rwa [append_nil] at chain
  · exact fun keyed => (evicts.turns keyed).noted noted

end

section

variable {s : State} {timely : Prop} {date : Time}

structure Quiet (job next : Job) : Prop where
  continues : Continues job next
  same : SamePlacement job next
  level : Level job next

theorem Quiet.refl : Quiet job job := ⟨.refl job,.refl,.refl⟩

theorem Quiet.trans {first second third : Job} (left : Quiet first second) (right : Quiet second third) :
    Quiet first third :=
  ⟨left.continues.trans right.continues,left.same.trans right.same,left.level.trans right.level⟩

theorem Quiet.move {job next : Job} (quiet : Quiet job next) : Move job next [] id :=
  .annotate quiet.continues quiet.same quiet.level.state

theorem Acts.quietModify (quiet : ∀ job, Quiet job (f job)) : Acts ⟨jobs,nodes⟩ [] ⟨jobs.modify jobId f,nodes⟩ := by
  cases found : jobs[jobId]? with
  | none =>
    rw [modify_of_absent found]
    exact .done _
  | some job =>
    rw [modify_of_find found]
    exact .move found rfl rfl (quiet job).move

theorem noted_modify (quiet : ∀ job, Quiet job (f job)) (jobId : JobId) : Noted jobs (jobs.modify jobId f) :=
  Table.Related.modify_right (fun job => ⟨.refl job,.refl⟩) (fun job => ⟨(quiet job).continues,(quiet job).level⟩)

theorem byActs_noted (acts : Acts s.ledger [] after.ledger)
    (noted : Noted s.jobs after.jobs) (silent : response.jobsFinalized = []) : ByActs timely date s (after,response) := by
  constructor
  · rw [silent]
    exact acts
  · intro _
    rw [silent]
    exact noted.alone

theorem byActs_quietModify
    (quiet : ∀ job, Quiet job (f job)) (jobId : JobId) (jobs : after.jobs = s.jobs.modify jobId f)
    (nodes : after.nodes = s.nodes) (silent : response.jobsFinalized = []) : ByActs timely date s (after,response) := by
  refine byActs_noted ?_ ?_ silent
  · unfold State.ledger
    rw [jobs,nodes]
    exact .quietModify quiet
  · rw [jobs]
    exact noted_modify quiet jobId

theorem nodes_acts (jobs : after.jobs = s.jobs)
    (same : SameCharges s.nodes after.nodes) (silent : response.jobsFinalized = []) : ByActs timely date s (after,response) := by
  refine byActs_noted ?_ ?_ silent
  · unfold State.ledger
    rw [jobs]
    exact .single (.nodes same)
  · rw [jobs]
    exact .refl

theorem sameCharges_map {f : String → Node → Node}
    (kept : ∀ name node, (f name node).name = node.name ∧ (f name node).allocResources = node.allocResources) :
    SameCharges nodes (nodes.map f) := by
  intro name
  rw [find_map,Option.map_map]
  refine congrArg (fun g => Option.map g _) (funext fun node => ?_)
  exact Prod.ext (kept name node).1 (kept name node).2

theorem sameCharges_modify {f : Node → Node} (nodes : Table String Node) (name : String)
    (kept : ∀ node, (f node).name = node.name ∧ (f node).allocResources = node.allocResources) :
    SameCharges nodes (nodes.modify name f) := by
  intro other
  rw [find_modify]
  split
  · rw [Option.map_map]
    refine congrArg (fun g => Option.map g _) (funext fun node => ?_)
    exact Prod.ext (kept node).1 (kept node).2
  · rfl

end

section

variable {env : Env} {timestamp : Time} {s : State} {timely : Prop}

theorem adoptGraceProvenance_quiet : Quiet job (job.adoptGraceProvenance at_) := by
  unfold Job.adoptGraceProvenance
  split
  · exact .refl
  · split <;> exact ⟨⟨rfl,le_refl _⟩,⟨rfl,rfl,rfl,rfl⟩,.same rfl rfl⟩

theorem releaseJob_same {next : Job} (same : SamePlacement job next) (alreadyDeallocated : List String) :
    releaseJob next alreadyDeallocated = releaseJob job alreadyDeallocated := by
  unfold releaseJob
  rw [same.nodes,same.resources,same.slices]

theorem completeRun_finish {state : JobState} {next : Job}
    (terminal : state.isTerminal = true) (settled : job.state ≠ .preempted)
    (completed : completeRun env timestamp entry state job = some (next,records)) :
    (job.state.isActive = true ∨ job.state = .pending) ∧ Over job next ∧ Continues job next ∧
      ∃ record, records = [record] ∧ record.jobId = job.jobId ∧
        Ticks timestamp (some job) (some next) [record.actualSecs] := by
  obtain ⟨moved,success,result⟩ := map_eq_some_iff.mp completed
  obtain ⟨valid,rfl⟩ := transition_eq success
  dsimp only at result
  rw [if_pos terminal] at result
  cases result
  refine ⟨valid_to_terminal valid terminal settled,?_⟩
  split <;> exact ⟨.ended terminal rfl rfl rfl rfl,⟨rfl,le_refl _⟩,_,rfl,rfl,.finish (idle_of_terminal terminal) rfl rfl⟩

theorem finishRun_move {env : Env} {timestamp : Time} {grace : Option PreemptPending} (terminal : entry.state.isTerminal = true) (settled : job.state ≠ .preempted)
    (warned : grace.isSome = true → job.state = .running) :
    (∃ next, finishRun env timestamp entry grace job = (next,none) ∧ Quiet job next) ∨
      ∃ next record, finishRun env timestamp entry grace job = (next,some [record]) ∧
        (job.state.isActive = true ∨ job.state = .pending) ∧ Over job next ∧ Continues job next ∧
        record.jobId = job.jobId ∧ Ticks timestamp (some job) (some next) [record.actualSecs] := by
  unfold finishRun
  dsimp only
  split
  next pending requeues =>
    have running := warned (by
      rw [filter_eq_some_iff] at requeues
      rw [requeues.1]
      rfl)
    obtain ⟨next,record,computed,back,cleared,continues,names,clock⟩ := repend_running _ timestamp running
    have active : job.state.isActive = true := by rw [running]; rfl
    rw [computed]
    exact Or.inr ⟨next,record,rfl,Or.inl active,.requeued active back cleared,continues,names,clock⟩
  next =>
    split
    next next records completed =>
      have ends : (if (grace.any fun pending => pending.mode == .cancel) = true then JobState.cancelled
          else entry.state).isTerminal = true := by
        split
        · rfl
        · exact terminal
      obtain ⟨live,past,continues,record,rfl,names,clock⟩ := completeRun_finish ends settled completed
      exact Or.inr ⟨next,record,rfl,live,past,continues,names,clock⟩
    next => exact Or.inl ⟨job,rfl,.refl⟩

/-- A completion is ignored, or ends the run of the job as marked by the grace it was warned in. -/
theorem jobComplete_cases {env : Env} {timestamp : Time} {s : State} :
    applyJobComplete env timestamp s entry = (s,{}) ∨ ∃ (job marked : Job) (grace : Option PreemptPending),
      s.jobs[entry.jobId]? = some job ∧ (marked = job ∨ marked = job.adoptGraceProvenance timestamp) ∧
      (grace.isSome = true → job.state = .running) ∧
      (applyJobComplete env timestamp s entry).1.jobs =
        s.jobs.insert entry.jobId (finishRun env timestamp entry grace marked).1 ∧
      (applyJobComplete env timestamp s entry).1.nodes = ((finishRun env timestamp entry grace marked).2.elim s.nodes
        fun _ => releaseJob marked marked.nodeCompletions.keys s.nodes) ∧
      (applyJobComplete env timestamp s entry).2.jobsFinalized =
        (finishRun env timestamp entry grace marked).2.getD [] := by
  unfold applyJobComplete
  cases found : s.jobs[entry.jobId]? with
  | none => exact .inl rfl
  | some job =>
    dsimp only
    split
    · exact .inl rfl
    generalize graced : Option.filter _
      _ = grace
    refine .inr ⟨job,if grace.isSome then job.adoptGraceProvenance timestamp else job,grace,rfl,?_,fun given => ?_,?_⟩
    · split
      · exact .inr rfl
      · exact .inl rfl
    · obtain ⟨pending,present⟩ := isSome_iff_exists.mp given
      rw [← graced,filter_eq_some_iff,filter_eq_some_iff,Bool.and_eq_true] at present
      exact beq_iff_eq.mp present.1.2.1
    · generalize finishRun env timestamp entry grace _ = result
      obtain ⟨next,- | records⟩ := result <;> exact ⟨rfl,rfl,rfl⟩

theorem jobComplete_acts (terminal : entry.state.isTerminal = true)
    (settled : Settled s.jobs) : ByActs timely timestamp s (applyJobComplete env timestamp s entry) := by
  obtain ignored | ⟨job,marked,grace,found,adopts,warned,jobs,nodes,emits⟩ :=
    jobComplete_cases
  · rw [ignored]
    exact byActs_idle _ rfl
  have adopted : Quiet job marked := by
    rcases adopts with rfl | rfl
    · exact .refl
    · exact adoptGraceProvenance_quiet
  have rests : marked.state ≠ .preempted := by rw [adopted.level.state]; exact (settled _ job found).1
  generalize applyJobComplete env timestamp s entry = result at jobs nodes emits ⊢
  rcases finishRun_move terminal rests fun given =>
      adopted.level.state.trans (warned given) with
    ⟨next,computed,quiet⟩ | ⟨next,record,computed,live,past,continues,names,clock⟩
  · rw [computed] at jobs nodes emits
    exact byActs_move found jobs nodes emits (adopted.trans quiet).move fun _ => .keep (adopted.trans quiet).level
  · rw [computed] at jobs nodes emits
    rw [adopted.level.state] at live
    refine byActs_move found jobs ?_ emits (.finish (adopted.continues.trans continues) live ?_
      (names.trans adopted.continues.jobId)) fun _ => .after adopted.level clock
    · rw [nodes]
      dsimp only [Option.elim]
      rw [releaseJob_same adopted.same,adopted.same.reports]
    · cases past with
      | ended terminal nodes resources slices reports =>
        exact .ended terminal (nodes.trans adopted.same.nodes) (resources.trans adopted.same.resources)
          (slices.trans adopted.same.slices) reports
      | requeued active pending cleared => exact .requeued (adopted.level.state ▸ active) pending cleared

end

section

variable {config : Config} {env : Env} {timestamp : Time} {s : State} {timely : Prop} {date : Time}

theorem jobEvict_acts {detail : Option String} (settled : Settled s.jobs) :
    ByActs timely timestamp s (applyJobEvict env timestamp s jobId detail) := by
  have quiet (job : Job) : Quiet job { job with launchFailureDetail := detail } :=
    ⟨⟨rfl,le_refl _⟩,⟨rfl,rfl,rfl,rfl⟩,.same rfl rfl⟩
  have notes : Acts ⟨s.jobs,s.nodes⟩ []
    ⟨s.jobs.modify jobId fun job => { job with launchFailureDetail := detail },s.nodes⟩ := .quietModify quiet
  have noted : Noted s.jobs _ :=
    noted_modify quiet jobId
  obtain ⟨records,evicts⟩ := evictJobLocked_swept timely timestamp
    { jobs := s.jobs.modify jobId fun job => { job with launchFailureDetail := detail }, nodes := s.nodes }
    (notes.settled settled)
  have emitted := evicts.emitted
  unfold applyJobEvict
  constructor
  · dsimp only [State.ledger]
    rw [emitted]
    exact notes.trans evicts.acts
  · intro keyed
    dsimp only
    rw [emitted]
    exact noted.turns (evicts.turns (noted.keyed keyed))

theorem jobTimeLimitSignaled_acts : ByActs timely date s (applyJobTimeLimitSignaled s jobId at_) := by
  refine byActs_quietModify (fun job => ?_) jobId rfl rfl rfl
  split
  · exact ⟨⟨rfl,le_refl _⟩,⟨rfl,rfl,rfl,rfl⟩,.same rfl rfl⟩
  · exact .refl

theorem signalled_move {signalled : Job} (quiet : Quiet job signalled) {now : Time} :
    Move job ((signalled.beginCompleting now at_).getD signalled) [] id ∧
      Ticks at_ (some job) (some ((signalled.beginCompleting now at_).getD signalled)) [] := by
  cases begun : signalled.beginCompleting now at_ with
  | none => exact ⟨quiet.move,.keep quiet.level⟩
  | some next =>
    obtain ⟨shift,same,continues,clock⟩ := beginCompleting_shift begun
    rw [quiet.level.state] at shift
    exact ⟨.shift (quiet.continues.trans continues) (quiet.same.trans same) shift,.after quiet.level clock⟩

theorem byActs_signalled {signalled : Job}
    (found : s.jobs[jobId]? = some job) (quiet : Quiet job signalled) (silent : response.jobsFinalized = []) :
    ByActs timely at_ s
      ({ s with jobs := s.jobs.insert jobId ((signalled.beginCompleting env.now at_).getD signalled) },response) := by
  obtain ⟨move,clock⟩ := signalled_move quiet
  exact byActs_move found rfl rfl silent move fun _ => clock

theorem jobCancelSignaled_acts {cancel : Option CancelProvenance} :
    ByActs timely at_ s (applyJobCancelSignaled env s jobId at_ cancel) := by
  refine .atJob fun job found => ?_
  split
  · exact byActs_idle _ rfl
  · exact byActs_signalled found ⟨⟨rfl,le_refl _⟩,⟨rfl,rfl,rfl,rfl⟩,.same rfl rfl⟩ rfl

theorem jobTimeLimitExpired_acts {runAttempt : Nat} :
    ByActs timely at_ s (applyJobTimeLimitExpired env s jobId runAttempt at_) := by
  refine .atJob fun job found => ?_
  split
  · exact byActs_idle _ rfl
  · exact byActs_signalled found ⟨⟨rfl,le_refl _⟩,⟨rfl,rfl,rfl,rfl⟩,.same rfl rfl⟩ rfl

theorem jobPreemptSignaled_acts {pending : PreemptPending} :
    ByActs timely date s (applyJobPreemptSignaled s jobId pending) := by
  refine .atJob fun job found => ?_
  split
  · exact byActs_move found rfl rfl rfl (.annotate ⟨rfl,le_refl _⟩ ⟨rfl,rfl,rfl,rfl⟩ rfl) fun _ => .keep (.same rfl rfl)
  · exact byActs_idle _ rfl

theorem jobStepComplete_acts (jobId : JobId) (stepId : StepId) (exitCode : Int) :
    ByActs timely date s (applyJobStepComplete timestamp s jobId stepId exitCode) := by
  unfold applyJobStepComplete
  split
  · exact byActs_idle _ rfl
  by_cases user : isUserStep stepId = true
  · refine byActs_quietModify (f := fun job => { job with derivedExitCode := max _ exitCode })
      (fun job => ?_) jobId (if_pos user) rfl rfl
    exact ⟨⟨rfl,le_refl _⟩,⟨rfl,rfl,rfl,rfl⟩,.same rfl rfl⟩
  · exact nodes_acts (if_neg user) (fun _ => rfl) rfl

theorem jobStepCreate_acts {step : JobStep} : ByActs timely date s (applyJobStepCreate s step) := by
  unfold applyJobStepCreate
  split
  · exact byActs_idle _ rfl
  · split
    · exact byActs_idle _ rfl
    · exact nodes_acts rfl (fun _ => rfl) rfl

theorem jobExcludeUpdate_acts {exclude : Option String} :
    ByActs timely date s (applyJobExcludeUpdate s jobId exclude) := by
  refine .atJob fun job found => ?_
  split
  · exact byActs_move found rfl rfl rfl (.annotate ⟨rfl,le_refl _⟩ ⟨rfl,rfl,rfl,rfl⟩ rfl) fun _ => .keep (.same rfl rfl)
  · exact byActs_idle _ rfl

theorem reprioritizedJob_move {entry : Wal.JobPriorityChange} : Move job (reprioritizedJob entry job) []
      (if holdReleases entry job = true then releaseJob job [] else id) ∧ Level job (reprioritizedJob entry job) := by
  unfold reprioritizedJob
  by_cases releases : holdReleases entry job = true
  · have pending : job.state = .pending := by
      unfold holdReleases at releases
      simp only [Bool.and_eq_true,beq_iff_eq] at releases
      exact releases.1.1.2
    simp only [releases]
    split <;> exact ⟨.free ⟨rfl,le_max_right _ _⟩ pending pending rfl rfl rfl (Or.inr rfl),.same rfl rfl⟩
  · simp only [releases]
    split <;> exact ⟨.annotate ⟨rfl,le_max_right _ _⟩ ⟨rfl,rfl,rfl,rfl⟩ rfl,.same rfl rfl⟩

theorem jobPriorityChange_acts {entry : Wal.JobPriorityChange} : ByActs timely date s (applyJobPriorityChange s entry) := by
  refine .atJob fun job found => ?_
  obtain ⟨move,level⟩ := reprioritizedJob_move
  refine byActs_move found rfl ?_ rfl move fun _ => .keep level
  split <;> rfl

theorem evictTerminalJobs_acts : ByActs timely date s (applyEvictTerminalJobs s jobIds) := by
  have past (jobId : JobId) (member : jobId ∈ jobIds.filter fun jobId => (s.jobs[jobId]?).any fun job => job.state.isFinalized)
      (job : Job) (found : s.jobs[jobId]? = some job) : job.state.isFinalized = true := by
    obtain ⟨_,holds⟩ := mem_filter.mp member
    rw [found] at holds
    exact holds
  refine ⟨.single (.purge past),fun _ jobId => ?_⟩
  dsimp only [applyEvictTerminalJobs]
  rw [find_filter]
  cases found : s.jobs[jobId]? with
  | none => exact .refl
  | some job =>
    rw [filter_some]
    split
    · exact .refl
    next evicted =>
      refine ⟨.purge (past jobId ?_ job found),fun _ _ _ => ⟨fun _ same => (by cases same),fun _ _ _ _ member => ?_⟩⟩
      · simpa using evicted
      · cases member

theorem reservationDelete_acts : ByActs timely date s (applyReservationDelete s name) := by
  unfold applyReservationDelete
  split
  · exact byActs_idle _ rfl
  rename_i res found
  have quiet (job : Job) : Quiet job (reservationDeletedJob name res.flags.noHoldJobs job) := by
    unfold reservationDeletedJob
    split_ifs
    · exact .refl
    · dsimp only
      split_ifs <;> exact ⟨⟨rfl,le_refl _⟩,⟨rfl,rfl,rfl,rfl⟩,.same rfl rfl⟩
    · exact .refl
    · exact ⟨⟨rfl,le_refl _⟩,⟨rfl,rfl,rfl,rfl⟩,.same rfl rfl⟩
  refine byActs_noted (.single (.annotateAll fun job => ⟨(quiet job).continues,(quiet job).same,(quiet job).level.state⟩)) ?_ rfl
  exact Table.Related.map_right (fun _ job => ⟨(quiet job).continues,(quiet job).level⟩)

theorem applyNodePolicy_charge (nc : Option NodeConfig) (node : Node) :
    (applyNodePolicy nc node).name = node.name ∧ (applyNodePolicy nc node).allocResources = node.allocResources := by
  have derived (nc : Option NodeConfig) (node : Node) : (deriveCoreLayout nc node).name = node.name ∧
      (deriveCoreLayout nc node).allocResources = node.allocResources := by
    unfold deriveCoreLayout
    repeat' split
    all_goals exact ⟨rfl,rfl⟩
  have recomputed (nc : Option NodeConfig) (node : Node) : (recomputeCoreLayout nc node).name = node.name ∧
      (recomputeCoreLayout nc node).allocResources = node.allocResources := by
    unfold recomputeCoreLayout
    dsimp only
    split <;> exact derived nc node
  cases nc with
  | none => exact recomputed none _
  | some nc => exact recomputed _ _

theorem applyNodeConfigPolicy_charge {config : Config} {node : Node} :
    (applyNodeConfigPolicy config node).name = node.name ∧
      (applyNodeConfigPolicy config node).allocResources = node.allocResources := by
  have kept := applyNodePolicy_charge (config.nodes.find? fun nc => nodeConfigMatches nc node.name node.labels) node
  unfold applyNodeConfigPolicy
  dsimp only
  split <;> exact kept

theorem reconcilePartitions_charges {config : Config} {partitions : List Partition} :
    SameCharges nodes (reconcilePartitions config partitions nodes) :=
  sameCharges_map fun _ node => applyNodeConfigPolicy_charge

theorem stateChangedNode_charge (entry : Wal.NodeStateChange) (node : Node) :
    (stateChangedNode entry node).name = node.name ∧
      (stateChangedNode entry node).allocResources = node.allocResources := by
  unfold stateChangedNode
  split <;> exact ⟨rfl,rfl⟩

theorem nodeStateChange_acts (entry : Wal.NodeStateChange) (settled : Settled s.jobs) :
    ByActs timely timestamp s (applyNodeStateChange env timestamp s entry) := by
  have same := sameCharges_modify s.nodes entry.name (stateChangedNode_charge entry)
  unfold applyNodeStateChange
  split
  · obtain ⟨acts,turns⟩ := evictJobsOnNode_acts settled
    exact ⟨.more (.nodes same) acts,turns⟩
  · exact nodes_acts rfl same rfl

theorem nodeRemove_acts {reason : Option String} (settled : Settled s.jobs) :
    ByActs timely timestamp s (applyNodeRemove env timestamp s name reason) := by
  obtain ⟨acts,turns⟩ := evictJobsOnNode_acts settled
  have chain := acts.trans (.single (.remove name))
  rw [append_nil] at chain
  exact ⟨chain,turns⟩

end

def ordinary : WalOperation → Bool
  | .jobSubmit .. | .jobStart .. | .jobNodeComplete .. | .nodeRegister .. | .nodeUpdate .. => false
  | _ => true

/-- What every proposer guarantees of the entry it builds: a completion carries a verdict, and a state
change activates a job or re-pends it. -/
def Emitted : WalOperation → Prop
  | .jobComplete entry => entry.state.isTerminal = true
  | .jobStateChange entry => entry.newState = .running ∨ entry.newState = .pending
  | _ => True

instance : DecidablePred Emitted := fun op => by cases op <;> unfold Emitted <;> infer_instance

def plainMoves : WalOperation → Bool
  | .jobSubmit .. | .jobStart .. | .jobNodeComplete .. | .nodeRegister .. | .nodeUpdate .. | .jobStateChange ..
  | .jobComplete .. | .jobEvict .. | .nodeStateChange .. | .nodeRemove .. => false
  | _ => true

theorem applyOperation_moves {config : Config} {env : Env} {s : State} (plain : plainMoves op = true) :
    ByActs (Punctual s op) (dateOf env op) s (applyOperation config env s op) := by
  cases op with
  | jobSubmit | jobStart | jobNodeComplete | nodeRegister | nodeUpdate | jobStateChange | jobComplete | jobEvict
  | nodeStateChange | nodeRemove => cases plain
  | jobTimeLimitSignaled jobId at_ => exact jobTimeLimitSignaled_acts
  | jobCancelSignaled jobId at_ cancel => exact jobCancelSignaled_acts
  | jobStepComplete jobId stepId exitCode => exact jobStepComplete_acts jobId stepId exitCode
  | jobStepCreate step => exact jobStepCreate_acts
  | jobPriorityChange entry => exact jobPriorityChange_acts
  | jobExcludeUpdate jobId exclude => exact jobExcludeUpdate_acts
  | jobDispatchBackoff entry => exact jobDispatchBackoff_acts
  | jobPreemptRequeue entry => exact jobPreemptRequeue_acts
  | jobPreemptCancel entry => exact jobPreemptCancel_acts
  | jobUserRequeue entry => exact jobUserRequeue_acts
  | jobSuspend entry => exact jobSuspend_acts
  | jobResume jobId at_ => exact jobResume_acts
  | jobLaunchFailureDetail jobId detail =>
    refine byActs_quietModify (fun job => ?_) jobId rfl rfl rfl
    exact ⟨⟨rfl,le_refl _⟩,⟨rfl,rfl,rfl,rfl⟩,.same rfl rfl⟩
  | nodeLabelsUpdate name set remove =>
    refine nodes_acts rfl (sameCharges_modify _ name fun node => ?_) rfl
    exact applyNodeConfigPolicy_charge
  | tokenCreate | tokenRevoke | k0sSetPhase | k0sMemberNodesAdd | k0sMemberNodesRemove | reservationUpdate =>
    exact nodes_acts rfl (fun _ => rfl) rfl
  | reservationCreate reservation =>
    unfold applyOperation applyReservationCreate
    dsimp only
    split
    · exact byActs_idle _ rfl
    · exact nodes_acts rfl (fun _ => rfl) rfl
  | partitionCreate | partitionUpdate | partitionDelete =>
    exact nodes_acts rfl reconcilePartitions_charges rfl
  | reservationDelete name => exact reservationDelete_acts
  | nodeK0sAssign | nodeK0sClear | nodeK0sSetError =>
    exact nodes_acts rfl (sameCharges_modify _ _ fun _ => ⟨rfl,rfl⟩) rfl
  | evictTerminalJobs jobIds => exact evictTerminalJobs_acts
  | jobTimeLimitExpired jobId runAttempt at_ => exact jobTimeLimitExpired_acts
  | jobPreemptSignaled jobId pending => exact jobPreemptSignaled_acts

theorem applyOperation_acts {config : Config} {env : Env} {s : State}
    (plain : ordinary op = true) (emitted : Emitted op) (settled : Settled s.jobs) :
    ByActs (Punctual s op) (dateOf env op) s (applyOperation config env s op) := by
  cases op with
  | jobSubmit | jobStart | jobNodeComplete | nodeRegister | nodeUpdate => cases plain
  | jobStateChange entry =>
    have date : dateOf env (.jobStateChange entry) = entry.at_.getD (entry.at_.getD env.now) := by
      change entry.at_.getD _ = _
      cases entry.at_ <;> rfl
    rw [date]
    exact jobStateChange_acts emitted
  | jobComplete entry => exact jobComplete_acts emitted settled
  | jobEvict jobId detail _ => exact jobEvict_acts settled
  | nodeStateChange entry => exact nodeStateChange_acts entry settled
  | nodeRemove name reason _ => exact nodeRemove_acts settled
  | _ => exact applyOperation_moves rfl

end Spur.Cluster
