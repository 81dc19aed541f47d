import Spur.Cluster.Placement

/-! The reports of a run's nodes may come in any order: the verdict is the same, every node is released once. -/
namespace Spur.Cluster
open Spur Spur.Library List Option Table

structure Verdict where
  state : JobState
  exitCode : Option Int
  exitSignal : Int
  reason : PendingReason
  desc : Option String
  deriving DecidableEq

def verdictOf (job : Job) : Verdict := ⟨job.state,job.exitCode,job.exitSignal,job.pendingReason,job.pendingReasonDesc⟩

def graceNow (job : Job) : Option PreemptPending := job.preemptGrace.filter fun _ => job.state == .running

/-- The verdict of a completed set of reports, from the primary node's result and what is known of the run. -/
def reportVerdict (timedOut cancelled oom : Bool) (primary : NodeCompletion) : Verdict :=
  let signal := Job.stripOomFlag primary.signal
  let failure := if signal != 0 then .raisedSignal else if primary.code != 0 then .nonZeroExitCode else .none
  let ended (state : JobState) (reason : PendingReason) : Verdict := ⟨state,some primary.code,signal,reason,none⟩
  if oom then ended .outOfMemory .outOfMemory
  else if timedOut then ended .timeout .timeLimit
  else if cancelled then ended .cancelled .none
  else ended (if primary.code != 0 || primary.signal != 0 then .failed else .completed) failure

def endVerdict (grace : Option PreemptPending) (timedOut cancelled : Bool) (exitSignal : Int) (oom : Bool)
    (primary : NodeCompletion) : Verdict :=
  match grace.filter fun _ => !oom with
  | none => reportVerdict timedOut cancelled oom primary
  | some pending =>
    if pending.mode = .requeue then
      ⟨.pending,none,exitSignal,.preempted,some (preemptionSummary (some pending.preemptedBy) pending.preemptQos)⟩
    else reportVerdict timedOut (cancelled || pending.mode == .cancel) oom primary

variable {primary : NodeCompletion} {jobId : JobId} {next : Job}

section

variable {env : Env} {job : Job} {at_ : Time}

theorem completionVerdict_eq (job : Job) (oom : Bool) (primary : NodeCompletion) :
    job.completionVerdict (if primary.code != 0 || primary.signal != 0 then .failed else .completed) primary.code
        (Job.stripOomFlag primary.signal) oom =
      ((reportVerdict job.timeLimitSignaledAt.isSome job.cancelSignaledAt.isSome oom primary).state,
        (reportVerdict job.timeLimitSignaledAt.isSome job.cancelSignaledAt.isSome oom primary).reason) := by
  unfold Job.completionVerdict reportVerdict
  cases oom with
  | true => rfl
  | false =>
    cases job.timeLimitSignaledAt.isSome with
    | true => rfl
    | false =>
      cases job.cancelSignaledAt.isSome with
      | true => rfl
      | false => cases failed : (primary.code != 0 || primary.signal != 0) <;> rfl

theorem reportVerdict_rest (timedOut cancelled oom : Bool) (primary : NodeCompletion) :
    reportVerdict timedOut cancelled oom primary =
      ⟨(reportVerdict timedOut cancelled oom primary).state,some primary.code,Job.stripOomFlag primary.signal,
        (reportVerdict timedOut cancelled oom primary).reason,none⟩ := by
  cases oom <;> cases timedOut <;> cases cancelled <;> rfl

theorem finalizeReportedRun_verdict (completing : job.state = .completing)
    (reported : job.nodeCompletions[job.allocatedNodes.headD ""]? = some primary) :
    verdictOf (job.finalizeReportedRun env at_).1 =
      reportVerdict job.timeLimitSignaledAt.isSome job.cancelSignaledAt.isSome job.reportedOom primary := by
  have derived : Job.derivedCompletion (env.visit job.nodeCompletions.toList) job.nodeCompletions
      (job.allocatedNodes.headD "") =
        (if primary.code != 0 || primary.signal != 0 then .failed else .completed,primary.code,primary.signal) := by
    unfold Job.derivedCompletion
    rw [reported]
    rfl
  have failed : (if primary.code != 0 || primary.signal != 0 then JobState.failed else .completed) = .failed ∨
      (if primary.code != 0 || primary.signal != 0 then JobState.failed else .completed) = .completed := by
    split_ifs
    · exact Or.inl rfl
    · exact Or.inr rfl
  obtain ⟨valid,_⟩ :=
    verdict_from_completing failed
  have verdict := completionVerdict_eq job job.reportedOom primary
  rw [reportVerdict_rest]
  unfold Job.finalizeReportedRun
  dsimp only
  rw [derived]
  rw [verdict] at valid ⊢
  rw [← completing] at valid
  unfold Job.transition
  rw [if_pos valid]
  rfl

theorem routeThroughCompleting_keeps (now : Time) :
    (job.routeThroughCompleting now at_).timeLimitSignaledAt = job.timeLimitSignaledAt ∧
      (job.routeThroughCompleting now at_).cancelSignaledAt = job.cancelSignaledAt ∧
      (job.routeThroughCompleting now at_).exitSignal = job.exitSignal ∧
      (job.routeThroughCompleting now at_).runAttempt = job.runAttempt := by
  unfold Job.routeThroughCompleting Job.transition
  split_ifs <;> exact ⟨rfl,rfl,rfl,rfl⟩

theorem adoptGraceProvenance_flags {pending : PreemptPending} (warned : job.preemptGrace = some pending) :
    (job.adoptGraceProvenance at_).timeLimitSignaledAt = job.timeLimitSignaledAt ∧
      (job.adoptGraceProvenance at_).cancelSignaledAt.isSome =
        (job.cancelSignaledAt.isSome || pending.mode == .cancel) := by
  unfold Job.adoptGraceProvenance
  rw [warned]
  dsimp only
  cases pending.mode with
  | cancel => exact ⟨rfl,(Bool.or_true _).symm⟩
  | off => exact ⟨rfl,(Bool.or_false _).symm⟩
  | suspend => exact ⟨rfl,(Bool.or_false _).symm⟩
  | requeue => exact ⟨rfl,(Bool.or_false _).symm⟩

theorem advanceAfterNodeReport_verdict (active : job.state.isActive = true) (all : job.allNodesCompleted = true)
    (reported : job.nodeCompletions[job.allocatedNodes.headD ""]? = some primary) :
    verdictOf (job.advanceAfterNodeReport env (graceNow job) at_).1 =
      endVerdict (graceNow job) job.timeLimitSignaledAt.isSome job.cancelSignaledAt.isSome job.exitSignal
        job.reportedOom primary := by
  have settles (marked : Job) (quiet : Quiet job marked) :
      verdictOf ((marked.routeThroughCompleting env.now at_).finalizeReportedRun env at_).1 =
        reportVerdict marked.timeLimitSignaledAt.isSome marked.cancelSignaledAt.isSome job.reportedOom primary := by
    have going : marked.state.isActive = true := by rw [quiet.level.state]; exact active
    obtain ⟨completing,⟨_,same,_⟩,_⟩ := routeThroughCompleting_drains going
    obtain ⟨timed,cancelled,_,_⟩ := @routeThroughCompleting_keeps marked at_ _
    have whole := quiet.same.trans same
    rw [finalizeReportedRun_verdict completing (by rw [whole.nodes,whole.reports]; exact reported),timed,cancelled]
    unfold Job.reportedOom
    rw [whole.reports]
  unfold Job.advanceAfterNodeReport endVerdict
  dsimp only
  rw [all,Bool.true_and]
  cases given : (graceNow job).filter fun _ => !job.reportedOom with
  | none => exact settles job .refl
  | some pending =>
    have warned := (filter_eq_some_iff.mp (filter_eq_some_iff.mp given).1)
    have running : job.state = .running := beq_iff_eq.mp warned.2
    dsimp only
    by_cases requeue : pending.mode = .requeue
    · rw [if_pos requeue,if_pos requeue]
      unfold Job.rependAfterPreemption Job.transition
      simp only [running,JobState.validTransition]
      rfl
    · rw [if_neg requeue,if_neg requeue]
      obtain ⟨timed,cancelled⟩ := @adoptGraceProvenance_flags job at_ pending warned.1
      exact (settles _ adoptGraceProvenance_quiet).trans (by rw [timed,cancelled])

end

section

variable {config : Config} {env : Env} {s : State} {job : Job}

def reportEntry (report : Env × Wal.JobNodeComplete) : Env × WalOperation := (report.1,.jobNodeComplete report.2)

/-- One report from each node that the job is held on, with the node's result, none of them from an earlier run. -/
structure Delivers (jobId : JobId) (job : Job) (results : String → NodeCompletion)
    (reports : List (Env × Wal.JobNodeComplete)) : Prop where
  nodes : (reports.map fun report => report.2.nodeName).Perm (job.allocatedNodes.filter job.isHeldOn)
  results : ∀ report ∈ reports, report.2.jobId = jobId ∧
    (⟨report.2.exitCode,report.2.signal⟩ : NodeCompletion) = results report.2.nodeName
  current : ∀ report ∈ reports,
    ¬(report.2.runAttempt ≠ 0 ∧ job.runAttempt ≠ 0 ∧ report.2.runAttempt < job.runAttempt)

def resultOf (job : Job) (results : String → NodeCompletion) (name : String) : NodeCompletion :=
  (job.nodeCompletions[name]?).getD (results name)

variable {report : Env × Wal.JobNodeComplete}

theorem report_applied {config : Config}
    (found : s.jobs[report.2.jobId]? = some job) (accepted : reportAccepted report.2 job) :
    ∃ timestamp, (step config s (reportEntry report)).jobs = s.jobs.insert report.2.jobId
        ((reportedJob job report.2.nodeName ⟨report.2.exitCode,report.2.signal⟩).advanceAfterNodeReport report.1
          (graceNow job) timestamp).1 ∧
      (step config s (reportEntry report)).nodes = releaseReported job report.2.nodeName s.nodes := by
  refine ⟨report.2.at_.getD report.1.now,?_⟩
  change (applyJobNodeComplete report.1 _ s _).1.jobs = _ ∧ (applyJobNodeComplete report.1 _ s _).1.nodes = _
  unfold applyJobNodeComplete
  rw [found]
  dsimp only
  rw [if_neg accepted.1,if_neg (by rw [accepted.2]; decide)]
  exact ⟨rfl,rfl⟩

structure Awaits (job next : Job) : Prop where
  active : next.state.isActive = true
  same : SamePlacement job next
  attempt : next.runAttempt = job.runAttempt
  grace : graceNow next = graceNow job
  timedOut : next.timeLimitSignaledAt = job.timeLimitSignaledAt
  cancelled : next.cancelSignaledAt = job.cancelSignaledAt
  signal : next.exitSignal = job.exitSignal

theorem advanceAfterNodeReport_awaits (at_ : Time) (active : job.state.isActive = true)
    (unfinished : job.allNodesCompleted = false) :
    Awaits job (job.advanceAfterNodeReport env (graceNow job) at_).1 := by
  unfold Job.advanceAfterNodeReport
  rw [unfinished]
  cases given : graceNow job with
  | none =>
    simp only [filter_none,Bool.false_eq_true,if_false]
    obtain ⟨completing,⟨_,same,_⟩,_⟩ := routeThroughCompleting_drains active
    obtain ⟨timed,cancelled,signal,attempt⟩ := @routeThroughCompleting_keeps job at_ _
    refine ⟨?_,same,attempt,?_,timed,cancelled,signal⟩
    · rw [completing]
      rfl
    rw [given]
    unfold graceNow
    rw [completing]
    cases (job.routeThroughCompleting _ at_).preemptGrace <;> rfl
  | some pending =>
    exact ⟨active,.refl,rfl,rfl,rfl,rfl,rfl⟩

variable {nodeName : String}

theorem resultOf_reported (results : String → NodeCompletion)
    (unreported : nodeName ∉ job.nodeCompletions) (name : String) :
    resultOf (reportedJob job nodeName (results nodeName)) results name = resultOf job results name := by
  unfold resultOf reportedJob
  rw [find_insert]
  split
  next same =>
    subst same
    rw [Std.ExtTreeMap.getElem?_eq_none unreported]
    rfl
  next => rfl

theorem isHeldOn_reported (completion : NodeCompletion) (name : String) :
    (reportedJob job nodeName completion).isHeldOn name = (job.isHeldOn name && name != nodeName) := by
  rw [Bool.eq_iff_iff,Bool.and_eq_true,isHeldOn_iff,isHeldOn_iff,bne_iff_ne]
  unfold reportedJob
  rw [Std.ExtTreeMap.mem_insert,Std.compare_eq_iff_eq]
  constructor
  · rintro ⟨member,unreported⟩
    exact ⟨⟨member,fun before => unreported (Or.inr before)⟩,fun same => unreported (Or.inl same.symm)⟩
  rintro ⟨⟨member,unreported⟩,other⟩
  refine ⟨member,?_⟩
  rintro (same | before)
  · exact other same.symm
  · exact unreported before

variable {reports : List (Env × Wal.JobNodeComplete)} {results : String → NodeCompletion}

theorem Delivers.rest (distinct : job.allocatedNodes.Nodup)
    (delivers : Delivers jobId job results (report :: reports)) :
    Delivers jobId (reportedJob job report.2.nodeName (results report.2.nodeName)) results reports := by
  refine ⟨?_,fun later member => delivers.results later (mem_cons_of_mem _ member),
    fun later member => delivers.current later (mem_cons_of_mem _ member)⟩
  have erased := delivers.nodes.erase report.2.nodeName
  rw [map_cons,erase_cons_head,(distinct.filter _).erase_eq_filter,List.filter_filter] at erased
  refine erased.trans (List.Perm.of_eq (filter_congr fun name _ => ?_))
  rw [isHeldOn_reported,Bool.and_comm]

theorem find_releaseJob_funded {total : ResourceAllocations} (distinct : job.allocatedNodes.Nodup)
    (funded : job.allocatedResources = some total) (nodes : Table String Node) (name : String) :
    (releaseJob job job.nodeCompletions.keys nodes)[name]? =
      if job.isHeldOn name = true then (nodes[name]?).map fun node =>
        node.release (sliceOn job.perNodeAlloc total (max job.allocatedNodes.length 1) name)
      else nodes[name]? := by
  unfold releaseJob deallocateJobSlices
  rw [funded]
  rw [find_foldl_modify _ distinct]
  have same : (name ∈ job.allocatedNodes ∧ job.nodeCompletions.keys.contains name = false) ↔ job.isHeldOn name = true := by
    rw [isHeldOn_iff,← Bool.not_eq_true,contains_iff_mem,Std.ExtTreeMap.mem_keys]
  by_cases held : job.isHeldOn name = true
  · rw [if_pos (same.mpr held),if_pos held]
  · rw [if_neg (fun both => held (same.mp both)),if_neg held]

theorem releaseJob_releaseReported (distinct : job.allocatedNodes.Nodup)
    (held : job.isHeldOn nodeName = true) (completion : NodeCompletion) (nodes : Table String Node) :
    releaseJob (reportedJob job nodeName completion) (reportedJob job nodeName completion).nodeCompletions.keys
        (releaseReported job nodeName nodes) = releaseJob job job.nodeCompletions.keys nodes := by
  cases funded : job.allocatedResources with
  | none =>
    have kept : (reportedJob job nodeName completion).allocatedResources = none := funded
    unfold releaseJob deallocateJobSlices releaseReported
    rw [kept,funded]
  | some total =>
    apply Table.ext
    intro name
    rw [find_releaseJob_funded distinct funded,
      @find_releaseJob_funded (reportedJob job nodeName completion) total distinct funded,isHeldOn_reported]
    have fresh := (isHeldOn_iff.mp held).2
    unfold releaseReported
    rw [funded]
    dsimp only
    rw [if_neg (fun contained => fresh (Std.ExtTreeMap.mem_iff_contains.mpr contained)),find_modify]
    by_cases same : nodeName = name
    · subst same
      rw [if_pos rfl,if_pos held,bne_self_eq_false,Bool.and_false]
      rfl
    · rw [if_neg same,bne_iff_ne.mpr (Ne.symm same),Bool.and_true]
      rfl

theorem releaseJob_unheld (distinct : job.allocatedNodes.Nodup) (unheld : job.holdsAPlacement = false)
    {nodes : Table String Node} : releaseJob job job.nodeCompletions.keys nodes = nodes := by
  cases funded : job.allocatedResources with
  | none =>
    unfold releaseJob deallocateJobSlices
    rw [funded]
  | some total =>
    apply Table.ext
    intro name
    rw [find_releaseJob_funded distinct funded,if_neg]
    intro held
    rw [Job.holdsAPlacement,List.any_eq_false] at unheld
    exact unheld name (isHeldOn_iff.mp held).1 held

def expectedVerdict (job : Job) (results : String → NodeCompletion) : Verdict :=
  endVerdict (graceNow job) job.timeLimitSignaledAt.isSome job.cancelSignaledAt.isSome job.exitSignal
    (job.allocatedNodes.any fun name => Job.hasOomFlag (resultOf job results name).signal)
    (resultOf job results (job.allocatedNodes.headD ""))

theorem find_nodeCompletions {name : String} (reported : name ∈ job.nodeCompletions) (results : String → NodeCompletion) :
    job.nodeCompletions[name]? = some (resultOf job results name) := by
  obtain ⟨completion,found⟩ := mem_iff_find.mp reported
  unfold resultOf
  rw [found]
  rfl

theorem reportedOom_eq (reported : ∀ name, name ∈ job.nodeCompletions ↔ name ∈ job.allocatedNodes)
    {results : String → NodeCompletion} :
    job.reportedOom = job.allocatedNodes.any fun name => Job.hasOomFlag (resultOf job results name).signal := by
  unfold Job.reportedOom
  rw [Bool.eq_iff_iff,List.any_eq_true,List.any_eq_true]
  constructor
  · rintro ⟨⟨name,completion⟩,member,flagged⟩
    have found := Std.ExtTreeMap.mem_toList_iff_getElem?_eq_some.mp member
    refine ⟨name,(reported name).mp (mem_iff_find.mpr ⟨completion,found⟩),?_⟩
    unfold resultOf
    rw [found]
    exact flagged
  · rintro ⟨name,member,flagged⟩
    have found := find_nodeCompletions ((reported name).mpr member) results
    exact ⟨(name,resultOf job results name),Std.ExtTreeMap.mem_toList_iff_getElem?_eq_some.mpr found,flagged⟩

theorem expectedVerdict_of_last (at_ : Time) (active : job.state.isActive = true) (distinct : job.allocatedNodes.Nodup)
    (within : ∀ name, name ∈ job.nodeCompletions → name ∈ job.allocatedNodes) (all : job.allNodesCompleted = true)
    (results : String → NodeCompletion) :
    verdictOf (job.advanceAfterNodeReport env (graceNow job) at_).1 = expectedVerdict job results := by
  obtain ⟨placed,unheld⟩ := (allNodesCompleted_iff distinct within).mp all
  have every : ∀ name, name ∈ job.allocatedNodes → name ∈ job.nodeCompletions := by
    intro name member
    by_contra unreported
    rw [Job.holdsAPlacement,List.any_eq_false] at unheld
    exact unheld name member (isHeldOn_iff.mpr ⟨member,unreported⟩)
  have primary : job.allocatedNodes.headD "" ∈ job.allocatedNodes := by
    obtain ⟨first,others,same⟩ := exists_cons_of_ne_nil placed
    rw [same]
    exact mem_cons_self
  unfold expectedVerdict
  rw [advanceAfterNodeReport_verdict active all (find_nodeCompletions (every _ primary) results),
    reportedOom_eq (fun name => ⟨within name,every name⟩)]

theorem expectedVerdict_awaits (awaits : Awaits job next) (results : String → NodeCompletion) :
    expectedVerdict next results = expectedVerdict job results := by
  unfold expectedVerdict resultOf
  rw [awaits.grace,awaits.timedOut,awaits.cancelled,awaits.signal,awaits.same.nodes,awaits.same.reports]

theorem expectedVerdict_reported {results : String → NodeCompletion} (unreported : nodeName ∉ job.nodeCompletions) :
    expectedVerdict (reportedJob job nodeName (results nodeName)) results = expectedVerdict job results := by
  have same := resultOf_reported results unreported
  unfold expectedVerdict
  simp only [same]
  rfl

theorem isHeldOn_awaits (awaits : Awaits job next) : next.isHeldOn = job.isHeldOn := by
  unfold Job.isHeldOn
  rw [awaits.same.nodes,awaits.same.reports]

def RunOver (final : Job) : Prop := final.state.isActive = false ∧ ∀ name, heldSlice final name = none

theorem runOver_of_over (past : Over job next) : RunOver next := by
  refine ⟨?_,over_holds past⟩
  cases past with
  | ended terminal =>
    generalize next.state = state at terminal
    cases state <;> first | rfl | cases terminal
  | requeued _ pending =>
    rw [pending]
    rfl

theorem graceNow_running (given : (graceNow job).isSome = true) : job.state = .running := by
  obtain ⟨pending,present⟩ := isSome_iff_exists.mp given
  exact beq_iff_eq.mp (filter_eq_some_iff.mp present).2

theorem Delivers.nil_iff
    (delivers : Delivers jobId job results reports) : reports = [] ↔ job.holdsAPlacement = false := by
  have nothing : job.allocatedNodes.filter job.isHeldOn = [] ↔ job.holdsAPlacement = false := by
    rw [filter_eq_nil_iff,Job.holdsAPlacement,List.any_eq_false]
  rw [← nothing,← map_eq_nil_iff,← perm_nil]
  exact ⟨fun none => perm_nil.mp (delivers.nodes.symm.trans none),fun none => none ▸ delivers.nodes⟩

theorem Delivers.awaits (delivers : Delivers jobId job results reports) (awaits : Awaits job next) :
    Delivers jobId next results reports := by
  refine ⟨?_,delivers.results,?_⟩
  · rw [awaits.same.nodes,isHeldOn_awaits awaits]
    exact delivers.nodes
  · rw [awaits.attempt]
    exact delivers.current

theorem report_settles {config : Config}
    (found : s.jobs[report.2.jobId]? = some job) (accepted : reportAccepted report.2 job)
    (distinct : job.allocatedNodes.Nodup) (within : ∀ name, name ∈ job.nodeCompletions → name ∈ job.allocatedNodes)
    (held : job.isHeldOn report.2.nodeName = true)
    (result : (⟨report.2.exitCode,report.2.signal⟩ : NodeCompletion) = results report.2.nodeName) :
    let reported := reportedJob job report.2.nodeName (results report.2.nodeName)
    ∃ next, (step config s (reportEntry report)).jobs[report.2.jobId]? = some next ∧
      (reported.holdsAPlacement = false ∧ RunOver next ∧ verdictOf next = expectedVerdict job results ∨
        reported.holdsAPlacement = true ∧ Awaits reported next) := by
  intro reported
  have member := (isHeldOn_iff.mp held).1
  have inside : ∀ name, name ∈ reported.nodeCompletions → name ∈ reported.allocatedNodes := by
    intro name before
    rcases Std.ExtTreeMap.mem_insert.mp before with same | before
    · rw [← Std.LawfulEqOrd.eq_of_compare same]
      exact member
    · exact within name before
  obtain ⟨at_,jobs,_⟩ := report_applied found accepted
  rw [result] at jobs
  refine ⟨(reported.advanceAfterNodeReport report.1 (graceNow reported) at_).1,?_,?_⟩
  · rw [jobs,find_insert,if_pos rfl]
    rfl
  have every : reported.allNodesCompleted = true ↔ reported.holdsAPlacement = false := by
    rw [@allNodesCompleted_iff reported distinct inside]
    exact ⟨And.right,fun unheld => ⟨ne_nil_of_mem member,unheld⟩⟩
  cases holds : reported.holdsAPlacement with
  | false =>
    have all := every.mpr holds
    refine Or.inl ⟨rfl,?_,?_⟩
    · rcases @advanceAfterNodeReport_move reported _ at_ _ accepted.2 graceNow_running with
        ⟨unfinished,_⟩ | ⟨_,next,record,computed,past,_⟩
      · rw [all] at unfinished
        cases unfinished
      · rw [computed]
        exact runOver_of_over past
    · rw [← expectedVerdict_reported (isHeldOn_iff.mp held).2]
      exact @expectedVerdict_of_last _ reported at_ accepted.2 distinct inside all results
  | true =>
    refine Or.inr ⟨rfl,@advanceAfterNodeReport_awaits _ reported at_ accepted.2 ?_⟩
    rw [← Bool.not_eq_true,every,holds]
    decide

theorem reports_settle {config : Config} (found : s.jobs[jobId]? = some job) (active : job.state.isActive = true)
    (distinct : job.allocatedNodes.Nodup) (within : ∀ name, name ∈ job.nodeCompletions → name ∈ job.allocatedNodes)
    (delivers : Delivers jobId job results reports) :
    ∃ final : Job, (run config s (reports.map reportEntry)).jobs[jobId]? = some final ∧
      (run config s (reports.map reportEntry)).nodes = releaseJob job job.nodeCompletions.keys s.nodes ∧
      (reports = [] ∧ final = job ∨ reports ≠ [] ∧ RunOver final ∧ verdictOf final = expectedVerdict job results) := by
  induction reports generalizing s job with
  | nil =>
    exact ⟨job,found,(releaseJob_unheld distinct (delivers.nil_iff.mp rfl)).symm,Or.inl ⟨rfl,rfl⟩⟩
  | cons report reports ih =>
    obtain ⟨rfl,result⟩ := delivers.results report mem_cons_self
    obtain ⟨member,held⟩ := mem_filter.mp (delivers.nodes.subset mem_cons_self)
    have accepted : reportAccepted _ job := ⟨delivers.current report mem_cons_self,active⟩
    have rest := delivers.rest distinct
    have owed := releaseJob_releaseReported distinct held (results report.2.nodeName) s.nodes
    obtain ⟨_,_,nodes⟩ := report_applied found accepted
    rw [← nodes] at owed
    obtain ⟨next,stored,⟨unheld,past,verdict⟩ | ⟨holds,awaits⟩⟩ :=
      report_settles found accepted distinct within held result
    · cases rest.nil_iff.mpr unheld
      rw [← owed]
      exact ⟨next,stored,(@releaseJob_unheld (reportedJob job _ _) distinct unheld _).symm,
        Or.inr ⟨cons_ne_nil _ _,past,verdict⟩⟩
    · have inside : ∀ name, name ∈ next.nodeCompletions → name ∈ next.allocatedNodes := by
        intro name before
        rw [awaits.same.reports] at before
        rw [awaits.same.nodes]
        rcases Std.ExtTreeMap.mem_insert.mp before with same | before
        · rw [← Std.LawfulEqOrd.eq_of_compare same]
          exact member
        · exact within name before
      obtain ⟨final,last,released,ended⟩ :=
        ih stored awaits.active (awaits.same.nodes ▸ distinct) inside (rest.awaits awaits)
      refine ⟨final,last,?_,Or.inr ⟨cons_ne_nil _ _,?_⟩⟩
      · rw [← owed]
        refine released.trans ?_
        unfold releaseJob
        rw [awaits.same.nodes,awaits.same.resources,awaits.same.slices,awaits.same.reports]
      · rcases ended with ⟨none,_⟩ | ⟨_,past,verdict⟩
        · rw [rest.nil_iff.mp none] at holds
          cases holds
        · rw [expectedVerdict_awaits awaits,expectedVerdict_reported (isHeldOn_iff.mp held).2] at verdict
          exact ⟨past,verdict⟩

def twoNodeJob : Job where
  jobId := 1
  spec := {}
  state := .running
  pendingReason := .none
  priority := 0
  submitTime := 0
  allocatedNodes := ["n1","n2"]
  timeLimitSignaledAt := some 5

def twoNodeReports : List (Env × Wal.JobNodeComplete) :=
  [(.ordered 7,{ jobId := 1, nodeName := "n1", exitCode := 0, signal := 15 }),
    (.ordered 8,{ jobId := 1, nodeName := "n2", exitCode := 3, signal := 0 })]

def twoNodeResults (name : String) : NodeCompletion := if name = "n1" then ⟨0,15⟩ else ⟨3,0⟩

end

end Spur.Cluster
