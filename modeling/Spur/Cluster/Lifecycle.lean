import Spur.Cluster.Clock

/-! The life of a job as an abstract machine: its moves, their end records and what they do to the node charges. -/
namespace Spur.Cluster
open Spur Spur.Library List Table

structure SamePlacement (job next : Job) : Prop where
  nodes : next.allocatedNodes = job.allocatedNodes
  resources : next.allocatedResources = job.allocatedResources
  slices : next.perNodeAlloc = job.perNodeAlloc
  reports : next.nodeCompletions = job.nodeCompletions

structure Continues (job next : Job) : Prop where
  jobId : next.jobId = job.jobId
  attempt : job.runAttempt ≤ next.runAttempt

theorem SamePlacement.refl {job : Job} : SamePlacement job job := ⟨rfl,rfl,rfl,rfl⟩

theorem SamePlacement.trans {first second third : Job} (left : SamePlacement first second)
    (right : SamePlacement second third) : SamePlacement first third :=
  ⟨right.nodes.trans left.nodes,right.resources.trans left.resources,right.slices.trans left.slices,
    right.reports.trans left.reports⟩

theorem Continues.refl (job : Job) : Continues job job := ⟨rfl,le_refl _⟩

theorem Continues.trans {first second third : Job} (left : Continues first second)
    (right : Continues second third) : Continues first third :=
  ⟨right.jobId.trans left.jobId,left.attempt.trans right.attempt⟩

structure Cleared (job : Job) : Prop where
  nodes : job.allocatedNodes = []
  resources : job.allocatedResources = none
  slices : job.perNodeAlloc = ∅
  reports : job.nodeCompletions = ∅

inductive LiveShift : JobState → JobState → Prop
  | activate : LiveShift .pending .running
  | resume : LiveShift .suspended .running
  | suspend : LiveShift .running .suspended
  | drain : LiveShift .running .completing
  | drainSuspended : LiveShift .suspended .completing

inductive Over (job next : Job) : Prop
  | ended (terminal : next.state.isTerminal = true) (nodes : next.allocatedNodes = job.allocatedNodes)
      (resources : next.allocatedResources = job.allocatedResources) (slices : next.perNodeAlloc = job.perNodeAlloc)
      (reports : next.nodeCompletions = ∅)
  | requeued (active : job.state.isActive = true) (pending : next.state = .pending) (cleared : Cleared next)

inductive Move (job : Job) : Job → List JobFinalized → (Table String Node → Table String Node) → Prop
  | annotate {next : Job} (continues : Continues job next) (same : SamePlacement job next)
      (state : next.state = job.state) : Move job next [] id
  | shift {next : Job} (continues : Continues job next) (same : SamePlacement job next)
      (shift : LiveShift job.state next.state) : Move job next [] id
  | finish {next : Job} {record : JobFinalized} (continues : Continues job next)
      (live : job.state.isActive = true ∨ job.state = .pending) (past : Over job next)
      (names : record.jobId = job.jobId) : Move job next [record] (releaseJob job job.nodeCompletions.keys)
  | free {next : Job} (continues : Continues job next) (pending : job.state = .pending)
      (stays : next.state = .pending) (nodes : next.allocatedNodes = []) (resources : next.allocatedResources = none)
      (slices : next.perNodeAlloc = ∅)
      (reports : next.nodeCompletions = ∅ ∨ next.nodeCompletions = job.nodeCompletions) :
      Move job next [] (releaseJob job [])
  | reopen {next : Job} (continues : Continues job next) (past : job.state.isFinalized = true)
      (pending : next.state = .pending) (cleared : Cleared next) : Move job next [] id

structure Ledger where
  jobs : Table JobId Job
  nodes : Table String Node

def State.ledger (s : State) : Ledger := ⟨s.jobs,s.nodes⟩

def SameCharges (before after : Table String Node) : Prop :=
  ∀ name : String, (after[name]?).map (fun node => (node.name,node.allocResources)) =
    (before[name]?).map fun node => (node.name,node.allocResources)

inductive Act : Ledger → List JobFinalized → Ledger → Prop
  | move {ledger : Ledger} {jobId : JobId} {job next : Job} {records : List JobFinalized}
      {release : Table String Node → Table String Node} (found : ledger.jobs[jobId]? = some job)
      (move : Move job next records release) :
      Act ledger records ⟨ledger.jobs.insert jobId next,release ledger.nodes⟩
  | annotateAll {ledger : Ledger} {f : Job → Job}
      (quiet : ∀ job, Continues job (f job) ∧ SamePlacement job (f job) ∧ (f job).state = job.state) :
      Act ledger [] ⟨ledger.jobs.map fun _ job => f job,ledger.nodes⟩
  | purge {ledger : Ledger} {jobIds : List JobId}
      (past : ∀ jobId ∈ jobIds, ∀ job, ledger.jobs[jobId]? = some job → job.state.isFinalized = true) :
      Act ledger [] ⟨ledger.jobs.filter fun jobId _ => !jobIds.contains jobId,ledger.nodes⟩
  | nodes {ledger : Ledger} {nodes : Table String Node} (same : SameCharges ledger.nodes nodes) :
      Act ledger [] ⟨ledger.jobs,nodes⟩
  | remove {ledger : Ledger} (name : String) : Act ledger [] ⟨ledger.jobs,ledger.nodes.erase name⟩

inductive Acts : Ledger → List JobFinalized → Ledger → Prop
  | done (ledger : Ledger) : Acts ledger [] ledger
  | more {first second third : Ledger} {records later : List JobFinalized} (act : Act first records second)
      (rest : Acts second later third) : Acts first (records ++ later) third

variable {records : List JobFinalized}

theorem Acts.single {first second : Ledger} (act : Act first records second) : Acts first records second := by
  have chain := Acts.more act (.done second)
  rwa [append_nil] at chain

variable {release : Table String Node → Table String Node} {job next : Job}

theorem Acts.move {before after : Ledger} {jobId : JobId} (found : before.jobs[jobId]? = some job)
    (jobs : after.jobs = before.jobs.insert jobId next) (nodes : after.nodes = release before.nodes)
    (move : Move job next records release) : Acts before records after := by
  obtain ⟨jobsAfter,nodesAfter⟩ := after
  subst jobs nodes
  exact .single (.move found move)

theorem Acts.trans {first second third : Ledger} {records later : List JobFinalized}
    (left : Acts first records second) (right : Acts second later third) : Acts first (records ++ later) third := by
  induction left with
  | done ledger => exact right
  | more act rest ih =>
    rw [append_assoc]
    exact .more act (ih right)

def Settled (jobs : Table JobId Job) : Prop :=
  ∀ (jobId : JobId) (job : Job), jobs[jobId]? = some job → job.state ≠ .preempted ∧ job.state ≠ .requeued

private theorem terminal_settled {state : JobState} (terminal : state.isTerminal = true) :
    state ≠ .preempted ∧ state ≠ .requeued := by
  constructor <;> (rintro rfl; cases terminal)

theorem over_settled (past : Over job next) : next.state ≠ .preempted ∧ next.state ≠ .requeued := by
  cases past with
  | ended terminal => exact terminal_settled terminal
  | requeued _ pending _ => rw [pending]; exact ⟨by decide,by decide⟩

theorem Move.settled (move : Move job next records release) (before : job.state ≠ .preempted ∧ job.state ≠ .requeued) :
    next.state ≠ .preempted ∧ next.state ≠ .requeued := by
  cases move with
  | annotate _ _ state => rwa [state]
  | shift _ _ shift =>
    generalize next.state = target at shift
    generalize job.state = source at shift
    cases shift <;> exact ⟨by decide,by decide⟩
  | finish _ _ past _ => exact over_settled past
  | free _ _ stays _ _ _ _ => rw [stays]; exact ⟨by decide,by decide⟩
  | reopen _ _ pending _ => rw [pending]; exact ⟨by decide,by decide⟩

theorem Act.settled {first second : Ledger} (act : Act first records second)
    (before : Settled first.jobs) : Settled second.jobs := by
  cases act with
  | @move jobId job next _ release found move =>
    intro other result stored
    rw [find_insert] at stored
    split at stored
    · cases Option.some.inj stored
      exact move.settled (before jobId job found)
    · exact before other result stored
  | @annotateAll f quiet =>
    intro jobId result stored
    rw [find_map,Option.map_eq_some_iff] at stored
    obtain ⟨job,found,rfl⟩ := stored
    rw [(quiet job).2.2]
    exact before jobId job found
  | purge _ =>
    intro jobId job stored
    rw [find_filter,Option.filter_eq_some_iff] at stored
    exact before jobId job stored.1
  | nodes _ => exact before
  | remove _ => exact before

theorem Acts.settled {first second : Ledger} (acts : Acts first records second)
    (before : Settled first.jobs) : Settled second.jobs := by
  induction acts with
  | done => exact before
  | more act _ ih => exact ih (act.settled before)

inductive Turn (jobId : JobId) : Option Job → Option Job → Nat → Prop
  | absent : Turn jobId none none 0
  | submit {next : Job} (names : next.jobId = jobId) (pending : next.state = .pending) : Turn jobId none (some next) 0
  | stay {job next : Job} (continues : Continues job next)
      (state : next.state = job.state ∨ LiveShift job.state next.state) : Turn jobId (some job) (some next) 0
  | finish {job next : Job} (continues : Continues job next) (live : job.state.isActive = true ∨ job.state = .pending)
      (past : next.state.isTerminal = true ∨ job.state.isActive = true ∧ next.state = .pending) :
      Turn jobId (some job) (some next) 1
  | reopen {job next : Job} (continues : Continues job next) (past : job.state.isFinalized = true)
      (pending : next.state = .pending) : Turn jobId (some job) (some next) 0
  | purge {job : Job} (past : job.state.isFinalized = true) : Turn jobId (some job) none 0

def recordsFor (jobId : JobId) (records : List JobFinalized) : List JobFinalized :=
  records.filter fun record => record.jobId = jobId

/-- What one entry does to one job: the turn it takes with the end records of its own, and, when the entry is
timely, what becomes of its clock. -/
structure Spell (timely : Prop) (date : Time) (jobId : JobId) (before after : Option Job) (own : List JobFinalized) :
    Prop where
  turn : Turn jobId before after own.length
  ticks : timely → Ticks date before after (own.map JobFinalized.actualSecs)

def Turns (timely : Prop) (date : Time) (before after : Table JobId Job) (records : List JobFinalized) : Prop :=
  ∀ jobId : JobId, Spell timely date jobId before[jobId]? after[jobId]? (recordsFor jobId records)

def Keyed (jobs : Table JobId Job) : Prop := ∀ (jobId : JobId) (job : Job), jobs[jobId]? = some job → job.jobId = jobId

variable {after : Option Job} {jobs : Table JobId Job}

namespace Turn

variable {jobId : JobId} {before : Option Job} {job next : Job} {count : Nat}

theorem refl {jobId : JobId} {job : Option Job} : Turn jobId job job 0 := by
  cases job with
  | none => exact .absent
  | some job => exact .stay (.refl job) (.inl rfl)

theorem noted (turn : Turn jobId before (some job) count) (continues : Continues job next)
    (state : next.state = job.state) : Turn jobId before (some next) count := by
  cases turn with
  | submit names pending => exact .submit (continues.jobId.trans names) (state.trans pending)
  | stay first going => exact .stay (first.trans continues) (by rw [state]; exact going)
  | finish first live past => exact .finish (first.trans continues) live (by rw [state]; exact past)
  | reopen first past pending => exact .reopen (first.trans continues) past (state.trans pending)

theorem of_noted (continues : Continues job next) (state : next.state = job.state)
    (turn : Turn jobId (some next) after count) : Turn jobId (some job) after count := by
  cases turn with
  | stay later going => exact .stay (continues.trans later) (by rw [← state]; exact going)
  | finish later live past => exact .finish (continues.trans later) (by rw [← state]; exact live) (by rw [← state]; exact past)
  | reopen later past pending => exact .reopen (continues.trans later) (by rw [← state]; exact past) pending
  | purge past => exact .purge (by rw [← state]; exact past)

end Turn

variable {timely : Prop} {date : Time}

namespace Spell

variable {jobId : JobId} {before : Option Job} {own : List JobFinalized}

theorem refl {jobId : JobId} {job : Option Job} : Spell timely date jobId job job [] :=
  ⟨.refl,fun _ => .refl⟩

theorem noted (spell : Spell timely date jobId before (some job) own) (continues : Continues job next)
    (level : Level job next) : Spell timely date jobId before (some next) own :=
  ⟨spell.turn.noted continues level.state,fun on => (spell.ticks on).level level⟩

theorem of_noted (continues : Continues job next) (level : Level job next)
    (spell : Spell timely date jobId (some next) after own) : Spell timely date jobId (some job) after own :=
  ⟨.of_noted continues level.state spell.turn,fun on => .after level (spell.ticks on)⟩

end Spell

def Noted (before after : Table JobId Job) : Prop :=
  Table.Related (fun job next => Continues job next ∧ Level job next) before after

theorem Noted.refl : Noted jobs jobs := Table.Related.refl (fun job => ⟨.refl job,.refl⟩)

theorem Noted.trans {first second third : Table JobId Job} (left : Noted first second) (right : Noted second third) :
    Noted first third :=
  Table.Related.trans left right fun _ _ _ first second => ⟨first.1.trans second.1,first.2.trans second.2⟩

theorem Turns.noted {before between after : Table JobId Job}
    (turns : Turns timely date before between records) (noted : Noted between after) :
    Turns timely date before after records := by
  intro jobId
  have spell := turns jobId
  rcases noted.both with ⟨missing,absent⟩ | ⟨job,next,found,stored,continues,level⟩
  · rw [absent,← missing]
    exact spell
  · rw [found] at spell
    rw [stored]
    exact spell.noted continues level

theorem Noted.turns {before between after : Table JobId Job}
    (noted : Noted before between) (turns : Turns timely date between after records) :
    Turns timely date before after records := by
  intro jobId
  have spell := turns jobId
  rcases noted.both with ⟨missing,absent⟩ | ⟨job,next,found,stored,continues,level⟩
  · rw [missing,← absent]
    exact spell
  · rw [stored] at spell
    rw [found]
    exact .of_noted continues level spell

theorem Move.turn (move : Move job next records release) : Turn job.jobId (some job) (some next) records.length := by
  cases move with
  | annotate continues _ state => exact .stay continues (.inl state)
  | shift continues _ shift => exact .stay continues (.inr shift)
  | @finish record continues live past names =>
    refine .finish continues live ?_
    cases past with
    | ended terminal => exact .inl terminal
    | requeued active pending => exact .inr ⟨active,pending⟩
  | free continues pending stays => exact .stay continues (.inl (stays.trans pending.symm))
  | reopen continues past pending => exact .reopen continues past pending

theorem Move.continues (move : Move job next records release) : Continues job next := by
  cases move <;> assumption

theorem Move.names (move : Move job next records release) : ∀ record ∈ records, record.jobId = job.jobId := by
  cases move with
  | finish _ _ _ names =>
    intro record member
    rw [mem_singleton.mp member,names]
  | _ => exact fun record member => (by cases member)

theorem recordsFor_self {jobId : JobId} (names : ∀ record ∈ records, record.jobId = jobId) :
    recordsFor jobId records = records :=
  filter_eq_self.mpr fun record member => decide_eq_true (names record member)

theorem recordsFor_other {jobId : JobId} (names : ∀ record ∈ records, record.jobId ≠ jobId) : recordsFor jobId records = [] :=
  filter_eq_nil_iff.mpr fun record member => by simpa using names record member

/-- A turn that the job at `jobId` takes with all the end records, and no other job any. -/
theorem Turns.insert {jobId : JobId} (found : jobs[jobId]? = some job)
    (names : ∀ record ∈ records, record.jobId = jobId) (spell : Spell timely date jobId (some job) (some next) records) :
    Turns timely date jobs (jobs.insert jobId next) records := by
  intro other
  rw [find_insert]
  split
  next same =>
    subst same
    rw [found,recordsFor_self names]
    exact spell
  next different =>
    rw [recordsFor_other fun record member => names record member ▸ different]
    exact .refl

theorem Turns.move {jobs : Table JobId Job} {jobId : JobId} (keyed : Keyed jobs) (found : jobs[jobId]? = some job)
    (move : Move job next records release)
    (clock : timely → Ticks date (some job) (some next) (records.map JobFinalized.actualSecs)) :
    Turns timely date jobs (jobs.insert jobId next) records := by
  have named := keyed jobId job found
  exact .insert found (named ▸ move.names) ⟨named ▸ move.turn,clock⟩

theorem Turns.refl : Turns timely date jobs jobs [] := fun jobId => .refl

theorem Noted.alone {before after : Table JobId Job} (noted : Noted before after) : Turns timely date before after [] :=
  Turns.refl.noted noted

theorem Noted.keyed {before after : Table JobId Job} (noted : Noted before after) (keyed : Keyed before) : Keyed after := by
  intro jobId next stored
  obtain ⟨job,found,continues,_⟩ := noted.comesFrom stored
  exact continues.jobId.trans (keyed jobId job found)

theorem Turns.keyed {before after : Table JobId Job} (turns : Turns timely date before after records)
    (keyed : Keyed before) : Keyed after := by
  intro jobId next stored
  have turn := (turns jobId).turn
  rw [stored] at turn
  generalize found : before[jobId]? = first at turn
  generalize (recordsFor jobId records).length = count at turn
  cases turn with
  | submit names => exact names
  | stay continues | finish continues | reopen continues => exact continues.jobId.trans (keyed jobId _ found)

end Spur.Cluster
