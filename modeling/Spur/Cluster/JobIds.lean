import Spur.Cluster.Attempts
import Spur.Cluster.Frame

/-! The job id counter: submitters increment it without a lock, the apply thread reads it and writes it back. -/
namespace Spur.Cluster
open Spur Spur.Library Spur.Library.Run List Option

structure Applying where
  counter : JobId
  env : Env
  op : WalOperation

/-- One controller lifetime: the ids handed out so far, and those whose submission has yet to be applied. -/
structure Issuer where
  state : State
  applying : Option Applying := none
  issued : List JobId := []
  proposed : List JobId := []

inductive IssuerEvent where
  | fetchAdd
  | begin (env : Env) (op : WalOperation)
  | finish (stores : Bool)

def returnsEarly : WalOperation → Bool
  | .jobStateChange .. | .jobDispatchBackoff .. | .jobPreemptRequeue .. | .jobUserRequeue .. | .jobPreemptCancel ..
  | .jobStart .. | .jobNodeComplete .. | .jobCancelSignaled .. | .jobTimeLimitExpired .. | .jobComplete .. => true
  | _ => false

def submittedId : WalOperation → Option JobId
  | .jobSubmit jobId _ => some jobId
  | _ => none

namespace Issuer

def fetchAdd (m : Issuer) : Issuer :=
  let jobId := m.state.nextJobId
  { m with
    state := { m.state with nextJobId := (jobId + 1) % 2 ^ 32 }
    issued := jobId :: m.issued
    proposed := jobId :: m.proposed }

def begin (env : Env) (op : WalOperation) (m : Issuer) : Issuer :=
  match m.applying with
  | some _ => m
  | none =>
    { m with
      applying := some ⟨m.state.nextJobId,env,op⟩
      proposed := (submittedId op).elim m.proposed m.proposed.erase }

def applied (config : Config) (m : Issuer) (current : Applying) : State :=
  (applyOperation config current.env { m.state with nextJobId := current.counter } current.op).1

def finish (config : Config) (stores : Bool) (m : Issuer) : Issuer :=
  match m.applying with
  | none => m
  | some current =>
    let done := m.applied config current
    { m with
      applying := none
      state := if stores || !returnsEarly current.op then done else { done with nextJobId := m.state.nextJobId } }

def step (config : Config) (m : Issuer) : IssuerEvent → Issuer
  | .fetchAdd => m.fetchAdd
  | .begin env op => m.begin env op
  | .finish stores => m.finish config stores

def run (config : Config) (m : Issuer) (events : List IssuerEvent) : Issuer := events.foldl (step config) m

/-- Nothing has been handed out yet, and every stored job has an id below the counter. -/
structure Starts (m : Issuer) : Prop where
  idle : m.applying = none
  issued : m.issued = []
  proposed : m.proposed = []
  stored : ∀ (jobId : JobId) (job : Job), m.state.jobs[jobId]? = some job → jobId < m.state.nextJobId

def Calm (m : Issuer) : IssuerEvent → Prop
  | .fetchAdd => m.applying = none ∧ m.state.nextJobId + 1 < 2 ^ 32
  | _ => True

def Proposes (m : Issuer) : IssuerEvent → Prop
  | .begin _ op => m.applying = none → ∀ jobId ∈ submittedId op, jobId ∈ m.proposed
  | _ => True

def Overwrites (m : Issuer) : IssuerEvent → Prop
  | .finish _ => ∃ current ∈ m.applying, ∃ jobId ∈ submittedId current.op, (m.state.jobs[jobId]?).isSome = true
  | _ => False

end Issuer

variable {op : WalOperation} {env : Env} {event : IssuerEvent} {current : Applying} {stores : Bool}

theorem applyOperation_nextJobId {config : Config} (s : State) :
    s.nextJobId ≤ (applyOperation config env s op).1.nextJobId := by
  by_cases about : aboutJobs op = true
  · obtain ⟨jobs,nodes,steps,freed,same⟩ := applyOperation_touches about
    rw [same]
  cases op with
  | jobSubmit jobId spec => exact le_max_left _ _
  | jobStepCreate step =>
    change s.nextJobId ≤ (applyJobStepCreate s step).1.nextJobId
    unfold applyJobStepCreate
    repeat' split
    all_goals exact le_refl _
  | reservationCreate reservation =>
    change s.nextJobId ≤ (applyReservationCreate s _).1.nextJobId
    unfold applyReservationCreate
    split <;> exact le_refl _
  | reservationDelete name =>
    change s.nextJobId ≤ (applyReservationDelete s name).1.nextJobId
    unfold applyReservationDelete
    split <;> exact le_refl _
  | evictTerminalJobs | tokenCreate | tokenRevoke | partitionCreate | partitionUpdate | partitionDelete
  | reservationUpdate | k0sSetPhase | k0sMemberNodesAdd | k0sMemberNodesRemove => exact le_refl _
  | _ => exact absurd rfl about

namespace Issuer

variable {config : Config} {m : Issuer}

/-- What the handed-out ids and an apply in progress have to do with the counter. -/
structure Ordered (m : Issuer) : Prop where
  below : ∀ jobId ∈ m.issued, jobId < m.state.nextJobId
  distinct : m.issued.Nodup
  current : ∀ current ∈ m.applying, current.counter = m.state.nextJobId

theorem fetchAdd_ordered (ordered : Ordered m) (calm : Calm m .fetchAdd) : Ordered m.fetchAdd := by
  have counter : (m.state.nextJobId + 1) % 2 ^ 32 = m.state.nextJobId + 1 := Nat.mod_eq_of_lt calm.2
  refine ⟨fun jobId member => ?_,?_,fun current member => ?_⟩
  · change jobId < (m.state.nextJobId + 1) % 2 ^ 32
    rw [counter]
    rcases mem_cons.mp member with rfl | earlier
    · exact Nat.lt_succ_self _
    · exact Nat.lt_succ_of_lt (ordered.below jobId earlier)
  · exact nodup_cons.mpr ⟨fun again => lt_irrefl _ (ordered.below _ again),ordered.distinct⟩
  · change current ∈ m.applying at member
    rw [calm.1] at member
    cases member

theorem begin_ordered (ordered : Ordered m) : Ordered (m.begin env op) := by
  unfold begin
  split
  · exact ordered
  · refine ⟨ordered.below,ordered.distinct,fun current member => ?_⟩
    cases mem_some.mp member
    rfl

theorem applied_counter : current.counter ≤ (m.applied config current).nextJobId :=
  applyOperation_nextJobId { m.state with nextJobId := current.counter }

theorem finish_counter (ordered : Ordered m) (stores : Bool) :
    m.state.nextJobId ≤ (m.finish config stores).state.nextJobId := by
  unfold finish
  split
  · exact le_refl _
  rename_i current applying
  split
  · rw [← ordered.current current applying]
    exact applied_counter
  · exact le_refl _

theorem finish_ordered (ordered : Ordered m) : Ordered (m.finish config stores) := by
  have counter := @finish_counter config m ordered stores
  have issued : (m.finish config stores).issued = m.issued := by
    unfold finish
    split <;> rfl
  refine ⟨fun jobId member => ?_,issued ▸ ordered.distinct,fun current member => ?_⟩
  · rw [issued] at member
    exact (ordered.below jobId member).trans_le counter
  unfold finish at member
  split at member
  next idle =>
    rw [idle] at member
    cases member
  · cases member

theorem step_ordered (ordered : Ordered m) (calm : Calm m event) : Ordered (m.step config event) := by
  cases event with
  | fetchAdd => exact fetchAdd_ordered ordered calm
  | begin env op => exact begin_ordered ordered
  | finish stores => exact finish_ordered ordered

/-- The ids still to be submitted are free, each is listed once, and every stored id is below the counter. -/
structure Unused (m : Issuer) : Prop where
  stored : ∀ (jobId : JobId) (job : Job), m.state.jobs[jobId]? = some job → jobId < m.state.nextJobId
  listed : m.proposed.Nodup
  issued : ∀ jobId ∈ m.proposed, jobId < m.state.nextJobId
  free : ∀ jobId ∈ m.proposed, m.state.jobs[jobId]? = none
  current : ∀ current ∈ m.applying, ∀ jobId ∈ submittedId current.op,
    jobId < m.state.nextJobId ∧ m.state.jobs[jobId]? = none ∧ jobId ∉ m.proposed

theorem fetchAdd_unused (unused : Unused m) (calm : Calm m .fetchAdd) : Unused m.fetchAdd := by
  have counter : (m.state.nextJobId + 1) % 2 ^ 32 = m.state.nextJobId + 1 := Nat.mod_eq_of_lt calm.2
  have later {jobId : JobId} (below : jobId < m.state.nextJobId) : jobId < (m.state.nextJobId + 1) % 2 ^ 32 := by
    rw [counter]
    exact Nat.lt_succ_of_lt below
  have fresh : m.state.jobs[m.state.nextJobId]? = none := by
    cases found : m.state.jobs[m.state.nextJobId]? with
    | none => rfl
    | some job => exact absurd (unused.stored _ job found) (lt_irrefl _)
  refine ⟨fun jobId job found => later (unused.stored jobId job found),?_,fun jobId member => ?_,fun jobId member => ?_,
    fun current member => ?_⟩
  · exact nodup_cons.mpr ⟨fun again => lt_irrefl _ (unused.issued _ again),unused.listed⟩
  · rcases mem_cons.mp member with rfl | earlier
    · change m.state.nextJobId < (m.state.nextJobId + 1) % 2 ^ 32
      rw [counter]
      exact Nat.lt_succ_self _
    · exact later (unused.issued jobId earlier)
  · rcases mem_cons.mp member with rfl | earlier
    · exact fresh
    · exact unused.free jobId earlier
  · change current ∈ m.applying at member
    rw [calm.1] at member
    cases member

theorem begin_unused (unused : Unused m) (proposes : Proposes m (.begin env op)) : Unused (m.begin env op) := by
  unfold begin
  split
  · exact unused
  rename_i idle
  cases submits : submittedId op with
  | none =>
    refine ⟨unused.stored,unused.listed,unused.issued,unused.free,fun current member jobId named => ?_⟩
    cases mem_some.mp member
    rw [submits] at named
    cases named
  | some submitted =>
    have listed := proposes idle submitted submits
    have kept {jobId : JobId} (member : jobId ∈ m.proposed.erase submitted) : jobId ∈ m.proposed :=
      mem_of_mem_erase member
    refine ⟨unused.stored,unused.listed.erase submitted,fun jobId member => unused.issued jobId (kept member),
      fun jobId member => unused.free jobId (kept member),fun current member jobId named => ?_⟩
    cases mem_some.mp member
    cases Option.some.inj (submits.symm.trans named)
    exact ⟨unused.issued _ listed,unused.free _ listed,unused.listed.not_mem_erase⟩

theorem applied_comesFrom {jobId : JobId} {job : Job} (stored : (m.applied config current).jobs[jobId]? = some job) :
    (∃ before : Job, m.state.jobs[jobId]? = some before) ∨ submittedId current.op = some jobId := by
  obtain ⟨counter,env,op⟩ := current
  by_cases submission : ∃ other spec, op = .jobSubmit other spec
  · obtain ⟨other,spec,rfl⟩ := submission
    by_cases same : other = jobId
    · exact .inr (congrArg some same)
    have kept : (m.applied config ⟨counter,env,.jobSubmit other spec⟩).jobs[jobId]? = m.state.jobs[jobId]? :=
      Table.find_insert_ne same
    rw [kept] at stored
    exact .inl ⟨job,stored⟩
  · push Not at submission
    obtain ⟨before,found,_⟩ := applyOperation_comesFrom submission _ _ stored
    exact .inl ⟨before,found⟩

theorem finish_unused (unused : Unused m) (ordered : Ordered m) : Unused (m.finish config stores) := by
  have counter := @finish_counter config m ordered stores
  cases applying : m.applying with
  | none =>
    have same : m.finish config stores = m := by
      unfold finish
      rw [applying]
    rw [same]
    exact unused
  | some current =>
    have jobs : (m.finish config stores).state.jobs = (m.applied config current).jobs := by
      unfold finish
      rw [applying]
      dsimp only
      split <;> rfl
    have proposed : (m.finish config stores).proposed = m.proposed := by
      unfold finish
      rw [applying]
    have idle : (m.finish config stores).applying = none := by
      unfold finish
      rw [applying]
    refine ⟨fun jobId job stored => ?_,?_,fun jobId member => ?_,fun jobId member => ?_,?_⟩
    · refine lt_of_lt_of_le ?_ counter
      rw [jobs] at stored
      rcases applied_comesFrom stored with ⟨before,found⟩ | submits
      · exact unused.stored jobId before found
      · exact (unused.current current applying jobId submits).1
    · rw [proposed]
      exact unused.listed
    · rw [proposed] at member
      exact (unused.issued jobId member).trans_le counter
    · rw [proposed] at member
      rw [jobs]
      cases stored : (m.applied config current).jobs[jobId]? with
      | none => rfl
      | some job =>
        rcases applied_comesFrom stored with ⟨before,found⟩ | submits
        · rw [unused.free jobId member] at found
          cases found
        · exact absurd member (unused.current current applying jobId submits).2.2
    · rw [idle]
      exact fun _ member => by cases member

theorem step_unused (unused : Unused m) (ordered : Ordered m) (calm : Calm m event)
    (proposes : Proposes m event) : Unused (m.step config event) := by
  cases event with
  | fetchAdd => exact fetchAdd_unused unused calm
  | begin env op => exact begin_unused unused proposes
  | finish stores => exact finish_unused unused ordered

theorem not_overwrites (unused : Unused m) : ¬Overwrites m event := by
  cases event with
  | finish stores =>
    rintro ⟨current,applying,jobId,submits,present⟩
    rw [(unused.current current applying jobId submits).2.1] at present
    cases present
  | _ => exact id

/-- In a controller lifetime in which no id is handed out inside an apply, no id is handed out twice, and
no submission of a handed-out id replaces a job. -/
theorem ids_issued_once (config : Config) (m : Issuer) (starts : Starts m) (events : List IssuerEvent)
    (calm : Along (step config) Calm m events) :
    (run config m events).issued.Nodup ∧
      (Along (step config) Proposes m events → Along (step config) (fun m event => ¬Overwrites m event) m events) := by
  have ordered : Ordered m := by
    refine ⟨?_,?_,?_⟩
    · rw [starts.issued]; exact fun _ member => by cases member
    · rw [starts.issued]; exact nodup_nil
    · rw [starts.idle]; exact fun _ member => by cases member
  have unused : Unused m := by
    refine ⟨starts.stored,?_,?_,?_,?_⟩
    · rw [starts.proposed]; exact nodup_nil
    · rw [starts.proposed]; exact fun _ member => by cases member
    · rw [starts.proposed]; exact fun _ member => by cases member
    · rw [starts.idle]; exact fun _ member => by cases member
  refine ⟨(invariant_run (fun _ event kept ok => step_ordered kept ok) ordered calm).distinct,fun proposes => ?_⟩
  have kept (m : Issuer) (event : IssuerEvent) (both : Ordered m ∧ Unused m) (ok : Calm m event ∧ Proposes m event) :
      Ordered (m.step config event) ∧ Unused (m.step config event) :=
    ⟨step_ordered both.1 ok.1,step_unused both.2 both.1 ok.1 ok.2⟩
  exact along_of_invariant kept (fun _ event both _ => not_overwrites both.2) ⟨ordered,unused⟩ (calm.and proposes)

section

def idsStart : Issuer := { state := .fresh {} }

def memberAdd : WalOperation := .k0sMemberNodesAdd ["n1"]

def lostIncrement : List IssuerEvent :=
  [.begin (.ordered 0) memberAdd,.fetchAdd,.finish true,.fetchAdd,
    .begin (.ordered 1) (.jobSubmit 1 { name := "first" }),.finish true,
    .begin (.ordered 2) (.jobSubmit 1 { name := "second" })]

def orderedIncrements : List IssuerEvent :=
  [.begin (.ordered 0) memberAdd,.finish true,.fetchAdd,.fetchAdd,
    .begin (.ordered 1) (.jobSubmit 2 { name := "second" }),.finish true,
    .begin (.ordered 2) (.jobSubmit 1 { name := "first" }),.finish true]

private theorem idsStart_starts : Starts idsStart := ⟨rfl,rfl,rfl,fun _ _ found => by cases found⟩

theorem ids_issued_once_ordered : Starts idsStart ∧ Along (step {}) Calm idsStart orderedIncrements ∧
    (run {} idsStart orderedIncrements).issued.Nodup := by
  have calm : Along (step {}) Calm idsStart orderedIncrements := by
    refine ⟨trivial,trivial,⟨rfl,?_⟩,⟨rfl,?_⟩,trivial,trivial,trivial,trivial,trivial⟩ <;> decide +kernel
  exact ⟨idsStart_starts,calm,(ids_issued_once {} idsStart idsStart_starts _ calm).1⟩

/-- The write-back of an entry that read the counter before an increment takes the increment back: the
id is handed out again, and its second submission replaces the first. -/
theorem id_issued_twice : Starts idsStart ∧ Along (step {}) Proposes idsStart lostIncrement ∧
    (run {} idsStart lostIncrement).issued = [1,1] ∧ Overwrites (run {} idsStart lostIncrement) (.finish true) := by
  refine ⟨idsStart_starts,⟨?_,trivial,trivial,trivial,?_,trivial,?_,trivial⟩,by decide +kernel,?_⟩
  · rintro _ _ ⟨⟩
  · rintro _ jobId named
    cases Option.some.inj named
    decide +kernel
  · rintro _ jobId named
    cases Option.some.inj named
    decide +kernel
  · exact ⟨_,rfl,1,rfl,by decide +kernel⟩

end

end Issuer

end Spur.Cluster
