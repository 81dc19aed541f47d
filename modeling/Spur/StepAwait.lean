import Spur.Library.Run
import Spur.Library.Table
import Spur.Job

/-! Callers that await a supervised step, from `spurd::step_completion`, as the atomic steps the locks make of it. -/
namespace Spur.StepAwait
open Spur.Library Spur.Library.Run Option Table

structure StepOutcome where
  exitCode : Int
  signal : Int
  deriving DecidableEq

abbrev StepKey := Nat × Nat × Nat

def settledRetention : Duration := 600 * 1000000000

def settledCapacity : Nat := 1024

structure SettledStep where
  key : StepKey
  outcome : StepOutcome
  settledAt : Time
  deriving DecidableEq

def evictSettled (settled : List SettledStep) (now : Time) : List SettledStep :=
  let fresh := settled.dropWhile fun oldest => decide (settledRetention < max (now - oldest.settledAt) 0)
  fresh.drop (fresh.length - settledCapacity)

structure AwaitRequest where
  jobId : Nat
  runAttempt : Nat
  stepId : Nat
  deriving DecidableEq

namespace AwaitRequest

variable (req : AwaitRequest)

def key (runAttempt : Nat) : StepKey := (req.jobId,runAttempt,req.stepId)

def names (key : StepKey) : Bool :=
  key.1 == req.jobId && key.2.2 == req.stepId && (req.runAttempt == 0 || key.2.1 == req.runAttempt)

end AwaitRequest

inductive Answer where
  | outcome (outcome : StepOutcome)
  | notFound | unavailable | alreadyExists
  deriving DecidableEq

def Answer.message : Answer → Option String
  | outcome _ => none
  | notFound => some "this node is not running that step"
  | unavailable => some "step cleanup or node quarantine is still pending"
  | alreadyExists => some "that step already has a caller awaiting it"

inductive Phase where
  | asked | untracked | unsettled
  | tracked (runAttempt : Nat)
  | parking (runAttempt : Nat)
  | parked (key : StepKey)
  | woken (key : StepKey) (outcome : StepOutcome)
  | answered (answer : Answer)
  | left
  deriving DecidableEq

structure Caller where
  request : AwaitRequest
  phase : Phase
  deriving DecidableEq

inductive Stage where
  | claimed | remembered | delivered
  deriving DecidableEq

structure Agent where
  stepds : Table (Nat × Nat) Nat
  durable : Table StepKey StepOutcome
  settled : List SettledStep
  waiters : Table StepKey Nat
  callers : Table Nat Caller
  deliveries : Table StepKey (Stage × StepOutcome)

inductive Event where
  | ask (id : Nat) (request : AwaitRequest)
  | lookTracked (id : Nat)
  /-- Answers only when the step's cleanup is done. -/
  | lookSettled (id : Nat) (ready : Bool)
  | readDurable (id : Nat) (ready : Bool)
  | park (id : Nat)
  | leave (id : Nat)
  | exits (key : StepKey) (outcome : StepOutcome)
  | claim (key : StepKey)
  | remember (key : StepKey) (now : Time)
  | wake (key : StepKey)
  deriving DecidableEq

namespace Agent

variable (s : Agent)

def setPhase (id : Nat) (phase : Phase) : Agent :=
  { s with callers := s.callers.modify id fun caller => { caller with phase } }

def trackedAttempt (req : AwaitRequest) : Option Nat :=
  (s.stepds[(req.jobId,req.stepId)]?).filter fun attempt => req.runAttempt == 0 || attempt == req.runAttempt

def settledOutcome (req : AwaitRequest) : Option StepOutcome :=
  (s.settled.reverse.find? fun entry => req.names entry.key).map SettledStep.outcome

def recordedExit (req : AwaitRequest) : Option StepOutcome :=
  if req.runAttempt = 0 then ((s.durable.toList.filter fun entry => req.names entry.1).getLast?).map Prod.snd
  else s.durable[req.key req.runAttempt]?

def occupied (key : StepKey) : Bool :=
  (s.waiters[key]?).any fun id => (s.callers[id]?).any fun caller => decide (caller.phase = .parked key)

def answer (ready : Bool) (outcome : StepOutcome) : Phase :=
  .answered (if ready then .outcome outcome else .unavailable)

def lookTracked (id : Nat) : Agent :=
  match s.callers[id]? with
  | some ⟨req,.asked⟩ => s.setPhase id ((s.trackedAttempt req).elim .untracked .tracked)
  | _ => s

def lookSettled (id : Nat) (ready : Bool) : Agent :=
  match s.callers[id]? with
  | some ⟨req,.untracked⟩ => s.setPhase id ((s.settledOutcome req).elim .unsettled (answer ready))
  | _ => s

def readDurable (id : Nat) (ready : Bool) : Agent :=
  match s.callers[id]? with
  | some ⟨req,.unsettled⟩ => s.setPhase id ((s.recordedExit req).elim (.answered .notFound) (answer ready))
  | some ⟨req,.tracked attempt⟩ => s.setPhase id ((s.durable[req.key attempt]?).elim (.parking attempt) (answer ready))
  | _ => s

def parkAt (id : Nat) (key : StepKey) : Agent :=
  { s.setPhase id (.parked key) with waiters := s.waiters.insert key id }

/-- `reregister`: refuses while a caller is parked. -/
def park (id : Nat) : Agent :=
  match s.callers[id]? with
  | some ⟨req,.parking attempt⟩ =>
    if s.occupied (req.key attempt) then s.setPhase id (.answered .alreadyExists)
    else s.parkAt id (req.key attempt)
  | _ => s

def claim (key : StepKey) : Agent :=
  match s.durable[key]? with
  | some outcome =>
    if s.stepds[(key.1,key.2.2)]? = some key.2.1 then
      { s with
        stepds := s.stepds.erase (key.1,key.2.2)
        deliveries := s.deliveries.insert key (.claimed,outcome) }
    else s
  | none => s

def remember (key : StepKey) (now : Time) : Agent :=
  match s.deliveries[key]? with
  | some (.claimed,outcome) =>
    { s with
      settled := evictSettled ((s.settled.filter fun entry => decide (entry.key ≠ key)) ++ [⟨key,outcome,now⟩]) now
      deliveries := s.deliveries.insert key (.remembered,outcome) }
  | _ => s

def send (key : StepKey) (outcome : StepOutcome) : Agent :=
  { s with
    waiters := s.waiters.erase key
    callers := (s.waiters[key]?).elim s.callers fun id => s.callers.modify id fun caller =>
      if caller.phase = .parked key then { caller with phase := .woken key outcome } else caller
    deliveries := s.deliveries.insert key (.delivered,outcome) }

def wake (key : StepKey) : Agent :=
  match s.deliveries[key]? with
  | some (.remembered,outcome) => s.send key outcome
  | _ => s

def step : Event → Agent
  | .ask id request => if s.callers.contains id then s else { s with callers := s.callers.insert id ⟨request,.asked⟩ }
  | .lookTracked id => s.lookTracked id
  | .lookSettled id ready => s.lookSettled id ready
  | .readDurable id ready => s.readDurable id ready
  | .park id => s.park id
  | .leave id => s.setPhase id .left
  | .exits key outcome => if s.durable.contains key then s else { s with durable := s.durable.insert key outcome }
  | .claim key => s.claim key
  | .remember key now => s.remember key now
  | .wake key => s.wake key

/-- Nobody is left parked at an attempt whose outcome has been delivered, and whoever was woken has that attempt's
outcome. -/
structure Served : Prop where
  none_parked : ∀ (key : StepKey) (outcome : StepOutcome), s.deliveries[key]? = some (.delivered,outcome) →
    ∀ (id : Nat) (caller : Caller), s.callers[id]? = some caller → caller.phase ≠ .parked key
  outcomes : ∀ (id : Nat) (caller : Caller), s.callers[id]? = some caller → ∀ key outcome,
    caller.phase = .woken key outcome → s.durable[key]? = some outcome

def Timely (event : Event) : Prop :=
  ∀ id, event = .park id → ∀ caller, s.callers[id]? = some caller → ∀ attempt, caller.phase = .parking attempt →
    ∀ outcome, s.deliveries[caller.request.key attempt]? ≠ some (.delivered,outcome)

end Agent

variable {key : StepKey} {outcome : StepOutcome}

variable {id : Nat} {caller : Caller} {phase : Phase} {event : Event} {ready : Bool}

section

def Phase.plain : Phase → Bool
  | parked _ | woken _ _ => false
  | asked | untracked | unsettled | tracked _ | parking _ | answered _ | left => true

structure Quiet (s t : Agent) : Prop where
  callers : ∀ (id : Nat) (caller : Caller), t.callers[id]? = some caller → caller.phase.plain = false →
    s.callers[id]? = some caller
  waiters : t.waiters = s.waiters
  delivered : ∀ (key : StepKey) (outcome : StepOutcome), t.deliveries[key]? = some (.delivered,outcome) →
    s.deliveries[key]? = some (.delivered,outcome)
  durable : ∀ (key : StepKey) (outcome : StepOutcome), s.durable[key]? = some outcome → t.durable[key]? = some outcome
  recorded : ∀ (key : StepKey) (stage : Stage) (outcome : StepOutcome), t.deliveries[key]? = some (stage,outcome) →
    t.durable[key]? = some outcome ∨ ∃ before, s.deliveries[key]? = some (before,outcome)

variable {s : Agent}

theorem Quiet.refl {s : Agent} : Quiet s s :=
  ⟨fun _ _ found _ => found,rfl,fun _ _ => id,fun _ _ => id,fun _ stage _ found => .inr ⟨stage,found⟩⟩

theorem find_setPhase {other : Nat} (found : (s.setPhase id phase).callers[other]? = some caller) :
    id = other ∧ caller.phase = phase ∨ s.callers[other]? = some caller := by
  unfold Agent.setPhase at found
  rw [find_modify] at found
  split at found
  · next same =>
    obtain ⟨before,-,rfl⟩ := map_eq_some_iff.mp found
    exact .inl ⟨same,rfl⟩
  · exact .inr found

theorem setPhase_quiet (plain : phase.plain = true) : Quiet s (s.setPhase id phase) := by
  refine { Quiet.refl with callers := fun other caller found busy => ?_ }
  rcases find_setPhase found with ⟨-,same⟩ | before
  · rw [same,plain] at busy
    cases busy
  · exact before

theorem ask_quiet {s : Agent} {request : AwaitRequest} : Quiet s (s.step (.ask id request)) := by
  change Quiet s (if s.callers.contains id then s else _)
  split
  · exact .refl
  refine { Quiet.refl with callers := fun other caller found busy => ?_ }
  rw [find_insert] at found
  split at found
  · cases found
    cases busy
  · exact found

theorem lookTracked_quiet {s : Agent} : Quiet s (s.lookTracked id) := by
  unfold Agent.lookTracked
  split
  next req _ => cases s.trackedAttempt req <;> exact setPhase_quiet rfl
  · exact .refl

theorem lookSettled_quiet {s : Agent} : Quiet s (s.lookSettled id ready) := by
  unfold Agent.lookSettled
  split
  next req _ => cases s.settledOutcome req <;> exact setPhase_quiet rfl
  · exact .refl

theorem readDurable_quiet {s : Agent} : Quiet s (s.readDurable id ready) := by
  unfold Agent.readDurable
  split
  next req _ => cases s.recordedExit req <;> exact setPhase_quiet rfl
  next req attempt _ => cases s.durable[req.key attempt]? <;> exact setPhase_quiet rfl
  · exact .refl

theorem exits_quiet {s : Agent} {key : StepKey} {outcome : StepOutcome} : Quiet s (s.step (.exits key outcome)) := by
  change Quiet s (if s.durable.contains key then s else _)
  split
  · exact .refl
  next fresh =>
  refine { Quiet.refl with
    durable := fun other said found => ?_
    recorded := fun _ stage _ found => .inr ⟨stage,found⟩ }
  rw [find_insert,if_neg]
  · exact found
  · rintro rfl
    exact fresh (Std.ExtTreeMap.contains_eq_isSome_getElem?.trans (by rw [found]; rfl))

theorem Quiet.of_insert {t : Agent} {stage : Stage} (short : stage ≠ .delivered)
    (same : t.callers = s.callers ∧ t.waiters = s.waiters ∧ t.durable = s.durable)
    (deliveries : t.deliveries = s.deliveries.insert key (stage,outcome))
    (origin : s.durable[key]? = some outcome ∨ ∃ before, s.deliveries[key]? = some (before,outcome)) : Quiet s t := by
  obtain ⟨callers,waiters,durable⟩ := same
  refine ⟨fun id caller found _ => callers ▸ found,waiters,fun other said found => ?_,fun other said found => durable ▸ found,
    fun other reached said found => ?_⟩
  · rw [deliveries,find_insert] at found
    split at found
    · cases found
      exact absurd rfl short
    · exact found
  · rw [deliveries,find_insert] at found
    split at found
    · next same =>
      cases found
      rw [durable,← same]
      exact origin
    · exact .inr ⟨reached,found⟩

theorem claim_quiet {s : Agent} {key : StepKey} : Quiet s (s.claim key) := by
  unfold Agent.claim
  split
  next outcome exit =>
    split
    · exact Quiet.of_insert (by decide) ⟨rfl,rfl,rfl⟩ rfl (.inl exit)
    · exact .refl
  · exact .refl

theorem remember_quiet {s : Agent} {key : StepKey} {now : Time} : Quiet s (s.remember key now) := by
  unfold Agent.remember
  split
  next outcome claimed => exact Quiet.of_insert (by decide) ⟨rfl,rfl,rfl⟩ rfl (.inr ⟨_,claimed⟩)
  · exact .refl

theorem step_cases {s : Agent} : Quiet s (s.step event) ∨
      (∃ id req attempt, event = .park id ∧ s.callers[id]? = some ⟨req,.parking attempt⟩ ∧
        s.occupied (req.key attempt) = false ∧ s.step event = s.parkAt id (req.key attempt)) ∨
      ∃ key outcome, s.deliveries[key]? = some (.remembered,outcome) ∧ s.step event = s.send key outcome := by
  cases event with
  | ask id request => exact .inl ask_quiet
  | lookTracked id => exact .inl lookTracked_quiet
  | lookSettled id ready => exact .inl lookSettled_quiet
  | readDurable id ready => exact .inl readDurable_quiet
  | leave id => exact .inl (setPhase_quiet rfl)
  | exits key outcome => exact .inl exits_quiet
  | claim key => exact .inl claim_quiet
  | remember key now => exact .inl remember_quiet
  | park id =>
    change Quiet s (s.park id) ∨ (∃ other req attempt, _ ∧ _ ∧ _ ∧ s.park id = _) ∨ _
    unfold Agent.park
    split
    next req attempt found =>
      cases taken : s.occupied _ with
      | true => exact .inl (setPhase_quiet rfl)
      | false => exact .inr (.inl ⟨id,req,attempt,rfl,found,taken,rfl⟩)
    · exact .inl .refl
  | wake key =>
    change Quiet s (s.wake key) ∨ _ ∨ ∃ at_ outcome, _ ∧ s.wake key = _
    unfold Agent.wake
    split
    next outcome remembered => exact .inr (.inr ⟨key,outcome,remembered,rfl⟩)
    · exact .inl .refl

end

section

/-- Whoever is parked is the waiter of the key, and what is delivered, and was, is the recorded exit. -/
structure Consistent (s : Agent) : Prop where
  waiting : ∀ (id : Nat) (caller : Caller), s.callers[id]? = some caller → ∀ key, caller.phase = .parked key →
    s.waiters[key]? = some id
  recorded : ∀ (key : StepKey) (stage : Stage) (outcome : StepOutcome),
    s.deliveries[key]? = some (stage,outcome) → s.durable[key]? = some outcome
  outcomes : ∀ (id : Nat) (caller : Caller), s.callers[id]? = some caller → ∀ key outcome,
    caller.phase = .woken key outcome → s.durable[key]? = some outcome

def Unparked (s : Agent) : Prop :=
  ∀ (key : StepKey) (outcome : StepOutcome), s.deliveries[key]? = some (.delivered,outcome) →
    ∀ (id : Nat) (caller : Caller), s.callers[id]? = some caller → caller.phase ≠ .parked key

variable {s t : Agent}

theorem Quiet.consistent (quiet : Quiet s t) (consistent : Consistent s) : Consistent t := by
  refine ⟨fun id caller found key phase => ?_,fun key stage outcome found => ?_,
    fun id caller found key outcome phase => ?_⟩
  · rw [quiet.waiters]
    exact consistent.waiting id caller (quiet.callers id caller found (by rw [phase]; rfl)) key phase
  · rcases quiet.recorded key stage outcome found with exit | ⟨before,delivery⟩
    · exact exit
    · exact quiet.durable key outcome (consistent.recorded key before outcome delivery)
  · exact quiet.durable key outcome
      (consistent.outcomes id caller (quiet.callers id caller found (by rw [phase]; rfl)) key outcome phase)

theorem Quiet.unparked (quiet : Quiet s t) (unparked : Unparked s) : Unparked t := by
  intro key outcome delivered id caller found parked
  exact unparked key outcome (quiet.delivered key outcome delivered) id caller
    (quiet.callers id caller found (by rw [parked]; rfl)) parked

theorem occupied_of_parked (consistent : Consistent s)
    (found : s.callers[id]? = some caller) (parked : caller.phase = .parked key) : s.occupied key = true := by
  unfold Agent.occupied
  rw [consistent.waiting id caller found key parked]
  dsimp only [any_some]
  rw [found]
  exact decide_eq_true parked

theorem parkAt_consistent (consistent : Consistent s) (free : s.occupied key = false) :
    Consistent (s.parkAt id key) := by
  refine ⟨fun other caller found at_ phase => ?_,consistent.recorded,fun other caller found at_ outcome phase => ?_⟩
  · change (s.waiters.insert key id)[at_]? = some other
    rw [find_insert]
    rcases find_setPhase found with ⟨rfl,same⟩ | before
    · rw [same] at phase
      cases phase
      rw [if_pos rfl]
    · have taken := occupied_of_parked consistent before phase
      rw [if_neg (by rintro rfl; rw [free] at taken; cases taken)]
      exact consistent.waiting other caller before at_ phase
  · rcases find_setPhase found with ⟨-,same⟩ | before
    · rw [same] at phase
      cases phase
    · exact consistent.outcomes other caller before at_ outcome phase

theorem find_send (consistent : Consistent s) (found : (s.send key outcome).callers[id]? = some caller) :
    caller.phase = .woken key outcome ∨ s.callers[id]? = some caller ∧ caller.phase ≠ .parked key := by
  unfold Agent.send at found
  cases waiter : s.waiters[key]? with
  | none =>
    rw [waiter] at found
    refine .inr ⟨found,fun parked => ?_⟩
    rw [consistent.waiting id caller found key parked] at waiter
    cases waiter
  | some first =>
    rw [waiter] at found
    dsimp only [elim_some] at found
    rw [find_modify] at found
    split at found
    · obtain ⟨before,present,rfl⟩ := map_eq_some_iff.mp found
      split
      · exact .inl rfl
      · next elsewhere => exact .inr ⟨present,elsewhere⟩
    · next differ =>
      refine .inr ⟨found,fun parked => differ ?_⟩
      rw [consistent.waiting id caller found key parked] at waiter
      exact (Option.some.inj waiter).symm

theorem send_consistent (consistent : Consistent s)
    (remembered : s.deliveries[key]? = some (.remembered,outcome)) : Consistent (s.send key outcome) := by
  have exit := consistent.recorded key _ outcome remembered
  refine ⟨fun id caller found at_ phase => ?_,fun at_ stage said found => ?_,fun id caller found at_ said phase => ?_⟩
  · change (s.waiters.erase key)[at_]? = some id
    rcases find_send consistent found with woken | ⟨before,elsewhere⟩
    · rw [woken] at phase
      cases phase
    · rw [find_erase,if_neg (by rintro rfl; exact elsewhere phase)]
      exact consistent.waiting id caller before at_ phase
  · change (s.deliveries.insert key _)[at_]? = some _ at found
    rw [find_insert] at found
    split at found
    · next same =>
      cases found
      exact same ▸ exit
    · exact consistent.recorded at_ stage said found
  · rcases find_send consistent found with woken | ⟨before,-⟩
    · rw [woken] at phase
      cases phase
      exact exit
    · exact consistent.outcomes id caller before at_ said phase

theorem send_unparked (consistent : Consistent s) (unparked : Unparked s) {key : StepKey} {outcome : StepOutcome} :
    Unparked (s.send key outcome) := by
  intro other said delivered id caller found parked
  rcases find_send consistent found with woken | ⟨before,elsewhere⟩
  · rw [woken] at parked
    cases parked
  change (s.deliveries.insert key _)[other]? = some _ at delivered
  rw [find_insert] at delivered
  split at delivered
  · next same => exact elsewhere (same ▸ parked)
  · exact unparked other said delivered id caller before parked

theorem step_consistent (consistent : Consistent s) (event : Event) : Consistent (s.step event) := by
  rcases step_cases with quiet | ⟨id,req,attempt,-,-,free,same⟩ | ⟨key,outcome,remembered,same⟩
  · exact quiet.consistent consistent
  · rw [same]
    exact parkAt_consistent consistent free
  · rw [same]
    exact send_consistent consistent remembered

theorem free_of_delivered (unparked : Unparked s)
    (delivered : s.deliveries[key]? = some (.delivered,outcome)) : s.occupied key = false := by
  unfold Agent.occupied
  cases waiter : s.waiters[key]? with
  | none => rfl
  | some id =>
    dsimp only [any_some]
    cases found : s.callers[id]? with
    | none => rfl
    | some caller => exact decide_eq_false (unparked key outcome delivered id caller found)

theorem find_parkAt (found : s.callers[id]? = some caller) :
    (s.parkAt id key).callers[id]? = some { caller with phase := .parked key } := by
  change (s.callers.modify id _)[id]? = _
  rw [find_modify,if_pos rfl,found]
  rfl

theorem step_unparked_iff (consistent : Consistent s) (unparked : Unparked s) :
    Unparked (s.step event) ↔ s.Timely event := by
  constructor
  · rintro after id rfl ⟨req,phase⟩ found attempt rfl outcome delivered
    have parks : s.step (.park id) = s.parkAt id (req.key attempt) := by
      change s.park id = _
      unfold Agent.park
      rw [found]
      dsimp only
      rw [free_of_delivered unparked delivered]
      rfl
    rw [parks] at after
    exact after _ outcome delivered id _ (find_parkAt found) rfl
  · intro timely
    rcases step_cases with quiet | ⟨id,req,attempt,named,found,free,same⟩ | ⟨key,outcome,remembered,same⟩
    · exact quiet.unparked unparked
    · rw [same]
      intro key outcome delivered other caller present parked
      rcases find_setPhase present with ⟨-,phase⟩ | before
      · rw [phase] at parked
        cases parked
        exact timely id named _ found attempt rfl outcome delivered
      · exact unparked key outcome delivered other caller before parked
    · rw [same]
      exact send_unparked consistent unparked

theorem served_iff (consistent : Consistent s) : s.Served ↔ Unparked s :=
  ⟨Agent.Served.none_parked,fun unparked => ⟨unparked,consistent.outcomes⟩⟩

end

/-- No completion has come yet; the callers that are parked are the waiters of their keys. -/
structure Agent.Start (s : Agent) : Prop where
  deliveries : s.deliveries = ∅
  waiting : ∀ (id : Nat) (caller : Caller), s.callers[id]? = some caller → ∀ key, caller.phase = .parked key →
    s.waiters[key]? = some id
  unwoken : ∀ (id : Nat) (caller : Caller), s.callers[id]? = some caller → ∀ key outcome,
    caller.phase ≠ .woken key outcome

theorem Agent.Start.consistent {s : Agent} (start : s.Start) : Consistent s := by
  refine ⟨start.waiting,fun key stage outcome found => ?_,fun id caller found key outcome phase => ?_⟩
  · rw [start.deliveries] at found
    cases found
  · exact absurd phase (start.unwoken id caller found key outcome)

theorem Agent.Start.unparked {s : Agent} (start : s.Start) : Unparked s := by
  intro key outcome found
  rw [start.deliveries] at found
  cases found

def oneStep : Agent := ⟨(∅ : Table (Nat × Nat) Nat).insert (7,3) 1,∅,[],∅,∅,∅⟩

def delivery : List Event := [.exits (7,1,3) ⟨0,0⟩,.claim (7,1,3),.remember (7,1,3) 0,.wake (7,1,3)]

def lookups : List Event := [.ask 1 ⟨7,1,3⟩,.lookTracked 1,.readDurable 1 true]

end Spur.StepAwait
