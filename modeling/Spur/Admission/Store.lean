import Spur.Admission.Record
import Spur.Library.Fallible

/-! The operations of the agent's admission store over storage that never fails. -/
namespace Spur.Admission
open Std Spur.Library

inductive IoError where
  | notFound
  | invalid (message : String)
  deriving DecidableEq

/-- One run directory: `run.json`, and `participants/` once something has been written there. -/
structure RunDir where
  run : Option RunAdmission
  participants : Option (Table Nat ParticipantAdmission)

structure AdmissionStore where
  root : String
  node : String
  dirs : Table (Nat × Nat) RunDir

def unaddressable (jobId : Nat) : IoError := .invalid ("run attempt 0 names no run of job " ++ toString jobId)

def addressableAttempt (key : RunKey) : Except IoError Nat :=
  match key.attempt with
  | some attempt => .ok attempt
  | none => .error (.invalid (key.display ++ " names no single run to address"))

namespace AdmissionStore

variable (store : AdmissionStore)

def validateRun (run : RunAdmission) (key : RunKey) : Except IoError Unit :=
  if run.schemaVersion > admissionSchemaVersion then
    .error (.invalid ("run record schema " ++ toString run.schemaVersion ++ " is newer than " ++
      toString admissionSchemaVersion))
  else if run.key ≠ some key then
    .error (.invalid ("run record names " ++ toString run.jobId ++ "." ++ toString run.runAttempt ++ " but lives in " ++
      key.display))
  else if run.node ≠ store.node then
    .error (.invalid ("run record belongs to node '" ++ run.node ++ "', not '" ++ store.node ++ "'"))
  else .ok ()

def loadRun (key : RunKey) : Except IoError RunAdmission := do
  let attempt ← addressableAttempt key
  match store.dirs[(key.jobId,attempt)]?.bind RunDir.run with
  | none => .error .notFound
  | some run => do
    store.validateRun run key
    .ok run

def participantPath (key : RunKey) (stepId : Nat) : String :=
  store.root ++ "/" ++ key.display ++ "/participants/" ++ toString stepId ++ ".json"

def readParticipant (key : RunKey) (stepId : Nat) (participant : ParticipantAdmission) :
    Except IoError ParticipantAdmission :=
  if participant.schemaVersion > admissionSchemaVersion then
    .error (.invalid ("participant record schema " ++ toString participant.schemaVersion ++ " is newer than " ++
      toString admissionSchemaVersion))
  else if participant.key ≠ some key ∨ participant.node ≠ store.node ∨ participant.stepId ≠ stepId then
    .error (.invalid ("participant record at " ++ store.participantPath key stepId ++ " does not belong to " ++
      key.display ++ " on '" ++ store.node ++ "'"))
  else .ok participant

def participantFiles (key : RunKey) : List (Nat × ParticipantAdmission) :=
  match key.attempt with
  | none => []
  | some attempt => match store.dirs[(key.jobId,attempt)]?.bind RunDir.participants with
    | none => []
    | some files => files.toList

def loadParticipant (key : RunKey) (stepId : Nat) : Except IoError ParticipantAdmission := do
  let _ ← addressableAttempt key
  match (store.participantFiles key).find? (·.1 = stepId) with
  | none => .error .notFound
  | some file => store.readParticipant key stepId file.2

def participants (key : RunKey) : List ParticipantAdmission × Bool :=
  let read := (store.participantFiles key).map fun file => store.readParticipant key file.1 file.2
  (read.filterMap Except.toOption,read.all Except.isOk)

def stepAnswersForRun (run : RunAdmission) (key : RunKey) (stepId : Nat) : Bool :=
  let (participants,readable) := store.participants key
  if !readable then false
  else match run.lifecycleOwnerStep with
    | some owner => owner = stepId
    | none => match participants with
      | [] => true
      | [only] => only.stepId = stepId
      | _ => false

def replaceableRun (run : RunAdmission) (readmittedAt : Nat) : Bool :=
  if run.createdAtUnixMs = 0 || run.couldBeTheSameLaunch readmittedAt || run.state ≠ .cleaned || !run.sliceReleased ||
      run.controllerAck.releaseRaftIndex.isNone then false
  else match run.key with
    | none => false
    | some key =>
      let (participants,readable) := store.participants key
      readable && (AdmittedRun.mk run participants).collectable readmittedAt 0

def carryForward (run existing : RunAdmission) : RunAdmission :=
  { run with
    createdAtUnixMs := existing.createdAtUnixMs
    rejectBeforeUnixMs := max run.rejectBeforeUnixMs existing.rejectBeforeUnixMs
    maxLaunchExpiryUnixMs := max run.maxLaunchExpiryUnixMs existing.maxLaunchExpiryUnixMs
    conflictHold := if run.conflictHold.isNone && run.controllerAck.releaseRaftIndex.isNone then existing.conflictHold
      else run.conflictHold
    state := if existing.state = .cleaned then .cleaned else run.state
    epilog := if run.epilog = .notStarted && existing.epilog ≠ .notStarted then existing.epilog else run.epilog
    prolog := if run.prolog = .notStarted && existing.prolog ≠ .notStarted then existing.prolog else run.prolog
    cancelledByController := run.cancelledByController || existing.cancelledByController
    sliceReleased := run.sliceReleased || existing.sliceReleased
    controllerAck := if run.controllerAck.releaseRaftIndex.isNone then existing.controllerAck else run.controllerAck }

def publish (at_ : Nat × Nat) (run : RunAdmission) (participants : Option (Table Nat ParticipantAdmission)) :
    AdmissionStore :=
  { store with dirs := store.dirs.insert at_ ⟨some run,participants⟩ }

def participantsAt (at_ : Nat × Nat) : Option (Table Nat ParticipantAdmission) :=
  store.dirs[at_]?.bind RunDir.participants

def admitRun (run : RunAdmission) : AdmissionStore × Except IoError Unit :=
  match run.key with
  | none => (store,.error (unaddressable run.jobId))
  | some key =>
    let at_ := (run.jobId,run.runAttempt)
    match store.loadRun key with
    | .ok existing =>
      if store.replaceableRun existing run.createdAtUnixMs then (store.publish at_ run none,.ok ())
      else (store.publish at_ (carryForward run existing) (store.participantsAt at_),.ok ())
    | .error .notFound =>
      if (store.participantsAt at_).isSome then
        (store,.error (.invalid ("missing authority for " ++ key.display ++ " with retained admission evidence")))
      else (store.publish at_ run none,.ok ())
    | .error e => (store,.error e)

def admitParticipant (participant : ParticipantAdmission) : AdmissionStore × Except IoError Unit :=
  match participant.key with
  | none => (store,.error (unaddressable participant.jobId))
  | some _ =>
    let at_ := (participant.jobId,participant.runAttempt)
    let dir := (store.dirs[at_]?).getD ⟨none,none⟩
    let files := (dir.participants.getD ∅).insert participant.stepId participant
    ({ store with dirs := store.dirs.insert at_ { dir with participants := some files } },.ok ())

def updateRun (key : RunKey) (change : RunAdmission → Option RunAdmission) : AdmissionStore × Except IoError Bool :=
  match store.loadRun key with
  | .error .notFound => (store,.ok false)
  | .error e => (store,.error e)
  | .ok run => match change run with
    | none => (store,.ok false)
    | some next => match store.admitRun next with
      | (after,.ok ()) => (after,.ok true)
      | (after,.error e) => (after,.error e)

def markRunCleaned (key : RunKey) (epilog : EpilogOwed) : AdmissionStore × Except IoError Bool :=
  store.updateRun key fun run =>
    some { run with
      state := .cleaned
      epilog := if epilog = .yes && run.epilog = .notStarted then .pending else run.epilog }

def recordAcknowledgedCompletion (key : RunKey) (answeredBy releaseRaftIndex : Nat) :
    AdmissionStore × Except IoError Bool :=
  store.updateRun key fun run =>
    if !store.stepAnswersForRun run key answeredBy then none
    else some { run with
      controllerAck := ⟨some releaseRaftIndex⟩
      conflictHold := none
      state := if run.hasInFlightHook then run.state else .cleaned }

def recordEpilogIfUnstarted (key : RunKey) (state : HookState) : AdmissionStore × Except IoError Bool :=
  store.updateRun key fun run => if run.epilog ≠ .notStarted then none else some { run with epilog := state }

def recordEpilog (key : RunKey) (callerCreatedAtUnixMs : Nat) (state : HookState) :
    AdmissionStore × Except IoError Bool :=
  store.updateRun key fun run =>
    if run.createdAtUnixMs ≠ callerCreatedAtUnixMs then none else some { run with epilog := state }

def recordProlog (key : RunKey) (callerCreatedAtUnixMs : Nat) (state : HookState) :
    AdmissionStore × Except IoError Bool :=
  store.updateRun key fun run =>
    if run.createdAtUnixMs ≠ callerCreatedAtUnixMs then none else some { run with prolog := state }

def takeConflictHold (key : RunKey) (reason : String) (now : Nat) : AdmissionStore × Except IoError Bool :=
  store.updateRun key fun run =>
    if run.sliceReleased || run.controllerAck.isCommitted then none
    else if run.conflictHold.isSome then some run
    else some { run with conflictHold := some ⟨reason,now⟩ }

def takeControllerAck (key : RunKey) (answeredBy : Option Nat) (releaseRaftIndex : Nat) :
    AdmissionStore × Except IoError Bool :=
  store.updateRun key fun run =>
    if answeredBy.any fun stepId => !store.stepAnswersForRun run key stepId then none
    else some { run with controllerAck := ⟨some releaseRaftIndex⟩, conflictHold := none }

def recordControllerAck (key : RunKey) (answeredBy releaseRaftIndex : Nat) : AdmissionStore × Except IoError Bool :=
  store.takeControllerAck key (some answeredBy) releaseRaftIndex

def recordSettledClaim (key : RunKey) : AdmissionStore × Except IoError Bool := store.takeControllerAck key none 0

def markControllerCancelled (key : RunKey) : AdmissionStore × Except IoError Bool :=
  store.updateRun key fun run => some { run with cancelledByController := true }

def recordSliceReleased (key : RunKey) : AdmissionStore × Except IoError Bool :=
  store.updateRun key fun run => some { run with sliceReleased := true }

def fenceRun (key : RunKey) (rejectBeforeUnixMs now : Nat) : AdmissionStore × Except IoError Nat :=
  match addressableAttempt key with
  | .error e => (store,.error e)
  | .ok attempt => match store.loadRun key with
    | .error .notFound =>
      let fresh := { RunAdmission.new key.jobId attempt store.node .default now with
        rejectBeforeUnixMs := rejectBeforeUnixMs }
      match store.admitRun fresh with
      | (after,.ok ()) => (after,.ok rejectBeforeUnixMs)
      | (after,.error e) => (after,.error e)
    | .error e => (store,.error e)
    | .ok run =>
      let raised := { run with rejectBeforeUnixMs := max run.rejectBeforeUnixMs rejectBeforeUnixMs }
      match store.admitRun raised with
      | (after,.ok ()) => (after,.ok raised.rejectBeforeUnixMs)
      | (after,.error e) => (after,.error e)

def rejectBefore (key : RunKey) : Option Nat :=
  match store.loadRun key with
  | .ok run => some run.rejectBeforeUnixMs
  | .error _ => none

inductive HookSlot where
  | prolog | epilog
  deriving DecidableEq

def HookSlot.get (run : RunAdmission) : HookSlot → HookState
  | .prolog => run.prolog
  | .epilog => run.epilog

def HookSlot.set (run : RunAdmission) (state : HookState) : HookSlot → RunAdmission
  | .prolog => { run with prolog := state }
  | .epilog => { run with epilog := state }

def settleHookIfOwnerStillGone (key : RunKey) (ownerIsGone : AdmittedRun → Bool) (slot : HookSlot) :
    AdmissionStore × Except IoError Bool :=
  store.updateRun key fun run =>
    let (participants,readable) := store.participants key
    if !readable || !(slot.get run).isInFlight || !ownerIsGone ⟨run,participants⟩ then none
    else some (slot.set run (slot.get run).settledAfterOwnerLoss)

def loadedRuns : List (RunKey × AdmittedRun × Bool) :=
  store.dirs.keys.filterMap fun at_ => do
    let key ← RunKey.new at_.1 at_.2
    match store.loadRun key with
    | .ok run =>
      let (participants,readable) := store.participants key
      some (key,⟨run,participants⟩,readable)
    | .error _ => none

def settleHooksWhoseOwnerIsGone (ownerIsGone : AdmittedRun → Bool) : AdmissionStore :=
  store.loadedRuns.foldl (fun store (key,admitted,readable) =>
    let slots := [HookSlot.prolog,.epilog].filter fun slot => (slot.get admitted.run).isInFlight
    if !readable || slots.isEmpty || !ownerIsGone admitted then store
    else slots.foldl (fun store slot => (store.settleHookIfOwnerStillGone key ownerIsGone slot).1) store) store

def updateParticipant (key : RunKey) (stepId : Nat) (change : ParticipantAdmission → Option ParticipantAdmission) :
    AdmissionStore × Except IoError Bool :=
  match store.loadParticipant key stepId with
  | .error .notFound => (store,.ok false)
  | .error e => (store,.error e)
  | .ok participant => match change participant with
    | none => (store,.ok false)
    | some next => match store.admitParticipant next with
      | (after,.ok ()) => (after,.ok true)
      | (after,.error e) => (after,.error e)

def recordSupervisor (key : RunKey) (stepId : Nat) (supervisor : SupervisorRef) : AdmissionStore × Except IoError Bool :=
  store.updateParticipant key stepId fun participant =>
    if participant.lifecycle ≠ .admitted && participant.lifecycle ≠ .starting then none
    else some { participant with supervisor := some supervisor, lifecycle := .running }

def recordReportAcknowledged (key : RunKey) (stepId : Nat) : AdmissionStore × Except IoError Bool :=
  store.updateParticipant key stepId fun participant =>
    some { participant with
      finalReport := { participant.finalReport with acknowledged := true }
      lifecycle := .exited }

def dischargeOwedReports (key : RunKey) : AdmissionStore :=
  (store.participants key).1.foldl (fun store participant => (store.recordReportAcknowledged key participant.stepId).1) store

def settleAcknowledgedRun (key : RunKey) : AdmissionStore × Except IoError Bool :=
  match store.recordSettledClaim key with
  | (after,.ok true) => (after.dischargeOwedReports key).markRunCleaned key .no
  | (after,other) => (after,other)

def removeParticipant (key : RunKey) (stepId : Nat) : AdmissionStore :=
  match key.attempt with
  | none => store
  | some attempt =>
    { store with dirs := store.dirs.modify (key.jobId,attempt) fun dir =>
        { dir with participants := dir.participants.map (·.erase stepId) } }

def removeRun (key : RunKey) : AdmissionStore :=
  match key.attempt with
  | none => store
  | some attempt => { store with dirs := store.dirs.erase (key.jobId,attempt) }

def chargeCovers (charged : List RunKey) (key : RunKey) : Bool :=
  charged.contains key || charged.contains (.anyAttempt key.jobId)

def removeRunIfEligible (key : RunKey) (nowUnixMs retentionMs : Nat) (charged : List RunKey) : AdmissionStore :=
  match store.loadRun key with
  | .error _ => store
  | .ok run =>
    if run.conflictHold.isSome || run.fenceIsLive nowUnixMs || chargeCovers charged key then store
    else
      let (participants,readable) := store.participants key
      if readable && (AdmittedRun.mk run participants).collectable nowUnixMs retentionMs then store.removeRun key
      else store

def sweep (nowUnixMs retention : Nat) (charged : List RunKey) : AdmissionStore :=
  let retentionMs := max retention 1
  store.loadedRuns.foldl (fun store (key,admitted,_) =>
    if admitted.run.conflictHold.isSome || admitted.run.fenceIsLive nowUnixMs || chargeCovers charged key ||
        !admitted.collectable nowUnixMs retentionMs then store
    else store.removeRunIfEligible key nowUnixMs retentionMs charged) store

end AdmissionStore

end Spur.Admission
