import Spur.Admission.Store
import Spur.Library.Run

/-! A fenced run refuses every launch issued before its fence until such a launch has expired by itself. -/
namespace Spur.Admission
open Std Spur.Library List Option

/-- An operation of the store. Those that read the clock read it from the step that takes them. -/
inductive StoreOp where
  | admitRun (run : RunAdmission)
  | admitParticipant (participant : ParticipantAdmission)
  | markRunCleaned (key : RunKey) (epilog : EpilogOwed)
  | recordAcknowledgedCompletion (key : RunKey) (answeredBy releaseRaftIndex : Nat)
  | recordEpilogIfUnstarted (key : RunKey) (state : HookState)
  | settleHooksWhoseOwnerIsGone (ownerIsGone : AdmittedRun → Bool)
  | recordSupervisor (key : RunKey) (stepId : Nat) (supervisor : SupervisorRef)
  | takeConflictHold (key : RunKey) (reason : String)
  | fenceRun (key : RunKey) (rejectBeforeUnixMs : Nat)
  | recordEpilog (key : RunKey) (callerCreatedAtUnixMs : Nat) (state : HookState)
  | recordProlog (key : RunKey) (callerCreatedAtUnixMs : Nat) (state : HookState)
  | recordControllerAck (key : RunKey) (answeredBy releaseRaftIndex : Nat)
  | recordSettledClaim (key : RunKey)
  | markControllerCancelled (key : RunKey)
  | recordSliceReleased (key : RunKey)
  | dischargeOwedReports (key : RunKey)
  | settleAcknowledgedRun (key : RunKey)
  | recordReportAcknowledged (key : RunKey) (stepId : Nat)
  | removeParticipant (key : RunKey) (stepId : Nat)
  | removeRun (key : RunKey)
  | sweep (retentionMs : Nat) (charged : List RunKey)

structure StoreStep where
  now : Nat
  op : StoreOp

variable {now retentionMs stepId : Nat} {ownerIsGone : AdmittedRun → Bool} {digest : Option String}
  {charged : List RunKey} {fences : LaunchFences}

namespace AdmissionStore

def step (store : AdmissionStore) (step : StoreStep) : AdmissionStore :=
  match step.op with
  | .admitRun run => (store.admitRun run).1
  | .admitParticipant participant => (store.admitParticipant participant).1
  | .markRunCleaned key epilog => (store.markRunCleaned key epilog).1
  | .recordAcknowledgedCompletion key answeredBy index => (store.recordAcknowledgedCompletion key answeredBy index).1
  | .recordEpilogIfUnstarted key state => (store.recordEpilogIfUnstarted key state).1
  | .settleHooksWhoseOwnerIsGone ownerIsGone => store.settleHooksWhoseOwnerIsGone ownerIsGone
  | .recordSupervisor key stepId supervisor => (store.recordSupervisor key stepId supervisor).1
  | .takeConflictHold key reason => (store.takeConflictHold key reason step.now).1
  | .fenceRun key rejectBefore => (store.fenceRun key rejectBefore step.now).1
  | .recordEpilog key createdAt state => (store.recordEpilog key createdAt state).1
  | .recordProlog key createdAt state => (store.recordProlog key createdAt state).1
  | .recordControllerAck key answeredBy index => (store.recordControllerAck key answeredBy index).1
  | .recordSettledClaim key => (store.recordSettledClaim key).1
  | .markControllerCancelled key => (store.markControllerCancelled key).1
  | .recordSliceReleased key => (store.recordSliceReleased key).1
  | .dischargeOwedReports key => store.dischargeOwedReports key
  | .settleAcknowledgedRun key => (store.settleAcknowledgedRun key).1
  | .recordReportAcknowledged key stepId => (store.recordReportAcknowledged key stepId).1
  | .removeParticipant key stepId => store.removeParticipant key stepId
  | .removeRun key => store.removeRun key
  | .sweep retentionMs charged => store.sweep step.now retentionMs charged

def refusal (store : AdmissionStore) (key : RunKey) (fences : LaunchFences) (now : Nat)
    (admittedDigest : Option String) : Option LaunchRefusal :=
  fences.check now ((store.rejectBefore key).getD 0) admittedDigest

def Fenced (store : AdmissionStore) (key : RunKey) (cutoff : Nat) : Prop :=
  ∃ run, store.loadRun key = .ok run ∧ cutoff ≤ run.rejectBeforeUnixMs

def Owns (store : AdmissionStore) (run : RunAdmission) : Prop :=
  run.node = store.node ∧ run.schemaVersion ≤ admissionSchemaVersion

variable {run : RunAdmission}

theorem key_eq_some_iff {key : RunKey} :
    run.key = some key ↔ 0 < run.runAttempt ∧ key = ⟨run.jobId,some run.runAttempt⟩ := by
  unfold RunAdmission.key RunKey.new
  by_cases positive : run.runAttempt > 0
  · rw [if_pos positive,some_inj,eq_comm]
    exact ⟨fun same => ⟨positive,same⟩,And.right⟩
  · rw [if_neg positive]
    exact ⟨(fun absent => nomatch absent),fun found => absurd found.1 positive⟩

theorem validateRun_eq_ok_iff {store : AdmissionStore} {key : RunKey} :
    store.validateRun run key = .ok () ↔ run.key = some key ∧ store.Owns run := by
  unfold validateRun Owns
  split
  · next newer => exact ⟨(fun ok => nomatch ok),fun valid => absurd valid.2.2 (Nat.not_le.mpr newer)⟩
  next readable =>
  split
  · next other => exact ⟨(fun ok => nomatch ok),fun valid => absurd valid.1 other⟩
  next named =>
  split
  · next foreign => exact ⟨(fun ok => nomatch ok),fun valid => absurd valid.2.1 foreign⟩
  · next here => exact ⟨fun _ => ⟨not_not.mp named,not_not.mp here,Nat.not_lt.mp readable⟩,fun _ => rfl⟩

def fileOf (store : AdmissionStore) (key : RunKey) : Option RunAdmission :=
  key.attempt.bind fun attempt => store.dirs[(key.jobId,attempt)]?.bind RunDir.run

theorem loadRun_eq_ok_iff {store : AdmissionStore} {key : RunKey} :
    store.loadRun key = .ok run ↔ store.fileOf key = some run ∧ run.key = some key ∧ store.Owns run := by
  rw [← validateRun_eq_ok_iff]
  unfold loadRun fileOf addressableAttempt
  cases key.attempt with
  | none => simp [bind,Except.bind]
  | some attempt =>
    simp only [bind,Except.bind,Option.bind_some]
    cases store.dirs[(key.jobId,attempt)]?.bind RunDir.run with
    | none => simp
    | some file =>
      simp only [some_inj]
      cases checked : store.validateRun file key with
      | error e =>
        simp only [reduceCtorEq,false_iff,not_and]
        rintro rfl
        simp [checked]
      | ok _ =>
        simp only [Except.ok.injEq]
        constructor
        · rintro rfl
          exact ⟨rfl,checked⟩
        · exact And.left

theorem Fenced.of_dirs {store : AdmissionStore} {key : RunKey} {cutoff : Nat} {dirs : Table (Nat × Nat) RunDir}
    (fenced : store.Fenced key cutoff) (same : ∀ attempt, key.attempt = some attempt →
      dirs[(key.jobId,attempt)]?.bind RunDir.run = store.dirs[(key.jobId,attempt)]?.bind RunDir.run) :
    ({ store with dirs } : AdmissionStore).Fenced key cutoff := by
  obtain ⟨run,loaded,raised⟩ := fenced
  obtain ⟨found,named,owned⟩ := loadRun_eq_ok_iff.mp loaded
  refine ⟨run,loadRun_eq_ok_iff.mpr ⟨?_,named,owned⟩,raised⟩
  unfold fileOf at found ⊢
  cases attempted : key.attempt with
  | none => rw [attempted] at found; exact found
  | some attempt => rw [attempted] at found; exact (same attempt attempted).trans found

section

variable {store : AdmissionStore} {key : RunKey} {cutoff : Nat}

theorem fileOf_publish_self (named : run.key = some key) {files : Option (Table Nat ParticipantAdmission)} :
    (store.publish (run.jobId,run.runAttempt) run files).fileOf key = some run := by
  obtain ⟨_,rfl⟩ := key_eq_some_iff.mp named
  change ((store.dirs.insert _ ⟨some run,files⟩)[(run.jobId,run.runAttempt)]?).bind _ = _
  rw [ExtTreeMap.getElem?_insert_self]
  rfl

theorem Fenced.insert_elsewhere {at_ : Nat × Nat} (fenced : store.Fenced key cutoff)
    (other : ∀ attempt, key.attempt = some attempt → at_ ≠ (key.jobId,attempt)) {dir : RunDir} :
    ({ store with dirs := store.dirs.insert at_ dir } : AdmissionStore).Fenced key cutoff := by
  refine fenced.of_dirs fun attempt named => ?_
  rw [ExtTreeMap.getElem?_insert,if_neg]
  rw [Std.compare_eq_iff_eq]
  exact other attempt named

theorem elsewhere (other : run.key ≠ some key) (positive : 0 < run.runAttempt) (attempt : Nat)
    (named : key.attempt = some attempt) : (run.jobId,run.runAttempt) ≠ (key.jobId,attempt) := by
  intro same
  obtain ⟨job,number⟩ := Prod.mk.inj same
  apply other
  rw [key_eq_some_iff]
  refine ⟨positive,?_⟩
  rw [job,number,← named]

/-- A record that is admitted is written whole, unless it carries a record forward that it does not replace. -/
theorem admitRun_cases {store : AdmissionStore} {run : RunAdmission} :
    ((store.admitRun run).1 = store ∧ (store.admitRun run).2 ≠ .ok ()) ∨ ∃ key record files, run.key = some key ∧
        (store.admitRun run).1 = store.publish (run.jobId,run.runAttempt) record files ∧
        ((record = run ∧ ∀ existing, store.loadRun key = .ok existing →
            store.replaceableRun existing run.createdAtUnixMs = true) ∨
          ∃ existing, store.loadRun key = .ok existing ∧ record = carryForward run existing) := by
  unfold admitRun
  cases named : run.key with
  | none => exact .inl ⟨rfl,nofun⟩
  | some key =>
    dsimp only
    cases loaded : store.loadRun key with
    | ok existing =>
      dsimp only
      by_cases replaced : store.replaceableRun existing run.createdAtUnixMs = true
      · rw [if_pos replaced]
        refine .inr ⟨key,run,none,rfl,rfl,.inl ⟨rfl,fun other found => ?_⟩⟩
        cases loaded.symm.trans found
        exact replaced
      · rw [if_neg replaced]
        exact .inr ⟨key,_,_,rfl,rfl,.inr ⟨existing,loaded,rfl⟩⟩
    | error e =>
      cases e with
      | invalid message => exact .inl ⟨rfl,nofun⟩
      | notFound =>
        dsimp only
        split
        · exact .inl ⟨rfl,nofun⟩
        · refine .inr ⟨key,run,none,rfl,rfl,.inl ⟨rfl,fun other found => ?_⟩⟩
          nomatch loaded.symm.trans found

theorem admitRun_fenced (fenced : store.Fenced key cutoff) (owned : run.key = some key → store.Owns run)
    (live : run.key = some key → ∀ existing, store.loadRun key = .ok existing → cutoff ≤ existing.rejectBeforeUnixMs →
      store.replaceableRun existing run.createdAtUnixMs = false) : (store.admitRun run).1.Fenced key cutoff := by
  obtain ⟨same,-⟩ | ⟨other,record,files,named,written,wrote⟩ := admitRun_cases
  · rw [same]
    exact fenced
  rw [written]
  by_cases here : other = key
  · subst here
    obtain ⟨present,loaded,raised⟩ := fenced
    obtain ⟨rfl,replaced⟩ | ⟨existing,found,rfl⟩ := wrote
    · have kept := live named present loaded raised
      rw [replaced present loaded] at kept
      nomatch kept
    · cases loaded.symm.trans found
      refine ⟨carryForward run present,loadRun_eq_ok_iff.mpr ⟨?_,named,owned named⟩,raised.trans (le_max_right _ _)⟩
      exact @fileOf_publish_self (carryForward run present) store other named _
  · have positive := (key_eq_some_iff.mp named).1
    have apart : run.key ≠ some key := fun same => here (some_inj.mp (named.symm.trans same))
    exact fenced.insert_elsewhere (elsewhere apart positive)

theorem loadRun_of_admitRun (owned : store.Owns run) (admitted : (store.admitRun run).2 = .ok ()) :
    ∃ key written, run.key = some key ∧ (store.admitRun run).1.loadRun key = .ok written ∧
      run.rejectBeforeUnixMs ≤ written.rejectBeforeUnixMs := by
  obtain ⟨-,refused⟩ | ⟨key,record,files,named,written,wrote⟩ := admitRun_cases
  · exact absurd admitted refused
  rw [written]
  obtain ⟨rfl,-⟩ | ⟨existing,-,rfl⟩ := wrote
  · exact ⟨key,record,named,loadRun_eq_ok_iff.mpr ⟨fileOf_publish_self named,named,owned⟩,le_rfl⟩
  · refine ⟨key,carryForward run existing,named,loadRun_eq_ok_iff.mpr ⟨?_,named,owned⟩,le_max_left _ _⟩
    exact @fileOf_publish_self (carryForward run existing) store key named _

def Extends (run next : RunAdmission) : Prop :=
  next.key = run.key ∧ next.node = run.node ∧ next.schemaVersion = run.schemaVersion ∧
    next.createdAtUnixMs = run.createdAtUnixMs ∧ run.rejectBeforeUnixMs ≤ next.rejectBeforeUnixMs

theorem replaceableRun_own_age {store : AdmissionStore} {run : RunAdmission} :
    store.replaceableRun run run.createdAtUnixMs = false := by
  unfold replaceableRun
  by_cases zero : run.createdAtUnixMs = 0
  · simp [zero]
  · have fresh : run.couldBeTheSameLaunch run.createdAtUnixMs = true := by
      simp [RunAdmission.couldBeTheSameLaunch,launchLifetimeMs,Nat.pos_of_ne_zero zero]
    simp [fresh]

theorem admitRun_extends {run next : RunAdmission} {other : RunKey} (fenced : store.Fenced key cutoff)
    (loaded : store.loadRun other = .ok run) (grows : Extends run next) : (store.admitRun next).1.Fenced key cutoff := by
  obtain ⟨_,named,owned⟩ := loadRun_eq_ok_iff.mp loaded
  obtain ⟨sameKey,sameNode,sameSchema,sameAge,_⟩ := grows
  apply admitRun_fenced fenced
  · intro _
    exact ⟨sameNode.trans owned.1,sameSchema.trans_le owned.2⟩
  · intro here existing found _
    have same : other = key := some_inj.mp ((named.symm.trans sameKey.symm).trans here)
    subst same
    cases loaded.symm.trans found
    rw [sameAge]
    exact replaceableRun_own_age

end

section

variable {store : AdmissionStore} {key : RunKey} {cutoff : Nat}

theorem Extends.refl {run : RunAdmission} : Extends run run := ⟨rfl,rfl,rfl,rfl,le_rfl⟩

theorem Extends.of_some {run next same : RunAdmission} (changed : some same = some next) (grows : Extends run same) :
    Extends run next := by
  cases changed
  exact grows

theorem Extends.of_guarded {run next : RunAdmission} {skip : Prop} [Decidable skip] {same : RunAdmission}
    (changed : (if skip then none else some same) = some next) (grows : Extends run same) : Extends run next :=
  .of_some (congrArg some (Option.some.inj (ite_none_left_eq_some.mp changed).2)) grows

variable (fenced : store.Fenced key cutoff) (other : RunKey)
include fenced

theorem updateRun_fenced {change : RunAdmission → Option RunAdmission}
    (grows : ∀ run next, change run = some next → Extends run next) :
    (store.updateRun other change).1.Fenced key cutoff := by
  unfold updateRun
  cases loaded : store.loadRun other with
  | error e => cases e <;> exact fenced
  | ok run =>
    dsimp only
    cases changed : change run with
    | none => exact fenced
    | some next =>
      have kept := admitRun_extends fenced loaded (grows run next changed)
      dsimp only
      generalize store.admitRun next = answer at kept ⊢
      obtain ⟨after,_ | _⟩ := answer <;> exact kept

theorem markRunCleaned_fenced {epilog : EpilogOwed} : (store.markRunCleaned other epilog).1.Fenced key cutoff :=
  updateRun_fenced fenced other fun run _ changed => .of_some changed .refl

theorem takeConflictHold_fenced {reason : String} :
    (store.takeConflictHold other reason now).1.Fenced key cutoff := by
  apply updateRun_fenced fenced
  intro run next changed
  obtain ⟨_,same⟩ := ite_none_left_eq_some.mp changed
  split at same <;> cases same <;> exact Extends.refl

theorem takeControllerAck_fenced {answeredBy : Option Nat} {index : Nat} :
    (store.takeControllerAck other answeredBy index).1.Fenced key cutoff :=
  updateRun_fenced fenced other fun run _ changed => .of_guarded changed .refl

theorem settleHook_fenced
    {slot : HookSlot} : (store.settleHookIfOwnerStillGone other ownerIsGone slot).1.Fenced key cutoff := by
  apply updateRun_fenced fenced
  intro run next changed
  obtain ⟨_,same⟩ := ite_none_left_eq_some.mp changed
  cases slot <;> cases same <;> exact Extends.refl

omit fenced in
theorem foldl_fenced {A : Type} {items : List A} {change : AdmissionStore → A → AdmissionStore}
    (keeps : ∀ store item, store.Fenced key cutoff → (change store item).Fenced key cutoff)
    (fenced : store.Fenced key cutoff) : (items.foldl change store).Fenced key cutoff := by
  induction items generalizing store with
  | nil => exact fenced
  | cons item items ih => exact ih (keeps store item fenced)

theorem settleHooks_fenced : (store.settleHooksWhoseOwnerIsGone ownerIsGone).Fenced key cutoff := by
  refine foldl_fenced ?_ fenced
  intro store ⟨other,admitted,readable⟩ fenced
  dsimp only
  split
  · exact fenced
  · exact foldl_fenced (fun store slot fenced => settleHook_fenced fenced other) fenced

omit fenced in
/-- A fence raises the cutoff of the run on record, or writes a run of its own. -/
theorem fenceRun_cases {store : AdmissionStore} {rejectBefore : Nat} :
    let out := store.fenceRun other rejectBefore now
    (out.1 = store ∧ ∀ answer, out.2 ≠ .ok answer) ∨
      ∃ next, (out.1 = (store.admitRun next).1 ∧ ∀ answer, out.2 = .ok answer → (store.admitRun next).2 = .ok ()) ∧
        (∀ key, next.key = some key → key = other) ∧ rejectBefore ≤ next.rejectBeforeUnixMs ∧ store.Owns next ∧
        ((∃ run, store.loadRun other = .ok run ∧ Extends run next) ∨ next.createdAtUnixMs = now) := by
  unfold fenceRun
  cases addressed : addressableAttempt other with
  | error e => exact .inl ⟨rfl,by simp⟩
  | ok attempt =>
    dsimp only
    cases loaded : store.loadRun other with
    | ok run =>
      obtain ⟨_,named,owned⟩ := loadRun_eq_ok_iff.mp loaded
      refine .inr ⟨{ run with rejectBeforeUnixMs := max run.rejectBeforeUnixMs rejectBefore },?_,
        fun key same => Option.some.inj (same.symm.trans named),le_max_right _ _,owned,
        .inl ⟨run,rfl,rfl,rfl,rfl,rfl,le_max_left _ _⟩⟩
      dsimp only
      split <;> next admitted => simp [admitted]
    | error e =>
      cases e with
      | invalid message => exact .inl ⟨rfl,by simp⟩
      | notFound =>
        refine .inr ⟨{ RunAdmission.new other.jobId attempt store.node .default now with
          rejectBeforeUnixMs := rejectBefore },?_,fun key same => ?_,le_rfl,⟨rfl,le_rfl⟩,.inr rfl⟩
        · dsimp only
          split <;> next admitted => simp [admitted]
        obtain ⟨job,number⟩ := other
        cases number with
        | none => cases addressed
        | some number =>
          cases addressed
          exact (key_eq_some_iff.mp same).2

theorem fenceRun_fenced {rejectBefore : Nat}
    (expired : ∀ existing, cutoff ≤ existing.rejectBeforeUnixMs → store.replaceableRun existing now = false) :
    (store.fenceRun other rejectBefore now).1.Fenced key cutoff := by
  obtain ⟨same,-⟩ | ⟨next,⟨same,-⟩,-,-,owned,⟨run,loaded,grows⟩ | age⟩ := fenceRun_cases other
  · rw [same]
    exact fenced
  · rw [same]
    exact admitRun_extends fenced loaded grows
  · rw [same]
    refine admitRun_fenced fenced (fun _ => owned) fun _ existing _ raised => ?_
    rw [age]
    exact expired existing raised

omit fenced in
theorem fenceRun_takes {answer : Nat} (fenced : (store.fenceRun key cutoff now).2 = .ok answer) :
    (store.fenceRun key cutoff now).1.Fenced key cutoff := by
  obtain ⟨-,refused⟩ | ⟨next,⟨same,admits⟩,only,raised,owned,-⟩ := fenceRun_cases key
  · exact absurd fenced (refused answer)
  obtain ⟨other,written,named,loaded,kept⟩ := loadRun_of_admitRun owned (admits answer fenced)
  cases only other named
  rw [same]
  exact ⟨written,loaded,raised.trans kept⟩

end

section

variable {store : AdmissionStore} {key : RunKey} {cutoff : Nat}

theorem admitParticipant_fenced (fenced : store.Fenced key cutoff) (participant : ParticipantAdmission) :
    (store.admitParticipant participant).1.Fenced key cutoff := by
  unfold admitParticipant
  cases participant.key with
  | none => exact fenced
  | some _ =>
    refine fenced.of_dirs fun attempt _ => ?_
    rw [ExtTreeMap.getElem?_insert]
    split
    · next here =>
      rw [Std.compare_eq_iff_eq] at here
      rw [here]
      cases store.dirs[(key.jobId,attempt)]? <;> rfl
    · rfl

theorem updateParticipant_fenced (fenced : store.Fenced key cutoff) {other : RunKey}
    {change : ParticipantAdmission → Option ParticipantAdmission} :
    (store.updateParticipant other stepId change).1.Fenced key cutoff := by
  unfold updateParticipant
  cases store.loadParticipant other stepId with
  | error e => cases e <;> exact fenced
  | ok participant =>
    dsimp only
    cases change _ with
    | none => exact fenced
    | some next =>
      have kept := admitParticipant_fenced fenced next
      dsimp only
      generalize store.admitParticipant next = answer at kept ⊢
      obtain ⟨after,_ | _⟩ := answer <;> exact kept

theorem dischargeOwedReports_fenced (fenced : store.Fenced key cutoff) {other : RunKey} :
    (store.dischargeOwedReports other).Fenced key cutoff :=
  foldl_fenced (fun _ participant fenced => updateParticipant_fenced fenced) fenced

theorem settleAcknowledgedRun_fenced (fenced : store.Fenced key cutoff) {other : RunKey} :
    (store.settleAcknowledgedRun other).1.Fenced key cutoff := by
  have kept : (store.recordSettledClaim other).1.Fenced key cutoff := takeControllerAck_fenced fenced other
  unfold settleAcknowledgedRun
  generalize store.recordSettledClaim other = answer at kept ⊢
  obtain ⟨after,_ | answered⟩ := answer
  · exact kept
  · cases answered with
    | false => exact kept
    | true => exact markRunCleaned_fenced (dischargeOwedReports_fenced kept) other

theorem removeParticipant_fenced (fenced : store.Fenced key cutoff) {other : RunKey} :
    (store.removeParticipant other stepId).Fenced key cutoff := by
  unfold removeParticipant
  cases other.attempt with
  | none => exact fenced
  | some attempt =>
    refine fenced.of_dirs fun number _ => ?_
    rw [ExtTreeMap.getElem?_modify]
    split
    · next here =>
      rw [Std.compare_eq_iff_eq] at here
      rw [here]
      cases store.dirs[(key.jobId,number)]? <;> rfl
    · rfl

end

section

variable {store : AdmissionStore} {key : RunKey} {cutoff : Nat}

theorem removeRun_fenced (fenced : store.Fenced key cutoff) {other : RunKey} (apart : other ≠ key) :
    (store.removeRun other).Fenced key cutoff := by
  unfold removeRun
  cases named : other.attempt with
  | none => exact fenced
  | some attempt =>
    refine fenced.of_dirs fun number here => ?_
    rw [ExtTreeMap.getElem?_erase,if_neg]
    rw [Std.compare_eq_iff_eq]
    intro same
    obtain ⟨job,equal⟩ := Prod.mk.inj same
    cases other
    cases key
    dsimp only at job named here
    exact apart (by rw [job,named,equal,here])

theorem saturatingAdd_mono {a b : Nat} (le : a ≤ b) {c : Nat} : saturatingAdd a c ≤ saturatingAdd b c :=
  min_le_min_right _ (Nat.add_le_add_right le c)

theorem fenceIsLive_of_cutoff (positive : 0 < cutoff)
    (raised : cutoff ≤ run.rejectBeforeUnixMs) (live : now ≤ saturatingAdd cutoff launchLifetimeMs) :
    run.fenceIsLive now = true := by
  have reach := live.trans (saturatingAdd_mono raised)
  simp only [RunAdmission.fenceIsLive,Bool.and_eq_true,decide_eq_true_eq]
  exact ⟨positive.trans_le raised,reach⟩

theorem replaceableRun_of_live (positive : 0 < cutoff)
    (raised : cutoff ≤ run.rejectBeforeUnixMs) (live : now ≤ saturatingAdd cutoff launchLifetimeMs) :
    store.replaceableRun run now = false := by
  have held : ∀ participants, (AdmittedRun.mk run participants).collectable now 0 = false := by
    intro participants
    unfold AdmittedRun.collectable
    rw [if_pos]
    simp only [fenceIsLive_of_cutoff positive raised live,Bool.or_true,Bool.true_or]
  unfold replaceableRun
  split
  · rfl
  cases run.key with
  | none => rfl
  | some key =>
    dsimp only
    rw [held,Bool.and_false]

theorem removeRunIfEligible_fenced (positive : 0 < cutoff)
    (live : now ≤ saturatingAdd cutoff launchLifetimeMs) (fenced : store.Fenced key cutoff) {other : RunKey} :
    (store.removeRunIfEligible other now retentionMs charged).Fenced key cutoff := by
  by_cases here : other = key
  · subst here
    have whole := fenced
    obtain ⟨run,loaded,raised⟩ := fenced
    unfold removeRunIfEligible
    rw [loaded]
    dsimp only
    rw [if_pos]
    · exact whole
    · simp only [fenceIsLive_of_cutoff positive raised live,Bool.or_true,Bool.true_or]
  · unfold removeRunIfEligible
    split
    · exact fenced
    split
    · exact fenced
    · dsimp only
      split
      · exact removeRun_fenced fenced here
      · exact fenced

theorem sweep_fenced (positive : 0 < cutoff) (live : now ≤ saturatingAdd cutoff launchLifetimeMs)
    (fenced : store.Fenced key cutoff) :
    (store.sweep now retentionMs charged).Fenced key cutoff := by
  refine foldl_fenced ?_ fenced
  intro store ⟨other,admitted,readable⟩ fenced
  dsimp only
  split
  · exact fenced
  · exact removeRunIfEligible_fenced positive live fenced

end

section

variable {store : AdmissionStore} {key : RunKey} {cutoff : Nat}

def AdmitsReadable (key : RunKey) (store : AdmissionStore) (step : StoreStep) : Prop :=
  ∀ run, step.op = .admitRun run → run.key = some key → store.Owns run

theorem step_fenced {step : StoreStep} (positive : 0 < cutoff)
    (live : step.now ≤ saturatingAdd cutoff launchLifetimeMs) (kept : step.op ≠ .removeRun key)
    (dated : ∀ run, step.op = .admitRun run → run.createdAtUnixMs ≤ step.now) (readable : AdmitsReadable key store step)
    (fenced : store.Fenced key cutoff) : (store.step step).Fenced key cutoff := by
  obtain ⟨now,op⟩ := step
  cases op with
  | admitRun run =>
    apply admitRun_fenced fenced (readable run rfl)
    intro _ existing _ raised
    exact replaceableRun_of_live positive raised ((dated run rfl).trans live)
  | admitParticipant participant => exact admitParticipant_fenced fenced _
  | markRunCleaned other epilog => exact markRunCleaned_fenced fenced other
  | recordAcknowledgedCompletion other | recordEpilogIfUnstarted other | recordEpilog other | recordProlog other =>
    exact updateRun_fenced fenced other fun run _ changed => .of_guarded changed .refl
  | settleHooksWhoseOwnerIsGone ownerIsGone => exact settleHooks_fenced fenced
  | recordSupervisor other stepId supervisor => exact updateParticipant_fenced fenced
  | takeConflictHold other reason => exact takeConflictHold_fenced fenced other
  | fenceRun other rejectBefore =>
    exact fenceRun_fenced fenced other fun _ raised => replaceableRun_of_live positive raised live
  | recordControllerAck other answeredBy index => exact takeControllerAck_fenced fenced other
  | recordSettledClaim other => exact takeControllerAck_fenced fenced other
  | markControllerCancelled other | recordSliceReleased other =>
    exact updateRun_fenced fenced other fun run _ changed => .of_some changed .refl
  | dischargeOwedReports other => exact dischargeOwedReports_fenced fenced
  | settleAcknowledgedRun other => exact settleAcknowledgedRun_fenced fenced
  | recordReportAcknowledged other stepId => exact updateParticipant_fenced fenced
  | removeParticipant other stepId => exact removeParticipant_fenced fenced
  | removeRun other => exact removeRun_fenced fenced fun same => kept (congrArg _ same)
  | sweep retentionMs charged => exact sweep_fenced positive live fenced

theorem run_fenced {start later : Nat} {steps : List StoreStep} (positive : 0 < cutoff)
    (clock : (start :: (steps.map StoreStep.now ++ [later])).IsChain (· ≤ ·))
    (kept : ∀ step ∈ steps, step.op ≠ .removeRun key)
    (dated : ∀ step ∈ steps, ∀ run, step.op = .admitRun run → run.createdAtUnixMs ≤ step.now)
    (readable : Run.Along AdmissionStore.step (AdmitsReadable key) store steps)
    (fenced : start ≤ saturatingAdd cutoff launchLifetimeMs → store.Fenced key cutoff)
    (live : later ≤ saturatingAdd cutoff launchLifetimeMs) : (steps.foldl AdmissionStore.step store).Fenced key cutoff := by
  induction steps generalizing store start with
  | nil => exact fenced ((isChain_cons_cons.mp clock).1.trans live)
  | cons step steps ih =>
    obtain ⟨forward,clock⟩ := isChain_cons_cons.mp clock
    apply ih clock (fun next member => kept next (mem_cons_of_mem _ member))
      (fun next member => dated next (mem_cons_of_mem _ member)) readable.2
    intro now
    exact step_fenced positive now (kept step mem_cons_self) (dated step mem_cons_self) readable.1
      (fenced (forward.trans now))

theorem refusal_of_fenced (fenced : store.Fenced key cutoff) (issued : 0 < fences.issuedAtUnixMs)
    (early : fences.issuedAtUnixMs ≤ cutoff) :
    store.refusal key fences now digest = some .fenced := by
  obtain ⟨run,loaded,raised⟩ := fenced
  unfold refusal rejectBefore LaunchFences.check
  rw [loaded]
  rw [if_pos]
  simp only [Bool.and_eq_true,decide_eq_true_eq]
  exact ⟨⟨(issued.trans_le early).trans_le raised,issued⟩,early.trans raised⟩

theorem refusal_of_expired (expires : 0 < fences.expiresAtUnixMs) (past : fences.expiresAtUnixMs < now) :
    store.refusal key fences now digest = some .fenced ∨ store.refusal key fences now digest = some .expired := by
  unfold refusal LaunchFences.check
  split
  · exact .inl rfl
  right
  rw [if_pos]
  simp only [Bool.and_eq_true,decide_eq_true_eq]
  exact ⟨expires,past⟩

theorem late_launch_refused (store : AdmissionStore) (key : RunKey) (cutoff fencedAt later answer : Nat)
    (fenced : (store.fenceRun key cutoff fencedAt).2 = .ok answer) (steps : List StoreStep)
    (clock : (fencedAt :: (steps.map StoreStep.now ++ [later])).IsChain (· ≤ ·))
    (kept : ∀ step ∈ steps, step.op ≠ .removeRun key)
    (dated : ∀ step ∈ steps, ∀ run, step.op = .admitRun run → run.createdAtUnixMs ≤ step.now)
    (readable : Run.Along AdmissionStore.step (AdmitsReadable key) (store.fenceRun key cutoff fencedAt).1 steps)
    (fences : LaunchFences) (issued : 0 < fences.issuedAtUnixMs) (expires : 0 < fences.expiresAtUnixMs)
    (early : fences.issuedAtUnixMs ≤ cutoff) (lifetime : fences.expiresAtUnixMs ≤ fences.issuedAtUnixMs + launchLifetimeMs)
    (stamp : fences.expiresAtUnixMs ≤ u64Max) (digest : Option String) :
    let after := steps.foldl AdmissionStore.step (store.fenceRun key cutoff fencedAt).1
    after.refusal key fences later digest = some .fenced ∨ after.refusal key fences later digest = some .expired := by
  by_cases live : later ≤ saturatingAdd cutoff launchLifetimeMs
  · have held := run_fenced (issued.trans_le early) clock kept dated readable (fun _ => fenceRun_takes fenced) live
    exact .inl (refusal_of_fenced held issued early)
  · have reach : fences.expiresAtUnixMs ≤ saturatingAdd cutoff _ :=
      le_min (lifetime.trans (Nat.add_le_add_right early _)) stamp
    exact refusal_of_expired expires (reach.trans_lt (Nat.not_le.mp live))

end

def emptyStore : AdmissionStore := ⟨"/var/spool/spur/admission","n1",∅⟩

def seventh : RunKey := ⟨7,some 1⟩

theorem late_launch_refused_after_sweep :
    let steps : List StoreStep := [⟨1100,.admitRun (.new 7 1 "n1" .default 1100)⟩,⟨200000,.sweep 0 []⟩]
    let after := steps.foldl AdmissionStore.step (emptyStore.fenceRun seventh 1000 1000).1
    after.refusal seventh ⟨900,100000,"batch"⟩ 200000 none = some .fenced ∨
      after.refusal seventh ⟨900,100000,"batch"⟩ 200000 none = some .expired := by
  apply late_launch_refused emptyStore seventh 1000 1000 200000 1000 _
  · decide
  · intro step member
    simp only [mem_cons,not_mem_nil,or_false] at member
    obtain rfl | rfl := member <;> exact fun same => nomatch same
  · intro step member run same
    simp only [mem_cons,not_mem_nil,or_false] at member
    obtain rfl | rfl := member
    · cases same
      decide
    · nomatch same
  · refine ⟨?_,?_,trivial⟩
    · intro run same _
      cases same
      exact ⟨by decide +kernel,by decide⟩
    · intro run same
      nomatch same
  all_goals decide

/-- A record that names another node is written over the fence, and then says nothing. -/
theorem fence_lost_under_foreign_record :
    let fenced := emptyStore.fenceRun seventh 1000 1000
    let admitted := fenced.1.step ⟨1001,.admitRun (.new 7 1 "n2" .default 1001)⟩
    fenced.2 = .ok 1000 ∧ fenced.1.refusal seventh ⟨900,100000,"batch"⟩ 1001 none = some .fenced ∧
      admitted.refusal seventh ⟨900,100000,"batch"⟩ 1002 none = none := by
  decide +kernel

end AdmissionStore

end Spur.Admission
