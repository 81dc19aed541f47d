import Spur.Auth.Replay

/-! The launch gate of an agent, from `native_exec`: the record of accepted launches, cancels and restarts. -/
namespace Spur.Auth
open Spur.Library Spur.Library.Retention Spur.Library.Run List Option

def jobCredentialTtlSecs : Nat := 24 * 3600

/-- The claims the gate and the record read; the id and the digest are numbers of 16 and 32 bytes. -/
structure ExecutionCredential where
  jobId : Nat
  stepId : Nat
  runAttempt : Nat
  credentialId : Nat
  commandDigest : Nat
  issuedAt : Nat
  notBefore : Nat
  expiresAt : Nat

namespace ExecutionCredential

def key (cred : ExecutionCredential) : Nat × Nat × Nat := (cred.jobId,cred.stepId,cred.runAttempt)

def validateTime (cred : ExecutionCredential) (now skewSecs : Nat) : Except CredentialError Unit :=
  if now < cred.notBefore - skewSecs then .error .notYetValid
  else checkIssuedExpires cred.issuedAt cred.expiresAt now skewSecs

def retainUntil (cred : ExecutionCredential) (now : Nat) : Nat :=
  saturatingAdd (if cred.expiresAt = 0 then saturatingAdd now jobCredentialTtlSecs else cred.expiresAt) clockSkewSecs

end ExecutionCredential

structure AcceptedLaunch where
  credentialId : Nat
  digest : Nat
  cancelled : Bool
  retainUntil : Nat
  deriving DecidableEq

structure LaunchAcceptance where
  entries : Table (Nat × Nat × Nat) AcceptedLaunch
  capacity : Nat

variable {cred : ExecutionCredential} {entry : AcceptedLaunch} {now : Nat} {key : Nat × Nat × Nat}

namespace LaunchAcceptance

def withCapacity (capacity : Nat) : LaunchAcceptance := ⟨∅,max capacity 1⟩

variable (record : LaunchAcceptance)

def live (now : Nat) : Table (Nat × Nat × Nat) AcceptedLaunch := evictExpired AcceptedLaunch.retainUntil record.entries now

private def enter (now : Nat) (key : Nat × Nat × Nat) (entry : AcceptedLaunch) : LaunchAcceptance :=
  { record with entries := put AcceptedLaunch.retainUntil record.capacity (record.live now) key entry }

/-- The first presentation is recorded, an exact duplicate is fine, anything else for the attempt is refused. -/
def accept (cred : ExecutionCredential) (now : Nat) : LaunchAcceptance × Except CredentialError Bool :=
  match (record.live now)[cred.key]? with
  | none => (record.enter now cred.key ⟨cred.credentialId,cred.commandDigest,false,cred.retainUntil now⟩,.ok true)
  | some prev =>
    ({ record with entries := record.live now },
      if prev.cancelled then .error .wrongAttempt
      else if prev.credentialId = cred.credentialId && prev.digest = cred.commandDigest then .ok false
      else .error .idempotencyConflict)

private def longest (now : Nat) : Nat := saturatingAdd now (jobCredentialTtlSecs + clockSkewSecs)

def cancel (key : Nat × Nat × Nat) (now : Nat) : LaunchAcceptance :=
  if (record.live now).contains key then
    { record with entries := (record.live now).modify key fun entry => { entry with cancelled := true } }
  else record.enter now key ⟨0,0,true,longest now⟩

def cancelAttempt (jobId runAttempt now : Nat) : LaunchAcceptance :=
  { record with entries := (record.live now).map fun key entry =>
      if key.1 = jobId ∧ key.2.2 = runAttempt then { entry with cancelled := true } else entry }

def restore (key : Nat × Nat × Nat) (credentialId digest now : Nat) : LaunchAcceptance :=
  record.enter now key ⟨credentialId,digest,false,longest now⟩

theorem find_live (now : Nat) (key : Nat × Nat × Nat) :
    (record.live now)[key]? = record.entries[key]?.filter fun entry => now < entry.retainUntil :=
  find_evictExpired _

variable {record}

theorem find_of_find_live (found : (record.live now)[key]? = some entry) : record.entries[key]? = some entry := by
  rw [find_live] at found
  exact (filter_eq_some_iff.mp found).1

private theorem find_enter (room : (record.live now).size < record.capacity) (key other : Nat × Nat × Nat)
    (entry : AcceptedLaunch) :
    (record.enter now key entry).entries[other]? = if key = other then some entry else (record.live now)[other]? :=
  find_put _ (.inr room)

theorem find_accept (room : (record.live now).size < record.capacity)
    (other : cred.key ≠ key ∨ ((record.live now)[key]?).isSome) :
    (record.accept cred now).1.entries[key]? = (record.live now)[key]? := by
  unfold accept
  cases found : (record.live now)[cred.key]? with
  | some prev => rfl
  | none =>
    rw [find_enter room,if_neg]
    rintro rfl
    simp [found] at other

theorem find_of_accept (found : (record.accept cred now).1.entries[key]? = some entry) :
    record.entries[key]? = some entry ∨ (record.accept cred now).2 = .ok true ∧ cred.key = key ∧
      entry.credentialId = cred.credentialId ∧ entry.digest = cred.commandDigest := by
  unfold accept at found ⊢
  cases present : (record.live now)[cred.key]? with
  | some prev =>
    rw [present] at found
    exact .inl (find_of_find_live found)
  | none =>
    rw [present] at found
    rcases find_of_put _ found with ⟨same,rfl⟩ | before
    · exact .inr ⟨rfl,same,rfl,rfl⟩
    · exact .inl (find_of_find_live before)

theorem accept_repeated (repeated : (record.accept cred now).2 = .ok false) :
    ∃ prev, (record.live now)[cred.key]? = some prev ∧ prev.cancelled = false ∧
      prev.credentialId = cred.credentialId ∧ prev.digest = cred.commandDigest := by
  unfold accept at repeated
  cases present : (record.live now)[cred.key]? with
  | none =>
    rw [present] at repeated
    cases repeated
  | some prev =>
    rw [present] at repeated
    dsimp only at repeated
    split at repeated
    · cases repeated
    next kept =>
    split at repeated
    · next same =>
      rw [Bool.and_eq_true,decide_eq_true_eq,decide_eq_true_eq] at same
      exact ⟨prev,rfl,Bool.eq_false_of_not_eq_true kept,same⟩
    · cases repeated

theorem accept_refuses {prev : AcceptedLaunch}
    (found : (record.live now)[cred.key]? = some prev) (cancelled : prev.cancelled = true) :
    (record.accept cred now).2 = .error .wrongAttempt := by
  unfold accept
  rw [found]
  dsimp only
  rw [if_pos cancelled]

theorem accept_absent (absent : (record.live now)[cred.key]? = none) : (record.accept cred now).2 = .ok true := by
  unfold accept
  rw [absent]

theorem find_cancel (room : (record.live now).size < record.capacity) {key other : Nat × Nat × Nat}
    (found : (record.cancel key now).entries[other]? = some entry) :
    entry.cancelled = true ∨ key ≠ other ∧ (record.live now)[other]? = some entry := by
  unfold cancel at found
  split at found
  · rw [Table.find_modify] at found
    split at found
    · obtain ⟨before,-,rfl⟩ := map_eq_some_iff.mp found
      exact .inl rfl
    · next differ => exact .inr ⟨differ,found⟩
  · rw [find_enter room] at found
    split at found
    · cases found
      exact .inl rfl
    · next differ => exact .inr ⟨differ,found⟩

theorem find_of_cancel {key other : Nat × Nat × Nat}
    (found : (record.cancel key now).entries[other]? = some entry) (kept : entry.cancelled = false) :
    record.entries[other]? = some entry := by
  unfold cancel at found
  split at found
  · rw [Table.find_modify] at found
    split at found
    · obtain ⟨before,-,rfl⟩ := map_eq_some_iff.mp found
      cases kept
    · exact find_of_find_live found
  · rcases find_of_put _ found with ⟨-,rfl⟩ | before
    · cases kept
    · exact find_of_find_live before

theorem find_cancelAttempt {now jobId runAttempt : Nat}
    (found : (record.cancelAttempt jobId runAttempt now).entries[key]? = some entry) :
    entry.cancelled = true ∨ ¬(key.1 = jobId ∧ key.2.2 = runAttempt) ∧ (record.live now)[key]? = some entry := by
  unfold cancelAttempt at found
  rw [Table.find_map] at found
  obtain ⟨before,present,rfl⟩ := map_eq_some_iff.mp found
  split
  · exact .inl rfl
  · next other => exact .inr ⟨other,present⟩

theorem find_restore (room : (record.live now).size < record.capacity) {key other : Nat × Nat × Nat}
    (differ : key ≠ other) {credentialId digest : Nat} :
    (record.restore key credentialId digest now).entries[other]? = (record.live now)[other]? := by
  unfold restore
  rw [find_enter room,if_neg differ]

end LaunchAcceptance

/-- One call at the agent; a launch reaches the record when its credential passes the time check. -/
inductive LaunchCall where
  | launch (cred : ExecutionCredential)
  | cancel (key : Nat × Nat × Nat)
  | cancelAttempt (jobId runAttempt : Nat)
  | restore (key : Nat × Nat × Nat) (credentialId digest : Nat)

def LaunchCall.Cancels (key : Nat × Nat × Nat) : LaunchCall → Prop
  | .cancel named => named = key
  | .cancelAttempt jobId runAttempt => key.1 = jobId ∧ key.2.2 = runAttempt
  | .launch _ => False
  | .restore _ _ _ => False

structure LaunchDesk where
  record : LaunchAcceptance
  calls : List LaunchCall

variable {at_ : LaunchCall × Nat}

namespace LaunchDesk

def new (capacity : Nat) : LaunchDesk := ⟨.withCapacity capacity,[]⟩

variable (desk : LaunchDesk)

def launch (cred : ExecutionCredential) (now : Nat) : LaunchAcceptance × Except CredentialError Bool :=
  match cred.validateTime now clockSkewSecs with
  | .error e => (desk.record,.error e)
  | .ok () => desk.record.accept cred now

def serve (now : Nat) : LaunchCall → LaunchAcceptance
  | .launch cred => (desk.launch cred now).1
  | .cancel key => desk.record.cancel key now
  | .cancelAttempt jobId runAttempt => desk.record.cancelAttempt jobId runAttempt now
  | .restore key credentialId digest => desk.record.restore key credentialId digest now

def step (at_ : LaunchCall × Nat) : LaunchDesk := ⟨desk.serve at_.2 at_.1,at_.1 :: desk.calls⟩

def Cancelled (key : Nat × Nat × Nat) : Prop := ∃ call ∈ desk.calls, call.Cancels key

def Roomy (at_ : LaunchCall × Nat) : Prop := (desk.record.live at_.2).size < desk.record.capacity

def RestoresOpen (at_ : LaunchCall × Nat) : Prop :=
  ∀ key credentialId digest, at_.1 = .restore key credentialId digest → ¬desk.Cancelled key

def RefusesCancelled (at_ : LaunchCall × Nat) : Prop :=
  ∀ cred, at_.1 = .launch cred → desk.Cancelled cred.key → cred.validateTime at_.2 clockSkewSecs = .ok () →
    ∀ first, (desk.launch cred at_.2).2 ≠ .ok first

/-- When a cancelled step is presented within its time, the record has an entry of the step that has not run out. -/
def StillRecorded (at_ : LaunchCall × Nat) : Prop :=
  ∀ cred, at_.1 = .launch cred → desk.Cancelled cred.key → cred.validateTime at_.2 clockSkewSecs = .ok () →
    ∃ entry, desk.record.entries[cred.key]? = some entry ∧ at_.2 < entry.retainUntil

def Marked : Prop := ∀ key entry, desk.Cancelled key → desk.record.entries[key]? = some entry → entry.cancelled = true

variable {desk}

theorem launch_of_valid (valid : cred.validateTime now clockSkewSecs = .ok ()) :
    desk.launch cred now = desk.record.accept cred now := by
  unfold launch
  rw [valid]

theorem new_marked (capacity : Nat) : (new capacity).Marked := by
  rintro key entry ⟨call,absurd_,-⟩
  cases absurd_

theorem marked_of_found (marked : desk.Marked)
    (found : ∀ key entry, (desk.step at_).Cancelled key → (desk.serve at_.2 at_.1).entries[key]? = some entry →
      entry.cancelled = true ∨ ¬at_.1.Cancels key ∧ desk.record.entries[key]? = some entry) :
    (desk.step at_).Marked := by
  intro key entry cancelled present
  rcases found key entry cancelled present with done | ⟨other,before⟩
  · exact done
  obtain ⟨call,listed,cancels⟩ := cancelled
  rcases mem_cons.mp listed with rfl | earlier
  · exact absurd cancels other
  · exact marked key entry ⟨call,earlier,cancels⟩ before

theorem find_live_of_recorded (present : desk.record.entries[key]? = some entry) (kept : now < entry.retainUntil) :
    (desk.record.live now)[key]? = some entry := by
  rw [LaunchAcceptance.find_live,present]
  exact filter_eq_some_iff.mpr ⟨rfl,decide_eq_true kept⟩

private theorem found_launch (room : desk.Roomy (.launch cred,now)) (recorded : desk.StillRecorded (.launch cred,now))
    (cancelled : desk.Cancelled key) (found : (desk.launch cred now).1.entries[key]? = some entry) :
    desk.record.entries[key]? = some entry := by
  cases valid : cred.validateTime now _ with
  | error e =>
    unfold launch at found
    rw [valid] at found
    exact found
  | ok done =>
    rw [launch_of_valid valid] at found
    rw [LaunchAcceptance.find_accept room] at found
    · exact LaunchAcceptance.find_of_find_live found
    by_cases same : cred.key = key
    · subst same
      obtain ⟨kept,present,fresh⟩ := recorded cred rfl cancelled valid
      exact .inr (by rw [find_live_of_recorded present fresh]; rfl)
    · exact .inl same

theorem step_marked (marked : desk.Marked) (room : desk.Roomy at_)
    (open_ : desk.RestoresOpen at_) (recorded : desk.StillRecorded at_) : (desk.step at_).Marked := by
  obtain ⟨call,now⟩ := at_
  refine marked_of_found marked fun key entry cancelled found => ?_
  cases call with
  | launch cred =>
    obtain ⟨call,listed,cancels⟩ := cancelled
    rcases mem_cons.mp listed with rfl | earlier
    · exact cancels.elim
    · exact .inr ⟨not_false,found_launch room recorded ⟨call,earlier,cancels⟩ found⟩
  | cancel named =>
    rcases LaunchAcceptance.find_cancel room found with done | ⟨differ,present⟩
    · exact .inl done
    · exact .inr ⟨differ,LaunchAcceptance.find_of_find_live present⟩
  | cancelAttempt jobId runAttempt =>
    rcases LaunchAcceptance.find_cancelAttempt found with done | ⟨other,present⟩
    · exact .inl done
    · exact .inr ⟨other,LaunchAcceptance.find_of_find_live present⟩
  | restore named credentialId digest =>
    obtain ⟨call,listed,cancels⟩ := cancelled
    rcases mem_cons.mp listed with rfl | earlier
    · exact cancels.elim
    have differ : named ≠ key := by
      rintro rfl
      exact open_ named _ digest rfl ⟨call,earlier,cancels⟩
    have present : (desk.record.live now)[key]? = some entry := by
      rw [← LaunchAcceptance.find_restore room differ]
      exact found
    exact .inr ⟨not_false,LaunchAcceptance.find_of_find_live present⟩

theorem refuses_iff_recorded (marked : desk.Marked) : desk.RefusesCancelled at_ ↔ desk.StillRecorded at_ := by
  constructor
  · intro refuses cred call cancelled valid
    have answer := refuses cred call cancelled valid true
    rw [launch_of_valid valid] at answer
    cases present : (desk.record.live at_.2)[cred.key]? with
    | none => exact absurd (LaunchAcceptance.accept_absent present) answer
    | some entry =>
      rw [LaunchAcceptance.find_live] at present
      obtain ⟨found,fresh⟩ := filter_eq_some_iff.mp present
      exact ⟨entry,found,of_decide_eq_true fresh⟩
  · intro recorded cred call cancelled valid first answer
    obtain ⟨entry,present,fresh⟩ := recorded cred call cancelled valid
    rw [launch_of_valid valid,LaunchAcceptance.accept_refuses (find_live_of_recorded present fresh)
      (marked _ entry cancelled present)] at answer
    cases answer

end LaunchDesk

/-- Among the calls that leave room in the record and restore no cancelled step, every launch of a cancelled step
presented within its time is refused just when each finds an entry of its step that has not run out. -/
theorem cancelled_launch_refused_iff (capacity : Nat) (calls : List (LaunchCall × Nat))
    (room : Along LaunchDesk.step LaunchDesk.Roomy (.new capacity) calls)
    (open_ : Along LaunchDesk.step LaunchDesk.RestoresOpen (.new capacity) calls) :
    Along LaunchDesk.step LaunchDesk.RefusesCancelled (.new capacity) calls ↔
      Along LaunchDesk.step LaunchDesk.StillRecorded (.new capacity) calls := by
  have marked := LaunchDesk.new_marked capacity
  generalize LaunchDesk.new capacity = desk at room open_ marked
  induction calls generalizing desk with
  | nil => exact Iff.rfl
  | cons at_ rest ih =>
    have head : desk.RefusesCancelled at_ ↔ desk.StillRecorded at_ := LaunchDesk.refuses_iff_recorded marked
    constructor
    · rintro ⟨refuses,later⟩
      have recorded := head.mp refuses
      exact ⟨recorded,(ih _ room.2 open_.2 (LaunchDesk.step_marked marked room.1 open_.1 recorded)).mp later⟩
    · rintro ⟨recorded,later⟩
      exact ⟨head.mpr recorded,(ih _ room.2 open_.2 (LaunchDesk.step_marked marked room.1 open_.1 recorded)).mpr later⟩

/-- A step accepted, cancelled with its attempt and presented again while its entry is kept. -/
theorem cancelled_launch_refused_iff_presented :
    let cred : ExecutionCredential := ⟨7,0,1,11,12,0,0,100⟩
    let calls := [(.launch cred,10),(.cancelAttempt 7 1,20),(.launch cred,50)]
    Along LaunchDesk.step LaunchDesk.RefusesCancelled (.new 8) calls := by
  refine (cancelled_launch_refused_iff 8 _ ?_ ?_).mpr ?_
  · refine ⟨?_,?_,?_,True.intro⟩ <;> (unfold LaunchDesk.Roomy; decide +kernel)
  · refine ⟨?_,?_,?_,True.intro⟩ <;> (intro key credentialId digest restored; cases restored)
  refine ⟨?_,?_,?_,True.intro⟩
  · rintro cred - ⟨call,listed,-⟩
    cases listed
  · rintro cred launched
    cases launched
  · rintro cred launched - -
    cases launched
    exact ⟨⟨11,12,true,105⟩,by decide +kernel,by decide⟩

/-- Four ways to a launch of a cancelled step: the step had no entry when its attempt was cancelled, the last second
of the credential, a restore after the cancel, and a credential that outlives the mark of the cancel. -/
theorem cancelled_launch_accepted :
    let cred : ExecutionCredential := ⟨7,0,1,11,12,0,0,100⟩
    let late : ExecutionCredential := ⟨7,0,1,11,12,86410,86410,90000⟩
    let desk := fun calls : List (LaunchCall × Nat) => calls.foldl LaunchDesk.step (LaunchDesk.new 8)
    (cred.validateTime 30 clockSkewSecs,((desk [(.cancelAttempt 7 1,20)]).launch cred 30).2) = (.ok (),.ok true) ∧
      (cred.validateTime 105 clockSkewSecs,
          ((desk [(.launch cred,10),(.cancelAttempt 7 1,20)]).launch cred 105).2) = (.ok (),.ok true) ∧
      (cred.validateTime 40 clockSkewSecs,
          ((desk [(.launch cred,10),(.cancel (7,0,1),20),(.restore (7,0,1) 11 12,30)]).launch cred 40).2) =
        (.ok (),.ok false) ∧
      (late.validateTime 86426 clockSkewSecs,((desk [(.cancel (7,0,1),20)]).launch late 86426).2) =
        (.ok (),.ok true) := by
  decide +kernel

end Spur.Auth
