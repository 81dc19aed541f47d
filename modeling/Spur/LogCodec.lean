import Spur.Codec

/-! The serde encoding of log entries: one field, named by the entry's kind, that holds the entry. -/
namespace Spur
open Spur.Library Spur.Library.Record List

section

variable [Chrono]

abbrev jobSubmitRecord : Record (JobId × JobSpec) (JobId × JobSpec) :=
  Prod.mk <$> required "job_id" (·.1) <*> required "spec" (·.2)

abbrev jobStateChangeRecord : Record Wal.JobStateChange Wal.JobStateChange :=
  Wal.JobStateChange.mk <$> required "job_id" (·.jobId) <*> required "old_state" (·.oldState) <*>
    required "new_state" (·.newState) <*> nullable "pending_reason" (·.pendingReason) <*>
    nullable "pending_priority" (·.pendingPriority) <*> optionalInstant "begin_time" (·.beginTime) <*>
    nullable "pending_reason_desc" (·.pendingReasonDesc) <*>
    nullable "expected_run_attempt" (·.expectedRunAttempt) <*> optionalInstant "at" (·.at_)

abbrev jobStartRecord : Record Wal.JobStart Wal.JobStart :=
  Wal.JobStart.mk <$> required "job_id" (·.jobId) <*> required "nodes" (·.nodes) <*>
    required "resources" (·.resources) <*> defaulted "per_node_alloc" ∅ (·.perNodeAlloc) <*>
    defaulted "srun_step_dispatch" false (·.srunStepDispatch) <*> defaulted "run_attempt" 0 (·.runAttempt) <*>
    defaulted "idle_fill" false (·.idleFill) <*> optionalInstant "at" (·.at_)

abbrev jobCompleteRecord : Record Wal.JobComplete Wal.JobComplete :=
  Wal.JobComplete.mk <$> required "job_id" (·.jobId) <*> required "exit_code" (·.exitCode) <*>
    required "state" (·.state) <*> skippedEmpty "unreported_nodes" (·.unreportedNodes) <*>
    skippedNone "cancel" (·.cancel) <*> skippedFalse "controller_initiated" (·.controllerInitiated) <*>
    skippedInstant "at" (·.at_)

abbrev jobNodeCompleteRecord : Record Wal.JobNodeComplete Wal.JobNodeComplete :=
  Wal.JobNodeComplete.mk <$> required "job_id" (·.jobId) <*> required "node_name" (·.nodeName) <*>
    required "exit_code" (·.exitCode) <*> required "signal" (·.signal) <*>
    defaulted "run_attempt" 0 (·.runAttempt) <*> optionalInstant "at" (·.at_)

abbrev jobTimeLimitSignaledRecord : Record (JobId × Time) (JobId × Time) :=
  Prod.mk <$> required "job_id" (·.1) <*> instant "at" (·.2)

abbrev jobCancelSignaledRecord :
    Record (JobId × Time × Option CancelProvenance) (JobId × Time × Option CancelProvenance) :=
  (fun a b c => (a,b,c)) <$> required "job_id" (·.1) <*> instant "at" (·.2.1) <*> skippedNone "cancel" (·.2.2)

abbrev jobStepCompleteRecord : Record (JobId × StepId × Int) (JobId × StepId × Int) :=
  (fun a b c => (a,b,c)) <$> required "job_id" (·.1) <*> required "step_id" (·.2.1) <*> required "exit_code" (·.2.2)

abbrev jobPriorityChangeRecord : Record Wal.JobPriorityChange Wal.JobPriorityChange :=
  Wal.JobPriorityChange.mk <$> required "job_id" (·.jobId) <*> required "old_priority" (·.oldPriority) <*>
    required "new_priority" (·.newPriority) <*> nullable "pending_reason" (·.pendingReason) <*>
    nullable "pending_reason_desc" (·.pendingReasonDesc) <*>
    defaulted "reset_requeue_count" false (·.resetRequeueCount) <*>
    defaulted "clear_reservation" false (·.clearReservation) <*> nullable "run_attempt" (·.runAttempt)

abbrev jobExcludeUpdateRecord : Record (JobId × Option String) (JobId × Option String) :=
  Prod.mk <$> required "job_id" (·.1) <*> nullable "exclude" (·.2)

abbrev jobDispatchBackoffRecord : Record Wal.JobDispatchBackoff Wal.JobDispatchBackoff :=
  Wal.JobDispatchBackoff.mk <$> required "job_id" (·.jobId) <*> instant "begin_time" (·.beginTime) <*>
    defaulted "spare_requeue_budget" false (·.spareRequeueBudget) <*> defaulted "run_attempt" 0 (·.runAttempt) <*>
    defaulted "at_max_requeue" false (·.atMaxRequeue)

abbrev jobPreemptRequeueRecord : Record Wal.JobPreemptRequeue Wal.JobPreemptRequeue :=
  Wal.JobPreemptRequeue.mk <$> required "job_id" (·.jobId) <*> instant "begin_time" (·.beginTime) <*>
    nullable "preempted_by" (·.preemptedBy) <*> nullable "preempt_qos" (·.preemptQos) <*>
    optionalInstant "at" (·.at_) <*> nullable "run_attempt" (·.runAttempt) <*> skippedFalse "handoff" (·.handoff)

abbrev jobPreemptCancelRecord : Record Wal.JobPreemptCancel Wal.JobPreemptCancel :=
  Wal.JobPreemptCancel.mk <$> required "job_id" (·.jobId) <*> nullable "preempted_by" (·.preemptedBy) <*>
    nullable "preempt_qos" (·.preemptQos) <*> optionalInstant "at" (·.at_) <*> nullable "run_attempt" (·.runAttempt)

abbrev jobUserRequeueRecord : Record Wal.JobUserRequeue Wal.JobUserRequeue :=
  Wal.JobUserRequeue.mk <$> required "job_id" (·.jobId) <*> defaulted "hold" false (·.hold) <*>
    optionalInstant "begin_time" (·.beginTime) <*> skippedNone "by" (·.by_) <*> optionalInstant "at" (·.at_)

abbrev jobSuspendRecord : Record Wal.JobSuspend Wal.JobSuspend :=
  Wal.JobSuspend.mk <$> required "job_id" (·.jobId) <*> instant "at" (·.at_) <*>
    nullable "preempted_by" (·.preemptedBy) <*> nullable "preempt_qos" (·.preemptQos) <*> skippedNone "by" (·.by_)

abbrev jobResumeRecord : Record (JobId × Time) (JobId × Time) :=
  Prod.mk <$> required "job_id" (·.1) <*> instant "at" (·.2)

abbrev jobEvictRecord : Record (JobId × Option String × Option Time) (JobId × Option String × Option Time) :=
  (fun a b c => (a,b,c)) <$> required "job_id" (·.1) <*> nullable "detail" (·.2.1) <*> optionalInstant "at" (·.2.2)

abbrev jobLaunchFailureDetailRecord : Record (JobId × String) (JobId × String) :=
  Prod.mk <$> required "job_id" (·.1) <*> required "detail" (·.2)

abbrev nodeRegisterRecord : Record Wal.NodeRegister Wal.NodeRegister :=
  Wal.NodeRegister.mk <$> required "name" (·.name) <*> defaulted "hostname" "" (·.hostname) <*>
    required "resources" (·.resources) <*> required "address" (·.address) <*> defaulted "port" 6818 (·.port) <*>
    defaulted "wg_pubkey" "" (·.wgPubkey) <*> defaulted "version" "" (·.version) <*>
    defaulted "labels" ∅ (·.labels) <*> defaulted "source" .nativeHost (·.source) <*>
    defaulted "capabilities" [] (·.capabilities)

abbrev nodeUpdateRecord : Record Wal.NodeUpdate Wal.NodeUpdate :=
  Wal.NodeUpdate.mk <$> required "name" (·.name) <*> defaulted "hostname" "" (·.hostname) <*>
    required "resources" (·.resources) <*> required "address" (·.address) <*> required "port" (·.port) <*>
    required "wg_pubkey" (·.wgPubkey) <*> required "version" (·.version) <*>
    defaulted "source" .nativeHost (·.source) <*> defaulted "capabilities" [] (·.capabilities)

abbrev nodeStateChangeRecord : Record Wal.NodeStateChange Wal.NodeStateChange :=
  Wal.NodeStateChange.mk <$> required "name" (·.name) <*> required "old_state" (·.oldState) <*>
    required "new_state" (·.newState) <*> nullable "reason" (·.reason) <*>
    defaulted "admin_locked" false (·.adminLocked) <*> nullable "reason_uid" (·.reasonUid) <*>
    optionalInstant "reason_time" (·.reasonTime) <*> optionalInstant "at" (·.at_)

abbrev nodeLabelsUpdateRecord :
    Record (String × Table String String × List String) (String × Table String String × List String) :=
  (fun a b c => (a,b,c)) <$> required "name" (·.1) <*> required "set" (·.2.1) <*> required "remove" (·.2.2)

abbrev nodeRemoveRecord : Record (String × Option String × Option Time) (String × Option String × Option Time) :=
  (fun a b c => (a,b,c)) <$> required "name" (·.1) <*> nullable "reason" (·.2.1) <*> optionalInstant "at" (·.2.2)

/-- A nested optional field is written and read as one level of null, all but the last one. -/
abbrev partitionPatchRecord : Record (String × PartitionPatch) PartitionPatch :=
  PartitionPatch.mk <$> nullable "nodes" (·.2.nodes) <*> nullable "selector" (·.2.selector) <*>
    nullable "state" (·.2.state) <*> nullable "max_time_minutes" (·.2.maxTimeMinutes) <*>
    nullable "default_time_minutes" (·.2.defaultTimeMinutes) <*> nullable "max_nodes" (·.2.maxNodes) <*>
    nullable "min_nodes" (·.2.minNodes) <*> nullable "allow_accounts" (·.2.allowAccounts) <*>
    nullable "allow_groups" (·.2.allowGroups) <*> nullable "deny_accounts" (·.2.denyAccounts) <*>
    nullable "deny_qos" (·.2.denyQos) <*> nullable "allow_qos" (·.2.allowQos) <*>
    nullable "priority_tier" (·.2.priorityTier) <*> nullable "preempt_mode" (·.2.preemptMode) <*>
    nullable "is_default" (·.2.isDefault) <*> nullable "preempt_exempt_time" (·.2.preemptExemptTime) <*>
    clearOrSet "grace_time" (·.2.graceTime)

abbrev partitionUpdateRecord : Record (String × PartitionPatch) (String × PartitionPatch) :=
  Prod.mk <$> required "name" (·.1) <*> partitionPatchRecord

abbrev reservationUpdateRecord : Record Wal.ReservationUpdate Wal.ReservationUpdate :=
  Wal.ReservationUpdate.mk <$> required "name" (·.name) <*> required "duration_minutes" (·.durationMinutes) <*>
    required "add_nodes" (·.addNodes) <*> required "remove_nodes" (·.removeNodes) <*>
    required "add_users" (·.addUsers) <*> required "remove_users" (·.removeUsers) <*>
    required "add_accounts" (·.addAccounts) <*> required "remove_accounts" (·.removeAccounts)

abbrev nodeK0sAssignRecord : Record Wal.NodeK0sAssign Wal.NodeK0sAssign :=
  Wal.NodeK0sAssign.mk <$> required "name" (·.name) <*> required "role" (·.role) <*>
    required "mesh_ip" (·.meshIp) <*> required "pod_cidr" (·.podCidr)

abbrev k0sSetPhaseRecord : Record Wal.K0sSetPhase Wal.K0sSetPhase :=
  Wal.K0sSetPhase.mk <$> required "phase" (·.phase) <*> nullable "control_plane_node" (·.controlPlaneNode) <*>
    defaulted "control_plane_nodes" [] (·.controlPlaneNodes) <*> defaulted "member_nodes" [] (·.memberNodes) <*>
    defaulted "reset_requested" false (·.resetRequested)

abbrev nodeK0sSetErrorRecord : Record (String × Option String) (String × Option String) :=
  Prod.mk <$> required "name" (·.1) <*> nullable "error" (·.2)

abbrev jobTimeLimitExpiredRecord : Record (JobId × Nat × Time) (JobId × Nat × Time) :=
  (fun a b c => (a,b,c)) <$> required "job_id" (·.1) <*> required "run_attempt" (·.2.1) <*> instant "at" (·.2.2)

abbrev jobPreemptSignaledRecord : Record (JobId × PreemptPending) (JobId × PreemptPending) :=
  Prod.mk <$> required "job_id" (·.1) <*> required "pending" (·.2)

def jobChoices : List (Choice WalOperation) :=
  [.record "JobSubmit" jobSubmitRecord (fun | .jobSubmit a b => some (a,b) | _ => none) (fun p => .jobSubmit p.1 p.2),
    .record "JobStateChange" jobStateChangeRecord
      (fun | .jobStateChange entry => some entry | _ => none) .jobStateChange,
    .record "JobStart" jobStartRecord (fun | .jobStart entry => some entry | _ => none) .jobStart,
    .record "JobComplete" jobCompleteRecord (fun | .jobComplete entry => some entry | _ => none) .jobComplete,
    .record "JobNodeComplete" jobNodeCompleteRecord
      (fun | .jobNodeComplete entry => some entry | _ => none) .jobNodeComplete,
    .record "JobTimeLimitSignaled" jobTimeLimitSignaledRecord
      (fun | .jobTimeLimitSignaled a b => some (a,b) | _ => none) (fun p => .jobTimeLimitSignaled p.1 p.2),
    .record "JobCancelSignaled" jobCancelSignaledRecord
      (fun | .jobCancelSignaled a b c => some (a,b,c) | _ => none) (fun p => .jobCancelSignaled p.1 p.2.1 p.2.2),
    .record "JobStepComplete" jobStepCompleteRecord
      (fun | .jobStepComplete a b c => some (a,b,c) | _ => none) (fun p => .jobStepComplete p.1 p.2.1 p.2.2),
    .record "JobStepCreate" (required "step" fun (r : JobStep) => r)
      (fun | .jobStepCreate p => some p | _ => none) .jobStepCreate,
    .record "JobPriorityChange" jobPriorityChangeRecord
      (fun | .jobPriorityChange entry => some entry | _ => none) .jobPriorityChange,
    .record "JobExcludeUpdate" jobExcludeUpdateRecord
      (fun | .jobExcludeUpdate a b => some (a,b) | _ => none) (fun p => .jobExcludeUpdate p.1 p.2),
    .record "JobDispatchBackoff" jobDispatchBackoffRecord
      (fun | .jobDispatchBackoff entry => some entry | _ => none) .jobDispatchBackoff,
    .record "JobPreemptRequeue" jobPreemptRequeueRecord
      (fun | .jobPreemptRequeue entry => some entry | _ => none) .jobPreemptRequeue,
    .record "JobPreemptCancel" jobPreemptCancelRecord
      (fun | .jobPreemptCancel entry => some entry | _ => none) .jobPreemptCancel,
    .record "JobUserRequeue" jobUserRequeueRecord
      (fun | .jobUserRequeue entry => some entry | _ => none) .jobUserRequeue,
    .record "JobSuspend" jobSuspendRecord (fun | .jobSuspend entry => some entry | _ => none) .jobSuspend,
    .record "JobResume" jobResumeRecord
      (fun | .jobResume a b => some (a,b) | _ => none) (fun p => .jobResume p.1 p.2),
    .record "JobEvict" jobEvictRecord
      (fun | .jobEvict a b c => some (a,b,c) | _ => none) (fun p => .jobEvict p.1 p.2.1 p.2.2),
    .record "JobLaunchFailureDetail" jobLaunchFailureDetailRecord
      (fun | .jobLaunchFailureDetail a b => some (a,b) | _ => none) (fun p => .jobLaunchFailureDetail p.1 p.2),
    .record "EvictTerminalJobs" (required "job_ids" fun (r : List JobId) => r)
      (fun | .evictTerminalJobs p => some p | _ => none) .evictTerminalJobs,
    .record "JobTimeLimitExpired" jobTimeLimitExpiredRecord
      (fun | .jobTimeLimitExpired a b c => some (a,b,c) | _ => none) (fun p => .jobTimeLimitExpired p.1 p.2.1 p.2.2),
    .record "JobPreemptSignaled" jobPreemptSignaledRecord
      (fun | .jobPreemptSignaled a b => some (a,b) | _ => none) (fun p => .jobPreemptSignaled p.1 p.2)]

/-- The entries about nodes, partitions, reservations, tokens and the k0s cluster. -/
def clusterChoices : List (Choice WalOperation) :=
  [.record "NodeRegister" nodeRegisterRecord (fun | .nodeRegister entry => some entry | _ => none) .nodeRegister,
    .record "NodeUpdate" nodeUpdateRecord (fun | .nodeUpdate entry => some entry | _ => none) .nodeUpdate,
    .record "NodeStateChange" nodeStateChangeRecord
      (fun | .nodeStateChange entry => some entry | _ => none) .nodeStateChange,
    .record "NodeLabelsUpdate" nodeLabelsUpdateRecord
      (fun | .nodeLabelsUpdate a b c => some (a,b,c) | _ => none) (fun p => .nodeLabelsUpdate p.1 p.2.1 p.2.2),
    .record "NodeRemove" nodeRemoveRecord
      (fun | .nodeRemove a b c => some (a,b,c) | _ => none) (fun p => .nodeRemove p.1 p.2.1 p.2.2),
    .record "TokenCreate" (required "token" fun (r : AdmissionToken) => r)
      (fun | .tokenCreate p => some p | _ => none) .tokenCreate,
    .record "TokenRevoke" (required "token_id" fun (r : String) => r)
      (fun | .tokenRevoke p => some p | _ => none) .tokenRevoke,
    .record "PartitionCreate" (required "partition" fun (r : Partition) => r)
      (fun | .partitionCreate p => some p | _ => none) .partitionCreate,
    .record "PartitionUpdate" partitionUpdateRecord
      (fun | .partitionUpdate a b => some (a,b) | _ => none) (fun p => .partitionUpdate p.1 p.2),
    .record "PartitionDelete" (required "name" fun (r : String) => r)
      (fun | .partitionDelete p => some p | _ => none) .partitionDelete,
    .record "ReservationCreate" (required "reservation" fun (r : Reservation) => r)
      (fun | .reservationCreate p => some p | _ => none) .reservationCreate,
    .record "ReservationUpdate" reservationUpdateRecord
      (fun | .reservationUpdate entry => some entry | _ => none) .reservationUpdate,
    .record "ReservationDelete" (required "name" fun (r : String) => r)
      (fun | .reservationDelete p => some p | _ => none) .reservationDelete,
    .record "NodeK0sAssign" nodeK0sAssignRecord (fun | .nodeK0sAssign entry => some entry | _ => none) .nodeK0sAssign,
    .record "K0sSetPhase" k0sSetPhaseRecord (fun | .k0sSetPhase entry => some entry | _ => none) .k0sSetPhase,
    .record "NodeK0sClear" (required "name" fun (r : String) => r)
      (fun | .nodeK0sClear p => some p | _ => none) .nodeK0sClear,
    .record "NodeK0sSetError" nodeK0sSetErrorRecord
      (fun | .nodeK0sSetError a b => some (a,b) | _ => none) (fun p => .nodeK0sSetError p.1 p.2),
    .record "K0sMemberNodesAdd" (required "nodes" fun (r : List String) => r)
      (fun | .k0sMemberNodesAdd p => some p | _ => none) .k0sMemberNodesAdd,
    .record "K0sMemberNodesRemove" (required "nodes" fun (r : List String) => r)
      (fun | .k0sMemberNodesRemove p => some p | _ => none) .k0sMemberNodesRemove]

private theorem distinct_tags : ((jobChoices ++ clusterChoices).map Choice.tag).Nodup := by
  simp only [jobChoices,clusterChoices,cons_append,nil_append,map_cons,Choice.tag_record]
  decide +kernel

instance : Coded WalOperation :=
  Choice.coded (jobChoices ++ clusterChoices) distinct_tags fun op => by cases op <;> rfl

def WalOperation.toJson (op : WalOperation) : Json := Coded.encode op

def WalOperation.ofJson (j : Json) : Option WalOperation := Coded.decode j

end

/-- What is read back of a patch: a nested optional field that clears reads as absent. -/
def PartitionPatch.readBack (patch : PartitionPatch) : PartitionPatch :=
  { patch with
    maxTimeMinutes := patch.maxTimeMinutes.join.map some
    defaultTimeMinutes := patch.defaultTimeMinutes.join.map some
    maxNodes := patch.maxNodes.join.map some
    preemptExemptTime := patch.preemptExemptTime.join.map some }

def WalOperation.readBack : WalOperation → WalOperation
  | .partitionUpdate name patch => .partitionUpdate name patch.readBack
  | op => op

private instance {ρ : Type} (name : String) (get : ρ → Option (Option Nat)) :
    Reads (nullable name get) fun r => (get r).join.map some := by
  constructor
  intro r
  change Coded.readBack (get r) = _
  rcases get r with _ | _ | n <;> rfl

private theorem kept {P : Type} (payload : Record P P) [Reads payload fun r => r] (inject : P → WalOperation)
    (p : P) : inject (payload.value p) = inject p :=
  congrArg inject (Reads.same (x := payload) p)

private theorem kept₂ {P Q : Type} {payload : Record (P × Q) (P × Q)} [Reads payload fun r => r]
    {inject : P → Q → WalOperation} {p : P} {q : Q} :
    inject (payload.value (p,q)).1 (payload.value (p,q)).2 = inject p q :=
  congrArg (fun r => inject r.1 r.2) (Reads.same (x := payload) (p,q))

private theorem kept₃ {P Q R : Type} {payload : Record (P × Q × R) (P × Q × R)} [Reads payload fun r => r]
    {inject : P → Q → R → WalOperation} {p : P} {q : Q} {r : R} :
    inject (payload.value (p,q,r)).1 (payload.value (p,q,r)).2.1 (payload.value (p,q,r)).2.2 = inject p q r :=
  congrArg (fun r => inject r.1 r.2.1 r.2.2) (Reads.same (x := payload) _)

theorem ofJson_toJson [Chrono] (op : WalOperation) : WalOperation.ofJson op.toJson = some op.readBack := by
  unfold WalOperation.ofJson WalOperation.toJson
  rw [Coded.law]
  refine congrArg some ?_
  cases op with
  | partitionUpdate name patch =>
    exact congrArg (fun p => WalOperation.partitionUpdate p.1 p.2) (Reads.same (x := partitionUpdateRecord) _)
  | jobSubmit | jobTimeLimitSignaled | jobExcludeUpdate | jobResume | jobLaunchFailureDetail | nodeK0sSetError
  | jobPreemptSignaled => exact kept₂
  | jobCancelSignaled | jobStepComplete | jobEvict | nodeLabelsUpdate | nodeRemove | jobTimeLimitExpired =>
    exact kept₃
  | jobStateChange | jobStart | jobComplete | jobNodeComplete | jobStepCreate | jobPriorityChange
  | jobDispatchBackoff | jobPreemptRequeue | jobPreemptCancel | jobUserRequeue | jobSuspend | nodeRegister
  | nodeUpdate | nodeStateChange | tokenCreate | tokenRevoke | partitionCreate | partitionDelete
  | reservationCreate | reservationUpdate | reservationDelete | nodeK0sAssign | k0sSetPhase | nodeK0sClear
  | evictTerminalJobs | k0sMemberNodesAdd | k0sMemberNodesRemove => exact kept _ _ _

end Spur
