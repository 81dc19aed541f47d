import Spur.Library.Record
import Spur.Wal

/-! The serde encoding of what log entries carry, as the derive attributes give it. -/
namespace Spur
open Spur.Library Spur.Library.Record

/-- How the time library writes instants and durations: it reads back what it wrote. -/
class Chrono where
  instant : Time → String
  readInstant : String → Option Time
  instant_law : ∀ t, readInstant (instant t) = some t
  duration : Duration → List Json
  readDuration : List Json → Option Duration
  duration_law : ∀ d, readDuration (duration d) = some d

structure Instant where
  time : Time

structure Span where
  length : Duration

private theorem map_wrapped {α β : Type} {wrap : α → β} {unwrap : β → α} (inverse : ∀ a, unwrap (wrap a) = a)
    {o : Option α} : (o.map wrap).map unwrap = o := by
  cases o with
  | none => rfl
  | some a => simp [inverse]

private theorem isNone_sound {α : Type} (o : Option α) (absent : o.isNone = true) : o = none :=
  Option.isNone_iff_eq_none.mp absent

section

variable [Chrono] {ρ : Type} (name : String)

instance : Coded Instant where
  encode t := .str (Chrono.instant t.time)
  decode
    | .str s => (Chrono.readInstant s).map Instant.mk
    | _ => none
  readBack := id
  law := fun t => by
    dsimp only
    rw [Chrono.instant_law]
    rfl

instance : Coded.Exact Instant := ⟨fun _ => rfl⟩

instance : Coded.NeverNull Instant := ⟨fun _ => rfl⟩

instance : Coded Span where
  encode d := .arr (Chrono.duration d.length)
  decode
    | .arr items => (Chrono.readDuration items).map Span.mk
    | _ => none
  readBack := id
  law := fun d => by
    dsimp only
    rw [Chrono.duration_law]
    rfl

instance : Coded.Exact Span := ⟨fun _ => rfl⟩

instance : Coded.NeverNull Span := ⟨fun _ => rfl⟩

def instant (get : ρ → Time) : Record ρ Time := Instant.time <$> required name fun r => ⟨get r⟩

def optionalInstant (get : ρ → Option Time) : Record ρ (Option Time) :=
  Option.map Instant.time <$> nullable name fun r => (get r).map Instant.mk

def skippedInstant (get : ρ → Option Time) : Record ρ (Option Time) :=
  Option.map Instant.time <$> skipped name none Option.isNone fun r => (get r).map Instant.mk

def optionalSpan (get : ρ → Option Duration) : Record ρ (Option Duration) :=
  Option.map Span.length <$> nullable name fun r => (get r).map Span.mk

instance (get : ρ → Time) : Reads (instant name get) get := ⟨fun _ => rfl⟩

instance (get : ρ → Option Time) : Reads (optionalInstant name get) get := by
  constructor
  intro r
  have read : Reads (nullable name fun r => (get r).map Instant.mk) _ := inferInstance
  exact (congrArg (Option.map Instant.time) (read.same r)).trans (map_wrapped (fun _ => rfl))

instance (get : ρ → Option Time) : Reads (skippedInstant name get) get := by
  constructor
  intro r
  have read := reads_skipped name isNone_sound fun r => (get r).map Instant.mk
  exact (congrArg (Option.map Instant.time) (read.same r)).trans (map_wrapped (fun _ => rfl))

instance (get : ρ → Option Duration) : Reads (optionalSpan name get) get := by
  constructor
  intro r
  have read : Reads (nullable name fun r => (get r).map Span.mk) _ := inferInstance
  exact (congrArg (Option.map Span.length) (read.same r)).trans (map_wrapped (fun _ => rfl))

instance (get : ρ → Time) : Named (instant name get) [name] := ⟨rfl⟩

instance (get : ρ → Option Time) : Named (optionalInstant name get) [name] := ⟨rfl⟩

instance (get : ρ → Option Time) : Named (skippedInstant name get) [name] := ⟨rfl⟩

instance (get : ρ → Option Duration) : Named (optionalSpan name get) [name] := ⟨rfl⟩

end

section

variable {ρ : Type} (name : String)

def skippedNone {α : Type} [Coded α] (get : ρ → Option α) : Record ρ (Option α) := skipped name none Option.isNone get

def skippedEmpty {α : Type} [Coded α] (get : ρ → List α) : Record ρ (List α) := skipped name [] List.isEmpty get

def skippedFalse (get : ρ → Bool) : Record ρ Bool := skipped name false (!·) get

instance {α : Type} [Coded α] (get : ρ → Option α) : Named (skippedNone name get) [name] := ⟨rfl⟩

instance {α : Type} [Coded α] (get : ρ → List α) : Named (skippedEmpty name get) [name] := ⟨rfl⟩

instance (get : ρ → Bool) : Named (skippedFalse name get) [name] := ⟨rfl⟩

instance {α : Type} [Coded α] [Coded.Exact α] [Coded.NeverNull α] (get : ρ → Option α) :
    Reads (skippedNone name get) get :=
  reads_skipped name isNone_sound get

instance {α : Type} [Coded α] [Coded.Exact α] (get : ρ → List α) : Reads (skippedEmpty name get) get :=
  reads_skipped name (fun _ empty => List.isEmpty_iff.mp empty) get

instance (get : ρ → Bool) : Reads (skippedFalse name get) get :=
  reads_skipped name (fun b unset => by simpa using unset) get

end

instance : Coded JobState :=
  Coded.names (fun
    | .pending => "PENDING" | .running => "RUNNING" | .completing => "COMPLETING" | .completed => "COMPLETED"
    | .failed => "FAILED" | .cancelled => "CANCELLED" | .timeout => "TIMEOUT" | .nodeFail => "NODE_FAIL"
    | .preempted => "PREEMPTED" | .suspended => "SUSPENDED" | .deadline => "DEADLINE"
    | .outOfMemory => "OUT_OF_MEMORY" | .requeued => "REQUEUED")
    [.pending,.running,.completing,.completed,.failed,.cancelled,.timeout,.nodeFail,.preempted,.suspended,
      .deadline,.outOfMemory,.requeued]

instance : Coded.Exact JobState := ⟨fun _ => rfl⟩

instance : Coded PendingReason :=
  Coded.names (fun
    | .none => "None" | .priority => "Priority" | .resources => "Resources" | .partitionDown => "PartitionDown"
    | .partitionNodeLimit => "PartitionNodeLimit" | .partitionTimeLimit => "PartitionTimeLimit"
    | .dependency => "Dependency" | .nodeDown => "NodeDown" | .held => "Held"
    | .qoSMaxJobsPerUser => "QoSMaxJobsPerUser" | .reqNodeNotAvail => "ReqNodeNotAvail"
    | .beginTime => "BeginTime" | .deadLine => "DeadLine" | .timeLimit => "TimeLimit" | .licenses => "Licenses"
    | .jobArrayTaskLimit => "JobArrayTaskLimit" | .nonZeroExitCode => "NonZeroExitCode"
    | .raisedSignal => "RaisedSignal" | .jobLaunchFailure => "JobLaunchFailure" | .jobHeldAdmin => "JobHeldAdmin"
    | .badConstraints => "BadConstraints" | .partitionInactive => "PartitionInactive"
    | .partitionConfig => "PartitionConfig" | .dependencyNeverSatisfied => "DependencyNeverSatisfied"
    | .invalidAccount => "InvalidAccount" | .invalidQOS => "InvalidQOS" | .bootFail => "BootFail"
    | .outOfMemory => "OutOfMemory" | .reservation => "Reservation"
    | .qosMaxCpuPerJobLimit => "QosMaxCpuPerJobLimit"
    | .qosMaxWallDurationPerJobLimit => "QosMaxWallDurationPerJobLimit"
    | .qosMaxMemoryPerJob => "QosMaxMemoryPerJob" | .qosMaxCpuPerUserLimit => "QosMaxCpuPerUserLimit"
    | .qosMaxNodePerUserLimit => "QosMaxNodePerUserLimit" | .qosMaxMemoryPerUser => "QosMaxMemoryPerUser"
    | .qosMaxSubmitJobPerUserLimit => "QosMaxSubmitJobPerUserLimit"
    | .qosMaxNodePerJobLimit => "QosMaxNodePerJobLimit" | .qosMaxGpuPerJobLimit => "QosMaxGpuPerJobLimit"
    | .qosMaxGpuPerUserLimit => "QosMaxGpuPerUserLimit" | .qosGrpCpuLimit => "QosGrpCpuLimit"
    | .qosGrpMemLimit => "QosGrpMemLimit" | .qosGrpNodeLimit => "QosGrpNodeLimit"
    | .qosGrpGpuLimit => "QosGrpGpuLimit" | .qosGrpWallLimit => "QosGrpWallLimit"
    | .burstBufferResources => "BurstBufferResources" | .burstBufferStageIn => "BurstBufferStageIn"
    | .reservedMaintenance => "ReservedMaintenance" | .reservationDeleted => "ReservationDeleted"
    | .jobHoldMaxRequeue => "JobHoldMaxRequeue" | .assocMaxJobsLimit => "AssocMaxJobsLimit"
    | .assocMaxSubmitJobLimit => "AssocMaxSubmitJobLimit" | .assocMaxCpuPerJobLimit => "AssocMaxCpuPerJobLimit"
    | .assocMaxNodePerJobLimit => "AssocMaxNodePerJobLimit" | .assocMaxMemPerJob => "AssocMaxMemPerJob"
    | .assocMaxGpuPerJobLimit => "AssocMaxGpuPerJobLimit" | .assocGrpCpuLimit => "AssocGrpCpuLimit"
    | .assocGrpNodeLimit => "AssocGrpNodeLimit" | .assocGrpMemLimit => "AssocGrpMemLimit"
    | .assocGrpGpuLimit => "AssocGrpGpuLimit"
    | .assocMaxWallDurationPerJobLimit => "AssocMaxWallDurationPerJobLimit"
    | .assocGrpSubmitJobsLimit => "AssocGrpSubmitJobsLimit" | .qosGrpSubmitJobsLimit => "QosGrpSubmitJobsLimit"
    | .qosMaxSubmitJobPerAccountLimit => "QosMaxSubmitJobPerAccountLimit" | .k8sReserved => "K8sReserved"
    | .preempted => "Preempted" | .accountingUnavailable => "AccountingUnavailable"
    | .nodeConfigUnavailable => "NodeConfigUnavailable")
    [.none,.priority,.resources,.partitionDown,.partitionNodeLimit,.partitionTimeLimit,.dependency,.nodeDown,.held,
      .qoSMaxJobsPerUser,.reqNodeNotAvail,.beginTime,.deadLine,.timeLimit,.licenses,.jobArrayTaskLimit,
      .nonZeroExitCode,.raisedSignal,.jobLaunchFailure,.jobHeldAdmin,.badConstraints,.partitionInactive,
      .partitionConfig,.dependencyNeverSatisfied,.invalidAccount,.invalidQOS,.bootFail,.outOfMemory,.reservation,
      .qosMaxCpuPerJobLimit,.qosMaxWallDurationPerJobLimit,.qosMaxMemoryPerJob,.qosMaxCpuPerUserLimit,
      .qosMaxNodePerUserLimit,.qosMaxMemoryPerUser,.qosMaxSubmitJobPerUserLimit,.qosMaxNodePerJobLimit,
      .qosMaxGpuPerJobLimit,.qosMaxGpuPerUserLimit,.qosGrpCpuLimit,.qosGrpMemLimit,.qosGrpNodeLimit,
      .qosGrpGpuLimit,.qosGrpWallLimit,.burstBufferResources,.burstBufferStageIn,.reservedMaintenance,
      .reservationDeleted,.jobHoldMaxRequeue,.assocMaxJobsLimit,.assocMaxSubmitJobLimit,.assocMaxCpuPerJobLimit,
      .assocMaxNodePerJobLimit,.assocMaxMemPerJob,.assocMaxGpuPerJobLimit,.assocGrpCpuLimit,.assocGrpNodeLimit,
      .assocGrpMemLimit,.assocGrpGpuLimit,.assocMaxWallDurationPerJobLimit,.assocGrpSubmitJobsLimit,
      .qosGrpSubmitJobsLimit,.qosMaxSubmitJobPerAccountLimit,.k8sReserved,.preempted,.accountingUnavailable,
      .nodeConfigUnavailable]

instance : Coded.Exact PendingReason := ⟨fun _ => rfl⟩

instance : Coded.NeverNull PendingReason := ⟨fun _ => rfl⟩

instance : Coded PreemptMode :=
  Coded.names (fun
    | .off => "Off" | .cancel => "Cancel" | .requeue => "Requeue" | .suspend => "Suspend")
    [.off,.cancel,.requeue,.suspend]

instance : Coded.Exact PreemptMode := ⟨fun _ => rfl⟩

instance : Coded.NeverNull PreemptMode := ⟨fun _ => rfl⟩

instance : Coded StepState :=
  Coded.names (fun
    | .pending => "Pending" | .running => "Running" | .completed => "Completed" | .failed => "Failed"
    | .cancelled => "Cancelled")
    [.pending,.running,.completed,.failed,.cancelled]

instance : Coded.Exact StepState := ⟨fun _ => rfl⟩

instance : Coded TaskDistribution :=
  Coded.names (fun
    | .block => "Block" | .cyclic => "Cyclic" | .plane => "Plane" | .arbitrary => "Arbitrary")
    [.block,.cyclic,.plane,.arbitrary]

instance : Coded.Exact TaskDistribution := ⟨fun _ => rfl⟩

instance : Coded PartitionState :=
  Coded.names (fun
    | .up => "Up" | .down => "Down" | .drain => "Drain" | .inactive => "Inactive")
    [.up,.down,.drain,.inactive]

instance : Coded.Exact PartitionState := ⟨fun _ => rfl⟩

instance : Coded NodeState :=
  Coded.names (fun
    | .idle => "IDLE" | .allocated => "ALLOCATED" | .mixed => "MIXED" | .down => "DOWN" | .drain => "DRAIN"
    | .draining => "DRAINING" | .error => "ERROR" | .unknown => "UNKNOWN" | .suspended => "SUSPENDED")
    [.idle,.allocated,.mixed,.down,.drain,.draining,.error,.unknown,.suspended]

instance : Coded.Exact NodeState := ⟨fun _ => rfl⟩

instance : Coded K0sRole :=
  Coded.names (fun
    | .controller => "controller" | .worker => "worker" | .single => "single")
    [.controller,.worker,.single]

instance : Coded.Exact K0sRole := ⟨fun _ => rfl⟩

instance : Coded K0sPhase :=
  Coded.names (fun
    | .down => "down" | .provisioning => "provisioning" | .ready => "ready" | .degraded => "degraded")
    [.down,.provisioning,.ready,.degraded]

instance : Coded.Exact K0sPhase := ⟨fun _ => rfl⟩

instance : Coded GpuLinkType :=
  Coded.names (fun
    | .pcie => "PCIe" | .xgmi => "XGMI" | .nvlink => "NVLink")
    [.pcie,.xgmi,.nvlink]

instance : Coded.Exact GpuLinkType := ⟨fun _ => rfl⟩

instance : Coded ObservationStatus :=
  Coded.names (fun
    | .unknown => "unknown" | .consistent => "observed" | .incomplete => "incomplete"
    | .inconsistent => "inconsistent" | .unavailable => "unavailable")
    [.unknown,.consistent,.incomplete,.inconsistent,.unavailable]

instance : Coded.Exact ObservationStatus := ⟨fun _ => rfl⟩

instance : Coded ObservationIssueKind :=
  Coded.names (fun
    | .unknown => "unknown" | .missing => "missing" | .unreadable => "unreadable" | .malformed => "malformed"
    | .tooLarge => "too_large" | .conflict => "conflict" | .changed => "changed" | .unavailable => "unavailable"
    | .peerConflict => "peer_conflict")
    [.unknown,.missing,.unreadable,.malformed,.tooLarge,.conflict,.changed,.unavailable,.peerConflict]

instance : Coded.Exact ObservationIssueKind := ⟨fun _ => rfl⟩

abbrev gpuRequestRecord : Record GpuRequest GpuRequest :=
  GpuRequest.mk <$> required "count" (·.count) <*> nullable "gpu_type" (·.gpuType)

instance : Coded GpuRequest := gpuRequestRecord.coded

instance : Coded.Exact GpuRequest := ⟨Reads.same (x := gpuRequestRecord)⟩

instance : Coded.NeverNull GpuRequest := ⟨fun _ => rfl⟩

private abbrev jobSpecIdentity : Record JobSpec (JobSpec → JobSpec) :=
  (fun name partition account user uid gid spec =>
    { spec with name, partition, account, user, uid, gid }) <$>
    required "name" (·.name) <*> nullable "partition" (·.partition) <*> nullable "account" (·.account) <*>
      required "user" (·.user) <*> required "uid" (·.uid) <*> required "gid" (·.gid)

private abbrev jobSpecResources : Record JobSpec (JobSpec → JobSpec) :=
  (fun numNodes numTasks tasksPerNode cpusPerTask memoryPerNodeMb memoryPerCpuMb gres gpus gpusPerNode gpusPerTask spec =>
    { spec with numNodes, numTasks, tasksPerNode, cpusPerTask, memoryPerNodeMb, memoryPerCpuMb, gres, gpus,
                gpusPerNode, gpusPerTask }) <$>
    required "num_nodes" (·.numNodes) <*> required "num_tasks" (·.numTasks) <*>
      nullable "tasks_per_node" (·.tasksPerNode) <*> required "cpus_per_task" (·.cpusPerTask) <*>
      nullable "memory_per_node_mb" (·.memoryPerNodeMb) <*> nullable "memory_per_cpu_mb" (·.memoryPerCpuMb) <*>
      required "gres" (·.gres) <*> nullable "gpus" (·.gpus) <*> nullable "gpus_per_node" (·.gpusPerNode) <*>
      nullable "gpus_per_task" (·.gpusPerTask)

private abbrev jobSpecExecution : Record JobSpec (JobSpec → JobSpec) :=
  (fun script argv scriptArgs workDir stdoutPath stderrPath stdinPath environment spec =>
    { spec with script, argv, scriptArgs, workDir, stdoutPath, stderrPath, stdinPath, environment }) <$>
    nullable "script" (·.script) <*> required "argv" (·.argv) <*> defaulted "script_args" [] (·.scriptArgs) <*>
      required "work_dir" (·.workDir) <*> nullable "stdout_path" (·.stdoutPath) <*>
      nullable "stderr_path" (·.stderrPath) <*> nullable "stdin_path" (·.stdinPath) <*>
      required "environment" (·.environment)

private abbrev jobSpecScheduling [Chrono] : Record JobSpec (JobSpec → JobSpec) :=
  (fun timeLimit timeMin qos priority reservation dependency nodelist exclude constraint spec =>
    { spec with timeLimit, timeMin, qos, priority, reservation, dependency, nodelist, exclude, constraint }) <$>
    optionalSpan "time_limit" (·.timeLimit) <*> optionalSpan "time_min" (·.timeMin) <*> nullable "qos" (·.qos) <*>
      nullable "priority" (·.priority) <*> nullable "reservation" (·.reservation) <*>
      required "dependency" (·.dependency) <*> nullable "nodelist" (·.nodelist) <*>
      nullable "exclude" (·.exclude) <*> nullable "constraint" (·.constraint)

private abbrev jobSpecGrouping : Record JobSpec (JobSpec → JobSpec) :=
  (fun mpi distribution hetGroup arraySpec arrayJobId arrayTaskId arrayMaxConcurrent spec =>
    { spec with mpi, distribution, hetGroup, arraySpec, arrayJobId, arrayTaskId, arrayMaxConcurrent }) <$>
    nullable "mpi" (·.mpi) <*> nullable "distribution" (·.distribution) <*> nullable "het_group" (·.hetGroup) <*>
      nullable "array_spec" (·.arraySpec) <*> nullable "array_job_id" (·.arrayJobId) <*>
      nullable "array_task_id" (·.arrayTaskId) <*> nullable "array_max_concurrent" (·.arrayMaxConcurrent)

private abbrev jobSpecFlags : Record JobSpec (JobSpec → JobSpec) :=
  (fun requeue exclusive hold interactive srunJob mailType mailUser comment wckey spec =>
    { spec with requeue, exclusive, hold, interactive, srunJob, mailType, mailUser, comment, wckey }) <$>
    required "requeue" (·.requeue) <*> required "exclusive" (·.exclusive) <*> required "hold" (·.hold) <*>
      required "interactive" (·.interactive) <*> defaulted "srun_job" false (·.srunJob) <*>
      required "mail_type" (·.mailType) <*> nullable "mail_user" (·.mailUser) <*>
      nullable "comment" (·.comment) <*> nullable "wckey" (·.wckey)

private abbrev jobSpecContainer : Record JobSpec (JobSpec → JobSpec) :=
  (fun containerImage containerMounts containerWorkdir containerName containerReadonly containerMountHome
    containerEnv containerEntrypoint containerRemapRoot spec =>
    { spec with containerImage, containerMounts, containerWorkdir, containerName, containerReadonly,
                containerMountHome, containerEnv, containerEntrypoint, containerRemapRoot }) <$>
    nullable "container_image" (·.containerImage) <*> required "container_mounts" (·.containerMounts) <*>
      nullable "container_workdir" (·.containerWorkdir) <*> nullable "container_name" (·.containerName) <*>
      required "container_readonly" (·.containerReadonly) <*>
      required "container_mount_home" (·.containerMountHome) <*> required "container_env" (·.containerEnv) <*>
      nullable "container_entrypoint" (·.containerEntrypoint) <*>
      required "container_remap_root" (·.containerRemapRoot)

private abbrev jobSpecDeferral [Chrono] : Record JobSpec (JobSpec → JobSpec) :=
  (fun burstBuffer beginTime deadline spreadJob topology spec =>
    { spec with burstBuffer, beginTime, deadline, spreadJob, topology }) <$>
    nullable "burst_buffer" (·.burstBuffer) <*> optionalInstant "begin_time" (·.beginTime) <*>
      optionalInstant "deadline" (·.deadline) <*> required "spread_job" (·.spreadJob) <*>
      nullable "topology" (·.topology)

private abbrev jobSpecPod : Record JobSpec (JobSpec → JobSpec) :=
  (fun hostNetwork privileged hostIpc shmSize extraResources openMode pty submitLine clientKeepalive spec =>
    { spec with hostNetwork, privileged, hostIpc, shmSize, extraResources, openMode, pty, submitLine,
                clientKeepalive }) <$>
    required "host_network" (·.hostNetwork) <*> required "privileged" (·.privileged) <*>
      required "host_ipc" (·.hostIpc) <*> nullable "shm_size" (·.shmSize) <*>
      required "extra_resources" (·.extraResources) <*> nullable "open_mode" (·.openMode) <*>
      defaulted "pty" false (·.pty) <*> nullable "submit_line" (·.submitLine) <*>
      defaulted "client_keepalive" false (·.clientKeepalive)

/-- The fields of a job specification, in the groups the source lists them in. -/
abbrev jobSpecRecord [Chrono] : Record JobSpec JobSpec :=
  (fun identity resources execution scheduling grouping flags container deferral pod =>
    identity (resources (execution (scheduling (grouping (flags (container (deferral (pod {}))))))))) <$>
    jobSpecIdentity <*> jobSpecResources <*> jobSpecExecution <*> jobSpecScheduling <*> jobSpecGrouping <*>
    jobSpecFlags <*> jobSpecContainer <*> jobSpecDeferral <*> jobSpecPod

set_option synthInstance.maxSize 400 in
instance [Chrono] : Coded JobSpec := jobSpecRecord.coded

set_option synthInstance.maxSize 400 in
instance [Chrono] : Coded.Exact JobSpec := ⟨Reads.same (x := jobSpecRecord)⟩

abbrev cancelProvenanceRecord : Record CancelProvenance CancelProvenance :=
  CancelProvenance.mk <$> required "origin" (·.origin) <*> required "user" (·.user) <*> nullable "uid" (·.uid)

instance : Coded CancelProvenance := cancelProvenanceRecord.coded

instance : Coded.Exact CancelProvenance := ⟨Reads.same (x := cancelProvenanceRecord)⟩

instance : Coded.NeverNull CancelProvenance := ⟨fun _ => rfl⟩

abbrev actorRecord : Record Actor Actor :=
  Actor.mk <$> required "user" (·.user) <*> nullable "uid" (·.uid)

instance : Coded Actor := actorRecord.coded

instance : Coded.Exact Actor := ⟨Reads.same (x := actorRecord)⟩

instance : Coded.NeverNull Actor := ⟨fun _ => rfl⟩

abbrev preemptPendingRecord [Chrono] : Record PreemptPending PreemptPending :=
  PreemptPending.mk <$> instant "signaled_at" (·.signaledAt) <*> instant "deadline" (·.deadline) <*>
    required "preempted_by" (·.preemptedBy) <*> nullable "preempt_qos" (·.preemptQos) <*>
    required "mode" (·.mode) <*> required "run_attempt" (·.runAttempt) <*>
    required "requeue_hold_secs" (·.requeueHoldSecs)

instance [Chrono] : Coded PreemptPending := preemptPendingRecord.coded

instance [Chrono] : Coded.Exact PreemptPending := ⟨Reads.same (x := preemptPendingRecord)⟩

abbrev observationIssueRecord : Record ObservationIssue ObservationIssue :=
  ObservationIssue.mk <$> required "field" (·.field) <*> required "kind" (·.kind)

instance : Coded ObservationIssue := observationIssueRecord.coded

instance : Coded.Exact ObservationIssue := ⟨Reads.same (x := observationIssueRecord)⟩

abbrev fabricObservationRecord : Record FabricObservation FabricObservation :=
  FabricObservation.mk <$> defaulted "source" "" (·.source) <*> defaulted "status" .unknown (·.status) <*>
    nullable "physical_domain_id" (·.physicalDomainId) <*> nullable "fabric_domain_id" (·.fabricDomainId) <*>
    nullable "endpoint_id" (·.endpointId) <*> nullable "physical_capacity" (·.physicalCapacity) <*>
    nullable "fabric_capacity" (·.fabricCapacity) <*> defaulted "active_endpoints" [] (·.activeEndpoints) <*>
    defaulted "local_endpoints" [] (·.localEndpoints) <*> nullable "endpoint_state" (·.endpointState) <*>
    nullable "transport" (·.transport) <*> defaulted "issues" [] (·.issues)

instance : Coded FabricObservation := fabricObservationRecord.coded

instance : Coded.Exact FabricObservation := ⟨Reads.same (x := fabricObservationRecord)⟩

instance : Coded.NeverNull FabricObservation := ⟨fun _ => rfl⟩

abbrev deviceTopologyRecord : Record DeviceTopology DeviceTopology :=
  DeviceTopology.mk <$> nullable "pci_bdf" (·.pciBdf) <*> nullable "numa_node" (·.numaNode) <*>
    nullable "pci_root" (·.pciRoot) <*> nullable "vram_bytes" (·.vramBytes) <*> nullable "fabric" (·.fabric)

instance : Coded DeviceTopology := deviceTopologyRecord.coded

instance : Coded.Exact DeviceTopology := ⟨Reads.same (x := deviceTopologyRecord)⟩

instance : Coded.NeverNull DeviceTopology := ⟨fun _ => rfl⟩

abbrev gpuResourceRecord : Record GpuResource GpuResource :=
  GpuResource.mk <$> required "device_id" (·.deviceId) <*> required "gpu_type" (·.gpuType) <*>
    required "memory_mb" (·.memoryMb) <*> required "peer_gpus" (·.peerGpus) <*>
    required "link_type" (·.linkType) <*> defaulted "stable_id" 0 (·.stableId) <*> nullable "topology" (·.topology)

instance : Coded GpuResource := gpuResourceRecord.coded

instance : Coded.Exact GpuResource := ⟨Reads.same (x := gpuResourceRecord)⟩

abbrev coreInfoRecord : Record CoreInfo CoreInfo :=
  CoreInfo.mk <$> required "socket" (·.socket) <*> nullable "numa_node" (·.numaNode) <*> required "cpus" (·.cpus)

instance : Coded CoreInfo := coreInfoRecord.coded

instance : Coded.Exact CoreInfo := ⟨Reads.same (x := coreInfoRecord)⟩

abbrev cpuTopologyRecord : Record CpuTopology CpuTopology :=
  CpuTopology.mk <$> required "cores" (·.cores)

instance : Coded CpuTopology := cpuTopologyRecord.coded

instance : Coded.Exact CpuTopology := ⟨Reads.same (x := cpuTopologyRecord)⟩

instance : Coded.NeverNull CpuTopology := ⟨fun _ => rfl⟩

abbrev resourceSetRecord : Record ResourceSet ResourceSet :=
  ResourceSet.mk <$> required "cpus" (·.cpus) <*> required "memory_mb" (·.memoryMb) <*>
    required "gpus" (·.gpus) <*> required "generic" (·.generic) <*> defaulted "generation" 0 (·.generation) <*>
    defaulted "fabric_binding_version" 0 (·.fabricBindingVersion) <*>
    nullable "block_file_revision" (·.blockFileRevision) <*> skippedNone "topology" (·.topology)

instance : Coded ResourceSet := resourceSetRecord.coded

instance : Coded.Exact ResourceSet := ⟨Reads.same (x := resourceSetRecord)⟩

abbrev fabricBlockKeyRecord : Record FabricBlockKey FabricBlockKey :=
  FabricBlockKey.mk <$> required "namespace" (·.namespace_) <*> required "physical_domain" (·.physicalDomain) <*>
    required "fabric_domain" (·.fabricDomain)

instance : Coded FabricBlockKey := fabricBlockKeyRecord.coded

instance : Coded.Exact FabricBlockKey := ⟨Reads.same (x := fabricBlockKeyRecord)⟩

abbrev fabricDeviceKeyRecord : Record FabricDeviceKey FabricDeviceKey :=
  FabricDeviceKey.mk <$> required "node" (·.node) <*> required "stable_id" (·.stableId)

instance : Coded FabricDeviceKey := fabricDeviceKeyRecord.coded

instance : Coded.Exact FabricDeviceKey := ⟨Reads.same (x := fabricDeviceKeyRecord)⟩

abbrev fabricMemberRecord : Record FabricMember FabricMember :=
  FabricMember.mk <$> required "device" (·.device) <*> required "endpoint" (·.endpoint) <*>
    required "inventory_generation" (·.inventoryGeneration)

instance : Coded FabricMember := fabricMemberRecord.coded

instance : Coded.Exact FabricMember := ⟨Reads.same (x := fabricMemberRecord)⟩

abbrev fabricBindingRecord : Record FabricBinding FabricBinding :=
  FabricBinding.mk <$> required "version" (·.version) <*> required "node" (·.node) <*>
    required "inventory_generation" (·.inventoryGeneration) <*> required "key" (·.key) <*>
    required "active_endpoints" (·.activeEndpoints) <*> required "members" (·.members) <*>
    nullable "file_revision" (·.fileRevision)

instance : Coded FabricBinding := fabricBindingRecord.coded

instance : Coded.Exact FabricBinding := ⟨Reads.same (x := fabricBindingRecord)⟩

instance : Coded.NeverNull FabricBinding := ⟨fun _ => rfl⟩

abbrev boundGpuRecord : Record BoundGpu BoundGpu :=
  BoundGpu.mk <$> required "stable_id" (·.stableId) <*> required "gpu_type" (·.gpuType) <*>
    nullable "topology" (·.topology)

instance : Coded BoundGpu := boundGpuRecord.coded

instance : Coded.Exact BoundGpu := ⟨Reads.same (x := boundGpuRecord)⟩

abbrev gpuBindingRecord : Record GpuBinding GpuBinding :=
  GpuBinding.mk <$> required "node" (·.node) <*> required "generation" (·.generation) <*> required "gpus" (·.gpus)

instance : Coded GpuBinding := gpuBindingRecord.coded

instance : Coded.Exact GpuBinding := ⟨Reads.same (x := gpuBindingRecord)⟩

instance : Coded.NeverNull GpuBinding := ⟨fun _ => rfl⟩

abbrev allocatedDeviceRecord : Record AllocatedDevice AllocatedDevice :=
  AllocatedDevice.mk <$> required "device_id" (·.deviceId) <*> required "count" (·.count)

instance : Coded AllocatedDevice := allocatedDeviceRecord.coded

instance : Coded.Exact AllocatedDevice := ⟨Reads.same (x := allocatedDeviceRecord)⟩

abbrev resourceAllocationsRecord : Record ResourceAllocations ResourceAllocations :=
  ResourceAllocations.mk <$> required "cpus" (·.cpus) <*> required "memory_mb" (·.memoryMb) <*>
    required "devices" (·.devices) <*> defaulted "generation" 0 (·.generation) <*>
    nullable "fabric_binding" (·.fabricBinding) <*> nullable "gpu_binding" (·.gpuBinding)

instance : Coded ResourceAllocations := resourceAllocationsRecord.coded

instance : Coded.Exact ResourceAllocations := ⟨Reads.same (x := resourceAllocationsRecord)⟩

abbrev jobStepRecord [Chrono] : Record JobStep JobStep :=
  JobStep.mk <$> required "job_id" (·.jobId) <*> required "step_id" (·.stepId) <*> required "name" (·.name) <*>
    required "state" (·.state) <*> required "num_tasks" (·.numTasks) <*>
    required "cpus_per_task" (·.cpusPerTask) <*> required "resources" (·.resources) <*>
    required "nodes" (·.nodes) <*> required "distribution" (·.distribution) <*>
    optionalInstant "start_time" (·.startTime) <*> optionalInstant "end_time" (·.endTime) <*>
    nullable "exit_code" (·.exitCode) <*> defaulted "pty" false (·.pty) <*> defaulted "job_shell" false (·.jobShell)

instance [Chrono] : Coded JobStep := jobStepRecord.coded

instance [Chrono] : Coded.Exact JobStep := ⟨Reads.same (x := jobStepRecord)⟩

abbrev partitionRecord : Record Partition Partition :=
  Partition.mk <$> required "name" (·.name) <*> required "state" (·.state) <*>
    required "is_default" (·.isDefault) <*> required "nodes" (·.nodes) <*> defaulted "selector" ∅ (·.selector) <*>
    nullable "max_time_minutes" (·.maxTimeMinutes) <*> nullable "default_time_minutes" (·.defaultTimeMinutes) <*>
    nullable "max_nodes" (·.maxNodes) <*> required "min_nodes" (·.minNodes) <*>
    required "allow_root" (·.allowRoot) <*> required "exclusive_user" (·.exclusiveUser) <*>
    required "allow_accounts" (·.allowAccounts) <*> required "allow_groups" (·.allowGroups) <*>
    required "allow_qos" (·.allowQos) <*> required "deny_accounts" (·.denyAccounts) <*>
    required "deny_qos" (·.denyQos) <*> nullable "preempt_mode" (·.preemptMode) <*>
    required "priority_tier" (·.priorityTier) <*> nullable "preempt_exempt_time" (·.preemptExemptTime) <*>
    nullable "grace_time" (·.graceTime)

instance : Coded Partition := partitionRecord.coded

instance : Coded.Exact Partition := ⟨Reads.same (x := partitionRecord)⟩

abbrev reservationFlagsRecord : Record ReservationFlags ReservationFlags :=
  ReservationFlags.mk <$> defaulted "maint" false (·.maint) <*> defaulted "ignore_jobs" false (·.ignoreJobs) <*>
    defaulted "no_hold_jobs" false (·.noHoldJobs) <*> defaulted "overlap" false (·.overlap)

instance : Coded ReservationFlags := reservationFlagsRecord.coded

instance : Coded.Exact ReservationFlags := ⟨Reads.same (x := reservationFlagsRecord)⟩

abbrev reservationRecord [Chrono] : Record Reservation Reservation :=
  Reservation.mk <$> required "name" (·.name) <*> instant "start_time" (·.startTime) <*>
    instant "end_time" (·.endTime) <*> required "nodes" (·.nodes) <*> required "accounts" (·.accounts) <*>
    required "users" (·.users) <*> defaulted "flags" {} (·.flags) <*> defaulted "owner" "" (·.owner)

instance [Chrono] : Coded Reservation := reservationRecord.coded

instance [Chrono] : Coded.Exact Reservation := ⟨Reads.same (x := reservationRecord)⟩

abbrev admissionTokenRecord [Chrono] : Record AdmissionToken AdmissionToken :=
  AdmissionToken.mk <$> required "id" (·.id) <*> required "secret_hash" (·.secretHash) <*>
    instant "created_at" (·.createdAt) <*> optionalInstant "expires_at" (·.expiresAt) <*>
    required "revoked" (·.revoked)

instance [Chrono] : Coded AdmissionToken := admissionTokenRecord.coded

instance [Chrono] : Coded.Exact AdmissionToken := ⟨Reads.same (x := admissionTokenRecord)⟩

instance : Coded NodeSource where
  encode
    | .nativeHost => .obj [("type",.str "NativeHost")]
    | .kubernetes namespace_ => .obj [("type",.str "Kubernetes"),("namespace",.str namespace_)]
  decode
    | .obj fields =>
      match Json.lookup fields "type" with
      | some (.str "NativeHost") => some .nativeHost
      | some (.str "Kubernetes") => ((Json.lookup fields "namespace").bind Coded.decode).map .kubernetes
      | _ => none
    | _ => none
  readBack := id
  law := fun source => by cases source <;> rfl

instance : Coded.Exact NodeSource := ⟨fun _ => rfl⟩

end Spur
