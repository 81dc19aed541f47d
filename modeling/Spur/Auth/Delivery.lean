import Spur.Auth.Launch
import Spur.Auth.Signing
import Spur.Ledger.Allocation

/-! Launch requests at one agent: the credential gate of `spurd::agent_server`, the checks behind it and the answers. -/
namespace Spur.Auth.Signing.ExecutionCredential
open Spur.Library.Wire

variable (cred : ExecutionCredential)

def requireCluster (clusterId : String) : Except CredentialError Unit :=
  if cred.clusterId = clusterId then .ok () else .error .clusterMismatch

def requireKind (kind : CredentialKind) : Except CredentialError Unit :=
  if cred.kind = kind then .ok () else .error (.wrongKind kind cred.kind)

def requireNode (hostname : String) : Except CredentialError NodeResourceSlice :=
  match cred.resourcesByNode.find? fun n => n.node == hostname with
  | some slice => .ok slice
  | none => .error .wrongNode

def requireRunAttempt (attempt : UInt32) : Except CredentialError Unit :=
  if cred.runAttempt = attempt then .ok () else .error .wrongAttempt

def requireUnix (uid gid : UInt32) : Except CredentialError Unit :=
  if cred.uid = uid ∧ cred.gid = gid then .ok () else .error .identityMismatch

def requireCommandDigest (digest : Vector UInt8 32) : Except CredentialError Unit :=
  if cred.commandDigest = digest then .ok () else .error .commandDigestMismatch

def requireSlice (hostname : String) (cpus : UInt32) (memoryMb : UInt64) (devices : List DeviceSlice) :
    Except CredentialError Unit := do
  let slice ← cred.requireNode hostname
  if slice.cpus ≠ cpus ∨ slice.memoryMb ≠ memoryMb then throw .resourceMismatch
  else if slice.devices ≠ devices then throw .resourceMismatch
  else pure ()

def claims : Auth.ExecutionCredential where
  jobId := cred.jobId.toNat
  stepId := cred.stepId.toNat
  runAttempt := cred.runAttempt.toNat
  credentialId := ofBigEndian cred.credentialId.toList
  commandDigest := ofBigEndian cred.commandDigest.toList
  issuedAt := cred.issuedAt.toNat
  notBefore := cred.notBefore.toNat
  expiresAt := cred.expiresAt.toNat

end Spur.Auth.Signing.ExecutionCredential

namespace Spur.Auth.Delivery
open Spur.Library Spur.Library.Run Spur.Ledger
open Spur.Auth.Signing (DeviceSlice)

abbrev Credential := Signing.ExecutionCredential

def stepBatch : Nat := 0xFFFFFFFB

def stepExtern : Nat := 0xFFFFFFFC

def launchStepId (pty : Bool) : Nat := if pty then stepExtern else stepBatch

structure LaunchRequest where
  jobId : UInt32
  runAttempt : UInt32
  targetNode : String
  uid : UInt32
  gid : UInt32
  pty : Bool
  /-- Digest of script, arguments and image. -/
  commandDigest : Vector UInt8 32
  /-- The allocated slice, its devices in order. -/
  cpus : UInt32
  memoryMb : UInt64
  devices : List DeviceSlice
  gresGpus : Nat := 0
  gresType : Option String := none
  budgetCpus : Nat
  budgetMemoryMb : Nat

namespace LaunchRequest

variable (req : LaunchRequest)

def run : Nat × Nat := (req.jobId.toNat,req.runAttempt.toNat)

def slot : Nat × Nat := (req.jobId.toNat,launchStepId req.pty)

def controllerGpuIds : List Nat :=
  (req.devices.filter fun dev => dev.name == "gpu").map fun dev => dev.deviceId.toNat

end LaunchRequest

/-- Why a launch is refused; the text of `blocked` is that of the check that failed. -/
inductive Refusal where
  | claims (error : Signing.CredentialError)
  | time (error : CredentialError)
  | record (error : CredentialError)
  | wrongNode (target hostname : String)
  | root
  | blocked (why : String)
  | displaced (attempt jobId : Nat)
  | noDeviceIds (count : Nat) (gpuType : Option String)
  | unavailable (error : AllocError) (jobId : Nat)
  deriving DecidableEq

def Refusal.message : Refusal → String
  | claims error => error.message
  | time error => error.message
  | record error => error.message
  | wrongNode target hostname => "launch targeted node '" ++ target ++ "' but this agent serves '" ++ hostname ++ "'"
  | root => "refusing to execute as uid 0: the job requested root and spurd is running as root, but " ++
      "[auth] allow_root_jobs is false. Submit as an unprivileged user, or set " ++
      "allow_root_jobs = true if every submitter on this cluster is trusted with root."
  | blocked why => why
  | displaced attempt jobId => "failed to fence displaced stepd before launch: runtime attempt " ++ toString attempt ++
      " is still tracked for job " ++ toString jobId
  | noDeviceIds count gpuType => "job requests " ++ toString count ++ " GPUs (type: " ++ gpuType.getD "any" ++
      ") but controller sent no device IDs"
  | unavailable .gpusUnavailable _ => "controller-allocated GPUs unavailable on this node"
  | unavailable .gpusUnknown _ => "controller-allocated GPUs are not in this node's gpu inventory"
  | unavailable .duplicateJob jobId => "job " ++ toString jobId ++ " already has a launch in flight on this node"
  | unavailable .superseded jobId => "job " ++ toString jobId ++ " was superseded by a newer attempt on this node"
  | unavailable .cpusUnavailable _ => "allocated cores unavailable on this node"

def Refusal.late : Refusal → Bool
  | claims _ | time _ | record _ => false
  | wrongNode _ _ | root | blocked _ | displaced _ _ | noDeviceIds _ _ | unavailable _ _ => true

inductive Outcome where
  | refused (why : Refusal)
  | repeated
  | tracked
  | unstarted
  | launched
  deriving DecidableEq

def Outcome.success : Outcome → Bool
  | repeated | tracked | launched => true
  | refused _ | unstarted => false

def Outcome.late : Outcome → Bool
  | refused why => why.late
  | repeated | tracked | unstarted | launched => false

def Outcome.reserved : Outcome → Bool
  | unstarted | launched => true
  | refused _ | repeated | tracked => false

structure Delivered where
  req : LaunchRequest
  cred : Credential
  outcome : Outcome

/-- The credentials have the same identity: job, step, attempt, id and command. -/
def Same (a b : Credential) : Prop :=
  a.claims.key = b.claims.key ∧ a.claims.credentialId = b.claims.credentialId ∧
    a.claims.commandDigest = b.claims.commandDigest

structure Agent where
  clusterId : String
  hostname : String
  /-- What the system calls itself, where it can be asked. -/
  osHostname : Option String
  allowRootJobs : Bool
  spurdIsRoot : Bool
  record : LaunchAcceptance
  stepds : Table (Nat × Nat) Nat
  running : Finset Nat
  ledger : NodeAllocation
  history : List Delivered

/-- What a delivery meets besides the agent's state. -/
structure Circumstances where
  now : Nat
  clock : Time
  obstacle : Option String
  /-- A script, image or plugin that cannot be prepared. -/
  unprepared : Option String
  specCpus : List Nat
  starts : Bool

namespace Agent

variable (agent : Agent)

def ownsNode (node : String) : Bool := node == agent.hostname || agent.osHostname == some node

def rootExecutionAllowed (uid : UInt32) : Bool := uid != 0 || agent.allowRootJobs || !agent.spurdIsRoot

def checkClaims (req : LaunchRequest) (cred : Credential) : Except Signing.CredentialError Unit := do
  let hostname := if req.targetNode.isEmpty then agent.hostname else req.targetNode
  cred.requireKind .job
  let _ ← cred.requireNode hostname
  cred.requireRunAttempt req.runAttempt
  cred.requireUnix req.uid req.gid
  cred.requireCommandDigest req.commandDigest
  cred.requireSlice hostname req.cpus req.memoryMb req.devices

def gate (req : LaunchRequest) (cred : Credential) (now : Nat) : Except Refusal Unit := do
  (cred.requireCluster agent.clusterId).mapError .claims
  (cred.claims.validateTime now clockSkewSecs).mapError .time
  (agent.checkClaims req cred).mapError .claims

def conflictingOwners (ledger : NodeAllocation) (deviceIds : List Nat) : List Nat :=
  ledger.owners.keys.filter fun job =>
    (ledger.ownerGpuIdsAny job).any (fun id => deviceIds.contains id) && !ledger.launching.contains job

/-- Reserves, and once more after reclaiming the owners that no longer run. -/
def allocateLocal (ledger : NodeAllocation) (running : Finset Nat) (req : LaunchRequest) (around : Circumstances) :
    NodeAllocation × Except Refusal Unit :=
  if req.controllerGpuIds.isEmpty && req.gresGpus > 0 then (ledger,.error (.noDeviceIds req.gresGpus req.gresType))
  else
    let reserve := fun ledger : NodeAllocation => ledger.allocateForJob around.clock req.jobId.toNat req.runAttempt.toNat
      req.budgetCpus req.budgetMemoryMb req.controllerGpuIds
    match reserve (ledger.setSpecExclusions around.specCpus) with
    | (ledger,.ok _) => (ledger,.ok ())
    | (ledger,.error .gpusUnavailable) =>
      let stale := (conflictingOwners ledger req.controllerGpuIds).filter fun owner => decide (owner ∉ running)
      match reserve (stale.foldl (fun ledger owner => (ledger.releaseJob owner).1) ledger) with
      | (ledger,.ok _) => (ledger,.ok ())
      | (ledger,.error _) => (ledger,.error (.unavailable .gpusUnavailable req.jobId.toNat))
    | (ledger,.error error) => (ledger,.error (.unavailable error req.jobId.toNat))

/-- Older runs of the job are no longer supervised; a newer one in the slot refuses the launch. -/
def fenceDisplacedRun (req : LaunchRequest) : Table (Nat × Nat) Nat × Except Refusal Unit :=
  let kept := agent.stepds.filter fun slot attempt => !(slot.1 == req.jobId.toNat && attempt < req.runAttempt.toNat)
  match kept[req.slot]? with
  | some attempt =>
    (kept,if attempt > req.runAttempt.toNat then .error (.displaced attempt req.jobId.toNat) else .ok ())
  | none => (kept,.ok ())

def superseded (req : LaunchRequest) : Bool :=
  agent.stepds.toList.any fun entry => entry.1.1 == req.jobId.toNat && entry.2 > req.runAttempt.toNat

def start (req : LaunchRequest) (around : Circumstances) : Agent × Outcome :=
  match allocateLocal agent.ledger agent.running req around with
  | (ledger,.error why) => ({ agent with ledger },.refused why)
  | (ledger,.ok ()) =>
    if !around.starts || agent.superseded req then
      ({ agent with ledger := (ledger.releaseJobIf req.jobId.toNat req.runAttempt.toNat).1 },.unstarted)
    else
      let stepds := agent.stepds.insert req.slot req.runAttempt.toNat
      let (ledger,committed) := ledger.commitJob req.jobId.toNat req.runAttempt.toNat
      if committed then ({ agent with ledger, stepds, running := insert req.jobId.toNat agent.running },.launched)
      else ({ agent with ledger },.unstarted)

def laterChecks (req : LaunchRequest) (around : Circumstances) : Agent × Outcome :=
  if !req.targetNode.isEmpty && !agent.ownsNode req.targetNode then
    (agent,.refused (.wrongNode req.targetNode agent.hostname))
  else if !agent.rootExecutionAllowed req.uid then (agent,.refused .root)
  else if agent.stepds[req.slot]? == some req.runAttempt.toNat then (agent,.tracked)
  else match around.obstacle with
    | some why => (agent,.refused (.blocked why))
    | none =>
      match agent.fenceDisplacedRun req with
      | (stepds,.error why) => ({ agent with stepds },.refused why)
      | (stepds,.ok ()) =>
        match around.unprepared with
        | some why => ({ agent with stepds },.refused (.blocked why))
        | none => { agent with stepds }.start req around

def launchJob (req : LaunchRequest) (cred : Credential) (around : Circumstances) : Agent × Outcome :=
  match agent.gate req cred around.now with
  | .error why => (agent,.refused why)
  | .ok () =>
    match agent.record.accept cred.claims around.now with
    | (record,.error e) => ({ agent with record },.refused (.record e))
    | (record,.ok false) => ({ agent with record },.repeated)
    | (record,.ok true) => { agent with record }.laterChecks req around

def deliver (req : LaunchRequest) (cred : Credential) (around : Circumstances) : Agent :=
  let answer := agent.launchJob req cred around
  { answer.1 with history := ⟨req,cred,answer.2⟩ :: agent.history }

end Agent

inductive Event where
  | launch (req : LaunchRequest) (cred : Credential) (around : Circumstances)
  | cancel (key : Nat × Nat × Nat) (now : Nat)
  | cancelAttempt (jobId runAttempt now : Nat)
  | ended (slot : Nat × Nat)
  | ledger (entry : Cluster.Env × LedgerCall)

variable {req : LaunchRequest}

namespace Agent

variable (agent : Agent)

def step : Event → Agent
  | .launch req cred around => agent.deliver req cred around
  | .cancel key now => { agent with record := agent.record.cancel key now }
  | .cancelAttempt jobId runAttempt now => { agent with record := agent.record.cancelAttempt jobId runAttempt now }
  | .ended slot => { agent with
      stepds := agent.stepds.erase slot
      running := agent.running.erase slot.1
      ledger := ((agent.stepds[slot]?).elim agent.ledger fun attempt => (agent.ledger.releaseJobIf slot.1 attempt).1) }
  | .ledger entry => { agent with ledger := agent.ledger.step entry }

/-- The delivery passed the checks behind the gate: it names this agent, may run as its user, and its run has its
resources, from this delivery or, where it was supervised already, from an earlier one. -/
structure Passed (d : Delivered) : Prop where
  node : d.req.targetNode.isEmpty = true ∨ agent.ownsNode d.req.targetNode = true
  root : agent.rootExecutionAllowed d.req.uid = true
  resources : d.outcome.reserved = true ∨
    d.outcome = .tracked ∧ ∃ other ∈ agent.history, other.req.run = d.req.run ∧ other.outcome.reserved = true

/-- A launch answered with success has passed, or an earlier delivery of its credential has. -/
def Truthful (event : Event) : Prop :=
  ∀ req cred around, event = .launch req cred around → (agent.launchJob req cred around).2.success = true →
    ∃ d ∈ (agent.step event).history, Same d.cred cred ∧ (agent.step event).Passed d

/-- No credential that a later check refused is presented again while the record has its step. -/
def Unspoiled (event : Event) : Prop :=
  ∀ req cred around, event = .launch req cred around → ∀ d ∈ agent.history, Same d.cred cred →
    d.outcome.late = true → (agent.record.live around.now)[cred.claims.key]? = none

section

def settings : String × Option String × Bool × Bool :=
  (agent.hostname,agent.osHostname,agent.allowRootJobs,agent.spurdIsRoot)

variable {agent}

theorem ownsNode_of_settings {other : Agent} (same : other.settings = agent.settings) :
    other.ownsNode = agent.ownsNode := by
  cases agent
  cases same
  rfl

theorem rootExecutionAllowed_of_settings {other : Agent} (same : other.settings = agent.settings) :
    other.rootExecutionAllowed = agent.rootExecutionAllowed := by
  cases agent
  cases same
  rfl

/-- What the checks behind the gate leave, with the outcome they come to. -/
structure Checked (agent : Agent) (req : LaunchRequest) (answer : Agent × Outcome) : Prop where
  settings : answer.1.settings = agent.settings
  record : answer.1.record = agent.record
  history : answer.1.history = agent.history
  stepds : ∀ (slot : Nat × Nat) (attempt : Nat), answer.1.stepds[slot]? = some attempt →
    agent.stepds[slot]? = some attempt ∨ answer.2.reserved = true ∧ (slot.1,attempt) = req.run
  outcome : answer.2.late = true ∨
    (req.targetNode.isEmpty = true ∨ agent.ownsNode req.targetNode = true) ∧
      agent.rootExecutionAllowed req.uid = true ∧
      (answer.2.reserved = true ∨ answer.2 = .tracked ∧ agent.stepds[req.slot]? = some req.runAttempt.toNat)

theorem allocateLocal_late {ledger after : NodeAllocation} {running : Finset Nat}
    {around : Circumstances} {why : Refusal} (refused : allocateLocal ledger running req around = (after,.error why)) :
    why.late = true := by
  unfold allocateLocal at refused
  split at refused
  · cases refused
    rfl
  dsimp only at refused
  split at refused
  · cases refused
  · split at refused <;> cases refused
    rfl
  · cases refused
    rfl

theorem fenceDisplacedRun_late {stepds : Table (Nat × Nat) Nat} {why : Refusal}
    (refused : agent.fenceDisplacedRun req = (stepds,.error why)) : why.late = true := by
  unfold fenceDisplacedRun at refused
  dsimp only at refused
  split at refused
  · split at refused <;> cases refused
    rfl
  · cases refused

theorem find_fenceDisplacedRun {slot : Nat × Nat} {attempt : Nat}
    (found : (agent.fenceDisplacedRun req).1[slot]? = some attempt) : agent.stepds[slot]? = some attempt := by
  have kept : (agent.fenceDisplacedRun req).1 = agent.stepds.filter fun slot attempt =>
      !(slot.1 == req.jobId.toNat && attempt < req.runAttempt.toNat) := by
    unfold fenceDisplacedRun
    dsimp only
    split <;> rfl
  rw [kept,Table.find_filter] at found
  exact (Option.filter_eq_some_iff.mp found).1

theorem start_checked (req : LaunchRequest) (around : Circumstances)
    (node : req.targetNode.isEmpty = true ∨ agent.ownsNode req.targetNode = true)
    (root : agent.rootExecutionAllowed req.uid = true) : agent.Checked req (agent.start req around) := by
  unfold start
  split
  next ledger why refused =>
    exact ⟨rfl,rfl,rfl,fun _ _ => .inl,.inl (allocateLocal_late refused)⟩
  split
  · exact ⟨rfl,rfl,rfl,fun _ _ => .inl,.inr ⟨node,root,.inl rfl⟩⟩
  dsimp only
  split
  · refine ⟨rfl,rfl,rfl,fun slot attempt found => ?_,.inr ⟨node,root,.inl rfl⟩⟩
    rw [Table.find_insert] at found
    split at found
    · next same =>
      cases found
      subst same
      exact .inr ⟨rfl,rfl⟩
    · exact .inl found
  · exact ⟨rfl,rfl,rfl,fun _ _ => .inl,.inr ⟨node,root,.inl rfl⟩⟩

theorem laterChecks_checked {req : LaunchRequest} {around : Circumstances} :
    agent.Checked req (agent.laterChecks req around) := by
  unfold laterChecks
  split
  · exact ⟨rfl,rfl,rfl,fun _ _ => .inl,.inl rfl⟩
  next named =>
  have node : req.targetNode.isEmpty = true ∨ agent.ownsNode req.targetNode = true := by
    simpa [imp_iff_not_or] using named
  split
  · exact ⟨rfl,rfl,rfl,fun _ _ => .inl,.inl rfl⟩
  next allowed =>
  have root : agent.rootExecutionAllowed req.uid = true := by simpa using allowed
  split
  · next tracked => exact ⟨rfl,rfl,rfl,fun _ _ => .inl,.inr ⟨node,root,.inr ⟨rfl,beq_iff_eq.mp tracked⟩⟩⟩
  split
  · exact ⟨rfl,rfl,rfl,fun _ _ => .inl,.inl rfl⟩
  have fenced := @find_fenceDisplacedRun req agent
  split
  next stepds why refused =>
    rw [refused] at fenced
    exact ⟨rfl,rfl,rfl,fun _ _ found => .inl (fenced found),.inl (fenceDisplacedRun_late refused)⟩
  next stepds passed =>
    rw [passed] at fenced
    split
    · exact ⟨rfl,rfl,rfl,fun _ _ found => .inl (fenced found),.inl rfl⟩
    have checked := @start_checked { agent with stepds } req around node root
    refine ⟨checked.settings,checked.record,checked.history,fun slot attempt found => ?_,?_⟩
    · exact (checked.stepds slot attempt found).imp_left fenced
    · exact checked.outcome.imp_right (.imp_right (.imp_right (.imp_right (.imp_right fenced))))

end

end Agent

section

def Outcome.checked (outcome : Outcome) : Prop := outcome.late = true ∨ outcome.reserved = true ∨ outcome = .tracked

/-- Every open entry of the record, every supervised run and every delivery that was not refused has its origin in
the history. -/
structure Accounted (agent : Agent) : Prop where
  recorded : ∀ (key : Nat × Nat × Nat) (entry : AcceptedLaunch), agent.record.entries[key]? = some entry →
    entry.cancelled = false → ∃ d ∈ agent.history, d.outcome.checked ∧ d.cred.claims.key = key ∧
      d.cred.claims.credentialId = entry.credentialId ∧ d.cred.claims.commandDigest = entry.digest
  supervised : ∀ (slot : Nat × Nat) (attempt : Nat), agent.stepds[slot]? = some attempt →
    ∃ d ∈ agent.history, d.req.run = (slot.1,attempt) ∧ d.outcome.reserved = true
  passed : ∀ d ∈ agent.history, d.outcome.reserved = true ∨ d.outcome = .tracked → agent.Passed d

variable {agent : Agent}

theorem Agent.Passed.later {other : Agent} {d : Delivered} (passed : agent.Passed d)
    (same : other.settings = agent.settings) (kept : ∀ d ∈ agent.history, d ∈ other.history) : other.Passed d := by
  refine ⟨?_,?_,passed.resources.imp_right fun ⟨tracked,first,listed,rest⟩ => ⟨tracked,first,kept first listed,rest⟩⟩
  · rw [Agent.ownsNode_of_settings same]
    exact passed.node
  · rw [Agent.rootExecutionAllowed_of_settings same]
    exact passed.root

theorem Accounted.quiet {other : Agent} (accounted : Accounted agent) (same : other.settings = agent.settings)
    (history : other.history = agent.history)
    (record : ∀ (key : Nat × Nat × Nat) (entry : AcceptedLaunch), other.record.entries[key]? = some entry →
      entry.cancelled = false → agent.record.entries[key]? = some entry)
    (stepds : ∀ (slot : Nat × Nat) (attempt : Nat), other.stepds[slot]? = some attempt →
      agent.stepds[slot]? = some attempt) : Accounted other := by
  refine ⟨?_,?_,?_⟩ <;> rw [history]
  · exact fun key entry found kept => accounted.recorded key entry (record key entry found kept) kept
  · exact fun slot attempt found => accounted.supervised slot attempt (stepds slot attempt found)
  · exact fun d listed admitted => (accounted.passed d listed admitted).later same fun _ => history ▸ id

theorem Accounted.deliver {cred : Credential} {record : LaunchAcceptance} {answer : Agent × Outcome}
    (accounted : Accounted agent) (checked : { agent with record }.Checked req answer)
    (recorded : ∀ (key : Nat × Nat × Nat) (entry : AcceptedLaunch), record.entries[key]? = some entry →
      agent.record.entries[key]? = some entry ∨ cred.claims.key = key ∧
        cred.claims.credentialId = entry.credentialId ∧ cred.claims.commandDigest = entry.digest) :
    Accounted { answer.1 with history := ⟨req,cred,answer.2⟩ :: agent.history } := by
  have same : ({ answer.1 with history := ⟨req,cred,answer.2⟩ :: agent.history } : Agent).settings = agent.settings :=
    checked.settings
  refine ⟨fun key entry found kept => ?_,fun slot attempt found => ?_,fun d listed admitted => ?_⟩
  · rw [checked.record] at found
    rcases recorded key entry found with before | new
    · obtain ⟨d,listed,rest⟩ := accounted.recorded key entry before kept
      exact ⟨d,List.mem_cons_of_mem _ listed,rest⟩
    · exact ⟨_,List.mem_cons_self,checked.outcome.imp_right fun ⟨_,_,done⟩ => done.imp_right And.left,new⟩
  · rcases checked.stepds slot attempt found with before | ⟨reserved,run⟩
    · obtain ⟨d,listed,rest⟩ := accounted.supervised slot attempt before
      exact ⟨d,List.mem_cons_of_mem _ listed,rest⟩
    · exact ⟨_,List.mem_cons_self,run.symm,reserved⟩
  · rcases List.mem_cons.mp listed with rfl | before
    · rcases checked.outcome with late | ⟨node,root,done⟩
      · revert late admitted
        cases answer.2 <;> simp [Outcome.late,Outcome.reserved]
      · refine ⟨?_,?_,?_⟩
        · rw [Agent.ownsNode_of_settings same]
          exact node
        · rw [Agent.rootExecutionAllowed_of_settings same]
          exact root
        · refine done.imp_right fun ⟨tracked,found⟩ => ⟨tracked,?_⟩
          obtain ⟨first,listed,run,reserved⟩ := accounted.supervised _ _ found
          exact ⟨first,List.mem_cons_of_mem _ listed,run,reserved⟩
    · exact (accounted.passed d before admitted).later same fun _ => List.mem_cons_of_mem _

theorem Accounted.answered {record : LaunchAcceptance} {d : Delivered} (accounted : Accounted agent)
    (recorded : ∀ (key : Nat × Nat × Nat) (entry : AcceptedLaunch), record.entries[key]? = some entry →
      agent.record.entries[key]? = some entry)
    (short : ¬(d.outcome.reserved = true ∨ d.outcome = .tracked)) :
    Accounted { agent with record, history := d :: agent.history } := by
  refine ⟨fun key entry found kept => ?_,fun slot attempt found => ?_,fun other listed admitted => ?_⟩
  · obtain ⟨first,listed,rest⟩ := accounted.recorded key entry (recorded key entry found) kept
    exact ⟨first,List.mem_cons_of_mem _ listed,rest⟩
  · obtain ⟨first,listed,rest⟩ := accounted.supervised slot attempt found
    exact ⟨first,List.mem_cons_of_mem _ listed,rest⟩
  · rcases List.mem_cons.mp listed with rfl | before
    · exact absurd admitted short
    · exact (accounted.passed other before admitted).later rfl fun _ => List.mem_cons_of_mem _

theorem recorded_of_accept {cred : Credential} {now : Nat} {first : Bool} {record : LaunchAcceptance}
    (accepted : agent.record.accept cred.claims now = (record,.ok first)) {key : Nat × Nat × Nat}
    {entry : AcceptedLaunch} (found : record.entries[key]? = some entry) :
    agent.record.entries[key]? = some entry ∨ first = true ∧ cred.claims.key = key ∧
      cred.claims.credentialId = entry.credentialId ∧ cred.claims.commandDigest = entry.digest := by
  have origin := @LaunchAcceptance.find_of_accept cred.claims entry now key agent.record
  rw [accepted] at origin
  refine (origin found).imp_right fun ⟨new,same,id,digest⟩ => ⟨Except.ok.inj new,same,id.symm,digest.symm⟩

theorem deliver_accounted (accounted : Accounted agent) (req : LaunchRequest) (cred : Credential)
    (around : Circumstances) : Accounted (agent.deliver req cred around) := by
  unfold Agent.deliver Agent.launchJob
  split
  · exact accounted.answered (fun _ _ => id) (by simp [Outcome.reserved])
  split
  next record e refused =>
    refine accounted.answered (fun key entry found => ?_) (by simp [Outcome.reserved])
    have origin := @LaunchAcceptance.find_of_accept cred.claims entry around.now key agent.record
    rw [refused] at origin
    rcases origin found with before | ⟨new,-⟩
    · exact before
    · cases new
  next record accepted =>
    refine accounted.answered (fun key entry found => ?_) (by simp [Outcome.reserved])
    rcases recorded_of_accept accepted found with before | ⟨new,-⟩
    · exact before
    · cases new
  next record accepted =>
    refine accounted.deliver Agent.laterChecks_checked fun key entry found => ?_
    exact (recorded_of_accept accepted found).imp_right And.right

theorem step_accounted (accounted : Accounted agent) {event : Event} : Accounted (agent.step event) := by
  cases event with
  | launch req cred around => exact deliver_accounted accounted req cred around
  | cancel key now =>
    exact accounted.quiet rfl rfl (fun _ _ => LaunchAcceptance.find_of_cancel) fun _ _ => id
  | cancelAttempt jobId runAttempt now =>
    refine accounted.quiet rfl rfl (fun key entry found kept => ?_) fun _ _ => id
    rcases LaunchAcceptance.find_cancelAttempt found with cancelled | ⟨-,before⟩
    · rw [kept] at cancelled
      cases cancelled
    · exact LaunchAcceptance.find_of_find_live before
  | ended slot =>
    refine accounted.quiet rfl rfl (fun _ _ found _ => found) fun other attempt found => ?_
    change (agent.stepds.erase slot)[other]? = some attempt at found
    rw [Table.find_erase] at found
    split at found
    · cases found
    · exact found
  | ledger entry => exact accounted.quiet rfl rfl (fun _ _ found _ => found) fun _ _ => id

theorem deliver_settings (req : LaunchRequest) (cred : Credential) (around : Circumstances) :
    (agent.deliver req cred around).settings = agent.settings := by
  unfold Agent.deliver Agent.launchJob
  split
  · rfl
  split
  · rfl
  · rfl
  · exact Agent.laterChecks_checked.settings

theorem passed_of_repeated (accounted : Accounted agent) {cred : Credential} {now : Nat}
    (unspoiled : ∀ d ∈ agent.history, Same d.cred cred → d.outcome.late = true →
      (agent.record.live now)[cred.claims.key]? = none)
    (repeated : (agent.record.accept cred.claims now).2 = .ok false) :
    ∃ d ∈ agent.history, Same d.cred cred ∧ agent.Passed d := by
  obtain ⟨prev,found,open_,id,digest⟩ := LaunchAcceptance.accept_repeated repeated
  obtain ⟨d,listed,checked,key,sameId,sameDigest⟩ :=
    accounted.recorded _ prev (LaunchAcceptance.find_of_find_live found) open_
  have same : Same d.cred cred := ⟨key,sameId.trans id,sameDigest.trans digest⟩
  rcases checked with late | admitted
  · rw [unspoiled d listed same late] at found
    cases found
  · exact ⟨d,listed,same,accounted.passed d listed admitted⟩

theorem step_truthful (accounted : Accounted agent) {event : Event} (unspoiled : agent.Unspoiled event) :
    agent.Truthful event := by
  rintro req cred around rfl success
  have after := deliver_accounted accounted req cred around
  have head : ⟨req,cred,(agent.launchJob req cred around).2⟩ ∈ (agent.deliver req cred around).history :=
    List.mem_cons_self
  by_cases repeated : (agent.launchJob req cred around).2 = .repeated
  · have accepted : (agent.record.accept cred.claims around.now).2 = .ok false := by
      unfold Agent.launchJob at repeated
      split at repeated
      · cases repeated
      split at repeated
      · cases repeated
      next record answer => rw [answer]
      next record answer =>
        have outcome := (@Agent.laterChecks_checked { agent with record } req around).outcome
        rw [repeated] at outcome
        simp [Outcome.late,Outcome.reserved] at outcome
    obtain ⟨d,listed,same,passed⟩ := passed_of_repeated accounted (unspoiled req cred around rfl) accepted
    have kept := passed.later (deliver_settings req cred around) fun _ => List.mem_cons_of_mem _
    exact ⟨d,List.mem_cons_of_mem _ listed,same,kept⟩
  · refine ⟨_,head,⟨rfl,rfl,rfl⟩,after.passed _ head ?_⟩
    revert success repeated
    cases (agent.launchJob req cred around).2 <;> simp [Outcome.success,Outcome.reserved]

end

structure Agent.Fresh (agent : Agent) : Prop where
  record : agent.record.entries = ∅
  stepds : agent.stepds = ∅
  history : agent.history = []

theorem Agent.Fresh.accounted {agent : Agent} (fresh : agent.Fresh) : Accounted agent := by
  refine ⟨fun key entry found => ?_,fun slot attempt found => ?_,fun d listed => ?_⟩
  · rw [fresh.record] at found
    cases found
  · rw [fresh.stepds] at found
    cases found
  · rw [fresh.history] at listed
    cases listed

/-- Whatever is delivered to an agent, and cancelled or ended there in between: when no credential that one of the
later checks refused is presented again while the record has it, every launch answered with success passed them. -/
theorem launch_success_truthful (agent : Agent) (fresh : agent.Fresh) (events : List Event)
    (unspoiled : Along Agent.step Agent.Unspoiled agent events) : Along Agent.step Agent.Truthful agent events :=
  along_of_invariant (fun _ event accounted _ => step_accounted accounted)
    (fun _ _ accounted unspoiled => step_truthful accounted unspoiled) fresh.accounted unspoiled

section

def testAgent : Agent where
  clusterId := "c"
  hostname := "n1"
  osHostname := some "n1"
  allowRootJobs := false
  spurdIsRoot := true
  record := .withCapacity 8
  stepds := ∅
  running := ∅
  ledger := .new { cpus := 4, memoryMb := 8192 }
  history := []

def testRequest (uid : UInt32) (targetNode : String) : LaunchRequest where
  jobId := 7
  runAttempt := 1
  targetNode
  uid
  gid := 100
  pty := false
  commandDigest := Vector.replicate 32 9
  cpus := 1
  memoryMb := 64
  devices := []
  budgetCpus := 1
  budgetMemoryMb := 64

def testCredential (uid : UInt32) : Credential where
  kind := .job
  clusterId := "c"
  keyId := "k"
  jobId := 7
  stepId := 0xFFFFFFFB
  runAttempt := 1
  user := "u"
  uid
  gid := 100
  supplementaryGids := []
  account := ""
  partition_ := "p"
  qos := ""
  resourcesByNode := [⟨"n1",1,64,[]⟩,⟨"n2",1,64,[]⟩]
  commandDigest := Vector.replicate 32 9
  containerDigest := none
  issuedAt := 10
  notBefore := 10
  expiresAt := 100
  credentialId := Vector.replicate 16 5

def plainly (now : Nat) : Circumstances := ⟨now,0,none,none,[],true⟩

theorem testAgent_fresh : testAgent.Fresh := ⟨rfl,rfl,rfl⟩

end

theorem launch_success_truthful_repeated : Along Agent.step Agent.Truthful testAgent
      [.launch (testRequest 1000 "n1") (testCredential 1000) (plainly 20),
        .launch (testRequest 1000 "n1") (testCredential 1000) (plainly 30)] := by
  refine launch_success_truthful testAgent testAgent_fresh _ ⟨?_,?_,True.intro⟩
  · intro req cred around _ d listed
    cases listed
  intro req cred around _ d listed _ late
  have outcome : (testAgent.launchJob (testRequest 1000 "n1") (testCredential 1000) (plainly 20)).2 = .launched := by
    decide +kernel
  rcases List.mem_cons.mp listed with rfl | absurd_
  · cases late
  · cases absurd_

/-- A root job and a launch for another node are refused, and their repeats are answered with success. -/
theorem refused_launch_reported_successful :
    let first := fun req cred => (testAgent.launchJob req cred (plainly 20)).2
    let again := fun req cred => ((testAgent.deliver req cred (plainly 20)).launchJob req cred (plainly 30)).2
    first (testRequest 1000 "n2") (testCredential 1000) = .refused (.wrongNode "n2" "n1") ∧
      again (testRequest 1000 "n2") (testCredential 1000) = .repeated ∧
      first (testRequest 0 "") (testCredential 0) = .refused .root ∧
      again (testRequest 0 "") (testCredential 0) = .repeated ∧
      ¬(testAgent.deliver (testRequest 0 "") (testCredential 0) (plainly 20)).Truthful
        (.launch (testRequest 0 "") (testCredential 0) (plainly 30)) := by
  have refused : (testAgent.launchJob (testRequest 0 "") (testCredential 0) (plainly 20)).2 = .refused .root := by
    decide +kernel
  have repeated : ((testAgent.deliver (testRequest 0 "") (testCredential 0) (plainly 20)).launchJob
      (testRequest 0 "") (testCredential 0) (plainly 30)).2 = .repeated := by
    decide +kernel
  refine ⟨by decide +kernel,by decide +kernel,refused,repeated,fun truthful => ?_⟩
  obtain ⟨d,listed,-,passed⟩ := truthful _ _ _ rfl (by rw [repeated]; rfl)
  have outcome : d.outcome = .repeated ∨ d.outcome = .refused .root := by
    rcases List.mem_cons.mp listed with rfl | listed
    · exact .inl repeated
    · rcases List.mem_cons.mp listed with rfl | listed
      · exact .inr refused
      · cases listed
  have resources := passed.resources
  rcases outcome with outcome | outcome <;> rw [outcome] at resources <;> simp [Outcome.reserved] at resources

end Spur.Auth.Delivery
