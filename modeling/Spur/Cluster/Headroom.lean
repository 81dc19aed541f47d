import Spur.Library.Tally
import Spur.Cluster.Throttle

/-! Quotas over one pass. A job that clears a gate fits under the cap together with everything claimed before it,
as long as the sums stay within 64 bits. An empty QOS or account name is the same as none. -/
namespace Spur.Cluster
open Spur Spur.Library Spur.Sched List Option Table

inductive Dim where
  | cpu | node | memory | gpu
  deriving DecidableEq

variable {dim : Dim} {candidates : List Candidate} {value : Option String} {name license : String} {others : List Job}
  {consumed : Option Nat} {pending : PendingJob}

namespace Tres

def get (tres : Tres) : Dim → Nat
  | .cpu => tres.cpu
  | .node => tres.node
  | .memory => tres.memory
  | .gpu => tres.gpu

@[simp] theorem get_add (a b : Tres) (dim : Dim) : (a.add b).get dim = wrap64 (a.get dim + b.get dim) := by
  cases dim <;> rfl

theorem get_charging (other : dim ≠ .node) (tres : Tres) (charge : Nat) :
    (tres.charging charge).get dim = tres.get dim := by
  cases dim with
  | node => exact absurd rfl other
  | cpu | memory | gpu => rfl

@[simp] theorem get_zero (dim : Dim) : ({} : Tres).get dim = 0 := by
  cases dim <;> rfl

end Tres

/-- The room a job that clears a gate finds: for one more running job, and for its footprint under
the per-user and the group caps. The group's node cap is not part of it. -/
structure Room (tres : Tres) (usage : Usage) (jobCap : Option Nat) (userCap groupCap : Option Tres) : Prop where
  jobs : ∀ cap, jobCap = some cap → usage.running < cap
  user : ∀ cap dim, userCap = some cap → 0 < cap.get dim →
    wrap64 (usage.userRunning.get dim + tres.get dim) ≤ cap.get dim
  group : ∀ cap dim, groupCap = some cap → dim ≠ .node → 0 < cap.get dim →
    wrap64 (usage.groupRunning.get dim + tres.get dim) ≤ cap.get dim

variable {limits : QosLimits}

theorem countCap_none {cap : Option Nat} {count : Nat} {reason : PendingReason}
    (clear : (cap.bind fun cap => if cap ≤ count then some reason else none) = none) (limit : Nat)
    (limited : cap = some limit) : count < limit := by
  rw [limited,bind_some] at clear
  by_contra full
  rw [if_pos (Nat.le_of_not_lt full)] at clear
  cases clear

theorem tresCap_none {cap : Option Tres} {used : Tres} {cpu node memory gpu : PendingReason}
    (clear : (cap.bind fun cap => tresCapBreach used cap cpu node memory gpu) = none) {limit : Tres} (dim : Dim)
    (limited : cap = some limit) (capped : 0 < limit.get dim) : used.get dim ≤ limit.get dim := by
  rw [limited,bind_some,tresCapBreach] at clear
  split at clear
  · cases clear
  split at clear
  · cases clear
  split at clear
  · cases clear
  split at clear
  · cases clear
  cases dim <;> simp only [Tres.get] at capped ⊢ <;> omega

def QosLimits.Fits (limits : QosLimits) (spec : JobSpec) (usage : Usage) : Prop :=
  Room (jobTres spec) usage limits.maxJobsPerUser limits.maxTresPerUser limits.grpTres

def AccountLimits.Fits (limits : AccountLimits) (spec : JobSpec) (usage : Usage) : Prop :=
  Room (jobTres spec) usage limits.maxRunningJobs none limits.grpTres

section

variable {spec : JobSpec} {usage : Usage} {charge : Nat}

theorem checkQosLimits_room (clear : checkQosLimits spec limits usage charge = none) : limits.Fits spec usage := by
  unfold checkQosLimits qosResourceBreach at clear
  simp only [or_eq_none_iff] at clear
  obtain ⟨⟨⟨jobs,_⟩,_⟩,⟨⟨_,_⟩,user⟩,group⟩ := clear
  refine ⟨countCap_none jobs,fun cap dim limited capped => ?_,fun cap dim limited other capped => ?_⟩
  · have fits := tresCap_none user dim limited capped
    rwa [Tres.get_add] at fits
  · have fits := tresCap_none group dim limited capped
    rwa [Tres.get_add,Tres.get_charging other] at fits

theorem soleBlocker_room (sole : grpNodeIsSoleBlocker spec limits usage charge) : limits.Fits spec usage := by
  obtain ⟨jobs,user,group⟩ := checkQosLimits_room (isNone_iff_eq_none.mp sole)
  refine ⟨jobs,user,?_⟩
  intro cap dim limited other capped
  have lifted := group _ dim (by rw [limited]; rfl) other (by rwa [Tres.get_charging other])
  rwa [Tres.get_charging other] at lifted

theorem checkAccountLimits_room {limits : AccountLimits} (clear : checkAccountLimits spec limits usage charge = none) :
    limits.Fits spec usage := by
  unfold checkAccountLimits accountResourceBreach at clear
  simp only [or_eq_none_iff] at clear
  obtain ⟨⟨⟨jobs,_⟩,_⟩,_,group⟩ := clear
  refine ⟨countCap_none jobs,nofun,fun cap dim limited other capped => ?_⟩
  have fits := tresCap_none group dim limited capped
  rwa [Tres.get_add,Tres.get_charging other] at fits

end

section

def exactCpus (spec : JobSpec) : Nat := spec.numTasks * spec.cpusPerTask

/-- Every cpu cap that is set and nonzero holds for the exact cpu count of the job. -/
structure CpuCapsHold (spec : JobSpec) (limits : QosLimits) (usage : Usage) (account : AccountLimits)
    (accountUsage : Usage) : Prop where
  job : ∀ cap, limits.maxTresPerJob = some cap ∨ account.maxTresPerJob = some cap → 0 < cap.cpu → exactCpus spec ≤ cap.cpu
  user : ∀ cap, limits.maxTresPerUser = some cap → 0 < cap.cpu → usage.userRunning.cpu + exactCpus spec ≤ cap.cpu
  group : ∀ cap, limits.grpTres = some cap → 0 < cap.cpu → usage.groupRunning.cpu + exactCpus spec ≤ cap.cpu
  accountGroup : ∀ cap, account.grpTres = some cap → 0 < cap.cpu →
    accountUsage.groupRunning.cpu + exactCpus spec ≤ cap.cpu

private theorem tresCapBreach_own (used : Tres) (cpu node memory gpu : PendingReason) :
    tresCapBreach used { cpu := max 1 used.cpu } cpu node memory gpu = none := by
  unfold tresCapBreach
  rw [if_neg (by dsimp only; omega)]
  simp

theorem cpu_caps_hold_iff (spec : JobSpec) (usage accountUsage : Usage) :
    (∀ limits account charge accountCharge, checkQosLimits spec limits usage charge = none →
      checkAccountLimits spec account accountUsage accountCharge = none →
      CpuCapsHold spec limits usage account accountUsage) ↔
    exactCpus spec < 2 ^ 32 ∧ usage.userRunning.cpu + exactCpus spec < 2 ^ 64 ∧
      usage.groupRunning.cpu + exactCpus spec < 2 ^ 64 ∧ accountUsage.groupRunning.cpu + exactCpus spec < 2 ^ 64 := by
  constructor
  · intro hold
    -- A cap of exactly what the check computes is passed.
    have job := (hold { maxTresPerJob := some { cpu := max 1 (jobTres spec).cpu } } {} 0 0
      (by simp [checkQosLimits,qosResourceBreach,tresCapBreach_own]) rfl).job _ (.inl rfl)
    have user := (hold { maxTresPerUser := some { cpu := max 1 (usage.userRunning.add (jobTres spec)).cpu } } {} 0 0
      (by simp [checkQosLimits,qosResourceBreach,tresCapBreach_own]) rfl).user _ rfl
    have group := (hold { grpTres := some { cpu := max 1 (usage.groupRunning.add ((jobTres spec).charging 0)).cpu } } {} 0 0
      (by simp [checkQosLimits,qosResourceBreach,tresCapBreach_own]) rfl).group _ rfl
    have accountGroup := (hold {}
      { grpTres := some { cpu := max 1 (accountUsage.groupRunning.add ((jobTres spec).charging 0)).cpu } } 0 0 rfl
      (by simp [checkAccountLimits,accountResourceBreach,tresCapBreach_own])).accountGroup _ rfl
    dsimp only [Tres.add,jobTres,wrap32,wrap64] at job user group accountGroup
    omega
  · rintro ⟨job,user,group,accountGroup⟩ limits account charge accountCharge clear accountClear
    have own : (jobTres spec).cpu = exactCpus spec := Nat.mod_eq_of_lt job
    unfold checkQosLimits qosResourceBreach at clear
    unfold checkAccountLimits accountResourceBreach at accountClear
    simp only [or_eq_none_iff] at clear accountClear
    obtain ⟨-,⟨⟨-,perJob⟩,perUser⟩,perGroup⟩ := clear
    obtain ⟨-,accountJob,perAccount⟩ := accountClear
    have below (charge : Nat) {before : Tres} (fits : before.cpu + exactCpus spec < 2 ^ 64) :
        (before.add ((jobTres spec).charging charge)).cpu = before.cpu + exactCpus spec := by
      change wrap64 (before.cpu + (jobTres spec).cpu) = _
      rw [own]
      exact Nat.mod_eq_of_lt fits
    refine ⟨fun cap limited capped => ?_,fun cap limited capped => ?_,fun cap limited capped => ?_,
      fun cap limited capped => ?_⟩
    · rw [← own]
      exact limited.elim (tresCap_none perJob .cpu · capped) (tresCap_none accountJob .cpu · capped)
    · rw [← below _ user]
      exact tresCap_none perUser .cpu limited capped
    · rw [← below charge group]
      exact tresCap_none perGroup .cpu limited capped
    · rw [← below _ accountGroup]
      exact tresCap_none perAccount .cpu limited capped

/-- 65536 tasks of 65536 cpus count as no cpu at all. -/
theorem wrapped_product_passes_cap :
    let spec : JobSpec := { numTasks := 2 ^ 16, cpusPerTask := 2 ^ 16 }
    let limits : QosLimits := { maxTresPerJob := some { cpu := 1 } }
    checkQosLimits spec limits ⟨0,0,{},{},none⟩ 1 = none ∧ checkAccountLimits spec {} ⟨0,0,{},{},none⟩ 1 = none ∧
      ¬CpuCapsHold spec limits ⟨0,0,{},{},none⟩ {} ⟨0,0,{},{},none⟩ := by
  refine ⟨by decide +kernel,by decide +kernel,fun holds => ?_⟩
  exact absurd (holds.job _ (.inl rfl) (by decide)) (by decide)

end
section

variable (jobs : Table JobId Job)

def footprint (dim : Dim) (job : Job) : Nat := (jobTres job.spec).get dim

def occupies (inScope : Job → Bool) (job : Job) : Bool := job.occupiesResources && inScope job

def usage (inScope : Job → Bool) : Dim → Nat
  | .node =>
    let used := (jobList jobs).filter (occupies inScope)
    ((used.filter fun job => !job.allocatedNodes.isEmpty).flatMap Job.allocatedNodes).toFinset.card +
      ((used.filter fun job => job.allocatedNodes.isEmpty).map fun job => job.spec.numNodes).sum
  | dim => load (occupies inScope) (footprint dim) (jobList jobs)

theorem get_foldl_add (dim : Dim) (footprints : List Tres) (start : Tres) :
    wrap64 ((footprints.foldl Tres.add start).get dim) = wrap64 (start.get dim + (footprints.map (·.get dim)).sum) := by
  induction footprints generalizing start with
  | nil => rfl
  | cons tres rest ih =>
    rw [foldl_cons,ih,Tres.get_add,map_cons,sum_cons]
    unfold wrap64
    omega

theorem sumRunningTres_get {inScope : Job → Bool} :
    wrap64 ((sumRunningTres jobs inScope).get dim) = wrap64 (usage jobs inScope dim) := by
  unfold sumRunningTres
  by_cases node : dim = .node
  · subst node
    rfl
  rw [Tres.get_charging node,get_foldl_add,Tres.get_zero,Nat.zero_add,List.map_map]
  cases dim with
  | node => exact absurd rfl node
  | cpu | memory | gpu => rfl

def extent : Dim → Job → Nat
  | .node, job => job.spec.numNodes + job.allocatedNodes.length
  | dim, job => footprint dim job

def FootprintsFit : Prop := ∀ dim, ((jobList jobs).map (extent dim)).sum < 2 ^ 64

variable {jobs}

theorem footprint_le_extent (dim : Dim) (job : Job) : footprint dim job ≤ extent dim job := by
  cases dim with
  | node => exact Nat.le_add_right _ _
  | cpu | memory | gpu => exact le_rfl

theorem usage_le (inScope : Job → Bool) (dim : Dim) :
    usage jobs inScope dim ≤ load Job.occupiesResources (extent dim) (jobList jobs) := by
  have additive : ∀ weight : Job → Nat, (∀ job, weight job ≤ extent dim job) →
      load (occupies inScope) weight (jobList jobs) ≤ load Job.occupiesResources (extent dim) (jobList jobs) := by
    intro weight below
    induction jobList jobs with
    | nil => exact le_rfl
    | cons job rest ih =>
      rw [load_cons,load_cons]
      have head := below job
      unfold occupies at ih ⊢
      cases job.occupiesResources <;> cases inScope job <;> simp <;> omega
  cases dim with
  | cpu | memory | gpu => exact additive _ fun job => le_rfl
  | node =>
    refine le_trans ?_ (additive _ fun job => le_rfl)
    unfold usage load
    dsimp only
    induction (jobList jobs).filter _ with
    | nil => simp
    | cons job rest ih =>
      rw [filter_cons,filter_cons,map_cons,sum_cons]
      cases held : job.allocatedNodes.isEmpty with
      | true =>
        simp only [Bool.not_true,Bool.false_eq_true,if_false,if_true,map_cons,sum_cons,extent]
        omega
      | false =>
        simp only [Bool.not_false,Bool.false_eq_true,if_false,if_true,flatMap_cons,toFinset_append,extent]
        have joined := Finset.card_union_le job.allocatedNodes.toFinset
          ((rest.filter fun job => !job.allocatedNodes.isEmpty).flatMap Job.allocatedNodes).toFinset
        have few := job.allocatedNodes.toFinset_card_le
        omega

end

section

variable (settings : PassSettings) (s : State)

theorem arrayGate_eligible_sublist (counts : Table JobId Nat) :
    (((arrayGate counts candidates).1.filter Candidate.eligible).map Candidate.job).Sublist
      ((candidates.filter Candidate.eligible).map Candidate.job) := by
  induction candidates generalizing counts with
  | nil => simp [arrayGate]
  | cons candidate rest ih =>
    unfold arrayGate
    split
    next array limit live _ _ =>
      dsimp only
      rw [filter_cons_of_pos live]
      split
      · exact (ih _).cons _
      · rw [filter_cons_of_pos live]
        exact (ih _).cons_cons _
    next =>
      rw [filter_cons,filter_cons]
      split
      · exact (ih _).cons_cons _
      · exact ih _

theorem usage_add_queued_le (inScope member : Job → Bool) (dim : Dim) :
    usage s.jobs inScope dim + load member (footprint dim) (eligibleJobs (throttled settings s).1) ≤
      ((jobList s.jobs).map (extent dim)).sum := by
  have queued : load member (footprint dim) (eligibleJobs (throttled settings s).1) ≤
      load (fun job => !job.occupiesResources) (extent dim) (jobList s.jobs) := by
    have free : eligibleJobs (throttled settings s).1 =
        (((arrayGate (runningArrayCounts s.jobs) (queue settings s).1).1.filter Candidate.eligible).map
          Candidate.job |>.filter fun job => !job.toJob.holdsAPlacement).map PendingJob.toJob := by
      rw [List.filter_map,List.map_map,filter_comm]
      rfl
    rw [free]
    refine (load_le_of_sublist (((arrayGate_eligible_sublist _).filter _).map _)).trans ?_
    rw [load_perm ((((queue_perm settings s).filter _).map _).filter _ |>.map _)]
    -- Each queued job is compared with the job of the table it stands for.
    induction jobList s.jobs with
    | nil => exact le_rfl
    | cons job rest ih =>
      rw [filterMap_cons,load_cons]
      cases found : candidateOf settings s job with
      | none =>
        dsimp only
        omega
      | some candidate =>
        dsimp only
        obtain ⟨pending,spec,holds⟩ := candidateOf_frame found
        have same : footprint dim candidate.job.toJob ≤ extent dim job := by
          have below := footprint_le_extent dim job
          unfold footprint at below ⊢
          rwa [spec]
        have occupied : job.occupiesResources = job.holdsAPlacement := by simp [Job.occupiesResources,pending]
        rw [filter_cons]
        cases candidate.eligible with
        | false =>
          simp only [Bool.false_eq_true,if_false]
          omega
        | true =>
          simp only [if_true,map_cons,filter_cons,holds]
          cases placed : job.holdsAPlacement with
          | true =>
            simp only [Bool.not_true,Bool.false_eq_true,if_false]
            omega
          | false =>
            rw [occupied,placed]
            simp only [Bool.not_false,if_true,map_cons,load_cons]
            split <;> omega
  have held := @usage_le s.jobs inScope dim
  have parts := load_add_load_not Job.occupiesResources (extent dim) (jobList s.jobs)
  omega

end

def ofQos (qos : String) (job : Job) : Bool := job.spec.qos == some qos

def ofAccount (account : String) (job : Job) : Bool := job.spec.account == some account

/-- The headroom tables hold, under every nonempty name, the sums over the members. -/
structure Tallied (reserved : PassReservations) (members : List Job) : Prop where
  qosGrp : ∀ qos dim, qos ≠ "" → dim ≠ .node →
    ((reserved.qosGrp[qos]?).getD {}).get dim = wrap64 (load (ofQos qos) (footprint dim) members)
  qosUserTres : ∀ user qos dim, qos ≠ "" →
    ((reserved.qosUserTres[(user,qos)]?).getD {}).get dim = wrap64 (load (ofUser user (ofQos qos)) (footprint dim) members)
  qosUserCount : ∀ user qos, qos ≠ "" →
    (reserved.qosUserCount[(user,qos)]?).getD 0 = load (ofUser user (ofQos qos)) (fun _ => 1) members
  accountGrp : ∀ account dim, account ≠ "" → dim ≠ .node →
    ((reserved.accountGrp[account]?).getD {}).get dim = wrap64 (load (ofAccount account) (footprint dim) members)
  accountUserCount : ∀ user account, account ≠ "" →
    (reserved.accountUserCount[(user,account)]?).getD 0 = load (ofUser user (ofAccount account)) (fun _ => 1) members

variable {reserved : PassReservations}

section

def record {K V : Type} [Ord K] [Std.TransOrd K] (t : Table K V) (key : Option K) (fresh : V) (bump : V → V) : Table K V :=
  key.elim t fun k => t.insert k (bump ((t[k]?).getD fresh))

private theorem measure_record {K V : Type} [DecidableEq K] [Ord K] [Std.TransOrd K] [Std.LawfulEqOrd K]
    {t : Table K V} {key : Option K} {a : K} {fresh : V} {bump : V → V} (measure : V → Nat) (cut : Nat → Nat)
    {scope : Job → Bool} {weight : Job → Nat} {members : List Job} {job : Job}
    (absorbs : ∀ m n, cut (cut m + n) = cut (n + m))
    (bumps : ∀ v, measure (bump v) = cut (measure v + weight job))
    (inside : scope job = decide (key = some a))
    (before : measure ((t[a]?).getD fresh) = cut (load scope weight members)) :
    measure (((record t key fresh bump)[a]?).getD fresh) = cut (load scope weight (job :: members)) := by
  rw [load_cons,inside]
  cases key with
  | none => simpa [record] using before
  | some k =>
    unfold record
    rw [elim_some,find_insert]
    by_cases same : k = a
    · subst same
      rw [if_pos rfl,if_pos (by simp),getD_some,bumps,before,absorbs]
    · rw [if_neg same,if_neg (by simpa using same),Nat.zero_add,before]

private theorem wrap64_absorbs (m n : Nat) : wrap64 (wrap64 m + n) = wrap64 (n + m) := by
  unfold wrap64
  omega

theorem named_eq_some (found : named value = some name) : value = some name ∧ name ≠ "" := by
  obtain ⟨same,filled⟩ := filter_eq_some_iff.mp found
  exact ⟨same,by simpa using filled⟩

theorem tallied_nil : Tallied {} [] := by
  constructor <;> intros <;> simp [wrap64]

theorem Tallied.perm {members : List Job} (tallied : Tallied reserved members)
    (same : others.Perm members) : Tallied reserved others := by
  obtain ⟨qosGrp,qosUserTres,qosUserCount,accountGrp,accountUserCount⟩ := tallied
  constructor <;> intros <;> rw [load_perm same] <;> solve_by_elim

section

variable (reserved : PassReservations) (job : PendingJob) (qosCharge accountCharge : Nat)

private theorem reserve_eq : reserved.reserve job qosCharge accountCharge =
    { qosGrp := record reserved.qosGrp (named job.spec.qos) {} (Tres.add · ((jobTres job.spec).charging qosCharge))
      qosUserTres := record reserved.qosUserTres ((named job.spec.qos).map (job.spec.user,·)) {}
        (Tres.add · (jobTres job.spec))
      qosUserCount := record reserved.qosUserCount ((named job.spec.qos).map (job.spec.user,·)) 0 (· + 1)
      qosClaimedNodes := record reserved.qosClaimedNodes (named job.spec.qos) ∅ (· ∪ job.preferredNodes)
      accountGrp := record reserved.accountGrp (named job.spec.account) {}
        (Tres.add · ((jobTres job.spec).charging accountCharge))
      accountUserCount := record reserved.accountUserCount ((named job.spec.account).map (job.spec.user,·)) 0 (· + 1)
      accountClaimedNodes := record reserved.accountClaimedNodes (named job.spec.account) ∅ (· ∪ job.preferredNodes) } := by
  unfold PassReservations.reserve
  cases named _ <;> cases named _ <;> rfl

end

private theorem scope_named (filled : name ≠ "") : (value == some name) = decide (named value = some name) := by
  rw [Bool.eq_iff_iff,beq_iff_eq,decide_eq_true_iff]
  constructor
  · simp [named,filled]
  · intro found
    exact (named_eq_some found).1

private theorem userScope_named (filled : name ≠ "") {owner user : String} :
    ((value == some name) && owner == user) = decide ((named value).map (owner,·) = some (user,name)) := by
  rw [scope_named filled,Bool.eq_iff_iff,decide_eq_true_iff]
  cases named value <;> simp [and_comm]

theorem reserve_tallied {members : List Job} (tallied : Tallied reserved members)
    (job : PendingJob) (qosCharge accountCharge : Nat) :
    Tallied (reserved.reserve job qosCharge accountCharge) (job.toJob :: members) := by
  have exact_ : ∀ m n : Nat, id _ = id _ := fun m n => Nat.add_comm m n
  rw [reserve_eq]
  constructor
  · intro qos dim filled other
    refine measure_record (Tres.get · dim) wrap64 wrap64_absorbs ?_ (scope_named filled) (tallied.qosGrp qos dim filled other)
    intro tres
    rw [Tres.get_add,Tres.get_charging other]
    rfl
  · intro user qos dim filled
    refine measure_record (Tres.get · dim) wrap64 wrap64_absorbs ?_ (userScope_named filled) (tallied.qosUserTres user qos dim filled)
    intro tres
    rw [Tres.get_add]
    rfl
  · intro user qos filled
    exact measure_record id id exact_ (fun _ => rfl) (userScope_named filled) (tallied.qosUserCount user qos filled)
  · intro account dim filled other
    refine measure_record (Tres.get · dim) wrap64 wrap64_absorbs ?_ (scope_named filled) (tallied.accountGrp account dim filled other)
    intro tres
    rw [Tres.get_add,Tres.get_charging other]
    rfl
  · intro user account filled
    exact measure_record id id exact_ (fun _ => rfl) (userScope_named filled) (tallied.accountUserCount user account filled)

end

section

variable (settings : PassSettings) (s : State)

/-- The caps of one QOS hold for what occupies resources and the members together. -/
structure QosQuotas (qos : String) (members : List Job) : Prop where
  group : ∀ limits cap dim, settings.qos[qos]? = some limits → limits.grpTres = some cap → dim ≠ .node →
    0 < cap.get dim → (Cap.mk (ofQos qos) (footprint dim) (usage s.jobs (inQos qos) dim) (cap.get dim)).Holds members
  user : ∀ limits cap user dim, settings.qos[qos]? = some limits → limits.maxTresPerUser = some cap →
    0 < cap.get dim → (Cap.mk (ofUser user (ofQos qos)) (footprint dim) (usage s.jobs (ofUser user (inQos qos)) dim)
      (cap.get dim)).Holds members
  jobs : ∀ limits cap user, settings.qos[qos]? = some limits → limits.maxJobsPerUser = some cap →
    (Cap.mk (ofUser user (ofQos qos)) (fun _ => 1) (countRunning s.jobs (ofUser user (inQos qos))) cap).Holds members

/-- The caps of one account; the group caps are those its users with jobs have in common. -/
structure AccountQuotas (account : String) (members : List Job) : Prop where
  group : ∀ cap dim, (∀ job ∈ jobList s.jobs, job.spec.account = some account →
      (settings.accountLimits job.spec.user account).grpTres = some cap) → dim ≠ .node → 0 < cap.get dim →
    (Cap.mk (ofAccount account) (footprint dim) (usage s.jobs (inAccount account) dim) (cap.get dim)).Holds members
  jobs : ∀ cap user, (settings.accountLimits user account).maxRunningJobs = some cap →
    (Cap.mk (ofUser user (ofAccount account)) (fun _ => 1) (countRunning s.jobs (ofUser user (inAccount account)))
      cap).Holds members

structure FoundRoom (reserved : PassReservations) (job : PendingJob) : Prop where
  qos : ∀ qos, job.spec.qos = some qos →
    ∃ consumed, (settings.resolveQos job.spec).Fits job.spec (qosUsage s.jobs reserved job qos consumed)
  account : ∀ account, account ≠ "" → job.spec.account = some account →
    (settings.accountLimits job.spec.user account).Fits job.spec (accountUsage s.jobs reserved job account)

variable {settings s}

private theorem wrapped_sum {held used reserved tallied own : Nat} (same : wrap64 held = wrap64 used)
    (tally : reserved = wrap64 tallied) (fits : used + tallied + own < 2 ^ 64) :
    wrap64 (wrap64 (held + reserved) + own) = used + tallied + own := by
  unfold wrap64 at *
  omega

private theorem admits_of_room {jobs : Table JobId Job} {inScope member : Job → Bool} {cap : Tres}
    {reserved : Tres} {members : List Job} {job : Job}
    (tally : reserved.get dim = wrap64 (load member (footprint dim) members))
    (fits : usage jobs inScope dim + load (fun _ => true) (footprint dim) (job :: members) < 2 ^ 64)
    (room : wrap64 (((sumRunningTres jobs inScope).add reserved).get dim + footprint dim job) ≤ cap.get dim) :
    usage jobs inScope dim + load member (footprint dim) members + footprint dim job ≤ cap.get dim := by
  have fewer : load member (footprint dim) members ≤ load (fun _ => true) (footprint dim) members := by
    have parts := load_add_load_not member (footprint dim) members
    unfold load at parts ⊢
    rw [filter_true]
    omega
  rw [load_cons,if_pos rfl] at fits
  rw [Tres.get_add,wrapped_sum (sumRunningTres_get jobs) tally (by omega)] at room
  exact room

variable {reserved : PassReservations} {members : List Job} {job : PendingJob}

theorem qosQuotas_cons {qos : String} (filled : qos ≠ "") (tallied : Tallied reserved members)
    (cleared : FoundRoom settings s reserved job)
    (fits : ∀ inScope dim, usage s.jobs inScope dim + load (fun _ => true) (footprint dim) (job.toJob :: members) < 2 ^ 64)
    (quotas : QosQuotas settings s qos members) : QosQuotas settings s qos (job.toJob :: members) := by
  have resolved : ∀ {limits}, settings.qos[qos]? = some limits → job.spec.qos = some qos →
      settings.resolveQos job.spec = limits := by
    intro limits found own
    rw [PassSettings.resolveQos,own,bind_some,found]
    rfl
  constructor
  · intro limits cap dim found capped other positive
    refine (quotas.group limits cap dim found capped other positive).cons fun inside => ?_
    have own : job.spec.qos = some qos := by simpa [ofQos] using inside
    obtain ⟨consumed,room⟩ := cleared.qos qos own
    rw [resolved found own] at room
    exact admits_of_room (tallied.qosGrp qos dim filled other) (fits _ dim) (room.group cap dim capped other positive)
  · intro limits cap user dim found capped positive
    refine (quotas.user limits cap user dim found capped positive).cons fun inside => ?_
    obtain ⟨own,rfl⟩ : job.spec.qos = some qos ∧ job.spec.user = user := by simpa [ofUser,ofQos] using inside
    obtain ⟨consumed,room⟩ := cleared.qos qos own
    rw [resolved found own] at room
    exact admits_of_room (tallied.qosUserTres _ qos dim filled) (fits _ dim) (room.user cap dim capped positive)
  · intro limits cap user found capped
    refine (quotas.jobs limits cap user found capped).cons fun inside => ?_
    obtain ⟨own,rfl⟩ : job.spec.qos = some qos ∧ job.spec.user = user := by simpa [ofUser,ofQos] using inside
    obtain ⟨consumed,room⟩ := cleared.qos qos own
    rw [resolved found own] at room
    have below := room.jobs cap capped
    unfold qosUsage at below
    dsimp only at below ⊢
    rw [tallied.qosUserCount _ qos filled] at below
    exact below

theorem accountQuotas_cons {account : String} (filled : account ≠ "") (tallied : Tallied reserved members)
    (cleared : FoundRoom settings s reserved job) (listed : ∃ stored ∈ jobList s.jobs, stored.spec = job.spec)
    (fits : ∀ inScope dim, usage s.jobs inScope dim + load (fun _ => true) (footprint dim) (job.toJob :: members) < 2 ^ 64)
    (quotas : AccountQuotas settings s account members) : AccountQuotas settings s account (job.toJob :: members) := by
  constructor
  · intro cap dim shared other positive
    refine (quotas.group cap dim shared other positive).cons fun inside => ?_
    have own : job.spec.account = some account := by simpa [ofAccount] using inside
    obtain ⟨stored,present,spec⟩ := listed
    have capped := shared stored present (by rwa [spec])
    rw [spec] at capped
    have room := (cleared.account account filled own).group cap dim capped other positive
    exact admits_of_room (tallied.accountGrp account dim filled other) (fits _ dim) room
  · intro cap user capped
    refine (quotas.jobs cap user capped).cons fun inside => ?_
    obtain ⟨own,rfl⟩ : job.spec.account = some account ∧ job.spec.user = user := by simpa [ofUser,ofAccount] using inside
    have below := (cleared.account account filled own).jobs cap capped
    unfold accountUsage at below
    dsimp only at below ⊢
    rw [tallied.accountUserCount _ account filled] at below
    exact below

theorem QosQuotas.nil {qos : String} : QosQuotas settings s qos [] :=
  ⟨fun _ _ _ _ _ _ _ => Cap.holds_nil,fun _ _ _ _ _ _ _ => Cap.holds_nil,fun _ _ _ _ _ => Cap.holds_nil⟩

theorem AccountQuotas.nil {account : String} : AccountQuotas settings s account [] :=
  ⟨fun _ _ _ _ _ => Cap.holds_nil,fun _ _ _ => Cap.holds_nil⟩

theorem QosQuotas.subperm {qos : String} (quotas : QosQuotas settings s qos members)
    (sub : others.Subperm members) : QosQuotas settings s qos others := by
  constructor
  · intro limits cap dim found capped other positive
    exact (quotas.group limits cap dim found capped other positive).subperm sub
  · intro limits cap user dim found capped positive
    exact (quotas.user limits cap user dim found capped positive).subperm sub
  · intro limits cap user found capped
    exact (quotas.jobs limits cap user found capped).subperm sub

theorem AccountQuotas.subperm {account : String} (quotas : AccountQuotas settings s account members)
    (sub : others.Subperm members) : AccountQuotas settings s account others := by
  constructor
  · intro cap dim shared other positive
    exact (quotas.group cap dim shared other positive).subperm sub
  · intro cap user capped
    exact (quotas.jobs cap user capped).subperm sub

end

section

variable (settings : PassSettings) (s : State) (unclaimed : Finset JobId)

inductive QuotaStep (pass : QuotaPass) (job : PendingJob) : GateOutcome → QuotaPass → Prop where
  | claimed (credited : PendingJob) (qosCharge accountCharge : Nat) {next : QuotaPass}
      (same : credited.toJob = job.toJob) (cleared : FoundRoom settings s pass.reserved credited)
      (claims : job.jobId ∉ unclaimed) (reserved : next.reserved = pass.reserved.reserve credited qosCharge accountCharge)
      (lent : next.idleFillCandidates = pass.idleFillCandidates) : QuotaStep pass job .keep next
  | unclaimed (free : job.jobId ∈ unclaimed) : QuotaStep pass job .keep pass
  | blocked (reason : PendingReason) {next : QuotaPass} (reserved : next.reserved = pass.reserved)
      (lent : next.idleFillCandidates = pass.idleFillCandidates) : QuotaStep pass job (.block reason) next
  | lent (reason : PendingReason) (credited : PendingJob) (accountCharge : Nat) {next : QuotaPass}
      (same : credited.toJob = job.toJob) (cleared : FoundRoom settings s pass.reserved credited)
      (reserved : next.reserved = pass.reserved.reserve credited 0 accountCharge)
      (lent : next.idleFillCandidates = pass.idleFillCandidates ++ [credited]) :
      QuotaStep pass job (.block reason) next

variable {settings s}

theorem accountBlockWith_room {job : PendingJob} {limits : String → String → AccountLimits}
    {admitted : AccountAdmitted}
    (ok : accountBlockWith pending limits s.jobs s.nodes reserved = .ok (admitted,job)) {account : String}
    (filled : account ≠ "") (own : pending.spec.account = some account) :
    (limits pending.spec.user account).Fits pending.spec (accountUsage s.jobs reserved pending account) := by
  unfold accountBlockWith at ok
  have name : named pending.spec.account = some account := by simp [own,named,filled]
  rw [name] at ok
  dsimp only at ok
  split at ok
  · cases ok
  next clear => exact checkAccountLimits_room clear

theorem qosBlockWith_room {job : PendingJob} {charge : Nat}
    (ok : qosBlockWith pending limits s.jobs s.nodes reserved consumed = .ok (charge,job)) {qos : String}
    (own : pending.spec.qos = some qos) : limits.Fits pending.spec (qosUsage s.jobs reserved pending qos consumed) := by
  unfold qosBlockWith at ok
  rw [own] at ok
  dsimp only at ok
  split at ok
  next clear => exact checkQosLimits_room clear
  · cases ok

theorem qosBlocked_room {blocked : QosBlocked}
    (refused : qosBlockWith pending limits s.jobs s.nodes reserved consumed = .error blocked)
    (sole : blocked.grpNodeSoleBlocker) {qos : String} (own : pending.spec.qos = some qos) :
    limits.Fits pending.spec (qosUsage s.jobs reserved pending qos consumed) := by
  unfold qosBlockWith at refused
  rw [own] at refused
  dsimp only at refused
  split at refused
  · cases refused
  · cases refused
    exact soleBlocker_room sole

theorem FoundRoom.congr {job credited : PendingJob} (same : credited.toJob = job.toJob)
    (cleared : FoundRoom settings s reserved job) : FoundRoom settings s reserved credited := by
  obtain ⟨record,preferred⟩ := job
  cases same
  exact ⟨cleared.qos,cleared.account⟩

theorem quotaGate_step (pass : QuotaPass) (job : PendingJob) :
    QuotaStep settings s unclaimed pass job (quotaGate settings s unclaimed pass job).1
      (quotaGate settings s unclaimed pass job).2.2 := by
  unfold quotaGate
  split
  · exact .blocked _ rfl rfl
  rename_i admitted credited admits
  have same := accountBlockWith_framed admits
  have account : ∀ account, account ≠ "" → credited.spec.account = some account →
      (settings.accountLimits credited.spec.user account).Fits credited.spec
        (accountUsage s.jobs pass.reserved credited account) := by
    intro account filled own
    have room := accountBlockWith_room admits filled (by rwa [← same])
    unfold accountUsage at room ⊢
    rwa [← same] at room
  dsimp only
  split
  next blocked refused =>
    unfold lend
    dsimp only
    split
    next lends =>
      have sole : blocked.grpNodeSoleBlocker := by
        simp only [Bool.and_eq_true] at lends
        exact lends.1.1.2
      have cleared : FoundRoom settings s _ credited :=
        ⟨fun qos own => ⟨_,qosBlocked_room refused sole own⟩,account⟩
      have stripped : ({ credited with preferredNodes := ∅ } : PendingJob).toJob = credited.toJob := rfl
      exact .lent _ _ _ (stripped.trans same) (cleared.congr stripped) rfl rfl
    · exact .blocked _ rfl rfl
  next charge kept passes =>
    have also := qosBlockWith_framed passes
    have cleared : FoundRoom settings s _ credited :=
      ⟨fun qos own => ⟨_,qosBlockWith_room passes own⟩,account⟩
    split
    next free => exact .unclaimed (by rwa [also,same] at free)
    next claims =>
      exact .claimed kept charge _ (also.trans same) (cleared.congr also) (by rwa [also,same] at claims) rfl rfl

end

section

theorem retainEligible_run {S : Type} {gate : S → PendingJob → GateOutcome × PendingJob × S} (framed : Framed gate)
    {Inv : S → List Job → List Job → Prop} {all : List Job}
    (step : ∀ state kept seen job, seen ++ [job.toJob] <+: all → Inv state kept seen →
      Inv (gate state job).2.2 (match (gate state job).1 with
        | .keep => kept ++ [job.toJob]
        | _ => kept) (seen ++ [job.toJob])) (state : S) (kept seen : List Job) (rest : seen ++ eligibleJobs candidates = all)
    (start : Inv state kept seen) :
    Inv (retainEligible gate state candidates).1 (kept ++ eligibleJobs (retainEligible gate state candidates).2.1) all := by
  induction candidates generalizing state kept seen with
  | nil =>
    rw [← rest]
    simpa [retainEligible,eligibleJobs] using start
  | cons candidate later ih =>
    unfold retainEligible
    by_cases live : candidate.eligible
    · have split_ : eligibleJobs (candidate :: later) = candidate.job.toJob :: eligibleJobs later := by
        simp [eligibleJobs,live]
      have same := framed state candidate.job
      have after := step state kept seen _ ⟨eligibleJobs later,by
        rw [← rest,split_,append_assoc,singleton_append]⟩ start
      rw [if_neg (by simp [live])]
      generalize gate state _ = answer at same after
      obtain ⟨outcome,job,next⟩ := answer
      have tail := fun kept => ih next kept (seen ++ [candidate.job.toJob])
        (by rw [← rest,split_,append_assoc,singleton_append])
      dsimp only at same after ⊢
      cases outcome with
      | keep =>
        have outcome := tail _ after
        simpa [eligibleJobs,live,same] using outcome
      | block reason => exact tail kept after
      | dropUntagged => exact tail kept after
    · have split_ : ∀ l, eligibleJobs (candidate :: l) = eligibleJobs l := by simp [eligibleJobs,live]
      rw [if_pos (by simp [live])]
      rw [split_]
      exact ih state kept seen (by rwa [split_] at rest) start

end

variable {qos account : String}

section

variable (settings : PassSettings) (s : State) (unclaimed : Finset JobId)

def members (kept : List Job) (lent : List PendingJob) : List Job :=
  (kept.filter fun job => decide (job.jobId ∉ unclaimed)) ++ lent.map PendingJob.toJob

/-- The tables tally the members, the members are among the jobs seen, and the caps hold for them. -/
structure Booked (qos account : String) (pass : QuotaPass) (kept seen : List Job) : Prop where
  tallied : Tallied pass.reserved (members unclaimed kept pass.idleFillCandidates)
  within : (members unclaimed kept pass.idleFillCandidates).Subperm seen
  qos : QosQuotas settings s qos (members unclaimed kept pass.idleFillCandidates)
  account : AccountQuotas settings s account (members unclaimed kept pass.idleFillCandidates)

theorem placeable_sublist : (eligibleJobs (placeable settings s).2.1).Sublist
    (eligibleJobs (throttled settings s).1) := by
  refine eligibleJobs_sublist ?_
  unfold placeable accounted
  refine (retainEligible_sublist pureGate_framed _).trans ?_
  exact retainEligible_sublist pureGate_framed _

theorem mem_throttled {job : Job} (inside : job ∈ eligibleJobs (throttled settings s).1) :
    ∃ stored ∈ jobList s.jobs, stored.spec = job.spec := by
  obtain ⟨candidate,live,rfl⟩ := List.mem_map.mp inside
  obtain ⟨listed,eligible⟩ := mem_filter.mp live
  have gated := (mem_filter.mp listed).1
  have queued := (arrayGate_eligible_sublist _).subset
    (List.mem_map_of_mem (f := Candidate.job) (mem_filter.mpr ⟨gated,eligible⟩))
  obtain ⟨original,first,same⟩ := List.mem_map.mp queued
  obtain ⟨stored,present,found⟩ := mem_queue (mem_filter.mp first).1
  obtain ⟨_,spec,_⟩ := candidateOf_frame found
  exact ⟨stored,present,by rw [← spec,same]⟩

variable {settings s unclaimed}

theorem booked_cons (qosNamed : qos ≠ "") (accountNamed : account ≠ "")
    (fit : FootprintsFit s.jobs) {pass next : QuotaPass} {kept kept' seen : List Job} {job credited : PendingJob}
    (queued : (seen ++ [job.toJob]).Sublist (eligibleJobs (throttled settings s).1))
    (booked : Booked settings s unclaimed qos account pass kept seen) (same : credited.toJob = job.toJob)
    (cleared : FoundRoom settings s pass.reserved credited) {qosCharge accountCharge : Nat}
    (reserved : next.reserved = pass.reserved.reserve credited qosCharge accountCharge)
    (grown : (members unclaimed kept' next.idleFillCandidates).Perm
      (job.toJob :: members unclaimed kept pass.idleFillCandidates)) :
    Booked settings s unclaimed qos account next kept' (seen ++ [job.toJob]) := by
  have within : (job.toJob :: members unclaimed kept _).Subperm _ :=
    ((subperm_cons _).mpr booked.within).trans (perm_append_singleton _ _).symm.subperm
  have fits : ∀ inScope dim, usage s.jobs inScope dim +
      load (fun _ => true) (footprint dim) (credited.toJob :: members unclaimed kept pass.idleFillCandidates) < 2 ^ 64 := by
    intro inScope dim
    rw [same]
    have fewer := @load_le_of_subperm _ (fun _ => true) (footprint dim) _ _ (within.trans queued.subperm)
    have bound := usage_add_queued_le settings s inScope (fun _ => true) dim
    have small := fit dim
    omega
  have listed : ∃ stored ∈ jobList s.jobs, stored.spec = credited.spec := by
    rw [same]
    exact mem_throttled settings s (queued.subset (by simp))
  have tallied := reserve_tallied booked.tallied credited qosCharge accountCharge
  have qosHolds := qosQuotas_cons qosNamed booked.tallied cleared fits booked.qos
  have accountHolds := accountQuotas_cons accountNamed booked.tallied cleared listed fits booked.account
  rw [same] at tallied qosHolds accountHolds
  refine ⟨?_,grown.subperm.trans within,qosHolds.subperm grown.subperm,accountHolds.subperm grown.subperm⟩
  rw [reserved]
  exact tallied.perm grown

theorem Booked.keep_books {pass next : QuotaPass} {kept kept' seen : List Job} {job : Job}
    (booked : Booked settings s unclaimed qos account pass kept seen) (reserved : next.reserved = pass.reserved)
    (same : members unclaimed kept' next.idleFillCandidates = members unclaimed kept pass.idleFillCandidates) :
    Booked settings s unclaimed qos account next kept' (seen ++ [job]) := by
  obtain ⟨tallied,within,qosHolds,accountHolds⟩ := booked
  rw [← same] at tallied within qosHolds accountHolds
  rw [← reserved] at tallied
  exact ⟨tallied,within.trans (sublist_append_left _ _).subperm,qosHolds,accountHolds⟩

theorem booked_step (qosNamed : qos ≠ "") (accountNamed : account ≠ "")
    (fit : FootprintsFit s.jobs) (pass : QuotaPass) (kept seen : List Job) (job : PendingJob)
    (queued : (seen ++ [job.toJob]).Sublist (eligibleJobs (throttled settings s).1))
    (booked : Booked settings s unclaimed qos account pass kept seen) :
    Booked settings s unclaimed qos account (quotaGate settings s unclaimed pass job).2.2
      (match (quotaGate settings s unclaimed pass job).1 with
        | .keep => kept ++ [job.toJob]
        | _ => kept) (seen ++ [job.toJob]) := by
  have step := @quotaGate_step settings s unclaimed pass job
  generalize quotaGate settings s unclaimed pass job = answer at step
  obtain ⟨outcome,_,next⟩ := answer
  cases step with
  | claimed credited qosCharge accountCharge same cleared claims reserved lent =>
    refine booked_cons qosNamed accountNamed fit queued booked same cleared reserved ?_
    rw [lent,members,filter_append,filter_singleton,decide_eq_true claims,append_assoc]
    exact perm_middle
  | unclaimed free =>
    refine booked.keep_books rfl ?_
    rw [members,filter_append,filter_singleton,decide_eq_false (not_not.mpr free),members]
    simp
  | blocked reason reserved lent =>
    exact booked.keep_books reserved (by rw [lent])
  | lent reason credited accountCharge same cleared reserved lent =>
    refine booked_cons qosNamed accountNamed fit queued booked same cleared reserved ?_
    rw [lent,members,map_append,map_singleton,same,← append_assoc]
    exact perm_append_singleton _ _

theorem quotaGate_booked (qosNamed : qos ≠ "") (accountNamed : account ≠ "") (fit : FootprintsFit s.jobs)
    (queued : (eligibleJobs candidates).Sublist (eligibleJobs (throttled settings s).1)) {borrowed : Table String Nat} :
    let outcome := retainEligible (quotaGate settings s unclaimed) { borrowedByQos := borrowed } candidates
    Booked settings s unclaimed qos account outcome.1 (eligibleJobs outcome.2.1) (eligibleJobs candidates) := by
  have step : ∀ pass kept seen job, seen ++ [PendingJob.toJob job] <+: eligibleJobs candidates → _ → _ :=
    fun pass kept seen job before booked => @booked_step qos account settings s unclaimed qosNamed accountNamed fit pass
      kept seen job (before.sublist.trans queued) booked
  have start : Booked settings s unclaimed qos account { borrowedByQos := borrowed } [] [] :=
    ⟨tallied_nil,nil_subperm,QosQuotas.nil,AccountQuotas.nil⟩
  exact retainEligible_run (quotaGate_framed settings s unclaimed) step _ [] [] (nil_append _) start

end

section

variable (settings : PassSettings) (s : State)

def wants (license : String) (job : Job) : Nat := ((extractLicenseRequirements job.spec)[license]?).getD 0

def licenseTotal (license : String) : Nat := (settings.licensePool[license]?).getD 0

def licenseUse (license : String) : Nat := ((licensesInUse s.jobs)[license]?).getD 0

def licenseCap (license : String) : Cap Job where
  scope := fun job => decide (0 < wants license job)
  weight := wants license
  base := licenseUse s license
  limit := licenseTotal settings license

/-- The gate's remaining licenses are the available ones without those of the jobs kept. -/
structure Licensed (remaining : Table String Nat) (kept seen : List Job) : Prop where
  left : ∀ license, (remaining[license]?).getD 0 =
    licenseTotal settings license - licenseUse s license - load (licenseCap settings s license).scope (wants license) kept
  holds : ∀ license, (licenseCap settings s license).Holds kept

theorem availableLicenses_find (license : String) :
    ((availableLicenses settings s)[license]?).getD 0 = licenseTotal settings license - licenseUse s license := by
  unfold availableLicenses licenseTotal licenseUse
  rw [find_map]
  cases settings.licensePool[license]? with
  | none => simp
  | some total => rfl

private theorem find_take_licenses (pool wanted : Table String Nat) (license : String) :
    ((wanted.toList.foldl (fun pool entry => pool.modify entry.1 (· - entry.2)) pool)[license]?).getD 0 =
      (pool[license]?).getD 0 - (wanted[license]?).getD 0 := by
  have visits : wanted.toList.foldl (fun pool entry => pool.modify entry.1 (· - entry.2)) pool =
      Table.mergeOver (fun old count => old.map (· - count)) wanted.toList pool := by
    congr 1
    funext pool entry
    refine Table.ext fun k => ?_
    rw [find_modify,Std.ExtTreeMap.getElem?_alter]
    by_cases same : entry.1 = k
    · subst same
      simp
    · rw [if_neg same,if_neg (by simpa using same)]
  rw [visits,find_mergeOver_perm (List.Perm.refl _)]
  cases wanted[license]? <;> cases pool[license]? <;> simp

theorem licensed_step (remaining : Table String Nat) (kept seen : List Job) (job : PendingJob)
    (booked : Licensed settings s remaining kept seen) :
    Licensed settings s (licenseGate settings s remaining job).2.2 (match (licenseGate settings s remaining job).1 with
      | .keep => kept ++ [job.toJob]
      | _ => kept) (seen ++ [job.toJob]) := by
  unfold licenseGate
  dsimp only
  split
  · exact ⟨booked.left,booked.holds⟩
  rename_i enough
  have covered : ∀ license, wants license job.toJob ≤ (remaining[license]?).getD 0 := by
    intro license
    unfold wants
    cases found : (extractLicenseRequirements _)[license]? with
    | none => exact Nat.zero_le _
    | some count =>
      by_contra short
      refine enough ?_
      rw [Bool.or_eq_true]
      right
      rw [List.any_eq_true]
      exact ⟨(license,count),Std.ExtTreeMap.mem_toList_iff_getElem?_eq_some.mpr found,by simpa using short⟩
  have grown : ∀ license, load (licenseCap settings s license).scope (wants license) (kept ++ [job.toJob]) =
      load (licenseCap settings s license).scope (wants license) kept + wants license job.toJob := by
    intro license
    rw [load_append,load_cons,load_nil]
    simp only [licenseCap,decide_eq_true_eq]
    split <;> omega
  constructor
  · intro license
    rw [find_take_licenses,booked.left,grown]
    unfold wants
    omega
  · intro license
    have before := booked.holds license
    have enough := covered license
    rw [booked.left license] at enough
    have more := grown license
    unfold Cap.Holds at before ⊢
    simp only [licenseCap] at before enough more ⊢
    omega

theorem licenseGate_holds : (licenseCap settings s license).Holds
      (eligibleJobs (retainEligible (licenseGate settings s) (availableLicenses settings s) candidates).2.1) := by
  have step : ∀ remaining kept seen job, seen ++ [PendingJob.toJob job] <+: eligibleJobs candidates → _ → _ :=
    fun remaining kept seen job _ before => licensed_step settings s remaining kept seen job before
  have start : Licensed settings s (availableLicenses settings s) [] [] := by
    refine ⟨fun license => ?_,fun license => Cap.holds_nil⟩
    rw [availableLicenses_find,load_nil,Nat.sub_zero]
  have booked := retainEligible_run (licenseGate_framed settings s) step _ [] [] (nil_append _) start
  exact booked.holds license

end

section

variable (settings : PassSettings) (s : State) (unclaimed : Finset JobId)

def keptJobs : List Job := (classifyPendingJobsWith settings s unclaimed).jobs.map PendingJob.toJob

theorem lent_eq : (classifyPendingJobsWith settings s unclaimed).idleFillCandidates =
    (claimed settings s unclaimed).1.idleFillCandidates := by
  unfold classifyPendingJobsWith
  rfl

/-- The jobs a pass leaves schedulable and counts against the quotas, and the ones it lends to. -/
def claimants : List Job :=
  members unclaimed (keptJobs settings s unclaimed) (classifyPendingJobsWith settings s unclaimed).idleFillCandidates

structure QuotasHold (qos account : String) : Prop where
  qos : QosQuotas settings s qos (claimants settings s unclaimed)
  account : AccountQuotas settings s account (claimants settings s unclaimed)
  licenses : ∀ license, (licenseCap settings s license).Holds
    ((keptJobs settings s unclaimed).filter fun job => decide (job.jobId ∉ unclaimed))

theorem claimed_booked (qosNamed : qos ≠ "") (accountNamed : account ≠ "")
    (fit : FootprintsFit s.jobs) : Booked settings s unclaimed qos account (claimed settings s unclaimed).1
      (eligibleJobs (claimed settings s unclaimed).2.1) (eligibleJobs (placeable settings s).2.1) := by
  unfold claimed
  exact quotaGate_booked qosNamed accountNamed fit (placeable_sublist settings s)

theorem licensed_holds :
    (licenseCap settings s license).Holds (eligibleJobs (licensed settings s unclaimed).2.1) := by
  unfold licensed
  exact licenseGate_holds settings s

end

section

def cappedSettings (qos : String) (cap : Tres) : PassSettings :=
  { plainSettings with qos := (∅ : Table String QosLimits).insert qos { grpTres := some cap } }

def twoRequests (spec : JobSpec) : State :=
  { jobs := Std.ExtTreeMap.ofList [(1,Job.new 0 1 spec),(2,Job.new 0 2 spec)] compare }

end

end Spur.Cluster
