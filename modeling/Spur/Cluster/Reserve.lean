import Spur.Cluster.Frame
import Spur.Library.Fallible
import Spur.Library.Run
import Spur.Sched.NodeMatch

/-! Reservations: their access, the requests that change them, and a request's check apart from its entry. -/
namespace Spur.Cluster
open Spur Spur.Library Spur.Library.Run Spur.Library.Fallible Spur.Sched List

section

variable {entry : Wal.ReservationUpdate} {res : Reservation}

def Revokes (entry : Wal.ReservationUpdate) : Prop := entry.addUsers = [] ∧ entry.addAccounts = []

theorem updateReservation_users (revokes : Revokes entry) :
    (updateReservation entry res).users = res.users.filter fun user => !entry.removeUsers.contains user := by
  unfold updateReservation
  rw [revokes.1]
  rfl

theorem updateReservation_accounts (revokes : Revokes entry) :
    (updateReservation entry res).accounts = res.accounts.filter fun account => !entry.removeAccounts.contains account := by
  unfold updateReservation
  rw [revokes.2]
  rfl

def OpenToAll (res : Reservation) : Prop := res.users = [] ∧ res.accounts = []

def KeepsSomebody (entry : Wal.ReservationUpdate) (res : Reservation) : Prop :=
  OpenToAll res ∨ (∃ user ∈ res.users, user ∉ entry.removeUsers) ∨ ∃ account ∈ res.accounts, account ∉ entry.removeAccounts

theorem openToAll_update (revokes : Revokes entry) : OpenToAll (updateReservation entry res) ↔
    (∀ user ∈ res.users, user ∈ entry.removeUsers) ∧ ∀ account ∈ res.accounts, account ∈ entry.removeAccounts := by
  unfold OpenToAll
  rw [updateReservation_users revokes,updateReservation_accounts revokes,filter_eq_nil_iff]
  simp

theorem allowsUser_iff {user : String} {account : Option String} : res.allowsUser user account ↔
    OpenToAll res ∨ user ∈ res.users ∨ ∃ name ∈ res.accounts, account = some name := by
  unfold Reservation.allowsUser OpenToAll
  cases account with
  | none => simp
  | some name => simp [or_assoc]

def Narrows (before after : Reservation) : Prop :=
  ∀ user account, after.allowsUser user account → before.allowsUser user account

theorem narrows_iff (revokes : Revokes entry) : Narrows res (updateReservation entry res) ↔ KeepsSomebody entry res := by
  constructor
  · intro narrows
    by_contra nobody
    unfold KeepsSomebody at nobody
    push Not at nobody
    obtain ⟨named_,users,accounts⟩ := nobody
    obtain ⟨stranger,unknown⟩ := Infinite.exists_notMem_finset res.users.toFinset
    have open_ := (openToAll_update revokes).mpr ⟨users,accounts⟩
    have before := allowsUser_iff.mp (narrows stranger none (allowsUser_iff.mpr (.inl open_)))
    rcases before with all | listed | ⟨_,_,none_⟩
    · exact named_ all
    · exact unknown (mem_toFinset.mpr listed)
    · cases none_
  · intro keeps user account allowed
    rcases allowsUser_iff.mp allowed with open_ | listed | ⟨name,listed,rfl⟩
    · obtain ⟨users,accounts⟩ := (openToAll_update revokes).mp open_
      rcases keeps with all | ⟨kept,named_,stays⟩ | ⟨kept,named_,stays⟩
      · exact allowsUser_iff.mpr (.inl all)
      · exact absurd (users kept named_) stays
      · exact absurd (accounts kept named_) stays
    · rw [updateReservation_users revokes] at listed
      exact allowsUser_iff.mpr (.inr (.inl (mem_filter.mp listed).1))
    · rw [updateReservation_accounts revokes] at listed
      exact allowsUser_iff.mpr (.inr (.inr ⟨name,(mem_filter.mp listed).1,rfl⟩))

structure RevokesOnly (entry : Wal.ReservationUpdate) : Prop where
  revokes : Revokes entry
  span : entry.durationMinutes = 0
  addNodes : entry.addNodes = []
  removeNodes : entry.removeNodes = []

theorem prospectiveOverlapAt_update (only : RevokesOnly entry) (keeps : KeepsSomebody entry res) {job : Job} {node : String}
    {at_ : Time} {duration : Duration} (clear : prospectiveOverlapAt job (updateReservation entry res) node at_ duration = false) :
    prospectiveOverlapAt job res node at_ duration = false := by
  have nodes : (updateReservation entry res).nodes = res.nodes := by
    unfold updateReservation
    rw [only.addNodes,only.removeNodes]
    exact filter_eq_self.mpr fun _ _ => rfl
  have ends : (updateReservation entry res).endTime = res.endTime := by
    unfold updateReservation
    rw [only.span]
    rfl
  have narrows := (narrows_iff only.revokes).mpr keeps job.spec.user job.spec.account
  unfold prospectiveOverlapAt Reservation.coversNode at clear ⊢
  rw [nodes,ends] at clear
  cases after : (updateReservation entry res).allowsUser _ _ with
  | true =>
    rw [narrows after]
    rw [after] at clear
    exact clear
  | false =>
    rw [after,Bool.and_false,Bool.not_false] at clear
    simp only [Bool.and_eq_false_iff] at clear ⊢
    tauto

def storedReservation (s : State) (name : String) : Option Reservation := s.reservations.find? fun res => res.name = name

theorem updateReservations_find {stored : List Reservation} :
    (updateReservations entry stored).find? (fun res => res.name = entry.name) =
      (stored.find? fun res => res.name = entry.name).map (updateReservation entry) := by
  induction stored with
  | nil => rfl
  | cons first rest ih =>
    unfold updateReservations
    by_cases same : first.name = entry.name
    · have kept : (updateReservation entry first).name = entry.name := same
      rw [if_pos same,List.find?_cons_of_pos (by simpa using kept),List.find?_cons_of_pos (by simpa using same)]
      rfl
    · rw [if_neg same,List.find?_cons_of_neg (by simpa using same),List.find?_cons_of_neg (by simpa using same),ih]

def RevokesKeeping (name : String) (s : State) (entry : Env × WalOperation) : Prop :=
  ∃ update, entry.2 = .reservationUpdate update ∧ update.name = name ∧ RevokesOnly update ∧
    ∀ res, storedReservation s name = some res → KeepsSomebody update res

theorem revocations_narrow {config : Config} {name : String} {s : State} {log : List (Env × WalOperation)}
    (along : Along (step config) (RevokesKeeping name) s log) (found : storedReservation s name = some res) :
    ∃ after, storedReservation (run config s log) name = some after ∧ ∀ job node at_ duration,
      prospectiveOverlapAt job after node at_ duration = false → prospectiveOverlapAt job res node at_ duration = false := by
  induction log generalizing s res with
  | nil => exact ⟨res,found,fun _ _ _ _ clear => clear⟩
  | cons entry log ih =>
    obtain ⟨⟨update,same,rfl,only,keeps⟩,rest⟩ := along
    have next : storedReservation (step config s entry) update.name = some (updateReservation update res) := by
      unfold step storedReservation
      rw [same]
      change (updateReservations update _).find? _ = _
      rw [updateReservations_find]
      exact congrArg _ found
    obtain ⟨after,stored,narrows⟩ := ih rest next
    exact ⟨after,stored,fun job node at_ duration clear =>
      prospectiveOverlapAt_update only (keeps res found) (narrows job node at_ duration clear)⟩

/-- An update that adds nobody grants access to nobody exactly when it keeps somebody on the lists, or they were empty;
over any log of such revocations the set of jobs without a conflict never grows. -/
theorem revoking_never_grants (config : Config) :
    (∀ entry res, Revokes entry → (Narrows res (updateReservation entry res) ↔ KeepsSomebody entry res)) ∧
    ∀ name s log res, Along (step config) (RevokesKeeping name) s log → storedReservation s name = some res →
      ∃ after, storedReservation (run config s log) name = some after ∧ ∀ job node at_ duration,
        prospectiveOverlapAt job after node at_ duration = false → prospectiveOverlapAt job res node at_ duration = false :=
  ⟨fun _ _ revokes => narrows_iff revokes,fun _ _ _ _ along found => revocations_narrow along found⟩

def forAlice : Reservation := ⟨"maint",0,Duration.seconds 3600,["n1"],[],["alice"],{},"root"⟩

def withoutAlice : Wal.ReservationUpdate := ⟨"maint",0,[],[],[],["alice"],[],[]⟩

def bobsJob : Job := Job.new 0 1 { name := "sim", user := "bob", reservation := some "maint" }

/-- Removing the last user lets everybody in, and a job of another user no longer meets a conflict. -/
theorem last_user_removed_opens : RevokesOnly withoutAlice ∧ forAlice.allowsUser "bob" none = false ∧
    (updateReservation withoutAlice forAlice).allowsUser "bob" none = true ∧
    prospectiveOverlapAt bobsJob forAlice "n1" 0 (Duration.seconds 60) = true ∧
    prospectiveOverlapAt bobsJob (updateReservation withoutAlice forAlice) "n1" 0 (Duration.seconds 60) = false := by
  refine ⟨⟨⟨rfl,rfl⟩,rfl,rfl,rfl⟩,?_⟩
  decide +kernel

theorem revoking_never_grants_pair :
    Narrows { forAlice with users := ["alice","carol"] } (updateReservation withoutAlice { forAlice with users := ["alice","carol"] }) :=
  ((revoking_never_grants {}).1 _ _ ⟨rfl,rfl⟩).mpr (.inr (.inl ⟨"carol",by decide,by decide⟩))

end

section

def reservationsOverlap (a b : Reservation) : Bool :=
  if a.endTime ≤ b.startTime || b.endTime ≤ a.startTime then false else a.nodes.any b.coversNode

def overlapAllowed (candidate existing : Reservation) : Bool :=
  candidate.flags.overlap || candidate.flags.maint || existing.flags.overlap || existing.flags.maint

inductive ReservationError where
  | invalidArgument (message : String)
  | notFound (message : String)
  | alreadyExists (message : String)
  deriving DecidableEq

private def addExpanded (known : List String) (out : List String) (node : String) : Except String (List String) :=
  if !known.contains node then .error ("unknown node '" ++ node ++ "'")
  else .ok (if out.contains node then out else out ++ [node])

def normalizeNodeList (patterns known : List String) : Except String (List String) := do
  let out ← patterns.foldlM (fun out pattern => do
    let trimmed := Text.trim pattern.toList
    if trimmed.isEmpty then .ok out
    else match Hostlist.expand (String.ofList trimmed) with
      | .error e => .error e.message
      | .ok expanded => expanded.foldlM (addExpanded known) out) []
  if out.isEmpty then .error "reservation requires at least one node" else .ok out

def runningJobEnd (job : Job) : Option Time :=
  if job.state.isActive then do return (← job.startTime) + (← job.spec.timeLimit) else none

/-- A running job that would still hold one of the nodes at the start; one without a known end counts. -/
def runningJobsOverlapStart (jobs : Table JobId Job) (nodes : List String) (startTime : Time)
    (exceptReservation : Option String) : Option (JobId × String) :=
  jobs.toList.findSome? fun (_,job) =>
    if !job.state.isActive || (exceptReservation.isSome && job.spec.reservation == exceptReservation) then none
    else match job.allocatedNodes.find? nodes.contains with
      | none => none
      | some node => match runningJobEnd job with
        | none => some (job.jobId,node)
        | some end_ => if end_ > startTime then some (job.jobId,node) else none

variable (s : State)

def validateReservationJobOverlap (res : Reservation) (exceptName : Option String) : Except ReservationError Unit :=
  if res.flags.ignoreJobs then .ok ()
  else match runningJobsOverlapStart s.jobs res.nodes res.startTime exceptName with
    | some (jobId,node) => .error (.invalidArgument ("requested nodes are busy (job " ++ toString jobId ++ " on " ++ node ++
        " until after reservation start)"))
    | none => .ok ()

def validateReservationStorageOverlap (res : Reservation) (exceptName : Option String) : Except ReservationError Unit :=
  match s.reservations.find? fun existing =>
      exceptName ≠ some existing.name && reservationsOverlap res existing && !overlapAllowed res existing with
  | some existing => .error (.invalidArgument ("reservation overlaps with existing reservation '" ++ existing.name ++ "'"))
  | none => .ok ()

private def knownNodes : List String := s.nodes.toList.map Prod.fst

private def normalized (patterns : List String) : Except ReservationError (List String) :=
  match normalizeNodeList patterns (knownNodes s) with
  | .error message => .error (.invalidArgument message)
  | .ok nodes => .ok nodes

def createReservation (res : Reservation) : Except ReservationError WalOperation :=
  if res.endTime ≤ res.startTime then .error (.invalidArgument "reservation duration must be positive")
  else if s.reservations.any fun existing => existing.name = res.name then
    .error (.alreadyExists ("reservation '" ++ res.name ++ "' already exists"))
  else do
    let nodes ← normalized s res.nodes
    let res := { res with nodes := nodes }
    validateReservationJobOverlap s res none
    validateReservationStorageOverlap s res none
    return .reservationCreate res

/-- The checks of an update, on a preview of what it makes of the stored reservation. The request has the form of the
entry, with host list patterns for the nodes to add. -/
def requestReservationUpdate (request : Wal.ReservationUpdate) : Except ReservationError WalOperation :=
  match s.reservations.find? fun res => res.name = request.name with
  | none => .error (.notFound ("reservation '" ++ request.name ++ "' not found"))
  | some stored =>
    if (updateReservation request stored).endTime ≤ stored.startTime then
      .error (.invalidArgument "reservation duration must be positive")
    else do
      let added ← request.addNodes.foldlM (fun added pattern => do return added ++ (← normalized s [pattern])) []
      let entry := { request with addNodes := added }
      let preview := updateReservation entry stored
      validateReservationJobOverlap s preview (some request.name)
      validateReservationStorageOverlap s preview (some request.name)
      return .reservationUpdate entry

def reservationUser (name : String) : Option JobId :=
  s.jobs.toList.findSome? fun (_,job) =>
    if job.state.isActive && job.spec.reservation == some name then some job.jobId else none

def deleteReservation (name : String) : Except ReservationError WalOperation :=
  if !s.reservations.any fun res => res.name = name then
    .error (.notFound ("reservation '" ++ name ++ "' not found"))
  else match reservationUser s name with
    | some jobId =>
      .error (.invalidArgument ("reservation '" ++ name ++ "' in use by running job " ++ toString jobId))
    | none => .ok (.reservationDelete name)

def purgeExpiredReservations (now : Time) : List WalOperation :=
  (s.reservations.filter fun res => decide (res.endTime ≤ now)).filterMap fun res =>
    if (reservationUser s res.name).isSome then none else some (.reservationDelete res.name)

end

section

variable {rs : List Reservation} {s : State}

def Compatible (a b : Reservation) : Prop := reservationsOverlap a b = true → overlapAllowed a b = true

theorem reservationsOverlap_iff {a b : Reservation} : reservationsOverlap a b = true ↔
    (a.startTime < b.endTime ∧ b.startTime < a.endTime) ∧ ∃ node ∈ a.nodes, node ∈ b.nodes := by
  unfold reservationsOverlap Reservation.coversNode
  by_cases apart : a.endTime ≤ b.startTime ∨ b.endTime ≤ a.startTime
  · have decided : (decide (a.endTime ≤ b.startTime) || decide (b.endTime ≤ a.startTime)) = true := by simpa using apart
    rw [if_pos decided]
    constructor
    · intro h
      cases h
    rintro ⟨⟨first,second⟩,-⟩
    rcases apart with before | after
    · exact absurd second (not_lt.mpr before)
    · exact absurd first (not_lt.mpr after)
  · push Not at apart
    simp [apart]

theorem Compatible.symm {a b : Reservation} (compatible : Compatible a b) : Compatible b a := by
  intro overlap
  obtain ⟨⟨first,second⟩,node,mine,yours⟩ := reservationsOverlap_iff.mp overlap
  have allowed := compatible (reservationsOverlap_iff.mpr ⟨⟨second,first⟩,node,yours,mine⟩)
  unfold overlapAllowed at allowed ⊢
  simp only [Bool.or_eq_true] at allowed ⊢
  tauto

def Collide (a b : Reservation) : Prop :=
  (a.flags.overlap = false ∧ a.flags.maint = false) ∧ (b.flags.overlap = false ∧ b.flags.maint = false) ∧
    ∃ node ∈ a.nodes, node ∈ b.nodes ∧ ∃ instant, a.isActive instant ∧ b.isActive instant

theorem Compatible.not_collide {a b : Reservation} (compatible : Compatible a b) : ¬Collide a b := by
  rintro ⟨⟨mine,mineToo⟩,⟨yours,yoursToo⟩,node,listed,listedToo,instant,active,activeToo⟩
  unfold Reservation.isActive at active activeToo
  simp only [Bool.and_eq_true,decide_eq_true_eq] at active activeToo
  have window : a.startTime < b.endTime ∧ b.startTime < a.endTime :=
    ⟨lt_of_le_of_lt active.1 activeToo.2,lt_of_le_of_lt activeToo.1 active.2⟩
  have allowed := compatible (reservationsOverlap_iff.mpr ⟨window,node,listed,listedToo⟩)
  unfold overlapAllowed at allowed
  rw [mine,mineToo,yours,yoursToo] at allowed
  cases allowed

theorem updateReservations_names (entry : Wal.ReservationUpdate) :
    (updateReservations entry rs).map Reservation.name = rs.map Reservation.name := by
  induction rs with
  | nil => rfl
  | cons first rest ih =>
    unfold updateReservations
    split
    · rfl
    · exact congrArg (first.name :: ·) ih

theorem mem_updateReservations {entry : Wal.ReservationUpdate} (names : (rs.map Reservation.name).Nodup) {res : Reservation}
    (listed : res ∈ updateReservations entry rs) : (res ∈ rs ∧ res.name ≠ entry.name) ∨
      ∃ stored ∈ rs, stored.name = entry.name ∧ res = updateReservation entry stored := by
  induction rs with
  | nil => cases listed
  | cons first rest ih =>
    obtain ⟨fresh,distinct⟩ := nodup_cons.mp names
    unfold updateReservations at listed
    split at listed
    next same =>
      rcases mem_cons.mp listed with rfl | later
      · exact .inr ⟨first,mem_cons_self,same,rfl⟩
      · exact .inl ⟨mem_cons_of_mem _ later,fun named_ => fresh (mem_map.mpr ⟨res,later,named_.trans same.symm⟩)⟩
    next other =>
      rcases mem_cons.mp listed with rfl | later
      · exact .inl ⟨mem_cons_self,other⟩
      · rcases ih distinct later with ⟨kept,apart⟩ | ⟨stored,kept,same,rfl⟩
        · exact .inl ⟨mem_cons_of_mem _ kept,apart⟩
        · exact .inr ⟨stored,mem_cons_of_mem _ kept,same,rfl⟩

def aboutReservations : WalOperation → Bool
  | .reservationCreate .. | .reservationUpdate .. | .reservationDelete .. => true
  | _ => false

variable {op : WalOperation}

theorem applyOperation_reservations (config : Config) (env : Env) (other : aboutReservations op = false) :
    (applyOperation config env s op).1.reservations = s.reservations := by
  by_cases about : aboutJobs op = true
  · obtain ⟨_,_,_,_,same⟩ := applyOperation_touches about
    rw [same]
  cases op
  case reservationCreate | reservationUpdate | reservationDelete => cases other
  case jobStepCreate step =>
    change (applyJobStepCreate s step).1.reservations = s.reservations
    unfold applyJobStepCreate
    repeat' split
    all_goals rfl
  case tokenRevoke | jobSubmit | evictTerminalJobs | tokenCreate | partitionCreate | partitionUpdate |
    partitionDelete | k0sSetPhase | k0sMemberNodesAdd | k0sMemberNodesRemove => rfl
  all_goals exact absurd rfl about

theorem applyReservationDelete_reservations (name : String) :
    (applyReservationDelete s name).1.reservations = s.reservations.filter fun res => res.name ≠ name := by
  unfold applyReservationDelete
  split
  next missing =>
    refine (filter_eq_self.mpr fun res listed => ?_).symm
    have other := List.find?_eq_none.mp missing res listed
    simpa using other
  next => rfl

def Checked (rs : List Reservation) : WalOperation → Prop
  | .reservationCreate res => ∀ existing ∈ rs, Compatible res existing
  | .reservationUpdate entry => ∀ stored ∈ rs, stored.name = entry.name →
      ∀ existing ∈ rs, existing.name ≠ entry.name → Compatible (updateReservation entry stored) existing
  | .reservationDelete _ => True
  | _ => False

theorem Checked.about (checked : Checked rs op) : aboutReservations op = true := by
  cases op
  case reservationCreate | reservationUpdate | reservationDelete => rfl
  all_goals cases checked

theorem Checked.subset {fewer : List Reservation} (checked : Checked rs op) (subset : fewer ⊆ rs) :
    Checked fewer op := by
  cases op
  case reservationCreate => exact fun existing listed => checked existing (subset listed)
  case reservationUpdate =>
    exact fun stored kept same existing listed => checked stored (subset kept) same existing (subset listed)
  case reservationDelete => trivial
  all_goals cases checked

theorem validateReservationStorageOverlap_ok {res : Reservation} {exceptName : Option String} {u : Unit}
    (valid : validateReservationStorageOverlap s res exceptName = .ok u) :
    ∀ existing ∈ s.reservations, exceptName ≠ some existing.name → Compatible res existing := by
  intro existing listed other overlap
  unfold validateReservationStorageOverlap at valid
  split at valid
  · cases valid
  · next none_ =>
    have passed := List.find?_eq_none.mp none_ existing listed
    simpa [other,overlap] using passed

theorem createReservation_checked {res : Reservation} (ok : createReservation s res = .ok op) :
    Checked s.reservations op := by
  unfold createReservation at ok
  split at ok
  · cases ok
  split at ok
  · cases ok
  · obtain ⟨nodes,-,ok⟩ := bind_ok.mp ok
    obtain ⟨_,-,ok⟩ := bind_ok.mp ok
    obtain ⟨_,valid,ok⟩ := bind_ok.mp ok
    cases ok
    exact fun existing listed => validateReservationStorageOverlap_ok valid existing listed (Option.some_ne_none _).symm

theorem requestReservationUpdate_checked (names : (s.reservations.map Reservation.name).Nodup)
    {request : Wal.ReservationUpdate} (ok : requestReservationUpdate s request = .ok op) :
    Checked s.reservations op := by
  unfold requestReservationUpdate at ok
  split at ok
  · cases ok
  next stored found =>
  split at ok
  · cases ok
  obtain ⟨added,-,ok⟩ := bind_ok.mp ok
  obtain ⟨_,-,ok⟩ := bind_ok.mp ok
  obtain ⟨_,valid,ok⟩ := bind_ok.mp ok
  cases ok
  intro other listed same existing present apart
  have namesake : stored.name = request.name := by simpa using List.find?_some found
  have sole : other = stored :=
    inj_on_of_nodup_map names listed (List.mem_of_find?_eq_some found) (same.trans namesake.symm)
  rw [sole]
  exact validateReservationStorageOverlap_ok valid existing present fun shared => apart (Option.some.inj shared).symm

/-- The controller's state and the requests in flight: each proposed entry with the number of creates and updates
applied when its checks read the state. -/
structure Desk where
  state : State
  pending : List (Nat × WalOperation) := []
  changes : Nat := 0

inductive DeskEvent where
  | create (res : Reservation)
  | update (request : Wal.ReservationUpdate)
  | delete (name : String)
  | purge (now : Time)
  | apply (env : Env) (index : Nat)
  | other (env : Env) (op : WalOperation)

def proposals (s : State) : DeskEvent → List WalOperation
  | .create res => (createReservation s res).toOption.toList
  | .update request => (requestReservationUpdate s request).toOption.toList
  | .delete name => (deleteReservation s name).toOption.toList
  | .purge now => purgeExpiredReservations s now
  | .apply .. | .other .. => []

def alters : WalOperation → Bool
  | .reservationCreate .. | .reservationUpdate .. => true
  | _ => false

namespace Desk

def propose (desk : Desk) (event : DeskEvent) : Desk :=
  { desk with pending := desk.pending ++ (proposals desk.state event).map fun op => (desk.changes,op) }

def commit (config : Config) (desk : Desk) (env : Env) (index : Nat) (op : WalOperation) : Desk :=
  ⟨(applyOperation config env desk.state op).1,desk.pending.eraseIdx index,
    if alters op then desk.changes + 1 else desk.changes⟩

def step (config : Config) (desk : Desk) : DeskEvent → Desk
  | .apply env index => match desk.pending[index]? with
    | none => desk
    | some (_,op) => desk.commit config env index op
  | .other env op => if aboutReservations op then desk
    else { desk with state := (applyOperation config env desk.state op).1 }
  | event => desk.propose event

def Undisturbed (desk : Desk) : DeskEvent → Prop
  | .apply _ index => ∀ stamp op, desk.pending[index]? = some (stamp,op) → alters op → stamp = desk.changes
  | _ => True

/-- The names of the stored reservations are distinct, and the entries in flight are about reservations. -/
structure Named (desk : Desk) : Prop where
  names : (desk.state.reservations.map Reservation.name).Nodup
  about : ∀ entry ∈ desk.pending, aboutReservations entry.2 = true

structure Orderly (desk : Desk) : Prop extends Named desk where
  apart : ∀ a ∈ desk.state.reservations, ∀ b ∈ desk.state.reservations, a.name ≠ b.name → Compatible a b
  stamps : ∀ entry ∈ desk.pending, entry.1 ≤ desk.changes
  checked : ∀ entry ∈ desk.pending, entry.1 = desk.changes → Checked desk.state.reservations entry.2

end Desk

theorem proposals_checked (names : (s.reservations.map Reservation.name).Nodup) {event : DeskEvent}
    (proposed : op ∈ proposals s event) : Checked s.reservations op := by
  cases event with
  | create res =>
    cases asked : createReservation s res with
    | error e => simp [proposals,asked,Except.toOption] at proposed
    | ok entry =>
      obtain rfl : op = entry := by simpa [proposals,asked,Except.toOption] using proposed
      exact createReservation_checked asked
  | update request =>
    cases asked : requestReservationUpdate s request with
    | error e => simp [proposals,asked,Except.toOption] at proposed
    | ok entry =>
      obtain rfl : op = entry := by simpa [proposals,asked,Except.toOption] using proposed
      exact requestReservationUpdate_checked names asked
  | delete name =>
    cases asked : deleteReservation s name with
    | error e => simp [proposals,asked,Except.toOption] at proposed
    | ok entry =>
      obtain rfl : op = entry := by simpa [proposals,asked,Except.toOption] using proposed
      unfold deleteReservation at asked
      repeat' split at asked
      all_goals cases asked
      trivial
  | purge now =>
    obtain ⟨res,-,kept⟩ := mem_filterMap.mp proposed
    split at kept
    · cases kept
    · cases kept
      trivial
  | apply | other => cases proposed

theorem applyOperation_names {config : Config} {env : Env} (about : aboutReservations op = true)
    (names : (s.reservations.map Reservation.name).Nodup) :
    ((applyOperation config env s op).1.reservations.map Reservation.name).Nodup := by
  cases op
  case reservationCreate res =>
    change ((applyReservationCreate s res).1.reservations.map _).Nodup
    unfold applyReservationCreate
    split
    · exact names
    next fresh =>
    rw [map_append]
    refine List.Nodup.append names (nodup_singleton _) ?_
    intro name listed only
    obtain ⟨old,stored,rfl⟩ := mem_map.mp listed
    exact fresh (any_eq_true.mpr ⟨old,stored,by simpa using only⟩)
  case reservationUpdate entry =>
    change ((updateReservations entry _).map _).Nodup
    rw [updateReservations_names]
    exact names
  case reservationDelete name =>
    change ((applyReservationDelete s name).1.reservations.map _).Nodup
    rw [applyReservationDelete_reservations]
    exact names.sublist (filter_sublist.map _)
  all_goals cases about

theorem applyOperation_apart {config : Config} {env : Env} (checked : Checked s.reservations op)
    (names : (s.reservations.map Reservation.name).Nodup)
    (apart : ∀ a ∈ s.reservations, ∀ b ∈ s.reservations, a.name ≠ b.name → Compatible a b) :
    ∀ a ∈ (applyOperation config env s op).1.reservations, ∀ b ∈ (applyOperation config env s op).1.reservations,
      a.name ≠ b.name → Compatible a b := by
  cases op
  case reservationCreate res =>
    change ∀ a ∈ (applyReservationCreate s res).1.reservations, ∀ b ∈ (applyReservationCreate s res).1.reservations, _
    unfold applyReservationCreate
    split
    · exact apart
    intro a listed b present other
    rcases mem_append.mp listed with old | new <;> rcases mem_append.mp present with stored | added
    · exact apart a old b stored other
    · cases mem_singleton.mp added
      exact (checked a old).symm
    · cases mem_singleton.mp new
      exact checked b stored
    · exact absurd (congrArg _ ((mem_singleton.mp new).trans (mem_singleton.mp added).symm)) other
  case reservationUpdate entry =>
    intro a listed b present other
    rcases mem_updateReservations names listed with ⟨old,elsewhere⟩ | ⟨stored,kept,same,rfl⟩ <;>
      rcases mem_updateReservations names present with ⟨oldToo,elsewhereToo⟩ | ⟨storedToo,keptToo,sameToo,rfl⟩
    · exact apart a old b oldToo other
    · exact (checked storedToo keptToo sameToo a old elsewhere).symm
    · exact checked stored kept same b oldToo elsewhereToo
    · exact absurd (same.trans sameToo.symm) other
  case reservationDelete name =>
    change ∀ a ∈ (applyReservationDelete s name).1.reservations, ∀ b ∈ (applyReservationDelete s name).1.reservations, _
    rw [applyReservationDelete_reservations]
    exact fun a listed b present => apart a (mem_of_mem_filter listed) b (mem_of_mem_filter present)
  all_goals cases checked

namespace Desk

variable {config : Config} {desk : Desk}

theorem step_cases {config : Config} (event : DeskEvent) :
    desk.step config event = desk ∨ desk.step config event = desk.propose event ∨
    (∃ env index stamp op, event = .apply env index ∧ desk.pending[index]? = some (stamp,op) ∧
      desk.step config event = desk.commit config env index op) ∨
    ∃ env op, aboutReservations op = false ∧
      desk.step config event = { desk with state := (applyOperation config env desk.state op).1 } := by
  cases event with
  | apply env index =>
    cases taken : desk.pending[index]? with
    | none =>
      left
      simp only [Desk.step,taken]
    | some entry =>
      refine .inr (.inr (.inl ⟨env,index,entry.1,entry.2,rfl,taken,?_⟩))
      simp only [Desk.step,taken]
  | other env op =>
    cases about : aboutReservations op with
    | true => exact .inl (if_pos about)
    | false =>
      refine .inr (.inr (.inr ⟨env,op,about,?_⟩))
      exact if_neg (Bool.eq_false_iff.mp about)
  | create | update | delete | purge => exact .inr (.inl rfl)

theorem Named.step (named_ : desk.Named) (config : Config) (event : DeskEvent) : (desk.step config event).Named := by
  rcases step_cases event with same | same | ⟨env,index,stamp,op,-,taken,same⟩ | ⟨env,op,other,same⟩ <;> rw [same]
  · exact named_
  · refine ⟨named_.names,fun entry listed => ?_⟩
    rcases mem_append.mp listed with old | new
    · exact named_.about entry old
    · obtain ⟨op,proposed,rfl⟩ := mem_map.mp new
      exact (proposals_checked named_.names proposed).about
  · exact ⟨applyOperation_names (named_.about _ (mem_of_getElem? taken)) named_.names,
      fun entry listed => named_.about entry (mem_of_mem_eraseIdx listed)⟩
  · refine ⟨?_,named_.about⟩
    rw [applyOperation_reservations config env other]
    exact named_.names

theorem Orderly.propose (orderly : desk.Orderly) {event : DeskEvent} (named_ : (desk.propose event).Named) :
    (desk.propose event).Orderly := by
  refine ⟨named_,orderly.apart,fun entry listed => ?_,fun entry listed current => ?_⟩
  · rcases mem_append.mp listed with old | new
    · exact orderly.stamps entry old
    · obtain ⟨op,-,rfl⟩ := mem_map.mp new
      exact le_refl _
  · rcases mem_append.mp listed with old | new
    · exact orderly.checked entry old current
    · obtain ⟨op,proposed,rfl⟩ := mem_map.mp new
      exact proposals_checked orderly.names proposed

/-- An entry whose checks still describe the state keeps the reservations apart. Whatever it leaves in flight was checked
before it, so it is out of date unless the entry is a delete. -/
theorem Orderly.commit (orderly : desk.Orderly) {env : Env} {index stamp : Nat}
    (taken : desk.pending[index]? = some (stamp,op)) (current : alters op → stamp = desk.changes)
    (named_ : (desk.commit config env index op).Named) : (desk.commit config env index op).Orderly := by
  have listed := mem_of_getElem? taken
  have about := orderly.about _ listed
  by_cases altering : alters op = true
  · have checked := orderly.checked _ listed (current altering)
    have later : (desk.commit config env index op).changes = desk.changes + 1 := if_pos altering
    refine ⟨named_,applyOperation_apart checked orderly.names orderly.apart,fun entry kept => ?_,fun entry kept now => ?_⟩
    · rw [later]
      exact Nat.le_succ_of_le (orderly.stamps entry (mem_of_mem_eraseIdx kept))
    · have old := orderly.stamps entry (mem_of_mem_eraseIdx kept)
      rw [now,later] at old
      exact absurd old (Nat.not_succ_le_self _)
  · cases op
    case reservationDelete name =>
      have fewer : (desk.commit config env index (.reservationDelete name)).state.reservations ⊆ desk.state.reservations := by
        change (applyReservationDelete _ name).1.reservations ⊆ _
        rw [applyReservationDelete_reservations]
        exact filter_subset_self _
      exact ⟨named_,applyOperation_apart (True.intro : Checked _ (.reservationDelete name)) orderly.names orderly.apart,
        fun entry kept => orderly.stamps entry (mem_of_mem_eraseIdx kept),
        fun entry kept now => (orderly.checked entry (mem_of_mem_eraseIdx kept) now).subset fewer⟩
    case reservationCreate | reservationUpdate => exact absurd rfl altering
    all_goals cases about

theorem Orderly.step (orderly : desk.Orderly) {event : DeskEvent} (undisturbed : desk.Undisturbed event) :
    (desk.step config event).Orderly := by
  have named_ := orderly.toNamed.step config event
  rcases step_cases event with same | same | ⟨env,index,stamp,op,rfl,taken,same⟩ | ⟨env,op,other,same⟩ <;>
    rw [same] at named_ ⊢
  · exact orderly
  · exact orderly.propose named_
  · exact orderly.commit taken (undisturbed stamp op taken) named_
  · have kept := applyOperation_reservations (s := desk.state) config env other
    refine ⟨named_,?_,orderly.stamps,?_⟩
    · rw [kept]
      exact orderly.apart
    · rw [kept]
      exact orderly.checked

theorem undisturbed_of_all {env : Env} {index : Nat}
    (current : (desk.pending[index]?).all (fun entry => entry.1 == desk.changes) = true) : desk.Undisturbed (.apply env index) := by
  intro stamp op taken _
  rw [taken] at current
  simpa using current

theorem Orderly.start {s : State} (empty : s.reservations = []) : Orderly { state := s } where
  names := by
    rw [empty]
    exact nodup_nil
  about := fun _ listed => absurd listed not_mem_nil
  apart := by
    rw [empty]
    exact fun _ listed => absurd listed not_mem_nil
  stamps := fun _ listed => absurd listed not_mem_nil
  checked := fun _ listed => absurd listed not_mem_nil

end Desk

/-- Names stay distinct under every interleaving of requests and applies; no two reservations collide when a create or
update is applied only while no other one was applied since its checks. -/
theorem reservations_never_collide (config : Config) (events : List DeskEvent) :
    let reached := (events.foldl (Desk.step config) { state := .fresh config }).state.reservations
    (reached.map Reservation.name).Nodup ∧
      (Along (Desk.step config) Desk.Undisturbed { state := .fresh config } events →
        ∀ a ∈ reached, ∀ b ∈ reached, a.name ≠ b.name → ¬Collide a b) := by
  have start : Desk.Orderly { state := .fresh config } := Desk.Orderly.start rfl
  constructor
  · exact (List.foldlRecOn events _ start.toNamed fun _ named_ event _ => named_.step config event).names
  · intro along a listed b present other
    have orderly := invariant_run (fun _ _ orderly undisturbed => orderly.step undisturbed) start along
    exact (orderly.apart a listed b present other).not_collide

def plainReservation (name : String) : Reservation := ⟨name,0,Duration.seconds 3600,["n1"],[],["alice"],{},"root"⟩

def registered : DeskEvent :=
  .other (.ordered 0) (.nodeRegister { name := "n1", resources := { cpus := 8, memoryMb := 4096 }, address := "n1" })

theorem reservations_never_collide_one_at_a_time :
    let reached := ([registered,.create (plainReservation "a"),.apply (.ordered 1) 0,.create (plainReservation "b"),
      .apply (.ordered 2) 0].foldl (Desk.step {}) { state := .fresh {} }).state.reservations
    reached.map Reservation.name = ["a"] ∧ ∀ a ∈ reached, ∀ b ∈ reached, a.name ≠ b.name → ¬Collide a b := by
  refine ⟨by decide +kernel,(reservations_never_collide {} _).2 ?_⟩
  exact ⟨True.intro,True.intro,Desk.undisturbed_of_all (by decide +kernel),True.intro,
    Desk.undisturbed_of_all (by decide +kernel),True.intro⟩

theorem overlapping_creates_both_stored :
    let reached := ([registered,.create (plainReservation "a"),.create (plainReservation "b"),.apply (.ordered 1) 0,
      .apply (.ordered 2) 0].foldl (Desk.step {}) { state := .fresh {} }).state.reservations
    reached = [plainReservation "a",plainReservation "b"] ∧ Collide (plainReservation "a") (plainReservation "b") := by
  refine ⟨by decide +kernel,⟨rfl,rfl⟩,⟨rfl,rfl⟩,"n1",by decide,by decide,0,?_⟩
  decide +kernel

end

end Spur.Cluster
