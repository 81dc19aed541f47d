import Spur.Sched.Planning

/-! Nodes handed off to preemptors: a bystander that starts at once on one comes after all of its owners. -/
namespace Spur.Sched
open Spur Spur.Library List

variable {owners : List JobId} {job : PendingJob}

section

variable {gate : HandoffGate} {owner jobId : JobId} {picked : List String} {start now until_ : Time} {node : String}

private def hold (owner : JobId) (picked : List String) (start now : Time) (gate : HandoffGate)
    (entry : String × List JobId) : HandoffGate :=
  if !entry.2.contains owner then gate
  else if picked.contains entry.1 then { gate with heldUntil := gate.heldUntil.insert (entry.1,owner) start }
  else { gate with
    heldUntil := gate.heldUntil.insert (entry.1,owner) now
    released := gate.released ++ [(entry.1,owner)] }

private theorem ownerPlanned_eq :
    gate.ownerPlanned owner picked start now = gate.owners.toList.foldl (hold owner picked start now) gate := rfl

private theorem hold_owners {entries : List (String × List JobId)} :
    (entries.foldl (hold owner picked start now) gate).owners = gate.owners := by
  induction entries generalizing gate with
  | nil => rfl
  | cons entry entries ih =>
    rw [foldl_cons,ih]
    unfold hold
    split
    · rfl
    · split <;> rfl

theorem ownerPlanned_owners : (gate.ownerPlanned owner picked start now).owners = gate.owners := hold_owners

/-- A node held for an owner was held for it before, or the owner's plan holds it: until its start where
it goes, and no longer than now elsewhere. -/
theorem ownerPlanned_held {other : JobId}
    (found : (gate.ownerPlanned owner picked start now).heldUntil[(node,other)]? = some until_) :
    gate.heldUntil[(node,other)]? = some until_ ∨
      (other = owner ∧ (node ∈ picked ∧ until_ = start ∨ node ∉ picked ∧ until_ = now)) := by
  have insertion : ∀ (gate : HandoffGate) (name : String) (at_ : Time),
      (gate.heldUntil.insert (name,owner) at_)[(node,other)]? = some until_ →
      gate.heldUntil[(node,other)]? = some until_ ∨ (name = node ∧ other = owner ∧ until_ = at_) := by
    intro gate name at_ hit
    rw [Table.find_insert] at hit
    split at hit
    next same =>
      cases same
      exact .inr ⟨rfl,rfl,(Option.some.inj hit).symm⟩
    · exact .inl hit
  rw [ownerPlanned_eq] at found
  generalize gate.owners.toList = entries at found
  induction entries generalizing gate with
  | nil => exact .inl found
  | cons entry entries ih =>
    rcases ih found with before | new
    · unfold hold at before
      split at before
      · exact .inl before
      split at before
      next goes =>
        rcases insertion gate _ start before with older | ⟨rfl,same,at_⟩
        · exact .inl older
        · exact .inr ⟨same,.inl ⟨contains_iff_mem.mp goes,at_⟩⟩
      next elsewhere =>
        rcases insertion gate _ now before with older | ⟨rfl,same,at_⟩
        · exact .inl older
        · exact .inr ⟨same,.inr ⟨fun goes => elsewhere (contains_iff_mem.mpr goes),at_⟩⟩
    · exact .inr new

theorem mem_blockers (handed : gate.owners[node]? = some owners) (bystander : jobId ∉ owners) :
    gate.blockers jobId node = owners := by
  unfold HandoffGate.blockers
  rw [handed,Option.filter_some_pos (by simpa using bystander)]
  rfl

theorem held_le_floor (blocks : owner ∈ gate.blockers jobId node) (held : gate.heldUntil[(node,owner)]? = some until_) :
    until_ ≤ gate.floor jobId node now := by
  have largest : ∀ (starts : List Time) (first : Time), first ≤ starts.foldl max first ∧
      ∀ start ∈ starts, start ≤ starts.foldl max first := by
    intro starts
    induction starts with
    | nil => exact fun first => ⟨le_rfl,by simp⟩
    | cons start starts ih =>
      intro first
      obtain ⟨above,each⟩ := ih _
      refine ⟨(le_max_left _ _).trans above,fun other inside => ?_⟩
      rcases mem_cons.mp inside with rfl | later
      · exact (le_max_right _ _).trans above
      · exact each other later
  exact (largest _ now).2 until_ (mem_filterMap.mpr ⟨owner,blocks,held⟩)

end

section

variable {cluster : Cluster} {now : Time} {pending : List PendingJob}

def PlannedBefore (cluster : Cluster) (now : Time) (pending : List PendingJob) (index : Nat) (owner : JobId)
    (kind : Plan → Prop) : Prop :=
  ∃ before job plan, before < index ∧ pending[before]? = some job ∧ job.jobId = owner ∧
    planAt cluster now pending before job = some plan ∧ kind plan

theorem PlannedBefore.mono {index later : Nat} {owner : JobId} {kind other : Plan → Prop}
    (planned : PlannedBefore cluster now pending index owner kind) (early : index ≤ later)
    (weaker : ∀ plan, kind plan → other plan) : PlannedBefore cluster now pending later owner other := by
  obtain ⟨before,job,plan,first,at_,own,found,of⟩ := planned
  exact ⟨before,job,plan,first.trans_le early,at_,own,found,weaker plan of⟩

theorem gate_held (index : Nat) : (scheduleJobs cluster now pending index).gate.owners = cluster.handoffs ∧
    ∀ node owner until_, (scheduleJobs cluster now pending index).gate.heldUntil[(node,owner)]? = some until_ →
      PlannedBefore cluster now pending index owner fun plan =>
        node ∈ plan.names ∧ until_ = plan.start ∨ node ∉ plan.names ∧ until_ = now := by
  induction index with
  | zero => exact ⟨rfl,fun node owner until_ held => by simp [scheduleJobs] at held⟩
  | succ index ih =>
    have earlier := fun node owner until_ held => (ih.2 node owner until_ held).mono (Nat.le_succ index) fun _ kind => kind
    cases at_ : pending[index]? with
    | none =>
      rw [scheduleJobs_past at_]
      exact ⟨ih.1,earlier⟩
    | some job =>
      have gate := (@turn_effect cluster now pending index job at_).gate
      rw [checkedPass_frame.2.1] at gate
      rw [gate]
      cases planned : planAt cluster now pending index job with
      | none => exact ⟨ih.1,earlier⟩
      | some plan =>
        refine ⟨ownerPlanned_owners.trans ih.1,fun node owner until_ held => ?_⟩
        rcases ownerPlanned_held held with before | ⟨rfl,kind⟩
        · exact earlier node owner until_ before
        · exact ⟨index,job,plan,Nat.lt_succ_self index,at_,rfl,planned,kind⟩

theorem placeJob_held {reservations : List Reservation} {gate : HandoffGate}
    {timelines : List NodeTimeline} {select : Option (List String → Nat → List String)} {placement : Placement}
    (found : placeJob reservations job gate now timelines select = some placement) (atOnce : placement.start ≤ now)
    {node : String} (inside : node ∈ placement.names) (handed : gate.owners[node]? = some owners)
    (bystander : job.jobId ∉ owners) :
    ∀ owner ∈ owners, ∃ until_, gate.heldUntil[(node,owner)]? = some until_ ∧ until_ ≤ now := by
  intro owner listed
  obtain ⟨ranked,picked,rfl⟩ := mem_map.mp inside
  have blocks : owner ∈ gate.blockers job.jobId ranked.name := by
    rw [mem_blockers handed bystander]
    exact listed
  have shown := (mem_findSuitableNodes ((placeJob_placed found).suitable ranked picked)).2.2.2
  have planned := any_eq_false.mp shown owner blocks
  cases held : gate.heldUntil[(ranked.name,owner)]? with
  | none => exact absurd (by rw [← Ranked.name,held]; rfl) planned
  | some until_ => exact ⟨until_,rfl,(held_le_floor blocks held).trans ((placeJob_floor found picked).trans atOnce)⟩

theorem Seat.held {pass : Pass} {names : List String} (seat : Seat cluster now pass job names)
    {node : String} (inside : node ∈ names) (handed : pass.gate.owners[node]? = some owners)
    (bystander : job.jobId ∉ owners) :
    ∀ owner ∈ owners, ∃ until_, pass.gate.heldUntil[(node,owner)]? = some until_ ∧ until_ ≤ now := by
  cases seat with
  | plain _ found atOnce same => exact placeJob_held found atOnce (same ▸ inside) handed bystander
  | bound _ _ _ _ _ found atOnce same => exact placeJob_held found atOnce (same ▸ inside) handed bystander

end

def handedCluster (fabric : Option FabricContext) : Cluster where
  nodes := [{ Node.new "n1" twoGpus with state := .idle, allocResources := { cpus := 2 } },
    { Node.new "n2" { cpus := 4 } with state := .idle }]
  fabric := fabric
  busyUntil := (∅ : Table String Time).insert "n1" (Duration.seconds 10)
  handoffs := (∅ : Table String (List JobId)).insert "n1" [7]

def ownerElsewhere : List PendingJob := [request 7 { nodelist := some "n2" },request 5 { nodelist := some "n1" }]

def sharedId : List PendingJob :=
  [request 7 { numTasks := 3, nodelist := some "n1" },request 5 { nodelist := some "n2" },
    request 5 { nodelist := some "n1", gpusPerNode := some ⟨1,none⟩, constraint := some "gpu.type=mi300x" }]

end Spur.Sched
