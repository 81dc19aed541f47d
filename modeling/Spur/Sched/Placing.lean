import Spur.Sched.Backfill

/-! Where a job goes: the searches answer, the nodes picked are suitable, and a job placed now fits there. -/
namespace Spur.Sched
open Spur Spur.Library List Option

variable {floor earliest : Time} {node : String} {ranked : Ranked}

section

variable {reservations : List Reservation} {job : PendingJob} {timeline : NodeTimeline} {request : ResourceSet}
  {duration : Duration}

theorem reservationBlocker_some {start end_ : Time}
    (blocked : reservationBlocker reservations job node start duration = some end_) :
    start < end_ ∧ end_ ∈ (reservations.map Reservation.endTime).toFinset := by
  obtain ⟨r,inside,rfl⟩ := List.mem_map.mp (List.max?_mem blocked)
  obtain ⟨listed,overlaps⟩ := mem_filter.mp inside
  unfold prospectiveOverlapAt at overlaps
  simp only [Bool.and_eq_true,decide_eq_true_eq] at overlaps
  exact ⟨overlaps.2,by simpa using ⟨r,listed,rfl⟩⟩

theorem validRound_moves {maxCheck candidate later : Time}
    (moved : validRound reservations job timeline request duration maxCheck candidate = .inl later) :
    True ∧ candidate < later ∧ later ∈ (reservations.map Reservation.endTime).toFinset := by
  unfold validRound at moved
  split at moved
  · cases moved
  dsimp only at moved
  split at moved
  next end_ blocked =>
    cases moved
    obtain ⟨ahead,listed⟩ := reservationBlocker_some blocked
    exact ⟨trivial,(timeline.le_earliestStart request duration candidate).trans_lt ahead,listed⟩
  · cases moved

theorem earliestValidStart_ends (reservations : List Reservation) (job : PendingJob) (timeline : NodeTimeline)
    (request : ResourceSet) (duration : Duration) (floor : Time) :
    EndsWithin (validRound reservations job timeline request duration (floor + maxLookahead)) id
      (reservations.length + 1) floor := by
  refine endsWithin_of_stops _ id _ (fun _ _ _ moved => validRound_moves moved) trivial ?_
  rw [length_map]
  exact Nat.lt_succ_self _

theorem earliestValidStart_answer (reservations : List Reservation) (job : PendingJob) (timeline : NodeTimeline)
    (request : ResourceSet) (duration : Duration) (floor : Time) :
    advance (validRound reservations job timeline request duration (floor + maxLookahead)) (reservations.length + 1)
      floor = some (earliestValidStart reservations job timeline request duration floor) :=
  (earliestValidStart_ends _ job timeline request duration floor).answer

theorem earliestValidStart_cases {reservations : List Reservation} {job : PendingJob} {timeline : NodeTimeline}
    {request : ResourceSet} {duration : Duration} :
    earliestValidStart reservations job timeline request duration floor = floor + maxLookahead ∨
      ∃ candidate, (candidate = floor ∨ (floor < candidate ∧ ∃ r ∈ reservations, r.endTime = candidate)) ∧
        earliestValidStart reservations job timeline request duration floor =
          timeline.earliestStart request duration candidate ∧
        reservationBlocker reservations job timeline.node.name
          (timeline.earliestStart request duration candidate) duration = none := by
  obtain ⟨last,_,answered,reached⟩ := advance_clock _ id _
    (fun _ _ _ moved => @validRound_moves _ job timeline request duration _ _ _ moved)
    trivial (earliestValidStart_answer _ job timeline request duration floor)
  unfold validRound at answered
  split at answered
  · exact .inl (Sum.inr.inj answered).symm
  dsimp only at answered
  split at answered
  · cases answered
  next clear =>
    refine .inr ⟨last,reached.imp_right fun later => ⟨later.1,by simpa using later.2⟩,?_,clear⟩
    exact (Sum.inr.inj answered).symm

theorem le_earliestValidStart : floor ≤ earliestValidStart reservations job timeline request duration floor := by
  rcases earliestValidStart_cases with far | ⟨candidate,reached,found,_⟩
  · rw [far]
    exact lt_lookahead.le
  have later := timeline.le_earliestStart request duration candidate
  rw [found]
  rcases reached with rfl | ahead
  · exact later
  · exact ahead.1.le.trans later

theorem earliestValidStart_eq_floor
    (atOnce : earliestValidStart reservations job timeline request duration floor = floor) :
    timeline.earliestStart request duration floor = floor ∧
      reservationBlocker reservations job timeline.node.name floor duration = none := by
  rcases earliestValidStart_cases with far | ⟨candidate,reached,found,clear⟩
  · rw [atOnce] at far
    exact absurd far lt_lookahead.ne
  rw [atOnce] at found
  rcases reached with rfl | ahead
  · rw [← found] at clear
    exact ⟨found.symm,clear⟩
  · have later := timeline.le_earliestStart request duration candidate
    rw [← found] at later
    exact absurd ahead.1 later.not_gt

theorem earliestValidStart_of_free (free : timeline.earliestStart request duration floor = floor)
    (clear : reservationBlocker reservations job timeline.node.name floor duration = none) :
    earliestValidStart reservations job timeline request duration floor = floor := by
  have first : validRound reservations job timeline request duration (floor + maxLookahead) floor = .inr floor := by
    unfold validRound
    rw [if_neg lt_lookahead.not_gt]
    dsimp only
    rw [free,clear]
  have answer := earliestValidStart_answer reservations job timeline request duration floor
  rw [advance_first first] at answer
  exact (Option.some.inj answer).symm

def ends (reservations : List Reservation) (timelines : List NodeTimeline) : Finset Time :=
  ((timelines.flatMap NodeTimeline.intervals).map Interval.end_).toFinset ∪
    (reservations.map Reservation.endTime).toFinset

theorem earliestValidStart_eq : earliestValidStart reservations job timeline request duration floor = floor ∨
      earliestValidStart reservations job timeline request duration floor ∈ ends reservations [timeline] ∨
      floor + maxLookahead ≤ earliestValidStart reservations job timeline request duration floor := by
  rcases earliestValidStart_cases with far | ⟨candidate,reached,found,_⟩
  · exact .inr (.inr far.ge)
  rw [found]
  rcases timeline.earliestStart_eq request duration candidate with same | ⟨i,listed,same⟩ | far
  · rcases reached with rfl | ⟨_,r,listed,at_⟩
    · exact .inl same
    · refine .inr (.inl (Finset.mem_union_right _ ?_))
      rw [same]
      simpa using ⟨r,listed,at_⟩
  · refine .inr (.inl (Finset.mem_union_left _ ?_))
    rw [← same]
    simpa using ⟨i,listed,rfl⟩
  · refine .inr (.inr ?_)
    rw [far]
    have later : floor ≤ candidate := reached.elim (fun same => same.ge) fun ahead => ahead.1.le
    exact add_le_add_left later _

end

section

variable {reservations : List Reservation} {job : PendingJob} {now : Time} {picked : List Ranked}

theorem earliestValidStart_le_commonNext (inside : ranked ∈ picked) :
    earliestValidStart reservations job ranked.timeline (timingRequest job ranked.timeline) (jobDuration job.spec)
      earliest ≤ commonNext reservations job picked earliest := by
  unfold commonNext
  have member := List.mem_map_of_mem (f := fun r : Ranked => earliestValidStart reservations job r.timeline
    (timingRequest job r.timeline) (jobDuration job.spec) earliest) inside
  cases largest : (picked.map fun r => earliestValidStart _ job _ _ _ earliest).max? with
  | none =>
    rw [List.max?_eq_none_iff] at largest
    rw [largest] at member
    cases member
  | some latest => exact (List.max?_eq_some_iff.mp largest).2 _ member

theorem commonNext_mem {earliest : Time} : commonNext reservations job picked earliest = earliest ∨
    ∃ ranked ∈ picked, commonNext reservations job picked earliest = earliestValidStart reservations job ranked.timeline
      (timingRequest job ranked.timeline) (jobDuration job.spec) earliest := by
  unfold commonNext
  cases largest : (picked.map fun r => earliestValidStart _ job _ _ _ earliest).max? with
  | none => exact .inl rfl
  | some latest =>
    obtain ⟨ranked,inside,same⟩ := List.mem_map.mp (List.max?_mem largest)
    exact .inr ⟨ranked,inside,same.symm⟩

theorem le_commonNext {earliest : Time} : earliest ≤ commonNext reservations job picked earliest := by
  rcases commonNext_mem with same | ⟨ranked,inside,same⟩
  · exact same.ge
  · rw [same]
    exact le_earliestValidStart

theorem commonNext_eq : commonNext reservations job picked earliest = earliest ∨
    commonNext reservations job picked earliest ∈ ends reservations (picked.map Ranked.timeline) ∨
    earliest + maxLookahead ≤ commonNext reservations job picked earliest := by
  rcases commonNext_mem with same | ⟨ranked,inside,same⟩
  · exact .inl same
  rw [same]
  rcases earliestValidStart_eq with free | stop | far
  · exact .inl free
  · refine .inr (.inl ?_)
    rcases Finset.mem_union.mp stop with interval | reservation
    · obtain ⟨i,listed,at_⟩ : ∃ i ∈ ranked.timeline.intervals, i.end_ = _ := by simpa using interval
      refine Finset.mem_union_left _ ?_
      rw [← at_]
      simpa using ⟨i,⟨ranked,inside,listed⟩,rfl⟩
    · exact Finset.mem_union_right _ reservation
  · exact .inr (.inr far)

theorem commonRound_moves {later : Time} (from_ : now ≤ earliest)
    (moved : commonRound reservations job now picked earliest = .inl later) :
    now ≤ later ∧ earliest < later ∧ later ∈ ends reservations (picked.map Ranked.timeline) := by
  have ahead := @le_commonNext reservations job picked earliest
  unfold commonRound at moved
  dsimp only at moved
  split at moved
  next early =>
    cases moved
    have strictly := lt_of_le_of_ne ahead (Ne.symm early.1)
    refine ⟨from_.trans ahead,strictly,?_⟩
    rcases commonNext_eq with same | stop | far
    · exact absurd same early.1
    · exact stop
    · have horizon : now + maxLookahead ≤ earliest + maxLookahead := add_le_add_left from_ _
      exact absurd early.2 (horizon.trans far).not_gt
  split at moved
  · cases moved
  split at moved
  · cases moved
  split at moved
  next release found =>
    cases moved
    obtain ⟨listed,between⟩ := mem_filter.mp (List.min?_mem found)
    rw [Bool.and_eq_true,decide_eq_true_eq] at between
    have later := ahead.trans_lt between.1
    refine ⟨from_.trans later.le,later,Finset.mem_union_left _ ?_⟩
    simpa using listed
  · cases moved

def PlannedAt (job : PendingJob) (picked : List Ranked) (start : Time)
    (allocs : Table String ResourceAllocations) : Prop :=
  (heterogeneous job = false ∧
      allocs = picked.foldl (fun allocs r => allocs.insert r.name (uniformAlloc job r start)) ∅) ∨
    (heterogeneous job = true ∧ planPerNodeAlloc job (demandOf job.spec) picked start = some allocs)

theorem commonRound_settles {start : Time} {allocs : Table String ResourceAllocations}
    (answered : commonRound reservations job now picked earliest = .inr (some (start,allocs))) :
    start = commonNext reservations job picked earliest ∧ (start = earliest ∨ now + maxLookahead ≤ start) ∧
      PlannedAt job picked start allocs := by
  unfold commonRound at answered
  dsimp only at answered
  split at answered
  · cases answered
  rename_i stays
  have stopped : commonNext reservations job picked earliest = earliest ∨
      now + maxLookahead ≤ commonNext reservations job picked earliest := by
    rw [not_and,not_lt] at stays
    exact Classical.or_iff_not_imp_left.mpr stays
  split at answered
  next even =>
    cases answered
    exact ⟨rfl,stopped,.inl ⟨by simpa using even,rfl⟩⟩
  next uneven =>
    split at answered
    next plan planned =>
      cases answered
      exact ⟨rfl,stopped,.inr ⟨by simpa using uneven,planned⟩⟩
    next => split at answered <;> cases answered

theorem commonStart_spec {first start : Time} {fuel : Nat} {allocs : Table String ResourceAllocations} (from_ : now ≤ first)
    (ends_ : advance (commonRound reservations job now picked) fuel first = some (some (start,allocs))) :
    first ≤ start ∧ PlannedAt job picked start allocs ∧
      (now + maxLookahead ≤ start ∨ ∀ ranked ∈ picked, earliestValidStart reservations job ranked.timeline
        (timingRequest job ranked.timeline) (jobDuration job.spec) start = start) := by
  obtain ⟨earliest,⟨_,reached⟩,answered⟩ := advance_answer (fun earliest => now ≤ earliest ∧ first ≤ earliest)
    (fun state later inv moved => by
      obtain ⟨after,ahead,_⟩ := commonRound_moves inv.1 moved
      exact ⟨after,inv.2.trans ahead.le⟩) ⟨from_,le_rfl⟩ ends_
  obtain ⟨next,stopped,planned⟩ := commonRound_settles answered
  refine ⟨reached.trans (next ▸ le_commonNext),planned,stopped.symm.imp_right ?_⟩
  rintro rfl ranked inside
  refine le_antisymm ?_ le_earliestValidStart
  conv_rhs => rw [next]
  exact earliestValidStart_le_commonNext inside

theorem commonStart_ends {first : Time} (from_ : now ≤ first) :
    EndsWithin (commonRound reservations job now picked) id (commonFuel reservations picked) first := by
  refine endsWithin_of_stops _ id (((picked.map Ranked.timeline).flatMap NodeTimeline.intervals).map Interval.end_ ++
    reservations.map Reservation.endTime) (fun _ _ from_ moved => ?_) from_ ?_
  · rw [toFinset_append]
    exact commonRound_moves from_ moved
  · rw [length_append,length_map,length_map,flatMap_map]
    exact Nat.lt_succ_self _

end

section

variable {reservations : List Reservation} {job : PendingJob} {gate : HandoffGate} {now : Time}
  {timelines : List NodeTimeline}

theorem reorder_perm {order : List String} {candidates : List Ranked} : (reorder order candidates).Perm candidates := by
  unfold reorder
  refine foldlRecOn order _ (motive := fun moved : List Ranked × List Ranked => (moved.1 ++ moved.2).Perm candidates) (.refl _) ?_
  rintro ⟨taken,rest⟩ same name _
  dsimp only
  split
  next found hit =>
    refine Perm.trans ?_ same
    obtain ⟨named,before,after,rfl,others⟩ := List.find?_eq_some_iff_append.mp hit
    have erased : (found :: after).eraseP (fun r => r.name == name) = after := eraseP_cons_of_pos named
    rw [eraseP_append_right _ (fun r inside => by simpa using others r inside),erased,append_assoc,
      singleton_append]
    exact (perm_append_left_iff taken).mpr perm_middle.symm
  next => exact same

theorem pickNodes_eq (select : Option (List String → Nat → List String)) (candidates : List Ranked) :
    ∃ order : List Ranked, order.Perm candidates ∧ pickNodes job select candidates =
      (if (NodePlacement.new job).nodelistIsAdditive then order.insertionSort fun a b =>
          (NodePlacement.new job).isListed a.name || !(NodePlacement.new job).isListed b.name
        else order).take (neededNodes job) := by
  have sorted : (candidates.insertionSort fun a b => Ranked.ahead job.spec.spreadJob a b).Perm candidates :=
    perm_insertionSort _ _
  cases select with
  | none => exact ⟨_,sorted,rfl⟩
  | some select =>
    refine ⟨_,?_,rfl⟩
    dsimp only
    split
    · exact reorder_perm.trans sorted
    · exact sorted

theorem pickNodes_subperm {select : Option (List String → Nat → List String)} {candidates : List Ranked} :
    (pickNodes job select candidates).Subperm candidates := by
  obtain ⟨order,same,picked⟩ := @pickNodes_eq job select candidates
  rw [picked]
  refine (take_sublist _ _).subperm.trans ?_
  split
  · exact ((perm_insertionSort _ _).trans same).subperm
  · exact same.subperm

theorem mem_findSuitableNodes {timeline : NodeTimeline} {index : Nat}
    (suitable : (timeline,index) ∈ findSuitableNodes reservations job gate now timelines) :
    timelines[index]? = some timeline ∧ (NodePlacement.new job).matchesForReservation timeline.node reservations now ∧
      timeline.total.canSatisfy (jobResourceRequest job.spec) ∧ gate.hides job.jobId timeline.node.name = false := by
  unfold findSuitableNodes at suitable
  dsimp only at suitable
  split at suitable
  · cases suitable
  · obtain ⟨listed,fits⟩ := mem_filter.mp suitable
    simp only [Bool.and_eq_true,Bool.not_eq_true'] at fits
    exact ⟨List.mem_zipIdx_iff_getElem?.mp listed,fits.1.1,fits.1.2,fits.2⟩

theorem nodup_index_findSuitableNodes :
    ((findSuitableNodes reservations job gate now timelines).map Prod.snd).Nodup := by
  unfold findSuitableNodes
  dsimp only
  split
  · exact nodup_nil
  · refine List.Nodup.sublist (filter_sublist.map _) ?_
    rw [zipIdx_map_snd]
    exact nodup_range'

end

section

variable {job : PendingJob} {picked : List Ranked} {start : Time} {allocs : Table String ResourceAllocations}

theorem genericRequest_gpu {gres : List String} : (genericRequest gres)["gpu"]? = none := by
  unfold genericRequest
  refine foldlRecOn gres _ (motive := fun generic => generic["gpu"]? = none) (by simp) ?_
  intro generic absent term _
  split
  · exact absent
  rename_i name kind count _
  split
  · exact absent
  rename_i other
  rw [not_or] at other
  rw [Table.find_insert_ne ?_]
  · exact absent
  cases kind with
  | none => exact other.1
  | some kind =>
    intro same
    have colon : ':' ∈ "gpu".toList := by
      rw [← same]
      simp [String.toList_append]
    exact absurd colon (by decide)

private theorem find_foldl_insert {α : Type} {name : α → String} {value : α → ResourceAllocations} {entries : List α}
    {allocs : Table String ResourceAllocations} :
    (∀ key, key ∉ entries.map name →
        (entries.foldl (fun allocs x => allocs.insert (name x) (value x)) allocs)[key]? = allocs[key]?) ∧
      ((entries.map name).Nodup → ∀ x ∈ entries,
        (entries.foldl (fun allocs x => allocs.insert (name x) (value x)) allocs)[name x]? = some (value x)) := by
  refine (Library.foldl_keyed _ name _ _
    (fun x _ after => after = some _) (fun _ _ _ => trivial) (fun s x k _ other => ?_) (fun s x _ => ?_) allocs trivial).2
  · exact Table.find_insert_ne (Ne.symm other)
  · rw [Table.find_insert,if_pos rfl]

private theorem planFold {demand : GpuDemand} {targets : List (Nat × Nat)} {entries : List (Ranked × Nat)}
    {before after : Table String ResourceAllocations}
    (planned : entries.foldlM (fun (allocs : Table String ResourceAllocations) entry =>
      let (ranked,position) := entry
      let current := ranked.timeline.accumulatedAt start
      let request := shareRequest job demand targets position ranked
      if ranked.timeline.total.canSatisfyWithAllocated current request then
        some (allocs.insert ranked.name (buildNodeAllocation ranked.timeline.total current request))
      else none) before = some after) :
    after = entries.foldl (fun allocs entry => allocs.insert entry.1.name (buildNodeAllocation entry.1.timeline.total
        (entry.1.timeline.accumulatedAt start) (shareRequest job demand targets entry.2 entry.1))) before ∧
      ∀ entry ∈ entries, entry.1.timeline.total.canSatisfyWithAllocated (entry.1.timeline.accumulatedAt start)
        (shareRequest job demand targets entry.2 entry.1) := by
  induction entries generalizing before with
  | nil =>
    cases planned
    exact ⟨rfl,by simp⟩
  | cons entry rest ih =>
    rw [foldlM_cons] at planned
    dsimp only at planned
    split at planned
    next fits =>
      obtain ⟨same,all⟩ := ih planned
      refine ⟨same,?_⟩
      intro other inside
      rcases mem_cons.mp inside with rfl | later
      · exact fits
      · exact all other later
    · cases planned

def Share (job : PendingJob) (start : Time) (ranked : Ranked) (alloc : ResourceAllocations) : Prop :=
  (heterogeneous job = false ∧ alloc = uniformAlloc job ranked start) ∨
    heterogeneous job = true ∧ ∃ request,
      ranked.timeline.total.canSatisfyWithAllocated (ranked.timeline.accumulatedAt start) request ∧
      request.generic["gpu"]? = none ∧
      alloc = buildNodeAllocation ranked.timeline.total (ranked.timeline.accumulatedAt start) request

theorem plannedAt_find (planned : PlannedAt job picked start allocs) (distinct : (picked.map Ranked.name).Nodup) (inside : ranked ∈ picked) : ∃ alloc, allocs[ranked.name]? = some alloc ∧ Share job start ranked alloc := by
  rcases planned with ⟨even,rfl⟩ | ⟨uneven,planned⟩
  · exact ⟨_,find_foldl_insert.2 distinct ranked inside,.inl ⟨even,rfl⟩⟩
  obtain ⟨targets,_,planned⟩ := bind_eq_some_iff.mp planned
  obtain ⟨rfl,all⟩ := planFold planned
  obtain ⟨position,bound,same⟩ := mem_iff_getElem.mp inside
  have listed : (ranked,position) ∈ picked.zipIdx := by
    rw [List.mem_zipIdx_iff_getElem?]
    simp [bound,same]
  have names : picked.zipIdx.map (fun entry => entry.1.name) = picked.map Ranked.name := by
    have firsts := zipIdx_map_fst 0 picked
    calc picked.zipIdx.map _ = (picked.zipIdx.map _).map Ranked.name := by
          rw [List.map_map]
          rfl
      _ = picked.map _ := by rw [firsts]
  refine ⟨_,find_foldl_insert.2 (by rwa [names]) _ listed,.inr ⟨uneven,_,all _ listed,?_,rfl⟩⟩
  exact genericRequest_gpu

theorem plannedAt_absent (planned : PlannedAt job picked start allocs) {name : String}
    (outside : name ∉ picked.map Ranked.name) : allocs[name]? = none := by
  rcases planned with ⟨_,rfl⟩ | ⟨_,planned⟩
  · rw [find_foldl_insert.1 name outside]
    simp
  obtain ⟨targets,_,planned⟩ := bind_eq_some_iff.mp planned
  obtain ⟨rfl,_⟩ := planFold planned
  rw [find_foldl_insert.1 name]
  · simp
  · intro listed
    obtain ⟨⟨ranked,position⟩,inside,same⟩ := List.mem_map.mp listed
    exact outside (List.mem_map.mpr ⟨ranked,(mem_zipIdx' inside).2 ▸ getElem_mem _,same⟩)

end

section

variable {reservations : List Reservation} {job : PendingJob} {gate : HandoffGate} {now : Time}
  {timelines : List NodeTimeline} {select : Option (List String → Nat → List String)} {placement : Placement}

theorem le_floor {jobId : JobId} : now ≤ gate.floor jobId node now := by
  unfold HandoffGate.floor
  generalize (gate.blockers jobId node).filterMap _ = starts
  induction starts generalizing now with
  | nil => exact le_rfl
  | cons start starts ih => exact (le_max_left now start).trans ih

/-- What a placement is: distinct suitable nodes, and a start from which they are all free. -/
structure Placed (reservations : List Reservation) (job : PendingJob) (gate : HandoffGate) (now : Time)
    (timelines : List NodeTimeline) (placement : Placement) : Prop where
  suitable : ∀ ranked ∈ placement.picked,
    (ranked.timeline,ranked.index) ∈ findSuitableNodes reservations job gate now timelines
  distinct : (placement.picked.map Ranked.index).Nodup
  later : now ≤ placement.start
  planned : PlannedAt job placement.picked placement.start placement.perNodeAlloc
  free : now + maxLookahead ≤ placement.start ∨ ∀ ranked ∈ placement.picked,
    earliestValidStart reservations job ranked.timeline (timingRequest job ranked.timeline) (jobDuration job.spec)
      placement.start = placement.start

def candidates (reservations : List Reservation) (job : PendingJob) (gate : HandoffGate) (now : Time)
    (timelines : List NodeTimeline) : List Ranked :=
  (findSuitableNodes reservations job gate now timelines).map (rank reservations job gate now)

def firstStart (now : Time) (picked : List Ranked) : Time := ((picked.map Ranked.start).max?).getD now

theorem placeJob_some : placeJob reservations job gate now timelines select = some placement ↔
    neededNodes job ≤ (candidates reservations job gate now timelines).length ∧
      placement.picked = pickNodes job select (candidates reservations job gate now timelines) ∧
      advance (commonRound reservations job now placement.picked) (commonFuel reservations placement.picked)
        (firstStart now placement.picked) = some (some (placement.start,placement.perNodeAlloc)) := by
  have needs : (candidates reservations job gate now timelines).isEmpty →
      (candidates reservations job gate now timelines).length < neededNodes job := by
    intro none_
    rw [List.isEmpty_iff.mp none_]
    exact Nat.lt_of_lt_of_le Nat.zero_lt_one (le_max_right _ _)
  obtain ⟨picked,start,allocs⟩ := placement
  unfold placeJob
  by_cases short : (candidates reservations job gate now timelines).length < neededNodes job
  · rw [if_pos (.inr short)]
    exact iff_of_false nofun fun found => short.not_ge found.1
  rw [if_neg fun either => short (either.elim needs id),and_iff_right (not_lt.mp short)]
  constructor
  · intro found
    obtain ⟨answer,ends_,found⟩ := bind_eq_some_iff.mp found
    obtain ⟨⟨start,allocs⟩,rfl,found⟩ := bind_eq_some_iff.mp found
    cases found
    exact ⟨rfl,ends_⟩
  · rintro ⟨rfl,ends_⟩
    exact bind_eq_some_iff.mpr ⟨_,ends_,rfl⟩

theorem mem_picked (inside : ranked ∈ pickNodes job select (candidates reservations job gate now timelines)) :
    ∃ suitable ∈ findSuitableNodes reservations job gate now timelines, ranked = rank reservations job gate now suitable := by
  obtain ⟨suitable,listed,same⟩ := List.mem_map.mp (pickNodes_subperm.subset inside)
  exact ⟨suitable,listed,same.symm⟩

theorem le_rank_start {suitable : NodeTimeline × Nat} :
    gate.floor job.jobId suitable.1.node.name now ≤ (rank reservations job gate now suitable).start :=
  le_earliestValidStart

theorem le_firstStart : now ≤ firstStart now (pickNodes job select (candidates reservations job gate now timelines)) := by
  unfold firstStart
  cases largest : ((pickNodes job select _).map Ranked.start).max? with
  | none => exact le_rfl
  | some latest =>
    obtain ⟨ranked,inside,rfl⟩ := List.mem_map.mp (List.max?_mem largest)
    obtain ⟨suitable,_,rfl⟩ := mem_picked inside
    exact le_floor.trans le_rank_start

theorem placeJob_placed (found : placeJob reservations job gate now timelines select = some placement) :
    Placed reservations job gate now timelines placement := by
  obtain ⟨-,picks,ends_⟩ := placeJob_some.mp found
  rw [picks] at ends_
  obtain ⟨later,planned,free⟩ := commonStart_spec le_firstStart ends_
  rw [← picks] at planned free
  refine ⟨fun ranked inside => ?_,?_,le_firstStart.trans later,planned,free⟩
  · rw [picks] at inside
    obtain ⟨suitable,listed,rfl⟩ := mem_picked inside
    exact listed
  have distinct : ((candidates reservations job gate now timelines).map Ranked.index).Nodup := by
    unfold candidates
    rw [List.map_map]
    exact nodup_index_findSuitableNodes
  rw [picks]
  obtain ⟨chosen,same,sub⟩ := @pickNodes_subperm job select _
  exact (same.map _).nodup_iff.mp (distinct.sublist (sub.map _))

/-- Each search of a pass ends, and as long as it goes on its candidate time moves forward. -/
theorem searches_end (reservations : List Reservation) (job : PendingJob) (gate : HandoffGate) (now : Time)
    (timelines : List NodeTimeline) (select : Option (List String → Nat → List String)) :
    (∀ (timeline : NodeTimeline) (request : ResourceSet) (duration : Duration) (after : Time),
      EndsWithin (timeline.startRound request duration (after + maxLookahead)) Prod.fst (timeline.intervals.length + 1)
        (after,AllocationSweep.new timeline.intervals after)) ∧
    (∀ (timeline : NodeTimeline) (request : ResourceSet) (duration : Duration) (floor : Time),
      EndsWithin (validRound reservations job timeline request duration (floor + maxLookahead)) id
        (reservations.length + 1) floor) ∧
    let picked := pickNodes job select (candidates reservations job gate now timelines)
    EndsWithin (commonRound reservations job now picked) id (commonFuel reservations picked) (firstStart now picked) :=
  ⟨NodeTimeline.earliestStart_ends,earliestValidStart_ends _ job,commonStart_ends le_firstStart⟩

theorem Placed.at_index (placed : Placed reservations job gate now timelines placement)
    (inside : ranked ∈ placement.picked) : timelines[ranked.index]? = some ranked.timeline :=
  (mem_findSuitableNodes (placed.suitable ranked inside)).1

abbrev nodeNames (timelines : List NodeTimeline) : List String := timelines.map fun timeline => timeline.node.name

theorem nodeNames_nodes (timelines : List NodeTimeline) :
    nodeNames timelines = (timelines.map NodeTimeline.node).map Node.name := by
  rw [List.map_map]
  rfl

theorem Placed.names_nodup (placed : Placed reservations job gate now timelines placement)
    (names : (nodeNames timelines).Nodup) : placement.names.Nodup := by
  have inj : ∀ a ∈ placement.picked, ∀ b ∈ placement.picked, a.name = b.name → a.index = b.index := by
    intro a first b second same
    have left := placed.at_index first
    have right := placed.at_index second
    have atLeft : (nodeNames timelines)[a.index]? = some a.name := by simp [left,Ranked.name]
    have atRight : (nodeNames timelines)[b.index]? = some a.name := by
      rw [same]
      simp [right,Ranked.name]
    exact (List.getElem?_inj (List.getElem?_eq_some_iff.mp atLeft).1 names).mp (atLeft.trans atRight.symm)
  refine List.Nodup.map_on (fun a first b second same => ?_) (List.Nodup.of_map _ placed.distinct)
  exact inj_on_of_nodup_map placed.distinct first second (inj a first b second same)

theorem Placed.free_at (placed : Placed reservations job gate now timelines placement)
    (chosen : ranked ∈ placement.picked) (soon : placement.start < now + maxLookahead) :
    ranked.timeline.earliestStart (timingRequest job ranked.timeline) (jobDuration job.spec) placement.start =
      placement.start ∧
    reservationBlocker reservations job ranked.name placement.start (jobDuration job.spec) = none := by
  rcases placed.free with far | free
  · exact absurd soon far.not_gt
  · exact earliestValidStart_eq_floor (free ranked chosen)

theorem Placed.free_now (placed : Placed reservations job gate now timelines placement)
    (chosen : ranked ∈ placement.picked) (atOnce : placement.start ≤ now) : placement.start = now ∧
      ranked.timeline.earliestStart (timingRequest job ranked.timeline) (jobDuration job.spec) now = now ∧
      reservationBlocker reservations job ranked.name now (jobDuration job.spec) = none := by
  have exactly := le_antisymm atOnce placed.later
  have free := placed.free_at chosen (atOnce.trans_lt lt_lookahead)
  rw [exactly] at free
  exact ⟨exactly,free⟩

theorem Placed.gives (placed : Placed reservations job gate now timelines placement) (names : (nodeNames timelines).Nodup)
    {timeline : NodeTimeline} (inside : timeline ∈ timelines) {alloc : ResourceAllocations}
    (found : placement.perNodeAlloc[timeline.node.name]? = some alloc) :
    ∃ ranked ∈ placement.picked, ranked.timeline = timeline ∧ Share job placement.start ranked alloc := by
  have picked : timeline.node.name ∈ placement.picked.map Ranked.name := by
    by_contra absent
    rw [plannedAt_absent placed.planned absent] at found
    cases found
  obtain ⟨ranked,listed,same⟩ := List.mem_map.mp picked
  obtain ⟨planned,stored,built⟩ := plannedAt_find placed.planned (placed.names_nodup names) listed
  have itself := inj_on_of_nodup_map names (mem_of_getElem? (placed.at_index listed)) inside same
  rw [same,found] at stored
  cases stored
  exact ⟨ranked,listed,itself,built⟩

end

end Spur.Sched
