import Spur.Raft.Recovery

/-! What the store reports as the end of its log, over runs of requests and restarts. -/
namespace Spur.Raft
open Std Spur.Library Spur.Library.Run List Table Std.ExtTreeMap

variable {P D : Type}

namespace Store

def next (store : Store P D) : Option (Op P D) → Store P D
  | some op => store.perform op
  | none => recover store.disk

/-- The reported last id is that of the last entry above the purge point or, when there is none, the purge point. -/
def ReportsEnd (store : Store P D) : Prop :=
  (∃ (last : Nat) (e : Entry P), store.inner.log[last]? = some e ∧ above store.inner.lastPurged last = true ∧
      (∀ i ∈ store.inner.log, above store.inner.lastPurged i = true → i ≤ last) ∧
      store.getLogState.2 = some e.logId) ∨
    (∀ i ∈ store.inner.log, above store.inner.lastPurged i = false) ∧ store.getLogState.2 = store.inner.lastPurged

def AppendsFit (origin : Nat) (store : Store P D) (step : Option (Op P D)) : Prop :=
  ∀ entries, step = some (.appendToLog entries) → Op.Fits origin store (.appendToLog entries : Op P D)

/-- An entry stays above the purge point: of a purge, and of a truncation once something has been purged. -/
def LeavesEntry (store : Store P D) : Option (Op P D) → Prop
  | some (.purgeLogsUpto logId) => ∃ i ∈ store.inner.log, logId.index < i
  | some (.deleteConflictLogsSince logId) =>
    store.inner.lastPurged = none ∨ ∃ i ∈ store.inner.log, i < logId.index
  | _ => True

/-- Memory and files agree, what is stored lies above the purge point, and after a purge something is stored. -/
structure Ended (store : Store P D) : Prop where
  synced : Synced store
  stored : ∀ i ∈ store.inner.log, above store.inner.lastPurged i = true
  filled : store.inner.lastPurged = none ∨ ∃ i, i ∈ store.inner.log

variable {store : Store P D}

theorem reportsEnd_iff (stored : ∀ i ∈ store.inner.log, above store.inner.lastPurged i = true) :
    store.ReportsEnd ↔ store.inner.lastPurged = none ∨ ∃ i, i ∈ store.inner.log := by
  rcases getLogState_cases with ⟨none_,empty⟩ | ⟨last,e,found,greatest,here⟩
  · constructor
    · rintro (⟨last,e,found,-⟩ | ⟨-,same⟩)
      · exact absurd (mem_iff_find.mpr ⟨e,found⟩) (empty last)
      · exact .inl (same.symm.trans none_)
    · rintro (unpurged | ⟨i,listed⟩)
      · refine .inr ⟨fun i listed => absurd listed (empty i),?_⟩
        rw [none_,unpurged]
      · exact absurd listed (empty i)
  · have listed : last ∈ store.inner.log := mem_iff_find.mpr ⟨e,found⟩
    refine ⟨fun _ => .inr ⟨last,listed⟩,fun _ => .inl ⟨last,e,found,stored last listed,?_,here⟩⟩
    exact fun i inside _ => greatest i inside

theorem mem_removeAll {log : Table Nat (Entry P)} {keys : List Nat} {i : Nat} :
    i ∈ removeAll log keys ↔ i ∈ log ∧ i ∉ keys := by
  rw [mem_iff_find,mem_iff_find,find_removeAll]
  split
  next listed => simp [listed]
  next other => simp [other]

theorem above_tip {origin : Nat} {store : Store P D} :
    above store.inner.lastPurged ((store.tip.map fun p => p.index + 1).getD origin) = true := by
  have purged : above _ ((store.inner.lastPurged.map fun p => p.index + 1).getD origin) = true :=
    above_iff le_rfl
  unfold tip
  split
  next last _ =>
    split
    next high => exact above_mono (Nat.le_succ _) high
    next => exact purged
  next => exact purged

theorem Consecutive.index_le {index term : Nat} {entries : List (Entry P)} (consecutive : Consecutive index term entries)
    {e : Entry P} (listed : e ∈ entries) : index ≤ e.logId.index := by
  induction entries generalizing index term with
  | nil => cases listed
  | cons first rest ih =>
    rcases mem_cons.mp listed with rfl | later
    · exact consecutive.1.ge
    · exact (Nat.le_succ index).trans (ih consecutive.2.2 later)

theorem next_synced (synced : Synced store) {step : Option (Op P D)} : Synced (store.next step) := by
  cases step with
  | some op => exact perform_synced synced
  | none =>
    have keyed := synced.keyed
    rw [synced.log] at keyed
    exact recover_synced keyed

theorem next_stored {origin : Nat} (ended : store.Ended) {step : Option (Op P D)} (fits : store.AppendsFit origin step) :
    ∀ i ∈ (store.next step).inner.log, above (store.next step).inner.lastPurged i = true := by
  intro i listed
  match step with
  | none =>
    change i ∈ (recover _).inner.log at listed
    change above (recover _).inner.lastPurged i = true
    rw [ended.synced.recovered.1] at listed
    rw [ended.synced.recovered.2]
    exact ended.stored i listed
  | some (.appendToLog entries) =>
    obtain ⟨e,found⟩ := mem_iff_find.mp listed
    rcases found_of_insertAll found with ⟨inside,rfl⟩ | before
    · exact above_mono (Consecutive.index_le (fits entries rfl) inside) above_tip
    · exact ended.stored i (mem_iff_find.mpr ⟨e,before⟩)
  | some (.deleteConflictLogsSince logId) => exact ended.stored i (mem_removeAll.mp listed).1
  | some (.purgeLogsUpto logId) =>
    obtain ⟨before,kept⟩ := mem_removeAll.mp listed
    refine decide_eq_true (Nat.not_le.mp fun low => kept ?_)
    exact mem_filter.mpr ⟨mem_keys.mpr before,decide_eq_true low⟩
  | some (.saveVote vote) => exact ended.stored i listed
  | some (.applyToStateMachine entries) => exact ended.stored i listed
  | some (.buildSnapshot data) => exact ended.stored i listed
  | some (.installSnapshot lastLogId data) => exact ended.stored i listed

theorem mem_insertAll {log : Table Nat (Entry P)} {i : Nat} (listed : i ∈ log) {entries : List (Entry P)} :
    i ∈ insertAll log entries := by
  induction entries generalizing log with
  | nil => exact listed
  | cons e es ih => exact ih (mem_insert.mpr (.inr listed))

theorem next_filled_iff (ended : store.Ended) {step : Option (Op P D)} :
    ((store.next step).inner.lastPurged = none ∨ ∃ i, i ∈ (store.next step).inner.log) ↔ store.LeavesEntry step := by
  match step with
  | none =>
    change ((recover _).inner.lastPurged = none ∨ ∃ i, i ∈ (recover _).inner.log) ↔ True
    rw [ended.synced.recovered.1,ended.synced.recovered.2]
    exact iff_true_intro ended.filled
  | some (.appendToLog entries) =>
    refine iff_true_intro (ended.filled.imp_right ?_)
    rintro ⟨i,listed⟩
    exact ⟨i,mem_insertAll listed⟩
  | some (.deleteConflictLogsSince logId) =>
    refine or_congr_right (exists_congr fun i => ?_)
    refine mem_removeAll.trans ?_
    rw [mem_keysFrom]
    constructor
    · rintro ⟨listed,early⟩
      exact ⟨listed,Nat.not_le.mp fun late => early ⟨listed,late⟩⟩
    · rintro ⟨listed,early⟩
      exact ⟨listed,fun late => absurd late.2 (Nat.not_le.mpr early)⟩
  | some (.purgeLogsUpto logId) =>
    have left (i : Nat) : i ∈ (store.perform (.purgeLogsUpto logId)).inner.log ↔
        i ∈ store.inner.log ∧ logId.index < i := by
      refine mem_removeAll.trans (and_congr_right fun listed => ?_)
      rw [← Nat.not_le]
      refine not_congr ⟨store.le_of_mem_keysUpto,fun low => ?_⟩
      exact mem_filter.mpr ⟨mem_keys.mpr listed,decide_eq_true low⟩
    constructor
    · rintro (none_ | ⟨i,listed⟩)
      · cases none_
      · exact ⟨i,(left i).mp listed⟩
    · rintro ⟨i,listed⟩
      exact .inr ⟨i,(left i).mpr listed⟩
  | some (.saveVote vote) => exact iff_true_intro ended.filled
  | some (.applyToStateMachine entries) => exact iff_true_intro ended.filled
  | some (.buildSnapshot data) => exact iff_true_intro ended.filled
  | some (.installSnapshot lastLogId data) => exact iff_true_intro ended.filled

end Store

open Store in
/-- Over every run of requests and restarts the reported end is right just when every purge, and every truncation after
a purge, leaves an entry above the purge point. -/
theorem log_end_reported_iff (origin : Nat) (steps : List (Option (Op P D)))
    (fits : Along Store.next (AppendsFit origin) .empty steps) :
    Along Store.next (fun store step => (store.next step).ReportsEnd) .empty steps ↔
      Along Store.next LeavesEntry .empty steps := by
  have ended : (Store.empty : Store P D).Ended := by
    refine ⟨empty_synced,fun i listed => ?_,.inl rfl⟩
    exact absurd listed not_mem_empty
  generalize (Store.empty : Store P D) = store at fits ended
  induction steps generalizing store with
  | nil => exact Iff.rfl
  | cons step steps ih =>
    have stored := next_stored ended fits.1
    have head : (store.next step).ReportsEnd ↔ store.LeavesEntry step :=
      (reportsEnd_iff stored).trans (next_filled_iff ended)
    have rest (leaves : store.LeavesEntry step) :=
      ih _ fits.2 ⟨next_synced ended.synced,stored,(next_filled_iff ended).mpr leaves⟩
    constructor
    · rintro ⟨reports,later⟩
      exact ⟨head.mp reports,(rest (head.mp reports)).mp later⟩
    · rintro ⟨leaves,later⟩
      exact ⟨head.mpr leaves,(rest leaves).mpr later⟩

theorem log_end_reported_iff_prefix_purged :
    let entry := fun index => (⟨⟨1,0,index⟩,()⟩ : Entry Unit)
    let steps : List (Option (Op Unit Unit)) :=
      [some (.appendToLog [entry 1,entry 2,entry 3]),some (.purgeLogsUpto ⟨1,0,1⟩),none,
        some (.deleteConflictLogsSince ⟨1,0,3⟩)]
    Along Store.next (fun store step => (store.next step).ReportsEnd) .empty steps := by
  intro entry steps
  have fits : Along Store.next (Store.AppendsFit 1) .empty steps := by
    refine ⟨?_,nofun,nofun,nofun,True.intro⟩
    rintro entries same
    cases same
    change Consecutive _ _ _
    decide +kernel
  refine (log_end_reported_iff 1 steps fits).mpr ⟨True.intro,?_,True.intro,?_,True.intro⟩
  · exact ⟨2,by decide +kernel,by decide⟩
  · exact .inr ⟨2,by decide +kernel,by decide⟩

/-- Once its only entry is purged the store reports no last id at all, before and after a restart. -/
theorem log_end_lost_after_purge :
    let steps : List (Option (Op Unit Unit)) := [some (.appendToLog [⟨⟨1,0,1⟩,()⟩]),some (.purgeLogsUpto ⟨1,0,1⟩)]
    let store := steps.foldl Store.next .empty
    Along Store.next (Store.AppendsFit 1) .empty steps ∧ store.getLogState = (some ⟨1,0,1⟩,none) ∧
      (store.next none).getLogState = (some ⟨1,0,1⟩,none) ∧ ¬store.ReportsEnd := by
  intro steps store
  have state : store.getLogState = (some ⟨1,0,1⟩,none) := by decide +kernel
  refine ⟨⟨?_,nofun,True.intro⟩,state,by decide +kernel,?_⟩
  · rintro entries same
    cases same
    change Consecutive _ _ _
    decide +kernel
  · rintro (⟨last,e,-,-,-,reported⟩ | ⟨-,reported⟩)
    · cases reported
    · cases reported

end Spur.Raft
