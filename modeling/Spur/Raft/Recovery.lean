import Spur.Raft.Store

/-! Runs of the store with crashes between any two file operations, and the log that a start reads back. -/
namespace Spur.Raft
open Std Spur.Library Spur.Library.Run List Table

variable {P D : Type}

def above (purged : Option LogId) (i : Nat) : Bool := purged.all (·.index < i)

/-- Where the log above the purge point starts; `origin` is the index of the first entry ever stored. -/
def startOf (origin : Nat) (purged : Option LogId) : Nat := (purged.map fun p => p.index + 1).getD origin

def Store.tip (store : Store P D) : Option LogId :=
  match store.getLogState.2 with
  | some last => if above store.inner.lastPurged last.index then some last else store.inner.lastPurged
  | none => store.inner.lastPurged

/-- Entries of consecutive indexes from `index` on, with terms that do not fall. -/
def Consecutive : Nat → Nat → List (Entry P) → Prop
  | _, _, [] => True
  | index, term, e :: es => e.logId.index = index ∧ term ≤ e.logId.term ∧ Consecutive (index + 1) e.logId.term es

instance decidableConsecutive : ∀ (index term : Nat) (entries : List (Entry P)), Decidable (Consecutive index term entries)
  | _, _, [] => isTrue True.intro
  | index, _, e :: es =>
    haveI := decidableConsecutive (index + 1) e.logId.term es
    inferInstanceAs (Decidable (_ ∧ _ ∧ _))

def Op.Fits (origin : Nat) (store : Store P D) : Op P D → Prop
  | .appendToLog entries =>
    Consecutive ((store.tip.map fun p => p.index + 1).getD origin) ((store.tip.map LogId.term).getD 0) entries
  | .purgeLogsUpto logId => startOf origin store.inner.lastPurged ≤ logId.index + 1
  | _ => True

structure Gapless (origin : Nat) (purged : Option LogId) (log : Table Nat (Entry P)) : Prop where
  run : ∃ stop, ∀ i, i ∈ log ∧ above purged i = true ↔ startOf origin purged ≤ i ∧ i < stop
  terms : ∀ (i j : Nat) (a b : Entry P), above purged i = true → log[i]? = some a → log[j]? = some b → i ≤ j →
    a.logId.term ≤ b.logId.term

/-- A store and the entries that truncations have removed and nobody has appended since. -/
structure Journal (P D : Type) where
  store : Store P D
  removed : Set (Entry P)

inductive Event (P D : Type) where
  | done (op : Op P D)
  | crash (op : Op P D) (after : Nat)

namespace Journal

def removedBy (journal : Journal P D) : Op P D → Set (Entry P)
  | .appendToLog entries => { e | e ∈ journal.removed ∧ e ∉ entries }
  | .deleteConflictLogsSince logId =>
    { e | e ∈ journal.removed ∨ ∃ i ∈ journal.store.keysFrom logId.index, journal.store.inner.log[i]? = some e }
  | _ => journal.removed

def removedByCut (journal : Journal P D) (after : Nat) : Op P D → Set (Entry P)
  | .appendToLog entries => { e | e ∈ journal.removed ∧ e ∉ entries.take after }
  | _ => journal.removed

def step (journal : Journal P D) : Event P D → Journal P D
  | .done op => ⟨journal.store.perform op,journal.removedBy op⟩
  | .crash op after => ⟨journal.store.crash op after,journal.removedByCut after op⟩

def new : Journal P D := ⟨.empty,∅⟩

def Valid (origin : Nat) (journal : Journal P D) : Event P D → Prop
  | .done op => op.Fits origin journal.store
  | .crash op _ => op.Fits origin journal.store

/-- No crash falls between the removals of a truncation: one above the purge point done, another still to come. -/
def Whole (journal : Journal P D) : Event P D → Prop
  | .crash (.deleteConflictLogsSince logId) after =>
    (journal.store.keysFrom logId.index).drop after = [] ∨
      ∀ key ∈ (journal.store.keysFrom logId.index).take after, above journal.store.inner.lastPurged key = false
  | _ => True

def Sound (origin : Nat) (journal : Journal P D) : Prop :=
  Gapless origin (recover journal.store.disk).inner.lastPurged (recover journal.store.disk).inner.log ∧
    ∀ e ∈ journal.removed, ∀ i : Nat, (recover journal.store.disk).inner.log[i]? ≠ some e

end Journal

variable {i after : Nat} {keys : List Nat} {logId : LogId}

theorem above_iff {origin : Nat} {purged : Option LogId} (from_ : startOf origin purged ≤ i) :
    above purged i = true := by
  cases purged with
  | none => rfl
  | some p => exact decide_eq_true from_

theorem above_mono {purged : Option LogId} {j : Nat} (le : i ≤ j) (here : above purged i = true) :
    above purged j = true := by
  cases purged with
  | none => rfl
  | some p => exact decide_eq_true ((of_decide_eq_true here : p.index < i).trans_le le)

namespace Gapless

variable {origin : Nat} {purged : Option LogId} {log : Table Nat (Entry P)}

theorem remove_below (gapless : Gapless origin purged log)
    (below : ∀ key ∈ keys, above purged key = false) : Gapless origin purged (removeAll log keys) := by
  have kept (i : Nat) (here : above purged i = true) : (removeAll log keys)[i]? = log[i]? := by
    rw [find_removeAll,if_neg]
    intro listed
    rw [below i listed] at here
    cases here
  obtain ⟨⟨stop,run⟩,terms⟩ := gapless
  refine ⟨⟨stop,fun i => ?_⟩,fun i j a b here first second le => ?_⟩
  · rw [← run i]
    refine and_congr_left fun here => ?_
    rw [mem_iff_find,mem_iff_find,kept i here]
  · rw [kept i here] at first
    rw [kept j (above_mono le here)] at second
    exact terms i j a b here first second le

theorem remove_from (gapless : Gapless origin purged log) {index : Nat}
    (all : ∀ i, i ∈ keys ↔ i ∈ log ∧ index ≤ i) : Gapless origin purged (removeAll log keys) := by
  obtain ⟨⟨stop,run⟩,terms⟩ := gapless
  have left (i : Nat) : i ∈ removeAll log keys ↔ i ∈ log ∧ i < index := by
    rw [mem_iff_find,mem_iff_find,find_removeAll]
    by_cases listed : i ∈ keys
    · rw [if_pos listed]
      have late := ((all i).mp listed).2
      constructor
      · rintro ⟨e,none_⟩
        cases none_
      · omega
    · rw [if_neg listed]
      constructor
      · intro found
        refine ⟨found,Nat.not_le.mp fun late => listed ((all i).mpr ⟨?_,late⟩)⟩
        exact mem_iff_find.mpr found
      · exact And.left
  refine ⟨⟨min stop index,fun i => ?_⟩,fun i j a b here first second le => ?_⟩
  · rw [left,and_right_comm,run i]
    omega
  rw [find_removeAll] at first second
  split at first
  · cases first
  · split at second
    · cases second
    · exact terms i j a b here first second le

theorem purge (gapless : Gapless origin purged log) {logId : LogId} (forward : startOf origin purged ≤ logId.index + 1)
    {keys : List Nat} (below : ∀ key ∈ keys, key ≤ logId.index) : Gapless origin (some logId) (removeAll log keys) := by
  have moved : Gapless origin (some logId) log := by
    obtain ⟨⟨stop,run⟩,terms⟩ := gapless
    have past {i : Nat} (here : above (some logId) i = true) : startOf origin purged ≤ i :=
      forward.trans (of_decide_eq_true here : logId.index < i)
    refine ⟨⟨stop,fun i => ?_⟩,fun i j a b here first second le => ?_⟩
    · constructor
      · rintro ⟨listed,here⟩
        exact ⟨(of_decide_eq_true here : logId.index < i),((run i).mp ⟨listed,above_iff (past here)⟩).2⟩
      · rintro ⟨from_,early⟩
        have here := above_iff from_
        exact ⟨((run i).mpr ⟨past here,early⟩).1,here⟩
    · exact terms i j a b (above_iff (past here)) first second le
  exact moved.remove_below fun key listed => decide_eq_false (Nat.not_lt.mpr (below key listed))

end Gapless

structure Ends (origin : Nat) (purged : Option LogId) (log : Table Nat (Entry P)) (stop term : Nat) : Prop where
  run : ∀ i, i ∈ log ∧ above purged i = true ↔ startOf origin purged ≤ i ∧ i < stop
  started : startOf origin purged ≤ stop
  terms : ∀ (i j : Nat) (a b : Entry P), above purged i = true → log[i]? = some a → log[j]? = some b → i ≤ j →
    a.logId.term ≤ b.logId.term
  bound : ∀ (i : Nat) (e : Entry P), above purged i = true → log[i]? = some e → e.logId.term ≤ term

namespace Ends

variable {origin stop term : Nat} {purged : Option LogId} {log : Table Nat (Entry P)}

theorem gapless (ends : Ends origin purged log stop term) : Gapless origin purged log := ⟨⟨stop,ends.run⟩,ends.terms⟩

theorem insert (ends : Ends origin purged log stop term) {e : Entry P} (next : e.logId.index = stop)
    (rises : term ≤ e.logId.term) : Ends origin purged (log.insert e.logId.index e) (stop + 1) e.logId.term := by
  obtain ⟨run,started,terms,bound⟩ := ends
  rw [next]
  have fresh (j : Nat) (b : Entry P) (le : stop ≤ j) (there : log[j]? = some b) : False := by
    have listed : j ∈ log := mem_iff_find.mpr ⟨b,there⟩
    have inside := (run j).mp ⟨listed,above_mono le (above_iff started)⟩
    omega
  refine ⟨fun i => ?_,started.trans (Nat.le_succ stop),fun i j a b here first second le => ?_,fun i a here found => ?_⟩
  · rw [ExtTreeMap.mem_insert,Std.compare_eq_iff_eq,or_and_right,run i]
    constructor
    · rintro (⟨rfl,-⟩ | ⟨from_,early⟩)
      · exact ⟨started,Nat.lt_succ_self _⟩
      · exact ⟨from_,Nat.lt_succ_of_lt early⟩
    · rintro ⟨from_,early⟩
      rcases Nat.lt_succ_iff_lt_or_eq.mp early with before | rfl
      · exact .inr ⟨from_,before⟩
      · exact .inl ⟨rfl,above_iff from_⟩
  · rw [find_insert] at first second
    split at first
    next same =>
      cases first
      split at second
      next => exact (Option.some.inj second) ▸ le_rfl
      next => exact (fresh j b (same ▸ le) second).elim
    next =>
      split at second
      next =>
        cases second
        exact (bound i a here first).trans rises
      next => exact terms i j a b here first second le
  · rw [find_insert] at found
    split at found
    · cases found
      exact le_rfl
    · exact (bound i a here found).trans rises

theorem insertAll (ends : Ends origin purged log stop term) {entries : List (Entry P)}
    (consecutive : Consecutive stop term entries) : Gapless origin purged (insertAll log entries) := by
  induction entries generalizing log stop term with
  | nil => exact ends.gapless
  | cons e es ih => exact ih (ends.insert consecutive.1 consecutive.2.1) consecutive.2.2

end Ends

theorem Consecutive.take {index term : Nat} {entries : List (Entry P)} (consecutive : Consecutive index term entries)
    (n : Nat) : Consecutive index term (entries.take n) := by
  induction entries generalizing index term n with
  | nil => rw [take_nil]; exact consecutive
  | cons e es ih =>
    cases n with
    | zero => exact True.intro
    | succ n => exact ⟨consecutive.1,consecutive.2.1,ih consecutive.2.2 n⟩

theorem getLogState_cases {store : Store P D} : (store.getLogState.2 = none ∧ ∀ i, i ∉ store.inner.log) ∨
      ∃ last e, store.inner.log[last]? = some e ∧ (∀ i ∈ store.inner.log, i ≤ last) ∧
        store.getLogState.2 = some e.logId := by
  have named := ExtTreeMap.map_fst_toList_eq_keys (t := store.inner.log)
  have ascending : store.inner.log.keys.Pairwise _ := ExtTreeMap.ordered_keys.imp Nat.compare_eq_lt.mp
  unfold Store.getLogState
  rcases eq_nil_or_concat store.inner.log.toList with empty | ⟨front,⟨last,e⟩,listed⟩
  · refine .inl ⟨by rw [empty]; rfl,fun i inside => ?_⟩
    rw [← ExtTreeMap.mem_keys,← named,empty] at inside
    cases inside
  · rw [concat_eq_append] at listed
    rw [listed,map_append] at named
    rw [← named] at ascending
    refine .inr ⟨last,e,ExtTreeMap.mem_toList_iff_getElem?_eq_some.mp (by rw [listed]; simp),fun i inside => ?_,?_⟩
    · rw [← ExtTreeMap.mem_keys,← named] at inside
      rcases mem_append.mp inside with before | same
      · exact ((pairwise_append.mp ascending).2.2 i before last mem_cons_self).le
      · exact (mem_singleton.mp same).le
    · rw [listed,List.getLast?_concat]
      rfl

theorem Gapless.ends {origin : Nat} {store : Store P D} (keyed : Keyed store.inner.log)
    (gapless : Gapless origin store.inner.lastPurged store.inner.log) :
    Ends origin store.inner.lastPurged store.inner.log ((store.tip.map fun p => p.index + 1).getD origin)
      ((store.tip.map LogId.term).getD 0) := by
  obtain ⟨⟨stop,run⟩,terms⟩ := gapless
  have none_above (nothing : ∀ i ∈ store.inner.log, above store.inner.lastPurged i = false)
      (same : store.tip = store.inner.lastPurged) :
      Ends origin store.inner.lastPurged store.inner.log ((store.tip.map fun p => p.index + 1).getD origin)
        ((store.tip.map LogId.term).getD 0) := by
    have absent {i : Nat} {e : Entry P} (here : above store.inner.lastPurged i = true)
        (found : store.inner.log[i]? = some e) : False := by
      rw [nothing i (mem_iff_find.mpr ⟨e,found⟩)] at here
      cases here
    rw [same]
    refine ⟨fun i => ?_,le_rfl,terms,fun i e here found => (absent here found).elim⟩
    constructor
    · rintro ⟨listed,here⟩
      obtain ⟨e,found⟩ := mem_iff_find.mp listed
      exact (absent here found).elim
    · rintro ⟨from_,early⟩
      exact absurd early (Nat.not_lt.mpr from_)
  rcases getLogState_cases with ⟨none_,empty⟩ | ⟨last,e,found,greatest,here⟩
  · refine none_above (fun i listed => absurd listed (empty i)) ?_
    unfold Store.tip
    rw [none_]
  · have index := keyed last e found
    by_cases over_ : above store.inner.lastPurged last = true
    · have tip : store.tip = some e.logId := by
        unfold Store.tip
        rw [here]
        exact if_pos (index ▸ over_)
      have inside := (run last).mp ⟨mem_iff_find.mpr ⟨e,found⟩,over_⟩
      rw [tip]
      change Ends origin _ _ (e.logId.index + 1) _
      rw [index]
      refine ⟨fun i => ?_,inside.1.trans (Nat.le_succ last),terms,fun i a at_ stored => ?_⟩
      · constructor
        · rintro ⟨listed,at_⟩
          exact ⟨((run i).mp ⟨listed,at_⟩).1,Nat.lt_succ_of_le (greatest i listed)⟩
        · rintro ⟨from_,early⟩
          exact (run i).mpr ⟨from_,(Nat.le_of_lt_succ early).trans_lt inside.2⟩
      · exact terms i last a e at_ stored found (greatest i (mem_iff_find.mpr ⟨a,stored⟩))
    · have below (i : Nat) (listed : i ∈ store.inner.log) : above store.inner.lastPurged i = false := by
        by_contra high
        exact over_ (above_mono (greatest i listed) (Bool.not_eq_false _ ▸ high))
      refine none_above below ?_
      unfold Store.tip
      rw [here]
      exact if_neg (index ▸ over_)

def Op.touchesLog : Op P D → Bool
  | .appendToLog _ => true
  | .deleteConflictLogsSince _ => true
  | .purgeLogsUpto _ => true
  | _ => false

namespace Store

variable (store : Store P D)

theorem mem_keysFrom (index i : Nat) : i ∈ store.keysFrom index ↔ i ∈ store.inner.log ∧ index ≤ i := by
  unfold keysFrom
  rw [mem_filter,ExtTreeMap.mem_keys,decide_eq_true_eq]

theorem le_of_mem_keysUpto {index : Nat} (listed : i ∈ store.keysUpto index) : i ≤ index :=
  of_decide_eq_true (mem_filter.mp listed).2

theorem keysFrom_ascending (index : Nat) : (store.keysFrom index).Pairwise (· < ·) :=
  (ExtTreeMap.ordered_keys.imp Nat.compare_eq_lt.mp).filter _

theorem diskAfter_append (entries : List (Entry P)) (after : Nat) :
    store.diskAfter (.appendToLog entries) after = { store.disk with log := insertAll store.disk.log (entries.take after) } := by
  unfold diskAfter files
  rw [← map_take,foldl_writeEntry]

theorem diskAfter_delete (logId : LogId) (after : Nat) : store.diskAfter (.deleteConflictLogsSince logId) after =
      { store.disk with log := removeAll store.disk.log ((store.keysFrom logId.index).take after) } := by
  unfold diskAfter files
  rw [← map_take,foldl_removeEntry]

theorem diskAfter_purge : ((store.diskAfter (.purgeLogsUpto logId) after).log = store.disk.log ∧
        (store.diskAfter (.purgeLogsUpto logId) after).purged = store.disk.purged) ∨
      ∃ keys, (∀ key ∈ keys, key ≤ logId.index) ∧
        (store.diskAfter (.purgeLogsUpto logId) after).log = removeAll store.disk.log keys ∧
        (store.diskAfter (.purgeLogsUpto logId) after).purged = some logId := by
  match after with
  | 0 => exact .inl ⟨rfl,rfl⟩
  | 1 => exact .inl ⟨rfl,rfl⟩
  | after + 2 =>
    refine .inr ⟨(store.keysUpto _).take after,fun key listed => store.le_of_mem_keysUpto (mem_of_mem_take listed),?_⟩
    unfold diskAfter files
    dsimp only
    rw [cons_append,cons_append,take_succ_cons,take_succ_cons,nil_append,← map_take,
      foldl_cons,foldl_cons,foldl_removeEntry]
    exact ⟨rfl,rfl⟩

theorem mem_snapshotFiles {snapshot : PersistedSnapshot D} {fileOp : FileOp P D}
    (listed : fileOp ∈ store.snapshotFiles snapshot) :
    (∃ name, fileOp = .writeTemp name) ∨ (∃ vote, fileOp = .renameVote vote) ∨
      ∃ snapshot, fileOp = .renameSnapshot snapshot := by
  unfold snapshotFiles at listed
  split at listed
  · cases listed
  simp only [mem_cons,not_mem_nil,or_false] at listed
  rcases listed with rfl | rfl
  · exact .inl ⟨_,rfl⟩
  · exact .inr (.inr ⟨_,rfl⟩)

theorem diskAfter_other {op : Op P D} (other : op.touchesLog = false) :
    (store.diskAfter op after).log = store.disk.log ∧ (store.diskAfter op after).purged = store.disk.purged := by
  have quiet (fileOps : List _) (few : ∀ fileOp ∈ fileOps, (∃ name, fileOp = .writeTemp name) ∨
      (∃ vote, fileOp = .renameVote vote) ∨ ∃ snapshot, fileOp = .renameSnapshot snapshot) (disk : Disk P D) :
      (fileOps.foldl FileOp.run disk).log = disk.log ∧ (fileOps.foldl FileOp.run disk).purged = disk.purged := by
    induction fileOps generalizing disk with
    | nil => exact ⟨rfl,rfl⟩
    | cons fileOp fileOps ih =>
      obtain ⟨sameLog,samePurged⟩ := ih (fun other listed => few other (mem_cons_of_mem _ listed)) _
      rw [foldl_cons,sameLog,samePurged]
      rcases few fileOp mem_cons_self with ⟨name,rfl⟩ | ⟨vote,rfl⟩ | ⟨snapshot,rfl⟩
      · exact ⟨rfl,rfl⟩
      · exact ⟨rfl,rfl⟩
      · exact ⟨rfl,rfl⟩
  refine quiet _ (fun fileOp listed => ?_) _
  have inside := mem_of_mem_take listed
  cases op with
  | appendToLog entries => cases other
  | deleteConflictLogsSince logId => cases other
  | purgeLogsUpto logId => cases other
  | saveVote vote =>
    simp only [files,mem_cons,not_mem_nil,or_false] at inside
    rcases inside with rfl | rfl
    · exact .inl ⟨_,rfl⟩
    · exact .inr (.inl ⟨_,rfl⟩)
  | applyToStateMachine entries => cases inside
  | buildSnapshot data => exact store.mem_snapshotFiles inside
  | installSnapshot lastLogId data => exact store.mem_snapshotFiles inside

end Store

namespace Journal

/-- What a run keeps: memory and files agree, no gap, nothing that a truncation removed. -/
structure Kept (origin : Nat) (journal : Journal P D) : Prop where
  synced : Synced journal.store
  gapless : Gapless origin journal.store.inner.lastPurged journal.store.inner.log
  gone : ∀ e ∈ journal.removed, ∀ i : Nat, journal.store.inner.log[i]? ≠ some e

variable {origin : Nat} {journal : Journal P D}

theorem sound_iff (synced : Synced journal.store) :
    journal.Sound origin ↔ Gapless origin journal.store.inner.lastPurged journal.store.inner.log ∧
      ∀ e ∈ journal.removed, ∀ i : Nat, journal.store.inner.log[i]? ≠ some e := by
  unfold Sound
  rw [synced.recovered.1,synced.recovered.2]

theorem new_kept {origin : Nat} : (new : Journal P D).Kept origin where
  synced := empty_synced
  gapless := by
    have none_ (i : Nat) : (∅ : Table Nat (Entry P))[i]? = none := ExtTreeMap.getElem?_empty
    refine ⟨⟨0,fun i => ?_⟩,fun i j a b _ found => ?_⟩
    · change i ∈ (∅ : Table Nat _) ∧ _ ↔ _
      simp
    · cases found
  gone _ absurd_ := absurd_.elim

theorem kept_of_disk {disk : Disk P D} {removed : Set (Entry P)} (keyed : Keyed disk.log)
    (gapless : Gapless origin disk.purged disk.log) (gone : ∀ e ∈ removed, ∀ i : Nat, disk.log[i]? ≠ some e) :
    (Journal.mk (recover disk) removed).Kept origin where
  synced := recover_synced keyed
  gapless := by
    change Gapless origin _ (readLog _)
    rw [readLog_eq keyed]
    exact gapless
  gone := by
    change ∀ e ∈ removed, ∀ i : Nat, (readLog _)[i]? ≠ some e
    rw [readLog_eq keyed]
    exact gone

theorem find_removeAll_ne {log : Table Nat (Entry P)} {e : Entry P} (gone : log[i]? ≠ some e) :
    (removeAll log keys)[i]? ≠ some e := by
  rw [find_removeAll]
  split
  · exact nofun
  · exact gone

theorem find_insertAll_ne {log : Table Nat (Entry P)} {e : Entry P} {entries : List (Entry P)}
    (gone : log[i]? ≠ some e) (other : e ∉ entries) : (insertAll log entries)[i]? ≠ some e := by
  intro found
  rcases found_of_insertAll found with ⟨listed,-⟩ | before
  · exact other listed
  · exact gone before

theorem done_kept {op : Op P D} (kept : journal.Kept origin) (fits : op.Fits origin journal.store) :
    (journal.step (.done op)).Kept origin := by
  obtain ⟨synced,gapless,gone⟩ := kept
  refine ⟨perform_synced synced,?_,?_⟩
  · cases op with
    | appendToLog entries => exact (gapless.ends synced.keyed).insertAll fits
    | deleteConflictLogsSince logId => exact gapless.remove_from (journal.store.mem_keysFrom _)
    | purgeLogsUpto logId => exact gapless.purge fits fun key listed => journal.store.le_of_mem_keysUpto listed
    | saveVote vote => exact gapless
    | applyToStateMachine entries => exact gapless
    | buildSnapshot data => exact gapless
    | installSnapshot lastLogId data => exact gapless
  · cases op with
    | appendToLog entries => exact fun e inside i => find_insertAll_ne (gone e inside.1 i) inside.2
    | deleteConflictLogsSince logId =>
      rintro e (before | ⟨key,listed,stored⟩) i found
      · exact find_removeAll_ne (gone e before i) found
      · have there := found
        change (removeAll _ _)[i]? = some e at there
        rw [find_removeAll] at there
        split at there
        next => cases there
        next other =>
          have same : key = i := (synced.keyed key e stored).symm.trans (synced.keyed i e there)
          exact other (same ▸ listed)
    | purgeLogsUpto logId => exact fun e inside i => find_removeAll_ne (gone e inside i)
    | saveVote vote => exact gone
    | applyToStateMachine entries => exact gone
    | buildSnapshot data => exact gone
    | installSnapshot lastLogId data => exact gone

theorem crash_kept {op : Op P D} (kept : journal.Kept origin) (fits : op.Fits origin journal.store)
    (whole : journal.Whole (.crash op after)) : (journal.step (.crash op after)).Kept origin := by
  obtain ⟨synced,gapless,gone⟩ := kept
  have keyed := synced.keyed
  have ends := gapless.ends keyed
  rw [synced.log] at keyed gone
  rw [synced.purged,synced.log] at gapless
  have untouched (same : (journal.store.diskAfter op after).log = journal.store.disk.log ∧
      (journal.store.diskAfter op after).purged = journal.store.disk.purged) :
      (Journal.mk (journal.store.crash op after) journal.removed).Kept origin := by
    obtain ⟨log,purged⟩ := same
    refine kept_of_disk ?_ ?_ ?_
    · rw [log]
      exact keyed
    · rw [log,purged]
      exact gapless
    · rw [log]
      exact gone
  cases op with
  | appendToLog entries =>
    change (Journal.mk (recover _) _).Kept origin
    rw [Store.diskAfter_append]
    refine kept_of_disk (keyed.insert _) ?_ fun e inside i => find_insertAll_ne (gone e inside.1 i) inside.2
    rw [← synced.log,← synced.purged]
    exact ends.insertAll (Consecutive.take fits after)
  | deleteConflictLogsSince logId =>
    change (Journal.mk (recover _) _).Kept origin
    rw [Store.diskAfter_delete]
    refine kept_of_disk keyed.erase ?_ fun e inside i => find_removeAll_ne (gone e inside i)
    rcases whole with finished | below
    · have all : (journal.store.keysFrom logId.index).take after = journal.store.keysFrom logId.index := by
        rw [take_eq_self_iff]
        exact drop_eq_nil_iff.mp finished
      rw [all]
      have listed := journal.store.mem_keysFrom logId.index
      rw [synced.log] at listed
      exact gapless.remove_from listed
    · rw [synced.purged] at below
      exact gapless.remove_below below
  | purgeLogsUpto logId =>
    rcases journal.store.diskAfter_purge with same | ⟨keys,below,log,purged⟩
    · exact untouched same
    refine kept_of_disk ?_ ?_ ?_
    · rw [log]
      exact keyed.erase
    · rw [log,purged]
      refine gapless.purge ?_ below
      rw [← synced.purged]
      exact fits
    · rw [log]
      exact fun e inside i => find_removeAll_ne (gone e inside i)
  | saveVote vote => exact untouched (journal.store.diskAfter_other rfl)
  | applyToStateMachine entries => exact untouched (journal.store.diskAfter_other rfl)
  | buildSnapshot data => exact untouched (journal.store.diskAfter_other rfl)
  | installSnapshot lastLogId data => exact untouched (journal.store.diskAfter_other rfl)

theorem step_kept {event : Event P D} (kept : journal.Kept origin) (valid : journal.Valid origin event)
    (whole : journal.Whole event) : (journal.step event).Kept origin := by
  cases event with
  | done op => exact done_kept kept valid
  | crash op after => exact crash_kept kept valid whole

theorem gap_of_cut (kept : journal.Kept origin)
    (cut : ¬journal.Whole (.crash (.deleteConflictLogsSince logId) after)) :
    ¬(journal.step (.crash (.deleteConflictLogsSince logId) after)).Sound origin := by
  intro sound
  obtain ⟨synced,gapless,gone⟩ := kept
  have keyed := synced.keyed
  rw [synced.log] at keyed
  obtain ⟨more,taken⟩ := not_or.mp cut
  simp only [not_forall,Bool.not_eq_false] at taken
  obtain ⟨first,early,high⟩ := taken
  obtain ⟨second,late⟩ := exists_mem_of_ne_nil _ more
  have ascending := journal.store.keysFrom_ascending logId.index
  rw [← take_append_drop after (journal.store.keysFrom _)] at ascending
  have order := (pairwise_append.mp ascending).2.2
  have less : first < second := order first early second late
  -- what the disk has now: the second key, but not the first
  obtain ⟨⟨stop,run⟩,-⟩ := sound.1
  change ∀ i, i ∈ readLog (journal.store.diskAfter _ after).log ∧ above (journal.store.diskAfter _ after).purged i = true ↔
    startOf origin (journal.store.diskAfter _ after).purged ≤ i ∧ i < stop at run
  rw [Store.diskAfter_delete] at run
  rw [readLog_eq keyed.erase,← synced.log,← synced.purged] at run
  have stored : second ∈ journal.store.inner.log :=
    ((journal.store.mem_keysFrom _ second).mp (mem_of_mem_drop late)).1
  have kept : second ∈ removeAll journal.store.inner.log ((journal.store.keysFrom logId.index).take after) := by
    rw [mem_iff_find,find_removeAll,if_neg fun both => absurd (order second both second late) (lt_irrefl _)]
    exact mem_iff_find.mp stored
  have inside := (run second).mp ⟨kept,above_mono less.le high⟩
  obtain ⟨⟨_,before⟩,-⟩ := gapless
  have there : first ∈ journal.store.inner.log :=
    ((journal.store.mem_keysFrom _ first).mp (mem_of_mem_take early)).1
  have missing := ((run first).mpr ⟨((before first).mp ⟨there,high⟩).1,less.trans inside.2⟩).1
  rw [mem_iff_find,find_removeAll,if_pos early] at missing
  obtain ⟨e,none_⟩ := missing
  cases none_

theorem sound_of_kept (kept : journal.Kept origin) : journal.Sound origin :=
  (sound_iff kept.synced).mpr ⟨kept.gapless,kept.gone⟩

theorem sound_step_iff {event : Event P D} (kept : journal.Kept origin) (valid : journal.Valid origin event) :
    (journal.step event).Sound origin ↔ journal.Whole event := by
  constructor
  · intro sound
    by_contra cut
    cases event with
    | done op => exact cut True.intro
    | crash op after =>
      cases op with
      | deleteConflictLogsSince logId => exact gap_of_cut kept cut sound
      | appendToLog entries => exact cut True.intro
      | purgeLogsUpto logId => exact cut True.intro
      | saveVote vote => exact cut True.intro
      | applyToStateMachine entries => exact cut True.intro
      | buildSnapshot data => exact cut True.intro
      | installSnapshot lastLogId data => exact cut True.intro
  · exact fun whole => sound_of_kept (step_kept kept valid whole)

end Journal

/-- Over every run of valid requests and crashes, every log read back is sound just when no crash cuts a truncation. -/
theorem recovered_log_sound_iff (origin : Nat) (events : List (Event P D))
    (valid : Along Journal.step (Journal.Valid origin) .new events) :
    Along Journal.step (fun journal event => (journal.step event).Sound origin) .new events ↔
      Along Journal.step Journal.Whole .new events := by
  have kept : (Journal.new : Journal P D).Kept origin := Journal.new_kept
  generalize (Journal.new : Journal P D) = journal at valid kept
  induction events generalizing journal with
  | nil => exact Iff.rfl
  | cons event events ih =>
    have head := Journal.sound_step_iff kept valid.1
    constructor
    · rintro ⟨sound,later⟩
      have whole := head.mp sound
      exact ⟨whole,(ih _ valid.2 (Journal.step_kept kept valid.1 whole)).mp later⟩
    · rintro ⟨whole,later⟩
      exact ⟨head.mpr whole,(ih _ valid.2 (Journal.step_kept kept valid.1 whole)).mpr later⟩

theorem recovered_log_sound_iff_cut_purge :
    let entry := fun index term => (⟨⟨term,0,index⟩,()⟩ : Entry Unit)
    let events : List (Event Unit Unit) := [.done (.appendToLog [entry 1 1,entry 2 1,entry 3 1]),
      .crash (.purgeLogsUpto ⟨1,0,2⟩) 3,.done (.deleteConflictLogsSince ⟨1,0,3⟩),
      .crash (.appendToLog [entry 3 2,entry 4 2]) 1]
    Along Journal.step (fun journal event => (journal.step event).Sound 1) .new events := by
  intro entry events
  have valid : Along Journal.step (Journal.Valid 1) .new events := by
    refine ⟨?_,?_,True.intro,?_,True.intro⟩
    · change Consecutive _ _ _
      decide +kernel
    · change startOf _ _ ≤ _
      decide +kernel
    · change Consecutive _ _ _
      decide +kernel
  exact (recovered_log_sound_iff 1 events valid).mpr ⟨True.intro,True.intro,True.intro,True.intro,True.intro⟩

/-- The truncation of the entries from 2 on is cut after its first removal: entry 3 is read back without entry 2. -/
theorem truncation_cut_leaves_gap :
    let entry := fun index => (⟨⟨1,0,index⟩,()⟩ : Entry Unit)
    let events : List (Event Unit Unit) :=
      [.done (.appendToLog [entry 1,entry 2,entry 3]),.crash (.deleteConflictLogsSince ⟨1,0,2⟩) 1]
    let journal := events.foldl Journal.step .new
    Along Journal.step (Journal.Valid 1) .new events ∧ journal.store.inner.log.keys = [1,3] ∧
      journal.store.inner.lastPurged = none ∧ ¬journal.Sound 1 := by
  refine ⟨⟨?_,True.intro,True.intro⟩,by decide +kernel,rfl,fun sound => ?_⟩
  · change Consecutive _ _ _
    decide +kernel
  obtain ⟨⟨stop,run⟩,-⟩ := sound.1
  have three := (run 3).mp ⟨by decide +kernel,by decide +kernel⟩
  have two := ((run 2).mpr ⟨by decide +kernel,by omega⟩).1
  exact absurd two (by decide +kernel)

end Spur.Raft
