import Spur.Library.Run
import Spur.Library.Table

/-! The Raft store of the controller and the files behind it. A file operation is atomic and durable. -/
namespace Spur.Raft
open Std Spur.Library List Table

structure LogId where
  term : Nat
  nodeId : Nat
  index : Nat
  deriving DecidableEq

structure Vote where
  term : Nat
  nodeId : Nat
  committed : Bool
  deriving DecidableEq

structure Entry (P : Type) where
  logId : LogId
  payload : P
  deriving DecidableEq

/-- By term, node and index, as the derived order of the library's type. -/
def LogId.ge (a b : LogId) : Bool :=
  b.term < a.term || (b.term = a.term && (b.nodeId < a.nodeId || (b.nodeId = a.nodeId && b.index ≤ a.index)))

def atLeast : Option LogId → Option LogId → Bool
  | _, none => true
  | none, some _ => false
  | some a, some b => a.ge b

structure PersistedSnapshot (D : Type) where
  lastLogId : Option LogId
  data : D
  deriving DecidableEq

structure StoreInner (P : Type) where
  vote : Option Vote
  lastPurged : Option LogId
  log : Table Nat (Entry P)
  lastApplied : Option LogId

/-- The files under `raft/`; those of `log/` by the index in their name. -/
structure Disk (P D : Type) where
  vote : Option Vote
  log : Table Nat (Entry P)
  snapshot : Option (PersistedSnapshot D)
  purged : Option LogId
  temps : List String

inductive FileOp (P D : Type) where
  | writeTemp (name : String)
  | renameVote (vote : Vote)
  | renameSnapshot (snapshot : PersistedSnapshot D)
  | renamePurged (logId : LogId)
  | writeEntry (entry : Entry P)
  | removeEntry (index : Nat)

variable {P D : Type}

def FileOp.run (disk : Disk P D) : FileOp P D → Disk P D
  | .writeTemp name => { disk with temps := name :: disk.temps }
  | .renameVote vote => { disk with vote := some vote, temps := disk.temps.filter (· ≠ "vote.json.tmp") }
  | .renameSnapshot snapshot =>
    { disk with snapshot := some snapshot, temps := disk.temps.filter (· ≠ "snapshot.json.tmp") }
  | .renamePurged logId => { disk with purged := some logId, temps := disk.temps.filter (· ≠ "purged.json.tmp") }
  | .writeEntry entry => { disk with log := disk.log.insert entry.logId.index entry }
  | .removeEntry index => { disk with log := disk.log.erase index }

structure Store (P D : Type) where
  inner : StoreInner P
  currentSnapshot : Option (PersistedSnapshot D)
  disk : Disk P D

def insertAll (log : Table Nat (Entry P)) (entries : List (Entry P)) : Table Nat (Entry P) :=
  entries.foldl (fun log entry => log.insert entry.logId.index entry) log

def removeAll (log : Table Nat (Entry P)) (keys : List Nat) : Table Nat (Entry P) := keys.foldl ExtTreeMap.erase log

/-- The log as it is read back: every file of `log/`, under the index of its entry. -/
def readLog (files : Table Nat (Entry P)) : Table Nat (Entry P) :=
  ExtTreeMap.ofList (files.toList.map fun file => (file.2.logId.index,file.2)) compare

/-- `new_with_recovery_mode` when every file can be read: stale temporary files go, the rest is loaded. -/
def recover (disk : Disk P D) : Store P D where
  inner := {
    vote := disk.vote
    lastPurged := disk.purged
    log := readLog disk.log
    lastApplied := disk.snapshot.bind PersistedSnapshot.lastLogId }
  currentSnapshot := disk.snapshot
  disk := { disk with temps := [] }

inductive Op (P D : Type) where
  | appendToLog (entries : List (Entry P))
  | deleteConflictLogsSince (logId : LogId)
  | purgeLogsUpto (logId : LogId)
  | saveVote (vote : Vote)
  | applyToStateMachine (entries : List (Entry P))
  | buildSnapshot (data : D)
  | installSnapshot (lastLogId : Option LogId) (data : D)

namespace Store

variable (store : Store P D)

def keysFrom (index : Nat) : List Nat := store.inner.log.keys.filter (index ≤ ·)

def keysUpto (index : Nat) : List Nat := store.inner.log.keys.filter (· ≤ index)

/-- The snapshot is written unless one as new is current. -/
def snapshotFiles (snapshot : PersistedSnapshot D) : List (FileOp P D) :=
  if store.currentSnapshot.any fun existing => atLeast existing.lastLogId snapshot.lastLogId then []
  else [.writeTemp "snapshot.json.tmp",.renameSnapshot snapshot]

def cacheSnapshot (snapshot : PersistedSnapshot D) : Option (PersistedSnapshot D) :=
  if store.currentSnapshot.any fun existing => atLeast existing.lastLogId snapshot.lastLogId then store.currentSnapshot
  else some snapshot

def files : Op P D → List (FileOp P D)
  | .appendToLog entries => entries.map .writeEntry
  | .deleteConflictLogsSince logId => (store.keysFrom logId.index).map .removeEntry
  | .purgeLogsUpto logId =>
    [.writeTemp "purged.json.tmp",.renamePurged logId] ++ (store.keysUpto logId.index).map .removeEntry
  | .saveVote vote => [.writeTemp "vote.json.tmp",.renameVote vote]
  | .applyToStateMachine _ => []
  | .buildSnapshot data => store.snapshotFiles ⟨store.inner.lastApplied,data⟩
  | .installSnapshot lastLogId data => store.snapshotFiles ⟨lastLogId,data⟩

def memory : Op P D → StoreInner P
  | .appendToLog entries => { store.inner with log := insertAll store.inner.log entries }
  | .deleteConflictLogsSince logId =>
    { store.inner with log := removeAll store.inner.log (store.keysFrom logId.index) }
  | .purgeLogsUpto logId =>
    { store.inner with log := removeAll store.inner.log (store.keysUpto logId.index), lastPurged := some logId }
  | .saveVote vote => { store.inner with vote := some vote }
  | .applyToStateMachine entries =>
    { store.inner with lastApplied := entries.foldl (fun _ entry => some entry.logId) store.inner.lastApplied }
  | .buildSnapshot _ => store.inner
  | .installSnapshot lastLogId _ => { store.inner with lastApplied := lastLogId }

def cached : Op P D → Option (PersistedSnapshot D)
  | .buildSnapshot data => store.cacheSnapshot ⟨store.inner.lastApplied,data⟩
  | .installSnapshot lastLogId data => store.cacheSnapshot ⟨lastLogId,data⟩
  | _ => store.currentSnapshot

def diskAfter (op : Op P D) (done : Nat) : Disk P D := ((store.files op).take done).foldl FileOp.run store.disk

def perform (op : Op P D) : Store P D where
  inner := store.memory op
  currentSnapshot := store.cached op
  disk := (store.files op).foldl FileOp.run store.disk

/-- The process stops after `done` file operations of a request and is started again. -/
def crash (op : Op P D) (done : Nat) : Store P D := recover (store.diskAfter op done)

def empty : Store P D := ⟨⟨none,none,∅,none⟩,none,⟨none,∅,none,none,[]⟩⟩

def getLogState : Option LogId × Option LogId :=
  (store.inner.lastPurged,store.inner.log.toList.getLast?.map fun entry => entry.2.logId)

end Store

theorem find_removeAll (log : Table Nat (Entry P)) (keys : List Nat) (i : Nat) :
    (removeAll log keys)[i]? = if i ∈ keys then none else log[i]? := by
  induction keys generalizing log with
  | nil => simp [removeAll]
  | cons key keys ih =>
    have rest := ih (log.erase key)
    rw [find_erase] at rest
    refine rest.trans ?_
    by_cases same : key = i
    · simp [same]
    · simp [same,Ne.symm same]

variable {log : Table Nat (Entry P)}

theorem found_of_insertAll {entries : List (Entry P)} {i : Nat} {e : Entry P}
    (found : (insertAll log entries)[i]? = some e) :
    e ∈ entries ∧ e.logId.index = i ∨ log[i]? = some e := by
  induction entries generalizing log with
  | nil => exact .inr found
  | cons entry entries ih =>
    rcases ih found with ⟨listed,same⟩ | before
    · exact .inl ⟨mem_cons_of_mem _ listed,same⟩
    rw [find_insert] at before
    split at before
    next same =>
      cases before
      exact .inl ⟨mem_cons_self,same⟩
    next => exact .inr before

def Keyed (log : Table Nat (Entry P)) : Prop := ∀ (i : Nat) (e : Entry P), log[i]? = some e → e.logId.index = i

theorem Keyed.erase (keyed : Keyed log) {keys : List Nat} : Keyed (removeAll log keys) := by
  intro i e found
  rw [find_removeAll] at found
  split at found
  · cases found
  · exact keyed i e found

theorem Keyed.insert (keyed : Keyed log) (entries : List (Entry P)) : Keyed (insertAll log entries) := by
  intro i e found
  rcases found_of_insertAll found with ⟨-,same⟩ | before
  · exact same
  · exact keyed i e before

theorem readLog_eq (keyed : Keyed log) : readLog log = log := by
  have named : log.toList.map (fun file => (file.2.logId.index,file.2)) =
      log.toList.map fun file => (file.1,id file.2) := by
    refine map_congr_left fun file listed => ?_
    rw [keyed file.1 file.2 (ExtTreeMap.mem_toList_iff_getElem?_eq_some.mp listed)]
    rfl
  unfold readLog
  rw [named,ofList_map_toList]
  apply Table.ext
  intro i
  rw [find_map]
  exact Option.map_id'

theorem foldl_removeEntry (keys : List Nat) (disk : Disk P D) : (keys.map FileOp.removeEntry).foldl FileOp.run disk =
      { disk with log := removeAll disk.log keys } := by
  induction keys generalizing disk with
  | nil => rfl
  | cons key keys ih => exact ih _

theorem foldl_writeEntry (entries : List (Entry P)) (disk : Disk P D) :
    (entries.map FileOp.writeEntry).foldl FileOp.run disk = { disk with log := insertAll disk.log entries } := by
  induction entries generalizing disk with
  | nil => rfl
  | cons entry entries ih => exact ih _

structure Synced (store : Store P D) : Prop where
  vote : store.inner.vote = store.disk.vote
  purged : store.inner.lastPurged = store.disk.purged
  log : store.inner.log = store.disk.log
  snapshot : store.currentSnapshot = store.disk.snapshot
  keyed : Keyed store.inner.log

theorem recover_synced {disk : Disk P D} (keyed : Keyed disk.log) : Synced (recover disk) where
  vote := rfl
  purged := rfl
  log := readLog_eq keyed
  snapshot := rfl
  keyed := by
    change Keyed (readLog _)
    rw [readLog_eq keyed]
    exact keyed

theorem Synced.recovered {store : Store P D} (synced : Synced store) :
    (recover store.disk).inner.log = store.inner.log ∧
      (recover store.disk).inner.lastPurged = store.inner.lastPurged := by
  have keyed := synced.keyed
  rw [synced.log] at keyed
  exact ⟨(readLog_eq keyed).trans synced.log.symm,synced.purged.symm⟩

theorem empty_synced : Synced (Store.empty : Store P D) where
  vote := rfl
  purged := rfl
  log := rfl
  snapshot := rfl
  keyed i e found := by
    cases found

section

variable {store : Store P D} (synced : Synced store)
include synced

private theorem snapshotFiles_synced {snapshot : PersistedSnapshot D} :
    ∃ temps, (store.snapshotFiles snapshot).foldl FileOp.run store.disk =
      { store.disk with snapshot := store.cacheSnapshot snapshot, temps := temps } := by
  unfold Store.snapshotFiles Store.cacheSnapshot
  split
  · rw [synced.snapshot]
    exact ⟨store.disk.temps,rfl⟩
  · exact ⟨_,rfl⟩

theorem perform_synced {op : Op P D} : Synced (store.perform op) := by
  obtain ⟨vote,purged,log,snapshot,keyed⟩ := synced
  cases op with
  | appendToLog entries =>
    unfold Store.perform Store.files
    rw [foldl_writeEntry]
    exact ⟨vote,purged,congrArg (insertAll · entries) log,snapshot,keyed.insert entries⟩
  | deleteConflictLogsSince logId =>
    unfold Store.perform Store.files
    rw [foldl_removeEntry]
    exact ⟨vote,purged,congrArg (removeAll · _) log,snapshot,keyed.erase⟩
  | purgeLogsUpto logId =>
    unfold Store.perform Store.files
    rw [foldl_append,foldl_removeEntry]
    exact ⟨vote,rfl,congrArg (removeAll · _) log,snapshot,keyed.erase⟩
  | saveVote v => exact ⟨rfl,purged,log,snapshot,keyed⟩
  | applyToStateMachine entries => exact ⟨vote,purged,log,snapshot,keyed⟩
  | buildSnapshot data =>
    obtain ⟨temps,done⟩ := snapshotFiles_synced ⟨vote,purged,log,snapshot,keyed⟩
    unfold Store.perform Store.files
    rw [done]
    exact ⟨vote,purged,log,rfl,keyed⟩
  | installSnapshot lastLogId data =>
    obtain ⟨temps,done⟩ := snapshotFiles_synced ⟨vote,purged,log,snapshot,keyed⟩
    unfold Store.perform Store.files
    rw [done]
    exact ⟨vote,purged,log,rfl,keyed⟩

end

end Spur.Raft
