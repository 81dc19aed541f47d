import Spur.Library.Table
import Spur.Library.Text
import Spur.Library.Fallible

/-! The node's device registry, from `spur_devices`. Annotations are given as read. -/
namespace Spur.DeviceRegistry
open Spur.Library List

inductive DeviceCapability where
  | injectable
  | countablePool
  deriving DecidableEq

structure DeviceNode where
  path : String
  hostPath : Option String := none
  deriving DecidableEq

def DeviceNode.effectiveHostPath (node : DeviceNode) : String := node.hostPath.getD node.path

structure CachedDevice where
  kind : String
  stableId : Option Nat := none
  pciBdf : Option String := none
  deviceNodes : List DeviceNode := []

structure ExpandedGresDevice where
  gresName : String
  deviceNodes : List DeviceNode := []

structure DeviceEntry where
  index : Nat := 0
  gresName : String
  kind : String := "spur.internal/gres"
  deviceId : Nat := 0
  capability : DeviceCapability := .injectable
  pciBdf : Option String := none
  deviceNodes : List DeviceNode := []
  stableId : Nat := 0
  deriving DecidableEq

def DeviceEntry.isInjectable (entry : DeviceEntry) : Bool := entry.capability = .injectable

def kindToGresName (kind : String) : String :=
  ((Text.cutAt '/' kind.toList).map fun parts => String.ofList parts.2).getD kind

def kindMatchesGresName (kind gresName : String) : Bool :=
  (Text.cutAt '/' kind.toList).any fun parts => String.ofList parts.2 = gresName

def entryMatchesGresName (entry : DeviceEntry) (gresName : String) : Bool :=
  entry.gresName = gresName || kindMatchesGresName entry.kind gresName

def fromCdi (cached : CachedDevice) : DeviceEntry :=
  { gresName := kindToGresName cached.kind, kind := cached.kind, pciBdf := cached.pciBdf
    deviceNodes := cached.deviceNodes, stableId := cached.stableId.getD 0 }

def expandedToDeviceEntry (expanded : ExpandedGresDevice) : DeviceEntry :=
  { gresName := expanded.gresName, deviceNodes := expanded.deviceNodes }

def countablePoolEntry (gresName : String) : DeviceEntry := { gresName, capability := .countablePool }

def primaryDevicePath (entry : DeviceEntry) : String :=
  (entry.deviceNodes.head?.map DeviceNode.effectiveHostPath).getD ""

def cdiSortKey (a b : DeviceEntry) : Ordering :=
  match a.pciBdf,b.pciBdf with
  | some first,some second => ((compare first second).then (compare a.stableId b.stableId)).then
      (compare (primaryDevicePath a) (primaryDevicePath b))
  | some _,none => .lt
  | none,some _ => .gt
  | none,none => compare (primaryDevicePath a) (primaryDevicePath b)

/-- `seen` are the sorted paths of the entries kept so far. -/
def dedupByDevicePaths (seen : List (List String)) : List DeviceEntry → List DeviceEntry
  | [] => []
  | entry :: rest =>
    let paths := (entry.deviceNodes.map DeviceNode.effectiveHostPath).insertionSort (· ≤ ·)
    if paths.isEmpty then entry :: dedupByDevicePaths seen rest
    else if seen.contains paths then dedupByDevicePaths seen rest
    else entry :: dedupByDevicePaths (seen ++ [paths]) rest

def DeviceEntry.numbered (entry : DeviceEntry) (counter : Nat) : DeviceEntry :=
  { entry with deviceId := counter, stableId := if entry.stableId = 0 then counter else entry.stableId }

def assignDeviceIds (next : Table String Nat) : List DeviceEntry → List DeviceEntry
  | [] => []
  | entry :: rest =>
    if entry.isInjectable then
      let counter := (next[entry.gresName]?).getD 0
      entry.numbered counter :: assignDeviceIds (next.insert entry.gresName (counter + 1)) rest
    else entry :: assignDeviceIds next rest

/-- The entries that get their ids, in this order. -/
def candidates (cdi : List CachedDevice) (gres : List ExpandedGresDevice) (pools : List String) : List DeviceEntry :=
  dedupByDevicePaths [] ((cdi.map fromCdi).insertionSort (fun a b => (cdiSortKey a b).isLE) ++
    gres.map expandedToDeviceEntry ++ pools.map countablePoolEntry)

def populate (cdi : List CachedDevice) (gres : List ExpandedGresDevice) (pools : List String) : List DeviceEntry :=
  (assignDeviceIds ∅ (candidates cdi gres pools)).zipIdx.map fun entry => { entry.1 with index := entry.2 }

def resolveByIds (devices : List DeviceEntry) (name : String) (deviceIds : List Nat) :
    Except String (List DeviceEntry) :=
  deviceIds.mapM fun id =>
    match devices.find? fun e => e.isInjectable && entryMatchesGresName e name && e.stableId == id with
    | some entry => .ok entry
    | none => .error s!"allocated {name} device ID {id} not found in device registry"

abbrev Alike (a b : DeviceEntry) : Prop := a.isInjectable ∧ b.isInjectable ∧ a.gresName = b.gresName

/-- The nonzero ids that devices of one resource name carry are distinct. -/
abbrev Annotated (cdi : List CachedDevice) : Prop :=
  cdi.Pairwise fun a b => kindToGresName a.kind = kindToGresName b.kind → a.stableId.getD 0 ≠ 0 → a.stableId ≠ b.stableId

/-- How many injectable devices of the name come before the one at `i`. -/
def position (entries : List DeviceEntry) (i : Nat) (gresName : String) : Nat :=
  (entries.take i).countP fun e => e.isInjectable && e.gresName == gresName

/-- No device carries the position of another of its name that carries no id. -/
abbrev Clear (entries : List DeviceEntry) : Prop :=
  ∀ i j : Fin entries.length, Alike entries[i] entries[j] → entries[i].stableId = 0 → entries[j].stableId ≠ 0 →
    entries[j].stableId ≠ position entries i entries[i].gresName

variable {entries : List DeviceEntry}

theorem assignDeviceIds_eq (next : Table String Nat) (entries : List DeviceEntry) :
    assignDeviceIds next entries = entries.mapIdx fun i e => if e.isInjectable then
      e.numbered ((next[e.gresName]?).getD 0 + position entries i e.gresName) else e := by
  induction entries generalizing next with
  | nil => rfl
  | cons entry rest ih =>
    have later (i : Nat) (g : String) : position (entry :: rest) (i + 1) g =
        position rest i g + if entry.isInjectable && entry.gresName == g then 1 else 0 := countP_cons
    rw [mapIdx_cons]
    simp only [later]
    unfold assignDeviceIds
    split
    next own =>
      dsimp only
      rw [ih]
      simp only [own,Table.find_insert,Bool.true_and,beq_iff_eq]
      congr
      funext i e
      grind
    next other =>
      rw [ih]
      simp [other]

theorem position_lt {i j : Nat} (less : i < j) (bound : j < entries.length) (own : entries[i].isInjectable) :
    position entries i entries[i].gresName < position entries j entries[i].gresName := by
  have grown : (entries.take (i + 1)).Sublist (entries.take j) := (take_prefix_take_left less).sublist
  have one : position entries (i + 1) entries[i].gresName = position entries i entries[i].gresName + 1 := by
    unfold position
    rw [take_succ_eq_append_getElem (less.trans bound),countP_append]
    simp [own]
  have mono := grown.countP_le (p := fun e => e.isInjectable && e.gresName == entries[i].gresName)
  unfold position at *
  omega

theorem dedup_sublist (seen : List (List String)) : (dedupByDevicePaths seen entries).Sublist entries := by
  induction entries generalizing seen with
  | nil => exact .slnil
  | cons entry rest ih =>
    unfold dedupByDevicePaths
    dsimp only
    split_ifs
    · exact (ih _).cons_cons _
    · exact (ih _).cons _
    · exact (ih _).cons_cons _

theorem candidates_annotated {cdi : List CachedDevice} (gres : List ExpandedGresDevice) (pools : List String)
    (annotated : Annotated cdi) :
    (candidates cdi gres pools).Pairwise fun a b => a.gresName = b.gresName → a.stableId ≠ 0 → b.stableId ≠ 0 →
      a.stableId ≠ b.stableId := by
  refine Pairwise.sublist (dedup_sublist []) ?_
  rw [append_assoc,pairwise_append]
  have unnumbered : ∀ entry ∈ gres.map expandedToDeviceEntry ++ pools.map countablePoolEntry, entry.stableId = 0 := by
    simp only [mem_append,mem_map]
    rintro entry (⟨_,_,rfl⟩ | ⟨_,_,rfl⟩) <;> rfl
  refine ⟨?_,?_,fun _ _ entry listed _ _ filled => absurd (unnumbered entry listed) filled⟩
  · rw [(perm_insertionSort _ _).pairwise_iff fun same name first second => (same name.symm second first).symm,
      pairwise_map]
    refine annotated.imp fun {a b} apart name first second => ?_
    have := apart name first
    cases hA : a.stableId <;> cases hB : b.stableId <;> simp_all [fromCdi]
  · exact Pairwise.imp_of_mem (fun listed _ _ _ filled => absurd (unnumbered _ listed) filled)
      (pairwise_of_forall fun _ _ => trivial)

theorem mem_resolved {devices : List DeviceEntry} {name : String} {ids : List Nat} {found : List DeviceEntry}
    (done : resolveByIds devices name ids = .ok found) {entry : DeviceEntry} (listed : entry ∈ found) :
    entry.stableId ∈ ids := by
  unfold resolveByIds at done
  induction ids generalizing found with
  | nil =>
    cases done
    cases listed
  | cons id ids ih =>
    rw [mapM_cons] at done
    obtain ⟨first,this,done⟩ := Fallible.bind_ok.mp done
    obtain ⟨rest,those,done⟩ := Fallible.bind_ok.mp done
    cases done
    rcases mem_cons.mp listed with rfl | later
    · split at this
      · cases this
        have matching := find?_some ‹_›
        simp only [Bool.and_eq_true,beq_iff_eq] at matching
        rw [matching.2]
        exact mem_cons_self
      · cases this
    · exact mem_cons_of_mem _ (ih those later)

/-- The entry at `i` once the ids are assigned. -/
def shown (entries : List DeviceEntry) (i : Nat) (e : DeviceEntry) : DeviceEntry :=
  { (if e.isInjectable then e.numbered (position entries i e.gresName) else e) with index := i }

theorem alike_shown (i j : Nat) (a b : DeviceEntry) : Alike (shown entries i a) (shown entries j b) ↔ Alike a b := by
  unfold Alike shown
  split <;> split <;> rfl

theorem stableId_shown {e : DeviceEntry} (own : e.isInjectable) (i : Nat) :
    (shown entries i e).stableId = if e.stableId = 0 then position entries i e.gresName else e.stableId := by
  unfold shown
  rw [if_pos own]
  rfl

theorem populate_eq (cdi : List CachedDevice) (gres : List ExpandedGresDevice) (pools : List String) :
    populate cdi gres pools = (candidates cdi gres pools).mapIdx (shown (candidates cdi gres pools)) := by
  unfold populate
  rw [assignDeviceIds_eq]
  apply ext_getElem <;> simp [shown]

theorem device_ids_distinct_iff {cdi : List CachedDevice} {gres : List ExpandedGresDevice} {pools : List String}
    (annotated : Annotated cdi) :
    ((populate cdi gres pools).Pairwise (fun a b => Alike a b → a.stableId ≠ b.stableId) ∧
      ∀ name ids others found also, ids.Disjoint others → resolveByIds (populate cdi gres pools) name ids = .ok found →
        resolveByIds (populate cdi gres pools) name others = .ok also → found.Disjoint also) ↔
    Clear (candidates cdi gres pools) := by
  have pairs := pairwise_iff_getElem.mp (candidates_annotated gres pools annotated)
  rw [and_iff_left,populate_eq,pairwise_iff_getElem]
  · generalize candidates cdi gres pools = entries at pairs ⊢
    simp only [length_mapIdx,getElem_mapIdx,alike_shown]
    constructor
    · intro apart ⟨i,first⟩ ⟨j,second⟩ alike zero filled same
      simp only [Fin.getElem_fin] at alike zero filled same
      have ids : (shown entries i entries[i]).stableId = (shown entries j entries[j]).stableId := by
        rw [stableId_shown alike.1,stableId_shown alike.2.1,if_pos zero,if_neg filled,same]
      rcases lt_trichotomy i j with less | rfl | more
      · exact apart i j first second less alike ids
      · exact filled zero
      · exact apart j i second first more ⟨alike.2.1,alike.1,alike.2.2.symm⟩ ids.symm
    · intro clear i j first second less alike same
      have before := position_lt less second alike.1
      rw [stableId_shown alike.1,stableId_shown alike.2.1] at same
      split_ifs at same with zero also also
      · rw [← alike.2.2] at same
        exact before.ne same
      · exact clear ⟨i,first⟩ ⟨j,second⟩ alike zero also same.symm
      · exact clear ⟨j,second⟩ ⟨i,first⟩ ⟨alike.2.1,alike.1,alike.2.2.symm⟩ also zero same
      · exact pairs i j first second less alike.2.2 zero also same
  · intro name ids others found also apart first second entry listed inside
    exact apart (mem_resolved first listed) (mem_resolved second inside)

theorem device_ids_distinct_iff_annotated :
    (populate [{ kind := "amd.com/gpu", stableId := some 7 },{ kind := "amd.com/gpu", stableId := some 9 }]
      [{ gresName := "nic" },{ gresName := "nic" }] ["license"]).Pairwise
        (fun a b => Alike a b → a.stableId ≠ b.stableId) :=
  ((device_ids_distinct_iff (by decide +kernel)).mpr (by decide +kernel)).1

theorem filled_id_names_two_devices :
    let cdi : List CachedDevice := [{ kind := "amd.com/gpu", stableId := some 1 },{ kind := "amd.com/gpu" }]
    Annotated cdi ∧ (populate cdi [] []).map (fun e => (e.gresName,e.isInjectable,e.stableId)) = [("gpu",true,1),("gpu",true,1)] := by
  decide +kernel

end Spur.DeviceRegistry
