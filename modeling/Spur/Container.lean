import Spur.Library.Path
import Spur.Library.Text

/-! The directories a container is given on a node: its root, and the mount targets below it. -/
namespace Spur.Oci

/-- `text.replace(pattern, "")`; `skip` characters of an occurrence are still to be dropped. -/
def without (pattern : List Char) : Nat → List Char → List Char
  | _, [] => []
  | skip + 1, _ :: rest => without pattern skip rest
  | 0, c :: rest =>
    if pattern <+: c :: rest then without pattern (pattern.length - 1) rest else c :: without pattern 0 rest

def sanitizeName (name : List Char) : List Char :=
  (without "docker://".toList 0 name).map fun c => if c = '/' ∨ c = ':' then '+' else c

theorem sanitizeName_whole {name : List Char} : '/' ∉ sanitizeName name := by
  intro listed
  obtain ⟨c,_,same⟩ := List.mem_map.mp listed
  split at same
  next => exact absurd same (by decide)
  next plain => exact plain (.inl same)

end Spur.Oci

namespace Spur.Container
open Spur.Library.Path Spur.Library.Text Spur.Oci

def jobRootfsBase (jobId : Nat) : Name := "job_".toList ++ decimal jobId

def stepRootfsBase (jobId stepId : Nat) : Name := "step_".toList ++ decimal jobId ++ '_' :: decimal stepId

inductive RootfsMode
  | extracted
  | overlay
  deriving DecidableEq

/-- What the node answers while a root is set up: the directories that exist, whether the agent is
the superuser, and where mounting an overlay or extracting the image succeeds. -/
structure Host where
  containerDir : List Name
  present : List Name → Bool
  superuser : Bool
  overlays : List Name → Bool
  extracts : List Name → Bool

def baseDir (host : Host) (base : Name) : Option (List Char) → List Name
  | some name => join host.containerDir (sanitizeName name)
  | none => join host.containerDir base

def setupRootfs (host : Host) (base : Name) (name : Option (List Char)) : Option (List Name × RootfsMode) :=
  let dir := baseDir host base name
  if host.present dir && name.isSome then some (dir,.extracted)
  else if name.isNone && host.superuser && host.overlays dir then some (join dir "merged".toList,.overlay)
  else if host.extracts dir then some (dir,.extracted) else none

def cleanupRootfs (host : Host) (base : Name) : List Name := join host.containerDir base

structure BindMount where
  source : List Char
  target : List Char
  readonly : Bool
  deriving DecidableEq

def parseMount (spec : List Char) : Except (List Char) BindMount :=
  match spec.splitOn ':' with
  | [source,target] => .ok ⟨source,target,false⟩
  | [source,target,mode] => .ok ⟨source,target,decide (['r','o'] <:+: mode)⟩
  | _ => .error ("invalid mount spec '".toList ++ spec ++ "' — expected /src:/dst[:ro]".toList)

/-- The agent's own reading of a job's mounts: a specification it cannot parse is passed over. -/
def bindMounts (specs : List (List Char)) : List BindMount := specs.filterMap fun spec => (parseMount spec).toOption

def createMountTarget (rootfs : List Name) (target : List Char) : List Name :=
  join rootfs (target.dropWhile (· = '/'))

def RootfsBase (base : Name) : Prop :=
  (∃ job < 2 ^ 32, base = jobRootfsBase job) ∨ ∃ job < 2 ^ 32, ∃ step < 2 ^ 32, base = stepRootfsBase job step

structure Confined (host : Host) (base : Name) (name : Option (List Char)) (specs : List (List Char)) : Prop where
  inside : ∀ rootfs mode, setupRootfs host base name = some (rootfs,mode) → StrictlyBelow host.containerDir rootfs
  separate : name.isSome → ∀ other, RootfsBase other → baseDir host base name ≠ cleanupRootfs host other
  mounts : ∀ rootfs mode, setupRootfs host base name = some (rootfs,mode) →
    ∀ mount ∈ bindMounts specs, rootfs <:+ createMountTarget rootfs mount.target

def OwnName (name : List Char) : Prop := Ordinary (sanitizeName name) ∧ ¬RootfsBase (sanitizeName name)

def Climbless (target : List Char) : Prop := stays 0 ((target.dropWhile (· = '/')).splitOn '/')

variable {host : Host} {base : Name} {name : Option (List Char)} {specs : List (List Char)}

theorem RootfsBase.whole (own : RootfsBase base) : '/' ∉ base := by
  have digits (n : Nat) : '/' ∉ decimal n := by
    intro listed
    exact absurd (Nat.isDigit_of_mem_toDigits (b := 10) (by decide) (by decide) listed) (by decide)
  rcases own with ⟨job,_,rfl⟩ | ⟨job,_,step,_,rfl⟩ <;> simp [jobRootfsBase,stepRootfsBase,digits]

theorem RootfsBase.ordinary (own : RootfsBase base) : Ordinary base := by
  rcases own with ⟨job,_,rfl⟩ | ⟨job,_,step,_,rfl⟩ <;> simp [jobRootfsBase,stepRootfsBase,Ordinary]

theorem RootfsBase.joined (own : RootfsBase base) : cleanupRootfs host base = base :: host.containerDir := by
  unfold cleanupRootfs
  rw [join_component own.whole,enter_ordinary own.ordinary]

theorem OwnName.joined {text : List Char} (own : OwnName text) :
    baseDir host base (some text) = sanitizeName text :: host.containerDir := by
  change join _ _ = _
  rw [join_component sanitizeName_whole,enter_ordinary own.1]

theorem createMountTarget_eq (rootfs : List Name) (target : List Char) :
    createMountTarget rootfs target = follow rootfs ((target.dropWhile (· = '/')).splitOn '/') := by
  unfold createMountTarget join
  rw [if_neg]
  intro first
  have := List.head?_dropWhile_not (fun c => decide (c = '/')) target
  rw [first] at this
  exact absurd this (by decide)

theorem suffix_createMountTarget {target : List Char} (climbless : Climbless target) {rootfs : List Name} :
    rootfs <:+ createMountTarget rootfs target := by
  rw [createMountTarget_eq]
  exact suffix_follow climbless

theorem setupRootfs_below {dir : Name} (own : baseDir host base name = dir :: host.containerDir)
    {rootfs : List Name} {mode : RootfsMode} (chosen : setupRootfs host base name = some (rootfs,mode)) :
    StrictlyBelow host.containerDir rootfs := by
  unfold setupRootfs at chosen
  simp only [own] at chosen
  repeat' split at chosen
  all_goals cases chosen
  · exact strictlyBelow_cons
  · exact strictlyBelow_cons.cons
  · exact strictlyBelow_cons

def plainHost : Host where
  containerDir := ["containers".toList]
  present := fun _ => false
  superuser := false
  overlays := fun _ => false
  extracts := fun _ => true

theorem ownName_of_confined {text : List Char} (confined : Confined plainHost base (some text) specs) :
    OwnName text := by
  constructor
  · have below := confined.inside _ _ rfl
    change StrictlyBelow _ (join _ _) at below
    rw [join_component sanitizeName_whole] at below
    exact strictlyBelow_enter.mp below
  · intro clash
    exact confined.separate rfl _ clash rfl

/-- With the given mounts, named or not, containers stay in their own directories on every node
exactly when the name is an ordinary one of its own and no target climbs out of its root. -/
theorem container_confined (name : Option (List Char)) (specs : List (List Char)) :
    (∀ host base, RootfsBase base → ∀ taken, taken = none ∨ taken = name → Confined host base taken specs) ↔
      (∀ text, name = some text → OwnName text) ∧ ∀ mount ∈ bindMounts specs, Climbless mount.target := by
  have job (id : Nat) (small : id < 2 ^ 32) : RootfsBase _ := .inl ⟨id,small,rfl⟩
  constructor
  · intro confined
    refine ⟨?_,?_⟩
    · rintro text rfl
      exact ownName_of_confined (confined plainHost _ (job 0 (by decide)) _ (.inr rfl))
    · intro mount listed
      have below (id : Nat) (small : id < 2 ^ 32) : jobRootfsBase id :: plainHost.containerDir <:+
          createMountTarget (jobRootfsBase id :: plainHost.containerDir) mount.target := by
        have kept := (confined plainHost _ (job id small) none (.inl rfl)).mounts _ _ rfl mount listed
        exact (job id small).joined ▸ kept
      have first := below 0 (by decide)
      have second := below 1 (by decide)
      rw [createMountTarget_eq] at first second
      exact stays_of_suffix (by decide) first second
  · rintro ⟨own,climbless⟩ host base based taken choice
    have joined : ∃ dir, baseDir host base taken = dir :: host.containerDir := by
      cases taken with
      | none => exact ⟨_,based.joined⟩
      | some text => exact ⟨_,(own text (choice.resolve_left nofun).symm).joined⟩
    obtain ⟨dir,joined⟩ := joined
    refine ⟨fun _ _ => setupRootfs_below joined,?_,fun rootfs _ _ mount listed =>
      suffix_createMountTarget (climbless mount listed)⟩
    intro named other otherBase same
    cases taken with
    | none => exact absurd named Bool.false_ne_true
    | some text =>
      have mine := own text (choice.resolve_left nofun).symm
      rw [mine.joined,otherBase.joined] at same
      exact mine.2 ((List.cons.inj same).1 ▸ otherBase)

theorem container_escapes : ¬Confined plainHost (jobRootfsBase 7) (some "..".toList) [] ∧
      ¬Confined plainHost (jobRootfsBase 7) (some "job_5".toList) [] ∧
      ¬Confined plainHost (jobRootfsBase 7) none ["/tmp:/../../etc".toList] := by
  refine ⟨fun confined => ?_,fun confined => ?_,fun confined => ?_⟩
  · exact absurd (confined.inside [] .extracted (by decide +kernel)).1 (by decide)
  · exact confined.separate rfl _ (.inl ⟨5,by decide,rfl⟩) (by decide +kernel)
  · exact absurd (confined.mounts _ _ rfl ⟨"/tmp".toList,"/../../etc".toList,false⟩ (by decide +kernel))
      (by decide +kernel)

end Spur.Container
