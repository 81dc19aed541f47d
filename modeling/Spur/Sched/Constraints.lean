import Spur.Sched.Request

/-! The `--constraint` language, from `spur_core::constraints`. A rejected constraint is `none`. -/
namespace Spur.Sched
open Spur Spur.Library.Text List Option

inductive GpuField where
  | kind | vram | physicalPod | vpod | numa | pciRoot
  deriving DecidableEq

inductive PropertyValue where
  | number (value : Nat)
  | text (value : String)
  deriving DecidableEq

inductive Comparison where
  | eq | ne | gt | ge | lt | le
  deriving DecidableEq

namespace GpuField

def all : List GpuField := [kind,vram,physicalPod,vpod,numa,pciRoot]

def parse (text : List Char) : Option GpuField :=
  match String.ofList text with
  | "gpu.type" | "gpu.gpu_type" => some kind
  | "gpu.vram" | "gpu.vram_bytes" => some vram
  | "gpu.physical_pod_id" | "gpu.physical_domain_id" => some physicalPod
  | "gpu.vpod_id" | "gpu.fabric_domain_id" => some vpod
  | "gpu.numa_node_id" => some numa
  | "gpu.pcie_root_id" => some pciRoot
  | _ => none

def numeric : GpuField → Bool
  | vram | numa => true
  | _ => false

private def fabricId (gpu : GpuResource) (id : FabricObservation → Option String) : Option PropertyValue := do
  let fabric ← (← gpu.topology).fabric
  if fabric.status = .consistent ∧ fabric.issues = [] then
    ((id fabric).filter (· ≠ "")).map PropertyValue.text
  else none

def value (gpu : GpuResource) : GpuField → Option PropertyValue
  | kind => if gpu.gpuType = "" then none else some (.text (String.ofList (gpu.gpuType.toList.map toAsciiLower)))
  | vram => do some (.number (← (← gpu.topology).vramBytes))
  | numa => do some (.number (← (← gpu.topology).numaNode))
  | pciRoot => do (((← gpu.topology).pciRoot).filter (· ≠ "")).map PropertyValue.text
  | physicalPod => fabricId gpu FabricObservation.physicalDomainId
  | vpod => fabricId gpu FabricObservation.fabricDomainId

end GpuField

namespace PropertyValue

def less : PropertyValue → PropertyValue → Bool
  | number a,number b => a < b
  | number _,text _ => true
  | text _,number _ => false
  | text a,text b => a < b

def holds (value bound : PropertyValue) : Comparison → Bool
  | .eq => value == bound
  | .ne => value != bound
  | .gt => less bound value
  | .ge => !less value bound
  | .lt => less value bound
  | .le => !less bound value

end PropertyValue

structure Predicate where
  field : GpuField
  comparison : Comparison
  value : PropertyValue
  deriving DecidableEq

structure Constraints where
  features : List String := []
  sameFabric : Bool := false
  same : List GpuField := []
  predicates : List Predicate := []
  deriving DecidableEq

private def hasText (needle text : List Char) : Bool := text.tails.any fun tail => needle.isPrefixOf tail

private def hasAny (chars text : List Char) : Bool := text.any chars.contains

private def afterText (start text : List Char) : Option (List Char) :=
  if start.isPrefixOf text then some (text.drop start.length) else none

def parseNumber (raw : List Char) (bytes : Bool) : Option Nat := do
  let number ← parseUnsigned (2 ^ 64) (raw.takeWhile isDigit)
  let unit := String.ofList ((raw.dropWhile isDigit).map toAsciiLower)
  let multiplier ← match bytes,unit with
    | _,"" | true,"b" => some 1
    | true,"kib" => some 1024
    | true,"mib" => some (1024 ^ 2)
    | true,"gib" => some (1024 ^ 3)
    | true,"tib" => some (1024 ^ 4)
    | true,"kb" => some 1000
    | true,"mb" => some (1000 ^ 2)
    | true,"gb" => some (1000 ^ 3)
    | true,"tb" => some (1000 ^ 4)
    | _,_ => none
  if number * multiplier ≤ u64Max then some (number * multiplier) else none

/-- Near misses of the typed form would become node features that never match. -/
def looksLikeGpuTerm (term : List Char) : Bool :=
  (term.splitOnP fun c => c = '&' || c = '|').any fun piece =>
    let part := trim piece
    let lower := part.map toAsciiLower
    let same := (afterText "same".toList lower).elim false fun rest =>
      (trimStart rest).head?.elim false fun c => c = '(' || c = '['
    let gpu := "gpu.".toList.isPrefixOf lower && hasAny "()[]=<>!:~".toList part
    same || gpu || (GpuField.parse lower).isSome

private def operators : List (List Char × Comparison) :=
  [("!=".toList,.ne),(">=".toList,.ge),("<=".toList,.le),("=".toList,.eq),(">".toList,.gt),("<".toList,.lt)]

def parsePredicate (term : List Char) : Option Predicate := do
  let stop (c : Char) : Bool := "=!<>".toList.contains c
  let tail := term.dropWhile fun c => !stop c
  if tail.isEmpty then none
  else
    let field ← GpuField.parse (trim (term.takeWhile fun c => !stop c))
    let (operator,comparison) ← operators.find? fun entry => entry.1.isPrefixOf tail
    let raw := trim (tail.drop operator.length)
    if raw.isEmpty || hasAny "()=!<>\"'".toList raw || raw.any isWhitespace then none
    else if field.numeric then
      some ⟨field,comparison,.number (← parseNumber raw (field == .vram))⟩
    else if comparison = .eq ∨ comparison = .ne then
      some ⟨field,comparison,.text (String.ofList (if field = .kind then raw.map toAsciiLower else raw))⟩
    else none

private def sameTerm (term : List Char) : Option (List Char) :=
  (afterText "same(".toList term).bind fun rest => if rest.getLast? = some ')' then some rest.dropLast else none

namespace Constraints

def addTerm (result : Constraints) (term : List Char) : Option Constraints :=
  match sameTerm term with
  | some inner => do
    let field ← GpuField.parse (trim inner)
    if field = .vpod then some { result with sameFabric := true }
    else some { result with same := if result.same.contains field then result.same else result.same ++ [field] }
  | none =>
    if "gpu.".toList.isPrefixOf term then do
      let predicate ← parsePredicate term
      some { result with
        sameFabric := result.sameFabric || (predicate.field == .vpod && predicate.comparison == .eq)
        predicates := result.predicates ++ [predicate] }
    else if term.isEmpty || hasAny "()=!<>".toList term || looksLikeGpuTerm term then none
    else some { result with features := result.features ++ [String.ofList term] }

def parse (value : Option String) : Option Constraints :=
  let text := (value.getD "").toList
  let typed := hasText "same(".toList text || (hasText "gpu.".toList text && hasAny "()=<>!".toList text)
  if !typed then
    let features := ((text.splitOn ',').map trim).filter (· ≠ [])
    if features.any looksLikeGpuTerm then none else some { features := features.map String.ofList }
  else if utf8Length text > 4096 || text.contains '|' then none
  else
    let terms := (text.splitOnP fun c => c = ',' || c = '&').map trim
    if terms.length > 32 then none else terms.foldlM addTerm {}

def hasGpu (constraints : Constraints) : Bool :=
  constraints.sameFabric || !constraints.same.isEmpty || !constraints.predicates.isEmpty

def matchesGpu (constraints : Constraints) (gpu : GpuResource) : Bool :=
  let unavailable := (gpu.topology.bind DeviceTopology.fabric).elim false fun fabric =>
    fabric.status == .unavailable
  !unavailable && constraints.predicates.all fun predicate =>
    (predicate.field.value gpu).elim false fun value => value.holds predicate.value predicate.comparison

/-- The values a group of GPUs shares; a node-local field is qualified by the node. -/
def groupKey (constraints : Constraints) (node : String) (gpu : GpuResource) : Option (List String) := do
  let parts ← (GpuField.all.filter constraints.same.contains).mapM fun field => do
    let text := match ← field.value gpu with
      | .number n => String.ofList (decimal n)
      | .text s => s
    some (if field = .numa ∨ field = .pciRoot then [node,text] else [text])
  some parts.flatten

end Constraints

namespace Constraints

structure Feature (text : List Char) : Prop where
  filled : text ≠ []
  single : ',' ∉ text
  trimmed : trim text = text
  symbols : hasAny "()=!<>".toList text = false
  untyped : looksLikeGpuTerm text = false

private theorem addTerm_features {result next : Constraints} {term : List Char} (single : ',' ∉ term)
    (trimmed : trim term = term) (added : addTerm result term = some next) :
    next.features = result.features ∨ (next.features = result.features ++ [String.ofList term] ∧ Feature term) := by
  unfold addTerm at added
  split at added
  · obtain ⟨field,_,added⟩ := bind_eq_some_iff.mp added
    split at added <;> cases added <;> exact .inl rfl
  split at added
  · obtain ⟨predicate,_,added⟩ := bind_eq_some_iff.mp added
    cases added
    exact .inl rfl
  split at added
  · cases added
  next plain =>
    cases added
    simp only [Bool.or_eq_true,List.isEmpty_iff,not_or,Bool.not_eq_true] at plain
    exact .inr ⟨rfl,plain.1.1,single,trimmed,plain.1.2,plain.2⟩

theorem parse_features {value : Option String} {constraints : Constraints} (parsed : parse value = some constraints)
    (gpu : constraints.hasGpu) : ∀ feature ∈ constraints.features, Feature feature.toList := by
  have terms : ∀ (terms : List _) (result : Constraints), (∀ term ∈ terms, ',' ∉ term ∧ trim term = term) →
      (∀ feature ∈ result.features, Feature feature.toList) → terms.foldlM addTerm result = some constraints →
      ∀ feature ∈ constraints.features, Feature feature.toList := by
    intro terms
    induction terms with
    | nil =>
      intro result _ kept same
      cases same
      exact kept
    | cons term terms ih =>
      intro result each kept folded
      obtain ⟨single,trimmed⟩ := each term mem_cons_self
      obtain ⟨next,added,folded⟩ := bind_eq_some_iff.mp folded
      refine ih next (fun term listed => each term (mem_cons_of_mem _ listed)) ?_ folded
      intro feature listed
      rcases addTerm_features single trimmed added with same | ⟨same,new⟩
      · exact kept feature (same ▸ listed)
      rw [same] at listed
      rcases mem_append.mp listed with old | last
      · exact kept feature old
      · rw [mem_singleton.mp last,String.toList_ofList]
        exact new
  unfold parse at parsed
  dsimp only at parsed
  split at parsed
  · split at parsed
    · cases parsed
    · cases parsed
      simp [hasGpu] at gpu
  split at parsed
  · cases parsed
  split at parsed
  · cases parsed
  refine terms _ {} (fun term listed => ?_) (by simp) parsed
  obtain ⟨piece,split_,rfl⟩ := List.mem_map.mp listed
  refine ⟨fun comma => ?_,trim_trim⟩
  have separates := separator_of_mem_splitOnP split_ ',' (trim_sublist.subset comma)
  simp at separates

theorem parse_joined {features : List String} (each : ∀ feature ∈ features, Feature feature.toList) :
    parse (some (String.intercalate "," features)) = some { features } := by
  have text : (String.intercalate "," features).toList = [','].intercalate (features.map String.toList) := by
    rw [String.toList_intercalate]
    rfl
  have pieces : ∀ piece ∈ features.map String.toList, Feature piece := by
    intro piece listed
    obtain ⟨feature,kept,rfl⟩ := List.mem_map.mp listed
    exact each feature kept
  have symbol : ∀ c ∈ [','].intercalate (features.map String.toList), c ∉ "()=!<>".toList := by
    intro c inside
    rcases mem_intercalate inside with rfl | ⟨piece,listed,within⟩
    · decide
    · simpa using List.any_eq_false.mp (pieces piece listed).symbols c within
  have paren : '(' ∉ [','].intercalate _ := fun inside => symbol _ inside (by decide)
  have same : hasText "same(".toList ([','].intercalate (features.map String.toList)) = false := by
    refine List.any_eq_false.mpr fun tail listed hit => paren ?_
    have start := isPrefixOf_iff_prefix.mp hit
    exact ((mem_tails _ _).mp listed).subset (start.subset (by decide))
  have operators : hasAny "()=<>!".toList ([','].intercalate (features.map String.toList)) = false := by
    refine List.any_eq_false.mpr fun c inside hit => symbol c inside ?_
    simp only [contains_iff_mem] at hit
    revert hit
    simp only [String.reduceToList,mem_cons,not_mem_nil]
    tauto
  have parts : ((([','].intercalate (features.map String.toList)).splitOn ',').map trim).filter (· ≠ []) =
      features.map String.toList := by
    cases features with
    | nil => rfl
    | cons feature features =>
      rw [splitOn_intercalate ',' (fun piece listed => (pieces piece listed).single) (by simp),
        map_congr_left (g := id) (fun piece listed => (pieces piece listed).trimmed),List.map_id]
      exact filter_eq_self.mpr fun piece listed => by simpa using (pieces piece listed).filled
  unfold parse
  dsimp only
  rw [getD_some,text,same,operators,Bool.and_false,if_pos (by rfl),parts,if_neg]
  · simp
  · rw [Bool.not_eq_true,List.any_eq_false]
    exact fun piece listed => by simpa using (pieces piece listed).untyped

end Constraints

def requiresGpuProperties (spec : JobSpec) : Bool := (Constraints.parse spec.constraint).elim false Constraints.hasGpu

/-- The submission check of a job's constraint, repeated by the scheduler. -/
def constraintsValid (spec : JobSpec) : Bool :=
  match Constraints.parse spec.constraint with
  | none => false
  | some constraints =>
    if !constraints.hasGpu then true
    else if spec.hetGroup.isSome then false
    else if spec.numNodes > 1 && constraints.same.any fun field => field == .numa || field == .pciRoot then false
    else match resolveGpuDemand spec with
      | .error _ => false
      | .ok demand => !demand.isNone || spec.exclusive

example : (Constraints.parse (some "fast&same(gpu.vpod_id),gpu.vram>=64gib")) =
    some { features := ["fast"], sameFabric := true, predicates := [⟨.vram,.ge,.number 68719476736⟩] } := by
  decide +kernel

end Spur.Sched
