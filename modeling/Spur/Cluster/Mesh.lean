import Spur.Cluster.Apply
import Spur.Library.Fallible
import Spur.Library.Ipv4

/-! The addresses of the native k0s cluster: `provision_assignments` with the pool of `spur_net::address`. -/
namespace Spur

namespace K0sClusterState

def controllers (k0s : K0sClusterState) : List String :=
  if k0s.controlPlaneNodes ≠ [] then k0s.controlPlaneNodes else k0s.controlPlaneNode.toList

def bootstrap (k0s : K0sClusterState) : Option String := k0s.controlPlaneNode.or k0s.controlPlaneNodes.head?

def isMember (k0s : K0sClusterState) (name : String) : Bool := k0s.memberNodes.isEmpty || k0s.memberNodes.contains name

end K0sClusterState

variable {meshCidr podCidr reason : String} {value : K0sRecord → Option Nat} {r : K0sRecord} {names : List String}
  {t : State} {ordinal : Nat}

namespace Cluster
open Spur.Library Spur.Library.Text Spur.Library.Fallible List Table

structure AddressPool where
  base : Nat
  prefixLen : Nat
  allocated : Finset Nat

namespace AddressPool

def new (cidr : String) : Except String AddressPool :=
  match cutAt '/' cidr.toList with
  | none => .error ("invalid CIDR: " ++ cidr)
  | some (addrStr,prefixStr) =>
    match Ipv4.parse addrStr,parseUnsigned (2 ^ 8) prefixStr with
    | some addr,some prefixLen =>
      if prefixLen = 0 || prefixLen > 30 then .error "invalid CIDR: prefix length must be between 1 and 30"
      else
        let base := addr - addr % 2 ^ (32 - prefixLen)
        .ok ⟨base,prefixLen,{base}⟩
    | _,_ => .error ("invalid CIDR: " ++ cidr)

def markAllocated (pool : AddressPool) (ip : Nat) : AddressPool := { pool with allocated := insert ip pool.allocated }

def allocateSpecific (pool : AddressPool) (ip : Nat) : Except String AddressPool :=
  if ip ∈ pool.allocated then .error "address pool exhausted" else .ok (pool.markAllocated ip)

def allocate (pool : AddressPool) : Except String (Nat × AddressPool) :=
  let maxHost := 2 ^ (32 - pool.prefixLen) - 1
  match (List.range' 1 (maxHost - 1)).find? fun offset => pool.base + offset ∉ pool.allocated with
  | some offset => .ok (pool.base + offset,pool.markAllocated (pool.base + offset))
  | none => .error "address pool exhausted"

end AddressPool

def cidrBase (cidr : String) : Except String Nat :=
  match cutAt '/' cidr.toList with
  | none => .error (cidr ++ " is not a CIDR")
  | some (base,_) => (Ipv4.parse base).elim (.error ("CIDR base in " ++ cidr)) .ok

def firstHost (cidr : String) : Except String Nat := do return (← cidrBase cidr) + 1

def cidrContains (cidr : String) (ip : Nat) : Except String Bool :=
  match cutAt '/' cidr.toList with
  | none => .error (cidr ++ " is not a CIDR")
  | some (base,prefixStr) =>
    match Ipv4.parse base with
    | none => .error ("CIDR base in " ++ cidr)
    | some base => match parseUnsigned (2 ^ 8) prefixStr with
      | none => .error ("CIDR prefix in " ++ cidr)
      | some prefixLen =>
        if prefixLen > 32 then .error (cidr ++ " prefix must be <= 32")
        else .ok (base / 2 ^ (32 - prefixLen) == ip / 2 ^ (32 - prefixLen))

def realMeshAddress (node : Node) (meshCidr : String) : Except String (Option Nat) :=
  if (node.wgPubkey.filter (· ≠ "")).isNone then .ok none
  else match node.address.bind fun text => Ipv4.parse text.toList with
    | none => .ok none
    | some addr => do return if ← cidrContains meshCidr addr then some addr else none

def carvePodCidr (podCidr : String) (ordinal : Nat) : Except String String :=
  match cutAt '/' podCidr.toList with
  | none => .error (podCidr ++ " is not a CIDR")
  | some (base,prefixStr) => match parseUnsigned (2 ^ 8) prefixStr with
    | none => .error ("pod_cidr prefix in " ++ podCidr)
    | some prefixLen =>
      if prefixLen > 24 then .error ("pod_cidr " ++ podCidr ++ " must be /24 or larger to carve per-node /24s")
      else match Ipv4.parse base with
        | none => .error ("pod_cidr base in " ++ podCidr)
        | some base =>
          let num24s := 2 ^ (24 - prefixLen)
          if ordinal ≥ num24s then
            .error ("pod ordinal " ++ toString ordinal ++ " exceeds " ++ toString num24s ++ " /24s in " ++ podCidr)
          else .ok (String.ofList (Ipv4.format (base + ordinal * 256) ++ "/24".toList))

private def podBase (nodeCidr : String) : Option Nat := do
  let (base,_) ← cutAt '/' nodeCidr.toList
  Ipv4.parse base

def podOrdinal (nodeCidr : String) (base : Nat) : Option Nat := do
  let nodeBase ← podBase nodeCidr
  if base ≤ nodeBase then some ((nodeBase - base) / 256) else none

def nextFreeOrdinal (used : Finset Nat) : Nat :=
  ((List.range (used.card + 1)).find? fun ordinal => ordinal ∉ used).getD 0

/-- What became of a proposal: applied, refused, or applied although its answer came too late. -/
inductive Answer where
  | accepted | refused | late

/-- The replicated state and the answers that the next proposals get; further ones are accepted. -/
structure Proposer where
  state : State
  answers : List Answer := []

structure ClusterNetworking where
  meshCidr : String
  podCidr : String
  controlPlaneNode : Option String := none

section

variable (config : Config) (env : Env)

namespace Proposer

def propose (p : Proposer) (op : WalOperation) : Proposer × Except String Unit :=
  let applied := (applyOperation config env p.state op).1
  match p.answers with
  | [] => (⟨applied,[]⟩,.ok ())
  | .accepted :: rest => (⟨applied,rest⟩,.ok ())
  | .refused :: rest => (⟨p.state,rest⟩,.error "raft propose failed")
  | .late :: rest => (⟨applied,rest⟩,.error "raft propose failed")

def assignNodeK0s (p : Proposer) (entry : Wal.NodeK0sAssign) : Proposer × Except String Unit :=
  if p.state.nodes.contains entry.name then p.propose config env (.nodeK0sAssign entry)
  else (p,.error ("node " ++ entry.name ++ " not found"))

def recordNodeK0sError (p : Proposer) (name reason : String) : Proposer :=
  if p.state.nodes.contains name then (p.propose config env (.nodeK0sSetError name (some reason))).1 else p

end Proposer

def memberNodes (k0s : K0sClusterState) (s : State) : List Node :=
  ((s.nodes.toList.map Prod.snd).filter fun node => k0s.isMember node.name).insertionSort fun a b => a.name ≤ b.name

def bootstrapNode (net : ClusterNetworking) (k0s : K0sClusterState) (nodes : List Node) : String :=
  let scanned := (nodes.find? fun node => node.k0sRole == some .single || node.k0sRole == some .controller).map Node.name
  ((k0s.bootstrap.or scanned).or net.controlPlaneNode).getD ((nodes.head?.map Node.name).getD "")

def seedNode (seeded : AddressPool × Table Nat String) (node : Node) : Except String (AddressPool × Table Nat String) :=
  match node.k0sMeshIp with
  | none => .ok seeded
  | some ip => match Ipv4.parse ip.toList with
    | none => .error ("persisted k0s_mesh_ip " ++ ip ++ " for " ++ node.name)
    | some addr => .ok (seeded.1.markAllocated addr,
        if node.k0sRole.isSome then seeded.2.insert addr node.name else seeded.2)

def claimNode (meshCidr : String) (claims : List (Nat × String)) (node : Node) : Except String (List (Nat × String)) :=
  if node.k0sRole.isSome then .ok claims
  else match realMeshAddress node meshCidr with
    | .error e => .error e
    | .ok none => .ok claims
    | .ok (some addr) => .ok (claims ++ [(addr,node.name)])

structure Adoption where
  proposer : Proposer
  pool : AddressPool
  realIp : Table String Nat
  refused : Finset String

private def refuse (names : List String) (reason : String) (a : Adoption) : Adoption :=
  names.foldl (fun a name => { a with
    proposer := a.proposer.recordNodeK0sError config env name reason
    refused := insert name a.refused }) a

def settleClaim (owners : Table Nat String) (claims : List (Nat × String)) (a : Adoption) (addr : Nat) : Adoption :=
  let names := (claims.filter fun claim => claim.1 = addr).map Prod.snd
  let text := String.ofList (Ipv4.format addr)
  match owners[addr]? with
  | some owner => refuse config env names ("network mismatch: mesh address " ++ text ++ " already owned by " ++ owner) a
  | none => match names with
    | [name] => { a with pool := a.pool.markAllocated addr, realIp := a.realIp.insert name addr }
    | _ =>
      let names := names.insertionSort fun a b => a ≤ b
      refuse config env names ("network mismatch: mesh address " ++ text ++ " claimed by " ++ ", ".intercalate names) a

structure MeshPlan where
  bootstrap : String
  controllerIp : Nat
  controllers : List String
  single : Bool
  podCidr : String
  realIp : Table String Nat
  refused : Finset String

namespace MeshPlan

variable (plan : MeshPlan)

def role (name : String) : K0sRole :=
  if plan.controllers.contains name then if plan.single then .single else .controller else .worker

def meshAddress (pool : AddressPool) (name : String) : Except String (Nat × AddressPool) :=
  match plan.realIp[name]? with
  | some addr => .ok (addr,pool)
  | none => if name = plan.bootstrap then .ok (plan.controllerIp,pool) else pool.allocate

def assignNodes : List Node → AddressPool → Finset Nat → Proposer → Proposer × Except String Unit
  | [], _, _, p => (p,.ok ())
  | node :: rest, pool, used, p =>
    if node.k0sRole.isSome || node.name ∈ plan.refused then assignNodes rest pool used p
    else match plan.meshAddress pool node.name with
      | .error e => (p,.error e)
      | .ok (meshIp,pool) =>
        let ordinal := nextFreeOrdinal used
        match carvePodCidr plan.podCidr ordinal with
        | .error e => (p,.error e)
        | .ok podCidr =>
          match p.assignNodeK0s config env
              ⟨node.name,plan.role node.name,String.ofList (Ipv4.format meshIp),podCidr⟩ with
          | (p,.error e) => (p,.error e)
          | (p,.ok ()) => assignNodes rest pool (insert ordinal used) p

end MeshPlan

def surveyMesh (net : ClusterNetworking) (nodes : List Node) :
    Except String ((AddressPool × Table Nat String) × Nat × List (Nat × String)) := do
  let pool ← AddressPool.new net.meshCidr
  let controllerIp ← firstHost net.meshCidr
  let seeded ← nodes.foldlM seedNode ((pool.allocateSpecific controllerIp).toOption.getD pool,∅)
  let claims ← nodes.foldlM (claimNode net.meshCidr) []
  return (seeded,controllerIp,claims)

def provisionAssignments (net : ClusterNetworking) (k0s : K0sClusterState) (p : Proposer) : Proposer × Except String Unit :=
  let nodes := memberNodes k0s p.state
  if nodes.isEmpty then (p,.ok ())
  else
    let bootstrap := bootstrapNode net k0s nodes
    let controllers := if k0s.controllers = [] then [bootstrap] else k0s.controllers
    match surveyMesh net nodes with
    | .error e => (p,.error e)
    | .ok ((pool,owners),controllerIp,claims) =>
      let adoption := (claims.map Prod.fst).dedup.foldl (settleClaim config env owners claims) ⟨p,pool,∅,∅⟩
      match cidrBase net.podCidr with
      | .error e => (adoption.proposer,.error e)
      | .ok base =>
        let used := (nodes.filterMap fun node => node.k0sPodCidr.bind fun cidr => podOrdinal cidr base).toFinset
        let plan : MeshPlan := ⟨bootstrap,controllerIp,controllers,nodes.length == 1,net.podCidr,adoption.realIp,adoption.refused⟩
        let ordered := nodes.filter (fun node => controllers.contains node.name) ++
          nodes.filter fun node => !controllers.contains node.name
        match plan.assignNodes config env ordered adoption.pool used adoption.proposer with
        | (p,.error e) => (p,.error e)
        | (p,.ok ()) =>
          if k0s.controlPlaneNode ≠ some bootstrap then
            p.propose config env (.k0sSetPhase { phase := .provisioning, controlPlaneNode := some bootstrap })
          else (p,.ok ())

end

variable {name : String}

section

structure K0sRecord where
  role : Option K0sRole
  meshIp : Option String
  podCidr : Option String
  deriving DecidableEq

variable {config : Config} {env : Env} {s : State}

def k0sRecord (s : State) (name : String) : Option K0sRecord :=
  s.nodes[name]?.map fun node => ⟨node.k0sRole,node.k0sMeshIp,node.k0sPodCidr⟩

theorem k0sRecord_assign (entry : Wal.NodeK0sAssign) (name : String) :
    k0sRecord (applyOperation config env s (.nodeK0sAssign entry)).1 name =
      if entry.name = name then (k0sRecord s name).map fun _ => ⟨some entry.role,some entry.meshIp,some entry.podCidr⟩
      else k0sRecord s name := by
  unfold k0sRecord
  change ((s.nodes.modify _ _)[name]?).map _ = _
  rw [find_modify]
  split
  · rw [Option.map_map,Option.map_map]
    rfl
  · rfl

theorem k0sRecord_setError (node : String) (error : Option String) :
    k0sRecord (applyOperation config env s (.nodeK0sSetError node error)).1 = k0sRecord s := by
  funext name
  change ((s.nodes.modify node fun node => { node with k0sLastError := error })[name]?).map _ = _
  rw [find_modify]
  split
  · rw [Option.map_map]
    rfl
  · rfl

theorem Proposer.propose_cases {config : Config} {env : Env} {p : Proposer} {op : WalOperation} :
    (p.propose config env op).1.state = (applyOperation config env p.state op).1 ∨
      (p.propose config env op).1.state = p.state ∧ ∃ e, (p.propose config env op).2 = .error e := by
  unfold Proposer.propose
  split
  · exact .inl rfl
  · exact .inl rfl
  · exact .inr ⟨rfl,_,rfl⟩
  · exact .inl rfl

theorem Proposer.recordNodeK0sError_records (p : Proposer) {name : String} :
    k0sRecord (p.recordNodeK0sError config env name reason).state = k0sRecord p.state := by
  unfold Proposer.recordNodeK0sError
  split
  · rcases Proposer.propose_cases with applied | ⟨same,-⟩
    · rw [applied,k0sRecord_setError]
    · rw [same]
  · rfl

theorem Proposer.assignNodeK0s_records {config : Config} {env : Env} {p : Proposer} {entry : Wal.NodeK0sAssign} :
    let after := p.assignNodeK0s config env entry
    (∀ name, name ≠ entry.name → k0sRecord after.1.state name = k0sRecord p.state name) ∧
      (k0sRecord after.1.state entry.name = some ⟨some entry.role,some entry.meshIp,some entry.podCidr⟩ ∨
        k0sRecord after.1.state entry.name = k0sRecord p.state entry.name ∧ ∃ e, after.2 = .error e) := by
  intro after
  by_cases present : p.state.nodes.contains entry.name = true
  · have same : after = p.propose config env _ := if_pos present
    rcases Proposer.propose_cases with applied | ⟨unchanged,failed⟩
    · rw [same,applied]
      constructor
      · intro name other
        rw [k0sRecord_assign,if_neg other.symm]
      left
      obtain ⟨node,found⟩ := mem_iff_find.mp (Std.ExtTreeMap.mem_iff_contains.mpr present)
      rw [k0sRecord_assign,if_pos rfl]
      unfold k0sRecord
      rw [found]
      rfl
    · rw [same,unchanged]
      exact ⟨fun _ _ => rfl,.inr ⟨rfl,failed⟩⟩
  · have same : after = (p,.error _) := if_neg present
    rw [same]
    exact ⟨fun _ _ => rfl,.inr ⟨rfl,_,rfl⟩⟩

namespace K0sRecord

def address (r : K0sRecord) : Option Nat := r.meshIp.bind fun text => Ipv4.parse text.toList

def block (r : K0sRecord) : Option Nat := r.podCidr.bind fun cidr => (podBase cidr).map fun base => base / 256

theorem address_format {ip : Nat} (small : ip < 2 ^ 32)
    (text : r.meshIp = some (String.ofList (Ipv4.format ip))) : r.address = some ip := by
  unfold address
  rw [text]
  change Ipv4.parse _ = some ip
  rw [String.toList_ofList]
  exact Ipv4.parse_format small

end K0sRecord

def AssignedMember (k0s : K0sClusterState) (s : State) (name : String) (r : K0sRecord) : Prop :=
  k0sRecord s name = some r ∧ k0s.isMember name = true ∧ r.role.isSome = true

def DistinctBy (k0s : K0sClusterState) (s : State) (value : K0sRecord → Option Nat) : Prop :=
  ∀ a b ra rb, AssignedMember k0s s a ra → AssignedMember k0s s b rb → a ≠ b → ∀ v, value ra = some v → value rb ≠ some v

theorem stored_cases {s : State} {q : K0sRecord} {other : String}
    (others : ∀ other, other ≠ name → k0sRecord t other = k0sRecord s other) (mine : k0sRecord t name = some r)
    (stored : k0sRecord t other = some q) : (other = name ∧ q = r) ∨ k0sRecord s other = some q := by
  by_cases here : other = name
  · subst here
    exact .inl ⟨rfl,Option.some.inj (stored.symm.trans mine)⟩
  · exact .inr ((others other here) ▸ stored)

theorem DistinctBy.assign {k0s : K0sClusterState} {s : State}
    (distinct : DistinctBy k0s s value) (others : ∀ other, other ≠ name → k0sRecord t other = k0sRecord s other)
    (mine : k0sRecord t name = some r)
    (free : ∀ other q, AssignedMember k0s s other q → ∀ v, value r = some v → value q ≠ some v) : DistinctBy k0s t value := by
  intro a b ra rb first second apart v taken shared
  rcases stored_cases others mine first.1 with ⟨rfl,rfl⟩ | oldA <;>
    rcases stored_cases others mine second.1 with ⟨rfl,rfl⟩ | oldB
  · exact apart rfl
  · exact free b rb ⟨oldB,second.2⟩ v taken shared
  · exact free a ra ⟨oldA,first.2⟩ v shared taken
  · exact distinct a b ra rb ⟨oldA,first.2⟩ ⟨oldB,second.2⟩ apart v taken shared

end

variable {cidr : String}

section

variable {pool : AddressPool}

def cidrParts (cidr : String) : Option (Nat × Nat) := do
  let (base,prefixStr) ← cutAt '/' cidr.toList
  return (← Ipv4.parse base,← parseUnsigned (2 ^ 8) prefixStr)

def AlignedCidr (cidr : String) : Prop := ∀ base len, cidrParts cidr = some (base,len) → base % 2 ^ (32 - len) = 0

def InsidePodRange (podCidr text : String) : Prop :=
  ∃ base len first, cidrParts podCidr = some (base,len) ∧ text = String.ofList (Ipv4.format first ++ "/24".toList) ∧
    first % 256 = 0 ∧ base ≤ first ∧ first + 256 ≤ base + 2 ^ (32 - len)

theorem nextFreeOrdinal_notMem {used : Finset Nat} : nextFreeOrdinal used ∉ used := by
  unfold nextFreeOrdinal
  cases found : (List.range _).find? fun ordinal => ordinal ∉ used with
  | some ordinal => simpa using List.find?_some found
  | none =>
    -- Otherwise all of the first `card + 1` numbers are in use.
    have all : Finset.range (used.card + 1) ⊆ used := by
      intro ordinal below
      have listed := List.find?_eq_none.mp found ordinal (mem_range.mpr (Finset.mem_range.mp below))
      simpa using listed
    have more := Finset.card_le_card all
    rw [Finset.card_range] at more
    omega

theorem cidrParts_some {base len : Nat} : cidrParts cidr = some (base,len) ↔
    ∃ text prefixStr, cutAt '/' cidr.toList = some (text,prefixStr) ∧ Ipv4.parse text = some base ∧
      parseUnsigned (2 ^ 8) prefixStr = some len := by
  simp only [cidrParts,Option.bind_eq_bind,Option.bind_eq_some_iff,Prod.exists,Option.pure_def,Option.some.injEq,Prod.mk.injEq]
  constructor
  · rintro ⟨text,prefixStr,cut,_,parsed,_,read,rfl,rfl⟩
    exact ⟨text,prefixStr,cut,parsed,read⟩
  · rintro ⟨text,prefixStr,cut,parsed,read⟩
    exact ⟨text,prefixStr,cut,base,parsed,len,read,rfl,rfl⟩

theorem carvePodCidr_ok {text : String} (ok : carvePodCidr podCidr ordinal = .ok text) :
    ∃ base len, cidrParts podCidr = some (base,len) ∧ len ≤ 24 ∧ ordinal < 2 ^ (24 - len) ∧
      text = String.ofList (Ipv4.format (base + ordinal * 256) ++ "/24".toList) := by
  unfold carvePodCidr at ok
  split at ok
  · cases ok
  next base prefixStr cut =>
  split at ok
  · cases ok
  next len length =>
  split at ok
  · cases ok
  next wide =>
  split at ok
  · cases ok
  next number parsed =>
  dsimp only at ok
  split at ok
  · cases ok
  next below =>
  cases ok
  exact ⟨number,len,cidrParts_some.mpr ⟨base,prefixStr,cut,parsed,length⟩,by omega,by omega,rfl⟩

theorem podBase_carved {ip : Nat} (small : ip < 2 ^ 32) :
    podBase (String.ofList (Ipv4.format ip ++ "/24".toList)) = some ip := by
  have cut : cutAt '/' (Ipv4.format ip ++ '/' :: ['2','4']) = some _ :=
    cutAt_append (Ipv4.notMem_format (by decide) (by decide))
  unfold podBase
  rw [String.toList_ofList]
  change (cutAt '/' (Ipv4.format ip ++ '/' :: ['2','4'])).bind _ = _
  rw [cut]
  exact Ipv4.parse_format small

theorem cidrParts_base {base len : Nat} (parts : cidrParts cidr = some (base,len)) :
    cidrBase cidr = .ok base ∧ base < 2 ^ 32 := by
  obtain ⟨text,prefixStr,cut,parsed,-⟩ := cidrParts_some.mp parts
  unfold cidrBase
  simp only [cut,parsed]
  exact ⟨rfl,Ipv4.parse_lt parsed⟩

theorem carved_block {text : String} (ok : carvePodCidr podCidr ordinal = .ok text)
    (aligned : AlignedCidr podCidr) : InsidePodRange podCidr text ∧
      ∀ base, cidrBase podCidr = .ok base → base % 256 = 0 ∧
        (podBase text).map (fun first => first / 256) = some (base / 256 + ordinal) := by
  obtain ⟨base,len,parts,wide,below,rfl⟩ := carvePodCidr_ok ok
  obtain ⟨start,small⟩ := cidrParts_base parts
  have end_ := Ipv4.block_end_le small (aligned base len parts)
  have blocks : 2 ^ (32 - len) = 2 ^ (24 - len) * 256 := by
    rw [show 32 - len = 24 - len + 8 by omega,pow_add]
    norm_num
  have whole : base % 256 = 0 :=
    Nat.mod_eq_zero_of_dvd ((Dvd.intro_left _ blocks.symm).trans (Nat.dvd_of_mod_eq_zero (aligned base len parts)))
  refine ⟨⟨base,len,base + ordinal * 256,parts,rfl,by omega,by omega,by omega⟩,fun other same => ?_⟩
  obtain rfl : base = other := Except.ok.inj (start.symm.trans same)
  refine ⟨whole,?_⟩
  have block : (base + ordinal * 256) / 256 = base / 256 + ordinal := by omega
  rw [podBase_carved (by omega)]
  exact congrArg some block

theorem AddressPool.allocate_ok {ip : Nat} {after : AddressPool} (ok : pool.allocate = .ok (ip,after)) :
    ip ∉ pool.allocated ∧ after = pool.markAllocated ip ∧ ip < pool.base + 2 ^ (32 - pool.prefixLen) := by
  unfold AddressPool.allocate at ok
  dsimp only at ok
  split at ok
  · next offset found =>
    cases ok
    have free : pool.base + offset ∉ pool.allocated := by simpa using List.find?_some found
    have listed := mem_range'_1.mp (List.mem_of_find?_eq_some found)
    exact ⟨free,rfl,by omega⟩
  · cases ok

end

section

variable {config : Config} {env : Env} {k0s : K0sClusterState} {start s : State} {plan : MeshPlan}

def MeshPlan.preset (plan : MeshPlan) (name : String) : Option Nat :=
  plan.realIp[name]?.or (if name = plan.bootstrap then some plan.controllerIp else none)

theorem MeshPlan.meshAddress_eq (pool : AddressPool) (name : String) : plan.meshAddress pool name =
    match plan.preset name with
    | some ip => .ok (ip,pool)
    | none => pool.allocate := by
  unfold MeshPlan.meshAddress MeshPlan.preset
  cases plan.realIp[name]? with
  | some ip => rfl
  | none =>
    dsimp only [Option.none_or]
    split <;> rfl

def MeshPlan.Waits (plan : MeshPlan) (nodes : List Node) (name : String) : Prop :=
  ∃ node ∈ nodes, node.name = name ∧ node.k0sRole = none ∧ name ∉ plan.refused

structure Kept (k0s : K0sClusterState) (podCidr : String) (start s : State) : Prop where
  mesh : DistinctBy k0s s K0sRecord.address
  pods : DistinctBy k0s s K0sRecord.block
  earlier : ∀ name r, k0sRecord start name = some r → r.role.isSome → k0sRecord s name = some r
  inside : ∀ name r, k0sRecord s name = some r → r.role.isSome → k0sRecord start name ≠ some r →
    ∃ text, r.podCidr = some text ∧ InsidePodRange podCidr text

structure Assigns (k0s : K0sClusterState) (plan : MeshPlan) (start s : State) (rest : List Node) (pool : AddressPool)
    (used : Finset Nat) : Prop extends Kept k0s plan.podCidr start s where
  bounds : pool.base + 2 ^ (32 - pool.prefixLen) ≤ 2 ^ 32
  held : ∀ name r, AssignedMember k0s s name r → ∀ ip, r.address = some ip → ip ∈ pool.allocated
  presets : ∀ name, plan.Waits rest name → ∀ ip, plan.preset name = some ip → ip < 2 ^ 32 ∧ ip ∈ pool.allocated ∧
    ∀ other r, AssignedMember k0s s other r → r.address ≠ some ip
  apart : ∀ a b, plan.Waits rest a → plan.Waits rest b → a ≠ b → ∀ ip, plan.preset a = some ip → plan.preset b ≠ some ip
  ordinals : ∀ base, cidrBase plan.podCidr = .ok base → base % 256 = 0 → ∀ name r, AssignedMember k0s s name r → ∀ block, r.block = some block →
    base / 256 ≤ block → block - base / 256 ∈ used
  unassigned : ∀ node ∈ rest, node.k0sRole = none → ∀ r, k0sRecord start node.name = some r → r.role = none
  names : (rest.map Node.name).Nodup

theorem Kept.begin_ (mesh : DistinctBy k0s s K0sRecord.address) (pods : DistinctBy k0s s K0sRecord.block) :
    Kept k0s podCidr s s :=
  ⟨mesh,pods,fun _ _ found _ => found,fun _ _ found _ new => absurd found new⟩

theorem Kept.congr (kept : Kept k0s podCidr start s) (same : k0sRecord t = k0sRecord s) :
    Kept k0s podCidr start t := by
  obtain ⟨mesh,pods,earlier,inside⟩ := kept
  unfold DistinctBy AssignedMember at mesh pods
  rw [← same] at mesh pods earlier inside
  exact ⟨mesh,pods,earlier,inside⟩

variable {node : Node} {rest : List Node} {pool after : AddressPool} {used : Finset Nat} {ip : Nat}

theorem MeshPlan.Waits.later (waits : plan.Waits rest name) : plan.Waits (node :: rest) name :=
  waits.imp fun _ ⟨listed,found⟩ => ⟨mem_cons_of_mem _ listed,found⟩

structure FreshAddress (k0s : K0sClusterState) (plan : MeshPlan) (s : State) (rest : List Node) (pool after : AddressPool)
    (ip : Nat) : Prop where
  small : ip < 2 ^ 32
  unused : ∀ other r, AssignedMember k0s s other r → r.address ≠ some ip
  taken : ip ∈ after.allocated
  grows : pool.allocated ⊆ after.allocated
  bounds : after.base + 2 ^ (32 - after.prefixLen) ≤ 2 ^ 32
  unclaimed : ∀ other, plan.Waits rest other → plan.preset other ≠ some ip

theorem Assigns.fresh (tracks : Assigns k0s plan start s (node :: rest) pool used) (waits : plan.Waits (node :: rest) node.name)
    (ok : plan.meshAddress pool node.name = .ok (ip,after)) : FreshAddress k0s plan s rest pool after ip := by
  have elsewhere {other : String} (later : plan.Waits rest other) : node.name ≠ other := by
    obtain ⟨candidate,listed,rfl,-⟩ := later
    intro same
    exact (nodup_cons.mp tracks.names).1 (mem_map.mpr ⟨candidate,listed,same.symm⟩)
  rw [MeshPlan.meshAddress_eq] at ok
  cases preset : plan.preset _ with
  | some given =>
    rw [preset] at ok
    cases ok
    obtain ⟨small,taken,unused⟩ := tracks.presets _ waits ip preset
    exact ⟨small,unused,taken,Finset.Subset.refl _,tracks.bounds,fun other later =>
      tracks.apart _ other waits later.later (elsewhere later) ip preset⟩
  | none =>
    rw [preset] at ok
    obtain ⟨free,rfl,below⟩ := AddressPool.allocate_ok ok
    refine ⟨below.trans_le tracks.bounds,fun other r assigned same => free (tracks.held other r assigned ip same),
      Finset.mem_insert_self ip _,Finset.subset_insert ip _,tracks.bounds,fun other later same => ?_⟩
    exact free (tracks.presets other later.later ip same).2.1

theorem Assigns.assigned (tracks : Assigns k0s plan start s (node :: rest) pool used) (role_ : node.k0sRole = none)
    (fresh : FreshAddress k0s plan s rest pool after ip) (aligned : AlignedCidr plan.podCidr) {text : String} {role : K0sRole}
    (carved : carvePodCidr plan.podCidr (nextFreeOrdinal used) = .ok text)
    (others : ∀ name, name ≠ node.name → k0sRecord t name = k0sRecord s name)
    (mine : k0sRecord t node.name = some ⟨some role,some (String.ofList (Ipv4.format ip)),some text⟩) :
    Assigns k0s plan start t rest after (insert (nextFreeOrdinal used) used) := by
  obtain ⟨inside,block⟩ := carved_block carved aligned
  have address := K0sRecord.address_format (r := ⟨some role,some _,some text⟩) fresh.small rfl
  -- A member after the step is the node itself or was a member before.
  have member {name : String} {r : K0sRecord} (assigned : AssignedMember k0s t name r) :=
    (stored_cases others mine assigned.1).imp_right fun old => (⟨old,assigned.2⟩ : AssignedMember k0s s name r)
  obtain ⟨base,len,parts,-⟩ := carvePodCidr_ok carved
  have begins := (cidrParts_base parts).1
  obtain ⟨whole,blockHere⟩ := block base begins
  refine ⟨⟨?_,?_,?_,?_⟩,fresh.bounds,?_,?_,?_,?_,?_,(nodup_cons.mp tracks.names).2⟩
  · refine tracks.mesh.assign others mine fun other q assigned v same => ?_
    obtain rfl : ip = v := Option.some.inj (address.symm.trans same)
    exact fresh.unused other q assigned
  · refine tracks.pods.assign others mine fun other q assigned v same shared => ?_
    obtain rfl := Option.some.inj (blockHere.symm.trans same)
    have reused := tracks.ordinals base begins whole other q assigned _ shared (Nat.le_add_right _ _)
    rw [Nat.add_sub_cancel_left] at reused
    exact nextFreeOrdinal_notMem reused
  · intro name r before_ isAssigned
    by_cases here : name = node.name
    · subst here
      rw [tracks.unassigned node mem_cons_self role_ r before_] at isAssigned
      cases isAssigned
    · rw [others name here]
      exact tracks.earlier name r before_ isAssigned
  · intro name r now_ isAssigned new
    rcases stored_cases others mine now_ with ⟨-,rfl⟩ | old
    · exact ⟨text,rfl,inside⟩
    · exact tracks.inside name r old isAssigned new
  · intro name r assigned v same
    rcases member assigned with ⟨-,rfl⟩ | old
    · obtain rfl : ip = v := Option.some.inj (address.symm.trans same)
      exact fresh.taken
    · exact fresh.grows (tracks.held name r old v same)
  · intro name later v preset
    obtain ⟨small,taken,unused⟩ := tracks.presets name later.later v preset
    refine ⟨small,fresh.grows taken,fun other r assigned same => ?_⟩
    rcases member assigned with ⟨-,rfl⟩ | old
    · obtain rfl : ip = v := Option.some.inj (address.symm.trans same)
      exact fresh.unclaimed name later preset
    · exact unused other r old same
  · exact fun a b first second => tracks.apart a b first.later second.later
  · intro other same _ name r assigned number shared above
    obtain rfl : base = other := Except.ok.inj (begins.symm.trans same)
    rcases member assigned with ⟨-,rfl⟩ | old
    · obtain rfl := Option.some.inj (blockHere.symm.trans shared)
      rw [Nat.add_sub_cancel_left]
      exact Finset.mem_insert_self _ _
    · exact Finset.mem_insert_of_mem (tracks.ordinals base begins whole name r old number shared above)
  · exact fun candidate listed => tracks.unassigned candidate (mem_cons_of_mem _ listed)

theorem Assigns.skip (tracks : Assigns k0s plan start s (node :: rest) pool used) : Assigns k0s plan start s rest pool used where
  toKept := tracks.toKept
  bounds := tracks.bounds
  held := tracks.held
  presets := fun name later => tracks.presets name later.later
  apart := fun a b first second => tracks.apart a b first.later second.later
  ordinals := tracks.ordinals
  unassigned := fun candidate listed => tracks.unassigned candidate (mem_cons_of_mem _ listed)
  names := (nodup_cons.mp tracks.names).2

theorem assignNodes_kept {nodes : List Node} {p : Proposer} (tracks : Assigns k0s plan start p.state nodes pool used)
    (aligned : AlignedCidr plan.podCidr) :
    Kept k0s plan.podCidr start (plan.assignNodes config env nodes pool used p).1.state := by
  induction nodes generalizing pool used p with
  | nil => exact tracks.toKept
  | cons node rest ih =>
    unfold MeshPlan.assignNodes
    split
    · exact ih tracks.skip
    next free =>
    have open_ : node.k0sRole = none ∧ node.name ∉ plan.refused := by simpa using free
    split
    · exact tracks.toKept
    next ip after addressed =>
    dsimp only
    split
    · exact tracks.toKept
    next text carved =>
    have waits : plan.Waits (node :: rest) _ := ⟨node,mem_cons_self,rfl,open_⟩
    have fresh := tracks.fresh waits addressed
    obtain ⟨others,mine⟩ := Proposer.assignNodeK0s_records
    split
    · next q e answered =>
      rw [answered] at others mine
      rcases mine with mine | ⟨same,-⟩
      · exact (tracks.assigned open_.1 fresh aligned carved others mine).toKept
      refine tracks.toKept.congr (funext fun name => ?_)
      by_cases here : name = node.name
      · rw [here]
        exact same
      · exact others name here
    · next q answered =>
      rw [answered] at others mine
      rcases mine with mine | ⟨-,e,failed⟩
      · exact ih (tracks.assigned open_.1 fresh aligned carved others mine)
      · cases failed

theorem assignNodes_given {nodes : List Node} {p : Proposer} (names : (nodes.map Node.name).Nodup) :
    let out := plan.assignNodes config env nodes pool used p
    (∀ name, ¬plan.Waits nodes name → k0sRecord out.1.state name = k0sRecord p.state name) ∧
      (out.2 = .ok () → ∀ name, plan.Waits nodes name → ∀ ip, plan.preset name = some ip →
        ∃ r, k0sRecord out.1.state name = some r ∧ r.role.isSome = true ∧ r.meshIp = some (String.ofList (Ipv4.format ip))) := by
  induction nodes generalizing pool used p with
  | nil => exact ⟨fun _ _ => rfl,fun _ _ ⟨_,listed,_⟩ => absurd listed not_mem_nil⟩
  | cons node rest ih =>
    obtain ⟨elsewhere,distinct⟩ := nodup_cons.mp names
    unfold MeshPlan.assignNodes
    split
    · next closed =>
      obtain ⟨frame,given⟩ := @ih pool used p distinct
      refine ⟨fun name idle => frame name fun later => idle later.later,fun ok name waits => ?_⟩
      obtain ⟨candidate,listed,rfl,role,open_⟩ := waits
      rcases mem_cons.mp listed with rfl | later
      · simp [role,open_] at closed
      · exact given ok _ ⟨candidate,later,rfl,role,open_⟩
    · next free =>
      have open_ : node.k0sRole = none ∧ node.name ∉ plan.refused := by simpa using free
      have waitsHere : plan.Waits (node :: rest) _ := ⟨node,mem_cons_self,rfl,open_⟩
      split
      · exact ⟨fun _ _ => rfl,fun ok => by cases ok⟩
      next ip after addressed =>
      dsimp only
      split
      · exact ⟨fun _ _ => rfl,fun ok => by cases ok⟩
      next text carved =>
      obtain ⟨others,mine⟩ := Proposer.assignNodeK0s_records
      split
      · next q e answered =>
        rw [answered] at others
        refine ⟨fun name idle => others name fun here => idle (here ▸ waitsHere),fun ok => by cases ok⟩
      · next q answered =>
        rw [answered] at others mine
        obtain ⟨frame,given⟩ := @ih after _ q distinct
        refine ⟨fun name idle => ?_,fun ok name waits => ?_⟩
        · rw [frame name fun later => idle later.later]
          exact others name fun here => idle (here ▸ waitsHere)
        by_cases here : name = node.name
        · subst here
          intro given_ preset
          rw [MeshPlan.meshAddress_eq,preset] at addressed
          cases addressed
          have done : ¬plan.Waits rest _ := fun ⟨candidate,listed,same,_⟩ =>
            elsewhere (mem_map.mpr ⟨candidate,listed,same⟩)
          rw [frame _ done]
          rcases mine with mine | ⟨-,e,failed⟩
          · exact ⟨_,mine,rfl,rfl⟩
          · cases failed
        · obtain ⟨candidate,listed,rfl,closed⟩ := waits
          rcases mem_cons.mp listed with rfl | later
          · exact absurd rfl here
          · exact given ok _ ⟨candidate,later,rfl,closed⟩

end

section

variable {k0s : K0sClusterState} {s : State} {nodes : List Node}

def KeyedByName (s : State) : Prop := ∀ (name : String) (node : Node), s.nodes[name]? = some node → node.name = name

theorem mem_memberNodes (keyed : KeyedByName s) {node : Node} :
    node ∈ memberNodes k0s s ↔ s.nodes[node.name]? = some node ∧ k0s.isMember node.name = true := by
  unfold memberNodes
  rw [mem_insertionSort,mem_filter,mem_map]
  constructor
  · rintro ⟨⟨⟨name,_⟩,listed,rfl⟩,member⟩
    have found := Std.ExtTreeMap.mem_toList_iff_getElem?_eq_some.mp listed
    rw [keyed name _ found]
    exact ⟨found,(keyed name _ found) ▸ member⟩
  · rintro ⟨found,member⟩
    exact ⟨⟨(node.name,node),Std.ExtTreeMap.mem_toList_iff_getElem?_eq_some.mpr found,rfl⟩,member⟩

theorem memberNodes_names (keyed : KeyedByName s) : ((memberNodes k0s s).map Node.name).Nodup := by
  have sorted := perm_insertionSort (fun a b : Node => a.name ≤ b.name)
    ((s.nodes.toList.map Prod.snd).filter fun node => k0s.isMember node.name)
  refine (sorted.map _).nodup_iff.mpr ?_
  have keys : (s.nodes.toList.map Prod.snd).map Node.name = s.nodes.toList.map Prod.fst := by
    rw [map_map]
    exact map_congr_left fun entry listed => keyed _ _ (Std.ExtTreeMap.mem_toList_iff_getElem?_eq_some.mp listed)
  have all : ((s.nodes.toList.map Prod.snd).map Node.name).Nodup := by
    rw [keys]
    exact nodup_keys_toList _
  exact all.sublist (filter_sublist.map _)

def persistedAddress (node : Node) : Option Nat := node.k0sMeshIp.bind fun text => Ipv4.parse text.toList

/-- The seeded pool holds every address on record, and owners are exactly the assigned nodes. -/
structure Seeded (nodes : List Node) (before after : AddressPool × Table Nat String) : Prop where
  base : after.1.base = before.1.base
  prefixLen : after.1.prefixLen = before.1.prefixLen
  grows : before.1.allocated ⊆ after.1.allocated
  held : ∀ node ∈ nodes, ∀ ip, persistedAddress node = some ip → ip ∈ after.1.allocated
  owned : ∀ ip, (∃ owner, after.2[ip]? = some owner) ↔ (∃ owner, before.2[ip]? = some owner) ∨
    ∃ node ∈ nodes, node.k0sRole.isSome = true ∧ persistedAddress node = some ip

theorem seedNode_ok {before after : AddressPool × Table Nat String} {node : Node} (ok : seedNode before node = .ok after) :
    Seeded [node] before after := by
  unfold seedNode at ok
  split at ok
  · next none_ =>
    cases ok
    have nothing : persistedAddress node = none := by
      unfold persistedAddress
      rw [none_]
      rfl
    exact ⟨rfl,rfl,Finset.Subset.refl _,by simp [nothing],by simp [nothing]⟩
  · next text some_ =>
    split at ok
    · cases ok
    next ip parsed =>
    cases ok
    have here : persistedAddress node = some ip := by
      unfold persistedAddress
      rw [some_]
      exact parsed
    refine ⟨rfl,rfl,Finset.subset_insert ip _,by simp [here,AddressPool.markAllocated],fun other => ?_⟩
    by_cases role : node.k0sRole.isSome = true
    · by_cases same : ip = other
      · simp [role,same,here]
      · simp [role,same,here,find_insert]
    · simp [role]

theorem seedNodes_ok {before after : AddressPool × Table Nat String} (ok : nodes.foldlM seedNode before = .ok after) :
    Seeded nodes before after := by
  induction nodes generalizing before with
  | nil =>
    cases ok
    exact ⟨rfl,rfl,Finset.Subset.refl _,by simp,by simp⟩
  | cons node nodes ih =>
    obtain ⟨middle,first,later⟩ := bind_ok.mp ok
    have one := seedNode_ok first
    have more := ih later
    refine ⟨more.base.trans one.base,more.prefixLen.trans one.prefixLen,one.grows.trans more.grows,?_,fun ip => ?_⟩
    · intro candidate listed ip recorded
      rcases mem_cons.mp listed with rfl | there
      · exact more.grows (one.held _ mem_cons_self ip recorded)
      · exact more.held candidate there ip recorded
    · rw [more.owned,one.owned]
      simp [or_assoc]

def claimOf (meshCidr : String) (node : Node) : Option (Nat × String) :=
  if node.k0sRole.isSome then none
  else match realMeshAddress node meshCidr with
    | .ok (some addr) => some (addr,node.name)
    | _ => none

theorem claimNode_ok {before after : List (Nat × String)} {node : Node}
    (ok : claimNode meshCidr before node = .ok after) : after = before ++ (claimOf meshCidr node).toList ∧
      (node.k0sRole = none → claimOf meshCidr node = none → realMeshAddress node meshCidr = .ok none) := by
  unfold claimNode at ok
  unfold claimOf
  split at ok
  · next role =>
    cases ok
    rw [if_pos role]
    exact ⟨(append_nil _).symm,fun none_ => by simp [none_] at role⟩
  next role =>
  rw [if_neg role]
  split at ok
  · cases ok
  · next real =>
    cases ok
    rw [real]
    exact ⟨(append_nil _).symm,fun _ _ => rfl⟩
  · next real =>
    cases ok
    rw [real]
    exact ⟨rfl,fun _ none_ => by cases none_⟩

theorem claimNodes_ok {before after : List (Nat × String)}
    (ok : nodes.foldlM (claimNode meshCidr) before = .ok after) : after = before ++ nodes.filterMap (claimOf meshCidr) ∧
      ∀ node ∈ nodes, node.k0sRole = none → claimOf meshCidr node = none → realMeshAddress node meshCidr = .ok none := by
  induction nodes generalizing before with
  | nil =>
    cases ok
    exact ⟨(append_nil _).symm,fun _ listed => absurd listed not_mem_nil⟩
  | cons node nodes ih =>
    obtain ⟨middle,first,later⟩ := bind_ok.mp ok
    obtain ⟨rfl,real⟩ := claimNode_ok first
    obtain ⟨rest,others⟩ := ih later
    refine ⟨?_,forall_mem_cons.mpr ⟨real,others⟩⟩
    rw [rest,append_assoc,filterMap_cons]
    cases claimOf meshCidr node <;> rfl

def claimantsOf (claims : List (Nat × String)) (addr : Nat) : List String :=
  (claims.filter fun claim => claim.1 = addr).map Prod.snd

def Adopts (owners : Table Nat String) (claims : List (Nat × String)) (addr : Nat) (name : String) : Prop :=
  owners[addr]? = none ∧ claimantsOf claims addr = [name]

structure Adopted (owners : Table Nat String) (claims : List (Nat × String)) (done : List Nat) (start a : Adoption) : Prop where
  records : k0sRecord a.proposer.state = k0sRecord start.proposer.state
  base : a.pool.base = start.pool.base
  prefixLen : a.pool.prefixLen = start.pool.prefixLen
  grows : start.pool.allocated ⊆ a.pool.allocated
  adopted : ∀ (name : String) (addr : Nat), a.realIp[name]? = some addr ↔ addr ∈ done ∧ Adopts owners claims addr name
  marked : ∀ (name : String) (addr : Nat), a.realIp[name]? = some addr → addr ∈ a.pool.allocated
  refused : ∀ name, name ∈ a.refused ↔ ∃ addr ∈ done, name ∈ claimantsOf claims addr ∧ ¬Adopts owners claims addr name

theorem refuse_spec {config : Config} {env : Env} (a : Adoption) :
    let after := refuse config env names reason a
    k0sRecord after.proposer.state = k0sRecord a.proposer.state ∧ after.pool = a.pool ∧ after.realIp = a.realIp ∧
      ∀ name, name ∈ after.refused ↔ name ∈ a.refused ∨ name ∈ names := by
  induction names generalizing a with
  | nil => exact ⟨rfl,rfl,rfl,by simp [refuse]⟩
  | cons first names ih =>
    obtain ⟨records,pool,real,refused⟩ := ih _
    refine ⟨records.trans a.proposer.recordNodeK0sError_records,pool,real,fun name => ?_⟩
    refine (refused name).trans ?_
    rw [Finset.mem_insert,mem_cons]
    tauto

section

variable {owners : Table Nat String} {claims : List (Nat × String)} {done : List Nat} {start a : Adoption} {addr : Nat}

theorem Adopted.refuse {config : Config} {env : Env} (settled : Adopted owners claims done start a)
    (nobody : ∀ name, ¬Adopts owners claims addr name)
    (all : ∀ name, name ∈ names ↔ name ∈ claimantsOf claims addr) :
    Adopted owners claims (done ++ [addr]) start (Cluster.refuse config env names reason a) := by
  obtain ⟨records,pool,real,refused⟩ := refuse_spec a
  constructor
  · rw [records]
    exact settled.records
  · rw [pool]
    exact settled.base
  · rw [pool]
    exact settled.prefixLen
  · rw [pool]
    exact settled.grows
  · intro name other
    rw [real,settled.adopted,mem_append,mem_singleton]
    constructor
    · rintro ⟨listed,adopts⟩
      exact ⟨.inl listed,adopts⟩
    · rintro ⟨listed | rfl,adopts⟩
      · exact ⟨listed,adopts⟩
      · exact absurd adopts (nobody name)
  · rw [pool,real]
    exact settled.marked
  · intro name
    rw [refused,settled.refused,all]
    simp only [mem_append,mem_singleton,or_and_right,exists_or,exists_eq_left]
    exact or_congr_right ⟨fun listed => ⟨listed,nobody name⟩,And.left⟩

theorem mem_claimantsOf : name ∈ claimantsOf claims addr ↔ (addr,name) ∈ claims := by
  constructor
  · intro listed
    obtain ⟨⟨_,_⟩,kept,rfl⟩ := mem_map.mp listed
    obtain ⟨present,same⟩ := mem_filter.mp kept
    obtain rfl := of_decide_eq_true same
    exact present
  · intro present
    exact mem_map.mpr ⟨(addr,name),mem_filter.mpr ⟨present,decide_eq_true rfl⟩,rfl⟩

theorem claimed_address (claimed : name ∈ claimantsOf claims addr) : addr ∈ (claims.map Prod.fst).dedup :=
  mem_dedup.mpr (mem_map.mpr ⟨(addr,name),mem_claimantsOf.mp claimed,rfl⟩)

theorem claim_unique (names : (claims.map Prod.snd).Nodup) {other : Nat}
    (first : name ∈ claimantsOf claims addr) (second : name ∈ claimantsOf claims other) : addr = other :=
  congrArg Prod.fst (inj_on_of_nodup_map names (mem_claimantsOf.mp first) (mem_claimantsOf.mp second) rfl)

theorem Adopted.adopt (settled : Adopted owners claims done start a) (names : (claims.map Prod.snd).Nodup)
    (adopts : Adopts owners claims addr name) :
    Adopted owners claims (done ++ [addr]) start
      { a with pool := a.pool.markAllocated addr, realIp := a.realIp.insert name addr } := by
  have mine : name ∈ claimantsOf claims addr := adopts.2 ▸ mem_cons_self
  refine ⟨settled.records,settled.base,settled.prefixLen,settled.grows.trans (Finset.subset_insert _ _),?_,?_,?_⟩
  · intro other ip
    rw [find_insert,mem_append,mem_singleton]
    by_cases same : name = other
    · subst same
      rw [if_pos rfl]
      constructor
      · rintro ⟨⟩
        exact ⟨.inr rfl,adopts⟩
      · rintro ⟨-,also⟩
        exact congrArg some (claim_unique names mine (also.2 ▸ mem_cons_self))
    · rw [if_neg same,settled.adopted]
      constructor
      · rintro ⟨listed,also⟩
        exact ⟨.inl listed,also⟩
      · rintro ⟨listed | rfl,also⟩
        · exact ⟨listed,also⟩
        · exact absurd (singleton_inj.mp (adopts.2.symm.trans also.2)) same
  · intro other ip found
    rw [find_insert] at found
    split at found
    · cases found
      exact Finset.mem_insert_self _ _
    · exact Finset.mem_insert_of_mem (settled.marked other ip found)
  · intro other
    rw [settled.refused]
    simp only [mem_append,mem_singleton,or_and_right,exists_or,exists_eq_left]
    refine (or_iff_left ?_).symm
    rintro ⟨listed,never⟩
    rw [adopts.2,mem_singleton] at listed
    exact never (listed ▸ adopts)

theorem Adopted.step (config : Config) (env : Env) (settled : Adopted owners claims done start a)
    (names : (claims.map Prod.snd).Nodup) (addr : Nat) :
    Adopted owners claims (done ++ [addr]) start (settleClaim config env owners claims a addr) := by
  unfold settleClaim
  dsimp only
  split
  · next owner owned =>
    refine settled.refuse (fun name adopts => ?_) (fun name => Iff.rfl)
    rw [adopts.1] at owned
    cases owned
  · next free =>
    split
    · next name alone => exact settled.adopt names ⟨free,alone⟩
    · next many =>
      refine settled.refuse (fun name adopts => many name adopts.2) (fun name => ?_)
      exact mem_insertionSort _

theorem settleClaims (config : Config) (env : Env) (names : (claims.map Prod.snd).Nodup) (p : Proposer) (pool : AddressPool) :
    Adopted owners claims (claims.map Prod.fst).dedup ⟨p,pool,∅,∅⟩
      ((claims.map Prod.fst).dedup.foldl (settleClaim config env owners claims) ⟨p,pool,∅,∅⟩) := by
  have run (addresses done : List Nat) (a : Adoption) (settled : Adopted owners claims done ⟨p,pool,∅,∅⟩ a) :
      Adopted owners claims (done ++ addresses) ⟨p,pool,∅,∅⟩ (addresses.foldl (settleClaim config env owners claims) a) := by
    induction addresses generalizing done a with
    | nil =>
      rw [append_nil]
      exact settled
    | cons addr addresses ih =>
      have more := ih _ _ (settled.step config env names addr)
      rw [append_assoc] at more
      exact more
  exact run _ [] _ ⟨rfl,rfl,rfl,Finset.Subset.refl _,by simp,by simp,by simp⟩

end

theorem AddressPool.new_ok {pool : AddressPool} (ok : AddressPool.new cidr = .ok pool) :
    ∃ base len, cidrParts cidr = some (base,len) ∧ 1 ≤ len ∧ len ≤ 30 ∧ pool.prefixLen = len ∧
      pool.base = base - base % 2 ^ (32 - len) := by
  unfold AddressPool.new at ok
  split at ok
  · cases ok
  next text prefixStr cut =>
  split at ok
  · next base len parsed read =>
    split at ok
    · cases ok
    next range_ =>
    cases ok
    have sizes : len ≠ 0 ∧ len ≤ 30 := by simpa using range_
    exact ⟨base,len,cidrParts_some.mpr ⟨text,prefixStr,cut,parsed,read⟩,by omega,sizes.2,rfl,rfl⟩
  · cases ok

theorem AddressPool.new_bounds {pool : AddressPool} (ok : AddressPool.new cidr = .ok pool) :
    pool.base + 2 ^ (32 - pool.prefixLen) ≤ 2 ^ 32 := by
  obtain ⟨base,len,parts,-,-,rfl,masked⟩ := AddressPool.new_ok ok
  rw [masked]
  refine Ipv4.block_end_le ((Nat.sub_le _ _).trans_lt (cidrParts_base parts).2) ?_
  exact Nat.mod_eq_zero_of_dvd (Nat.dvd_sub_mod base)

theorem firstHost_lt {pool : AddressPool} {host : Nat} (ok : AddressPool.new cidr = .ok pool)
    (aligned : AlignedCidr cidr) (first : firstHost cidr = .ok host) : host < 2 ^ 32 := by
  obtain ⟨base,len,parts,-,short,-⟩ := AddressPool.new_ok ok
  obtain ⟨begins,small⟩ := cidrParts_base parts
  have end_ := Ipv4.block_end_le small (aligned base len parts)
  have room : 2 ^ 2 ≤ 2 ^ (32 - len) := Nat.pow_le_pow_right (by decide) (by omega)
  unfold firstHost at first
  rw [begins] at first
  cases first
  omega

theorem claimOf_some {node : Node} {addr : Nat} (claimed : claimOf meshCidr node = some (addr,name)) :
    node.k0sRole = none ∧ node.name = name ∧ realMeshAddress node meshCidr = .ok (some addr) ∧ addr < 2 ^ 32 := by
  unfold claimOf at claimed
  split at claimed
  · cases claimed
  next role =>
  split at claimed
  · next found real =>
    cases claimed
    refine ⟨by simpa using role,rfl,real,?_⟩
    unfold realMeshAddress at real
    split at real
    · cases real
    split at real
    · cases real
    · next ip parsed =>
      obtain ⟨inside,-,real⟩ := bind_ok.mp real
      obtain ⟨text,-,parsed⟩ := Option.bind_eq_some_iff.mp parsed
      cases inside with
      | false => cases real
      | true =>
        cases real
        exact Ipv4.parse_lt parsed
  · cases claimed

structure Surveyed (net : ClusterNetworking) (nodes : List Node) (seeded : AddressPool × Table Nat String) (host : Nat)
    (claims : List (Nat × String)) : Prop where
  bounds : seeded.1.base + 2 ^ (32 - seeded.1.prefixLen) ≤ 2 ^ 32
  first : firstHost net.meshCidr = .ok host
  small : AlignedCidr net.meshCidr → host < 2 ^ 32
  reserved : host ∈ seeded.1.allocated
  held : ∀ node ∈ nodes, ∀ ip, persistedAddress node = some ip → ip ∈ seeded.1.allocated
  owned : ∀ ip, seeded.2[ip]? = none ↔ ∀ node ∈ nodes, node.k0sRole.isSome = true → persistedAddress node ≠ some ip
  claims : claims = nodes.filterMap (claimOf net.meshCidr)
  silent : ∀ node ∈ nodes, node.k0sRole = none → claimOf net.meshCidr node = none → realMeshAddress node net.meshCidr = .ok none

theorem surveyMesh_ok {net : ClusterNetworking} {seeded : AddressPool × Table Nat String} {host : Nat}
    {claims : List (Nat × String)} (ok : surveyMesh net nodes = .ok (seeded,host,claims)) :
    Surveyed net nodes seeded host claims := by
  obtain ⟨pool,made,ok⟩ := bind_ok.mp ok
  obtain ⟨first,begins,ok⟩ := bind_ok.mp ok
  obtain ⟨filled,seeding,ok⟩ := bind_ok.mp ok
  obtain ⟨found,claiming,ok⟩ := bind_ok.mp ok
  cases ok
  have seed := seedNodes_ok seeding
  have reserved : host ∈ ((pool.allocateSpecific host).toOption.getD pool).allocated ∧
      ((pool.allocateSpecific host).toOption.getD pool).base = pool.base ∧
      ((pool.allocateSpecific host).toOption.getD pool).prefixLen = pool.prefixLen := by
    unfold AddressPool.allocateSpecific
    split
    · next already => exact ⟨already,rfl,rfl⟩
    · exact ⟨Finset.mem_insert_self _ _,rfl,rfl⟩
  obtain ⟨listed,silent⟩ := claimNodes_ok claiming
  refine ⟨?_,begins,fun aligned => firstHost_lt made aligned begins,seed.grows reserved.1,seed.held,fun ip => ?_,listed,silent⟩
  · rw [seed.base,seed.prefixLen,reserved.2.1,reserved.2.2]
    exact AddressPool.new_bounds made
  · rw [← not_iff_not,← Ne.eq_def,Option.ne_none_iff_exists']
    refine (seed.owned ip).trans ?_
    simp

end

section

variable {config : Config} {env : Env} {net : ClusterNetworking} {k0s : K0sClusterState} {p : Proposer}

/-- When the bootstrap has no role and advertises no address in the mesh, the first host belongs to no assigned member
and is not advertised by exactly one newcomer. -/
def FirstHostFree (net : ClusterNetworking) (k0s : K0sClusterState) (s : State) : Prop :=
  ∀ host, firstHost net.meshCidr = .ok host → ∀ node ∈ memberNodes k0s s,
    node.name = bootstrapNode net k0s (memberNodes k0s s) → node.k0sRole = none → realMeshAddress node net.meshCidr = .ok none →
      (∀ other ∈ memberNodes k0s s, other.k0sRole.isSome = true → persistedAddress other ≠ some host) ∧
      ∀ name, claimantsOf ((memberNodes k0s s).filterMap (claimOf net.meshCidr)) host ≠ [name]

theorem assignedMember_node {s : State} (keyed : KeyedByName s) (assigned : AssignedMember k0s s name r) :
    ∃ node ∈ memberNodes k0s s, node.name = name ∧ node.k0sRole.isSome = true ∧ persistedAddress node = r.address ∧
      node.k0sPodCidr = r.podCidr := by
  obtain ⟨node,found,rfl⟩ := Option.map_eq_some_iff.mp assigned.1
  have same := keyed name node found
  subst same
  exact ⟨node,(mem_memberNodes keyed).mpr ⟨found,assigned.2.1⟩,rfl,assigned.2.2,rfl,rfl⟩

theorem claims_names {s : State} (keyed : KeyedByName s) :
    (((memberNodes k0s s).filterMap (claimOf net.meshCidr)).map Prod.snd).Nodup := by
  have sublist : (((memberNodes k0s s).filterMap (claimOf net.meshCidr)).map Prod.snd).Sublist
      ((memberNodes k0s s).map Node.name) := by
    induction memberNodes k0s s with
    | nil => exact List.Sublist.refl _
    | cons node nodes ih =>
      cases claimed : claimOf _ node with
      | none =>
        rw [filterMap_cons_none claimed]
        exact ih.cons _
      | some claim =>
        rw [filterMap_cons_some claimed,map_cons,map_cons,(claimOf_some claimed).2.1]
        exact ih.cons_cons _
  exact (memberNodes_names keyed).sublist sublist

theorem ordered_perm {nodes : List Node} {controllers : List String} :
    (nodes.filter (fun node => controllers.contains node.name) ++
      nodes.filter fun node => !controllers.contains node.name).Perm nodes :=
  filter_append_perm _ _

/-- What the loop starts from: the members in some order, with their claims settled. -/
structure Ready (net : ClusterNetworking) (k0s : K0sClusterState) (s : State) (plan : MeshPlan) (ordered : List Node)
    (seeded : AddressPool × Table Nat String) (claims : List (Nat × String)) (begun a : Adoption) : Prop where
  keyed : KeyedByName s
  surveyed : Surveyed net (memberNodes k0s s) seeded plan.controllerIp claims
  settled : Adopted seeded.2 claims (claims.map Prod.fst).dedup begun a
  begun : begun.pool = seeded.1 ∧ begun.proposer.state = s
  order : ordered.Perm (memberNodes k0s s)
  bootstrap : plan.bootstrap = bootstrapNode net k0s (memberNodes k0s s)
  podCidr : plan.podCidr = net.podCidr
  realIp : plan.realIp = a.realIp
  refused : plan.refused = a.refused

namespace Ready

variable {s : State} {plan : MeshPlan} {ordered : List Node} {seeded : AddressPool × Table Nat String}
  {claims : List (Nat × String)} {begun a : Adoption} (ready : Ready net k0s s plan ordered seeded claims begun a)
include ready

theorem real_iff {addr : Nat} : plan.realIp[name]? = some addr ↔ Adopts seeded.2 claims addr name := by
  rw [ready.realIp,ready.settled.adopted]
  exact and_iff_right_of_imp fun adopts => claimed_address (adopts.2 ▸ mem_cons_self)

theorem claimant_node {addr : Nat}
    (claimed : name ∈ claimantsOf claims addr) : ∃ node ∈ memberNodes k0s s, node.name = name ∧ node.k0sRole = none ∧
      realMeshAddress node net.meshCidr = .ok (some addr) := by
  have listed := mem_claimantsOf.mp claimed
  rw [ready.surveyed.claims] at listed
  obtain ⟨node,member,found⟩ := mem_filterMap.mp listed
  obtain ⟨role,named_,real,-⟩ := claimOf_some found
  exact ⟨node,member,named_,role,real⟩

theorem silent_claims_nothing {node : Node} (listed : node ∈ memberNodes k0s s)
    (silent : realMeshAddress node net.meshCidr = .ok none) {addr : Nat} : node.name ∉ claimantsOf claims addr := by
  intro claimed
  obtain ⟨other,there,named_,-,real⟩ := ready.claimant_node claimed
  obtain rfl := inj_on_of_nodup_map (memberNodes_names ready.keyed) there listed named_
  rw [silent] at real
  cases real

theorem silent_adopts_nothing {node : Node} (listed : node ∈ memberNodes k0s s)
    (silent : realMeshAddress node net.meshCidr = .ok none) : plan.realIp[node.name]? = none := by
  by_contra some_
  obtain ⟨addr,found⟩ := Option.ne_none_iff_exists'.mp some_
  exact ready.silent_claims_nothing listed silent ((ready.real_iff.mp found).2 ▸ mem_cons_self)

theorem waits_cases (waits : plan.Waits ordered name) : ∃ node ∈ memberNodes k0s s, node.name = name ∧ node.k0sRole = none ∧
      ((∃ addr, Adopts seeded.2 claims addr name ∧ addr < 2 ^ 32) ∨
        plan.realIp[name]? = none ∧ realMeshAddress node net.meshCidr = .ok none) := by
  obtain ⟨node,listed,rfl,role,open_⟩ := waits
  have member := ready.order.mem_iff.mp listed
  refine ⟨node,member,rfl,role,?_⟩
  cases claimed : claimOf _ node with
  | some claim =>
    left
    obtain ⟨-,same,-,small⟩ := claimOf_some claimed
    have here : node.name ∈ claimantsOf claims claim.1 := by
      refine mem_claimantsOf.mpr ?_
      rw [ready.surveyed.claims]
      exact mem_filterMap.mpr ⟨node,member,claimed.trans (congrArg some (Prod.ext rfl same.symm))⟩
    by_contra never
    push Not at never
    refine open_ ?_
    rw [ready.refused]
    refine (ready.settled.refused _).mpr ⟨claim.1,claimed_address here,here,fun adopts => ?_⟩
    exact absurd small (not_lt.mpr (never _ adopts))
  | none =>
    right
    have silent := ready.surveyed.silent node member role claimed
    exact ⟨ready.silent_adopts_nothing member silent,silent⟩

theorem preset_cases {ip : Nat} (waits : plan.Waits ordered name) (preset : plan.preset name = some ip) :
    (Adopts seeded.2 claims ip name ∧ ip < 2 ^ 32) ∨ (ip = plan.controllerIp ∧ name = plan.bootstrap ∧
      ∃ node ∈ memberNodes k0s s, node.name = name ∧ node.k0sRole = none ∧ realMeshAddress node net.meshCidr = .ok none) := by
  unfold MeshPlan.preset at preset
  obtain ⟨node,member,named_,role,⟨addr,adopts,small⟩ | ⟨nothing,silent⟩⟩ := ready.waits_cases waits
  · rw [ready.real_iff.mpr adopts] at preset
    cases preset
    exact .inl ⟨adopts,small⟩
  · rw [nothing] at preset
    obtain ⟨boot,same⟩ := Option.ite_none_right_eq_some.mp preset
    exact .inr ⟨(Option.some.inj same).symm,boot,node,member,named_,role,silent⟩

theorem bootstrap_waits {node : Node}
    (listed : node ∈ memberNodes k0s s) (boot : node.name = plan.bootstrap) (role : node.k0sRole = none)
    (silent : realMeshAddress node net.meshCidr = .ok none) :
    plan.Waits ordered node.name ∧ plan.preset node.name = some plan.controllerIp := by
  refine ⟨⟨node,ready.order.mem_iff.mpr listed,rfl,role,?_⟩,?_⟩
  · rw [ready.refused]
    intro refused
    obtain ⟨addr,-,claimed,-⟩ := (ready.settled.refused _).mp refused
    exact ready.silent_claims_nothing listed silent claimed
  · unfold MeshPlan.preset
    rw [ready.silent_adopts_nothing listed silent,Option.none_or,if_pos boot]

theorem adopter_waits {addr : Nat}
    (adopts : Adopts seeded.2 claims addr name) : plan.Waits ordered name ∧ plan.preset name = some addr := by
  have mine : name ∈ claimantsOf claims addr := adopts.2 ▸ mem_cons_self
  obtain ⟨node,listed,named_,role,-⟩ := ready.claimant_node mine
  refine ⟨⟨node,ready.order.mem_iff.mpr listed,named_,role,?_⟩,?_⟩
  · rw [ready.refused]
    intro refused
    obtain ⟨other,-,claimed,never⟩ := (ready.settled.refused _).mp refused
    exact never (claim_unique (ready.surveyed.claims ▸ claims_names ready.keyed) claimed mine ▸ adopts)
  · unfold MeshPlan.preset
    rw [ready.real_iff.mpr adopts]
    rfl

theorem tracks (free : FirstHostFree net k0s s)
    (aligned : AlignedCidr net.meshCidr) (mesh : DistinctBy k0s s K0sRecord.address) (pods : DistinctBy k0s s K0sRecord.block)
    {base : Nat} (begins : cidrBase net.podCidr = .ok base) :
    Assigns k0s plan s a.proposer.state ordered a.pool
      ((memberNodes k0s s).filterMap fun node => node.k0sPodCidr.bind fun cidr => podOrdinal cidr base).toFinset := by
  have same : k0sRecord a.proposer.state = k0sRecord s := by
    rw [ready.settled.records,ready.begun.2]
  have member {name : String} {r : K0sRecord} (assigned : AssignedMember k0s a.proposer.state name r) :
      AssignedMember k0s s name r := by
    unfold AssignedMember at assigned ⊢
    rw [same] at assigned
    exact assigned
  have grows : seeded.1.allocated ⊆ a.pool.allocated := ready.begun.1 ▸ ready.settled.grows
  have unowned {name : String} {ip : Nat} (adopts : Adopts seeded.2 claims ip name) (other : String) (r : K0sRecord)
      (assigned : AssignedMember k0s a.proposer.state other r) : r.address ≠ some ip := by
    obtain ⟨node,listed,-,role,address,-⟩ := assignedMember_node ready.keyed (member assigned)
    rw [← address]
    exact (ready.surveyed.owned ip).mp adopts.1 node listed role
  have fallback {name : String} (boot : name = plan.bootstrap) {node : Node} (listed : node ∈ memberNodes k0s s)
      (named_ : node.name = name) (role : node.k0sRole = none) (silent : realMeshAddress node _ = .ok none) :=
    free _ ready.surveyed.first node listed (named_.trans (boot.trans ready.bootstrap)) role silent
  refine ⟨(Kept.begin_ mesh pods).congr same,?_,?_,?_,?_,?_,?_,?_⟩
  · rw [ready.settled.base,ready.settled.prefixLen,ready.begun.1]
    exact ready.surveyed.bounds
  · intro name r assigned ip address
    obtain ⟨node,listed,-,-,recorded,-⟩ := assignedMember_node ready.keyed (member assigned)
    exact grows (ready.surveyed.held node listed ip (recorded.trans address))
  · intro name waits ip preset
    rcases ready.preset_cases waits preset with ⟨adopts,small⟩ | ⟨rfl,boot,node,listed,named_,role,silent⟩
    · have found := ready.real_iff.mpr adopts
      rw [ready.realIp] at found
      exact ⟨small,ready.settled.marked name ip found,unowned adopts⟩
    · refine ⟨ready.surveyed.small aligned,grows ready.surveyed.reserved,fun other r assigned => ?_⟩
      obtain ⟨owner,there,-,holds,address,-⟩ := assignedMember_node ready.keyed (member assigned)
      rw [← address]
      exact (fallback boot listed named_ role silent).1 owner there holds
  · intro first second waitsFirst waitsSecond apart ip presetFirst presetSecond
    rcases ready.preset_cases waitsFirst presetFirst with ⟨adopts,-⟩ | ⟨rfl,boot,node,listed,named_,role,silent⟩ <;>
      rcases ready.preset_cases waitsSecond presetSecond with ⟨also,-⟩ | ⟨here,bootToo,node,listed,named_,role,silent⟩
    · exact apart (singleton_inj.mp (adopts.2.symm.trans also.2))
    · subst here
      exact (fallback bootToo listed named_ role silent).2 first (ready.surveyed.claims ▸ adopts.2)
    · exact (fallback boot listed named_ role silent).2 second (ready.surveyed.claims ▸ also.2)
    · exact apart (boot.trans bootToo.symm)
  · intro other starts whole name r assigned block found above
    rw [ready.podCidr] at starts
    obtain rfl : base = other := Except.ok.inj (begins.symm.trans starts)
    obtain ⟨node,listed,-,-,-,cidr⟩ := assignedMember_node ready.keyed (member assigned)
    obtain ⟨text,recorded,found⟩ := Option.bind_eq_some_iff.mp found
    obtain ⟨first,parsed,rfl⟩ := Option.map_eq_some_iff.mp found
    refine mem_toFinset.mpr (mem_filterMap.mpr ⟨node,listed,?_⟩)
    rw [cidr,recorded]
    change podOrdinal text base = _
    unfold podOrdinal
    rw [parsed]
    have after_ : base ≤ first := by omega
    change (if base ≤ first then some _ else none) = _
    rw [if_pos after_]
    exact congrArg some (by omega)
  · intro node listed role r found
    have stored := ((mem_memberNodes ready.keyed).mp (ready.order.mem_iff.mp listed)).1
    unfold k0sRecord at found
    rw [stored] at found
    cases found
    exact role
  · exact (ready.order.map _).nodup_iff.mpr (memberNodes_names ready.keyed)

end Ready

theorem provision_cases (keyed : KeyedByName p.state) {out : Proposer × Except String Unit}
    (ran : provisionAssignments config env net k0s p = out) :
    (k0sRecord out.1.state = k0sRecord p.state ∧ (out.2 = .ok () → memberNodes k0s p.state = [])) ∨
      ∃ plan ordered seeded claims begun a base, Ready net k0s p.state plan ordered seeded claims begun a ∧
        cidrBase net.podCidr = .ok base ∧ ∃ loop, plan.assignNodes config env ordered a.pool
          ((memberNodes k0s p.state).filterMap fun node => node.k0sPodCidr.bind fun cidr => podOrdinal cidr base).toFinset
          a.proposer = loop ∧ k0sRecord out.1.state = k0sRecord loop.1.state ∧ (out.2 = .ok () → loop.2 = .ok ()) := by
  unfold provisionAssignments at ran
  dsimp only at ran
  split at ran
  · next empty =>
    subst ran
    exact .inl ⟨rfl,fun _ => List.isEmpty_iff.mp empty⟩
  · split at ran
    · subst ran
      exact .inl ⟨rfl,fun ok => by cases ok⟩
    · next pool owners host claims survey =>
      have surveyed := surveyMesh_ok survey
      have settled := @settleClaims owners claims config env (surveyed.claims ▸ claims_names keyed) p pool
      split at ran
      · subst ran
        exact .inl ⟨settled.records,fun ok => by cases ok⟩
      next base begins =>
      split at ran
      all_goals
        rename_i looped
        refine .inr ⟨_,_,(pool,owners),claims,⟨p,pool,∅,∅⟩,_,base,
          ⟨keyed,surveyed,settled,⟨rfl,rfl⟩,ordered_perm,rfl,rfl,rfl,rfl⟩,begins,_,looped,?_⟩
      · subst ran
        exact ⟨rfl,fun ok => by cases ok⟩
      · refine ⟨?_,fun _ => rfl⟩
        rw [← ran]
        split
        · rcases Proposer.propose_cases with
            applied | ⟨same,-⟩
          · rw [applied]
            rfl
          · rw [same]
        · rfl

/-- The addresses of the cluster stay unique when the first host is free for a bootstrap without an address of its
own, wherever the run stops; a run that ends with distinct addresses found it free. -/
theorem cluster_addresses_unique (config : Config) (env : Env) (net : ClusterNetworking) (k0s : K0sClusterState) (p : Proposer)
    (keyed : KeyedByName p.state) (mesh : DistinctBy k0s p.state K0sRecord.address)
    (pods : DistinctBy k0s p.state K0sRecord.block) (meshAligned : AlignedCidr net.meshCidr)
    (podAligned : AlignedCidr net.podCidr) :
    (FirstHostFree net k0s p.state → Kept k0s net.podCidr p.state (provisionAssignments config env net k0s p).1.state) ∧
    ((provisionAssignments config env net k0s p).2 = .ok () →
      Kept k0s net.podCidr p.state (provisionAssignments config env net k0s p).1.state → FirstHostFree net k0s p.state) := by
  rcases provision_cases keyed rfl with ⟨same,ended⟩ |
    ⟨plan,ordered,seeded,claims,begun,a,base,ready,begins,loop,looped,same,ended⟩
  · refine ⟨fun _ => (Kept.begin_ mesh pods).congr same,fun ok _ host _ node listed => ?_⟩
    rw [ended ok] at listed
    cases listed
  · refine ⟨fun free => ?_,fun ok kept => ?_⟩
    · have tracks := ready.tracks free meshAligned mesh pods begins
      have kept := @assignNodes_kept config env k0s _ plan _ _ ordered _ tracks (ready.podCidr ▸ podAligned)
      rw [ready.podCidr,looped] at kept
      exact kept.congr same
    · subst looped
      have given := (assignNodes_given ((ready.order.map _).nodup_iff.mpr (memberNodes_names keyed))).2 (ended ok)
      intro host first node listed boot role silent
      obtain rfl : plan.controllerIp = host := Except.ok.inj (ready.surveyed.first.symm.trans first)
      have small := ready.surveyed.small meshAligned
      -- Whoever waits for the first host is a member that has it in the end.
      have gets {name : String} (waits : plan.Waits ordered name) (preset : plan.preset name = some plan.controllerIp) :
          ∃ r, AssignedMember k0s (provisionAssignments config env net k0s p).1.state name r ∧
            r.address = some plan.controllerIp := by
        obtain ⟨r,found,assigned,text⟩ := given name waits _ preset
        obtain ⟨member,there,rfl,-⟩ := waits
        refine ⟨r,⟨?_,((mem_memberNodes keyed).mp (ready.order.mem_iff.mp there)).2,assigned⟩,r.address_format small text⟩
        rw [same]
        exact found
      obtain ⟨waits,preset⟩ := ready.bootstrap_waits listed (boot.trans ready.bootstrap.symm) role silent
      obtain ⟨mine,assigned,address⟩ := gets waits preset
      have unowned (other : Node) (there : other ∈ memberNodes k0s p.state) (holds : other.k0sRole.isSome = true) :
          persistedAddress other ≠ some plan.controllerIp := by
        intro taken
        obtain ⟨stored,member⟩ := (mem_memberNodes keyed).mp there
        have record : k0sRecord p.state other.name = some ⟨other.k0sRole,other.k0sMeshIp,other.k0sPodCidr⟩ := by
          unfold k0sRecord
          rw [stored]
          rfl
        have apart : other.name ≠ node.name := by
          intro shared
          obtain rfl := inj_on_of_nodup_map (memberNodes_names keyed) there listed shared
          rw [role] at holds
          cases holds
        exact kept.mesh _ _ _ mine ⟨kept.earlier _ _ record holds,member,holds⟩ assigned apart _ taken address
      refine ⟨unowned,fun name alone => ?_⟩
      rw [← ready.surveyed.claims] at alone
      have adopts : Adopts _ claims _ name := ⟨(ready.surveyed.owned _).mpr unowned,alone⟩
      obtain ⟨waitsToo,presetToo⟩ := ready.adopter_waits adopts
      obtain ⟨yours,assignedToo,addressToo⟩ := gets waitsToo presetToo
      have apart : name ≠ node.name := by
        rintro rfl
        exact ready.silent_claims_nothing listed silent (alone ▸ mem_cons_self)
      exact kept.mesh name _ yours mine assignedToo assigned apart _ addressToo address

def meshNet : ClusterNetworking := ⟨"10.44.0.0/16","10.42.0.0/16",none⟩

def newcomer (name : String) : Node := Node.new name {}

def twoNewcomers (address : String) : State where
  nodes := ((∅ : Table String Node).insert "a" (newcomer "a")).insert "b"
    { newcomer "b" with wgPubkey := some "key", address := some address }

theorem twoNewcomers_stored {address key : String} {node : Node} (here : (twoNewcomers address).nodes[key]? = some node) :
    node.name = key ∧ node.k0sRole = none := by
  unfold twoNewcomers at here
  rw [find_insert,find_insert] at here
  split at here
  next same =>
    cases here
    exact ⟨same,rfl⟩
  next =>
    split at here
    next same =>
      cases here
      exact ⟨same,rfl⟩
    next => cases here

theorem twoNewcomers_distinct {address : String} : DistinctBy {} (twoNewcomers address) value := by
  intro a b ra rb assigned
  obtain ⟨node,found,rfl⟩ := Option.map_eq_some_iff.mp assigned.1
  have role := assigned.2.2
  rw [(twoNewcomers_stored found).2] at role
  cases role

theorem meshNet_aligned : AlignedCidr meshNet.meshCidr ∧ AlignedCidr meshNet.podCidr := by
  have mesh : cidrParts meshNet.meshCidr = some (10 * 2 ^ 24 + 44 * 2 ^ 16,16) := by decide +kernel
  have pods : cidrParts meshNet.podCidr = some (10 * 2 ^ 24 + 42 * 2 ^ 16,16) := by decide +kernel
  constructor
  · intro base len parts
    cases mesh.symm.trans parts
    decide
  · intro base len parts
    cases pods.symm.trans parts
    decide

theorem cluster_addresses_unique_pair : Kept {} meshNet.podCidr (twoNewcomers "10.44.0.7")
      (provisionAssignments {} (.ordered 0) meshNet {} { state := twoNewcomers "10.44.0.7" }).1.state := by
  refine (cluster_addresses_unique {} _ meshNet {} { state := twoNewcomers _ }
    (fun key node here => (twoNewcomers_stored here).1) twoNewcomers_distinct twoNewcomers_distinct
    meshNet_aligned.1 meshNet_aligned.2).1 ?_
  intro host first node _ _ _ _
  have start : firstHost meshNet.meshCidr = .ok (10 * 2 ^ 24 + 44 * 2 ^ 16 + 1) := by decide +kernel
  obtain rfl := Except.ok.inj (start.symm.trans first)
  constructor
  · decide +kernel
  have nobody : claimantsOf ((memberNodes {} (twoNewcomers "10.44.0.7")).filterMap (claimOf meshNet.meshCidr))
      (10 * 2 ^ 24 + 44 * 2 ^ 16 + 1) = [] := by decide +kernel
  intro name alone
  rw [nobody] at alone
  cases alone

/-- The bootstrap falls back to the first host, which the other newcomer adopts. -/
theorem first_host_given_twice :
    let after := (provisionAssignments {} (.ordered 0) meshNet {} { state := twoNewcomers "10.44.0.1" }).1.state
    (k0sRecord after "a" = some ⟨some .controller,some "10.44.0.1",some "10.42.0.0/24"⟩ ∧
      k0sRecord after "b" = some ⟨some .worker,some "10.44.0.1",some "10.42.1.0/24"⟩) ∧
    ¬DistinctBy {} after K0sRecord.address := by
  have records : k0sRecord (provisionAssignments {} (.ordered 0) meshNet {} { state := twoNewcomers "10.44.0.1" }).1.state "a" =
        some ⟨some .controller,some "10.44.0.1",some "10.42.0.0/24"⟩ ∧
      k0sRecord (provisionAssignments {} (.ordered 0) meshNet {} { state := twoNewcomers "10.44.0.1" }).1.state "b" =
        some ⟨some .worker,some "10.44.0.1",some "10.42.1.0/24"⟩ := by decide +kernel
  refine ⟨records,fun distinct => ?_⟩
  exact distinct "a" "b" _ _ ⟨records.1,rfl,rfl⟩ ⟨records.2,rfl,rfl⟩ (by decide) (10 * 2 ^ 24 + 44 * 2 ^ 16 + 1)
    (by decide +kernel) (by decide +kernel)

end

end Cluster

end Spur
