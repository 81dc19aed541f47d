import Spur.Auth.Replay
import Spur.Library.Wire

/-! The signing bytes of the native credentials, from `native_cred`, with the widths of the wire. -/
namespace Spur.Auth.Signing
open Spur.Library Spur.Library.Wire

def credentialVersion : UInt16 := 1

/-- `SPURCRD1`. -/
def magicTag : Vector UInt8 8 := #v[0x53,0x50,0x55,0x52,0x43,0x52,0x44,0x31]

def userRpcContext : String := "spur/native/user-rpc"

def executionContext : String := "spur/native/execution"

def controllerRpcContext : String := "spur/native/controller-rpc"

def nodeIdentityContext : String := "spur/native/node-identity"

def forwardedIdentityContext : String := "spur/native/forwarded-identity"

def maxStr : Nat := 1024

def maxNodes : Nat := 4096

def maxDevices : Nat := 4096

def maxGids : Nat := 1024

/-- The errors of the encoding and of the claim checks of an execution credential. -/
inductive CredentialError where
  | unsupportedVersion (version : UInt16)
  | malformed (what : String)
  | wrongKind (expected found : CredentialKind)
  | notExecution (found : CredentialKind)
  | clusterMismatch | invalidLifetime | wrongNode | wrongAttempt | resourceMismatch | commandDigestMismatch
  | identityMismatch
  deriving DecidableEq

def CredentialError.message : CredentialError → String
  | unsupportedVersion version => "unsupported credential version " ++ toString version.toNat
  | malformed what => "malformed credential (" ++ what ++ ")"
  | wrongKind expected found => "credential kind is " ++ found.asStr ++ ", expected " ++ expected.asStr
  | notExecution found => "credential kind " ++ found.asStr ++ " is not an execution credential"
  | clusterMismatch => "credential cluster_id mismatch"
  | invalidLifetime => "credential lifetime is invalid"
  | wrongNode => "execution credential does not name this node"
  | wrongAttempt => "execution credential run_attempt mismatch"
  | resourceMismatch => "execution credential resource slice mismatch"
  | commandDigestMismatch => "execution credential command digest mismatch"
  | identityMismatch => "execution credential uid/gid mismatch"

section

def kindByte : CredentialKind → UInt8
  | .userRpc => 1
  | .job => 2
  | .step => 3
  | .controllerRpc => 4
  | .node => 5
  | .forwarded => 6

def kindFromU8 (v : UInt8) : Except CredentialError CredentialKind :=
  match v with
  | 1 => .ok .userRpc
  | 2 => .ok .job
  | 3 => .ok .step
  | 4 => .ok .controllerRpc
  | 5 => .ok .node
  | 6 => .ok .forwarded
  | _ => .error (.malformed "unknown kind")

def isExecution (kind : CredentialKind) : Bool := kind == .job || kind == .step

end

section

def textBytes (s : String) : Bytes := s.toUTF8.data.toList

def writeU8 (v : UInt8) : ByteWriter CredentialError Unit := put [v]

def writeU16 (v : UInt16) : ByteWriter CredentialError Unit := put (bigEndian 2 v.toNat)

def writeU32 (v : UInt32) : ByteWriter CredentialError Unit := put (bigEndian 4 v.toNat)

def writeU64 (v : UInt64) : ByteWriter CredentialError Unit := put (bigEndian 8 v.toNat)

def writeFixed {n : Nat} (bytes : Vector UInt8 n) : ByteWriter CredentialError Unit := put bytes.toList

def writeLen (len : Nat) (what : String) : ByteWriter CredentialError Unit := do
  ensure (len ≤ u32Max) (.malformed what)
  writeU32 (UInt32.ofNat len)

def writeStr (s : String) : ByteWriter CredentialError Unit := do
  ensure ((textBytes s).length ≤ maxStr) (.malformed "field too long")
  writeLen (textBytes s).length "field too long"
  put (textBytes s)

def truncated : CredentialError := .malformed "truncated"

def readU8 : ByteReader CredentialError UInt8 := do
  let bytes ← take truncated 1
  return bytes.headD 0

def readU16 : ByteReader CredentialError UInt16 := do
  let bytes ← take truncated 2
  return UInt16.ofNat (ofBigEndian bytes)

def readU32 : ByteReader CredentialError UInt32 := do
  let bytes ← take truncated 4
  return UInt32.ofNat (ofBigEndian bytes)

def readU64 : ByteReader CredentialError UInt64 := do
  let bytes ← take truncated 8
  return UInt64.ofNat (ofBigEndian bytes)

def readFixed (n : Nat) : ByteReader CredentialError (Vector UInt8 n) := do
  let bytes ← take truncated n
  if exactly : bytes.toArray.size = n then return ⟨bytes.toArray,exactly⟩ else throw truncated

def readStr : ByteReader CredentialError String := do
  let len ← readU32
  ensure (len.toNat ≤ maxStr) (.malformed "field too long")
  let bytes ← take truncated len.toNat
  match String.fromUTF8? ⟨bytes.toArray⟩ with
  | some s => return s
  | none => throw (.malformed "invalid utf-8")

def finish : ByteReader CredentialError Unit := do
  let rest ← get
  ensure rest.isEmpty (.malformed "trailing bytes")

def writeHeader (kind : CredentialKind) : ByteWriter CredentialError Unit := do
  writeFixed magicTag
  writeU16 credentialVersion
  writeU8 (kindByte kind)

def readHeader : ByteReader CredentialError CredentialKind := do
  let tag ← readFixed 8
  ensure (tag == magicTag) (.malformed "bad magic")
  let version ← readU16
  ensure (version == credentialVersion) (.unsupportedVersion version)
  let byte ← readU8
  kindFromU8 byte

def readContext (context : String) : ByteReader CredentialError Unit := do
  let found ← readStr
  ensure (found == context) (.malformed "protocol_context")

def peekKind (bytes : Bytes) : Except CredentialError CredentialKind := (readHeader.run bytes).map Prod.fst

def requireNonempty (what s : String) : Except CredentialError Unit :=
  if s.isEmpty then .error (.malformed what)
  else if (textBytes s).length > maxStr then .error (.malformed "field too long")
  else .ok ()

def requireLifetime (issuedAt expiresAt : UInt64) : Except CredentialError Unit :=
  if expiresAt ≤ issuedAt then .error .invalidLifetime else .ok ()

end

def signed (checks : Except CredentialError Unit) (w : ByteWriter CredentialError Unit) : Except CredentialError Bytes := do
  checks
  let written ← w.run []
  return written.2

def decoded {α : Type} (r : ByteReader CredentialError α) (validate : α → Except CredentialError Unit) (bytes : Bytes) :
    Except CredentialError α := do
  let read ← (do let cred ← r; finish; return cred : ByteReader CredentialError α).run bytes
  validate read.1
  return read.1

def readOf (expected : CredentialKind) (context : String) : ByteReader CredentialError Unit := do
  let kind ← readHeader
  ensure (kind == expected) (.wrongKind expected kind)
  readContext context

structure UserRpcCredential where
  clusterId : String
  issuerHost : String
  audience : String
  audienceEpoch : UInt64
  user : String
  uid : UInt32
  gid : UInt32
  issuedAt : UInt64
  expiresAt : UInt64
  nonce : Vector UInt8 16
  keyId : String
  deriving DecidableEq

namespace UserRpcCredential

def validate (cred : UserRpcCredential) : Except CredentialError Unit := do
  requireNonempty "cluster_id" cred.clusterId
  requireNonempty "issuer_host" cred.issuerHost
  requireNonempty "audience" cred.audience
  requireNonempty "user" cred.user
  requireNonempty "key_id" cred.keyId
  requireLifetime cred.issuedAt cred.expiresAt

def write (cred : UserRpcCredential) : ByteWriter CredentialError Unit := do
  writeHeader .userRpc
  writeStr userRpcContext
  writeStr cred.clusterId
  writeStr cred.issuerHost
  writeStr cred.audience
  writeU64 cred.audienceEpoch
  writeStr cred.user
  writeU32 cred.uid
  writeU32 cred.gid
  writeU64 cred.issuedAt
  writeU64 cred.expiresAt
  writeFixed cred.nonce
  writeStr cred.keyId

def toSigningBytes (cred : UserRpcCredential) : Except CredentialError Bytes := signed cred.validate cred.write

def read : ByteReader CredentialError UserRpcCredential := do
  readOf .userRpc userRpcContext
  let clusterId ← readStr
  let issuerHost ← readStr
  let audience ← readStr
  let audienceEpoch ← readU64
  let user ← readStr
  let uid ← readU32
  let gid ← readU32
  let issuedAt ← readU64
  let expiresAt ← readU64
  let nonce ← readFixed 16
  let keyId ← readStr
  return { clusterId, issuerHost, audience, audienceEpoch, user, uid, gid, issuedAt, expiresAt, nonce, keyId }

def fromSigningBytes (bytes : Bytes) : Except CredentialError UserRpcCredential := decoded read validate bytes

end UserRpcCredential

structure ForwardedIdentity where
  clusterId : String
  sourceControllerId : UInt64
  destLeaderId : UInt64
  term : UInt64
  user : String
  uid : UInt32
  gid : UInt32
  trustedUnix : Bool
  isAdmin : Bool
  action : String
  requestDigest : Vector UInt8 32
  issuedAt : UInt64
  expiresAt : UInt64
  nonce : Vector UInt8 16
  keyId : String
  deriving DecidableEq

namespace ForwardedIdentity

def validate (cred : ForwardedIdentity) : Except CredentialError Unit := do
  requireNonempty "cluster_id" cred.clusterId
  requireNonempty "user" cred.user
  requireNonempty "action" cred.action
  requireNonempty "key_id" cred.keyId
  requireLifetime cred.issuedAt cred.expiresAt

def write (cred : ForwardedIdentity) : ByteWriter CredentialError Unit := do
  writeHeader .forwarded
  writeStr forwardedIdentityContext
  writeStr cred.clusterId
  writeU64 cred.sourceControllerId
  writeU64 cred.destLeaderId
  writeU64 cred.term
  writeStr cred.user
  writeU32 cred.uid
  writeU32 cred.gid
  writeU8 cred.trustedUnix.toUInt8
  writeU8 cred.isAdmin.toUInt8
  writeStr cred.action
  writeFixed cred.requestDigest
  writeU64 cred.issuedAt
  writeU64 cred.expiresAt
  writeFixed cred.nonce
  writeStr cred.keyId

def toSigningBytes (cred : ForwardedIdentity) : Except CredentialError Bytes := signed cred.validate cred.write

def read : ByteReader CredentialError ForwardedIdentity := do
  readOf .forwarded forwardedIdentityContext
  let clusterId ← readStr
  let sourceControllerId ← readU64
  let destLeaderId ← readU64
  let term ← readU64
  let user ← readStr
  let uid ← readU32
  let gid ← readU32
  let trustedUnix ← readU8
  let isAdmin ← readU8
  let action ← readStr
  let requestDigest ← readFixed 32
  let issuedAt ← readU64
  let expiresAt ← readU64
  let nonce ← readFixed 16
  let keyId ← readStr
  return {
    clusterId, sourceControllerId, destLeaderId, term, user, uid, gid, trustedUnix := trustedUnix != 0,
    isAdmin := isAdmin != 0, action, requestDigest, issuedAt, expiresAt, nonce, keyId }

def fromSigningBytes (bytes : Bytes) : Except CredentialError ForwardedIdentity := decoded read validate bytes

end ForwardedIdentity

structure ControllerRpcCredential where
  clusterId : String
  audience : String
  audienceEpoch : UInt64
  issuedAt : UInt64
  expiresAt : UInt64
  nonce : Vector UInt8 16
  keyId : String
  deriving DecidableEq

namespace ControllerRpcCredential

def validate (cred : ControllerRpcCredential) : Except CredentialError Unit := do
  requireNonempty "cluster_id" cred.clusterId
  requireNonempty "audience" cred.audience
  requireNonempty "key_id" cred.keyId
  requireLifetime cred.issuedAt cred.expiresAt

def write (cred : ControllerRpcCredential) : ByteWriter CredentialError Unit := do
  writeHeader .controllerRpc
  writeStr controllerRpcContext
  writeStr cred.clusterId
  writeStr cred.audience
  writeU64 cred.audienceEpoch
  writeU64 cred.issuedAt
  writeU64 cred.expiresAt
  writeFixed cred.nonce
  writeStr cred.keyId

def toSigningBytes (cred : ControllerRpcCredential) : Except CredentialError Bytes := signed cred.validate cred.write

def read : ByteReader CredentialError ControllerRpcCredential := do
  readOf .controllerRpc controllerRpcContext
  let clusterId ← readStr
  let audience ← readStr
  let audienceEpoch ← readU64
  let issuedAt ← readU64
  let expiresAt ← readU64
  let nonce ← readFixed 16
  let keyId ← readStr
  return { clusterId, audience, audienceEpoch, issuedAt, expiresAt, nonce, keyId }

def fromSigningBytes (bytes : Bytes) : Except CredentialError ControllerRpcCredential := decoded read validate bytes

end ControllerRpcCredential

structure NodeIdentityCredential where
  clusterId : String
  hostname : String
  audience : String
  issuedAt : UInt64
  expiresAt : UInt64
  keyId : String
  deriving DecidableEq

namespace NodeIdentityCredential

def validate (cred : NodeIdentityCredential) : Except CredentialError Unit := do
  requireNonempty "cluster_id" cred.clusterId
  requireNonempty "hostname" cred.hostname
  requireNonempty "audience" cred.audience
  requireNonempty "key_id" cred.keyId
  requireLifetime cred.issuedAt cred.expiresAt

def write (cred : NodeIdentityCredential) : ByteWriter CredentialError Unit := do
  writeHeader .node
  writeStr nodeIdentityContext
  writeStr cred.clusterId
  writeStr cred.hostname
  writeStr cred.audience
  writeU64 cred.issuedAt
  writeU64 cred.expiresAt
  writeStr cred.keyId

def toSigningBytes (cred : NodeIdentityCredential) : Except CredentialError Bytes := signed cred.validate cred.write

def read : ByteReader CredentialError NodeIdentityCredential := do
  readOf .node nodeIdentityContext
  let clusterId ← readStr
  let hostname ← readStr
  let audience ← readStr
  let issuedAt ← readU64
  let expiresAt ← readU64
  let keyId ← readStr
  return { clusterId, hostname, audience, issuedAt, expiresAt, keyId }

def fromSigningBytes (bytes : Bytes) : Except CredentialError NodeIdentityCredential := decoded read validate bytes

end NodeIdentityCredential

structure DeviceSlice where
  name : String
  deviceId : UInt64
  count : UInt64
  deriving DecidableEq

structure NodeResourceSlice where
  node : String
  cpus : UInt32
  memoryMb : UInt64
  devices : List DeviceSlice
  deriving DecidableEq

structure ExecutionCredential where
  kind : CredentialKind
  clusterId : String
  keyId : String
  jobId : UInt32
  stepId : UInt32
  runAttempt : UInt32
  user : String
  uid : UInt32
  gid : UInt32
  supplementaryGids : List UInt32
  account : String
  partition_ : String
  qos : String
  resourcesByNode : List NodeResourceSlice
  commandDigest : Vector UInt8 32
  containerDigest : Option (Vector UInt8 32)
  issuedAt : UInt64
  notBefore : UInt64
  expiresAt : UInt64
  credentialId : Vector UInt8 16
  deriving DecidableEq

def DeviceSlice.cmp (a b : DeviceSlice) : Ordering :=
  (compare a.name b.name).then ((compare a.deviceId b.deviceId).then (compare a.count b.count))

def DeviceSlice.write (dev : DeviceSlice) : ByteWriter CredentialError Unit := do
  writeStr dev.name
  writeU64 dev.deviceId
  writeU64 dev.count

def DeviceSlice.read : ByteReader CredentialError DeviceSlice := do
  let name ← readStr
  let deviceId ← readU64
  let count ← readU64
  return { name, deviceId, count }

namespace NodeResourceSlice

def sorted (node : NodeResourceSlice) : NodeResourceSlice :=
  { node with devices := node.devices.insertionSort fun a b => (a.cmp b).isLE }

def write (node : NodeResourceSlice) : ByteWriter CredentialError Unit := do
  writeStr node.node
  writeU32 node.cpus
  writeU64 node.memoryMb
  writeLen node.devices.length "devices"
  node.devices.forM DeviceSlice.write

def read : ByteReader CredentialError NodeResourceSlice := do
  let node ← readStr
  let cpus ← readU32
  let memoryMb ← readU64
  let devN ← readU32
  ensure (devN.toNat ≤ maxDevices) (.malformed "devices")
  let devices ← readMany DeviceSlice.read devN.toNat
  return { node, cpus, memoryMb, devices }

end NodeResourceSlice

def validateNodes (names : List String) : List NodeResourceSlice → Except CredentialError Unit
  | [] => .ok ()
  | node :: rest => do
    requireNonempty "node" node.node
    if names.contains node.node then throw (.malformed "duplicate node")
    else if node.devices.length > maxDevices then throw (.malformed "devices")
    else do
      node.devices.forM fun dev => requireNonempty "device" dev.name
      validateNodes (node.node :: names) rest

namespace ExecutionCredential

def canonical (cred : ExecutionCredential) : ExecutionCredential :=
  { cred with
    supplementaryGids := (cred.supplementaryGids.insertionSort (· ≤ ·)).destutter (· ≠ ·)
    resourcesByNode := (cred.resourcesByNode.map NodeResourceSlice.sorted).insertionSort fun a b => a.node ≤ b.node }

def validateClaims (cred : ExecutionCredential) : Except CredentialError Unit :=
  if !isExecution cred.kind then throw (.malformed "execution kind")
  else do
    requireNonempty "cluster_id" cred.clusterId
    requireNonempty "key_id" cred.keyId
    requireNonempty "user" cred.user
    if cred.resourcesByNode.isEmpty then throw (.malformed "nodes")
    else if cred.resourcesByNode.length > maxNodes then throw (.malformed "nodes")
    else if cred.supplementaryGids.length > maxGids then throw (.malformed "gids")
    else pure ()

def validate (cred : ExecutionCredential) : Except CredentialError Unit := do
  cred.validateClaims
  validateNodes [] cred.resourcesByNode
  if cred.expiresAt ≤ cred.issuedAt ∨ cred.notBefore > cred.expiresAt then throw .invalidLifetime else pure ()

def writeContainerDigest : Option (Vector UInt8 32) → ByteWriter CredentialError Unit
  | none => writeU8 0
  | some digest => do
    writeU8 1
    writeFixed digest

def readContainerDigest : ByteReader CredentialError (Option (Vector UInt8 32)) := do
  let tag ← readU8
  match tag with
  | 0 => return none
  | 1 => do
    let digest ← readFixed 32
    return some digest
  | _ => throw (.malformed "container_digest")

def write (cred : ExecutionCredential) : ByteWriter CredentialError Unit := do
  writeHeader cred.kind
  writeStr executionContext
  writeStr cred.clusterId
  writeStr cred.keyId
  writeU32 cred.jobId
  writeU32 cred.stepId
  writeU32 cred.runAttempt
  writeStr cred.user
  writeU32 cred.uid
  writeU32 cred.gid
  writeLen cred.supplementaryGids.length "gids"
  cred.supplementaryGids.forM writeU32
  writeStr cred.account
  writeStr cred.partition_
  writeStr cred.qos
  writeLen cred.resourcesByNode.length "nodes"
  cred.resourcesByNode.forM NodeResourceSlice.write
  writeFixed cred.commandDigest
  writeContainerDigest cred.containerDigest
  writeU64 cred.issuedAt
  writeU64 cred.notBefore
  writeU64 cred.expiresAt
  writeFixed cred.credentialId

def toSigningBytes (cred : ExecutionCredential) : Except CredentialError Bytes :=
  signed cred.canonical.validate cred.canonical.write

def read : ByteReader CredentialError ExecutionCredential := do
  let kind ← readHeader
  ensure (isExecution kind) (.notExecution kind)
  readContext executionContext
  let clusterId ← readStr
  let keyId ← readStr
  let jobId ← readU32
  let stepId ← readU32
  let runAttempt ← readU32
  let user ← readStr
  let uid ← readU32
  let gid ← readU32
  let gidN ← readU32
  ensure (gidN.toNat ≤ maxGids) (.malformed "gids")
  let supplementaryGids ← readMany readU32 gidN.toNat
  let account ← readStr
  let partition_ ← readStr
  let qos ← readStr
  let nodeN ← readU32
  ensure (nodeN.toNat ≠ 0 && nodeN.toNat ≤ maxNodes) (.malformed "nodes")
  let resourcesByNode ← readMany NodeResourceSlice.read nodeN.toNat
  let commandDigest ← readFixed 32
  let containerDigest ← readContainerDigest
  let issuedAt ← readU64
  let notBefore ← readU64
  let expiresAt ← readU64
  let credentialId ← readFixed 16
  return {
    kind, clusterId, keyId, jobId, stepId, runAttempt, user, uid, gid, supplementaryGids, account, partition_, qos,
    resourcesByNode, commandDigest, containerDigest, issuedAt, notBefore, expiresAt, credentialId }

def fromSigningBytes (bytes : Bytes) : Except CredentialError ExecutionCredential := decoded read validate bytes

end ExecutionCredential

inductive Credential where
  | userRpc (cred : UserRpcCredential)
  | forwarded (cred : ForwardedIdentity)
  | controllerRpc (cred : ControllerRpcCredential)
  | node (cred : NodeIdentityCredential)
  | execution (cred : ExecutionCredential)
  deriving DecidableEq

inductive Format where
  | userRpc | forwarded | controllerRpc | node | execution
  deriving DecidableEq

namespace Credential

def format : Credential → Format
  | userRpc _ => .userRpc
  | forwarded _ => .forwarded
  | controllerRpc _ => .controllerRpc
  | node _ => .node
  | execution _ => .execution

/-- The credential as it is signed: only an execution credential has lists that are put in order. -/
def canonical : Credential → Credential
  | execution cred => .execution cred.canonical
  | userRpc cred => .userRpc cred
  | forwarded cred => .forwarded cred
  | controllerRpc cred => .controllerRpc cred
  | node cred => .node cred

def toSigningBytes : Credential → Except CredentialError Bytes
  | userRpc cred => cred.toSigningBytes
  | forwarded cred => cred.toSigningBytes
  | controllerRpc cred => cred.toSigningBytes
  | node cred => cred.toSigningBytes
  | execution cred => cred.toSigningBytes

def fromSigningBytes (bytes : Bytes) : Format → Except CredentialError Credential
  | .userRpc => (UserRpcCredential.fromSigningBytes bytes).map .userRpc
  | .forwarded => (ForwardedIdentity.fromSigningBytes bytes).map .forwarded
  | .controllerRpc => (ControllerRpcCredential.fromSigningBytes bytes).map .controllerRpc
  | .node => (NodeIdentityCredential.fromSigningBytes bytes).map .node
  | .execution => (ExecutionCredential.fromSigningBytes bytes).map .execution

end Credential

end Spur.Auth.Signing
