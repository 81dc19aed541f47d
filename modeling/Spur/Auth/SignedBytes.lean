import Spur.Auth.Signing

/-! The signing bytes of a credential decode to its canonical form and to nothing else. -/
namespace Spur.Auth.Signing
open Spur.Library Spur.Library.Fallible Spur.Library.Wire

variable {w : ByteWriter CredentialError Unit} {kind : CredentialKind}

section

theorem carries_bytes {bytes : Bytes} {n : Nat} (len : bytes.length = n) :
    Carries (put bytes) (take truncated n) bytes := by
  subst len
  exact Carries.put fun rest => take_append

theorem carries_u8 {v : UInt8} : Carries (writeU8 v) readU8 v :=
  Carries.last (carries_bytes rfl)

theorem carries_number {α : Type} {width n : Nat} (f : Nat → α) (fits : n < 256 ^ width) :
    Carries (put (bigEndian width n)) (do let bytes ← take truncated width; return f (ofBigEndian bytes)) (f n) := by
  have carries := Carries.last (f := fun bytes => f (ofBigEndian bytes)) (carries_bytes (length_bigEndian width n))
  rw [ofBigEndian_bigEndian fits] at carries
  exact carries

theorem carries_u16 {v : UInt16} : Carries (writeU16 v) readU16 v := by
  have carries := @carries_number _ 2 _ UInt16.ofNat v.toNat_lt
  rw [UInt16.ofNat_toNat] at carries
  exact carries

theorem carries_u32 {v : UInt32} : Carries (writeU32 v) readU32 v := by
  have carries := @carries_number _ 4 _ UInt32.ofNat v.toNat_lt
  rw [UInt32.ofNat_toNat] at carries
  exact carries

theorem carries_u64 {v : UInt64} : Carries (writeU64 v) readU64 v := by
  have carries := @carries_number _ 8 _ UInt64.ofNat v.toNat_lt
  rw [UInt64.ofNat_toNat] at carries
  exact carries

theorem carries_fixed {n : Nat} {bytes : Vector UInt8 n} : Carries (writeFixed bytes) (readFixed n) bytes := by
  refine Carries.put fun rest => ?_
  have taken := @take_append _ truncated bytes.toList rest
  rw [Vector.length_toList] at taken
  unfold readFixed
  rw [Carries.run_bind taken,dif_pos _]
  rfl

theorem toNat_len {len : Nat} (fits : len ≤ u32Max) : (UInt32.ofNat len).toNat = len := by
  rw [UInt32.toNat_ofNat']
  unfold u32Max at fits
  omega

theorem carries_len {len : Nat} {what : String} : Carries (writeLen len what) readU32 (UInt32.ofNat len) :=
  Carries.checked fun _ => carries_u32

theorem fromUTF8?_textBytes (s : String) : String.fromUTF8? ⟨(textBytes s).toArray⟩ = some s := by
  have whole : (⟨(textBytes s).toArray⟩ : ByteArray) = s.toByteArray := rfl
  unfold String.fromUTF8?
  rw [whole,dif_pos _]
  rfl

theorem carries_str {s : String} : Carries (writeStr s) readStr s := by
  refine Carries.checked fun short => ?_
  have fits := of_decide_eq_true short
  refine Carries.bind carries_len ?_
  rw [toNat_len (fits.trans (by decide))]
  refine Carries.ensure short (Carries.put fun rest => ?_)
  rw [Carries.run_bind take_append,fromUTF8?_textBytes]
  rfl

theorem carries_header {kind : CredentialKind} : Carries (writeHeader kind) readHeader kind := by
  refine Carries.bind carries_fixed (Carries.ensure (by decide) ?_)
  refine Carries.bind carries_u16 (Carries.ensure (by decide) ?_)
  intro before after wrote
  obtain ⟨new,rfl,read⟩ := carries_u8 before after wrote
  refine ⟨new,rfl,fun rest => ?_⟩
  rw [Carries.run_bind (read rest)]
  cases kind <;> rfl

theorem carries_context {context : String} : Carries (writeStr context) (readContext context) () := by
  intro before after wrote
  obtain ⟨new,rfl,read⟩ := carries_str before after wrote
  refine ⟨new,rfl,fun rest => ?_⟩
  unfold readContext
  rw [Carries.run_bind (read rest),beq_self_eq_true]
  rfl

theorem carries_opened {α : Type} {context : String}
    {r : ByteReader CredentialError α} {a : α} (carries : Carries w r a) :
    Carries (do writeHeader kind; writeStr context; w) (do readOf kind context; r) a := by
  unfold readOf
  simp only [bind_assoc]
  refine Carries.bind carries_header (Carries.ensure (beq_self_eq_true kind) ?_)
  exact Carries.bind carries_context carries

end

section

theorem UserRpcCredential.carries (cred : UserRpcCredential) : Carries cred.write read cred :=
  carries_opened <| .bind carries_str <| .bind carries_str <| .bind carries_str <| .bind carries_u64 <|
    .bind carries_str <| .bind carries_u32 <| .bind carries_u32 <| .bind carries_u64 <|
    .bind carries_u64 <| .bind carries_fixed <| .last carries_str

theorem toUInt8_ne_zero (flag : Bool) : (flag.toUInt8 != 0) = flag := by
  cases flag <;> rfl

theorem ForwardedIdentity.carries (cred : ForwardedIdentity) : Carries cred.write read cred := by
  have fields : Carries cred.write read _ :=
    carries_opened <| .bind carries_str <| .bind carries_u64 <| .bind carries_u64 <|
      .bind carries_u64 <| .bind carries_str <| .bind carries_u32 <| .bind carries_u32 <|
      .bind carries_u8 <| .bind carries_u8 <| .bind carries_str <| .bind carries_fixed <|
      .bind carries_u64 <| .bind carries_u64 <| .bind carries_fixed <| .last carries_str
  rw [toUInt8_ne_zero,toUInt8_ne_zero] at fields
  exact fields

theorem ControllerRpcCredential.carries (cred : ControllerRpcCredential) : Carries cred.write read cred :=
  carries_opened <| .bind carries_str <| .bind carries_str <| .bind carries_u64 <| .bind carries_u64 <|
    .bind carries_u64 <| .bind carries_fixed <| .last carries_str

theorem NodeIdentityCredential.carries (cred : NodeIdentityCredential) : Carries cred.write read cred :=
  carries_opened <| .bind carries_str <| .bind carries_str <| .bind carries_str <| .bind carries_u64 <|
    .bind carries_u64 <| .last carries_str

theorem DeviceSlice.carries (dev : DeviceSlice) : Carries dev.write read dev :=
  .bind carries_str <| .bind carries_u64 <| .last carries_u64

theorem NodeResourceSlice.carries {node : NodeResourceSlice} (bounded : node.devices.length ≤ maxDevices) :
    Carries node.write read node := by
  refine .bind carries_str <| .bind carries_u32 <| .bind carries_u64 <| .bind carries_len ?_
  rw [toNat_len (bounded.trans (by decide))]
  exact .ensure (decide_eq_true bounded) <| .last <| .forM fun dev _ => dev.carries

namespace ExecutionCredential

theorem carries_containerDigest {digest : Option (Vector UInt8 32)} :
    Carries (writeContainerDigest digest) readContainerDigest digest := by
  cases digest with
  | none =>
    intro before after wrote
    obtain ⟨new,rfl,read⟩ := carries_u8 before after wrote
    exact ⟨new,rfl,fun rest => Carries.run_bind (read rest)⟩
  | some digest => exact .bind carries_u8 <| .last carries_fixed

structure Bounded (cred : ExecutionCredential) : Prop where
  execution : isExecution cred.kind = true
  some_ : cred.resourcesByNode ≠ []
  nodes : cred.resourcesByNode.length ≤ maxNodes
  gids : cred.supplementaryGids.length ≤ maxGids
  devices : ∀ node ∈ cred.resourcesByNode, node.devices.length ≤ maxDevices

theorem carries {cred : ExecutionCredential} (bounded : cred.Bounded) : Carries cred.write read cred := by
  refine .bind carries_header <| .ensure bounded.execution <| .bind carries_context <|
    .bind carries_str <| .bind carries_str <| .bind carries_u32 <| .bind carries_u32 <|
    .bind carries_u32 <| .bind carries_str <| .bind carries_u32 <| .bind carries_u32 <|
    .bind carries_len ?_
  rw [toNat_len (bounded.gids.trans (by decide))]
  refine .ensure (decide_eq_true bounded.gids) <| .bind (.forM fun gid _ => carries_u32) <|
    .bind carries_str <| .bind carries_str <| .bind carries_str <| .bind carries_len ?_
  rw [toNat_len (bounded.nodes.trans (by decide))]
  have listed : (cred.resourcesByNode.length ≠ 0 && cred.resourcesByNode.length ≤ maxNodes : Bool) = true := by
    simp [bounded.some_,bounded.nodes]
  exact .ensure listed <| .bind (.forM fun node member => NodeResourceSlice.carries (bounded.devices node member)) <|
    .bind carries_fixed <| .bind carries_containerDigest <| .bind carries_u64 <| .bind carries_u64 <|
    .bind carries_u64 <| .last carries_fixed

end ExecutionCredential

end

section

theorem decoded_of_signed {α : Type} {checks : Except CredentialError Unit}
    {r : ByteReader CredentialError α} {validate : α → Except CredentialError Unit} {a : α} {bytes : Bytes}
    (carries : Carries w r a) (valid : validate a = .ok ()) (encodes : signed checks w = .ok bytes) :
    decoded r validate bytes = .ok a := by
  obtain ⟨-,-,encodes⟩ := bind_ok.mp encodes
  obtain ⟨⟨⟨⟩,written⟩,wrote,same⟩ := bind_ok.mp encodes
  cases same
  have whole : (do let cred ← r; finish; return cred : ByteReader _ α).run written = .ok (a,[]) := by
    rw [Carries.run_bind (carries.read_all wrote)]
    rfl
  unfold decoded
  rw [whole]
  change (validate a >>= fun _ => .ok a) = _
  rw [valid]
  rfl

theorem checks_of_signed {checks : Except CredentialError Unit} {bytes : Bytes}
    (encodes : signed checks w = .ok bytes) : checks = .ok () := by
  obtain ⟨⟨⟩,passed,-⟩ := bind_ok.mp encodes
  exact passed

theorem devices_of_validateNodes {names : List String} {nodes : List NodeResourceSlice}
    (valid : validateNodes names nodes = .ok ()) : ∀ node ∈ nodes, node.devices.length ≤ maxDevices := by
  induction nodes generalizing names with
  | nil => exact fun node listed => nomatch listed
  | cons first nodes ih =>
    obtain ⟨-,-,valid⟩ := bind_ok.mp valid
    split at valid
    · cases valid
    split at valid
    · cases valid
    · next bounded =>
      obtain ⟨-,-,later⟩ := bind_ok.mp valid
      intro node listed
      rcases List.mem_cons.mp listed with rfl | listed
      · exact Nat.le_of_not_lt bounded
      · exact ih later node listed

theorem ExecutionCredential.bounded_of_validate {cred : ExecutionCredential} (valid : cred.validate = .ok ()) :
    cred.Bounded := by
  obtain ⟨⟨⟩,claims,valid⟩ := bind_ok.mp valid
  obtain ⟨⟨⟩,nodes,-⟩ := bind_ok.mp valid
  unfold validateClaims at claims
  split at claims
  · cases claims
  next execution =>
  obtain ⟨-,-,claims⟩ := bind_ok.mp claims
  obtain ⟨-,-,claims⟩ := bind_ok.mp claims
  obtain ⟨-,-,claims⟩ := bind_ok.mp claims
  split at claims
  · cases claims
  next some_ =>
  split at claims
  · cases claims
  next few =>
  split at claims
  · cases claims
  next gids =>
  exact {
    execution := by simpa using execution
    some_ := by simpa using some_
    nodes := Nat.le_of_not_lt few
    gids := Nat.le_of_not_lt gids
    devices := devices_of_validateNodes nodes }

theorem Credential.decodes {cred : Credential} {bytes : Bytes} (encodes : cred.toSigningBytes = .ok bytes) :
    fromSigningBytes bytes cred.format = .ok cred.canonical := by
  cases cred with
  | userRpc cred =>
    exact congrArg (Except.map userRpc) (decoded_of_signed cred.carries (checks_of_signed encodes) encodes)
  | forwarded cred =>
    exact congrArg (Except.map forwarded) (decoded_of_signed cred.carries (checks_of_signed encodes) encodes)
  | controllerRpc cred =>
    exact congrArg (Except.map _) (decoded_of_signed cred.carries (checks_of_signed encodes) encodes)
  | node cred =>
    exact congrArg (Except.map node) (decoded_of_signed cred.carries (checks_of_signed encodes) encodes)
  | execution cred =>
    have valid := checks_of_signed encodes
    have bounded := ExecutionCredential.bounded_of_validate valid
    exact congrArg (Except.map execution) (decoded_of_signed (ExecutionCredential.carries bounded) valid encodes)

end

section

def Format.accepts : Format → CredentialKind → Bool
  | userRpc,kind => kind == .userRpc
  | forwarded,kind => kind == .forwarded
  | controllerRpc,kind => kind == .controllerRpc
  | node,kind => kind == .node
  | execution,kind => isExecution kind

def Format.refusal : Format → CredentialKind → CredentialError
  | userRpc,kind => .wrongKind .userRpc kind
  | forwarded,kind => .wrongKind .forwarded kind
  | controllerRpc,kind => .wrongKind .controllerRpc kind
  | node,kind => .wrongKind .node kind
  | execution,kind => .notExecution kind

theorem Format.accepts_disjoint {format other : Format} (differ : other ≠ format)
    (accepts : format.accepts kind = true) : other.accepts kind = false := by
  revert differ accepts
  cases format <;> cases other <;> cases kind <;> decide

def Format.Opens {α : Type} (format : Format) (r : ByteReader CredentialError α) : Prop :=
  ∃ f : CredentialKind → ByteReader CredentialError α, r = do
    let kind ← readHeader
    ensure (format.accepts kind) (format.refusal kind)
    f kind

theorem Format.opens_readOf {α : Type} {format : Format} {expected : CredentialKind} {context : String}
    {rest : ByteReader CredentialError α} (takes : format.accepts = (· == expected))
    (refuses : format.refusal = .wrongKind expected) : format.Opens (do readOf expected context; rest) := by
  refine ⟨fun _ => do readContext context; rest,?_⟩
  unfold readOf
  rw [takes,refuses]
  simp only [bind_assoc]

variable {α : Type} {validate : α → Except CredentialError Unit} {format : Format}
  {r : ByteReader CredentialError α} {bytes : Bytes}

theorem run_error {β γ : Type} {x : ByteReader CredentialError γ} {f : γ → ByteReader CredentialError β}
    {e : CredentialError} (failed : x.run bytes = .error e) : (x >>= f).run bytes = .error e := by
  rw [StateT.run_bind,failed]
  rfl

theorem Format.Opens.kind_of_decoded {a : α} (opens : format.Opens r) (read : decoded r validate bytes = .ok a) :
    ∃ kind left, readHeader.run bytes = .ok (kind,left) ∧ format.accepts kind = true := by
  obtain ⟨f,rfl⟩ := opens
  obtain ⟨result,done,-⟩ := bind_ok.mp read
  simp only [bind_assoc] at done
  cases header : readHeader.run bytes with
  | error e =>
    rw [run_error header] at done
    cases done
  | ok answer =>
    obtain ⟨kind,left⟩ := answer
    rw [Carries.run_bind header] at done
    cases taken : format.accepts kind with
    | true => exact ⟨kind,left,rfl,taken⟩
    | false =>
      rw [taken] at done
      cases done

theorem Format.Opens.decoded_of_kind (opens : format.Opens r) {left : Bytes}
    (header : readHeader.run bytes = .ok (kind,left)) (other : format.accepts kind = false) :
    decoded r validate bytes = .error (format.refusal kind) := by
  obtain ⟨f,rfl⟩ := opens
  unfold decoded
  simp only [bind_assoc]
  rw [Carries.run_bind header,other]
  rfl

end

section

theorem UserRpcCredential.opens : Format.userRpc.Opens read := Format.opens_readOf rfl rfl

theorem ForwardedIdentity.opens : Format.forwarded.Opens read := Format.opens_readOf rfl rfl

theorem ControllerRpcCredential.opens : Format.controllerRpc.Opens read := Format.opens_readOf rfl rfl

theorem NodeIdentityCredential.opens : Format.node.Opens read := Format.opens_readOf rfl rfl

theorem ExecutionCredential.opens : Format.execution.Opens read := ⟨_,rfl⟩

variable {bytes : Bytes}

theorem map_ok {ε α β : Type} {x : Except ε α} {f : α → β} {b : β} (done : x.map f = .ok b) : ∃ a, x = .ok a := by
  cases x with
  | error e => cases done
  | ok a => exact ⟨a,rfl⟩

theorem kind_of_decoder {format : Format} {cred : Credential}
    (read : Credential.fromSigningBytes bytes format = .ok cred) :
    ∃ kind left, readHeader.run bytes = .ok (kind,left) ∧ format.accepts kind = true := by
  cases format with
  | userRpc => exact UserRpcCredential.opens.kind_of_decoded (map_ok read).choose_spec
  | forwarded => exact ForwardedIdentity.opens.kind_of_decoded (map_ok read).choose_spec
  | controllerRpc => exact ControllerRpcCredential.opens.kind_of_decoded (map_ok read).choose_spec
  | node => exact NodeIdentityCredential.opens.kind_of_decoded (map_ok read).choose_spec
  | execution => exact ExecutionCredential.opens.kind_of_decoded (map_ok read).choose_spec

theorem refused_by_decoder {format : Format} {left : Bytes}
    (header : readHeader.run bytes = .ok (kind,left)) (other : format.accepts kind = false) :
    Credential.fromSigningBytes bytes format = .error (format.refusal kind) := by
  cases format with
  | userRpc =>
    exact congrArg (Except.map _) (UserRpcCredential.opens.decoded_of_kind header other)
  | forwarded =>
    exact congrArg (Except.map _) (ForwardedIdentity.opens.decoded_of_kind header other)
  | controllerRpc =>
    exact congrArg (Except.map _) (ControllerRpcCredential.opens.decoded_of_kind header other)
  | node =>
    exact congrArg (Except.map _) (NodeIdentityCredential.opens.decoded_of_kind header other)
  | execution =>
    exact congrArg (Except.map _) (ExecutionCredential.opens.decoded_of_kind header other)

end

/-- The signing bytes of a credential decode to it, in its canonical order; another credential with the same bytes has
the same canonical order; and the decoders of the other formats refuse the bytes for the kind they name. -/
theorem signed_bytes_say_one_thing (cred : Credential) (bytes : Bytes) (encodes : cred.toSigningBytes = .ok bytes) :
    Credential.fromSigningBytes bytes cred.format = .ok cred.canonical ∧
      (∀ other : Credential, other.toSigningBytes = .ok bytes → other.canonical = cred.canonical) ∧
      ∀ format ≠ cred.format, ∃ found,Credential.fromSigningBytes bytes format = .error (format.refusal found) := by
  have decodes := Credential.decodes encodes
  obtain ⟨kind,left,header,accepts⟩ := kind_of_decoder decodes
  have refused : ∀ format ≠ cred.format, Credential.fromSigningBytes bytes format = .error _ :=
    fun format differ => refused_by_decoder header (Format.accepts_disjoint differ accepts)
  refine ⟨decodes,fun other same => ?_,fun format differ => ⟨kind,refused format differ⟩⟩
  have read := Credential.decodes same
  by_cases format : other.format = cred.format
  · rw [format,decodes] at read
    exact (Except.ok.inj read).symm
  · rw [refused _ format] at read
    cases read

def unorderedJob : ExecutionCredential where
  kind := .job
  clusterId := "c"
  keyId := "k"
  jobId := 7
  stepId := 0
  runAttempt := 1
  user := "u"
  uid := 1000
  gid := 1000
  supplementaryGids := [20,10,20]
  account := ""
  partition_ := "p"
  qos := ""
  resourcesByNode := [⟨"n2",2,64,[]⟩,⟨"n1",4,128,[⟨"gpu",512,1⟩,⟨"gpu",256,1⟩]⟩]
  commandDigest := Vector.replicate 32 9
  containerDigest := none
  issuedAt := 10
  notBefore := 10
  expiresAt := 20
  credentialId := Vector.replicate 16 5

theorem signed_bytes_say_one_thing_job : ∃ bytes, unorderedJob.toSigningBytes = .ok bytes ∧
      Credential.fromSigningBytes bytes .execution = .ok (.execution { unorderedJob with
        supplementaryGids := [10,20]
        resourcesByNode := [⟨"n1",4,128,[⟨"gpu",256,1⟩,⟨"gpu",512,1⟩]⟩,⟨"n2",2,64,[]⟩] }) ∧
      ∃ found, Credential.fromSigningBytes bytes .userRpc = .error (.wrongKind .userRpc found) := by
  have runs : unorderedJob.toSigningBytes.isOk = true := by decide +kernel
  cases encodes : unorderedJob.toSigningBytes with
  | error e =>
    rw [encodes] at runs
    cases runs
  | ok bytes =>
    obtain ⟨decodes,-,separate⟩ := signed_bytes_say_one_thing (.execution _) bytes encodes
    exact ⟨bytes,rfl,decodes,separate _ (by decide)⟩

end Spur.Auth.Signing
