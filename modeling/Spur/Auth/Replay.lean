import Spur.Library.Fallible
import Spur.Library.Retention
import Spur.Library.Run
import Spur.Resource

/-! Credentials presented to a verifier, from `native_cred`, `native_mint`, `native_service` and `native_peer`, and the
replay cache. Signatures are taken as checked. -/
namespace Spur.Auth
open Spur.Library Spur.Library.Fallible Spur.Library.Retention Spur.Library.Run List Option

def clockSkewSecs : Nat := 5

def saturatingAdd (a b : Nat) : Nat := min (a + b) u64Max

inductive CredentialKind where
  | userRpc | job | step | controllerRpc | node | forwarded
  deriving DecidableEq

def CredentialKind.asStr : CredentialKind → String
  | userRpc => "user-rpc"
  | job => "job"
  | step => "step"
  | controllerRpc => "controller-rpc"
  | node => "node"
  | forwarded => "forwarded"

inductive CredentialError where
  | malformed (what : String)
  | protocol (what : String)
  | wrongKind (expected found : CredentialKind)
  | clusterMismatch | audienceMismatch | audienceEpochMismatch
  | expired | notYetValid | issuedInFuture | invalidLifetime | badSignature | replay
  | wrongAttempt | idempotencyConflict
  deriving DecidableEq

def CredentialError.message : CredentialError → String
  | malformed what => "malformed credential (" ++ what ++ ")"
  | protocol what => "mint protocol error: " ++ what
  | wrongKind expected found => "credential kind is " ++ found.asStr ++ ", expected " ++ expected.asStr
  | clusterMismatch => "credential cluster_id mismatch"
  | audienceMismatch => "credential audience mismatch"
  | audienceEpochMismatch => "credential audience epoch mismatch"
  | expired => "credential expired"
  | notYetValid => "credential not yet valid"
  | issuedInFuture => "credential issued too far in the future"
  | invalidLifetime => "credential lifetime is invalid"
  | badSignature => "credential signature is invalid"
  | replay => "credential nonce already consumed"
  | wrongAttempt => "execution credential run_attempt mismatch"
  | idempotencyConflict => "execution credential reused with different claims"

structure Identity where
  user : String
  uid : Nat
  gid : Nat
  isAdmin : Bool
  trustedUnix : Bool
  deriving DecidableEq

/-- A nonce is a number of 16 bytes. -/
structure UserRpcCredential where
  clusterId : String
  audience : String
  audienceEpoch : Nat
  user : String
  uid : Nat
  gid : Nat
  issuedAt : Nat
  expiresAt : Nat
  nonce : Nat
  keyId : String

structure ControllerRpcCredential where
  clusterId : String
  audience : String
  audienceEpoch : Nat
  issuedAt : Nat
  expiresAt : Nat
  nonce : Nat
  keyId : String

structure ForwardedIdentity where
  clusterId : String
  destLeaderId : Nat
  term : Nat
  user : String
  uid : Nat
  gid : Nat
  trustedUnix : Bool
  isAdmin : Bool
  issuedAt : Nat
  expiresAt : Nat
  nonce : Nat
  keyId : String

inductive Payload where
  | userRpc (cred : UserRpcCredential)
  | controllerRpc (cred : ControllerRpcCredential)
  | forwarded (env : ForwardedIdentity)
  | other (kind : CredentialKind)

def Payload.kind : Payload → CredentialKind
  | .userRpc _ => .userRpc
  | .controllerRpc _ => .controllerRpc
  | .forwarded _ => .forwarded
  | .other kind => kind

structure SignedToken where
  keyId : String
  payload : Payload
  genuine : Bool

/-- Cluster, audience, epoch, key id and nonce. -/
abbrev ReplayKey := String × String × Nat × String × Nat

structure ReplayCache where
  seen : Table ReplayKey Nat
  capacity : Nat

def ReplayCache.new (capacity : Nat) : ReplayCache := ⟨∅,max capacity 1⟩

def ReplayCache.insert (cache : ReplayCache) (key : ReplayKey) (retainUntil now : Nat) :
    ReplayCache × Except CredentialError Unit :=
  let live := evictExpired id cache.seen now
  if live.contains key then ({ cache with seen := live },.error .replay)
  else ({ cache with seen := put id cache.capacity live key retainUntil },.ok ())

def checkIssuedExpires (issuedAt expiresAt now skewSecs : Nat) : Except CredentialError Unit :=
  if expiresAt ≤ issuedAt then .error .invalidLifetime
  else if issuedAt > saturatingAdd now skewSecs then .error .issuedInFuture
  else if now > saturatingAdd expiresAt skewSecs then .error .expired
  else .ok ()

/-- What a token claims once all checks but the replay check have passed. -/
structure Claim where
  key : ReplayKey
  retainUntil : Nat
  now : Nat
  identity : Identity

structure NativeAuth where
  clusterId : String
  skewSecs : Nat := clockSkewSecs
  audience : String
  epoch : Nat
  controllerKeys : Bool := false

structure PeerVerifier where
  clusterId : String
  controllerId : Nat

private def require (holds : Bool) (e : CredentialError) : Except CredentialError Unit :=
  if holds then .ok () else .error e

def verifyUserRpc (native : NativeAuth) (token : SignedToken) (cred : UserRpcCredential) (now : Nat) :
    Except CredentialError Claim := do
  require token.genuine .badSignature
  require (cred.keyId == token.keyId) (.protocol "key_id mismatch")
  checkIssuedExpires cred.issuedAt cred.expiresAt now native.skewSecs
  require (cred.clusterId == native.clusterId) .clusterMismatch
  require (cred.audience == native.audience) .audienceMismatch
  require (cred.audienceEpoch == native.epoch) .audienceEpochMismatch
  return ⟨(cred.clusterId,cred.audience,cred.audienceEpoch,cred.keyId,cred.nonce),
    saturatingAdd cred.expiresAt native.skewSecs,now,⟨cred.user,cred.uid,cred.gid,false,true⟩⟩

def verifyControllerRpc (native : NativeAuth) (token : SignedToken) (cred : ControllerRpcCredential) (now : Nat) :
    Except CredentialError Claim := do
  require token.genuine .badSignature
  require (cred.keyId == token.keyId) (.malformed "kid")
  require (cred.clusterId == native.clusterId) .clusterMismatch
  require (cred.audience == native.audience) .audienceMismatch
  require (cred.audienceEpoch == native.epoch) .audienceEpochMismatch
  checkIssuedExpires cred.issuedAt cred.expiresAt now clockSkewSecs
  return ⟨(cred.clusterId,cred.audience,cred.audienceEpoch,cred.keyId,cred.nonce),
    saturatingAdd cred.expiresAt clockSkewSecs,now,⟨"spurctld",0,0,true,false⟩⟩

def verifyForwarded (peer : PeerVerifier) (token : SignedToken) (env : ForwardedIdentity) (now : Nat) :
    Except CredentialError Claim := do
  require token.genuine .badSignature
  require (env.keyId == token.keyId) (.malformed "kid")
  require (env.clusterId == peer.clusterId) .clusterMismatch
  require (env.destLeaderId == peer.controllerId) .audienceMismatch
  checkIssuedExpires env.issuedAt env.expiresAt now clockSkewSecs
  return ⟨(env.clusterId,"spur/" ++ env.clusterId ++ "/forward/" ++ toString env.destLeaderId,env.term,env.keyId,env.nonce),
    saturatingAdd env.expiresAt clockSkewSecs,now,⟨env.user,env.uid,env.gid,env.isAdmin,env.trustedUnix⟩⟩

inductive Verifier where
  | native (auth : NativeAuth)
  | peer (peer : PeerVerifier)

def Verifier.refusal : Verifier → String → String
  | .native _, message => "invalid token: " ++ message
  | .peer _, message => message

structure Presentation where
  token : SignedToken
  now : Nat

private def described {α : Type} : Except CredentialError α → Except String α
  | .ok a => .ok a
  | .error e => .error e.message

def Verifier.examine (verifier : Verifier) (p : Presentation) : Except String Claim :=
  match verifier,p.token.payload with
  | .native auth,.controllerRpc cred =>
    if auth.controllerKeys then described (verifyControllerRpc auth p.token cred p.now)
    else .error "controller identity is not configured"
  | .native auth,.userRpc cred => described (verifyUserRpc auth p.token cred p.now)
  | .native _,payload => .error ("credential kind " ++ payload.kind.asStr ++ " is not a bearer identity")
  | .peer own,.forwarded env => described (verifyForwarded own p.token env p.now)
  | .peer _,payload => described (do
      require p.token.genuine .badSignature
      .error (.wrongKind .forwarded payload.kind))

/-- One presentation: `verify_native_bearer`, or `verify` of the peer verifier. -/
def Verifier.verify (verifier : Verifier) (cache : ReplayCache) (p : Presentation) : ReplayCache × Except String Identity :=
  match verifier.examine p with
  | .error message => (cache,.error (verifier.refusal message))
  | .ok claim => match cache.insert claim.key claim.retainUntil p.now with
    | (cache,.error e) => (cache,.error (verifier.refusal e.message))
    | (cache,.ok ()) => (cache,.ok claim.identity)

def Verifier.after (verifier : Verifier) (cache : ReplayCache) (p : Presentation) : ReplayCache := (verifier.verify cache p).1

section

variable (verifier : Verifier)

def claims (ps : List Presentation) : List Claim := ps.filterMap fun p => (verifier.examine p).toOption

def honoured : ReplayCache → List Presentation → List ReplayKey
  | _, [] => []
  | cache, p :: ps =>
    let (next,answer) := verifier.verify cache p
    match verifier.examine p,answer with
    | .ok claim,.ok _ => claim.key :: honoured next ps
    | _,_ => honoured next ps

/-- No claim comes at or after the instant until which the first claim of its key is remembered. -/
def Timely (all : List Claim) : Prop :=
  ∀ before claim after first, all = before ++ claim :: after →
    before.find? (fun earlier => earlier.key = claim.key) = some first → claim.now < first.retainUntil

def Roomy (cache : ReplayCache) (p : Presentation) : Prop :=
  ∀ claim, verifier.examine p = .ok claim → Room cache.capacity (evictExpired id cache.seen p.now) claim.key

end

section

variable {verifier : Verifier} {cache : ReplayCache} {p : Presentation} {claim : Claim} {history : List Claim} {clock : Nat}

private theorem described_ok {α : Type} {x : Except CredentialError α} {a : α} : described x = .ok a ↔ x = .ok a := by
  cases x with
  | error e => simp [described]
  | ok b => simp [described]

theorem admit_now (ok : verifier.examine p = .ok claim) : claim.now = p.now := by
  unfold Verifier.examine at ok
  split at ok
  · split at ok
    · have passed := described_ok.mp ok
      iterate 6 obtain ⟨_,-,passed⟩ := bind_ok.mp passed
      cases passed
      rfl
    · cases ok
  · have passed := described_ok.mp ok
    iterate 6 obtain ⟨_,-,passed⟩ := bind_ok.mp passed
    cases passed
    rfl
  · cases ok
  · have passed := described_ok.mp ok
    iterate 5 obtain ⟨_,-,passed⟩ := bind_ok.mp passed
    cases passed
    rfl
  · obtain ⟨_,-,failed⟩ := bind_ok.mp (described_ok.mp ok)
    cases failed

def firstOf (history : List Claim) (key : ReplayKey) : Option Claim := history.find? fun claim => claim.key = key

theorem firstOf_append {key : ReplayKey} : firstOf (history ++ [claim]) key =
    (firstOf history key).or (if claim.key = key then some claim else none) := by
  unfold firstOf
  by_cases same : claim.key = key
  · simp [same]
  · simp [same]

/-- The cache remembers the first claim of every key as long as it is to, and nothing else. -/
structure Remembers (history : List Claim) (cache : ReplayCache) (clock : Nat) : Prop where
  kept : ∀ key first, firstOf history key = some first → clock < first.retainUntil →
    cache.seen[key]? = some first.retainUntil
  known : ∀ (key : ReplayKey) (deadline : Nat), cache.seen[key]? = some deadline →
    ∃ first, firstOf history key = some first ∧ first.retainUntil = deadline

theorem Remembers.live (remembers : Remembers history cache clock) {now : Nat} (later : clock ≤ now) (key : ReplayKey) :
    (evictExpired id cache.seen now)[key]? = ((firstOf history key).map Claim.retainUntil).filter (fun deadline => now < deadline) := by
  rw [find_evictExpired]
  cases found : firstOf history key with
  | none =>
    cases seen : cache.seen[key]? with
    | none => rfl
    | some deadline =>
      obtain ⟨first,some_,-⟩ := remembers.known key deadline seen
      rw [found] at some_
      cases some_
  | some first =>
    by_cases fresh : now < first.retainUntil
    · rw [remembers.kept key first found (later.trans_lt fresh)]
      rfl
    cases seen : cache.seen[key]? with
    | none => simp [Option.filter,fresh]
    | some deadline =>
      obtain ⟨other,some_,rfl⟩ := remembers.known key deadline seen
      obtain rfl : first = other := Option.some.inj (found.symm.trans some_)
      rfl

theorem Remembers.repeated (remembers : Remembers history cache clock) {now : Nat} (later : clock ≤ now) {first : Claim}
    (found : firstOf history claim.key = some first) :
    Remembers (history ++ [claim]) { cache with seen := evictExpired id cache.seen now } now := by
  have same (key : ReplayKey) : firstOf (history ++ [claim]) key = firstOf history key := by
    rw [firstOf_append]
    split
    next here =>
      subst here
      rw [found]
      rfl
    next => rw [or_none]
  refine ⟨fun key other some_ fresh => ?_,fun key deadline seen => ?_⟩
  · rw [same] at some_
    rw [remembers.live later,some_]
    simp [fresh]
  · rw [remembers.live later,filter_eq_some_iff,map_eq_some_iff] at seen
    rw [same]
    exact seen.1

theorem Remembers.entered (remembers : Remembers history cache clock) {now : Nat} (later : clock ≤ now)
    (new : firstOf history claim.key = none) (room : Room cache.capacity (evictExpired id cache.seen now) claim.key) :
    Remembers (history ++ [claim])
      { cache with seen := put id cache.capacity (evictExpired id cache.seen now) claim.key claim.retainUntil } now := by
  refine ⟨fun key other some_ fresh => ?_,fun key deadline seen => ?_⟩
  · rw [find_put id room]
    rw [firstOf_append] at some_
    split at some_
    next here =>
      subst here
      rw [new] at some_
      cases some_
      rw [if_pos rfl]
    next elsewhere =>
      rw [or_none] at some_
      rw [if_neg elsewhere,remembers.live later,some_]
      simp [fresh]
  · rw [find_put id room] at seen
    rw [firstOf_append]
    split at seen
    next here =>
      subst here
      cases seen
      exact ⟨claim,by rw [new,if_pos rfl]; rfl,rfl⟩
    next elsewhere =>
      rw [remembers.live later,filter_eq_some_iff,map_eq_some_iff] at seen
      rw [if_neg elsewhere,or_none]
      exact seen.1

def TimelyAfter (history all : List Claim) : Prop :=
  ∀ before claim after first, all = before ++ claim :: after →
    firstOf (history ++ before) claim.key = some first → claim.now < first.retainUntil

theorem timelyAfter_cons {all : List Claim} : TimelyAfter history (claim :: all) ↔
    (∀ first, firstOf history claim.key = some first → claim.now < first.retainUntil) ∧ TimelyAfter (history ++ [claim]) all := by
  constructor
  · intro timely
    refine ⟨fun first found => timely [] claim all first rfl (by rw [append_nil]; exact found),?_⟩
    intro before other after first same found
    refine timely (claim :: before) other after first (by rw [same]; rfl) ?_
    rw [append_assoc] at found
    exact found
  · rintro ⟨here,later⟩ before other after first same found
    cases before with
    | nil =>
      cases same
      rw [append_nil] at found
      exact here first found
    | cons head before =>
      cases same
      refine later before other after first rfl ?_
      rw [append_assoc]
      exact found

theorem verify_claim (remembers : Remembers history cache clock) (later : clock ≤ p.now) (ok : verifier.examine p = .ok claim) :
    (∃ first, firstOf history claim.key = some first ∧ p.now < first.retainUntil ∧
      verifier.verify cache p = ({ cache with seen := evictExpired id cache.seen p.now },.error (verifier.refusal
        CredentialError.replay.message))) ∨
    ((∀ first, firstOf history claim.key = some first → first.retainUntil ≤ p.now) ∧ verifier.verify cache p =
      ({ cache with seen := put id cache.capacity (evictExpired id cache.seen p.now) claim.key claim.retainUntil },
        .ok claim.identity)) := by
  have live := remembers.live later claim.key
  unfold Verifier.verify ReplayCache.insert
  rw [ok]
  dsimp only
  cases seen : (evictExpired id cache.seen p.now)[claim.key]? with
  | some deadline =>
    rw [live,filter_eq_some_iff,map_eq_some_iff] at seen
    obtain ⟨⟨first,found,rfl⟩,fresh⟩ := seen
    have there : (evictExpired id cache.seen p.now).contains claim.key = true := by
      rw [Std.ExtTreeMap.contains_eq_isSome_getElem?,live,found]
      simpa [Option.filter] using fresh
    left
    refine ⟨first,found,of_decide_eq_true fresh,?_⟩
    rw [if_pos there]
  | none =>
    have absent : ¬(evictExpired id cache.seen p.now).contains claim.key = true := by
      rw [Std.ExtTreeMap.contains_eq_isSome_getElem?,seen]
      exact Bool.false_ne_true
    right
    refine ⟨fun first found => ?_,by rw [if_neg absent]⟩
    rw [live,found] at seen
    simpa [Option.filter] using seen

theorem honoured_iff {ps : List Presentation} (remembers : Remembers history cache clock)
    (order : ps.Pairwise fun p q => p.now ≤ q.now) (later : ∀ p ∈ ps, clock ≤ p.now)
    (room : Along verifier.after (Roomy verifier) cache ps) :
    ((honoured verifier cache ps).Nodup ∧ ∀ key ∈ honoured verifier cache ps, firstOf history key = none) ↔
      TimelyAfter history (claims verifier ps) := by
  induction ps generalizing history cache clock with
  | nil =>
    refine ⟨fun _ before claim after first same => ?_,fun _ => ⟨nodup_nil,fun _ listed => absurd listed not_mem_nil⟩⟩
    cases before <;> cases same
  | cons p ps ih =>
    obtain ⟨behind,order⟩ := pairwise_cons.mp order
    have here := later p mem_cons_self
    cases admitted : verifier.examine p with
    | error message =>
      have answer : verifier.verify cache p = (cache,.error (verifier.refusal message)) := by
        unfold Verifier.verify
        rw [admitted]
      have skipped : honoured verifier cache (p :: ps) = honoured verifier cache ps := by
        rw [honoured]
        simp only [admitted,answer]
      have nothing : claims verifier _ = claims verifier ps := filterMap_cons_none (by rw [admitted]; rfl)
      rw [skipped,nothing]
      refine ih remembers order (fun q listed => later q (mem_cons_of_mem _ listed)) ?_
      have rest := room.2
      rw [show verifier.after cache p = _ from congrArg Prod.fst answer] at rest
      exact rest
    | ok claim =>
      have listed : claims verifier _ = claim :: claims verifier ps := filterMap_cons_some (by rw [admitted]; rfl)
      have now_ := admit_now admitted
      rw [listed,timelyAfter_cons,now_]
      rcases verify_claim remembers here admitted with ⟨first,found,fresh,answer⟩ | ⟨stale,answer⟩
      · -- The key is remembered: the presentation is refused.
        have skipped : honoured verifier cache (p :: ps) =
            honoured verifier { cache with seen := evictExpired id cache.seen p.now } ps := by
          rw [honoured]
          simp only [admitted,answer]
        have rest := room.2
        rw [show verifier.after cache p = _ from congrArg Prod.fst answer] at rest
        rw [skipped,← ih (remembers.repeated here found) order behind rest]
        have timely : ∀ other, firstOf history claim.key = some other → p.now < other.retainUntil := by
          intro other some_
          obtain rfl : first = other := Option.some.inj (found.symm.trans some_)
          exact fresh
        rw [and_iff_right timely]
        refine and_congr_right fun _ => forall₂_congr fun key _ => ?_
        rw [firstOf_append,or_eq_none_iff]
        refine ⟨fun none_ => ⟨none_,if_neg fun same => ?_⟩,And.left⟩
        rw [same,none_] at found
        cases found
      · have entered : honoured verifier cache (p :: ps) = claim.key :: honoured verifier
            { cache with seen := put id cache.capacity (evictExpired id cache.seen p.now) claim.key claim.retainUntil } ps := by
          rw [honoured]
          simp only [admitted,answer]
        rw [entered,nodup_cons,forall_mem_cons]
        cases known : firstOf history _ with
        | some first =>
          -- Remembered no longer: the presentation is honoured a second time.
          constructor
          · rintro ⟨-,fresh,-⟩
            cases fresh
          · rintro ⟨timely,-⟩
            exact absurd (timely first rfl) (not_lt.mpr (stale first known))
        | none =>
          have rest := room.2
          rw [show verifier.after cache p = _ from congrArg Prod.fst answer] at rest
          rw [← ih (remembers.entered here known (room.1 claim admitted)) order behind rest]
          simp only [firstOf_append,or_eq_none_iff,ite_eq_right_iff,reduceCtorEq]
          constructor
          · rintro ⟨⟨fresh,distinct⟩,-,unknown⟩
            refine ⟨fun _ none_ => none_.elim,distinct,fun key inside => ⟨unknown key inside,fun same => ?_⟩⟩
            exact fresh (same ▸ inside)
          · rintro ⟨-,distinct,unknown⟩
            exact ⟨⟨fun inside => (unknown _ inside).2 rfl,distinct⟩,True.intro,fun key inside => (unknown key inside).1⟩

/-- A credential is honoured at most once exactly when none passes the other checks again at or after the instant until
which its first presentation is remembered. -/
theorem credential_honoured_once (verifier : Verifier) (capacity : Nat) (ps : List Presentation)
    (order : ps.Pairwise fun p q => p.now ≤ q.now)
    (room : Along verifier.after (Roomy verifier) (.new capacity) ps) :
    (honoured verifier (.new capacity) ps).Nodup ↔ Timely (claims verifier ps) := by
  have start : Remembers [] (.new capacity) 0 := by
    refine ⟨fun key first found => absurd found (some_ne_none _).symm,fun key deadline seen => ?_⟩
    have empty : (∅ : Table ReplayKey Nat)[key]? = none := Std.ExtTreeMap.getElem?_empty
    cases empty.symm.trans seen
  refine Iff.trans ?_ (honoured_iff start order (fun _ _ => Nat.zero_le _) room)
  exact (and_iff_left fun _ _ => rfl).symm

def loginVerifier : Verifier := .native { clusterId := "c", audience := "aud", epoch := 7 }

def aliceAt (now : Nat) : Presentation where
  token := ⟨"k1",.userRpc ⟨"c","aud",7,"alice",1000,1000,10,100,1,"k1"⟩,true⟩
  now := now

theorem credential_honoured_once_early : (honoured loginVerifier (.new 8) [aliceAt 50,aliceAt 104]).Nodup ↔
    Timely (claims loginVerifier [aliceAt 50,aliceAt 104]) := by
  refine credential_honoured_once _ 8 _ (by decide) ⟨?_,?_,True.intro⟩
  · exact fun claim _ => .inr (by decide +kernel)
  · exact fun claim _ => .inr (by decide +kernel)

/-- In the last second of the window the nonce is forgotten and the token still valid. -/
theorem honoured_again_in_last_second :
    honoured loginVerifier (.new 8) [aliceAt 50,aliceAt 105] = [("c","aud",7,"k1",1),("c","aud",7,"k1",1)] := by
  decide +kernel

end

end Spur.Auth
