import SeamsWallet.Ed25519.SignerCore
import SeamsWallet.ThresholdPrf.Wire

/-!
# Ceremonies over a tenant root

A tenant root is shared between two Derivers. A ceremony creates its first epoch or
refreshes the active one; its context names the identity, the custody lineage, the
epochs, the lifetime and the signing keys of both roles. Each role proves knowledge of
its new share over a transcript of the context, and the two pieces of evidence together
give the share commitments of the next epoch.
-/

namespace SeamsWallet.TenantRoot

open Library ThresholdPrf

/-! ## Errors -/

inductive RouterAbDerivationErrorCode where
  | emptyField
  | malformedInput
  | replayMismatch
  | outputVerificationFailed
  deriving DecidableEq

structure RouterAbDerivationError where
  code : RouterAbDerivationErrorCode
  message : String
  deriving DecidableEq

abbrev RouterAbDerivationResult (α : Type) : Type := Except RouterAbDerivationError α

variable (message : String)

def malformed : RouterAbDerivationError := ⟨.malformedInput, message⟩

def replayMismatch : RouterAbDerivationError := ⟨.replayMismatch, message⟩

def verificationFailed : RouterAbDerivationError :=
  ⟨.outputVerificationFailed, message⟩

/-! ## Identifiers -/

structure NonZeroBytes (w : ℕ) where
  bytes : Bytes w
  ne_zeros : bytes ≠ Bytes.zeros w
  deriving DecidableEq

def NonZeroBytes.fromBytes {w : ℕ} (bytes : Bytes w) : RouterAbDerivationResult (NonZeroBytes w) :=
  if h : bytes ≠ Bytes.zeros w then .ok ⟨bytes, h⟩ else .error (malformed message)

abbrev TenantRootLifecycleReceiptDigest : Type := NonZeroBytes 32

abbrev TenantRootProtocolDigest : Type := NonZeroBytes 32

abbrev TenantRootCustodyLineageId : Type := NonZeroBytes 16

abbrev TenantRootCeremonySessionId : Type := NonZeroBytes 16

abbrev TenantRootCeremonyNonce : Type := NonZeroBytes 32

abbrev TenantRootIdentityDigest : Type := Bytes 32

/-- A custody epoch is a positive 64-bit number. -/
structure TenantRootShareEpoch where
  get : ℕ
  get_pos : get > 0
  get_lt : get < 2 ^ 64
  deriving DecidableEq

namespace TenantRootShareEpoch

def initial : TenantRootShareEpoch := ⟨1, by norm_num, by norm_num⟩

def next (epoch : TenantRootShareEpoch) : RouterAbDerivationResult TenantRootShareEpoch :=
  if h : epoch.get + 1 < 2 ^ 64 then .ok ⟨epoch.get + 1, by omega, h⟩
  else .error (malformed "tenant root share epoch is exhausted")

end TenantRootShareEpoch

/-- The control characters of Unicode. -/
def isControl (c : Char) : Bool := c.toNat < 32 || (127 ≤ c.toNat && c.toNat ≤ 159)

def requireTenantRootIdentifier (field value : String) : RouterAbDerivationResult Unit := do
  ensure (value ≠ "") ⟨.emptyField, s!"{field} is required"⟩
  ensure ((stringBytes value).length ≤ 256) (malformed s!"{field} exceeds 256 UTF-8 bytes")
  ensure (SignerCore.trim value = value) (malformed s!"{field} has leading or trailing whitespace")
  ensure (value.toList.any isControl = false) (malformed s!"{field} contains control characters")

def pushLengthPrefixed (tooLong : String) (value : List UInt8) :
    RouterAbDerivationResult (List UInt8) := do
  ensure (value.length < 2 ^ 32) (malformed tooLong)
  return (toBigEndian 4 value.length).toList ++ value

def pushLen32 (value : List UInt8) : RouterAbDerivationResult (List UInt8) :=
  pushLengthPrefixed "tenant-root protocol field is too long" value

structure TenantRootIdentity where
  orgId : String
  projectId : String
  envId : String
  signingRootId : String
  signingRootVersion : String
  deriving DecidableEq

namespace TenantRootIdentity

def validate (identity : TenantRootIdentity) : RouterAbDerivationResult Unit := do
  requireTenantRootIdentifier "orgId" identity.orgId
  requireTenantRootIdentifier "projectId" identity.projectId
  requireTenantRootIdentifier "envId" identity.envId
  requireTenantRootIdentifier "signingRootId" identity.signingRootId
  requireTenantRootIdentifier "signingRootVersion" identity.signingRootVersion

def canonicalBytes (identity : TenantRootIdentity) : RouterAbDerivationResult (List UInt8) := do
  identity.validate
  let fields ← [identity.orgId, identity.projectId, identity.envId, identity.signingRootId,
    identity.signingRootVersion].mapM fun field =>
      pushLengthPrefixed "tenant root identity field is too long" (stringBytes field)
  return stringBytes "seams/tenant-root-identity/v1" ++ fields.flatten

def digest (sha256 : List UInt8 → Bytes 32) (identity : TenantRootIdentity) :
    RouterAbDerivationResult TenantRootIdentityDigest := do
  let bytes ← identity.canonicalBytes
  return sha256 bytes

end TenantRootIdentity

/-! ## Ceremony contexts -/

inductive TenantRootCeremonyEpochs where
  | create (next : TenantRootShareEpoch)
  | refresh (current next : TenantRootShareEpoch)
  deriving DecidableEq

namespace TenantRootCeremonyEpochs

def isCreate : TenantRootCeremonyEpochs → Bool
  | create _ => true
  | refresh _ _ => false

def operation : TenantRootCeremonyEpochs → String
  | create _ => "create"
  | refresh _ _ => "refresh"

def domain : TenantRootCeremonyEpochs → String
  | create _ => "tenant_root_create_v1"
  | refresh _ _ => "tenant_root_refresh_v1"

def fields : TenantRootCeremonyEpochs → List (List UInt8)
  | create next => [(toBigEndian 8 next.get).toList]
  | refresh current next =>
    [(toBigEndian 8 current.get).toList, (toBigEndian 8 next.get).toList]

end TenantRootCeremonyEpochs

structure TenantRootCeremonyContext where
  identityDigest : TenantRootIdentityDigest
  custodyLineage : TenantRootCustodyLineageId
  epochs : TenantRootCeremonyEpochs
  sessionId : TenantRootCeremonySessionId
  nonce : TenantRootCeremonyNonce
  issuedAtMs : ℕ
  expiresAtMs : ℕ
  deriverASigningKeyId : String
  deriverBSigningKeyId : String
  deriving DecidableEq

namespace TenantRootCeremonyContext

def maxLifetimeMs : ℕ := 300000

variable (context : TenantRootCeremonyContext)

def validate : RouterAbDerivationResult Unit := do
  requireTenantRootIdentifier "deriver A signing key id" context.deriverASigningKeyId
  requireTenantRootIdentifier "deriver B signing key id" context.deriverBSigningKeyId
  ensure (context.deriverASigningKeyId ≠ context.deriverBSigningKeyId)
    (malformed "tenant-root Deriver signing key ids must be distinct")
  ensure (context.issuedAtMs ≠ 0 ∧ context.issuedAtMs < context.expiresAtMs)
    (malformed "tenant-root ceremony expiry must follow a non-zero issue time")
  ensure (context.expiresAtMs - context.issuedAtMs ≤ maxLifetimeMs)
    (malformed "tenant-root ceremony lifetime exceeds the frozen maximum window")
  match context.epochs with
  | .create next =>
    ensure (next = .initial) (malformed "tenant-root creation must install epoch 1")
  | .refresh current next => do
    let expected ← current.next
    ensure (expected = next)
      (malformed "tenant-root refresh next epoch must advance by exactly one")

def appendTranscriptPrefix : RouterAbDerivationResult (List UInt8) := do
  context.validate
  let fields ← ([stringBytes context.epochs.domain, stringBytes context.epochs.operation,
    context.identityDigest.toList, context.custodyLineage.bytes.toList] ++
      context.epochs.fields ++ [context.sessionId.bytes.toList]).mapM pushLen32
  return fields.flatten

def appendTranscriptSuffix : RouterAbDerivationResult (List UInt8) := do
  let fields ← [context.nonce.bytes.toList, (toBigEndian 8 context.issuedAtMs).toList,
    (toBigEndian 8 context.expiresAtMs).toList, stringBytes context.deriverASigningKeyId,
    stringBytes context.deriverBSigningKeyId].mapM pushLen32
  return fields.flatten

def canonicalBytes : RouterAbDerivationResult (List UInt8) := do
  context.validate
  let head ← context.appendTranscriptPrefix
  let tail ← context.appendTranscriptSuffix
  return head ++ tail

def digest (sha256 : List UInt8 → Bytes 32) (context : TenantRootCeremonyContext) :
    RouterAbDerivationResult TenantRootProtocolDigest := do
  let bytes ← context.canonicalBytes
  NonZeroBytes.fromBytes "tenant-root protocol digest must be non-zero" (sha256 bytes)

end TenantRootCeremonyContext

/-! ## Installation evidence -/

variable {q : ℕ} {G : Type} [AddCommGroup G] [Module (ZMod q) G]

/-- What a role's proof of knowledge is about: its commitment and the peer's. -/
structure TenantRootShareInstallationTranscript (G : Type) where
  context : TenantRootCeremonyContext
  role : TwoPartyDeriverRole
  commitment : SigningRootShareCommitment G
  peerCommitment : SigningRootShareCommitment G
  commitment_id : commitment.id = role.shareId
  peerCommitment_id : peerCommitment.id = role.peer.shareId

variable (R : Ristretto255 q G)

def TenantRootShareInstallationTranscript.canonicalBytes
    (transcript : TenantRootShareInstallationTranscript G) :
    RouterAbDerivationResult (List UInt8) := do
  let head ← transcript.context.appendTranscriptPrefix
  let fields ← [stringBytes transcript.role.asStr,
    (u16ToBigEndian transcript.role.shareId.get).toList,
    (R.compress transcript.commitment.point).toList,
    (R.compress transcript.peerCommitment.point).toList].mapM pushLen32
  let tail ← transcript.context.appendTranscriptSuffix
  return head ++ fields.flatten ++ tail

structure TenantRootShareInstallationEvidence (q : ℕ) (G : Type) where
  transcript : TenantRootShareInstallationTranscript G
  proof : RootShareKnowledgeProof q G

variable [DecidableEq G]

def TenantRootShareInstallationEvidence.verify
    (evidence : TenantRootShareInstallationEvidence q G) : RouterAbDerivationResult Unit := do
  let bytes ← evidence.transcript.canonicalBytes R
  (verifyRootShareKnowledge R evidence.transcript.commitment bytes evidence.proof).mapError
    fun _ => verificationFailed "tenant-root share knowledge proof failed"

def verifyEvidencePair (deriverA deriverB : TenantRootShareInstallationEvidence q G) :
    RouterAbDerivationResult Unit := do
  ensure (deriverA.transcript.role = .deriverA ∧ deriverB.transcript.role = .deriverB ∧
      deriverA.transcript.context = deriverB.transcript.context ∧
      deriverA.transcript.peerCommitment = deriverB.transcript.commitment ∧
      deriverB.transcript.peerCommitment = deriverA.transcript.commitment)
    (malformed "tenant-root installation evidence does not form one exact A/B ceremony")
  deriverA.verify R
  deriverB.verify R

def verifyTenantRootCreationEvidence (deriverA deriverB : TenantRootShareInstallationEvidence q G) :
    RouterAbDerivationResult (TwoPartyRootShareCommitments G) := do
  verifyEvidencePair R deriverA deriverB
  ensure (deriverA.transcript.context.epochs.isCreate = true)
    (malformed "tenant-root creation evidence requires the create epoch branch")
  (TwoPartyRootShareCommitments.new deriverA.transcript.commitment
    deriverB.transcript.commitment).mapError
      fun _ => verificationFailed "tenant-root creation commitment pair is invalid"

def verifyTenantRootRefreshEvidence (current : TwoPartyRootShareCommitments G)
    (deriverA deriverB : TenantRootShareInstallationEvidence q G) :
    RouterAbDerivationResult (TwoPartyRootShareCommitments G) := do
  verifyEvidencePair R deriverA deriverB
  ensure (deriverA.transcript.context.epochs.isCreate = false)
    (malformed "tenant-root refresh evidence requires the refresh epoch branch")
  let next ← (TwoPartyRootShareCommitments.new deriverA.transcript.commitment
    deriverB.transcript.commitment).mapError
      fun _ => verificationFailed "tenant-root refresh commitment pair is invalid"
  (verifyTwoPartyRootShareRefresh q current next).mapError
    fun _ => verificationFailed "tenant-root refresh changed the public root"
  return next

end SeamsWallet.TenantRoot
