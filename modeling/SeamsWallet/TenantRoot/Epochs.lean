import SeamsWallet.TenantRoot.Protocol

/-!
# Epochs of a tenant root

What the control plane keeps about an epoch: the pending ceremony, then the verified
share commitments with their receipts, then the receipt that activated it. The stored
commitments hold the wires of both roles and the commitment of their joined root.
-/

namespace SeamsWallet.TenantRoot

open Library ThresholdPrf

/-! ## Commitments -/

structure MpcPrfShareCommitmentWire where
  bytes : List UInt8
  deriving DecidableEq

def MpcPrfShareCommitmentWire.new (bytes : List UInt8) :
    RouterAbDerivationResult MpcPrfShareCommitmentWire := do
  let fixed ← okOr (Bytes.ofList? 34 bytes)
    (malformed "mpc_prf_share_commitment_wire must be 34 bytes")
  let shareId := u16OfBigEndian (fixed.slice 0 2 (by decide : 2 ≤ 34))
  ensure (shareId = 1 ∨ shareId = 2)
    (malformed "ECDSA threshold-PRF commitment share id must be 1 or 2")
  return ⟨bytes⟩

structure TenantRootEpochCommitments where
  deriverA : MpcPrfShareCommitmentWire
  deriverB : MpcPrfShareCommitmentWire
  rootCommitment : Bytes 32
  deriving DecidableEq

section Commitments

variable {q : ℕ} {G : Type} [AddCommGroup G] [Module (ZMod q) G]

def parseShareCommitment (R : Ristretto255 q G) (wire : MpcPrfShareCommitmentWire) :
    RouterAbDerivationResult (SigningRootShareCommitment G) :=
  (SigningRootShareCommitment.fromSlice R wire.bytes).mapError
    fun _ => malformed "tenant-root share commitment encoding is invalid"

namespace TenantRootEpochCommitments

/-- Stored commitments of a pair: both wires and the root are the pair's. -/
structure Commits (R : Ristretto255 q G) (commitments : TenantRootEpochCommitments)
    (pair : TwoPartyRootShareCommitments G) : Prop where
  deriverA : parseShareCommitment R commitments.deriverA = .ok pair.deriverA
  deriverB : parseShareCommitment R commitments.deriverB = .ok pair.deriverB
  root : R.compress pair.root = commitments.rootCommitment

variable {wire : MpcPrfShareCommitmentWire}

theorem new_bytes {bytes : List UInt8}
    (h : MpcPrfShareCommitmentWire.new bytes = .ok wire) : wire.bytes = bytes := by
  simp only [MpcPrfShareCommitmentWire.new, ok_iff] at h
  obtain ⟨_, -, -, rfl⟩ := h
  rfl

variable {R : Ristretto255 q G}

theorem parse_new_toBytes {commitment : SigningRootShareCommitment G}
    (h : MpcPrfShareCommitmentWire.new (commitment.toBytes R).toList = .ok wire) :
    parseShareCommitment R wire = .ok commitment := by
  rw [parseShareCommitment, new_bytes h, SigningRootShareCommitment.fromSlice_toBytes]
  rfl

variable [DecidableEq G]

def new (R : Ristretto255 q G) (deriverA deriverB : MpcPrfShareCommitmentWire) :
    RouterAbDerivationResult TenantRootEpochCommitments := do
  let deriverA ← MpcPrfShareCommitmentWire.new deriverA.bytes
  let deriverB ← MpcPrfShareCommitmentWire.new deriverB.bytes
  let deriverAPoint ← parseShareCommitment R deriverA
  let deriverBPoint ← parseShareCommitment R deriverB
  ensure (R.compress deriverAPoint.point ≠ R.compress deriverBPoint.point)
    (malformed "tenant-root epoch role commitments must commit to distinct points")
  let pair ← (TwoPartyRootShareCommitments.new deriverAPoint deriverBPoint).mapError
    fun _ => malformed "tenant-root epoch commitment pair is invalid"
  return ⟨deriverA, deriverB, R.compress pair.root⟩

def fromVerified (R : Ristretto255 q G) (pair : TwoPartyRootShareCommitments G) :
    RouterAbDerivationResult TenantRootEpochCommitments := do
  let deriverA ← MpcPrfShareCommitmentWire.new (pair.deriverA.toBytes R).toList
  let deriverB ← MpcPrfShareCommitmentWire.new (pair.deriverB.toBytes R).toList
  new R deriverA deriverB

def thresholdPair (R : Ristretto255 q G) (commitments : TenantRootEpochCommitments) :
    RouterAbDerivationResult (TwoPartyRootShareCommitments G) := do
  let deriverA ← parseShareCommitment R commitments.deriverA
  let deriverB ← parseShareCommitment R commitments.deriverB
  let pair ← (TwoPartyRootShareCommitments.new deriverA deriverB).mapError
    fun _ => malformed "tenant-root epoch commitment pair is invalid"
  ensure (R.compress pair.root = commitments.rootCommitment)
    (malformed "tenant-root stored root commitment does not match its role commitments")
  return pair

def verifyRefreshEvidence (R : Ristretto255 q G) (commitments : TenantRootEpochCommitments)
    (deriverA deriverB : TenantRootShareInstallationEvidence q G) :
    RouterAbDerivationResult TenantRootEpochCommitments := do
  let current ← commitments.thresholdPair R
  let next ← verifyTenantRootRefreshEvidence R current deriverA deriverB
  fromVerified R next

variable {pair : TwoPartyRootShareCommitments G} {commitments : TenantRootEpochCommitments}

/-- The lifecycle form of a verified pair commits to that pair. -/
theorem fromVerified_eq_ok
    (h : fromVerified R pair = .ok commitments) : Commits R commitments pair := by
  simp only [fromVerified, new, ok_iff] at h
  obtain ⟨wireA, hA, wireB, hB, wireA', hA', wireB', hB', pointA, hpointA, pointB, hpointB, -,
    pair', hpair, rfl⟩ := h
  -- the wires are parsed and rebuilt, which does not change them
  rw [new_bytes hA] at hA'
  rw [new_bytes hB] at hB'
  have hparseA := parse_new_toBytes hA'
  have hparseB := parse_new_toBytes hB'
  obtain ⟨-, -, -, -, -, -, hpairA, hpairB⟩ := new_eq_ok.mp hpair
  refine ⟨hparseA, hparseB, ?_⟩
  cases hpointA.symm.trans hparseA
  cases hpointB.symm.trans hparseB
  rw [pair.root_eq, pair'.root_eq, hpairA, hpairB]

end TenantRootEpochCommitments

end Commitments

/-! ## Receipts -/

/-- One receipt of each role, or of each key family; the two differ. -/
structure ReceiptPair where
  first : TenantRootLifecycleReceiptDigest
  second : TenantRootLifecycleReceiptDigest
  distinct : first ≠ second
  deriving DecidableEq

def ReceiptPair.new (message : String) (first second : TenantRootLifecycleReceiptDigest) :
    RouterAbDerivationResult ReceiptPair :=
  if h : first ≠ second then .ok ⟨first, second, h⟩ else .error (malformed message)

abbrev TenantRootRoleInstallationReceipts : Type := ReceiptPair

abbrev TenantRootRoleBackupReceipts : Type := ReceiptPair

abbrev TenantRootCanaryReceipts : Type := ReceiptPair

def TenantRootRoleInstallationReceipts.new :
    TenantRootLifecycleReceiptDigest → TenantRootLifecycleReceiptDigest →
      RouterAbDerivationResult TenantRootRoleInstallationReceipts :=
  ReceiptPair.new "tenant-root role receipts must be distinct"

def TenantRootRoleBackupReceipts.new :
    TenantRootLifecycleReceiptDigest → TenantRootLifecycleReceiptDigest →
      RouterAbDerivationResult TenantRootRoleBackupReceipts :=
  ReceiptPair.new "tenant-root role receipts must be distinct"

def TenantRootCanaryReceipts.new :
    TenantRootLifecycleReceiptDigest → TenantRootLifecycleReceiptDigest →
      RouterAbDerivationResult TenantRootCanaryReceipts :=
  ReceiptPair.new "tenant-root canary receipts must be family-specific"

/-! ## Availability -/

structure TenantRootAcceptedLossReceipt where
  authorizationBytes : List UInt8
  authorizationDigest : Bytes 32
  deriving DecidableEq

/-- Where the recovery set of an externally restored root came from. -/
structure TenantRootTenantHeldExternalProvenance where
  identityDigest : TenantRootIdentityDigest
  custodyLineage : TenantRootCustodyLineageId
  destinationFingerprint : Bytes 32
  restoreSessionId : NonZeroBytes 16
  recoverySetId : NonZeroBytes 16
  manifestDigest : Bytes 32
  deriverAAcceptanceReceiptDigest : TenantRootLifecycleReceiptDigest
  deriverBAcceptanceReceiptDigest : TenantRootLifecycleReceiptDigest
  deriverAImportedCommitment : MpcPrfShareCommitmentWire
  deriverBImportedCommitment : MpcPrfShareCommitmentWire
  stableRootCommitment : Bytes 32
  restoreContextDigest : TenantRootProtocolDigest
  restoreRefreshCommandDigest : TenantRootProtocolDigest
  deriving DecidableEq

inductive TenantRootBackupPolicy where
  | currentRoleBackups (receipts : TenantRootRoleBackupReceipts)
  | acceptedPermanentDerivationLoss (receipt : TenantRootAcceptedLossReceipt)
  | tenantHeldExternal (provenance : TenantRootTenantHeldExternalProvenance)
  deriving DecidableEq

def TenantRootBackupPolicy.isCurrentRoleBackups : TenantRootBackupPolicy → Bool
  | currentRoleBackups _ => true
  | acceptedPermanentDerivationLoss _ => false
  | tenantHeldExternal _ => false

inductive TenantRootActivationReceiptTransition where
  | initialCreation
  | refreshSwap
  deriving DecidableEq

/-- The scope that an availability policy is checked against. -/
structure ActivationScope where
  identityDigest : TenantRootIdentityDigest
  custodyLineage : TenantRootCustodyLineageId
  transition : TenantRootActivationReceiptTransition
  targetEpoch : TenantRootShareEpoch
  contextDigest : TenantRootProtocolDigest
  commitments : TenantRootEpochCommitments
  installationReceipts : TenantRootRoleInstallationReceipts
  expectedControlPlaneRevision : ℕ
  resultControlPlaneRevision : ℕ
  issuedAtMs : ℕ
  expiresAtMs : ℕ
  deriving DecidableEq

def TenantRootTenantHeldExternalProvenance.validateForScope
    (provenance : TenantRootTenantHeldExternalProvenance) (scope : ActivationScope) :
    RouterAbDerivationResult Unit :=
  ensure (provenance.identityDigest = scope.identityDigest ∧
      provenance.custodyLineage = scope.custodyLineage ∧
      provenance.stableRootCommitment = scope.commitments.rootCommitment ∧
      (scope.transition = .initialCreation →
        scope.targetEpoch = .initial ∧ provenance.restoreContextDigest = scope.contextDigest) ∧
      (scope.transition = .refreshSwap → scope.targetEpoch ≠ .initial))
    (replayMismatch
      "tenant-root tenant-held external provenance does not match activation scope")

/-- The group, the hash and the codec of accepted-loss authorizations. A decoded
authorization names the scope it was signed for. -/
structure TenantRootEnvironment (q : ℕ) (G : Type) [AddCommGroup G] [Module (ZMod q) G] where
  ristretto : Ristretto255 q G
  sha256 : List UInt8 → Bytes 32
  decodeAcceptedLoss : List UInt8 → RouterAbDerivationResult ActivationScope
  acceptedLossDigest : ActivationScope → RouterAbDerivationResult (Bytes 32)

def validateBackupPolicy {q : ℕ} {G : Type} [AddCommGroup G] [Module (ZMod q) G]
    (env : TenantRootEnvironment q G) (policy : TenantRootBackupPolicy)
    (scope : ActivationScope) : RouterAbDerivationResult Unit :=
  match policy with
  | .currentRoleBackups _ => .ok ()
  | .tenantHeldExternal provenance => provenance.validateForScope scope
  | .acceptedPermanentDerivationLoss accepted => do
    let authorization ← env.decodeAcceptedLoss accepted.authorizationBytes
    let digest ← env.acceptedLossDigest authorization
    ensure (digest = accepted.authorizationDigest ∧ authorization = scope)
      (replayMismatch "tenant-root accepted-loss authorization does not match lifecycle scope")

inductive TenantRootActivationReceiptAvailability where
  | currentRoleBackups (receipts : TenantRootRoleBackupReceipts)
  | acceptedPermanentDerivationLoss (authorizationBytes : List UInt8)
      (authorizationDigest : Bytes 32)
  | tenantHeldExternal (provenance : TenantRootTenantHeldExternalProvenance)

def availabilityMismatch : RouterAbDerivationError :=
  replayMismatch
    "tenant-root activation receipt availability does not match verified lifecycle evidence"

def validateActivationAvailability (expected : TenantRootBackupPolicy)
    (actual : TenantRootActivationReceiptAvailability) : RouterAbDerivationResult Unit :=
  match expected, actual with
  | .currentRoleBackups expected, .currentRoleBackups actual =>
    ensure (expected = actual) availabilityMismatch
  | .acceptedPermanentDerivationLoss expected,
      .acceptedPermanentDerivationLoss authorizationBytes authorizationDigest =>
        ensure (expected.authorizationBytes = authorizationBytes ∧
          expected.authorizationDigest = authorizationDigest) availabilityMismatch
  | .tenantHeldExternal expected, .tenantHeldExternal actual =>
    ensure (expected = actual) availabilityMismatch
  | _, _ => .error availabilityMismatch

/-! ## Pending, verified and active epochs -/

inductive TenantRootEpochTransition where
  | initialCreation
  | refresh (previousEpoch : TenantRootShareEpoch)
  deriving DecidableEq

structure PendingTenantRootEpoch where
  transition : TenantRootEpochTransition
  epoch : TenantRootShareEpoch
  ceremonyDigest : TenantRootProtocolDigest
  issuedAtMs : ℕ
  expiresAtMs : ℕ
  deriving DecidableEq

namespace PendingTenantRootEpoch

def fromCreationContext (sha256 : List UInt8 → Bytes 32) (context : TenantRootCeremonyContext) :
    RouterAbDerivationResult PendingTenantRootEpoch := do
  context.validate
  match context.epochs with
  | .refresh _ _ =>
    .error (malformed "tenant-root creation lifecycle requires a create ceremony")
  | .create next => do
    ensure (next = .initial) (malformed "tenant-root creation lifecycle requires epoch 1")
    let ceremonyDigest ← context.digest sha256
    return ⟨.initialCreation, next, ceremonyDigest, context.issuedAtMs, context.expiresAtMs⟩

def fromRefreshContext (sha256 : List UInt8 → Bytes 32) (context : TenantRootCeremonyContext) :
    RouterAbDerivationResult PendingTenantRootEpoch := do
  context.validate
  match context.epochs with
  | .create _ =>
    .error (malformed "tenant-root refresh lifecycle requires a refresh ceremony")
  | .refresh current next => do
    let expected ← current.next
    ensure (expected = next)
      (malformed "tenant-root refresh lifecycle must advance exactly one epoch")
    let ceremonyDigest ← context.digest sha256
    return ⟨.refresh current, next, ceremonyDigest, context.issuedAtMs, context.expiresAtMs⟩

variable {sha256 : List UInt8 → Bytes 32}

/-- A pending refresh allocates the epoch after the one it starts from. -/
theorem fromRefreshContext_eq_ok {context : TenantRootCeremonyContext}
    {pending : PendingTenantRootEpoch} (h : fromRefreshContext sha256 context = .ok pending) :
    ∃ current next, context.epochs = .refresh current next ∧
      pending.transition = .refresh current ∧ pending.epoch.get = current.get + 1 := by
  obtain ⟨_, -, h⟩ := bind_eq_ok.mp h
  split at h
  · cases h
  · rename_i current next hepochs
    simp only [ok_iff] at h
    obtain ⟨expected, hexpected, rfl, _, -, rfl⟩ := h
    unfold TenantRootShareEpoch.next at hexpected
    split_ifs at hexpected
    cases hexpected
    exact ⟨current, _, hepochs, rfl, rfl⟩

end PendingTenantRootEpoch

structure VerifiedTenantRootEpoch where
  pending : PendingTenantRootEpoch
  commitments : TenantRootEpochCommitments
  installationReceipts : TenantRootRoleInstallationReceipts
  backupPolicy : TenantRootBackupPolicy
  canaryReceipts : TenantRootCanaryReceipts
  verifiedAtMs : ℕ
  deriving DecidableEq

/-! ## Activation receipts -/

structure TenantRootInitialCreationActivationReceiptBinding where
  identityDigest : TenantRootIdentityDigest
  custodyLineage : TenantRootCustodyLineageId
  contextDigest : TenantRootProtocolDigest
  expectedControlPlaneRevision : ℕ
  resultControlPlaneRevision : ℕ
  commitments : TenantRootEpochCommitments
  installationReceipts : TenantRootRoleInstallationReceipts
  availability : TenantRootActivationReceiptAvailability
  canaryReceipts : TenantRootCanaryReceipts
  activatedAtMs : ℕ
  issuedAtMs : ℕ
  expiresAtMs : ℕ

structure TenantRootRefreshSwapActivationReceiptBinding where
  identityDigest : TenantRootIdentityDigest
  custodyLineage : TenantRootCustodyLineageId
  currentEpoch : TenantRootShareEpoch
  nextEpoch : TenantRootShareEpoch
  currentCommitments : TenantRootEpochCommitments
  nextCommitments : TenantRootEpochCommitments
  contextDigest : TenantRootProtocolDigest
  expectedControlPlaneRevision : ℕ
  resultControlPlaneRevision : ℕ
  installationReceipts : TenantRootRoleInstallationReceipts
  availability : TenantRootActivationReceiptAvailability
  canaryReceipts : TenantRootCanaryReceipts
  activatedAtMs : ℕ
  issuedAtMs : ℕ
  expiresAtMs : ℕ

inductive TenantRootActivationReceiptBinding where
  | initialCreation (binding : TenantRootInitialCreationActivationReceiptBinding)
  | refreshSwap (binding : TenantRootRefreshSwapActivationReceiptBinding)

namespace TenantRootActivationReceiptBinding

def activatedAtMs : TenantRootActivationReceiptBinding → ℕ
  | initialCreation binding => binding.activatedAtMs
  | refreshSwap binding => binding.activatedAtMs

def issuedAtMs : TenantRootActivationReceiptBinding → ℕ
  | initialCreation binding => binding.issuedAtMs
  | refreshSwap binding => binding.issuedAtMs

def expiresAtMs : TenantRootActivationReceiptBinding → ℕ
  | initialCreation binding => binding.expiresAtMs
  | refreshSwap binding => binding.expiresAtMs

end TenantRootActivationReceiptBinding

structure VerifiedTenantRootSignedActivationReceipt where
  binding : TenantRootActivationReceiptBinding
  canonicalBytes : List UInt8
  digest : TenantRootLifecycleReceiptDigest

def VerifiedTenantRootSignedActivationReceipt.requireFresh
    (receipt : VerifiedTenantRootSignedActivationReceipt) (nowMs : ℕ) :
    RouterAbDerivationResult Unit :=
  ensure (receipt.binding.issuedAtMs ≤ nowMs ∧ nowMs ≤ receipt.binding.expiresAtMs)
    (replayMismatch "tenant-root activation receipt is outside its freshness window")

structure TenantRootActivationReceiptProjection where
  canonicalBytes : List UInt8
  digest : TenantRootLifecycleReceiptDigest
  activatedAtMs : ℕ
  deriving DecidableEq

def projectVerifiedActivation (receipt : VerifiedTenantRootSignedActivationReceipt) :
    TenantRootActivationReceiptProjection :=
  ⟨receipt.canonicalBytes, receipt.digest, receipt.binding.activatedAtMs⟩

structure ActiveTenantRootEpoch where
  verified : VerifiedTenantRootEpoch
  activation : TenantRootActivationReceiptProjection
  deriving DecidableEq

namespace ActiveTenantRootEpoch

def epoch (active : ActiveTenantRootEpoch) : TenantRootShareEpoch := active.verified.pending.epoch

def commitments (active : ActiveTenantRootEpoch) : TenantRootEpochCommitments :=
  active.verified.commitments

end ActiveTenantRootEpoch

end SeamsWallet.TenantRoot
