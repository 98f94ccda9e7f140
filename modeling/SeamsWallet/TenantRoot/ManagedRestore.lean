import SeamsWallet.TenantRoot.Lifecycle

/-!
# Restoring one role of a tenant root

When one role of an active root becomes unavailable, its current share is restored from
the role's own backup under a one-use capability, checked against the active commitments
of both roles, and followed by a mandatory forward refresh. The active epoch stays in
place through the restore; the forward refresh is the ordinary one, started at the
revision the restore has reached.
-/

namespace SeamsWallet.TenantRoot

open Library ThresholdPrf TenantRootEpochCommitments

/-! ## Receipts and capabilities -/

inductive TenantRootManagedRestoreRole where
  | deriverA
  | deriverB
  deriving DecidableEq

def TenantRootManagedRestoreRole.peer : TenantRootManagedRestoreRole → TenantRootManagedRestoreRole
  | deriverA => deriverB
  | deriverB => deriverA

structure TenantRootRoleUnavailableReceipt where
  digest : TenantRootLifecycleReceiptDigest
  role : TenantRootManagedRestoreRole
  unavailableAtMs : ℕ
  unavailableAtMs_ne_zero : unavailableAtMs ≠ 0
  deriving DecidableEq

structure TenantRootManagedRestoreCapability where
  digest : TenantRootLifecycleReceiptDigest
  identityDigest : TenantRootIdentityDigest
  custodyLineage : TenantRootCustodyLineageId
  role : TenantRootManagedRestoreRole
  epoch : TenantRootShareEpoch
  activationReceiptDigest : TenantRootLifecycleReceiptDigest
  issuedAtMs : ℕ
  expiresAtMs : ℕ
  issuedAtMs_ne_zero : issuedAtMs ≠ 0
  lifetime : expiresAtMs > issuedAtMs
  deriving DecidableEq

structure TenantRootManagedRestoreInstallationReceipt where
  digest : TenantRootLifecycleReceiptDigest
  capabilityDigest : TenantRootLifecycleReceiptDigest
  identityDigest : TenantRootIdentityDigest
  custodyLineage : TenantRootCustodyLineageId
  role : TenantRootManagedRestoreRole
  epoch : TenantRootShareEpoch
  activationReceiptDigest : TenantRootLifecycleReceiptDigest
  shareCommitment : MpcPrfShareCommitmentWire
  installedAtMs : ℕ
  installedAtMs_ne_zero : installedAtMs ≠ 0
  deriving DecidableEq

structure TenantRootManagedRestorePeerVerificationReceipt where
  digest : TenantRootLifecycleReceiptDigest
  identityDigest : TenantRootIdentityDigest
  custodyLineage : TenantRootCustodyLineageId
  role : TenantRootManagedRestoreRole
  epoch : TenantRootShareEpoch
  activationReceiptDigest : TenantRootLifecycleReceiptDigest
  shareCommitment : MpcPrfShareCommitmentWire
  verifiedAtMs : ℕ
  verifiedAtMs_ne_zero : verifiedAtMs ≠ 0

structure TenantRootManagedRestoreFailure where
  digest : TenantRootLifecycleReceiptDigest
  failedAtMs : ℕ
  failedAtMs_ne_zero : failedAtMs ≠ 0
  deriving DecidableEq

structure TenantRootManagedRestoreCleanupReceipt where
  digest : TenantRootLifecycleReceiptDigest
  role : TenantRootManagedRestoreRole
  cleanedAtMs : ℕ
  cleanedAtMs_ne_zero : cleanedAtMs ≠ 0
  deriving DecidableEq

inductive TenantRootManagedRestoreFailedAttempt where
  | installing (capability : TenantRootManagedRestoreCapability) (startedAtMs : ℕ)
  | installed (capability : TenantRootManagedRestoreCapability)
      (installation : TenantRootManagedRestoreInstallationReceipt)
  deriving DecidableEq

namespace TenantRootManagedRestoreFailedAttempt

def capability : TenantRootManagedRestoreFailedAttempt → TenantRootManagedRestoreCapability
  | installing capability _ => capability
  | installed capability _ => capability

def earliestFailureAtMs : TenantRootManagedRestoreFailedAttempt → ℕ
  | installing _ startedAtMs => startedAtMs
  | installed _ installation => installation.installedAtMs

end TenantRootManagedRestoreFailedAttempt

inductive TenantRootRoleUnavailabilityEvidence where
  | observed (receipt : TenantRootRoleUnavailableReceipt)
  | restoreAttemptCleaned (receipt : TenantRootRoleUnavailableReceipt)
      (attempt : TenantRootManagedRestoreFailedAttempt)
      (failure : TenantRootManagedRestoreFailure)
      (cleanup : TenantRootManagedRestoreCleanupReceipt)
  deriving DecidableEq

namespace TenantRootRoleUnavailabilityEvidence

def receipt : TenantRootRoleUnavailabilityEvidence → TenantRootRoleUnavailableReceipt
  | observed receipt => receipt
  | restoreAttemptCleaned receipt _ _ _ => receipt

def earliestNewCapabilityAtMs : TenantRootRoleUnavailabilityEvidence → ℕ
  | observed receipt => receipt.unavailableAtMs
  | restoreAttemptCleaned _ _ _ cleanup => cleanup.cleanedAtMs

def previousCapabilityDigest :
    TenantRootRoleUnavailabilityEvidence → Option TenantRootLifecycleReceiptDigest
  | observed _ => none
  | restoreAttemptCleaned _ attempt _ _ => some attempt.capability.digest

end TenantRootRoleUnavailabilityEvidence

/-! ## States -/

/-- An active root whose current epoch both roles have backed up. -/
structure TenantRootManagedRestoreAvailable where
  active : TenantRootActiveRefresh
  backed : active.current.verified.backupPolicy.isCurrentRoleBackups = true

structure TenantRootManagedRestoreRoleUnavailable where
  active : TenantRootActiveRefresh
  evidence : TenantRootRoleUnavailabilityEvidence
  revision : ℕ
  deriving DecidableEq

structure TenantRootManagedRestoreInstallingCore where
  active : TenantRootActiveRefresh
  evidence : TenantRootRoleUnavailabilityEvidence
  capability : TenantRootManagedRestoreCapability
  startedAtMs : ℕ
  revision : ℕ
  deriving DecidableEq

inductive TenantRootManagedRestoreInstalling where
  | restoringA (core : TenantRootManagedRestoreInstallingCore)
  | restoringB (core : TenantRootManagedRestoreInstallingCore)
  deriving DecidableEq

structure TenantRootManagedRestoreVerifying where
  active : TenantRootActiveRefresh
  evidence : TenantRootRoleUnavailabilityEvidence
  capability : TenantRootManagedRestoreCapability
  installation : TenantRootManagedRestoreInstallationReceipt
  revision : ℕ

structure TenantRootManagedRestoreVerificationEvidence where
  role : TenantRootManagedRestoreRole
  epoch : TenantRootShareEpoch
  capabilityDigest : TenantRootLifecycleReceiptDigest
  installationReceiptDigest : TenantRootLifecycleReceiptDigest
  peerReceiptDigest : TenantRootLifecycleReceiptDigest
  verifiedAtMs : ℕ

/-- A phase of the forward refresh that follows a restore. -/
structure TenantRootManagedRestoreForward (S : Type) where
  restored : TenantRootManagedRestoreVerificationEvidence
  refresh : S

/-! ## Checks -/

def roleCommitment (active : ActiveTenantRootEpoch) :
    TenantRootManagedRestoreRole → MpcPrfShareCommitmentWire
  | .deriverA => active.commitments.deriverA
  | .deriverB => active.commitments.deriverB

variable {q : ℕ} {G : Type} [AddCommGroup G] [Module (ZMod q) G] (env : TenantRootEnvironment q G)

def validateCapability (active : TenantRootActiveRefresh)
    (evidence : TenantRootRoleUnavailabilityEvidence)
    (capability : TenantRootManagedRestoreCapability) (startedAtMs : ℕ) :
    RouterAbDerivationResult Unit := do
  ensure (capability.role = evidence.receipt.role)
    (malformed ("managed restore cannot substitute the unavailable role; dual-role loss " ++
      "requires tenant recovery"))
  let identityDigest ← active.identity.digest env.sha256
  ensure (capability.identityDigest = identityDigest ∧
      capability.custodyLineage = active.custodyLineage ∧
      capability.epoch = active.current.epoch ∧
      capability.activationReceiptDigest = active.current.activation.digest)
    (malformed ("tenant-root managed-restore capability does not match the authoritative active " ++
      "custody binding"))
  ensure (evidence.earliestNewCapabilityAtMs ≤ capability.issuedAtMs ∧
      capability.issuedAtMs ≤ startedAtMs ∧ startedAtMs ≤ capability.expiresAtMs)
    (malformed "tenant-root managed-restore capability is stale or outside its lifetime")
  ensure (evidence.previousCapabilityDigest ≠ some capability.digest)
    (malformed "tenant-root managed-restore retry requires a fresh one-use capability")

def validateInstallation (core : TenantRootManagedRestoreInstallingCore)
    (receipt : TenantRootManagedRestoreInstallationReceipt) :
    RouterAbDerivationResult Unit := do
  ensure (receipt.capabilityDigest = core.capability.digest ∧
      receipt.identityDigest = core.capability.identityDigest ∧
      receipt.custodyLineage = core.capability.custodyLineage ∧
      receipt.role = core.capability.role ∧ receipt.epoch = core.capability.epoch ∧
      receipt.activationReceiptDigest = core.capability.activationReceiptDigest ∧
      receipt.shareCommitment = roleCommitment core.active.current core.capability.role)
    (malformed ("tenant-root managed-restore installation does not match its capability and " ++
      "active commitment"))
  ensure (core.startedAtMs ≤ receipt.installedAtMs ∧
      receipt.installedAtMs ≤ core.capability.expiresAtMs)
    (malformed "tenant-root managed-restore installation is outside its capability lifetime")

def validatePeerVerification (active : TenantRootActiveRefresh)
    (capability : TenantRootManagedRestoreCapability)
    (installation : TenantRootManagedRestoreInstallationReceipt)
    (peer : TenantRootManagedRestorePeerVerificationReceipt) :
    RouterAbDerivationResult Unit := do
  ensure (peer.digest ≠ installation.digest ∧ peer.identityDigest = capability.identityDigest ∧
      peer.custodyLineage = capability.custodyLineage ∧
      peer.role = capability.role.peer ∧ peer.epoch = capability.epoch ∧
      peer.activationReceiptDigest = capability.activationReceiptDigest ∧
      peer.shareCommitment = roleCommitment active.current peer.role)
    (malformed "tenant-root managed-restore peer verification does not match the active role pair")
  ensure (installation.installedAtMs ≤ peer.verifiedAtMs ∧
      peer.verifiedAtMs ≤ capability.expiresAtMs)
    (malformed "tenant-root managed-restore peer verification is outside its capability lifetime")

def validateFailureOrder (attempt : TenantRootManagedRestoreFailedAttempt)
    (failure : TenantRootManagedRestoreFailure)
    (cleanup : TenantRootManagedRestoreCleanupReceipt) : RouterAbDerivationResult Unit :=
  ensure (cleanup.role = attempt.capability.role ∧
      attempt.earliestFailureAtMs ≤ failure.failedAtMs ∧
      failure.failedAtMs ≤ cleanup.cleanedAtMs)
    (malformed "tenant-root managed-restore failure and cleanup evidence are inconsistent")

/-! ## Transitions -/

def nextRestoreRevision : ℕ → RouterAbDerivationResult ℕ :=
  checkedNextRevision "tenant-root managed-restore lifecycle revision is exhausted"

namespace TenantRootManagedRestoreAvailable

def new (active : TenantRootActiveRefresh) :
    RouterAbDerivationResult TenantRootManagedRestoreAvailable :=
  if h : active.current.verified.backupPolicy.isCurrentRoleBackups = true then .ok ⟨active, h⟩
  else .error (malformed "tenant root without current role backups cannot enter managed restore")

variable {state : TenantRootManagedRestoreAvailable}

theorem new_eq_ok {active : TenantRootActiveRefresh} (h : new active = .ok state) :
    state.active = active := by
  unfold new at h
  split_ifs at h
  cases h
  rfl

def markRoleUnavailable (state : TenantRootManagedRestoreAvailable)
    (receipt : TenantRootRoleUnavailableReceipt) :
    RouterAbDerivationResult TenantRootManagedRestoreRoleUnavailable := do
  ensure (state.active.current.activation.activatedAtMs ≤ receipt.unavailableAtMs)
    (malformed "tenant-root role unavailability cannot predate active-epoch activation")
  let revision ← nextRestoreRevision state.active.revision
  return ⟨state.active, .observed receipt, revision⟩

end TenantRootManagedRestoreAvailable

def TenantRootManagedRestoreInstalling.core :
    TenantRootManagedRestoreInstalling → TenantRootManagedRestoreInstallingCore
  | restoringA core => core
  | restoringB core => core

def TenantRootManagedRestoreRoleUnavailable.startRestore
    (state : TenantRootManagedRestoreRoleUnavailable)
    (capability : TenantRootManagedRestoreCapability) (startedAtMs : ℕ) :
    RouterAbDerivationResult TenantRootManagedRestoreInstalling := do
  validateCapability env state.active state.evidence capability startedAtMs
  let revision ← nextRestoreRevision state.revision
  let core : TenantRootManagedRestoreInstallingCore :=
    ⟨state.active, state.evidence, capability, startedAtMs, revision⟩
  return match capability.role with
    | .deriverA => .restoringA core
    | .deriverB => .restoringB core

def acceptInstallation (core : TenantRootManagedRestoreInstallingCore)
    (receipt : TenantRootManagedRestoreInstallationReceipt) :
    RouterAbDerivationResult TenantRootManagedRestoreVerifying := do
  validateInstallation core receipt
  let revision ← nextRestoreRevision core.revision
  return ⟨core.active, core.evidence, core.capability, receipt, revision⟩

/-- A failed installation is cleaned; the role stays unavailable. -/
def failInstallationWithCleanup (core : TenantRootManagedRestoreInstallingCore)
    (failure : TenantRootManagedRestoreFailure)
    (cleanup : TenantRootManagedRestoreCleanupReceipt) :
    RouterAbDerivationResult TenantRootManagedRestoreRoleUnavailable := do
  let attempt := .installing core.capability core.startedAtMs
  validateFailureOrder attempt failure cleanup
  let revision ← nextRestoreRevision core.revision
  return ⟨core.active, .restoreAttemptCleaned core.evidence.receipt attempt failure cleanup,
    revision⟩

def TenantRootManagedRestoreVerifying.beginForwardRefresh
    (state : TenantRootManagedRestoreVerifying)
    (peer : TenantRootManagedRestorePeerVerificationReceipt)
    (context : TenantRootCeremonyContext) :
    RouterAbDerivationResult (TenantRootManagedRestoreForward TenantRootPreparingRefresh) := do
  validatePeerVerification state.active state.capability state.installation peer
  ensure (peer.verifiedAtMs ≤ context.issuedAtMs)
    (malformed "tenant-root forward refresh cannot predate managed-restore verification")
  let restored : TenantRootManagedRestoreVerificationEvidence :=
    ⟨state.capability.role, state.capability.epoch, state.capability.digest,
      state.installation.digest, peer.digest, peer.verifiedAtMs⟩
  let active ← state.active.resumeAtRevision state.revision
  let refresh ← active.start env context
  return ⟨restored, refresh⟩

end SeamsWallet.TenantRoot
