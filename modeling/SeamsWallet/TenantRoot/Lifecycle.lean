import SeamsWallet.TenantRoot.Epochs

/-!
# Creating and refreshing a tenant root

The control plane moves a tenant root through its creation and then through refreshes:
a ceremony is started, its evidence verified, the verified epoch activated, the previous
epoch retired; a refresh that fails before activation may be retried after cleanup. Each
transition consumes a state and raises the revision. A lemma beside each transition says
what it keeps of the state and what it adds.
-/

namespace SeamsWallet.TenantRoot

open Library ThresholdPrf TenantRootEpochCommitments PendingTenantRootEpoch

/-! ## Checks -/

def checkedNextRevision (exhausted : String) (current : ℕ) : RouterAbDerivationResult ℕ :=
  if current + 1 < 2 ^ 64 then .ok (current + 1) else .error (malformed exhausted)

theorem checkedNextRevision_eq_ok {exhausted : String} {current next : ℕ}
    (h : checkedNextRevision exhausted current = .ok next) : next = current + 1 := by
  unfold checkedNextRevision at h
  split_ifs at h
  exact (Except.ok.inj h).symm

theorem revised_eq_ok {α S : Type} {check : RouterAbDerivationResult α} {exhausted : String}
    {current : ℕ} {next : α → ℕ → S} {state : S}
    (h : (check >>= fun a => checkedNextRevision exhausted current >>= fun revision =>
      pure (next a revision)) = .ok state) :
    ∃ a, next a (current + 1) = state := by
  simp only [ok_iff] at h
  obtain ⟨a, -, revision, hrevision, rfl⟩ := h
  exact ⟨a, checkedNextRevision_eq_ok hrevision ▸ rfl⟩

def nextRevision : ℕ → RouterAbDerivationResult ℕ :=
  checkedNextRevision "tenant-root lifecycle revision is exhausted"

def requireTimestamp (field : String) (value : ℕ) : RouterAbDerivationResult Unit :=
  ensure (value ≠ 0) (malformed s!"{field} must be non-zero")

/-- The events that must happen within the lifetime of their ceremony. -/
inductive TransitionEvent where
  | verification
  | activation

def TransitionEvent.message : TransitionEvent → String
  | verification => "tenant-root verification must occur within the ceremony lifetime"
  | activation => "tenant-root activation must occur within the ceremony lifetime"

def requireTransitionTime (pending : PendingTenantRootEpoch) (eventAtMs : ℕ)
    (event : TransitionEvent) : RouterAbDerivationResult Unit := do
  requireTimestamp "tenant-root transition timestamp" eventAtMs
  ensure (pending.issuedAtMs ≤ eventAtMs ∧ eventAtMs ≤ pending.expiresAtMs)
    (malformed event.message)

def requireEventOrder (earliestEventAtMs eventAtMs completionAtMs : ℕ) :
    RouterAbDerivationResult Unit :=
  ensure (earliestEventAtMs ≤ eventAtMs ∧ eventAtMs ≤ completionAtMs)
    (malformed "tenant-root failure and cleanup timestamps are inconsistent")

variable {q : ℕ} {G : Type}

/-- The evidence and receipts that verify a pending epoch. -/
structure EpochVerification (q : ℕ) (G : Type) where
  deriverA : TenantRootShareInstallationEvidence q G
  deriverB : TenantRootShareInstallationEvidence q G
  installationReceipts : TenantRootRoleInstallationReceipts
  backupPolicy : TenantRootBackupPolicy
  canaryReceipts : TenantRootCanaryReceipts
  verifiedAtMs : ℕ

def EpochVerification.epoch (verification : EpochVerification q G)
    (pending : PendingTenantRootEpoch) (commitments : TenantRootEpochCommitments) :
    VerifiedTenantRootEpoch :=
  ⟨pending, commitments, verification.installationReceipts, verification.backupPolicy,
    verification.canaryReceipts, verification.verifiedAtMs⟩

/-! ## Creation -/

structure TenantRootEmptyCreation where
  identity : TenantRootIdentity
  custodyLineage : TenantRootCustodyLineageId
  revision : ℕ

structure TenantRootPreparingCreation where
  identity : TenantRootIdentity
  custodyLineage : TenantRootCustodyLineageId
  next : PendingTenantRootEpoch
  revision : ℕ
  deriving DecidableEq

structure TenantRootVerifiedCreation where
  identity : TenantRootIdentity
  custodyLineage : TenantRootCustodyLineageId
  next : VerifiedTenantRootEpoch
  revision : ℕ
  deriving DecidableEq

structure TenantRootActiveCreation where
  identity : TenantRootIdentity
  custodyLineage : TenantRootCustodyLineageId
  current : ActiveTenantRootEpoch
  revision : ℕ
  deriving DecidableEq

def TenantRootEmptyCreation.new (identity : TenantRootIdentity)
    (custodyLineage : TenantRootCustodyLineageId) : TenantRootEmptyCreation :=
  ⟨identity, custodyLineage, 0⟩

variable [AddCommGroup G] [Module (ZMod q) G]

def TenantRootEmptyCreation.start (env : TenantRootEnvironment q G)
    (state : TenantRootEmptyCreation) (context : TenantRootCeremonyContext) :
    RouterAbDerivationResult TenantRootPreparingCreation := do
  let identityDigest ← state.identity.digest env.sha256
  ensure (identityDigest = context.identityDigest ∧ state.custodyLineage = context.custodyLineage)
    (malformed "tenant-root creation ceremony does not match its allocated identity and lineage")
  let next ← fromCreationContext env.sha256 context
  let revision ← nextRevision state.revision
  return ⟨state.identity, state.custodyLineage, next, revision⟩

variable {env : TenantRootEnvironment q G} {context : TenantRootCeremonyContext}

theorem TenantRootEmptyCreation.start_eq_ok {state : TenantRootEmptyCreation}
    {state' : TenantRootPreparingCreation} (h : state.start env context = .ok state') :
    state'.revision = state.revision + 1 ∧ state'.next.epoch = .initial ∧
      state'.next.transition = .initialCreation := by
  simp only [start, ok_iff] at h
  obtain ⟨_, -, -, next, hnext, revision, hrevision, rfl⟩ := h
  obtain ⟨_, -, hnext⟩ := bind_eq_ok.mp hnext
  split at hnext
  · cases hnext
  · simp only [ok_iff] at hnext
    obtain ⟨hinitial, _, -, rfl⟩ := hnext
    exact ⟨checkedNextRevision_eq_ok hrevision, hinitial, rfl⟩

def TenantRootPreparingCreation.verify [DecidableEq G] (env : TenantRootEnvironment q G)
    (state : TenantRootPreparingCreation) (verification : EpochVerification q G) :
    RouterAbDerivationResult TenantRootVerifiedCreation := do
  requireTimestamp "tenant-root verification timestamp" verification.verifiedAtMs
  ensure (state.next.issuedAtMs ≤ verification.verifiedAtMs ∧
      verification.verifiedAtMs ≤ state.next.expiresAtMs)
    (malformed "tenant-root verification must occur within the creation ceremony lifetime")
  let contextDigest ← verification.deriverA.transcript.context.digest env.sha256
  ensure (contextDigest = state.next.ceremonyDigest)
    (malformed "tenant-root installation evidence belongs to another creation ceremony")
  let pair ← verifyTenantRootCreationEvidence env.ristretto verification.deriverA
    verification.deriverB
  let commitments ← fromVerified env.ristretto pair
  let verifiedRevision ← nextRevision state.revision
  let activationRevision ← nextRevision verifiedRevision
  let identityDigest ← state.identity.digest env.sha256
  validateBackupPolicy env verification.backupPolicy
    ⟨identityDigest, state.custodyLineage, .initialCreation, state.next.epoch,
      state.next.ceremonyDigest, commitments, verification.installationReceipts,
      verifiedRevision, activationRevision, state.next.issuedAtMs, state.next.expiresAtMs⟩
  return ⟨state.identity, state.custodyLineage, verification.epoch state.next commitments,
    verifiedRevision⟩

variable {verification : EpochVerification q G}

theorem TenantRootPreparingCreation.verify_eq_ok [DecidableEq G]
    {state : TenantRootPreparingCreation} {state' : TenantRootVerifiedCreation}
    (h : state.verify env verification = .ok state') :
    state'.revision = state.revision + 1 ∧ state'.next.pending = state.next ∧
      ∃ pair, Commits env.ristretto state'.next.commitments pair := by
  simp only [verify, ok_iff] at h
  obtain ⟨-, -, _, -, -, pair, -, commitments, hcommitments, revision, hrevision, _, -, _, -, -,
    rfl⟩ := h
  exact ⟨checkedNextRevision_eq_ok hrevision, rfl, pair, fromVerified_eq_ok hcommitments⟩

def projectInitialCreationActivation (env : TenantRootEnvironment q G)
    (state : TenantRootVerifiedCreation) (receipt : VerifiedTenantRootSignedActivationReceipt) :
    RouterAbDerivationResult TenantRootActivationReceiptProjection := do
  receipt.requireFresh receipt.binding.activatedAtMs
  requireTransitionTime state.next.pending receipt.binding.activatedAtMs .activation
  ensure (state.next.verifiedAtMs ≤ receipt.binding.activatedAtMs)
    (malformed "tenant-root activation must follow verification")
  match receipt.binding with
  | .refreshSwap _ =>
    .error (replayMismatch "tenant-root initial activation receipt branch is invalid")
  | .initialCreation binding => do
    let identityDigest ← state.identity.digest env.sha256
    let resultRevision ← nextRevision state.revision
    ensure (binding.identityDigest = identityDigest ∧
        binding.custodyLineage = state.custodyLineage ∧
        binding.contextDigest = state.next.pending.ceremonyDigest ∧
        binding.expectedControlPlaneRevision = state.revision ∧
        binding.resultControlPlaneRevision = resultRevision ∧
        binding.commitments = state.next.commitments ∧
        binding.installationReceipts = state.next.installationReceipts ∧
        binding.canaryReceipts = state.next.canaryReceipts ∧
        binding.issuedAtMs = state.next.pending.issuedAtMs ∧
        binding.expiresAtMs = state.next.pending.expiresAtMs)
      (replayMismatch
        "tenant-root initial activation receipt fields do not match its lifecycle state")
    validateActivationAvailability state.next.backupPolicy binding.availability
    return projectVerifiedActivation receipt

def TenantRootVerifiedCreation.activate (env : TenantRootEnvironment q G)
    (state : TenantRootVerifiedCreation) (receipt : VerifiedTenantRootSignedActivationReceipt) :
    RouterAbDerivationResult TenantRootActiveCreation := do
  let activation ← projectInitialCreationActivation env state receipt
  let revision ← nextRevision state.revision
  return ⟨state.identity, state.custodyLineage, ⟨state.next, activation⟩, revision⟩

/-! ## Refresh -/

structure TenantRootRefreshFailure where
  digest : TenantRootLifecycleReceiptDigest
  failedAtMs : ℕ
  failedAtMs_ne_zero : failedAtMs ≠ 0

structure TenantRootPendingCleanupReceipt where
  roles : ReceiptPair
  cleanedAtMs : ℕ
  cleanedAtMs_ne_zero : cleanedAtMs ≠ 0

structure TenantRootRoleRetirementReceipts where
  roles : ReceiptPair
  retiredAtMs : ℕ
  retiredAtMs_ne_zero : retiredAtMs ≠ 0

/-- The previous epoch while it is being destroyed. -/
structure RetiringTenantRootEpoch where
  active : ActiveTenantRootEpoch
  retirementStartedAtMs : ℕ

structure TenantRootActiveRefresh where
  identity : TenantRootIdentity
  custodyLineage : TenantRootCustodyLineageId
  current : ActiveTenantRootEpoch
  revision : ℕ
  deriving DecidableEq

structure TenantRootPreparingRefresh where
  identity : TenantRootIdentity
  custodyLineage : TenantRootCustodyLineageId
  current : ActiveTenantRootEpoch
  next : PendingTenantRootEpoch
  revision : ℕ

structure TenantRootVerifiedRefresh where
  identity : TenantRootIdentity
  custodyLineage : TenantRootCustodyLineageId
  current : ActiveTenantRootEpoch
  next : VerifiedTenantRootEpoch
  revision : ℕ

structure TenantRootRetiringRefresh where
  identity : TenantRootIdentity
  custodyLineage : TenantRootCustodyLineageId
  current : ActiveTenantRootEpoch
  previous : RetiringTenantRootEpoch
  revision : ℕ

/-- A refresh that failed before its activation; only a pending epoch can fail. -/
structure TenantRootFailedBeforeActivationRefresh where
  identity : TenantRootIdentity
  custodyLineage : TenantRootCustodyLineageId
  current : ActiveTenantRootEpoch
  next : PendingTenantRootEpoch
  failure : TenantRootRefreshFailure
  cleanup : TenantRootPendingCleanupReceipt
  revision : ℕ

def TenantRootActiveCreation.intoRefreshState (state : TenantRootActiveCreation) :
    TenantRootActiveRefresh :=
  ⟨state.identity, state.custodyLineage, state.current, state.revision⟩

def TenantRootActiveRefresh.resumeAtRevision (state : TenantRootActiveRefresh) (revision : ℕ) :
    RouterAbDerivationResult TenantRootActiveRefresh := do
  ensure (state.revision ≤ revision)
    (malformed "tenant-root lifecycle revision cannot move backwards")
  return { state with revision := revision }

def TenantRootActiveRefresh.start (env : TenantRootEnvironment q G)
    (state : TenantRootActiveRefresh) (context : TenantRootCeremonyContext) :
    RouterAbDerivationResult TenantRootPreparingRefresh := do
  let identityDigest ← state.identity.digest env.sha256
  ensure (identityDigest = context.identityDigest ∧ state.custodyLineage = context.custodyLineage)
    (malformed "tenant-root refresh ceremony does not match its active identity and lineage")
  match context.epochs with
  | .create _ => .error (malformed "tenant-root active state requires a refresh ceremony")
  | .refresh current next => do
    ensure (current = state.current.epoch)
      (malformed "tenant-root refresh ceremony does not advance the active epoch exactly once")
    let expected ← current.next
    ensure (expected = next)
      (malformed "tenant-root refresh ceremony does not advance the active epoch exactly once")
    let pending ← fromRefreshContext env.sha256 context
    let revision ← nextRevision state.revision
    return ⟨state.identity, state.custodyLineage, state.current, pending, revision⟩

variable {state' : TenantRootPreparingRefresh}

theorem TenantRootActiveRefresh.start_eq_ok {state : TenantRootActiveRefresh}
    (h : state.start env context = .ok state') :
    state'.revision = state.revision + 1 ∧ state'.current = state.current ∧
      state'.next.epoch.get = state.current.epoch.get + 1 ∧
      state'.next.transition = .refresh state.current.epoch := by
  obtain ⟨_, -, h⟩ := bind_eq_ok.mp h
  obtain ⟨_, -, h⟩ := bind_eq_ok.mp h
  split at h
  · cases h
  · rename_i current next hepochs
    simp only [ok_iff] at h
    obtain ⟨hcurrent, _, -, -, pending, hpending, revision, hrevision, rfl⟩ := h
    obtain ⟨_, _, hepochs', htransition, hepoch⟩ :=
      fromRefreshContext_eq_ok hpending
    cases hepochs.symm.trans hepochs'
    rw [hcurrent] at hepoch htransition
    exact ⟨checkedNextRevision_eq_ok hrevision, rfl, hepoch, htransition⟩

def TenantRootPreparingRefresh.verify [DecidableEq G] (env : TenantRootEnvironment q G)
    (state : TenantRootPreparingRefresh) (verification : EpochVerification q G) :
    RouterAbDerivationResult TenantRootVerifiedRefresh := do
  requireTransitionTime state.next verification.verifiedAtMs .verification
  let contextDigest ← verification.deriverA.transcript.context.digest env.sha256
  ensure (contextDigest = state.next.ceremonyDigest)
    (malformed "tenant-root installation evidence belongs to another refresh ceremony")
  let commitments ← state.current.commitments.verifyRefreshEvidence env.ristretto
    verification.deriverA verification.deriverB
  let verifiedRevision ← nextRevision state.revision
  let activationRevision ← nextRevision verifiedRevision
  let identityDigest ← state.identity.digest env.sha256
  validateBackupPolicy env verification.backupPolicy
    ⟨identityDigest, state.custodyLineage, .refreshSwap, state.next.epoch,
      state.next.ceremonyDigest, commitments, verification.installationReceipts,
      verifiedRevision, activationRevision, state.next.issuedAtMs, state.next.expiresAtMs⟩
  return ⟨state.identity, state.custodyLineage, state.current,
    verification.epoch state.next commitments, verifiedRevision⟩

variable {state : TenantRootPreparingRefresh}

theorem TenantRootPreparingRefresh.verify_eq_ok [DecidableEq G] {state' : TenantRootVerifiedRefresh}
    (h : state.verify env verification = .ok state') :
    state'.revision = state.revision + 1 ∧ state'.current = state.current ∧
      state'.next.pending = state.next ∧
      ∃ pair pair', Commits env.ristretto state.current.commitments pair ∧
        Commits env.ristretto state'.next.commitments pair' ∧ pair.root = pair'.root ∧
        pair'.deriverA.point ≠ pair.deriverA.point ∧
        pair'.deriverB.point ≠ pair.deriverB.point := by
  simp only [verify, verifyRefreshEvidence, verifyTenantRootRefreshEvidence,
    verifyTwoPartyRootShareRefresh, ok_iff] at h
  obtain ⟨-, _, -, -, commitments, ⟨pair, hpair, pair', ⟨-, -, _, -, ⟨⟨hA, hB⟩, -, hroot⟩, rfl⟩,
    hnext⟩, revision, hrevision, _, -, _, -, -, rfl⟩ := h
  simp only [thresholdPair, ok_iff] at hpair
  obtain ⟨_, hcommitsA, _, hcommitsB, _, hpair, hcommits, rfl⟩ := hpair
  obtain ⟨-, -, -, -, -, -, rfl, rfl⟩ := new_eq_ok.mp hpair
  exact ⟨checkedNextRevision_eq_ok hrevision, rfl, rfl, _, _, ⟨hcommitsA, hcommitsB, hcommits⟩,
    fromVerified_eq_ok hnext, hroot, sub_ne_zero.mp hA, sub_ne_zero.mp hB⟩

def TenantRootPreparingRefresh.failWithCleanup (state : TenantRootPreparingRefresh)
    (failure : TenantRootRefreshFailure) (cleanup : TenantRootPendingCleanupReceipt) :
    RouterAbDerivationResult TenantRootFailedBeforeActivationRefresh := do
  requireEventOrder state.next.issuedAtMs failure.failedAtMs cleanup.cleanedAtMs
  let revision ← nextRevision state.revision
  return ⟨state.identity, state.custodyLineage, state.current, state.next, failure, cleanup,
    revision⟩

def projectRefreshActivation (env : TenantRootEnvironment q G)
    (state : TenantRootVerifiedRefresh) (receipt : VerifiedTenantRootSignedActivationReceipt) :
    RouterAbDerivationResult TenantRootActivationReceiptProjection := do
  receipt.requireFresh receipt.binding.activatedAtMs
  requireTransitionTime state.next.pending receipt.binding.activatedAtMs .activation
  ensure (state.next.verifiedAtMs ≤ receipt.binding.activatedAtMs)
    (malformed "tenant-root refresh activation must follow verification")
  match receipt.binding with
  | .initialCreation _ =>
    .error (replayMismatch "tenant-root refresh activation receipt branch is invalid")
  | .refreshSwap binding => do
    let identityDigest ← state.identity.digest env.sha256
    let resultRevision ← nextRevision state.revision
    ensure (binding.identityDigest = identityDigest ∧
        binding.custodyLineage = state.custodyLineage ∧
        binding.currentEpoch = state.current.epoch ∧
        binding.nextEpoch = state.next.pending.epoch ∧
        binding.currentCommitments = state.current.commitments ∧
        binding.nextCommitments = state.next.commitments ∧
        binding.contextDigest = state.next.pending.ceremonyDigest ∧
        binding.expectedControlPlaneRevision = state.revision ∧
        binding.resultControlPlaneRevision = resultRevision ∧
        binding.installationReceipts = state.next.installationReceipts ∧
        binding.canaryReceipts = state.next.canaryReceipts ∧
        binding.issuedAtMs = state.next.pending.issuedAtMs ∧
        binding.expiresAtMs = state.next.pending.expiresAtMs)
      (replayMismatch
        "tenant-root refresh activation receipt fields do not match its lifecycle state")
    validateActivationAvailability state.next.backupPolicy binding.availability
    return projectVerifiedActivation receipt

def TenantRootVerifiedRefresh.activate (env : TenantRootEnvironment q G)
    (state : TenantRootVerifiedRefresh) (receipt : VerifiedTenantRootSignedActivationReceipt) :
    RouterAbDerivationResult TenantRootRetiringRefresh := do
  let activation ← projectRefreshActivation env state receipt
  let revision ← nextRevision state.revision
  return ⟨state.identity, state.custodyLineage, ⟨state.next, activation⟩,
    ⟨state.current, activation.activatedAtMs⟩, revision⟩

def TenantRootRetiringRefresh.finishRetirement (state : TenantRootRetiringRefresh)
    (receipts : TenantRootRoleRetirementReceipts) :
    RouterAbDerivationResult TenantRootActiveRefresh := do
  ensure (state.current.activation.activatedAtMs ≤ receipts.retiredAtMs)
    (malformed "tenant-root retirement cannot predate forward activation")
  let revision ← nextRevision state.revision
  return ⟨state.identity, state.custodyLineage, state.current, revision⟩

def TenantRootFailedBeforeActivationRefresh.retry (env : TenantRootEnvironment q G)
    (state : TenantRootFailedBeforeActivationRefresh) (context : TenantRootCeremonyContext) :
    RouterAbDerivationResult TenantRootPreparingRefresh := do
  let identityDigest ← state.identity.digest env.sha256
  ensure (identityDigest = context.identityDigest ∧ state.custodyLineage = context.custodyLineage)
    (malformed "tenant-root refresh retry does not match its active identity and lineage")
  let next ← fromRefreshContext env.sha256 context
  ensure (next.ceremonyDigest ≠ state.next.ceremonyDigest)
    (malformed "tenant-root refresh retry requires a fresh ceremony")
  match next.transition with
  | .initialCreation =>
    .error (malformed "tenant-root refresh retry requires a refresh transition")
  | .refresh previousEpoch => do
    ensure (previousEpoch = state.current.epoch)
      (malformed "tenant-root refresh retry does not start from the active epoch")
    let revision ← nextRevision state.revision
    return ⟨state.identity, state.custodyLineage, state.current, next, revision⟩

theorem TenantRootFailedBeforeActivationRefresh.retry_eq_ok
    {state : TenantRootFailedBeforeActivationRefresh} (h : state.retry env context = .ok state') :
    state'.revision = state.revision + 1 ∧ state'.current = state.current ∧
      state'.next.epoch.get = state.current.epoch.get + 1 ∧
      state'.next.transition = .refresh state.current.epoch := by
  simp only [retry, bind_eq_ok] at h
  obtain ⟨_, -, _, -, next, hnext, _, -, h⟩ := h
  obtain ⟨previousEpoch, _, -, htransition, hepoch⟩ :=
    fromRefreshContext_eq_ok hnext
  simp only [htransition, ok_iff] at h
  obtain ⟨hprevious, revision, hrevision, rfl⟩ := h
  rw [hprevious] at hepoch htransition
  exact ⟨checkedNextRevision_eq_ok hrevision, rfl, hepoch, htransition⟩

end SeamsWallet.TenantRoot
