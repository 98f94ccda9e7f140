import Mathlib.Data.List.Basic

/-!
# The tables of the authorization database

Authorized operations with what authorizes them, wallet sessions with their quotas
and hosted children, and the tables their statements only read. A row is as the
checks of its table leave it: columns that are null together are one option, and a
lifecycle column is folded into the values that come with it.
-/

namespace SeamsWallet.Authorization

structure WalletScope where
  orgId : String
  projectId : String
  envId : String
  deriving DecidableEq

structure D1WalletStoreScope extends WalletScope where
  nameSpace : String
  deriving DecidableEq

structure D1AuthorizationContext where
  nameSpace : String
  walletSignerScope : D1WalletStoreScope

def D1AuthorizationContext.scope (context : D1AuthorizationContext) : WalletScope :=
  context.walletSignerScope.toWalletScope

/-! ## Authorized operations -/

inductive CapabilityKind
  | vaultAccess
  | nearEd25519MpcSigning
  | evmEcdsaMpcSigning
  deriving DecidableEq

inductive OperationKind
  | vaultProxyUse
  | vaultReveal
  | nearSignTransaction
  | nearSignDelegateAction
  | nearSignNep413Message
  | nearExportKey
  | evmSignTransaction
  | evmExportKey
  deriving DecidableEq

structure CapabilityOperationEnvelope where
  tenantId : String
  principalId : String
  capabilityId : String
  operationId : String
  capabilityKind : CapabilityKind
  operationKind : OperationKind
  laneDigest : String
  intentDigest : String
  displayDigest : String
  deriving DecidableEq

/-- A grant refers to a wallet session authorization, the only kind of grant. -/
inductive OperationAuthorizationSource
  | authorizationGrant (authorizationId : String)
  | verifiedStepUp (evidenceSetDigest : String)
  deriving DecidableEq

inductive OperationQuota
  | consumeReusableWalletSession (quotaId : String)
  | quotaNeutral
  deriving DecidableEq

inductive CompletedCapabilityOperationResult
  | succeeded
  | failedBeforeSideEffect
  | failedAfterSideEffect
  deriving DecidableEq

structure AuthorizedOperationReplayResponse where
  status : ℕ
  contentType : String
  bodyText : String
  deriving DecidableEq

inductive AuthorizedOperationLifecycle
  | claimed
  | completed (result : CompletedCapabilityOperationResult)
      (response : AuthorizedOperationReplayResponse) (resultDigest : String)
      (completedAtMs : ℕ)
  deriving DecidableEq

structure AuthorizedOperationInput where
  tenantId : String
  authorizedOperationId : String
  auditEventId : String
  claimedAtMs : ℕ
  operation : CapabilityOperationEnvelope
  authorization : OperationAuthorizationSource
  quota : OperationQuota
  deriving DecidableEq

structure AuthorizedOperation extends AuthorizedOperationInput where
  operationFingerprintDigest : String
  lifecycle : AuthorizedOperationLifecycle
  deriving DecidableEq

structure MpcMaterialActivation where
  activationId : String
  capability : String
  materialOwner : String
  keyBinding : String
  lifecycleBinding : String
  signingWorker : String
  deriving DecidableEq

structure AuthorizedOperationRow where
  nameSpace : String
  operation : AuthorizedOperation
  material : Option MpcMaterialActivation
  ownerScope : Option WalletScope
  ownershipGeneration : Option ℕ

/-- The unique key under which admissions look an operation up. -/
structure OperationKey where
  nameSpace : String
  tenantId : String
  operationFingerprintDigest : String
  deriving DecidableEq

def AuthorizedOperationRow.key (row : AuthorizedOperationRow) : OperationKey :=
  ⟨row.nameSpace, row.operation.tenantId, row.operation.operationFingerprintDigest⟩

structure EvidenceSetRow where
  nameSpace : String
  scope : WalletScope
  tenantId : String
  evidenceSetDigest : String
  principalId : String
  walletId : String
  capabilityKind : CapabilityKind
  operationKind : OperationKind
  laneDigest : String
  intentDigest : String
  displayDigest : String
  expiresAtMs : ℕ

/-! ## Wallet sessions -/

/-- The columns a session shares with its exchange codes and hosted credentials. -/
structure SessionIdentity where
  nameSpace : String
  scope : WalletScope
  tenantId : String
  authorizationId : String
  walletSessionId : String
  quotaId : String
  principalId : String
  walletId : String
  authorityId : String
  walletAuthMethodId : String
  deriving DecidableEq

structure WalletSessionRow extends SessionIdentity where
  mintId : String
  authorityDigestB64u : String
  authorityRevocationEpoch : ℕ
  issuedAtMs : ℕ
  expiresAtMs : ℕ
  retiredAtMs : Option ℕ
  operationCredentialHash : Option String
  deriving DecidableEq

structure QuotaKey where
  nameSpace : String
  tenantId : String
  quotaId : String
  deriving DecidableEq

/-- A quota is active as long as uses remain. -/
structure WalletSessionQuotaRow where
  key : QuotaKey
  walletSessionId : String
  principalId : String
  remainingUses : ℕ
  expiresAtMs : ℕ
  deriving DecidableEq

def SessionIdentity.quotaKey (identity : SessionIdentity) : QuotaKey :=
  ⟨identity.nameSpace, identity.tenantId, identity.quotaId⟩

inductive ExchangeLifecycle
  | issued
  | consumed (hostedCredentialId : String) (consumedAtMs : ℕ)
  deriving DecidableEq

structure HostedExchangeCodeRow extends SessionIdentity where
  exchangeCodeId : String
  codeHash : String
  nonceDigest : String
  appOrigin : String
  walletOrigin : String
  issuedAtMs : ℕ
  expiresAtMs : ℕ
  lifecycle : ExchangeLifecycle

/-- A hosted credential is active until it is retired. -/
structure HostedCredentialRow extends SessionIdentity where
  hostedCredentialId : String
  credentialDigestB64u : String
  appOrigin : String
  walletOrigin : String
  issuedAtMs : ℕ
  expiresAtMs : ℕ
  retiredAtMs : Option ℕ

/-! ## Tables that are only read -/

structure WalletAuthorityRow where
  nameSpace : String
  scope : WalletScope
  authorityId : String
  walletId : String
  active : Bool
  authorityDigestB64u : String
  revocationEpoch : ℕ

structure WalletAuthMethodRow where
  nameSpace : String
  scope : WalletScope
  walletAuthMethodId : String
  walletId : String
  walletAuthorityId : String
  active : Bool

inductive ExecutionState
  | registering
  | inactive
  | active
  | retired
  deriving DecidableEq

structure ExecutionGenerationRow where
  nameSpace : String
  scope : WalletScope
  walletId : String
  generation : ℕ
  state : ExecutionState

/-- An ECDSA signer's record, with the values the statements extract from it. -/
structure EcdsaSignerRow where
  scope : D1WalletStoreScope
  walletId : String
  recordJson : String
  keyHandle : String
  materialKind : String
  materialActivation : MpcMaterialActivation

structure AuthorityInstallationRow where
  scope : D1WalletStoreScope
  walletId : String
  /-- The columns a material snapshot compares, as one JSON array. -/
  snapshot : String

structure Database where
  operations : List AuthorizedOperationRow
  quotas : List WalletSessionQuotaRow
  sessions : List WalletSessionRow
  exchanges : List HostedExchangeCodeRow
  credentials : List HostedCredentialRow
  evidenceSets : List EvidenceSetRow
  authorities : List WalletAuthorityRow
  authMethods : List WalletAuthMethodRow
  executions : List ExecutionGenerationRow
  signers : List EcdsaSignerRow
  installations : List AuthorityInstallationRow

def Database.operation? (db : Database) (key : OperationKey) : Option AuthorizedOperationRow :=
  db.operations.find? fun row => row.key = key

def Database.evidence? (db : Database) (nameSpace tenantId evidenceSetDigest : String) :
    Option EvidenceSetRow :=
  db.evidenceSets.find? fun evidence => evidence.nameSpace = nameSpace ∧
    evidence.tenantId = tenantId ∧ evidence.evidenceSetDigest = evidenceSetDigest

/-- The session's authority is active as the session knows it, and so is its method. -/
def Database.provenanceActive (db : Database) (session : WalletSessionRow) : Bool :=
  (db.authorities.any fun authority =>
    authority.nameSpace = session.nameSpace ∧ authority.scope = session.scope ∧
      authority.authorityId = session.authorityId ∧ authority.walletId = session.walletId ∧
      authority.active ∧ authority.authorityDigestB64u = session.authorityDigestB64u ∧
      authority.revocationEpoch = session.authorityRevocationEpoch) &&
  (db.authMethods.any fun method =>
    method.nameSpace = session.nameSpace ∧ method.scope = session.scope ∧
      method.walletAuthMethodId = session.walletAuthMethodId ∧
      method.walletId = session.walletId ∧
      method.walletAuthorityId = session.authorityId ∧ method.active)

end SeamsWallet.Authorization
