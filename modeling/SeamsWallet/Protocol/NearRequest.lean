import SeamsWallet.Protocol.WalletObject

/-!
# NEAR signing requests

The two requests of a NEAR signature, as the Router admits them and the
SigningWorker checks them. Prepare names the digest to sign and asks for
commitments; finalize carries the client's share and names the prepared
material by its handle and binding digest. Each request carries the wallet's
scope and ownership generation.

The Router's own admission data is opaque here: only the checks of a request
read it, and they are part of the environment.
-/

namespace SeamsWallet

open Library WalletObject

/-! ## Scope and active material -/

structure NormalSigningScope where
  requestId : String
  accountId : String
  authorization : NormalSigningAuthorization
  materialActivation : MpcMaterialActivationRef
  signingWorkerId : String
  deriving DecidableEq

def NormalSigningScope.validate (scope : NormalSigningScope) : RouterAbProtocolResult Unit := do
  Core.requireNonEmpty "request_id" scope.requestId
  Core.requireNonEmpty "account_id" scope.accountId
  scope.authorization.validate
  scope.materialActivation.validate
  Core.requireNonEmpty "signing_worker_id" scope.signingWorkerId
  ensure (scope.materialActivation.signingWorker = scope.signingWorkerId) ⟨.invalidLifecycleState,
      "material activation SigningWorker does not match normal signing scope"⟩

def ActiveSigningWorkerState.validateForScope (state : ActiveSigningWorkerState)
    (scope : NormalSigningScope) : RouterAbProtocolResult Unit := do
  state.validate
  scope.validate
  ensure (state.accountId = scope.accountId ∧ state.materialActivation = scope.materialActivation ∧
      state.signingWorker.serverId = scope.signingWorkerId)
    ⟨.invalidLifecycleState, "active signing worker state does not match normal signing scope"⟩

def ActiveSigningWorkerStateLookup.fromNormalSigningScope (scope : NormalSigningScope) :
    RouterAbProtocolResult ActiveSigningWorkerStateLookup := do
  scope.validate
  let lookup : ActiveSigningWorkerStateLookup :=
    ⟨scope.accountId, scope.materialActivation.activationId, scope.signingWorkerId⟩
  lookup.validate
  return lookup

/-- The key an activation is indexed by and retired under. -/
def ActiveSigningWorkerStateLookup.activeKey (lookup : ActiveSigningWorkerStateLookup) : String :=
  s!"active-signing-worker/{lookup.accountId}/{lookup.materialActivationId}/" ++
    s!"{lookup.signingWorkerId}"

def NormalSigningScope.activeKey (scope : NormalSigningScope) : String :=
  ActiveSigningWorkerStateLookup.activeKey
    ⟨scope.accountId, scope.materialActivation.activationId, scope.signingWorkerId⟩

/-- Where the signing material comes from. A lane is named by its wallet, its
target activation and its key family. -/
inductive NormalSigningMaterialSource where
  | registrationActivation (lookup : ActiveSigningWorkerStateLookup)
  | rotatableLane (walletId targetMaterialActivationId : String) (isEd25519 : Bool)
      (groupPublicKey : String)
  deriving DecidableEq

def NormalSigningMaterialSource.validateForNormalScope
    (source : NormalSigningMaterialSource) (scope : NormalSigningScope) :
    RouterAbProtocolResult Unit := do
  scope.validate
  match source with
  | .registrationActivation lookup => do
    let expected ← ActiveSigningWorkerStateLookup.fromNormalSigningScope scope
    ensure (lookup = expected)
      ⟨.invalidGateDecision, "normal-signing material source does not match scope"⟩
  | .rotatableLane walletId targetMaterialActivationId isEd25519 groupPublicKey => do
    Worker.requireNonEmpty "normal-signing lane group_public_key" groupPublicKey
    ensure (walletId = scope.accountId ∧
        targetMaterialActivationId = scope.materialActivation.activationId ∧ isEd25519)
      ⟨.invalidGateDecision, "normal-signing material source does not match scope"⟩

/-! ## Commitments and responses -/

structure NormalSigningCommitments where
  hidingCommitment : String
  bindingCommitment : String
  deriving DecidableEq

def NormalSigningCommitments.validate (commitments : NormalSigningCommitments) :
    RouterAbProtocolResult Unit := do
  Core.requireNonEmpty "commitments.hiding" commitments.hidingCommitment
  Core.requireNonEmpty "commitments.binding" commitments.bindingCommitment

structure Round1PrepareResponse where
  scope : NormalSigningScope
  signingPayloadDigest : PublicDigest32
  round1BindingDigest : PublicDigest32
  signingWorker : ServerIdentity
  serverRound1Handle : String
  serverCommitments : NormalSigningCommitments
  serverVerifyingShareB64u : String
  preparedAtMs : ℕ
  expiresAtMs : ℕ

def Round1PrepareResponse.validate (response : Round1PrepareResponse) :
    RouterAbProtocolResult Unit := do
  response.scope.validate
  response.signingWorker.validate
  ensure (response.signingWorker.serverId = response.scope.signingWorkerId) ⟨.invalidLifecycleState,
      "normal signing round-1 response SigningWorker does not match scope"⟩
  Core.requireNonEmpty "server_round1_handle" response.serverRound1Handle
  response.serverCommitments.validate
  Core.requireNonEmpty "server_verifying_share_b64u" response.serverVerifyingShareB64u
  ensure (response.preparedAtMs ≠ 0 ∧ response.expiresAtMs ≠ 0) ⟨.invalidTimeRange,
    "normal signing round-1 response timestamps must be greater than zero"⟩
  ensure (response.preparedAtMs < response.expiresAtMs) ⟨.invalidTimeRange,
    "normal signing round-1 response expiry must be after prepare time"⟩

structure NormalSigningResponse where
  scope : NormalSigningScope
  signingPayloadDigest : PublicDigest32
  signingWorker : ServerIdentity
  signature : List UInt8
  signedAtMs : ℕ

def NormalSigningResponse.validate (response : NormalSigningResponse) :
    RouterAbProtocolResult Unit := do
  response.scope.validate
  response.signingWorker.validate
  ensure (response.signingWorker.serverId = response.scope.signingWorkerId)
    ⟨.invalidLifecycleState, "normal signing response SigningWorker does not match scope"⟩
  ensure (response.signedAtMs ≠ 0) ⟨.invalidTimeRange,
    "normal signing response signed_at_ms must be greater than zero"⟩

/-! ## The finalize request -/

structure PrepareBinding where
  serverRound1Handle : String
  round1BindingDigest : PublicDigest32
  intentDigest : PublicDigest32
  signingPayloadDigest : PublicDigest32

structure FrostFinalizeProtocol where
  clientCommitments : NormalSigningCommitments
  serverCommitments : NormalSigningCommitments
  clientVerifyingShareB64u : String
  serverVerifyingShareB64u : String
  clientSignatureShareB64u : String

def FrostFinalizeProtocol.validate (protocol : FrostFinalizeProtocol) :
    RouterAbProtocolResult Unit := do
  Core.requireNonEmpty "client_verifying_share_b64u" protocol.clientVerifyingShareB64u
  Core.requireNonEmpty "server_verifying_share_b64u" protocol.serverVerifyingShareB64u
  Core.requireNonEmpty "client_signature_share_b64u" protocol.clientSignatureShareB64u
  protocol.clientCommitments.validate
  protocol.serverCommitments.validate

structure NearFinalizeRequest where
  scope : NormalSigningScope
  expiresAtMs : ℕ
  prepareBinding : PrepareBinding
  protocol : FrostFinalizeProtocol

namespace NearFinalizeRequest

def validate (request : NearFinalizeRequest) : RouterAbProtocolResult Unit := do
  request.scope.validate
  Core.requirePositiveMs "normal signing v2 finalize expires_at_ms" request.expiresAtMs
  Core.requireNonEmpty "prepare_binding.server_round1_handle"
    request.prepareBinding.serverRound1Handle
  request.protocol.validate

def validateAt (request : NearFinalizeRequest) (nowUnixMs : ℕ) : RouterAbProtocolResult Unit := do
  request.validate
  ensure (nowUnixMs < request.expiresAtMs)
    ⟨.expiredLocalRequest, "normal signing v2 finalize request expired"⟩

end NearFinalizeRequest

/-! ## Admitted requests -/

/-- What the SigningWorker reads of the Router's candidate for a prepare. -/
structure PrepareAdmissionCandidate where
  orgId : String
  projectId : String
  accountId : String
  signingWorkerId : String
  requestId : String
  intentDigest : PublicDigest32
  signingPayloadDigest : PublicDigest32
  admittedSigningDigest : PublicDigest32
  round1BindingDigest : Option PublicDigest32
  expiresAtMs : ℕ
  deriving DecidableEq

/-- What the SigningWorker reads of the Router's candidate for a finalize. -/
structure FinalizeAdmissionCandidate where
  orgId : String
  projectId : String
  intentDigest : PublicDigest32
  signingPayloadDigest : PublicDigest32

/-- A prepare request as the Router admitted it. `Admission` is the rest of the
Router's admission data. -/
structure AdmittedNearPrepareRequest (Admission : Type) where
  scope : NormalSigningScope
  expiresAtMs : ℕ
  admissionCandidate : PrepareAdmissionCandidate
  admission : Admission
  materialSource : NormalSigningMaterialSource
  walletScope : WalletScope
  ownershipGeneration : ℕ
  deriving DecidableEq

structure AdmittedNearFinalizeRequest (Admission : Type) where
  request : NearFinalizeRequest
  admissionCandidate : FinalizeAdmissionCandidate
  admission : Admission
  effectClaim : NormalSigningEffectClaim
  materialSource : NormalSigningMaterialSource
  walletScope : WalletScope
  ownershipGeneration : ℕ

/-- What the NEAR path takes from outside: hashing and encodings, the Router's
admission checks, and the serialisations it hashes or stores. -/
structure NearEnvironment (Admission : Type) where
  prims : Primitives
  decodeBase58 : String → Except String (List UInt8)
  validatePrepareAdmission : AdmittedNearPrepareRequest Admission → RouterAbProtocolResult Unit
  validateFinalizeAdmission : AdmittedNearFinalizeRequest Admission → RouterAbProtocolResult Unit
  scopeJson : WalletScope → String
  claimJson : NormalSigningEffectClaim → String
  prepareJson : AdmittedNearPrepareRequest Admission → List UInt8
  finalizeJson : AdmittedNearFinalizeRequest Admission → List UInt8

namespace AdmittedNearPrepareRequest

/-- The checks of an admitted prepare; those of the Router's admission data are
the environment's. -/
def validate {Admission : Type} (env : NearEnvironment Admission)
    (admitted : AdmittedNearPrepareRequest Admission) : RouterAbProtocolResult Unit := do
  validateWalletOwnershipGeneration admitted.ownershipGeneration
  admitted.walletScope.validate
  ensure (admitted.walletScope.orgId = admitted.admissionCandidate.orgId ∧
      admitted.walletScope.projectId = admitted.admissionCandidate.projectId ∧
      admitted.walletScope.walletId = admitted.scope.accountId)
    ⟨.invalidGateDecision, "normal-signing wallet scope differs from Router admission"⟩
  admitted.scope.validate
  admitted.materialSource.validateForNormalScope admitted.scope
  Worker.requirePositiveMs "normal-signing v2 prepare expires_at_ms" admitted.expiresAtMs
  env.validatePrepareAdmission admitted
  ensure (admitted.admissionCandidate.accountId = admitted.scope.accountId ∧
      admitted.admissionCandidate.signingWorkerId = admitted.scope.signingWorkerId ∧
      admitted.admissionCandidate.requestId = admitted.scope.requestId ∧
      admitted.admissionCandidate.expiresAtMs = admitted.expiresAtMs)
    ⟨.invalidGateDecision, "normal-signing v2 prepare admission does not match request scope"⟩
  ensure (admitted.admissionCandidate.round1BindingDigest ≠ none) ⟨.invalidGateDecision,
    "normal-signing v2 prepare admission requires round1 binding digest"⟩

def round1BindingDigest {Admission : Type} (admitted : AdmittedNearPrepareRequest Admission) :
    RouterAbProtocolResult PublicDigest32 :=
  okOr admitted.admissionCandidate.round1BindingDigest ⟨.invalidGateDecision,
    "normal-signing v2 prepare admission requires round1 binding digest"⟩

end AdmittedNearPrepareRequest

namespace AdmittedNearFinalizeRequest

def validate {Admission : Type} (env : NearEnvironment Admission)
    (admitted : AdmittedNearFinalizeRequest Admission) : RouterAbProtocolResult Unit := do
  validateWalletOwnershipGeneration admitted.ownershipGeneration
  admitted.walletScope.validate
  ensure (admitted.walletScope.orgId = admitted.admissionCandidate.orgId ∧
      admitted.walletScope.projectId = admitted.admissionCandidate.projectId ∧
      admitted.walletScope.walletId = admitted.request.scope.accountId)
    ⟨.invalidGateDecision, "normal-signing wallet scope differs from Router admission"⟩
  admitted.request.validate
  admitted.materialSource.validateForNormalScope admitted.request.scope
  env.validateFinalizeAdmission admitted

/-- The key of the effect: the account, its material and the admitted intent. -/
def effectOperationKey {Admission : Type} (env : NearEnvironment Admission)
    (admitted : AdmittedNearFinalizeRequest Admission) : RouterAbProtocolResult String := do
  admitted.validate env
  return s!"near-ed25519/{admitted.request.scope.accountId}/" ++
    s!"{admitted.request.scope.materialActivation.activationId}/" ++
    hexSlice admitted.request.prepareBinding.intentDigest.toList

def effectRequestDigest {Admission : Type} (env : NearEnvironment Admission)
    (admitted : AdmittedNearFinalizeRequest Admission) :
    RouterAbProtocolResult PublicDigest32 := do
  admitted.validate env
  return env.prims.sha256 (stringBytes "seams/signing-worker/near-effect/v1" ++
    env.finalizeJson admitted)

end AdmittedNearFinalizeRequest

end SeamsWallet
