import SeamsWallet.Protocol.EcdsaRequest

/-!
# Admitted effects

What the Router hands the SigningWorker with a finalize request: the wallet the
effect belongs to, the ownership generation of that wallet, and the claim that
names the authorisation the effect spends. The claim gives the key under which
the effect is stored.
-/

namespace SeamsWallet

open Library

structure WalletScope where
  orgId : String
  projectId : String
  projectEnvironmentId : String
  walletId : String
  deriving DecidableEq

def WalletScope.validate (scope : WalletScope) : RouterAbProtocolResult Unit := do
  Worker.requireNonEmpty "SigningWorker wallet org_id" scope.orgId
  Worker.requireNonEmpty "SigningWorker wallet project_id" scope.projectId
  Worker.requireNonEmpty "SigningWorker wallet project_environment_id"
    scope.projectEnvironmentId
  Worker.requireNonEmpty "SigningWorker wallet wallet_id" scope.walletId

/-- Generations are positive and fit a JavaScript number. -/
def validateWalletOwnershipGeneration (generation : ℕ) : RouterAbProtocolResult Unit :=
  ensure (generation ≠ 0 ∧ generation ≤ 9007199254740991)
    ⟨.malformedWirePayload, "Router wallet ownership generation is invalid"⟩

structure ReusableWalletSessionEffectClaim where
  authorizationId : String
  walletSessionId : String
  authorizedOperationId : String
  operationId : String
  operationFingerprintDigest : String

inductive NormalSigningEffectClaim where
  | reusableWalletSession (claim : ReusableWalletSessionEffectClaim)
  | operationStepUp (authorizationSessionId authorizedOperationId operationId
      operationFingerprintDigest : String)

def ReusableWalletSessionEffectClaim.validate (claim : ReusableWalletSessionEffectClaim) :
    RouterAbProtocolResult Unit := do
  Worker.requireNonEmpty "normal-signing effect claim authorization_id"
    claim.authorizationId
  Worker.requireNonEmpty "normal-signing effect claim wallet_session_id"
    claim.walletSessionId
  ensure (claim.authorizationId ≠ claim.walletSessionId) ⟨.invalidGateDecision,
    "normal-signing effect claim authorization and Wallet Session ids must be pairwise distinct"⟩
  Worker.requireNonEmpty "normal-signing effect claim authorized_operation_id"
    claim.authorizedOperationId
  Worker.requireNonEmpty "normal-signing effect claim operation_id" claim.operationId
  Worker.requireNonEmpty "normal-signing effect claim operation_fingerprint_digest"
    claim.operationFingerprintDigest

namespace NormalSigningEffectClaim

def claimOperationId : NormalSigningEffectClaim → String
  | .reusableWalletSession claim => claim.operationId
  | .operationStepUp _ _ operationId _ => operationId

/-- The parts of an authorisation key, in their order, without its family. -/
def authorizationPath : NormalSigningEffectClaim → String
  | .reusableWalletSession claim =>
    s!"reusable-wallet-session/{claim.authorizationId}/{claim.walletSessionId}/" ++
    s!"{claim.authorizedOperationId}/{claim.operationId}/{claim.operationFingerprintDigest}"
  | .operationStepUp authorizationSessionId authorizedOperationId operationId
      operationFingerprintDigest =>
      s!"operation-step-up/{authorizationSessionId}/{authorizedOperationId}/" ++
      s!"{operationId}/{operationFingerprintDigest}"

variable (claim : NormalSigningEffectClaim)

def nearAuthorizationKey : String :=
  claim.authorizationPath

def ecdsaAuthorizationKey : String :=
  "ecdsa-" ++ claim.authorizationPath

/-- The claim must carry the kind of authority the request names. -/
def matchesAuthorization (authorization : NormalSigningAuthorization) :
    RouterAbProtocolResult Bool :=
  match claim, authorization with
  | .reusableWalletSession claim, .reusableWalletSession walletSessionId => do
    claim.validate
    return claim.walletSessionId = walletSessionId
  | .operationStepUp authorizationSessionId authorizedOperationId operationId
      operationFingerprintDigest, .operationStepUp => do
      Worker.requireNonEmpty "ECDSA effect claim authorization_session_id"
        authorizationSessionId
      Worker.requireNonEmpty "ECDSA effect claim authorized_operation_id"
        authorizedOperationId
      Worker.requireNonEmpty "ECDSA effect claim operation_id" operationId
      Worker.requireNonEmpty "ECDSA effect claim operation_fingerprint_digest"
        operationFingerprintDigest
      return true
  | _, _ => return false

def validateForEcdsaFinalizeRequest (prims : Primitives)
    (claim : NormalSigningEffectClaim) (request : EcdsaFinalizeRequest) :
    RouterAbProtocolResult Unit := do
  request.validate prims
  let claimMatches ← claim.matchesAuthorization request.authorization
  ensure claimMatches
    ⟨.invalidGateDecision, "ECDSA effect claim does not match Router authorization"⟩
  ensure (request.operationId = claim.claimOperationId)
    ⟨.invalidGateDecision, "ECDSA effect claim does not match finalize operation"⟩

end NormalSigningEffectClaim

/-! ## Admitted ECDSA finalize requests -/

/-- A finalize request as the Router admitted it. `Admission` is the Router's
own admission data (trusted metadata, gate decision, material source and the
accepted operation's identity), which only the request's validation reads. -/
structure AdmittedEcdsaFinalizeRequest (Admission : Type) where
  request : EcdsaFinalizeRequest
  admission : Admission
  effectClaim : NormalSigningEffectClaim
  walletScope : WalletScope
  ownershipGeneration : ℕ

/-- What the SigningWorker's store takes from outside: hashing and encodings,
the Router's admission checks, and the serialisations whose text it stores. -/
structure WalletEnvironment (Admission : Type) where
  prims : Primitives
  validateAdmission : AdmittedEcdsaFinalizeRequest Admission → RouterAbProtocolResult Unit
  scopeJson : WalletScope → String
  claimJson : NormalSigningEffectClaim → String
  requestJson : AdmittedEcdsaFinalizeRequest Admission → List UInt8
  responseJson : EcdsaSigningResponse → String

namespace AdmittedEcdsaFinalizeRequest

/-- The checks of an admitted request; those of the Router's admission data are
the environment's. -/
def validate {Admission : Type} (env : WalletEnvironment Admission)
    (admitted : AdmittedEcdsaFinalizeRequest Admission) :
    RouterAbProtocolResult Unit := do
  validateWalletOwnershipGeneration admitted.ownershipGeneration
  admitted.walletScope.validate
  ensure (admitted.walletScope.walletId = admitted.request.scope.walletId)
    ⟨.invalidGateDecision, "ECDSA wallet scope differs from trusted Router admission"⟩
  admitted.request.validate env.prims
  env.validateAdmission admitted
  admitted.effectClaim.validateForEcdsaFinalizeRequest env.prims admitted.request

def effectOperationKey {Admission : Type} (env : WalletEnvironment Admission)
    (admitted : AdmittedEcdsaFinalizeRequest Admission) :
    RouterAbProtocolResult String := do
  admitted.validate env
  return s!"evm-ecdsa/{admitted.request.scope.walletId}/" ++
    s!"{admitted.request.materialActivation.activationId}/{admitted.request.operationId}"

def effectAuthorizationKey {Admission : Type} (env : WalletEnvironment Admission)
    (admitted : AdmittedEcdsaFinalizeRequest Admission) :
    RouterAbProtocolResult String := do
  admitted.validate env
  return admitted.effectClaim.ecdsaAuthorizationKey

def effectRequestDigest {Admission : Type} (env : WalletEnvironment Admission)
    (admitted : AdmittedEcdsaFinalizeRequest Admission) :
    RouterAbProtocolResult PublicDigest32 := do
  admitted.validate env
  return env.prims.sha256 (stringBytes "seams/signing-worker/evm-ecdsa-effect/v1" ++
    env.requestJson admitted)

end AdmittedEcdsaFinalizeRequest

end SeamsWallet
