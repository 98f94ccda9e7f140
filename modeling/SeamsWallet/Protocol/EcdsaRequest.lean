import SeamsWallet.Protocol.EcdsaScope

/-!
# Normal ECDSA signing requests

The prepare request a client opens an operation with, the finalize request that
carries its signature share, and the response. A finalize request determines
the prepare request it completes: the digest of that request is what the pool
reserved the presignature for.
-/

namespace SeamsWallet

open Library Core

def Core.requirePositiveMs (field : String) (value : ℕ) : RouterAbProtocolResult Unit :=
  ensure (0 < value) ⟨.invalidTimeRange, s!"{field} must be greater than zero"⟩

inductive NormalSigningAuthorization where
  | reusableWalletSession (walletSessionId : String)
  | operationStepUp
  deriving DecidableEq

def NormalSigningAuthorization.validate : NormalSigningAuthorization → RouterAbProtocolResult Unit
  | .reusableWalletSession walletSessionId =>
    requireNonEmpty "authorization.wallet_session_id" walletSessionId
  | .operationStepUp => .ok ()

def NormalSigningAuthorization.canonicalBytes (authorization : NormalSigningAuthorization) :
    RouterAbProtocolResult (List UInt8) := do
  authorization.validate
  match authorization with
  | .reusableWalletSession walletSessionId =>
    return pushLen32 (stringBytes "reusable_wallet_session") ++
      pushLen32 (stringBytes walletSessionId)
  | .operationStepUp => return pushLen32 (stringBytes "operation_step_up")

def MpcMaterialActivationRef.canonicalBytes (activation : MpcMaterialActivationRef) :
    RouterAbProtocolResult (List UInt8) := do
  activation.validate
  return pushLen32 (stringBytes "mpc_material_activation_ref") ++
    pushLen32 (stringBytes activation.activationId) ++
    pushLen32 (stringBytes activation.capability) ++
    pushLen32 (stringBytes activation.materialOwner) ++
    pushLen32 (stringBytes activation.keyBinding) ++
    pushLen32 (stringBytes activation.lifecycleBinding) ++
    pushLen32 (stringBytes activation.signingWorker)

def validateEcdsaNormalSigningMaterialActivation (scope : EcdsaNormalSigningScope)
    (activation : MpcMaterialActivationRef) : RouterAbProtocolResult Unit := do
  activation.validate
  ensure (activation = scope.materialActivation) ⟨.invalidLifecycleState,
      "material activation does not exactly match ECDSA signing scope"⟩

structure EcdsaOperationDigests where
  laneDigestB64u : String
  intentDigestB64u : String
  displayDigestB64u : String

variable (prims : Primitives)

namespace EcdsaOperationDigests

def canonicalBytes (digests : EcdsaOperationDigests) : RouterAbProtocolResult (List UInt8) := do
  let lane ← decodeBase64UrlFixed prims 32 "operation_digests.lane_digest_b64u"
    digests.laneDigestB64u
  let intent ← decodeBase64UrlFixed prims 32 "operation_digests.intent_digest_b64u"
    digests.intentDigestB64u
  let display ← decodeBase64UrlFixed prims 32 "operation_digests.display_digest_b64u"
    digests.displayDigestB64u
  return lane.toList ++ intent.toList ++ display.toList

def validate (digests : EcdsaOperationDigests) : RouterAbProtocolResult Unit := do
  let _ ← digests.canonicalBytes prims

end EcdsaOperationDigests

/-! ## Prepare -/

structure EcdsaSigningRequest where
  scope : EcdsaNormalSigningScope
  requestId : String
  operationId : String
  operationDigests : EcdsaOperationDigests
  authorization : NormalSigningAuthorization
  materialActivation : MpcMaterialActivationRef
  clientPresignatureId : String
  expiresAtMs : ℕ
  signingDigestB64u : String
  clientRerandomizationCommitment32B64u : String

namespace EcdsaSigningRequest

variable (request : EcdsaSigningRequest)

def signingDigest : RouterAbProtocolResult PublicDigest32 :=
  decodeBase64UrlFixed prims 32 "normal_signing.signing_digest_b64u"
    request.signingDigestB64u

def clientRerandomizationCommitment32 : RouterAbProtocolResult (Bytes 32) :=
  decodeBase64UrlFixed prims 32
    "normal_signing.client_rerandomization_commitment32_b64u"
    request.clientRerandomizationCommitment32B64u

def validate : RouterAbProtocolResult Unit := do
  request.scope.validate prims
  requireAsciiNonEmpty "normal_signing.request_id" request.requestId
  requireAsciiNonEmpty "normal_signing.operation_id" request.operationId
  request.operationDigests.validate prims
  request.authorization.validate
  validateEcdsaNormalSigningMaterialActivation request.scope request.materialActivation
  requireAsciiNonEmpty "normal_signing.client_presignature_id"
    request.clientPresignatureId
  requirePositiveMs "normal_signing.expires_at_ms" request.expiresAtMs
  let _ ← request.signingDigest prims
  ensure (request.operationDigests.intentDigestB64u = request.signingDigestB64u)
    ⟨.invalidLifecycleState, "operation intent digest does not match the admitted signing digest"⟩
  let _ ← request.clientRerandomizationCommitment32 prims

def requestDigest : RouterAbProtocolResult PublicDigest32 := do
  request.validate prims
  let scope ← request.scope.canonicalScopeBytes prims
  let digests ← request.operationDigests.canonicalBytes prims
  let authorization ← request.authorization.canonicalBytes
  let activation ← request.materialActivation.canonicalBytes
  let signingDigest ← request.signingDigest prims
  let commitment ← request.clientRerandomizationCommitment32 prims
  return prims.sha256 (
    pushLen32 (stringBytes "router-ab-ecdsa-derivation/normal-signing-request/v1") ++
    pushLen32 scope ++ pushLen32 (stringBytes request.requestId) ++
    pushLen32 (stringBytes request.operationId) ++ digests ++ authorization ++
    activation ++ pushLen32 (stringBytes request.clientPresignatureId) ++
    (toBigEndian 8 request.expiresAtMs).toList ++ signingDigest.toList ++
    pushLen32 commitment.toList)

end EcdsaSigningRequest

/-! ## Finalize -/

structure EcdsaFinalizeRequest where
  scope : EcdsaNormalSigningScope
  requestId : String
  operationId : String
  operationDigests : EcdsaOperationDigests
  authorization : NormalSigningAuthorization
  materialActivation : MpcMaterialActivationRef
  expiresAtMs : ℕ
  signingDigestB64u : String
  serverPresignatureId : String
  clientSignatureShare32B64u : String
  clientRerandomizationContribution32B64u : String

namespace EcdsaFinalizeRequest

variable (request : EcdsaFinalizeRequest)

def signingDigest : RouterAbProtocolResult PublicDigest32 :=
  decodeBase64UrlFixed prims 32 "ecdsa_finalize.signing_digest_b64u"
    request.signingDigestB64u

def clientSignatureShare32 : RouterAbProtocolResult (Bytes 32) :=
  decodeBase64UrlFixed prims 32 "ecdsa_finalize.client_signature_share32_b64u"
    request.clientSignatureShare32B64u

def clientRerandomizationContribution32 : RouterAbProtocolResult (Bytes 32) :=
  decodeBase64UrlFixed prims 32
    "ecdsa_finalize.client_rerandomization_contribution32_b64u"
    request.clientRerandomizationContribution32B64u

def validate : RouterAbProtocolResult Unit := do
  request.scope.validate prims
  requireAsciiNonEmpty "ecdsa_finalize.request_id" request.requestId
  requireAsciiNonEmpty "ecdsa_finalize.operation_id" request.operationId
  request.operationDigests.validate prims
  request.authorization.validate
  validateEcdsaNormalSigningMaterialActivation request.scope request.materialActivation
  requirePositiveMs "ecdsa_finalize.expires_at_ms" request.expiresAtMs
  requireAsciiNonEmpty "ecdsa_finalize.server_presignature_id"
    request.serverPresignatureId
  let _ ← request.signingDigest prims
  ensure (request.operationDigests.intentDigestB64u = request.signingDigestB64u)
    ⟨.invalidLifecycleState, "operation intent digest does not match the admitted signing digest"⟩
  let _ ← request.clientSignatureShare32 prims
  let _ ← request.clientRerandomizationContribution32 prims

def validateAt (nowUnixMs : ℕ) : RouterAbProtocolResult Unit := do
  request.validate prims
  ensure (nowUnixMs < request.expiresAtMs) ⟨.expiredLocalRequest,
      "Router A/B ECDSA derivation normal-signing finalize request expired"⟩

def prepareRequest : RouterAbProtocolResult EcdsaSigningRequest := do
  let contribution ← request.clientRerandomizationContribution32 prims
  let commitment := prims.sha256 (stringBytes
    "router-ab-ecdsa-derivation/client-rerandomization-commitment/v1" ++ contribution.toList)
  let prepare : EcdsaSigningRequest := {
    scope := request.scope
    requestId := request.requestId
    operationId := request.operationId
    operationDigests := request.operationDigests
    authorization := request.authorization
    materialActivation := request.materialActivation
    clientPresignatureId := request.serverPresignatureId
    expiresAtMs := request.expiresAtMs
    signingDigestB64u := request.signingDigestB64u
    clientRerandomizationCommitment32B64u := prims.encodeBase64UrlUnpadded commitment.toList }
  prepare.validate prims
  return prepare

def prepareRequestDigest : RouterAbProtocolResult PublicDigest32 := do
  let prepare ← request.prepareRequest prims
  prepare.requestDigest prims

def requestDigest : RouterAbProtocolResult PublicDigest32 := do
  request.validate prims
  let scope ← request.scope.canonicalScopeBytes prims
  let digests ← request.operationDigests.canonicalBytes prims
  let authorization ← request.authorization.canonicalBytes
  let activation ← request.materialActivation.canonicalBytes
  let signingDigest ← request.signingDigest prims
  let share ← request.clientSignatureShare32 prims
  let contribution ← request.clientRerandomizationContribution32 prims
  return prims.sha256 (
    pushLen32 (stringBytes "router-ab-ecdsa-derivation/normal-signing-finalize-request/v1") ++
    pushLen32 scope ++ pushLen32 (stringBytes request.requestId) ++
    pushLen32 (stringBytes request.operationId) ++ digests ++ authorization ++
    activation ++ (toBigEndian 8 request.expiresAtMs).toList ++ signingDigest.toList ++
    pushLen32 (stringBytes request.serverPresignatureId) ++
    pushLen32 share.toList ++ pushLen32 contribution.toList)

end EcdsaFinalizeRequest

/-! ## Response -/

structure EcdsaSigningResponse where
  scope : EcdsaNormalSigningScope
  requestId : String
  requestDigest : PublicDigest32
  signingDigest : PublicDigest32
  signature65B64u : String

namespace EcdsaSigningResponse

def validate (response : EcdsaSigningResponse) : RouterAbProtocolResult Unit := do
  response.scope.validate prims
  requireAsciiNonEmpty "ecdsa_response.request_id" response.requestId
  let _ ← decodeBase64UrlFixed prims 65 "ecdsa_response.signature65_b64u"
    response.signature65B64u

def validateForRequest (response : EcdsaSigningResponse)
    (request : EcdsaFinalizeRequest) : RouterAbProtocolResult Unit := do
  response.validate prims
  request.validate prims
  let requestDigest ← request.requestDigest prims
  let signingDigest ← request.signingDigest prims
  ensure (response.scope = request.scope ∧ response.requestId = request.requestId ∧
      response.requestDigest = requestDigest ∧ response.signingDigest = signingDigest)
    ⟨.invalidLifecycleState, "Router A/B ECDSA derivation signing response does not match request"⟩

end EcdsaSigningResponse

end SeamsWallet
