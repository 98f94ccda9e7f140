import SeamsWallet.Protocol.Identity

/-!
# The scope of normal ECDSA signing

A normal-signing scope names the wallet, its threshold key, the derivation
context with the public identity it binds, the activated material and the
SigningWorker that owns it. Its canonical bytes, hashed, are the scope digest
the pool identities are built from.
-/

namespace SeamsWallet

open Library

variable (prims : Primitives)

namespace Core

def decodeBase64Url (field value : String) : RouterAbProtocolResult (List UInt8) := do
  requireAsciiNonEmpty field value
  (prims.decodeBase64UrlUnpadded value).mapError fun err =>
    ⟨.malformedWirePayload, s!"{field} must be unpadded base64url: {err}"⟩

def decodeBase64UrlFixed (width : ℕ) (field value : String) :
    RouterAbProtocolResult (Bytes width) := do
  let bytes ← decodeBase64Url prims field value
  if h : bytes.length = width then
    return ⟨bytes, h⟩
  else
    .error ⟨.malformedWirePayload, s!"{field} must decode to {width} bytes, got {bytes.length}"⟩

def decodeSecp256k1PublicKey33 (field value : String) : RouterAbProtocolResult (Bytes 33) := do
  let bytes ← decodeBase64UrlFixed prims 33 field value
  ensure (bytes.head = 2 ∨ bytes.head = 3)
    ⟨.malformedWirePayload, s!"{field} must be a compressed secp256k1 public key"⟩
  return bytes

/-- A string with its length in front, as a 16-bit big-endian number. -/
def pushAsciiU16 (value : String) : RouterAbProtocolResult (List UInt8) := do
  requireAsciiNonEmpty "Router A/B ECDSA derivation context string" value
  ensure ((stringBytes value).length < 2 ^ 16) ⟨.malformedWirePayload,
      "Router A/B ECDSA derivation context string exceeds u16 length encoding"⟩
  return (toBigEndian 2 (stringBytes value).length).toList ++ stringBytes value

end Core

/-! ## Derivation context -/

structure StableKeyContext where
  applicationBindingDigestB64u : String
  deriving DecidableEq

namespace StableKeyContext

variable (context : StableKeyContext)

def decodeDigest : RouterAbProtocolResult (Bytes 32) :=
  Core.decodeBase64UrlFixed prims 32 "context.application_binding_digest_b64u"
    context.applicationBindingDigestB64u

def validate : RouterAbProtocolResult Unit := do
  let _ ← context.decodeDigest prims

/-- Domain tag, scheme, curve, application digest and the two participant ids. -/
def canonicalContextBytes : RouterAbProtocolResult (List UInt8) := do
  context.validate prims
  let scheme ← Core.pushAsciiU16 "router-ab-ecdsa-derivation-v1"
  let curve ← Core.pushAsciiU16 "secp256k1"
  let digest ← context.decodeDigest prims
  return stringBytes "router-ab-ecdsa-derivation/context/v1" ++ scheme ++ curve ++
    digest.toList ++ [2] ++ [0, 1] ++ [0, 2]

def contextBindingFrame (contextBytes : List UInt8) : RouterAbProtocolResult (List UInt8) := do
  ensure (contextBytes.length < 2 ^ 16) ⟨.malformedWirePayload,
      "Router A/B ECDSA derivation context bytes exceed u16 length encoding"⟩
  return stringBytes "router-ab-ecdsa-derivation/role-local/context-binding/v1" ++
    [1] ++ [1] ++ (toBigEndian 2 contextBytes.length).toList ++ contextBytes

def contextBindingDigest : RouterAbProtocolResult PublicDigest32 := do
  let contextBytes ← context.canonicalContextBytes prims
  let frame ← contextBindingFrame contextBytes
  return prims.sha256 frame

end StableKeyContext

/-! ## Public identity -/

structure EcdsaPublicIdentity where
  contextBindingB64u : String
  derivationClientSharePublicKey33B64u : String
  serverPublicKey33B64u : String
  thresholdPublicKey33B64u : String
  ethereumAddress20B64u : String
  clientShareRetryCounter : ℕ
  serverShareRetryCounter : ℕ
  deriving DecidableEq

namespace EcdsaPublicIdentity

variable (identity : EcdsaPublicIdentity)

def validate : RouterAbProtocolResult Unit := do
  let _ ← Core.decodeBase64UrlFixed prims 32 "public_identity.context_binding_b64u"
    identity.contextBindingB64u
  let _ ← Core.decodeSecp256k1PublicKey33 prims
    "public_identity.derivation_client_share_public_key33_b64u"
    identity.derivationClientSharePublicKey33B64u
  let _ ← Core.decodeSecp256k1PublicKey33 prims "public_identity.server_public_key33_b64u"
    identity.serverPublicKey33B64u
  let _ ← Core.decodeSecp256k1PublicKey33 prims
    "public_identity.threshold_public_key33_b64u" identity.thresholdPublicKey33B64u
  let _ ← Core.decodeBase64UrlFixed prims 20 "public_identity.ethereum_address20_b64u"
    identity.ethereumAddress20B64u

def validateForContext (context : StableKeyContext) : RouterAbProtocolResult Unit := do
  identity.validate prims
  let expected ← context.contextBindingDigest prims
  let actual ← Core.decodeBase64UrlFixed prims 32 "public_identity.context_binding_b64u"
    identity.contextBindingB64u
  ensure (actual = expected)
    ⟨.malformedWirePayload, "Router A/B ECDSA derivation public identity " ++
      "context binding does not match context"⟩

def canonicalPublicIdentityBytes : RouterAbProtocolResult (List UInt8) := do
  identity.validate prims
  return pushLen32 (stringBytes "router-ab-ecdsa-derivation/public-identity/v1") ++
    pushLen32 (stringBytes identity.contextBindingB64u) ++
    pushLen32 (stringBytes identity.derivationClientSharePublicKey33B64u) ++
    pushLen32 (stringBytes identity.serverPublicKey33B64u) ++
    pushLen32 (stringBytes identity.thresholdPublicKey33B64u) ++
    pushLen32 (stringBytes identity.ethereumAddress20B64u) ++
    (toBigEndian 4 identity.clientShareRetryCounter).toList ++
    (toBigEndian 4 identity.serverShareRetryCounter).toList

end EcdsaPublicIdentity

/-! ## Scope -/

structure EcdsaNormalSigningScope where
  walletId : String
  ecdsaThresholdKeyId : String
  signingRootId : String
  signingRootVersion : String
  context : StableKeyContext
  publicIdentity : EcdsaPublicIdentity
  materialActivation : MpcMaterialActivationRef
  signingWorker : ServerIdentity
  activationEpoch : String
  deriving DecidableEq

namespace EcdsaNormalSigningScope

variable (scope : EcdsaNormalSigningScope)

def validate : RouterAbProtocolResult Unit := do
  Core.requireAsciiNonEmpty "normal_signing.wallet_id" scope.walletId
  Core.requireAsciiNonEmpty "normal_signing.ecdsa_threshold_key_id"
    scope.ecdsaThresholdKeyId
  Core.requireAsciiNonEmpty "normal_signing.signing_root_id" scope.signingRootId
  Core.requireAsciiNonEmpty "normal_signing.signing_root_version" scope.signingRootVersion
  scope.context.validate prims
  scope.publicIdentity.validateForContext prims scope.context
  scope.materialActivation.validate
  scope.signingWorker.validate
  Core.requireAsciiNonEmpty "normal_signing.activation_epoch" scope.activationEpoch
  ensure (scope.materialActivation.materialOwner = scope.walletId ∧
      scope.materialActivation.keyBinding = scope.publicIdentity.contextBindingB64u ∧
      scope.materialActivation.signingWorker = scope.signingWorker.serverId)
    ⟨.invalidLifecycleState, "normal-signing material activation does not match scope"⟩

def canonicalScopeBytes : RouterAbProtocolResult (List UInt8) := do
  scope.validate prims
  let context ← scope.context.canonicalContextBytes prims
  let publicIdentity ← scope.publicIdentity.canonicalPublicIdentityBytes prims
  scope.materialActivation.validate
  return pushLen32 (stringBytes "router-ab-ecdsa-derivation/normal-signing-scope/v1") ++
    pushLen32 (stringBytes scope.walletId) ++
    pushLen32 (stringBytes scope.ecdsaThresholdKeyId) ++
    pushLen32 (stringBytes scope.signingRootId) ++
    pushLen32 (stringBytes scope.signingRootVersion) ++
    pushLen32 context ++ pushLen32 publicIdentity ++
    pushLen32 (stringBytes "mpc_material_activation_ref") ++
    pushLen32 (stringBytes scope.materialActivation.activationId) ++
    pushLen32 (stringBytes scope.materialActivation.capability) ++
    pushLen32 (stringBytes scope.materialActivation.materialOwner) ++
    pushLen32 (stringBytes scope.materialActivation.keyBinding) ++
    pushLen32 (stringBytes scope.materialActivation.lifecycleBinding) ++
    pushLen32 (stringBytes scope.materialActivation.signingWorker) ++
    pushLen32 (stringBytes scope.signingWorker.serverId) ++
    pushLen32 (stringBytes scope.signingWorker.keyEpoch) ++
    pushLen32 (stringBytes scope.signingWorker.recipientEncryptionKey) ++
    pushLen32 (stringBytes scope.activationEpoch)

def materialActivationId : RouterAbProtocolResult String := do
  scope.validate prims
  return scope.materialActivation.activationId

def scopeDigest : RouterAbProtocolResult PublicDigest32 := do
  let bytes ← scope.canonicalScopeBytes prims
  return prims.sha256 bytes

end EcdsaNormalSigningScope

/-! ## Active state lookup -/

/-- The account, material activation and SigningWorker an active state must
belong to. -/
structure ActiveSigningWorkerStateLookup where
  accountId : String
  materialActivationId : String
  signingWorkerId : String
  deriving DecidableEq

namespace ActiveSigningWorkerStateLookup

def validate (lookup : ActiveSigningWorkerStateLookup) : RouterAbProtocolResult Unit := do
  Worker.requireNonEmpty "active signing worker lookup account_id" lookup.accountId
  Worker.requireNonEmpty "active signing worker lookup material_activation_id"
    lookup.materialActivationId
  Worker.requireNonEmpty "active signing worker lookup signing_worker_id"
    lookup.signingWorkerId

def fromEcdsaScope (scope : EcdsaNormalSigningScope) :
    RouterAbProtocolResult ActiveSigningWorkerStateLookup := do
  scope.validate prims
  let materialActivationId ← scope.materialActivationId prims
  let lookup : ActiveSigningWorkerStateLookup :=
    ⟨scope.walletId, materialActivationId, scope.signingWorker.serverId⟩
  lookup.validate
  return lookup

def validateActiveState (lookup : ActiveSigningWorkerStateLookup)
    (active : ActiveSigningWorkerState) : RouterAbProtocolResult Unit := do
  lookup.validate
  active.validate
  ensure (active.accountId = lookup.accountId ∧
      active.materialActivation.activationId = lookup.materialActivationId ∧
      active.signingWorker.serverId = lookup.signingWorkerId)
    ⟨.invalidLocalServiceConfig, "active SigningWorker state does not match lookup"⟩

end ActiveSigningWorkerStateLookup

end SeamsWallet
