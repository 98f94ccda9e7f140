import SeamsWallet.Library.BigEndian
import SeamsWallet.Library.Except

/-!
# Protocol errors, identities and activated material

The part of the Router A/B core protocol that every signing path shares: the
structured error, the identity of a server, the reference to activated MPC
material and the descriptor of an active SigningWorker, each with the checks
its `validate` makes, in their order and with their texts.

Hashing and base64url come from outside; they are the `Primitives` every
definition that needs them takes as a parameter.
-/

namespace SeamsWallet

open Library

/-- Hashing and base64url, as the protocol crates import them. The two decoders
belong to the core crate and to the worker crate. -/
structure Primitives where
  sha256 : List UInt8 → Bytes 32
  encodeBase64UrlUnpadded : List UInt8 → String
  decodeBase64UrlUnpadded : String → Except String (List UInt8)
  decodeUrlSafeNoPad : String → Except String (List UInt8)

inductive RouterAbProtocolErrorCode where
  | emptyField
  | invalidTimeRange
  | invalidGateDecision
  | invalidPrepareHandle
  | invalidRole
  | invalidSignerIdentity
  | invalidLifecycleState
  | conflictingPair
  | missingPairPreparation
  | pairPreparationExpired
  | missingLocalBinding
  | forbiddenLocalBinding
  | invalidLocalServiceConfig
  | invalidLocalHttpRequest
  | expiredLocalRequest
  | replayedLocalRequest
  | invalidLocalRoute
  | malformedWirePayload
  | unsupportedVectorVersion
  | lifecycleTransitionInProgress
  | supersededAttempt
  deriving DecidableEq

structure RouterAbProtocolError where
  code : RouterAbProtocolErrorCode
  message : String
  deriving DecidableEq

abbrev RouterAbProtocolResult : Type → Type := Except RouterAbProtocolError

abbrev PublicDigest32 : Type := Bytes 32

def stringBytes (s : String) : List UInt8 := s.toUTF8.data.toList

/-- A field with its length in front, as a 32-bit big-endian number. -/
def pushLen32 (bytes : List UInt8) : List UInt8 :=
  (toBigEndian 4 bytes.length).toList ++ bytes

theorem stringBytes_injective : Function.Injective stringBytes := by
  intro s t h
  exact String.toByteArray_inj.mp (ByteArray.ext (Array.toList_inj.mp h))

/-- A field whose length fits into 32 bits can be read back from the bytes it starts. -/
theorem pushLen32_append_inj {bytes bytes' rest rest' : List UInt8}
    (hlength : bytes.length < 256 ^ 4) (hlength' : bytes'.length < 256 ^ 4)
    (h : pushLen32 bytes ++ rest = pushLen32 bytes' ++ rest') : bytes = bytes' ∧ rest = rest' := by
  rw [pushLen32, pushLen32, List.append_assoc, List.append_assoc] at h
  obtain ⟨hhead, htail⟩ := List.append_inj h (by simp)
  have heq : bytes.length = bytes'.length := by
    rw [← ofBigEndian_toBigEndian_of_lt hlength, hhead, ofBigEndian_toBigEndian_of_lt hlength']
  exact List.append_inj htail heq

/-! ## Field checks -/

namespace Core

def requireNonEmpty (field value : String) : RouterAbProtocolResult Unit :=
  ensure (value ≠ "") ⟨.emptyField, s!"{field} is required"⟩

def requireAsciiNonEmpty (field value : String) : RouterAbProtocolResult Unit := do
  ensure (value ≠ "") ⟨.emptyField, s!"{field} must be non-empty"⟩
  ensure (value.toList.all fun c => c.val < 128)
    ⟨.malformedWirePayload, s!"{field} must be ASCII-only"⟩

end Core

namespace Worker

def requireNonEmpty (field value : String) : RouterAbProtocolResult Unit :=
  ensure (value ≠ "") ⟨.emptyField, s!"{field} must not be empty"⟩

def requirePositiveMs (field : String) (value : ℕ) : RouterAbProtocolResult Unit :=
  ensure (value ≠ 0) ⟨.invalidTimeRange, s!"{field} must be greater than zero"⟩

def validateBase64UrlFixedLen (prims : Primitives) (field value : String)
    (expectedLen : ℕ) : RouterAbProtocolResult (List UInt8) := do
  requireNonEmpty field value
  let bytes ← (prims.decodeUrlSafeNoPad value).mapError fun err =>
    ⟨.malformedWirePayload, s!"{field} must be unpadded base64url: {err}"⟩
  ensure (bytes.length = expectedLen)
    ⟨.malformedWirePayload, s!"{field} must decode to {expectedLen} bytes"⟩
  return bytes

def validateCompressedSecp256k1Point (prims : Primitives) (field value : String) :
    RouterAbProtocolResult Unit := do
  let bytes ← validateBase64UrlFixedLen prims field value 33
  ensure (bytes.head? = some 2 ∨ bytes.head? = some 3)
    ⟨.malformedWirePayload, s!"{field} must use a compressed secp256k1 point prefix"⟩

end Worker

/-! ## Identities -/

structure ServerIdentity where
  serverId : String
  keyEpoch : String
  recipientEncryptionKey : String
  deriving DecidableEq

def ServerIdentity.validate (identity : ServerIdentity) : RouterAbProtocolResult Unit := do
  Core.requireNonEmpty "server_id" identity.serverId
  Core.requireNonEmpty "server_key_epoch" identity.keyEpoch
  Core.requireNonEmpty "server_recipient_encryption_key" identity.recipientEncryptionKey

structure MpcMaterialActivationRef where
  activationId : String
  capability : String
  materialOwner : String
  keyBinding : String
  lifecycleBinding : String
  signingWorker : String
  deriving DecidableEq

def MpcMaterialActivationRef.validate (activation : MpcMaterialActivationRef) :
    RouterAbProtocolResult Unit := do
  Core.requireNonEmpty "material_activation.activation_id" activation.activationId
  Core.requireNonEmpty "material_activation.capability" activation.capability
  Core.requireNonEmpty "material_activation.material_owner" activation.materialOwner
  Core.requireNonEmpty "material_activation.key_binding" activation.keyBinding
  Core.requireNonEmpty "material_activation.lifecycle_binding" activation.lifecycleBinding
  Core.requireNonEmpty "material_activation.signing_worker" activation.signingWorker

structure ActiveSigningWorkerState where
  accountId : String
  materialActivation : MpcMaterialActivationRef
  accountPublicKey : String
  signingWorker : ServerIdentity
  activationTranscriptDigest : PublicDigest32
  activationDigest : PublicDigest32
  signingWorkerMaterialHandle : String
  activatedAtMs : ℕ
  deriving DecidableEq

def ActiveSigningWorkerState.validate (state : ActiveSigningWorkerState) :
    RouterAbProtocolResult Unit := do
  Core.requireNonEmpty "active signing worker account_id" state.accountId
  state.materialActivation.validate
  Core.requireNonEmpty "active signing worker account_public_key" state.accountPublicKey
  Core.requireNonEmpty "active signing worker material handle"
    state.signingWorkerMaterialHandle
  state.signingWorker.validate
  ensure (state.activatedAtMs ≠ 0)
    ⟨.invalidTimeRange, "active signing worker activated_at_ms must be greater than zero"⟩

end SeamsWallet
