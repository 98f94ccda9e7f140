import SeamsWallet.Ecdsa.LaneRebind
import SeamsWallet.Library.Text
import SeamsWallet.Protocol.Identity

/-!
# Source contributions

A device that links another one sends the SigningWorker a contribution: a public binding
that names the source, the target and the target's client key, the difference of the two
client shares sealed to the SigningWorker, and the target's client share sealed to the
target. Both envelopes carry the digest of the binding.

HPKE is the imported crate. All that is assumed of it is that a sealed text opens to
nothing but the text that was sealed.
-/

namespace SeamsWallet.LinkedEcdsa

open Library EcdsaDerivation

inductive EcdsaClientProtocolError where
  | invalidShape
  | hpkeFailed

/-- The name of an error, as it stands in the messages that quote it. -/
def EcdsaClientProtocolError.debug : EcdsaClientProtocolError → String
  | invalidShape => "InvalidShape"
  | hpkeFailed => "HpkeFailed"

abbrev ClientResult (α : Type) : Type := Except EcdsaClientProtocolError α

/-- HPKE over X25519, with the randomness of a seal as an argument. -/
structure Hpke where
  isPublicKey : Bytes 32 → Bool
  isPrivateKey : Bytes 32 → Bool
  isEncapsulatedKey : Bytes 32 → Bool
  sealBase : (seed publicKey : Bytes 32) → (info aad plaintext : List UInt8) →
    Option (Bytes 32 × List UInt8)
  openBase : (encapped privateKey : Bytes 32) → (info aad ciphertext : List UInt8) →
    Option (List UInt8)
  opens_to_sealed : ∀ {seed publicKey privateKey encapped : Bytes 32}
    {info aad plaintext info' aad' ciphertext opened : List UInt8},
    sealBase seed publicKey info aad plaintext = some (encapped, ciphertext) →
    openBase encapped privateKey info' aad' ciphertext = some opened → opened = plaintext

/-- The encoders and decoders of base64url: what was encoded is decoded again. -/
structure Base64Url where
  prims : Primitives
  decodeBase64UrlUnpadded_encode : ∀ bytes,
    prims.decodeBase64UrlUnpadded (prims.encodeBase64UrlUnpadded bytes) = .ok bytes
  decodeUrlSafeNoPad_encode : ∀ bytes,
    prims.decodeUrlSafeNoPad (prims.encodeBase64UrlUnpadded bytes) = .ok bytes

/-! ## Bindings -/

structure EcdsaMaterialActivationRef where
  activationId : String
  capability : String
  materialOwner : String
  keyBinding : String
  lifecycleBinding : String
  signingWorker : String
  deriving DecidableEq

variable (activation : EcdsaMaterialActivationRef)

def EcdsaMaterialActivationRef.fields : List String :=
  [activation.activationId, activation.capability, activation.materialOwner,
    activation.keyBinding, activation.lifecycleBinding, activation.signingWorker]

def EcdsaMaterialActivationRef.validate : ClientResult Unit :=
  ensure (∀ field ∈ activation.fields, field ≠ "") .invalidShape

def EcdsaMaterialActivationRef.canonicalBytes : ClientResult (List UInt8) := do
  activation.validate
  return pushLen32 (stringBytes "mpc_material_activation_ref") ++
    activation.fields.flatMap fun field => pushLen32 (stringBytes field)

structure LinkedDeviceEcdsaSourceSignerIdentity where
  activation : EcdsaMaterialActivationRef
  clientPublicKey33B64u : String
  relayerPublicKey33B64u : String
  thresholdPublicKey33B64u : String
  thresholdEthereumAddress20B64u : String
  deriving DecidableEq

structure LinkedDeviceEcdsaTargetRecipientPreparation where
  activation : EcdsaMaterialActivationRef
  targetDeviceId : String
  targetFactorVerificationDigestB64u : String
  clientRecipientPublicKeyB64u : String
  signingWorkerRecipientPublicKeyB64u : String
  deriving DecidableEq

structure LinkedDeviceEcdsaSourceContributionBinding where
  linkSessionId : String
  enrollmentId : String
  sourceAuthorityId : String
  source : LinkedDeviceEcdsaSourceSignerIdentity
  target : LinkedDeviceEcdsaTargetRecipientPreparation
  targetClientPublicKey33B64u : String
  deriving DecidableEq

structure LinkedDeviceEcdsaEncryptedSourceContribution where
  kind : String
  recipientPublicKeyB64u : String
  bindingDigestB64u : String
  encappedKeyB64u : String
  ciphertextB64u : String
  deriving DecidableEq

structure LinkedDeviceEcdsaSourceContributionPackage where
  binding : LinkedDeviceEcdsaSourceContributionBinding
  encryptedDelta : LinkedDeviceEcdsaEncryptedSourceContribution
  encryptedTargetClientShare : LinkedDeviceEcdsaEncryptedSourceContribution

/-! ## Field checks -/

def isAsciiWhitespace (c : Char) : Bool := (9 ≤ c.val && c.val ≤ 13) || c.val == 32

/-- White space outside ASCII need not be trimmed: such a text fails as well. -/
def requireAsciiNonEmpty (value : String) : ClientResult Unit :=
  ensure (value ≠ "" ∧ trimBy isAsciiWhitespace value = value ∧
    value.toList.all fun c => c.val < 128)
    .invalidShape

variable (prims : Primitives)

def decodeB64 (value : String) : ClientResult (List UInt8) := do
  let bytes ← (prims.decodeBase64UrlUnpadded value).mapError fun _ => .invalidShape
  ensure (prims.encodeBase64UrlUnpadded bytes = value) .invalidShape
  return bytes

def decodeFixedBytes (width : ℕ) (value : String) : ClientResult (Bytes width) := do
  let bytes ← decodeB64 prims value
  okOr (Bytes.ofList? width bytes) .invalidShape

def validateDigestB64 (value : String) (length : ℕ) : ClientResult Unit := do
  let bytes ← decodeB64 prims value
  ensure (bytes.length = length) .invalidShape

def validateX25519KeyB64 (hpke : Hpke) (value : String) : ClientResult Unit := do
  let bytes ← decodeFixedBytes prims 32 value
  ensure (bytes ≠ Bytes.zeros 32) .invalidShape
  ensure (hpke.isPublicKey bytes) .invalidShape

section Binding

variable {n : ℕ} {P : Type} [AddCommGroup P] [Module (ZMod n) P] [DecidableEq P]

def validatePublicKeyB64 (K : K256 n P) (value : String) : ClientResult Unit := do
  let bytes ← decodeFixedBytes prims 33 value
  let key ← okOr (PublicKey.fromSec1Bytes K bytes) .invalidShape
  ensure (compressedPoint K key.val = bytes.toList) .invalidShape

variable (prims : Primitives) (K : K256 n P) (hpke : Hpke)

namespace LinkedDeviceEcdsaSourceContributionBinding

variable (binding : LinkedDeviceEcdsaSourceContributionBinding)

/-- The texts that must be non-empty ASCII without white space at their ends. -/
def textFields : List String :=
  [binding.linkSessionId, binding.enrollmentId, binding.sourceAuthorityId] ++
    binding.source.activation.fields ++ binding.target.activation.fields ++
    [binding.target.targetDeviceId]

def validatePreparationFields : ClientResult Unit := do
  binding.textFields.forM requireAsciiNonEmpty
  binding.source.activation.validate
  binding.target.activation.validate
  ensure (binding.source.activation ≠ binding.target.activation ∧
    binding.source.activation.materialOwner = binding.target.activation.materialOwner ∧
    binding.source.activation.signingWorker = binding.target.activation.signingWorker)
    .invalidShape
  validateDigestB64 prims binding.source.thresholdEthereumAddress20B64u 20
  validateDigestB64 prims binding.target.targetFactorVerificationDigestB64u 32
  validatePublicKeyB64 prims K binding.source.clientPublicKey33B64u
  validatePublicKeyB64 prims K binding.source.relayerPublicKey33B64u
  validatePublicKeyB64 prims K binding.source.thresholdPublicKey33B64u
  validateX25519KeyB64 prims hpke binding.target.clientRecipientPublicKeyB64u
  validateX25519KeyB64 prims hpke binding.target.signingWorkerRecipientPublicKeyB64u
  ensure (binding.target.clientRecipientPublicKeyB64u ≠
    binding.target.signingWorkerRecipientPublicKeyB64u) .invalidShape

def validate : ClientResult Unit := do
  binding.validatePreparationFields prims K hpke
  validatePublicKeyB64 prims K binding.targetClientPublicKey33B64u

def encodeSource (source : LinkedDeviceEcdsaSourceSignerIdentity) : ClientResult (List UInt8) := do
  let activation ← source.activation.canonicalBytes
  let client ← decodeFixedBytes prims 33 source.clientPublicKey33B64u
  let relayer ← decodeFixedBytes prims 33 source.relayerPublicKey33B64u
  let threshold ← decodeFixedBytes prims 33 source.thresholdPublicKey33B64u
  let address ← decodeFixedBytes prims 20 source.thresholdEthereumAddress20B64u
  return pushLen32 activation ++ pushLen32 client.toList ++ pushLen32 relayer.toList ++
    pushLen32 threshold.toList ++ pushLen32 address.toList

def encodeTarget (target : LinkedDeviceEcdsaTargetRecipientPreparation) :
    ClientResult (List UInt8) := do
  let activation ← target.activation.canonicalBytes
  let factor ← decodeFixedBytes prims 32 target.targetFactorVerificationDigestB64u
  let client ← decodeFixedBytes prims 32 target.clientRecipientPublicKeyB64u
  let worker ← decodeFixedBytes prims 32 target.signingWorkerRecipientPublicKeyB64u
  return pushLen32 activation ++ pushLen32 (stringBytes target.targetDeviceId) ++
    pushLen32 factor.toList ++ pushLen32 client.toList ++ pushLen32 worker.toList

def canonicalBytes : ClientResult (List UInt8) := do
  binding.validate prims K hpke
  let source ← encodeSource prims binding.source
  let target ← encodeTarget prims binding.target
  let targetClient ← decodeFixedBytes prims 33 binding.targetClientPublicKey33B64u
  return pushLen32 (stringBytes "seams/linked-device/ecdsa-source-contribution-binding/v1") ++
    pushLen32 (stringBytes binding.linkSessionId) ++
    pushLen32 (stringBytes binding.enrollmentId) ++
    pushLen32 (stringBytes binding.sourceAuthorityId) ++ source ++ target ++
    pushLen32 targetClient.toList

def digest : ClientResult (Bytes 32) := do
  let bytes ← binding.canonicalBytes prims K hpke
  return prims.sha256 bytes

end LinkedDeviceEcdsaSourceContributionBinding

/-! ## Envelopes -/

def envelopeDomain : String := "seams/linked-device/ecdsa-source-contribution-envelope/v1"

def hpkeInfo : List UInt8 :=
  stringBytes "seams/linked-device/ecdsa-source-contribution/hpke-x25519-hkdf-sha256-aes256gcm/v1"

def LinkedDeviceEcdsaEncryptedSourceContribution.canonicalBytes
    (envelope : LinkedDeviceEcdsaEncryptedSourceContribution) : ClientResult (List UInt8) := do
  ensure (envelope.kind = envelopeDomain) .invalidShape
  let recipient ← decodeFixedBytes prims 32 envelope.recipientPublicKeyB64u
  let binding ← decodeFixedBytes prims 32 envelope.bindingDigestB64u
  let encapped ← decodeFixedBytes prims 32 envelope.encappedKeyB64u
  let ciphertext ← decodeB64 prims envelope.ciphertextB64u
  ensure (16 < ciphertext.length) .invalidShape
  return pushLen32 (stringBytes envelopeDomain) ++ pushLen32 recipient.toList ++
    pushLen32 binding.toList ++ pushLen32 encapped.toList ++ pushLen32 ciphertext

/-- An envelope must be well formed, carry the digest and name the recipient. -/
def LinkedDeviceEcdsaSourceContributionPackage.validateEnvelope (digest recipient : String)
    (envelope : LinkedDeviceEcdsaEncryptedSourceContribution) : ClientResult Unit := do
  let _ ← envelope.canonicalBytes prims
  ensure (envelope.bindingDigestB64u = digest ∧ envelope.recipientPublicKeyB64u = recipient)
    .invalidShape

def LinkedDeviceEcdsaSourceContributionPackage.validate
    (package : LinkedDeviceEcdsaSourceContributionPackage) : ClientResult Unit := do
  package.binding.validate prims K hpke
  let digest ← package.binding.digest prims K hpke
  validateEnvelope prims (prims.encodeBase64UrlUnpadded digest.toList)
    package.binding.target.signingWorkerRecipientPublicKeyB64u package.encryptedDelta
  validateEnvelope prims (prims.encodeBase64UrlUnpadded digest.toList)
    package.binding.target.clientRecipientPublicKeyB64u package.encryptedTargetClientShare

def sealLinkedDeviceEcdsaSourceContribution (recipientPublicKeyB64u : String)
    (bindingDigest : Bytes 32) (plaintext : List UInt8) (sealSeed : Bytes 32) :
    ClientResult LinkedDeviceEcdsaEncryptedSourceContribution := do
  ensure (plaintext ≠ []) .invalidShape
  let recipient ← decodeFixedBytes prims 32 recipientPublicKeyB64u
  ensure (hpke.isPublicKey recipient) .invalidShape
  let sealedText ← okOr (hpke.sealBase sealSeed recipient hpkeInfo bindingDigest.toList plaintext)
    .hpkeFailed
  return {
    kind := envelopeDomain
    recipientPublicKeyB64u
    bindingDigestB64u := prims.encodeBase64UrlUnpadded bindingDigest.toList
    encappedKeyB64u := prims.encodeBase64UrlUnpadded sealedText.1.toList
    ciphertextB64u := prims.encodeBase64UrlUnpadded sealedText.2 }

def openLinkedDeviceEcdsaSourceContribution
    (envelope : LinkedDeviceEcdsaEncryptedSourceContribution) (recipientPrivateKey32 : Bytes 32)
    (expectedBindingDigest : Bytes 32) : ClientResult (List UInt8) := do
  let _ ← envelope.canonicalBytes prims
  let binding ← decodeFixedBytes prims 32 envelope.bindingDigestB64u
  ensure (binding = expectedBindingDigest) .invalidShape
  ensure (hpke.isPrivateKey recipientPrivateKey32) .invalidShape
  let encapped ← decodeFixedBytes prims 32 envelope.encappedKeyB64u
  ensure (hpke.isEncapsulatedKey encapped) .invalidShape
  let ciphertext ← decodeB64 prims envelope.ciphertextB64u
  okOr (hpke.openBase encapped recipientPrivateKey32 hpkeInfo expectedBindingDigest.toList
    ciphertext) .hpkeFailed

end Binding

/-! ## What was encoded and what was sealed -/

section Laws

variable (b64 : Base64Url) (hpke : Hpke)

theorem decodeB64_encode (bytes : List UInt8) :
    decodeB64 b64.prims (b64.prims.encodeBase64UrlUnpadded bytes) = .ok bytes := by
  rw [decodeB64, b64.decodeBase64UrlUnpadded_encode]
  exact (congrArg (· >>= fun _ => pure bytes) (ensure_of rfl _)).trans rfl

end Laws

end SeamsWallet.LinkedEcdsa
