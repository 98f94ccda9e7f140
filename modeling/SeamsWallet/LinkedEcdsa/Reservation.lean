import SeamsWallet.Ecdsa.RelayerShare
import SeamsWallet.Ed25519.WorkerHandler
import SeamsWallet.LinkedEcdsa.Contribution

/-!
# Reservations for linked devices

The material of a linked device is reserved, activated and revoked. A reservation keeps
the binding it was made for and, until it is revoked, the target's public keys and the two
shares sealed to the target and to the SigningWorker. What a request gets is settled from
the stored reservation alone; the store that keeps it comes later.

The reservations of the registration flow share the stored type but never a table with
these, and are left out.
-/

namespace SeamsWallet.LinkedEcdsa

open Library EcdsaDerivation WalletObject
open Ed25519Worker (ServerOutputMaterialRecord)

def invalidReservation (message : String) : RouterAbProtocolError :=
  ⟨.invalidLifecycleState, message⟩

/-- What the reservations take from outside: the curve and its hashes, HPKE, base64url, the
serialisation of an activation and the parser of configured HPKE keys. -/
structure LinkedEnvironment (n : ℕ) (P : Type) [AddCommGroup P] [Module (ZMod n) P] where
  b64 : Base64Url
  curve : K256 n P
  address : AddressHash P
  derivation : DerivationHash n
  hpke : Hpke
  materialActivationJson : MpcMaterialActivationRef → List UInt8
  hpkeX25519PublicKeyBytes : String → RouterAbProtocolResult (Bytes 32)

structure EcdsaRegistrationSourceDerivation where
  applicationBindingDigestB64u : String
  clientShareRetryCounter : ℕ
  deriving DecidableEq

/-! ## Reservations -/

/-- A reservation that is not revoked. -/
structure LinkedReservation where
  binding : LinkedDeviceEcdsaSourceContributionBinding
  sourceDerivation : EcdsaRegistrationSourceDerivation
  materialActivation : MpcMaterialActivationRef
  reservationId : String
  targetRelayerPublicKey33B64u : String
  thresholdPublicKey33B64u : String
  thresholdEthereumAddress20B64u : String
  encryptedTargetClientShare : LinkedDeviceEcdsaEncryptedSourceContribution
  encryptedTargetServerShare : LinkedDeviceEcdsaEncryptedSourceContribution
  deriving DecidableEq

/-- What is left of a reservation that is or is about to be revoked. -/
structure RevokedReservation where
  binding : LinkedDeviceEcdsaSourceContributionBinding
  sourceDerivation : EcdsaRegistrationSourceDerivation
  materialActivation : MpcMaterialActivationRef
  reservationId : String
  revokedAtMs : ℕ
  deriving DecidableEq

inductive EcdsaReservationState where
  | sourcePreservingInactive (reservation : LinkedReservation)
  | sourcePreservingActivating (reservation : LinkedReservation)
  | sourcePreservingActive (reservation : LinkedReservation)
  | sourcePreservingRevoked (reservation : RevokedReservation)
  | sourcePreservingDeactivating (reservation : RevokedReservation)
  deriving DecidableEq

namespace EcdsaReservationState

def binding : EcdsaReservationState → LinkedDeviceEcdsaSourceContributionBinding
  | sourcePreservingInactive reservation | sourcePreservingActivating reservation
  | sourcePreservingActive reservation => reservation.binding
  | sourcePreservingRevoked reservation | sourcePreservingDeactivating reservation =>
    reservation.binding

def sourceDerivation : EcdsaReservationState → EcdsaRegistrationSourceDerivation
  | sourcePreservingInactive reservation | sourcePreservingActivating reservation
  | sourcePreservingActive reservation => reservation.sourceDerivation
  | sourcePreservingRevoked reservation | sourcePreservingDeactivating reservation =>
    reservation.sourceDerivation

def materialActivation : EcdsaReservationState → MpcMaterialActivationRef
  | sourcePreservingInactive reservation | sourcePreservingActivating reservation
  | sourcePreservingActive reservation => reservation.materialActivation
  | sourcePreservingRevoked reservation | sourcePreservingDeactivating reservation =>
    reservation.materialActivation

def reservationId : EcdsaReservationState → String
  | sourcePreservingInactive reservation | sourcePreservingActivating reservation
  | sourcePreservingActive reservation => reservation.reservationId
  | sourcePreservingRevoked reservation | sourcePreservingDeactivating reservation =>
    reservation.reservationId

def unrevoked : EcdsaReservationState → Option LinkedReservation
  | sourcePreservingInactive reservation | sourcePreservingActivating reservation
  | sourcePreservingActive reservation => some reservation
  | sourcePreservingRevoked _ | sourcePreservingDeactivating _ => none

end EcdsaReservationState

/-! ## Requests and responses -/

structure SourcePreservingReservationRequest where
  ownershipGeneration : ℕ
  scope : WalletScope
  sourceDerivation : EcdsaRegistrationSourceDerivation
  sourceContribution : LinkedDeviceEcdsaSourceContributionPackage

structure ActivateReservationRequest where
  ownershipGeneration : ℕ
  scope : WalletScope
  materialActivation : MpcMaterialActivationRef
  reservationId : String

structure DeactivateReservationRequest where
  ownershipGeneration : ℕ
  scope : WalletScope
  materialActivation : MpcMaterialActivationRef

/-- The packages of a reservation, answered to a reservation and to an activation. -/
structure SourcePreservingReservationResponse where
  state : String
  reservation : LinkedReservation

structure ReservationDeactivationResponse where
  state : String
  reservationId : String
  materialActivation : MpcMaterialActivationRef
  revokedAtMs : ℕ

/-- The material of an activation and the descriptor signing finds it by. -/
structure EcdsaActivationMaterial where
  active : ActiveSigningWorkerState
  material : ServerOutputMaterialRecord
  deriving DecidableEq

/-! ## Identities -/

def mpcMaterialActivationFromEcdsaRef (activation : EcdsaMaterialActivationRef) :
    RouterAbProtocolResult MpcMaterialActivationRef := do
  let result : MpcMaterialActivationRef :=
    ⟨activation.activationId, activation.capability, activation.materialOwner,
      activation.keyBinding, activation.lifecycleBinding, activation.signingWorker⟩
  result.validate
  return result

def activeOutputKey (materialActivation : MpcMaterialActivationRef) : String :=
  s!"active-signing-worker/{materialActivation.materialOwner}/" ++
    s!"{materialActivation.activationId}/{materialActivation.signingWorker}"

/-- Text without ASCII control characters: in UTF-8 these are single bytes, and the bytes
of all other characters differ from them. -/
def requireReservationId (value : String) : RouterAbProtocolResult Unit :=
  ensure (value ≠ "" ∧ value.toByteArray.data.toList.all fun byte => ¬ (byte < 32 ∨ byte = 127))
    (invalidReservation "ECDSA reservation id is invalid")

section Reservation

variable {n : ℕ} [Fact n.Prime] {P : Type} [AddCommGroup P] [Module (ZMod n) P] [DecidableEq P]
  (env : LinkedEnvironment n P)

abbrev LinkedEnvironment.prims (env : LinkedEnvironment n P) : Primitives := env.b64.prims

variable (materialActivation : MpcMaterialActivationRef)

/-- The digest that identifies an activation, in hexadecimal digits. -/
def materialActivationHex : String :=
  hexSlice (env.prims.sha256 (env.materialActivationJson materialActivation)).toList

def reservationRecordKey : String :=
  "ecdsa/" ++ materialActivationHex env materialActivation

def sourcePreservingReservationId (bindingDigest : Bytes 32) : String :=
  s!"ordinary-ecdsa-source-preserving-inactive-v1:{materialActivationHex env materialActivation}:"
    ++ hexSlice bindingDigest.toList

def decodeFixedB64 (width : ℕ) (label value : String) : RouterAbProtocolResult (Bytes width) := do
  let bytes ← (env.prims.decodeUrlSafeNoPad value).mapError fun _ =>
    invalidReservation s!"{label} is not unpadded base64url"
  okOr (Bytes.ofList? width bytes) (invalidReservation s!"{label} must decode to {width} bytes")

/-- The digest of a binding, with the text an error is reported under. -/
def bindingDigestAs (label : String) (binding : LinkedDeviceEcdsaSourceContributionBinding) :
    RouterAbProtocolResult (Bytes 32) :=
  (binding.digest env.prims env.curve env.hpke).mapError fun error =>
    invalidReservation s!"{label} is invalid: {error.debug}"

def sourceContributionBindingDigest :
    LinkedDeviceEcdsaSourceContributionBinding → RouterAbProtocolResult (Bytes 32) :=
  bindingDigestAs env "linked-device ECDSA source contribution binding"

def EcdsaRegistrationSourceDerivation.decode (derivation : EcdsaRegistrationSourceDerivation) :
    RouterAbProtocolResult (Bytes 32) := do
  let label := "ECDSA registration source application binding digest"
  let bytes ← (env.prims.decodeUrlSafeNoPad derivation.applicationBindingDigestB64u).mapError
    fun _ => ⟨.malformedWirePayload, s!"{label} is not unpadded base64url"⟩
  okOr (Bytes.ofList? 32 bytes) ⟨.malformedWirePayload, s!"{label} must decode to 32 bytes"⟩

def EcdsaRegistrationSourceDerivation.validate (derivation : EcdsaRegistrationSourceDerivation) :
    RouterAbProtocolResult Unit := do
  let _ ← derivation.decode env

/-! ## Checks of requests -/

def SourcePreservingReservationRequest.validate (request : SourcePreservingReservationRequest) :
    RouterAbProtocolResult Unit := do
  validateWalletOwnershipGeneration request.ownershipGeneration
  request.scope.validate
  request.sourceDerivation.validate env
  (request.sourceContribution.validate env.prims env.curve env.hpke).mapError fun error =>
    invalidReservation s!"linked-device ECDSA source contribution is invalid: {error.debug}"
  let binding := request.sourceContribution.binding
  ensure (binding.source.activation.materialOwner = request.scope.walletId ∧
      binding.target.activation.materialOwner = request.scope.walletId)
    (invalidReservation "linked-device ECDSA reservation names another wallet")

def ActivateReservationRequest.validate (request : ActivateReservationRequest) :
    RouterAbProtocolResult Unit := do
  validateWalletOwnershipGeneration request.ownershipGeneration
  request.scope.validate
  request.materialActivation.validate
  ensure (request.materialActivation.materialOwner = request.scope.walletId)
    (invalidReservation "ECDSA reservation activation names another wallet")
  requireReservationId request.reservationId

def ActivateReservationRequest.matchesReservation (request : ActivateReservationRequest)
    (state : EcdsaReservationState) : Bool :=
  request.reservationId = state.reservationId ∧
    request.materialActivation = state.materialActivation

def DeactivateReservationRequest.validate (request : DeactivateReservationRequest) :
    RouterAbProtocolResult Unit := do
  validateWalletOwnershipGeneration request.ownershipGeneration
  request.scope.validate
  request.materialActivation.validate
  ensure (request.materialActivation.materialOwner = request.scope.walletId)
    (invalidReservation "ECDSA reservation deactivation names another wallet")

/-! ## Checks of stored reservations -/

variable (state : EcdsaReservationState)

def validateSourcePreservingIdentity : RouterAbProtocolResult Unit := do
  (state.binding.validate env.prims env.curve env.hpke).mapError fun error =>
    invalidReservation s!"source-preserving ECDSA reservation binding is invalid: {error.debug}"
  state.sourceDerivation.validate env
  let expected ← mpcMaterialActivationFromEcdsaRef state.binding.target.activation
  ensure (state.materialActivation = expected) (invalidReservation
    "source-preserving ECDSA target material activation does not match the binding")
  let digest ← bindingDigestAs env "source-preserving ECDSA reservation binding digest"
    state.binding
  ensure (state.reservationId = sourcePreservingReservationId env state.materialActivation digest)
    (invalidReservation "source-preserving ECDSA reservation id does not match the binding")
  requireReservationId state.reservationId

def validateSourcePreservingEnvelope (envelope : LinkedDeviceEcdsaEncryptedSourceContribution)
    (bindingDigest : Bytes 32) (expectedRecipient label : String) :
    RouterAbProtocolResult Unit := do
  let _ ← (envelope.canonicalBytes env.prims).mapError fun error =>
    invalidReservation s!"source-preserving ECDSA {label} package is invalid: {error.debug}"
  ensure (envelope.bindingDigestB64u = env.prims.encodeBase64UrlUnpadded bindingDigest.toList ∧
      envelope.recipientPublicKeyB64u = expectedRecipient)
    (invalidReservation s!"source-preserving ECDSA {label} package does not match the binding")

/-- The public keys of a reservation: the target's two keys make the threshold key, and the
threshold key and address are the source's. -/
def validateTargetKeys (reservation : LinkedReservation) : RouterAbProtocolResult Unit := do
  let binding := reservation.binding
  let targetClient ← decodeFixedB64 env 33 "source-preserving ECDSA target client public key"
    binding.targetClientPublicKey33B64u
  let targetRelayer ← decodeFixedB64 env 33 "source-preserving ECDSA target relayer public key"
    reservation.targetRelayerPublicKey33B64u
  let threshold ← decodeFixedB64 env 33 "source-preserving ECDSA target threshold public key"
    reservation.thresholdPublicKey33B64u
  let sourceThreshold ← decodeFixedB64 env 33
    "source-preserving ECDSA source threshold public key" binding.source.thresholdPublicKey33B64u
  ensure (threshold = sourceThreshold) (invalidReservation
    "source-preserving ECDSA target threshold key does not preserve the source key")
  let address ← decodeFixedB64 env 20 "source-preserving ECDSA target threshold Ethereum address"
    reservation.thresholdEthereumAddress20B64u
  let sourceAddress ← decodeFixedB64 env 20
    "source-preserving ECDSA source threshold Ethereum address"
    binding.source.thresholdEthereumAddress20B64u
  ensure (address = sourceAddress) (invalidReservation
    "source-preserving ECDSA target Ethereum address does not preserve the source key")
  let reconstructed ← (addSecp256k1PublicKeys33 env.curve targetClient targetRelayer).mapError
    fun error => invalidReservation
      s!"source-preserving ECDSA target public identity is invalid: {error.message}"
  ensure (reconstructed = threshold.toList) (invalidReservation
    "source-preserving ECDSA target public shares do not reconstruct the threshold key")

def validateSourcePreservingState (reservation : LinkedReservation) :
    RouterAbProtocolResult Unit := do
  validateSourcePreservingIdentity env state
  validateTargetKeys env reservation
  let digest ← bindingDigestAs env "source-preserving ECDSA reservation binding digest"
    reservation.binding
  validateSourcePreservingEnvelope env reservation.encryptedTargetClientShare digest
    reservation.binding.target.clientRecipientPublicKeyB64u "target client"
  validateSourcePreservingEnvelope env reservation.encryptedTargetServerShare digest
    reservation.binding.target.signingWorkerRecipientPublicKeyB64u "target server"

def EcdsaReservationState.validate : RouterAbProtocolResult Unit :=
  match state with
  | .sourcePreservingInactive reservation | .sourcePreservingActivating reservation
  | .sourcePreservingActive reservation => validateSourcePreservingState env state reservation
  | .sourcePreservingRevoked reservation | .sourcePreservingDeactivating reservation => do
    validateSourcePreservingIdentity env state
    ensure (reservation.revokedAtMs ≠ 0) (invalidReservation
      "source-preserving ECDSA reservation transition timestamp is invalid")

/-- Refuses a contribution sealed to another key than the configured one. -/
def validateSourcePreservingRecipient (configuredPublicKey : String)
    (binding : LinkedDeviceEcdsaSourceContributionBinding) : RouterAbProtocolResult Unit := do
  let configured ← env.hpkeX25519PublicKeyBytes configuredPublicKey
  let admitted ← decodeFixedB64 env 32 "source-preserving ECDSA target SigningWorker recipient"
    binding.target.signingWorkerRecipientPublicKeyB64u
  ensure (configured = admitted) ⟨.invalidLocalServiceConfig,
    "source-preserving ECDSA target recipient does not match the active SigningWorker key"⟩

end Reservation

end SeamsWallet.LinkedEcdsa
