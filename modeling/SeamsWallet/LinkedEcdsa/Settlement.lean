import SeamsWallet.LinkedEcdsa.Reservation

/-!
# What a linked device's request gets

A reservation, an activation or a revocation is settled from the reservation its target
already has: answered again, refused, or carried out. A new reservation rebinds the source
share to the target's client key; an activation opens the rebound share once more and
checks it against the reserved relayer key. The source share comes from the wallet's own
material or from the active reservation of a device linked before.
-/

namespace SeamsWallet.LinkedEcdsa

open Library EcdsaDerivation
open Ed25519Worker (ServerOutputMaterialRecord)

inductive LinkedEcdsaReservation where
  | answer (response : SourcePreservingReservationResponse)
  | reserve

inductive LinkedEcdsaActivation where
  | answer (response : SourcePreservingReservationResponse)
  | activate

/-- A revocation that began earlier is resumed with its own time. -/
inductive LinkedEcdsaDeactivation where
  | revoked (response : ReservationDeactivationResponse)
  | resume (revokedAtMs : ℕ)
  | revoke

/-- The key a SigningWorker's shares are sealed to. -/
structure ServerOutputKey where
  keyEpoch : String
  publicKey : String
  privateKey : Bytes 32

def ServerOutputKey.server (key : ServerOutputKey) (serverId : String) :
    RouterAbProtocolResult ServerIdentity := do
  let identity : ServerIdentity := ⟨serverId, key.keyEpoch, key.publicKey⟩
  identity.validate
  return identity

def matchesRequest (state : EcdsaReservationState) (request : SourcePreservingReservationRequest)
    (target : MpcMaterialActivationRef) (reservationId : String) : Bool :=
  state.binding = request.sourceContribution.binding ∧ state.materialActivation = target ∧
    state.reservationId = reservationId

def sourcePreservingResponseFromState (state : EcdsaReservationState) (responseState : String) :
    RouterAbProtocolResult SourcePreservingReservationResponse := do
  let reservation ← okOr state.unrevoked (invalidReservation
    "source-preserving ECDSA reservation state cannot return inactive packages")
  return ⟨responseState, reservation⟩

section Settle

variable {n : ℕ} [Fact n.Prime] {P : Type} [AddCommGroup P] [Module (ZMod n) P] [DecidableEq P]
  (env : LinkedEnvironment n P)

def settleLinkedEcdsaReservation (current : Option EcdsaReservationState)
    (request : SourcePreservingReservationRequest) (target : MpcMaterialActivationRef)
    (reservationId : String) : RouterAbProtocolResult LinkedEcdsaReservation :=
  match current with
  | none => return .reserve
  | some state => do
    state.validate env
    let conflict := invalidReservation
      "source-preserving ECDSA material reservation conflicts with the exact activation ref"
    -- A revoked reservation is recognised without its source derivation.
    ensure (matchesRequest state request target reservationId) conflict
    match state with
    | .sourcePreservingInactive _ | .sourcePreservingActivating _ => do
      ensure (state.sourceDerivation = request.sourceDerivation) conflict
      let response ← sourcePreservingResponseFromState state "inactive"
      return .answer response
    | .sourcePreservingActive _ => do
      ensure (state.sourceDerivation = request.sourceDerivation) conflict
      .error (invalidReservation
        "source-preserving ECDSA material reservation is already active")
    | .sourcePreservingRevoked _ =>
      .error (invalidReservation "source-preserving ECDSA material reservation is revoked")
    | .sourcePreservingDeactivating _ => .error conflict

def settleLinkedEcdsaActivation (current : EcdsaReservationState)
    (request : ActivateReservationRequest) : RouterAbProtocolResult LinkedEcdsaActivation := do
  current.validate env
  ensure (request.matchesReservation current) (invalidReservation
    "source-preserving ECDSA reservation activation conflicts with the exact reservation")
  match current with
  | .sourcePreservingActive _ => do
    let response ← sourcePreservingResponseFromState current "active"
    return .answer response
  | .sourcePreservingInactive _ | .sourcePreservingActivating _ => return .activate
  | .sourcePreservingDeactivating _ => .error (invalidReservation
      "source-preserving ECDSA material reservation is being deactivated")
  | .sourcePreservingRevoked _ => .error (invalidReservation
      "source-preserving ECDSA material reservation is revoked")

variable (state : EcdsaReservationState)

def reservationIdMatches : Bool :=
  match state.binding.digest env.prims env.curve env.hpke with
  | .ok digest =>
    state.reservationId = sourcePreservingReservationId env state.materialActivation digest
  | .error _ => false

def settleLinkedEcdsaDeactivation (current : EcdsaReservationState)
    (materialActivation : MpcMaterialActivationRef) :
    RouterAbProtocolResult LinkedEcdsaDeactivation := do
  current.validate env
  ensure (current.materialActivation = materialActivation ∧ reservationIdMatches env current)
    (invalidReservation
      "source-preserving ECDSA deactivation conflicts with the exact activation ref")
  match current with
  | .sourcePreservingRevoked reservation =>
    return .revoked ⟨"revoked", reservation.reservationId, reservation.materialActivation,
      reservation.revokedAtMs⟩
  | .sourcePreservingDeactivating reservation => return .resume reservation.revokedAtMs
  | _ => return .revoke

def intoSourcePreservingActive : RouterAbProtocolResult EcdsaReservationState := do
  let reservation ← okOr state.unrevoked (invalidReservation
    "ECDSA reservation is not an unrevoked linked-device reservation")
  return .sourcePreservingActive reservation

/-! ## A new reservation -/

def linkedEcdsaSourcePublicKeys (binding : LinkedDeviceEcdsaSourceContributionBinding) :
    RouterAbProtocolResult (Bytes 33 × Bytes 33) := do
  let client ← decodeFixedB64 env 33 "linked-device source client public key"
    binding.source.clientPublicKey33B64u
  let relayer ← decodeFixedB64 env 33 "linked-device source relayer public key"
    binding.source.relayerPublicKey33B64u
  return (client, relayer)

def linkedSourceIdentity (binding : LinkedDeviceEcdsaSourceContributionBinding) :
    RouterAbProtocolResult EcdsaLanePublicIdentityBindingV1 := do
  let (sourceClientPublicKey33, sourceRelayerPublicKey33) ←
    linkedEcdsaSourcePublicKeys env binding
  let thresholdPublicKey33 ← decodeFixedB64 env 33 "linked-device source threshold public key"
    binding.source.thresholdPublicKey33B64u
  let thresholdEthereumAddress20 ← decodeFixedB64 env 20
    "linked-device source threshold Ethereum address"
    binding.source.thresholdEthereumAddress20B64u
  return { sourceClientPublicKey33, sourceRelayerPublicKey33, thresholdPublicKey33,
           thresholdEthereumAddress20 }

def openDelta (request : SourcePreservingReservationRequest) (privateKey digest : Bytes 32) :
    RouterAbProtocolResult (EcdsaLaneDelta n) := do
  let opened ← (openLinkedDeviceEcdsaSourceContribution env.prims env.hpke
    request.sourceContribution.encryptedDelta privateKey digest).mapError fun error =>
      invalidReservation ("linked-device ECDSA source contribution delta could not be opened: " ++
        error.debug)
  let delta32 ← okOr (Bytes.ofList? 32 opened)
    (invalidReservation "linked-device ECDSA source contribution delta must be 32 bytes")
  (EcdsaLaneDelta.fromBytes n delta32).mapError fun error => invalidReservation
    s!"linked-device ECDSA source contribution delta is invalid: {error.message}"

/-- The reservation of a target: the delta rebinds the source share to the target's client
key, and the rebound share is sealed to this SigningWorker. -/
def linkedEcdsaInactiveState (request : SourcePreservingReservationRequest)
    (sourceRelayerShare32 privateKey sealSeed : Bytes 32) :
    RouterAbProtocolResult EcdsaReservationState := do
  let binding := request.sourceContribution.binding
  let digest ← sourceContributionBindingDigest env binding
  let materialActivation ← mpcMaterialActivationFromEcdsaRef binding.target.activation
  let delta ← openDelta env request privateKey digest
  let sourceIdentity ← linkedSourceIdentity env binding
  let targetClient ← decodeFixedB64 env 33 "linked-device target client public key"
    binding.targetClientPublicKey33B64u
  let rebound ← (rebindEcdsaLaneRelayerShareBytesV1 env.curve env.address sourceRelayerShare32
    sourceIdentity delta targetClient).mapError fun error => invalidReservation
      s!"linked-device ECDSA source contribution rebind failed: {error.message}"
  let encryptedTargetServerShare ← (sealLinkedDeviceEcdsaSourceContribution env.prims env.hpke
    binding.target.signingWorkerRecipientPublicKeyB64u digest
    rebound.targetRelayerShare32.toList sealSeed).mapError fun error => invalidReservation
      ("linked-device ECDSA target server package could not be sealed: " ++ error.debug)
  let state := EcdsaReservationState.sourcePreservingInactive
    { binding
      sourceDerivation := request.sourceDerivation
      materialActivation
      reservationId := sourcePreservingReservationId env materialActivation digest
      targetRelayerPublicKey33B64u :=
        env.prims.encodeBase64UrlUnpadded rebound.targetRelayerPublicKey33.toList
      thresholdPublicKey33B64u :=
        env.prims.encodeBase64UrlUnpadded rebound.targetThresholdPublicKey33.toList
      thresholdEthereumAddress20B64u :=
        env.prims.encodeBase64UrlUnpadded rebound.targetEthereumAddress20.toList
      encryptedTargetClientShare := request.sourceContribution.encryptedTargetClientShare
      encryptedTargetServerShare }
  state.validate env
  return state

/-! ## Source shares -/

/-- The share the wallet's own material holds against the source's client. -/
def registrationSourceRelayerShare (outputMaterial : Bytes 32)
    (sourceActivation : EcdsaMaterialActivationRef)
    (sourceDerivation : EcdsaRegistrationSourceDerivation)
    (sourceClientPublicKey33 sourceRelayerPublicKey33 : Bytes 33) :
    RouterAbProtocolResult (Bytes 32) := do
  let applicationBindingDigest ← sourceDerivation.decode env
  let (relayerShare, publicIdentity) ← (deriveRelayerShareForClientPublic env.curve env.address
    env.derivation ⟨applicationBindingDigest⟩ outputMaterial sourceClientPublicKey33
    sourceDerivation.clientShareRetryCounter).mapError fun error => ⟨.malformedWirePayload,
      "ECDSA registration source share derivation failed: " ++ error.debug⟩
  ensure (env.prims.encodeBase64UrlUnpadded publicIdentity.contextBinding32.toList =
      sourceActivation.keyBinding)
    ⟨.malformedWirePayload, "ECDSA registration source context binding is inconsistent"⟩
  ensure (publicIdentity.relayerPublicKey33 = sourceRelayerPublicKey33)
    ⟨.malformedWirePayload, "ECDSA registration source relayer public key is inconsistent"⟩
  return relayerShare.xRelayer32

def decryptSourcePreservingServerShare
    (envelope : LinkedDeviceEcdsaEncryptedSourceContribution) (privateKey bindingDigest : Bytes 32)
    (expectedRelayerPublicKey33 : Bytes 33) : RouterAbProtocolResult (Bytes 32) := do
  let opened ← (openLinkedDeviceEcdsaSourceContribution env.prims env.hpke envelope privateKey
    bindingDigest).mapError fun error => invalidReservation
      ("source-preserving ECDSA target server share could not be opened: " ++ error.debug)
  let share32 ← okOr (Bytes.ofList? 32 opened)
    (invalidReservation "source-preserving ECDSA target server share must be 32 bytes")
  let publicKey33 ← (ecdsaLaneClientPublicKeyFromShare32 env.curve share32).mapError
    fun error => invalidReservation
      s!"source-preserving ECDSA target server share is invalid: {error.message}"
  ensure (publicKey33 = expectedRelayerPublicKey33) ⟨.invalidLocalServiceConfig,
    "source-preserving ECDSA target server share does not match the reserved relayer identity"⟩
  return share32

def selectSourcePreservingActiveReservation (materialActivation : MpcMaterialActivationRef) :
    RouterAbProtocolResult LinkedReservation :=
  let missing : RouterAbProtocolError := ⟨.missingLocalBinding,
    "source-preserving ECDSA material reservation is missing"⟩
  match state with
  | .sourcePreservingActive reservation => do
    ensure (reservation.materialActivation = materialActivation) ⟨.conflictingPair,
      "source-preserving ECDSA material activation conflicts with the exact reservation"⟩
    return reservation
  | .sourcePreservingInactive _ | .sourcePreservingActivating _ => do
    ensure (state.materialActivation = materialActivation) missing
    .error (invalidReservation "source-preserving ECDSA material reservation is not active")
  | .sourcePreservingDeactivating _ | .sourcePreservingRevoked _ => do
    ensure (state.materialActivation = materialActivation) missing
    .error (invalidReservation "source-preserving ECDSA material reservation is revoked")

/-- The share of a linked device that is the source of a further link. -/
def linkedSourceRelayerShare (sourceState : EcdsaReservationState)
    (binding : LinkedDeviceEcdsaSourceContributionBinding) (privateKey : Bytes 32) :
    RouterAbProtocolResult (Bytes 32) := do
  let sourceActivation ← mpcMaterialActivationFromEcdsaRef binding.source.activation
  let active ← selectSourcePreservingActiveReservation sourceState sourceActivation
  ensure (binding.source.clientPublicKey33B64u = active.binding.targetClientPublicKey33B64u ∧
      binding.source.relayerPublicKey33B64u = active.targetRelayerPublicKey33B64u ∧
      binding.source.thresholdPublicKey33B64u = active.thresholdPublicKey33B64u ∧
      binding.source.thresholdEthereumAddress20B64u = active.thresholdEthereumAddress20B64u)
    (invalidReservation
      "linked-device ECDSA source differs from the linked device's active material")
  let digest ← sourceContributionBindingDigest env active.binding
  let relayer ← decodeFixedB64 env 33 "linked-device source relayer public key"
    active.targetRelayerPublicKey33B64u
  decryptSourcePreservingServerShare env active.encryptedTargetServerShare privateKey digest
    relayer

/-! ## Activation -/

/-- The descriptor and the material a linked device's active reservation signs with. -/
def linkedEcdsaActiveMaterial (materialActivation : MpcMaterialActivationRef)
    (signingWorker : ServerIdentity)
    (privateKey : Bytes 32) (activatedAtMs : ℕ) :
    RouterAbProtocolResult EcdsaActivationMaterial := do
  signingWorker.validate
  let active ← selectSourcePreservingActiveReservation state materialActivation
  let recipient ← env.hpkeX25519PublicKeyBytes signingWorker.recipientEncryptionKey
  ensure (active.binding.target.activation.signingWorker = signingWorker.serverId ∧
      active.binding.target.activation.materialOwner = materialActivation.materialOwner ∧
      active.binding.target.signingWorkerRecipientPublicKeyB64u =
        env.prims.encodeBase64UrlUnpadded recipient.toList)
    ⟨.invalidLocalServiceConfig, "source-preserving ECDSA reservation SigningWorker " ++
      "identity does not match the active worker"⟩
  let digest ← bindingDigestAs env "source-preserving ECDSA reservation binding digest"
    active.binding
  let relayer ← decodeFixedB64 env 33 "source-preserving ECDSA target relayer public key"
    active.targetRelayerPublicKey33B64u
  let share32 ← decryptSourcePreservingServerShare env active.encryptedTargetServerShare
    privateKey digest relayer
  let material : ServerOutputMaterialRecord :=
    ⟨digest, .xServerBase, .server, signingWorker.serverId, share32⟩
  material.validate
  let activeState : ActiveSigningWorkerState :=
    { accountId := materialActivation.materialOwner
      materialActivation
      accountPublicKey := active.thresholdPublicKey33B64u
      signingWorker
      activationTranscriptDigest := digest
      activationDigest := digest
      signingWorkerMaterialHandle := "source-preserving-ecdsa/" ++ active.reservationId
      activatedAtMs }
  activeState.validate
  return ⟨activeState, material⟩

end Settle

end SeamsWallet.LinkedEcdsa
