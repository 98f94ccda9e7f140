import SeamsWallet.Ed25519.SignerCore
import SeamsWallet.Protocol.NearRequest

/-!
# The SigningWorker's NEAR handlers

Prepare draws two nonces for an admitted digest and returns their commitments
with a handle; the nonces go into a record that repeats everything they were
drawn for. Finalize takes such a record with the client's share, signs the
digest the record holds, and aggregates.
-/

namespace SeamsWallet.Ed25519Worker

open Library Library.Frost SignerCore

/-! ## Errors and encodings -/

def debugCode : RouterAbProtocolErrorCode → String
  | .emptyField => "EmptyField"
  | .invalidTimeRange => "InvalidTimeRange"
  | .invalidGateDecision => "InvalidGateDecision"
  | .invalidPrepareHandle => "InvalidPrepareHandle"
  | .invalidRole => "InvalidRole"
  | .invalidSignerIdentity => "InvalidSignerIdentity"
  | .invalidLifecycleState => "InvalidLifecycleState"
  | .conflictingPair => "ConflictingPair"
  | .missingPairPreparation => "MissingPairPreparation"
  | .pairPreparationExpired => "PairPreparationExpired"
  | .missingLocalBinding => "MissingLocalBinding"
  | .forbiddenLocalBinding => "ForbiddenLocalBinding"
  | .invalidLocalServiceConfig => "InvalidLocalServiceConfig"
  | .invalidLocalHttpRequest => "InvalidLocalHttpRequest"
  | .expiredLocalRequest => "ExpiredLocalRequest"
  | .replayedLocalRequest => "ReplayedLocalRequest"
  | .invalidLocalRoute => "InvalidLocalRoute"
  | .malformedWirePayload => "MalformedWirePayload"
  | .unsupportedVectorVersion => "UnsupportedVectorVersion"
  | .lifecycleTransitionInProgress => "LifecycleTransitionInProgress"
  | .supersededAttempt => "SupersededAttempt"

def displayError (error : RouterAbProtocolError) : String :=
  s!"{debugCode error.code}: {error.message}"

variable {q : ℕ} {G : Type} [AddCommGroup G]

def mapFrostError (frost : FrostEd25519 q G) (error : FrostError) : RouterAbProtocolError :=
  ⟨.malformedWirePayload, s!"Ed25519 FROST signing failed: {frost.displayError error}"⟩

def mapSignerCoreError (error : SignerCoreError) : RouterAbProtocolError :=
  let code := match error.code with
    | .invalidInput | .invalidLength | .decodeError | .utf8Error | .unsupported =>
      RouterAbProtocolErrorCode.malformedWirePayload
    | .encodeError | .hkdfError | .cryptoError | .internal =>
      RouterAbProtocolErrorCode.invalidLocalServiceConfig
  ⟨code, s!"Ed25519 FROST signing failed: {error.message}"⟩

def isAsciiWhitespace (c : Char) : Bool :=
  c.toNat == 9 || c.toNat == 10 || c.toNat == 12 || c.toNat == 13 || c.toNat == 32

variable (prims : Primitives)

def decodeBase64UrlFixed32 (field encoded : String) : RouterAbProtocolResult (Bytes 32) := do
  Worker.requireNonEmpty field encoded
  ensure (encoded.toList.all fun c => ¬ isAsciiWhitespace c)
    ⟨.malformedWirePayload, s!"{field} must not contain ASCII whitespace"⟩
  ensure ('=' ∉ encoded.toList) ⟨.malformedWirePayload, s!"{field} must be unpadded base64url"⟩
  let bytes ← (prims.decodeUrlSafeNoPad encoded).mapError fun err =>
    ⟨.malformedWirePayload, s!"{field} base64url decode failed: {err}"⟩
  okOr (Bytes.ofList? 32 bytes)
    ⟨.malformedWirePayload, s!"{field} must decode to 32 bytes, received {bytes.length}"⟩

def stripKeyType (value : String) : Option String :=
  let keyType := "ed25519:".toList
  if value.toList.take keyType.length = keyType then
    some (String.ofList (value.toList.drop keyType.length))
  else none

def decodeNearEd25519PublicKey (decodeBase58 : String → Except String (List UInt8))
    (field value : String) : RouterAbProtocolResult (Bytes 32) := do
  let encoded ← okOr (stripKeyType value) ⟨.malformedWirePayload,
    s!"{field} must use ed25519:<base58-public-key> format"⟩
  let decoded ← (decodeBase58 encoded).mapError fun err =>
    ⟨.malformedWirePayload, s!"{field} base58 decode failed: {err}"⟩
  okOr (Bytes.ofList? 32 decoded)
    ⟨.malformedWirePayload, s!"{field} must decode to 32 bytes, got {decoded.length}"⟩

/-! ## Stored material -/

inductive OpenedShareKind where
  | xClientBase
  | xServerBase
  deriving DecidableEq

inductive Role where
  | router
  | signerA
  | signerB
  | server
  | client
  deriving DecidableEq

structure ServerOutputMaterialRecord where
  transcriptDigest : PublicDigest32
  openedShareKind : OpenedShareKind
  recipientRole : Role
  recipientIdentity : String
  outputMaterial : Bytes 32
  deriving DecidableEq

def ServerOutputMaterialRecord.validate (record : ServerOutputMaterialRecord) :
    RouterAbProtocolResult Unit := do
  Worker.requireNonEmpty "server output material recipient_identity"
    record.recipientIdentity
  ensure (record.openedShareKind = .xServerBase ∧ record.recipientRole = .server)
    ⟨.invalidLocalServiceConfig,
      "Cloudflare server output material must be x_server_base for server"⟩

structure Round1State where
  signingNonces : List UInt8
  commitments : NormalSigningCommitments

namespace Round1State

variable [DecidableEq G] (frost : FrostEd25519 q G)

/-- Public commitments in their wire form; `doing` starts the error texts. -/
def encodeCommitments (doing : String) (commitments : SigningCommitments (Element q G)) :
    RouterAbProtocolResult NormalSigningCommitments := do
  let hidingBytes ← (frost.ciphersuite.serialize commitments.hidingCommitment).mapError
    fun e => ⟨.malformedWirePayload,
      s!"failed to {doing} hiding commitment: {frost.displayError e}"⟩
  let bindingBytes ← (frost.ciphersuite.serialize commitments.bindingCommitment).mapError
    fun e => ⟨.malformedWirePayload,
      s!"failed to {doing} binding commitment: {frost.displayError e}"⟩
  let wire : NormalSigningCommitments := ⟨prims.encodeBase64UrlUnpadded hidingBytes,
    prims.encodeBase64UrlUnpadded bindingBytes⟩
  wire.validate
  return wire

def openSigningNonces (state : Round1State) : RouterAbProtocolResult (SigningNonces (ZMod q)) :=
  (frost.deserializeSigningNonces state.signingNonces).mapError fun e =>
    ⟨.malformedWirePayload,
      s!"invalid persisted SigningWorker FROST nonces: {frost.displayError e}"⟩

def validate (frost : FrostEd25519 q G) (state : Round1State) : RouterAbProtocolResult Unit := do
  state.commitments.validate
  let nonces ← state.openSigningNonces frost
  let expected ← encodeCommitments prims frost "validate" (nonces.commitments frost.ciphersuite)
  ensure (expected = state.commitments) ⟨.malformedWirePayload,
    "persisted SigningWorker FROST nonces do not match commitments"⟩

def create (nonces : SigningNonces (ZMod q)) : RouterAbProtocolResult Round1State := do
  let signingNonces ← (frost.serializeSigningNonces nonces).mapError fun e =>
    ⟨.malformedWirePayload,
      s!"failed to serialize SigningWorker FROST nonces: {frost.displayError e}"⟩
  let commitments ← encodeCommitments prims frost "serialize" (nonces.commitments frost.ciphersuite)
  let state : Round1State := ⟨signingNonces, commitments⟩
  state.validate prims frost
  return state

end Round1State

structure Round1Record where
  activeSigningWorkerState : ActiveSigningWorkerState
  serverRound1Handle : String
  round1BindingDigest : PublicDigest32
  intentDigest : PublicDigest32
  signingPayloadDigest : PublicDigest32
  admittedSigningDigest : PublicDigest32
  round1State : Round1State
  createdAtMs : ℕ
  expiresAtMs : ℕ

structure Round1Lookup where
  activeSigningWorkerState : ActiveSigningWorkerState
  serverRound1Handle : String
  round1BindingDigest : PublicDigest32
  nowUnixMs : ℕ

def Round1Lookup.validate (lookup : Round1Lookup) : RouterAbProtocolResult Unit := do
  lookup.activeSigningWorkerState.validate
  Worker.requireNonEmpty "server_round1_handle" lookup.serverRound1Handle
  Worker.requirePositiveMs "SigningWorker round-1 lookup now_unix_ms" lookup.nowUnixMs

namespace Round1Record

variable [DecidableEq G]

def validate (frost : FrostEd25519 q G) (record : Round1Record) : RouterAbProtocolResult Unit := do
  record.activeSigningWorkerState.validate
  Worker.requireNonEmpty "server_round1_handle" record.serverRound1Handle
  (record.round1State.validate prims frost).mapError fun err =>
    ⟨.malformedWirePayload, s!"SigningWorker round-1 state is invalid: {displayError err}"⟩
  Worker.requirePositiveMs "SigningWorker round-1 created_at_ms" record.createdAtMs
  Worker.requirePositiveMs "SigningWorker round-1 expires_at_ms" record.expiresAtMs
  ensure (record.createdAtMs < record.expiresAtMs)
    ⟨.invalidTimeRange, "SigningWorker round-1 expiry must be after creation"⟩

def validateForLookup (frost : FrostEd25519 q G)
    (record : Round1Record) (lookup : Round1Lookup) : RouterAbProtocolResult Unit := do
  record.validate prims frost
  lookup.validate
  ensure (lookup.nowUnixMs < record.expiresAtMs)
    ⟨.expiredLocalRequest, "SigningWorker round-1 nonce material expired"⟩
  ensure (record.serverRound1Handle = lookup.serverRound1Handle ∧
      record.round1BindingDigest = lookup.round1BindingDigest ∧
      record.activeSigningWorkerState = lookup.activeSigningWorkerState)
    ⟨.invalidLocalServiceConfig, "SigningWorker round-1 record does not match lookup"⟩

end Round1Record

/-! ## Prepare -/

structure PrepareRandom where
  hidingRandom : Bytes 32
  bindingRandom : Bytes 32
  handleRandom : Bytes 16

structure MaterializedPrepareRequest (Admission : Type) where
  request : AdmittedNearPrepareRequest Admission
  activeSigningWorker : ActiveSigningWorkerState
  material : ServerOutputMaterialRecord
  preparedAtMs : ℕ

def MaterializedPrepareRequest.validate {Admission : Type} (env : NearEnvironment Admission)
    (materialized : MaterializedPrepareRequest Admission) :
    RouterAbProtocolResult Unit := do
  materialized.request.validate env
  ensure (materialized.preparedAtMs < materialized.request.expiresAtMs)
    ⟨.expiredLocalRequest, "normal-signing v2 prepare request expired"⟩
  materialized.activeSigningWorker.validateForScope materialized.request.scope
  materialized.material.validate
  Worker.requirePositiveMs "normal-signing v2 prepared_at_ms" materialized.preparedAtMs
  ensure (materialized.material.transcriptDigest =
        materialized.activeSigningWorker.activationTranscriptDigest ∧
      materialized.material.recipientIdentity =
        materialized.activeSigningWorker.signingWorker.serverId)
    ⟨.invalidLocalServiceConfig, "SigningWorker v2 prepare material does not match active state"⟩

structure Round1Prepared where
  response : Round1PrepareResponse
  record : Round1Record

section Handlers

variable [DecidableEq G] {Admission : Type}

def prepareEd25519Round1 (frost : FrostEd25519 q G)
    (signingShareBytes : Bytes 32) (hidingRandom bindingRandom : Bytes 32) :
    RouterAbProtocolResult Round1State := do
  let signingShare ← (FrostEd25519.deserializeScalar q signingShareBytes.toList).mapError
    (mapFrostError frost)
  Round1State.create prims frost (frost.commit signingShare hidingRandom bindingRandom)

variable (env : NearEnvironment Admission) (frost : FrostEd25519 q G)

def Round1Prepared.validateForRequest (prepared : Round1Prepared)
    (materialized : MaterializedPrepareRequest Admission) :
    RouterAbProtocolResult Unit := do
  materialized.validate env
  prepared.response.validate
  prepared.record.validate env.prims frost
  let round1BindingDigest ← materialized.request.round1BindingDigest
  let candidate := materialized.request.admissionCandidate
  let expectedServerVerifyingShare := verifyingShareBytesFromSigningShareBytes frost
    materialized.material.outputMaterial
  ensure (prepared.response.scope = materialized.request.scope ∧
      prepared.response.signingPayloadDigest = candidate.signingPayloadDigest ∧
      prepared.response.round1BindingDigest = round1BindingDigest ∧
      prepared.response.signingWorker = materialized.activeSigningWorker.signingWorker ∧
      prepared.response.expiresAtMs = materialized.request.expiresAtMs ∧
      prepared.record.activeSigningWorkerState = materialized.activeSigningWorker ∧
      prepared.record.serverRound1Handle = prepared.response.serverRound1Handle ∧
      prepared.record.round1BindingDigest = round1BindingDigest ∧
      prepared.record.intentDigest = candidate.intentDigest ∧
      prepared.record.signingPayloadDigest = candidate.signingPayloadDigest ∧
      prepared.record.admittedSigningDigest = candidate.admittedSigningDigest ∧
      prepared.record.createdAtMs = materialized.preparedAtMs ∧
      prepared.record.expiresAtMs = materialized.request.expiresAtMs ∧
      prepared.response.serverCommitments = prepared.record.round1State.commitments ∧
      prepared.response.serverVerifyingShareB64u =
        env.prims.encodeBase64UrlUnpadded expectedServerVerifyingShare.toList)
    ⟨.invalidLocalServiceConfig, "SigningWorker v2 round-1 prepared record does not match response"⟩

def handleNormalSigningPrepareRequest (random : PrepareRandom)
    (materialized : MaterializedPrepareRequest Admission) :
    RouterAbProtocolResult Round1Prepared := do
  materialized.validate env
  let round1State ← prepareEd25519Round1 env.prims frost
    materialized.material.outputMaterial random.hidingRandom random.bindingRandom
  let candidate := materialized.request.admissionCandidate
  let serverRound1Handle := s!"server-round1/{materialized.request.scope.requestId}/" ++
    env.prims.encodeBase64UrlUnpadded random.handleRandom.toList
  let serverVerifyingShare := verifyingShareBytesFromSigningShareBytes frost
    materialized.material.outputMaterial
  let round1BindingDigest ← materialized.request.round1BindingDigest
  let record : Round1Record := {
    activeSigningWorkerState := materialized.activeSigningWorker
    serverRound1Handle
    round1BindingDigest
    intentDigest := candidate.intentDigest
    signingPayloadDigest := candidate.signingPayloadDigest
    admittedSigningDigest := candidate.admittedSigningDigest
    round1State
    createdAtMs := materialized.preparedAtMs
    expiresAtMs := materialized.request.expiresAtMs }
  record.validate env.prims frost
  let response : Round1PrepareResponse := {
    scope := materialized.request.scope
    signingPayloadDigest := candidate.signingPayloadDigest
    round1BindingDigest
    signingWorker := materialized.activeSigningWorker.signingWorker
    serverRound1Handle
    serverCommitments := round1State.commitments
    serverVerifyingShareB64u :=
      env.prims.encodeBase64UrlUnpadded serverVerifyingShare.toList
    preparedAtMs := materialized.preparedAtMs
    expiresAtMs := materialized.request.expiresAtMs }
  response.validate
  let prepared : Round1Prepared := ⟨response, record⟩
  prepared.validateForRequest env frost materialized
  return prepared

def handlePreparePrivateRequest (random : PrepareRandom) (nowUnixMs : ℕ)
    (request : AdmittedNearPrepareRequest Admission)
    (activeSigningWorker : ActiveSigningWorkerState)
    (material : ServerOutputMaterialRecord) : RouterAbProtocolResult Round1Prepared := do
  request.validate env
  ensure (nowUnixMs < request.expiresAtMs)
    ⟨.expiredLocalRequest, "normal-signing v2 prepare request expired"⟩
  let materialized : MaterializedPrepareRequest Admission :=
    ⟨request, activeSigningWorker, material, nowUnixMs⟩
  materialized.validate env
  handleNormalSigningPrepareRequest env frost random materialized

/-! ## Finalize -/

structure MaterializedFinalizeRequest (Admission : Type) where
  request : AdmittedNearFinalizeRequest Admission
  activeSigningWorker : ActiveSigningWorkerState
  material : ServerOutputMaterialRecord
  serverRound1 : Round1Record
  signedAtMs : ℕ

def MaterializedFinalizeRequest.validate (materialized : MaterializedFinalizeRequest Admission) :
    RouterAbProtocolResult Unit := do
  materialized.request.validate env
  materialized.request.request.validateAt materialized.signedAtMs
  materialized.activeSigningWorker.validateForScope materialized.request.request.scope
  materialized.material.validate
  materialized.serverRound1.validate env.prims frost
  Worker.requirePositiveMs "normal-signing v2 signed_at_ms" materialized.signedAtMs
  ensure (materialized.material.transcriptDigest =
        materialized.activeSigningWorker.activationTranscriptDigest ∧
      materialized.material.recipientIdentity =
        materialized.activeSigningWorker.signingWorker.serverId)
    ⟨.invalidLocalServiceConfig, "SigningWorker v2 finalize material does not match active state"⟩
  let prepareBinding := materialized.request.request.prepareBinding
  let candidate := materialized.request.admissionCandidate
  ensure (materialized.serverRound1.activeSigningWorkerState = materialized.activeSigningWorker ∧
      materialized.serverRound1.serverRound1Handle = prepareBinding.serverRound1Handle ∧
      materialized.serverRound1.round1BindingDigest = prepareBinding.round1BindingDigest ∧
      materialized.serverRound1.intentDigest = candidate.intentDigest ∧
      materialized.serverRound1.signingPayloadDigest = candidate.signingPayloadDigest ∧
      materialized.serverRound1.expiresAtMs = materialized.request.request.expiresAtMs)
    ⟨.invalidLocalServiceConfig,
      "SigningWorker v2 round-1 record does not match materialized finalize request"⟩

def decodeNormalSigningCommitments (commitments : NormalSigningCommitments) :
    RouterAbProtocolResult (SigningCommitments (Element q G)) := do
  let hidingBytes ← decodeBase64UrlFixed32 prims "normal-signing commitments.hiding"
    commitments.hidingCommitment
  let hidingPoint ← (frost.deserializeElement hidingBytes.toList).mapError (mapFrostError frost)
  let bindingBytes ← decodeBase64UrlFixed32 prims "normal-signing commitments.binding"
    commitments.bindingCommitment
  let bindingPoint ← (frost.deserializeElement bindingBytes.toList).mapError (mapFrostError frost)
  return ⟨hidingPoint, bindingPoint⟩

/-- The signature over the digest of the record, from the record's nonces, the
worker's share and what the client sent. -/
def finalizeSignature
    (decodeBase58 : String → Except String (List UInt8)) (frost : FrostEd25519 q G)
    (protocol : FrostFinalizeProtocol) (accountPublicKey : String)
    (outputMaterial : Bytes 32) (serverRound1 : Round1Record) :
    RouterAbProtocolResult (Bytes 64) := do
  ensure (protocol.serverCommitments = serverRound1.round1State.commitments)
    ⟨.invalidLocalServiceConfig,
      "normal-signing v2 server commitments do not match stored round-1 material"⟩
  let serverCommitments ← decodeNormalSigningCommitments prims frost
    protocol.serverCommitments
  let groupPublicKey ← decodeNearEd25519PublicKey decodeBase58
    "active SigningWorker account_public_key" accountPublicKey
  let suppliedServerVerifyingShare ← decodeBase64UrlFixed32 prims
    "normal-signing v2 server_verifying_share_b64u" protocol.serverVerifyingShareB64u
  ensure (suppliedServerVerifyingShare =
      verifyingShareBytesFromSigningShareBytes frost outputMaterial)
    ⟨.invalidLocalServiceConfig,
      "normal-signing server verifying share does not match active Yao material"⟩
  let clientIdentifier ← (FrostEd25519.identifierTryFrom q 1).mapError (mapFrostError frost)
  let signingWorkerIdentifier ← (FrostEd25519.identifierTryFrom q 2).mapError (mapFrostError frost)
  let keyPackage ← (keyPackageFromSigningShareBytes frost outputMaterial groupPublicKey
    signingWorkerIdentifier).mapError mapSignerCoreError
  let clientCommitments ← decodeNormalSigningCommitments prims frost
    protocol.clientCommitments
  let signingPackage := buildSigningPackage serverRound1.admittedSigningDigest.toList
    (FrostEd25519.identifierMap [(clientIdentifier, clientCommitments),
      (signingWorkerIdentifier, serverCommitments)])
  let signingNonces ← serverRound1.round1State.openSigningNonces frost
  let signingWorkerSignatureShare ← (sign frost.ciphersuite signingPackage signingNonces
    keyPackage).mapError (mapFrostError frost)
  let verifyingKey ← (frost.deserializeElement groupPublicKey.toList).mapError (mapFrostError frost)
  let clientVerifyingShare ← (verifyingShareFromB64u prims frost
    protocol.clientVerifyingShareB64u).mapError mapSignerCoreError
  let serverVerifyingShare ← (verifyingShareFromB64u prims frost
    protocol.serverVerifyingShareB64u).mapError mapSignerCoreError
  let clientSignatureShare ← (signatureShareFromB64u prims frost
    protocol.clientSignatureShareB64u).mapError mapSignerCoreError
  (aggregateSignature frost signingPackage verifyingKey
    (FrostEd25519.identifierMap [(clientIdentifier, clientVerifyingShare),
      (signingWorkerIdentifier, serverVerifyingShare)])
    (FrostEd25519.identifierMap [(clientIdentifier, clientSignatureShare),
      (signingWorkerIdentifier, signingWorkerSignatureShare)])).mapError mapSignerCoreError

def handleNormalSigningFinalizeRequest (materialized : MaterializedFinalizeRequest Admission) :
    RouterAbProtocolResult NormalSigningResponse := do
  materialized.validate env frost
  let finalizeRequest := materialized.request.request
  let signature ← finalizeSignature env.prims env.decodeBase58 frost
    finalizeRequest.protocol materialized.activeSigningWorker.accountPublicKey
    materialized.material.outputMaterial materialized.serverRound1
  ensure (signature.toList ≠ []) ⟨.malformedWirePayload, "canonical wire bytes must be non-empty"⟩
  let response : NormalSigningResponse := {
    scope := finalizeRequest.scope
    signingPayloadDigest := finalizeRequest.prepareBinding.signingPayloadDigest
    signingWorker := materialized.activeSigningWorker.signingWorker
    signature := signature.toList
    signedAtMs := materialized.signedAtMs }
  response.validate
  return response

def handleFinalizePrivateRequest (nowUnixMs : ℕ) (request : AdmittedNearFinalizeRequest Admission)
    (activeSigningWorker : ActiveSigningWorkerState)
    (material : ServerOutputMaterialRecord) (serverRound1 : Round1Record) :
    RouterAbProtocolResult NormalSigningResponse := do
  request.validate env
  request.request.validateAt nowUnixMs
  let materialized : MaterializedFinalizeRequest Admission :=
    ⟨request, activeSigningWorker, material, serverRound1, nowUnixMs⟩
  materialized.validate env frost
  let response ← handleNormalSigningFinalizeRequest env frost materialized
  response.validate
  ensure (response.scope = request.request.scope ∧
      response.signingPayloadDigest = request.request.prepareBinding.signingPayloadDigest)
    ⟨.invalidLocalServiceConfig,
      "normal-signing v2 finalize response does not match admitted request"⟩
  return response

end Handlers

end SeamsWallet.Ed25519Worker
