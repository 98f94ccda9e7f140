import SeamsWallet.EcdsaPool.Record
import SeamsWallet.Protocol.EcdsaScope

/-!
# The SigningWorker's pool records

The adapter between the pool crate and storage: a record pairs the lifecycle
with the role-local material of a presignature half and is checked as a whole
whenever it is read or built. `validate` ties the lifecycle's identity to the
scope, the material state to the lifecycle state, and bound material to the
reservation.
-/

namespace SeamsWallet.EcdsaPool

open Library

/-! ## Material -/

/-- Presignature material bound to one signing request. -/
structure EcdsaPresignatureRecord where
  activeSigningWorkerState : ActiveSigningWorkerState
  serverPresignatureId : String
  requestDigest : PublicDigest32
  admittedSigningDigest : PublicDigest32
  serverBigR33B64u : String
  signingWorkerRerandomizationContribution32B64u : String
  serverKShare32B64u : String
  serverSigmaShare32B64u : String
  createdAtMs : ℕ
  expiresAtMs : ℕ
  deriving DecidableEq

variable (prims : Primitives)

def EcdsaPresignatureRecord.validate
    (record : EcdsaPresignatureRecord) : RouterAbProtocolResult Unit := do
  record.activeSigningWorkerState.validate
  Worker.requireNonEmpty "server_presignature_id" record.serverPresignatureId
  Worker.validateCompressedSecp256k1Point prims "server_big_r33_b64u"
    record.serverBigR33B64u
  let _ ← Worker.validateBase64UrlFixedLen prims
    "signing_worker_rerandomization_contribution32_b64u"
    record.signingWorkerRerandomizationContribution32B64u 32
  let _ ← Worker.validateBase64UrlFixedLen prims "server_k_share32_b64u"
    record.serverKShare32B64u 32
  let _ ← Worker.validateBase64UrlFixedLen prims "server_sigma_share32_b64u"
    record.serverSigmaShare32B64u 32
  Worker.requirePositiveMs "SigningWorker ECDSA presignature created_at_ms"
    record.createdAtMs
  Worker.requirePositiveMs "SigningWorker ECDSA presignature expires_at_ms"
    record.expiresAtMs
  ensure (record.createdAtMs < record.expiresAtMs)
    ⟨.invalidTimeRange, "SigningWorker ECDSA presignature expiry must be after creation"⟩

/-- Presignature material not yet bound to a request. -/
structure EcdsaPresignaturePoolRecord where
  scope : EcdsaNormalSigningScope
  activeSigningWorkerState : ActiveSigningWorkerState
  serverPresignatureId : String
  serverBigR33B64u : String
  serverKShare32B64u : String
  serverSigmaShare32B64u : String
  createdAtMs : ℕ
  expiresAtMs : ℕ
  deriving DecidableEq

namespace EcdsaPresignaturePoolRecord

def validate (record : EcdsaPresignaturePoolRecord) : RouterAbProtocolResult Unit := do
  record.scope.validate prims
  record.activeSigningWorkerState.validate
  let lookup ← ActiveSigningWorkerStateLookup.fromEcdsaScope prims record.scope
  lookup.validateActiveState record.activeSigningWorkerState
  Worker.requireNonEmpty "server_presignature_id" record.serverPresignatureId
  Worker.validateCompressedSecp256k1Point prims "server_big_r33_b64u"
    record.serverBigR33B64u
  let _ ← Worker.validateBase64UrlFixedLen prims "server_k_share32_b64u"
    record.serverKShare32B64u 32
  let _ ← Worker.validateBase64UrlFixedLen prims "server_sigma_share32_b64u"
    record.serverSigmaShare32B64u 32
  Worker.requirePositiveMs "SigningWorker ECDSA presignature pool created_at_ms"
    record.createdAtMs
  Worker.requirePositiveMs "SigningWorker ECDSA presignature pool expires_at_ms"
    record.expiresAtMs
  ensure (record.createdAtMs < record.expiresAtMs) ⟨.invalidTimeRange,
      "SigningWorker ECDSA presignature pool expiry must be after creation"⟩

def toRequestBoundRecord (record : EcdsaPresignaturePoolRecord)
    (requestDigest admittedSigningDigest : PublicDigest32) (contribution : String)
    (createdAtMs expiresAtMs : ℕ) :
    RouterAbProtocolResult EcdsaPresignatureRecord := do
  record.validate prims
  ensure (createdAtMs < record.expiresAtMs) ⟨.expiredLocalRequest,
      "SigningWorker ECDSA presignature pool record expired before binding"⟩
  ensure (expiresAtMs ≤ record.expiresAtMs) ⟨.expiredLocalRequest,
      "SigningWorker ECDSA presignature pool record expires before prepare request"⟩
  let bound : EcdsaPresignatureRecord := {
    activeSigningWorkerState := record.activeSigningWorkerState
    serverPresignatureId := record.serverPresignatureId
    requestDigest
    admittedSigningDigest
    serverBigR33B64u := record.serverBigR33B64u
    signingWorkerRerandomizationContribution32B64u := contribution
    serverKShare32B64u := record.serverKShare32B64u
    serverSigmaShare32B64u := record.serverSigmaShare32B64u
    createdAtMs
    expiresAtMs }
  bound.validate prims
  return bound

end EcdsaPresignaturePoolRecord

/-! ## Errors and bindings -/

def poolStateError (message : String) : RouterAbProtocolError :=
  ⟨.invalidLocalServiceConfig, message⟩

def poolReplayError (message : String) : RouterAbProtocolError :=
  ⟨.replayedLocalRequest, message⟩

def liftIdentity {α : Type} (result : Except PoolIdentityError α) : RouterAbProtocolResult α :=
  result.mapError fun error => poolStateError error.display

def liftTransition {α : Type} (result : Except PoolTransitionError α) : RouterAbProtocolResult α :=
  result.mapError fun error => poolStateError error.display

def bindingDigest (domain : String) (fields : List (List UInt8)) : Bytes 32 :=
  prims.sha256 (stringBytes domain ++
    fields.flatMap fun field => (toBigEndian 8 field.length).toList ++ field)

def boundDigest (domain : String) (fields : List (List UInt8)) :
    RouterAbProtocolResult NonzeroDigest :=
  liftIdentity (NonzeroDigest.new (bindingDigest prims domain fields))

variable (scope : EcdsaNormalSigningScope)

def poolKey (serverPresignatureId : String) : RouterAbProtocolResult PoolRecordKey := do
  scope.validate prims
  ensure (serverPresignatureId ≠ "") (poolStateError "SigningWorker presignature id is empty")
  let scopeDigest ← scope.scopeDigest prims
  let materialActivationId ← scope.materialActivationId prims
  let wallet ← boundDigest prims "seams/ecdsa-pool/wallet/v1"
    [stringBytes materialActivationId]
  let account ← boundDigest prims "seams/ecdsa-pool/account/v1"
    [stringBytes scope.walletId]
  let signingScope ← liftIdentity (NonzeroDigest.new scopeDigest)
  let pairId ← boundDigest prims "seams/ecdsa-pool/pair/v1"
    [stringBytes serverPresignatureId]
  let keyEpoch ← boundDigest prims "seams/ecdsa-pool/key-epoch/v1"
    [stringBytes scope.signingWorker.keyEpoch]
  let activationEpoch ← boundDigest prims "seams/ecdsa-pool/activation-epoch/v1"
    [stringBytes scope.activationEpoch]
  let protocol ← boundDigest prims "seams/ecdsa-pool/protocol/v1"
    [stringBytes "seams/router-ab-ecdsa-presign/fixed-2of2/v1"]
  return {
    wallet
    account
    signingScope
    pairId
    role := .signingWorker
    keyEpoch
    activationEpoch
    protocol }

def reservationBinding (serverPresignatureId : String) (requestDigest : PublicDigest32) :
    RouterAbProtocolResult ReservationBinding := do
  let scopeDigest ← scope.scopeDigest prims
  let request ← boundDigest prims "seams/ecdsa-pool/request/v1"
    [scopeDigest.toList, requestDigest.toList]
  let reservationId ← boundDigest prims "seams/ecdsa-pool/reservation/v1"
    [scopeDigest.toList, stringBytes serverPresignatureId, requestDigest.toList]
  return { reservationId, request }

def validateActiveScope (active : ActiveSigningWorkerState) : RouterAbProtocolResult Unit := do
  let lookup ← ActiveSigningWorkerStateLookup.fromEcdsaScope prims scope
  lookup.validateActiveState active

def validateBoundMaterial (binding : ReservationBinding) (material : EcdsaPresignatureRecord) :
    RouterAbProtocolResult Unit := do
  validateActiveScope prims scope material.activeSigningWorkerState
  let expected ← reservationBinding prims scope material.serverPresignatureId
    material.requestDigest
  ensure (expected = binding) (poolStateError
    "SigningWorker request-bound material does not match lifecycle binding")

def validateMaterialPairId (expected actual : String) : RouterAbProtocolResult Unit :=
  ensure (expected = actual) (poolStateError
    "SigningWorker material pair id does not match lifecycle identity")

/-! ## Lifecycle records -/

/-- The role-local material that goes with a lifecycle state. -/
inductive EcdsaPoolMaterialState where
  | available (material : EcdsaPresignaturePoolRecord)
  | reserved (material : EcdsaPresignatureRecord)
  | consumed
  | tombstone
  deriving DecidableEq

structure EcdsaPoolLifecycleRecord where
  scope : EcdsaNormalSigningScope
  serverPresignatureId : String
  lifecycle : PoolRecord
  materialState : EcdsaPoolMaterialState
  deriving DecidableEq

namespace EcdsaPoolLifecycleRecord

variable (record : EcdsaPoolLifecycleRecord)

def validateMaterial : RouterAbProtocolResult Unit :=
  match record.lifecycle, record.materialState with
  | .available _, .available material => do
    material.validate prims
    validateMaterialPairId record.serverPresignatureId material.serverPresignatureId
    validateActiveScope prims record.scope material.activeSigningWorkerState
  | .reserved lifecycle, .reserved material => do
    material.validate prims
    validateMaterialPairId record.serverPresignatureId material.serverPresignatureId
    validateBoundMaterial prims record.scope lifecycle.binding material
  | .consumed _, .consumed => .ok ()
  | .tombstone _, .tombstone => .ok ()
  | _, _ => .error (poolStateError
      "SigningWorker pool lifecycle and material state disagree")

def validate : RouterAbProtocolResult Unit := do
  record.scope.validate prims
  ensure (record.serverPresignatureId ≠ "")
    (poolStateError "SigningWorker presignature id is empty")
  let key ← poolKey prims record.scope record.serverPresignatureId
  ensure (record.lifecycle.key = key) (poolStateError "SigningWorker pool lifecycle identity drift")
  record.validateMaterial prims

def replace (lifecycle : PoolRecord) (materialState : EcdsaPoolMaterialState) :
    RouterAbProtocolResult EcdsaPoolLifecycleRecord := do
  let next := { record with lifecycle, materialState }
  next.validate prims
  return next

def newAvailable (material : EcdsaPresignaturePoolRecord) :
    RouterAbProtocolResult EcdsaPoolLifecycleRecord := do
  material.validate prims
  let scope := material.scope
  validateActiveScope prims scope material.activeSigningWorkerState
  let key ← poolKey prims scope material.serverPresignatureId
  let scopeDigest ← scope.scopeDigest prims
  let locator ← boundDigest prims "seams/ecdsa-pool/material/v1"
    [scopeDigest.toList, stringBytes material.serverPresignatureId]
  let lifecycle ← liftTransition
    (AvailableRecord.new key locator material.createdAtMs material.expiresAtMs)
  let record : EcdsaPoolLifecycleRecord := {
    scope
    serverPresignatureId := material.serverPresignatureId
    lifecycle := .available lifecycle
    materialState := .available material }
  record.validate prims
  return record

def reservationLeaseMs : ℕ := 60000

def reserve (requestDigest admittedSigningDigest : PublicDigest32) (contribution : String)
    (reservedAtMs requestExpiresAtMs : ℕ) :
    RouterAbProtocolResult EcdsaPoolLifecycleRecord := do
  record.validate prims
  let binding ← reservationBinding prims record.scope record.serverPresignatureId
    requestDigest
  match record.lifecycle, record.materialState with
  | .available lifecycle, .available material => do
    ensure (reservedAtMs + reservationLeaseMs < 2 ^ 64)
      ⟨.invalidTimeRange, "SigningWorker ECDSA reservation lease overflowed"⟩
    let leaseExpiresAtMs := min (min (reservedAtMs + reservationLeaseMs)
      requestExpiresAtMs) lifecycle.header.materialExpiresAtMs
    let mutation ← liftTransition (lifecycle.reserve binding reservedAtMs leaseExpiresAtMs)
    ensure (mutation.materialDisposition = .retain) (poolStateError
      "SigningWorker reservation unexpectedly changed material disposition")
    let boundMaterial ← material.toRequestBoundRecord prims requestDigest
      admittedSigningDigest contribution reservedAtMs requestExpiresAtMs
    record.replace prims mutation.replacement (.reserved boundMaterial)
  | .available _, _ => .error (poolStateError
      "SigningWorker available lifecycle has no available material")
  | _, _ => .error (poolStateError "SigningWorker ECDSA material is not available")

inductive EcdsaPoolConsumeDecision where
  | consumed (record : EcdsaPoolLifecycleRecord) (material : EcdsaPresignatureRecord)
  | burned (record : EcdsaPoolLifecycleRecord)

def consume (requestDigest : PublicDigest32) (nowUnixMs : ℕ) :
    RouterAbProtocolResult EcdsaPoolConsumeDecision := do
  record.validate prims
  let binding ← reservationBinding prims record.scope record.serverPresignatureId
    requestDigest
  match record.lifecycle with
  | .reserved lifecycle =>
    match lifecycle.consume binding nowUnixMs with
    | .consumed mutation =>
      match record.materialState with
      | .reserved material => do
        ensure mutation.materialDisposition.isTake
          (poolStateError "SigningWorker consumption did not take one-use material")
        let next ← record.replace prims mutation.replacement .consumed
        return .consumed next material
      | _ => .error (poolStateError "SigningWorker reservation has no reserved material")
    | .burned mutation => do
      ensure mutation.materialDisposition.isDestroy
        (poolStateError "SigningWorker burn did not destroy one-use material")
      let next ← record.replace prims mutation.replacement .tombstone
      return .burned next
    | .rejected error => .error (poolStateError error.display)
  | _ => .error (poolStateError "SigningWorker ECDSA material is not reserved")

def intoDestroyedTombstone (mutation : PoolMutation) :
    RouterAbProtocolResult EcdsaPoolLifecycleRecord := do
  ensure mutation.materialDisposition.isDestroy
    (poolStateError "SigningWorker terminal transition did not destroy material")
  record.replace prims mutation.replacement .tombstone

def destroyReserved (requestDigest : PublicDigest32) (reason : TombstoneReason) (nowUnixMs : ℕ) :
    RouterAbProtocolResult EcdsaPoolLifecycleRecord := do
  record.validate prims
  match record.lifecycle with
  | .reserved lifecycle => do
    let attempted ← reservationBinding prims record.scope record.serverPresignatureId
      requestDigest
    let reason := if attempted = lifecycle.binding then reason else .bindingRejected
    let mutation ← liftTransition (lifecycle.destroy reason nowUnixMs)
    record.intoDestroyedTombstone prims mutation
  | _ => .error (poolStateError "SigningWorker ECDSA material is not reserved")

def recoverAfterCrash (nowUnixMs : ℕ) : RouterAbProtocolResult EcdsaPoolLifecycleRecord := do
  record.validate prims
  match record.lifecycle with
  | .reserved lifecycle => do
    let mutation ← liftTransition (lifecycle.recoverAfterCrash nowUnixMs)
    record.intoDestroyedTombstone prims mutation
  | _ => .error (poolStateError
      "SigningWorker crash recovery requires interrupted material")

def expire (record : EcdsaPoolLifecycleRecord)
    (nowUnixMs : ℕ) : RouterAbProtocolResult EcdsaPoolLifecycleRecord := do
  record.validate prims
  match record.lifecycle with
  | .available lifecycle => do
    let mutation ← liftTransition (lifecycle.expire nowUnixMs)
    record.intoDestroyedTombstone prims mutation
  | .reserved lifecycle => do
    let mutation ← liftTransition (lifecycle.expire nowUnixMs)
    record.intoDestroyedTombstone prims mutation
  | .consumed _ | .tombstone _ => .error (poolStateError
      "SigningWorker ECDSA terminal material cannot expire again")

def invalidateForRelocation (nowUnixMs : ℕ) : RouterAbProtocolResult EcdsaPoolLifecycleRecord := do
  record.validate prims
  match record.lifecycle with
  | .available lifecycle => do
    let mutation ← liftTransition (lifecycle.invalidateForRelocation nowUnixMs)
    record.intoDestroyedTombstone prims mutation
  | .reserved lifecycle => do
    let mutation ← liftTransition (lifecycle.invalidateForRelocation nowUnixMs)
    record.intoDestroyedTombstone prims mutation
  | .consumed _ | .tombstone _ => .ok record

def retire (record : EcdsaPoolLifecycleRecord) (reason : TombstoneReason) (nowUnixMs : ℕ) :
    RouterAbProtocolResult EcdsaPoolLifecycleRecord := do
  record.validate prims
  match record.lifecycle with
  | .available lifecycle => do
    let mutation ← liftTransition (lifecycle.retire reason nowUnixMs)
    record.intoDestroyedTombstone prims mutation
  | .reserved lifecycle => do
    let mutation ← liftTransition (lifecycle.retire reason nowUnixMs)
    record.intoDestroyedTombstone prims mutation
  | .consumed _ | .tombstone _ => .error (poolStateError
      "SigningWorker ECDSA terminal material cannot retire again")

end EcdsaPoolLifecycleRecord

end SeamsWallet.EcdsaPool
