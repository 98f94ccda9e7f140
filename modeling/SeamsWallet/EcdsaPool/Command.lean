import SeamsWallet.EcdsaPool.Lifecycle

/-!
# Pool commands

The mutations storage accepts for one pool record. `applyCommand` is the
compare-and-swap every command goes through: it checks the command, then the
identity and the revision of the current record, and answers with the record to
persist. Three branches accept a repeated command without looking at the
revision it names: a put of the record that is already stored, a reservation
that was already made, and a relocation that already happened.
-/

namespace SeamsWallet.EcdsaPool

open Library

structure CommandTarget where
  scope : EcdsaNormalSigningScope
  serverPresignatureId : String
  expectedRevision : ℕ

structure ReservationRequest where
  requestDigest : PublicDigest32
  admittedSigningDigest : PublicDigest32
  contribution : String
  reservedAtMs : ℕ
  requestExpiresAtMs : ℕ

inductive EcdsaPoolCommand where
  | putAvailable (material : EcdsaPresignaturePoolRecord)
  | putReserved (material : EcdsaPresignaturePoolRecord) (request : ReservationRequest)
  | reserve (target : CommandTarget) (request : ReservationRequest)
  | consume (target : CommandTarget) (requestDigest : PublicDigest32) (nowUnixMs : ℕ)
  | destroyReserved (target : CommandTarget) (requestDigest : PublicDigest32)
      (reason : TombstoneReason) (nowUnixMs : ℕ)
  | recoverInterrupted (target : CommandTarget) (nowUnixMs : ℕ)
  | expire (target : CommandTarget) (nowUnixMs : ℕ)
  | invalidateForRelocation (target : CommandTarget) (nowUnixMs : ℕ)
  | retire (target : CommandTarget) (reason : TombstoneReason) (nowUnixMs : ℕ)

variable (prims : Primitives)

def EcdsaPoolLifecycleRecord.reserveFor
    (record : EcdsaPoolLifecycleRecord) (request : ReservationRequest) :
    RouterAbProtocolResult EcdsaPoolLifecycleRecord :=
  record.reserve prims request.requestDigest request.admittedSigningDigest
    request.contribution request.reservedAtMs request.requestExpiresAtMs

def validateCommandScope (target : CommandTarget) : RouterAbProtocolResult Unit := do
  target.scope.validate prims
  ensure (target.serverPresignatureId ≠ "")
    (poolStateError "SigningWorker presignature id is empty")

def validatePositiveTimestamp (field : String) (value : ℕ) : RouterAbProtocolResult Unit :=
  ensure (0 < value) ⟨.invalidTimeRange, s!"{field} must be positive"⟩

namespace EcdsaPoolCommand

/-- The checks of a command that do not depend on the persisted record. -/
def validate : EcdsaPoolCommand → RouterAbProtocolResult Unit
  | .putAvailable material => material.validate prims
  | .putReserved material request => do
    let record ← EcdsaPoolLifecycleRecord.newAvailable prims material
    let _ ← record.reserveFor prims request
  | .reserve target request => do
    validateCommandScope prims target
    validatePositiveTimestamp "reserved_at_ms" request.reservedAtMs
    validatePositiveTimestamp "request_expires_at_ms" request.requestExpiresAtMs
    ensure (request.reservedAtMs < request.requestExpiresAtMs)
      (poolStateError "request expiry must be later than reservation time")
  | .consume target _ nowUnixMs
  | .recoverInterrupted target nowUnixMs
  | .invalidateForRelocation target nowUnixMs
  | .expire target nowUnixMs
  | .destroyReserved target _ _ nowUnixMs => do
    validateCommandScope prims target
    validatePositiveTimestamp "now_unix_ms" nowUnixMs
  | .retire target reason nowUnixMs => do
    validateCommandScope prims target
    ensure reason.IsRetirement
      (poolStateError "retirement requires a key or activation epoch reason")
    validatePositiveTimestamp "now_unix_ms" nowUnixMs

def scope : EcdsaPoolCommand → EcdsaNormalSigningScope
  | .putAvailable material | .putReserved material _ => material.scope
  | .reserve target _ | .consume target _ _ | .destroyReserved target _ _ _
  | .recoverInterrupted target _ | .expire target _
  | .invalidateForRelocation target _ | .retire target _ _ => target.scope

def serverPresignatureId : EcdsaPoolCommand → String
  | .putAvailable material | .putReserved material _ => material.serverPresignatureId
  | .reserve target _ | .consume target _ _ | .destroyReserved target _ _ _
  | .recoverInterrupted target _ | .expire target _
  | .invalidateForRelocation target _ | .retire target _ _ =>
    target.serverPresignatureId

end EcdsaPoolCommand

/-! ## Outcomes -/

inductive EcdsaPoolMutationOutcome where
  | available (record : EcdsaPoolLifecycleRecord) (stored : Bool)
  | reserved (record : EcdsaPoolLifecycleRecord)
  | consumed (record : EcdsaPoolLifecycleRecord) (material : EcdsaPresignatureRecord)
  | burned (record : EcdsaPoolLifecycleRecord)
  | preservedTerminal (record : EcdsaPoolLifecycleRecord)
  | finished (record : EcdsaPoolLifecycleRecord)

namespace EcdsaPoolMutationOutcome

def record : EcdsaPoolMutationOutcome → EcdsaPoolLifecycleRecord
  | .available record _ | .reserved record | .consumed record _ | .burned record
  | .preservedTerminal record | .finished record => record

def matchesLifecycle (outcome : EcdsaPoolMutationOutcome) : Bool :=
  match outcome, outcome.record.lifecycle with
  | .available _ _, .available _ => true
  | .reserved _, .reserved _ => true
  | .consumed _ _, .consumed _ => true
  | .burned _, .tombstone _ => true
  | .finished _, .tombstone _ => true
  | .preservedTerminal _, .consumed _ => true
  | .preservedTerminal _, .tombstone _ => true
  | _, _ => false

def validateMaterial : EcdsaPoolMutationOutcome → RouterAbProtocolResult Unit
  | .consumed record material => do
    material.validate prims
    validateMaterialPairId record.serverPresignatureId material.serverPresignatureId
    match record.lifecycle with
    | .consumed lifecycle =>
      validateBoundMaterial prims record.scope lifecycle.binding material
    | _ => .error (poolStateError
        "consumed outcome does not contain a consumed lifecycle")
  | _ => .ok ()

def validate (outcome : EcdsaPoolMutationOutcome) : RouterAbProtocolResult Unit := do
  outcome.record.validate prims
  outcome.validateMaterial prims
  ensure outcome.matchesLifecycle (poolStateError
    "SigningWorker pool mutation outcome does not match lifecycle state")

end EcdsaPoolMutationOutcome

/-! ## Compare and swap -/

variable (current : Option EcdsaPoolLifecycleRecord)

def requireCurrent : RouterAbProtocolResult EcdsaPoolLifecycleRecord :=
  okOr current ⟨.missingLocalBinding, "SigningWorker ECDSA pool record is missing"⟩

def validateCommandIdentity (current : EcdsaPoolLifecycleRecord)
    (target : CommandTarget) : RouterAbProtocolResult Unit := do
  current.validate prims
  target.scope.validate prims
  ensure (current.scope = target.scope ∧ current.serverPresignatureId = target.serverPresignatureId)
    (poolReplayError
      "SigningWorker ECDSA pool command identity does not match persisted material")
  ensure (current.lifecycle.revision = target.expectedRevision)
    (poolReplayError "SigningWorker ECDSA pool command used a stale revision")

def isReserveRetry (current : EcdsaPoolLifecycleRecord) (target : CommandTarget)
    (request : ReservationRequest) : Bool :=
  match current.materialState with
  | .reserved material =>
    current.scope = target.scope ∧
    current.serverPresignatureId = target.serverPresignatureId ∧
    target.expectedRevision + 1 < 2 ^ 64 ∧
    target.expectedRevision + 1 = current.lifecycle.revision ∧
    material.requestDigest = request.requestDigest ∧
    material.admittedSigningDigest = request.admittedSigningDigest ∧
    material.expiresAtMs = request.requestExpiresAtMs
  | _ => false

def isRelocationRetry (current : EcdsaPoolLifecycleRecord) (target : CommandTarget)
    (nowUnixMs : ℕ) : Bool :=
  match current.lifecycle with
  | .tombstone record =>
    record.reason = .walletRelocated ∧ record.terminalAtMs = nowUnixMs ∧
    target.expectedRevision + 1 < 2 ^ 64 ∧
    target.expectedRevision + 1 = record.revision
  | _ => false

def runCommand : EcdsaPoolCommand → RouterAbProtocolResult EcdsaPoolMutationOutcome
  | .putAvailable material => do
    let replacement ← EcdsaPoolLifecycleRecord.newAvailable prims material
    match current with
    | none => return .available replacement true
    | some existing => do
      ensure (existing = replacement) (poolReplayError
        "SigningWorker ECDSA pair identity is already persisted")
      return .available existing false
  | .putReserved material request => do
    ensure current.isNone (poolReplayError
      "SigningWorker ECDSA pair identity is already persisted")
    let record ← EcdsaPoolLifecycleRecord.newAvailable prims material
    let record ← record.reserveFor prims request
    return .reserved record
  | .reserve target request => do
    let current ← requireCurrent current
    if isReserveRetry current target request then do
      current.validate prims
      return .reserved current
    else do
      validateCommandIdentity prims current target
      let record ← current.reserveFor prims request
      return .reserved record
  | .consume target requestDigest nowUnixMs => do
    let current ← requireCurrent current
    validateCommandIdentity prims current target
    match ← current.consume prims requestDigest nowUnixMs with
    | .consumed record material => return .consumed record material
    | .burned record => return .burned record
  | .destroyReserved target requestDigest reason nowUnixMs => do
    let current ← requireCurrent current
    validateCommandIdentity prims current target
    let record ← current.destroyReserved prims requestDigest reason nowUnixMs
    return .finished record
  | .recoverInterrupted target nowUnixMs => do
    let current ← requireCurrent current
    validateCommandIdentity prims current target
    let record ← current.recoverAfterCrash prims nowUnixMs
    return .finished record
  | .expire target nowUnixMs => do
    let current ← requireCurrent current
    validateCommandIdentity prims current target
    let record ← current.expire prims nowUnixMs
    return .finished record
  | .invalidateForRelocation target nowUnixMs => do
    let current ← requireCurrent current
    let exactRetry := isRelocationRetry current target nowUnixMs
    let revision :=
      if exactRetry then current.lifecycle.revision else target.expectedRevision
    validateCommandIdentity prims current { target with expectedRevision := revision }
    if current.lifecycle.IsTerminal then
      if exactRetry then return .finished current
      else return .preservedTerminal current
    else do
      let record ← current.invalidateForRelocation prims nowUnixMs
      return .finished record
  | .retire target reason nowUnixMs => do
    let current ← requireCurrent current
    validateCommandIdentity prims current target
    let record ← current.retire prims reason nowUnixMs
    return .finished record

def applyCommand (command : EcdsaPoolCommand) :
    RouterAbProtocolResult EcdsaPoolMutationOutcome := do
  command.validate prims
  runCommand prims current command

end SeamsWallet.EcdsaPool
