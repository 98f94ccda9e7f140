import SeamsWallet.EcdsaStore.Store
import SeamsWallet.Library.Run
import SeamsWallet.LinkedEcdsa.Settlement

/-!
# The wallet store with its linked devices

Beside the pool and the effects the wallet store keeps two more tables: the wallet's own
activations, unique by material key and by active key, and the reservations of linked
devices, unique by record key and, while a row is active, by active key. Signing finds
material by its active key, first among the activations, then among the linked devices.

The activation context and the proof bundles of a registration are read only through their
checks and the few fields named here.
-/

namespace SeamsWallet.LinkedEcdsa

open Library EcdsaDerivation WalletObject EcdsaStore
open Ed25519Worker (ServerOutputMaterialRecord)

def missingError (message : String) : RouterAbProtocolError :=
  ⟨.missingLocalBinding, message⟩

def lifecycleError (message : String) : RouterAbProtocolError :=
  ⟨.invalidLifecycleState, message⟩

/-! ## Registrations -/

/-- What the store reads of an activation context and its proof bundles. -/
structure RegistrationFormat (Context Bundle : Type) where
  lifecycleId : Context → String
  accountId : Context → String
  selectedServer : Context → ServerIdentity
  transcriptDigest : Context → PublicDigest32
  accountPublicKey : Context → String
  validateContext : Context → RouterAbProtocolResult Unit
  validateForActivationContext : Bundle → Context → RouterAbProtocolResult Unit
  activationDigest : Bundle → RouterAbProtocolResult PublicDigest32

structure ActivationRequest (Context Bundle : Type) where
  activationContext : Context
  activation : Bundle
  materialActivation : MpcMaterialActivationRef
  deriving DecidableEq

structure ActivationRecord (Context Bundle : Type) where
  activation : ActivationRequest Context Bundle
  activeSigningWorkerState : ActiveSigningWorkerState
  material : ServerOutputMaterialRecord

structure ActivationReceipt where
  lifecycleId : String
  signingWorkerId : String
  transcriptDigest : PublicDigest32
  activeSigningWorkerState : ActiveSigningWorkerState
  activated : Bool

def ActivationReceipt.validate (receipt : ActivationReceipt) : RouterAbProtocolResult Unit := do
  Worker.requireNonEmpty "lifecycle_id" receipt.lifecycleId
  Worker.requireNonEmpty "signing_worker_id" receipt.signingWorkerId
  receipt.activeSigningWorkerState.validate
  ensure (receipt.activeSigningWorkerState.signingWorker.serverId = receipt.signingWorkerId ∧
      receipt.activeSigningWorkerState.activationTranscriptDigest = receipt.transcriptDigest)
    (walletError "SigningWorker activation receipt active state does not match receipt identity")

section Registration

variable {Context Bundle : Type} (format : RegistrationFormat Context Bundle)
  (request : ActivationRequest Context Bundle)

def ActivationRequest.validate : RouterAbProtocolResult Unit := do
  format.validateContext request.activationContext
  request.materialActivation.validate
  ensure (request.materialActivation.materialOwner = format.accountId request.activationContext ∧
      request.materialActivation.signingWorker =
        (format.selectedServer request.activationContext).serverId)
    (lifecycleError "SigningWorker material activation does not match activation context")
  format.validateForActivationContext request.activation request.activationContext

def validateForActivationRequest (material : ServerOutputMaterialRecord)
    (request : ActivationRequest Context Bundle) : RouterAbProtocolResult Unit := do
  material.validate
  request.validate format
  ensure (material.transcriptDigest = format.transcriptDigest request.activationContext ∧
      material.recipientIdentity = (format.selectedServer request.activationContext).serverId)
    (walletError "Cloudflare server output material does not match activation request")

def ActivationRecord.validate (record : ActivationRecord Context Bundle) :
    RouterAbProtocolResult Unit := do
  record.activation.validate format
  record.activeSigningWorkerState.validate
  validateForActivationRequest format record.material record.activation
  let context := record.activation.activationContext
  let active := record.activeSigningWorkerState
  let digest ← format.activationDigest record.activation.activation
  ensure (active.accountId = format.accountId context ∧
      active.materialActivation = record.activation.materialActivation ∧
      active.signingWorker = format.selectedServer context ∧
      active.activationTranscriptDigest = format.transcriptDigest context ∧
      active.activationDigest = digest ∧
      record.material.transcriptDigest = active.activationTranscriptDigest ∧
      record.material.recipientIdentity = active.signingWorker.serverId)
    (walletError "SigningWorker proof-bundle activation record does not match active state")

/-- The same activation input and material; the time of the commit may differ. -/
def matchesActivationAndMaterial [DecidableEq Context] [DecidableEq Bundle]
    (record other : ActivationRecord Context Bundle) : Bool :=
  record.activation = other.activation ∧ record.material = other.material

def activeSigningWorkerStateFromActivationRequest (signingWorkerMaterialHandle : String)
    (activatedAtMs : ℕ) :
    RouterAbProtocolResult ActiveSigningWorkerState := do
  -- The source checks the material activation against the context once more after this.
  request.validate format
  let context := request.activationContext
  let activationDigest ← format.activationDigest request.activation
  let active : ActiveSigningWorkerState :=
    { accountId := format.accountId context
      materialActivation := request.materialActivation
      accountPublicKey := format.accountPublicKey context
      signingWorker := format.selectedServer context
      activationTranscriptDigest := format.transcriptDigest context
      activationDigest
      signingWorkerMaterialHandle
      activatedAtMs }
  active.validate
  return active

def outputStorageKey : String :=
  s!"signing-worker-output/{format.lifecycleId request.activationContext}/" ++
    hexSlice (format.transcriptDigest request.activationContext).toList

end Registration

/-! ## Lookups -/

structure ActiveStateLookup where
  accountId : String
  materialActivationId : String
  signingWorkerId : String

def ActiveStateLookup.validate (lookup : ActiveStateLookup) : RouterAbProtocolResult Unit := do
  Worker.requireNonEmpty "active signing worker lookup account_id" lookup.accountId
  Worker.requireNonEmpty "active signing worker lookup material_activation_id"
    lookup.materialActivationId
  Worker.requireNonEmpty "active signing worker lookup signing_worker_id" lookup.signingWorkerId

def ActiveStateLookup.validateActiveState (lookup : ActiveStateLookup)
    (active : ActiveSigningWorkerState) : RouterAbProtocolResult Unit := do
  lookup.validate
  active.validate
  ensure (active.accountId = lookup.accountId ∧
      active.materialActivation.activationId = lookup.materialActivationId ∧
      active.signingWorker.serverId = lookup.signingWorkerId)
    (walletError "active SigningWorker state does not match lookup")

/-! ## Tables -/

/-- A linked device's reservation and, while it is active, its material. -/
structure WalletLinkedEcdsa where
  state : EcdsaReservationState
  activation : Option EcdsaActivationMaterial
  deriving DecidableEq

structure ActivationRow (Context Bundle : Type) where
  materialKey : String
  activeKey : String
  ownerJson : String
  ciphertext : Sealed (ActivationRecord Context Bundle)

structure LinkedRow where
  recordKey : String
  activeKey : Option String
  ownerJson : String
  ciphertext : Sealed WalletLinkedEcdsa
  deriving DecidableEq

abbrev SameActivationKey (Context Bundle : Type) (r s : ActivationRow Context Bundle) : Prop :=
  r.materialKey = s.materialKey ∨ r.activeKey = s.activeKey

/-- Two rows without an active key do not conflict on it. -/
abbrev SameLinkedKey (r s : LinkedRow) : Prop :=
  r.recordKey = s.recordKey ∨ r.activeKey ≠ none ∧ r.activeKey = s.activeKey

structure LinkedTables (Context Bundle : Type) where
  ecdsa : EcdsaTables
  activations : Table (SameActivationKey Context Bundle)
  linked : Table SameLinkedKey

def LinkedTables.ofEcdsa {Context Bundle : Type} (ecdsa : EcdsaTables) :
    LinkedTables Context Bundle :=
  ⟨ecdsa, Table.empty _, Table.empty _⟩

/-- The answers of the tables that these calls read but do not write, and of the write of
an execution authority. -/
structure StoreReads where
  poolAdmission : RouterAbProtocolResult PoolAdmission
  executionAuthority : RouterAbProtocolResult (Option ExecutionAuthority)
  ecdsaSnapshotRecordCount : RouterAbProtocolResult ℕ
  hasImportActivation : RouterAbProtocolResult Bool
  installExecutionAuthority : String → RouterAbProtocolResult Unit

def StoreReads.forEffects (reads : StoreReads)
    (linkedMaterialUnrevoked : RouterAbProtocolResult Unit) : WalletReads :=
  ⟨reads.poolAdmission, reads.executionAuthority, linkedMaterialUnrevoked⟩

def StoreReads.requireMutationAdmission (reads : StoreReads) : RouterAbProtocolResult Unit :=
  (reads.forEffects (.ok ())).requireMutationAdmission

/-- What the store takes from outside. -/
structure StoreEnvironment (n : ℕ) (P : Type) [AddCommGroup P] [Module (ZMod n) P]
    (Admission Context Bundle : Type) where
  wallet : WalletEnvironment Admission
  linked : LinkedEnvironment n P
  registration : RegistrationFormat Context Bundle
  samePrimitives : wallet.prims = linked.b64.prims

section Store

variable {n : ℕ} [Fact n.Prime] {P : Type} [AddCommGroup P] [Module (ZMod n) P] [DecidableEq P]
  {Admission Context Bundle : Type} (env : StoreEnvironment n P Admission Context Bundle)

def StoreEnvironment.rowIdentity (scope : WalletScope) (key : String) :
    RouterAbProtocolResult String :=
  walletRowIdentity env.wallet.prims env.wallet.scopeJson scope key

/-! ## Reads -/

def openActivation (scope : WalletScope) : List (ActivationRow Context Bundle) →
      RouterAbProtocolResult (Option (ActivationRecord Context Bundle))
  | [] => .ok none
  | [row] => do
    ensure (row.ownerJson = env.wallet.scopeJson scope)
      (walletError "ECDSA activation owner conflict")
    let identity ← env.rowIdentity scope row.materialKey
    let record ← row.ciphertext.openAs "ecdsa_activation" identity
    record.validate env.registration
    return some record
  | _ => .error (walletError "ECDSA activation lookup returned duplicate rows")

def openLinked (scope : WalletScope) :
    List LinkedRow → RouterAbProtocolResult (Option WalletLinkedEcdsa)
  | [] => .ok none
  | [row] => do
    ensure (row.ownerJson = env.wallet.scopeJson scope)
      (walletError "linked ECDSA reservation owner conflict")
    let identity ← env.rowIdentity scope row.recordKey
    let stored ← row.ciphertext.openAs "linked_ecdsa" identity
    stored.state.validate env.linked
    return some stored
  | _ => .error (walletError "linked ECDSA lookup returned duplicate rows")

variable (tables : LinkedTables Context Bundle)

def readActivation (scope : WalletScope) (activeKey : String) :
    RouterAbProtocolResult (Option (ActivationRecord Context Bundle)) :=
  openActivation env scope (tables.activations.select fun row => row.activeKey = activeKey)

def readLinked (scope : WalletScope) (recordKey : String) :
    RouterAbProtocolResult (Option WalletLinkedEcdsa) :=
  openLinked env scope (tables.linked.select fun row => row.recordKey = recordKey)

/-! ## The wallet's own material -/

variable (reads : StoreReads)

/-- A registration may only then be the first holder of its wallet's execution authority
when the wallet has no records yet. -/
def StoreReads.registrationAuthority : RouterAbProtocolResult (Option ExecutionAuthority) := do
  let missing := walletError "ECDSA registration cannot infer missing execution authority"
  match ← reads.executionAuthority with
  | some authority => return some authority
  | none => do
    let records ← reads.ecdsaSnapshotRecordCount
    ensure (records = 0) missing
    let imported ← reads.hasImportActivation
    ensure (¬ imported) missing
    return none

/-- The activation an insert leaves stored: the candidate, or what it conflicted with. -/
def storedActivation [DecidableEq Context] [DecidableEq Bundle]
    (authority : Option ExecutionAuthority) (scope : WalletScope) (materialKey : String)
    (candidate : ActivationRecord Context Bundle)
    (inserted : List (ActivationRow Context Bundle) × Table (SameActivationKey Context Bundle)) :
    RouterAbProtocolResult (ActivationRecord Context Bundle) :=
  if inserted.1.map ActivationRow.materialKey = [materialKey] then do
    if authority.isNone then reads.installExecutionAuthority materialKey
    return candidate
  else do
    let found ← openActivation env scope
      (inserted.2.select fun row => row.materialKey = materialKey)
    let stored ← okOr found (walletError "ECDSA activation write is uncertain")
    ensure (matchesActivationAndMaterial stored candidate)
      (replayError "ECDSA activation conflicts with stored material")
    return stored

variable (tables : LinkedTables Context Bundle)

/-- Stores one wallet's activated material. An exact replay returns the stored activation;
different material for the same activation is refused. -/
def activate [DecidableEq Context] [DecidableEq Bundle] (scope : WalletScope)
    (activation : ActivationRequest Context Bundle) (material : ServerOutputMaterialRecord)
    (activatedAtMs : ℕ) :
    RouterAbProtocolResult (ActivationReceipt × LinkedTables Context Bundle) := do
  let format := env.registration
  scope.validate
  activation.validate format
  material.validate
  ensure (format.accountId activation.activationContext = scope.walletId)
    (walletError "ECDSA activation wallet owner changed")
  Worker.requirePositiveMs "ECDSA activation time" activatedAtMs
  reads.requireMutationAdmission
  let authority ← reads.registrationAuthority
  let materialKey := outputStorageKey format activation
  let active ← activeSigningWorkerStateFromActivationRequest format activation materialKey
    activatedAtMs
  let candidate : ActivationRecord Context Bundle := ⟨activation, active, material⟩
  candidate.validate format
  let identity ← env.rowIdentity scope materialKey
  let inserted := tables.activations.insertIgnore
    { materialKey
      activeKey := activeOutputKey activation.materialActivation
      ownerJson := env.wallet.scopeJson scope
      ciphertext := ⟨"ecdsa_activation", identity, candidate⟩ }
  let stored ← storedActivation env reads authority scope materialKey candidate inserted
  let receipt : ActivationReceipt :=
    { lifecycleId := format.lifecycleId activation.activationContext
      signingWorkerId := (format.selectedServer activation.activationContext).serverId
      transcriptDigest := format.transcriptDigest activation.activationContext
      activeSigningWorkerState := stored.activeSigningWorkerState
      activated := true }
  receipt.validate
  return (receipt, { tables with activations := inserted.2 })

/-! ## Linked devices -/

/-- The share a link starts from: the wallet's own material under the source's active key,
or else the active reservation of the device linked under the source's record key. -/
def sourceShare (request : SourcePreservingReservationRequest) (serverKey : ServerOutputKey) :
    RouterAbProtocolResult (Bytes 32) := do
  let binding := request.sourceContribution.binding
  let source ← mpcMaterialActivationFromEcdsaRef binding.source.activation
  match ← readActivation env tables request.scope (activeOutputKey source) with
  | some stored => do
    ensure (stored.activeSigningWorkerState.materialActivation = source) (walletError
      "linked-device ECDSA source differs from this wallet's active material")
    let (client, relayer) ← linkedEcdsaSourcePublicKeys env.linked binding
    registrationSourceRelayerShare env.linked stored.material.outputMaterial
      binding.source.activation request.sourceDerivation client relayer
  | none => do
    let found ← readLinked env tables request.scope (reservationRecordKey env.linked source)
    let linkedSource ← okOr found
      (missingError "linked-device ECDSA source is not this wallet's active material")
    linkedSourceRelayerShare env.linked linkedSource.state binding serverKey.privateKey

def reserveRow (request : SourcePreservingReservationRequest) (serverKey : ServerOutputKey)
    (sealSeed : Bytes 32) (recordKey : String) :
    RouterAbProtocolResult (SourcePreservingReservationResponse × LinkedTables Context Bundle) := do
  let share ← sourceShare env tables request serverKey
  let state ← linkedEcdsaInactiveState env.linked request share serverKey.privateKey sealSeed
  let identity ← env.rowIdentity request.scope recordKey
  let (written, linked) := tables.linked.insertIgnore
    { recordKey, activeKey := none, ownerJson := env.wallet.scopeJson request.scope
      ciphertext := ⟨"linked_ecdsa", identity, ⟨state, none⟩⟩ }
  ensure (written.map LinkedRow.recordKey = [recordKey])
    (walletError "linked ECDSA reservation write is uncertain")
  let response ← sourcePreservingResponseFromState state "inactive"
  return (response, { tables with linked })

/-- Reserves material for a device linked to this wallet. An exact retry answers the same
packages. -/
def reserveLinked (request : SourcePreservingReservationRequest) (serverKey : ServerOutputKey)
    (sealSeed : Bytes 32) :
    RouterAbProtocolResult (SourcePreservingReservationResponse × LinkedTables Context Bundle) := do
  request.validate env.linked
  let binding := request.sourceContribution.binding
  validateSourcePreservingRecipient env.linked serverKey.publicKey binding
  let target ← mpcMaterialActivationFromEcdsaRef binding.target.activation
  let recordKey := reservationRecordKey env.linked target
  let digest ← sourceContributionBindingDigest env.linked binding
  let reservationId := sourcePreservingReservationId env.linked target digest
  let current ← readLinked env tables request.scope recordKey
  let settled ← settleLinkedEcdsaReservation env.linked (current.map WalletLinkedEcdsa.state)
    request target reservationId
  match settled with
  | .answer response => return (response, tables)
  | .reserve => do
    reads.requireMutationAdmission
    reserveRow env tables request serverKey sealSeed recordKey

def activateRow (request : ActivateReservationRequest) (serverKey : ServerOutputKey)
    (activatedAtMs : ℕ) (current : EcdsaReservationState)
    (recordKey : String) :
    RouterAbProtocolResult (SourcePreservingReservationResponse × LinkedTables Context Bundle) := do
  let state ← intoSourcePreservingActive current
  let server ← serverKey.server request.materialActivation.signingWorker
  let activation ← linkedEcdsaActiveMaterial env.linked state request.materialActivation
    server serverKey.privateKey activatedAtMs
  let response ← sourcePreservingResponseFromState state "active"
  let identity ← env.rowIdentity request.scope recordKey
  let (written, linked) ← okOr (tables.linked.updateUnique (fun row => row.recordKey = recordKey ∧
        row.ownerJson = env.wallet.scopeJson request.scope ∧ row.activeKey = none)
      (fun row => { row with
        activeKey := some (activeOutputKey request.materialActivation)
        ciphertext := ⟨"linked_ecdsa", identity, ⟨state, some activation⟩⟩ }))
    (walletError "wallet_linked_ecdsa unique column conflict")
  ensure (written.map LinkedRow.recordKey = [recordKey])
    (walletError "linked ECDSA reservation changed while it was activated")
  return (response, { tables with linked })

/-- Activates a linked device's reserved material; an active reservation answers again. -/
def activateLinked (request : ActivateReservationRequest) (serverKey : ServerOutputKey)
    (activatedAtMs : ℕ) :
    RouterAbProtocolResult (SourcePreservingReservationResponse × LinkedTables Context Bundle) := do
  request.validate
  Worker.requirePositiveMs "linked ECDSA activation time" activatedAtMs
  let recordKey := reservationRecordKey env.linked request.materialActivation
  let found ← readLinked env tables request.scope recordKey
  let stored ← okOr found (lifecycleError "linked ECDSA material reservation is missing")
  let settled ← settleLinkedEcdsaActivation env.linked stored.state request
  match settled with
  | .answer response => return (response, tables)
  | .activate => do
    reads.requireMutationAdmission
    activateRow env tables request serverKey activatedAtMs stored.state recordKey

def revokeRow (request : DeactivateReservationRequest) (revokedAtMs : ℕ)
    (current : EcdsaReservationState) (recordKey : String) :
    RouterAbProtocolResult (ReservationDeactivationResponse × LinkedTables Context Bundle) := do
  let state := EcdsaReservationState.sourcePreservingRevoked
    { binding := current.binding
      sourceDerivation := current.sourceDerivation
      materialActivation := request.materialActivation
      reservationId := current.reservationId
      revokedAtMs }
  let identity ← env.rowIdentity request.scope recordKey
  let (written, linked) ← okOr (tables.linked.updateUnique (fun row => row.recordKey = recordKey ∧
        row.ownerJson = env.wallet.scopeJson request.scope)
      (fun row => { row with
        activeKey := none
        ciphertext := ⟨"linked_ecdsa", identity, ⟨state, none⟩⟩ }))
    (walletError "wallet_linked_ecdsa unique column conflict")
  ensure (written.map LinkedRow.recordKey = [recordKey])
    (walletError "linked ECDSA revocation write is uncertain")
  return (⟨"revoked", current.reservationId, request.materialActivation, revokedAtMs⟩,
    { tables with linked })

/-- Revokes a linked device's material; the same revocation answers again. -/
def deactivateLinked (request : DeactivateReservationRequest) (nowUnixMs : ℕ) :
    RouterAbProtocolResult (ReservationDeactivationResponse × LinkedTables Context Bundle) := do
  request.validate
  Worker.requirePositiveMs "linked ECDSA revocation time" nowUnixMs
  let recordKey := reservationRecordKey env.linked request.materialActivation
  let found ← readLinked env tables request.scope recordKey
  let stored ← okOr found (lifecycleError "linked ECDSA material reservation is missing")
  let settled ← settleLinkedEcdsaDeactivation env.linked stored.state request.materialActivation
  match settled with
  | .revoked response => return (response, tables)
  | .resume revokedAtMs => do
    reads.requireMutationAdmission
    revokeRow env tables request revokedAtMs stored.state recordKey
  | .revoke => do
    reads.requireMutationAdmission
    revokeRow env tables request nowUnixMs stored.state recordKey

/-! ## Signing -/

def loadLinkedActivation (scope : WalletScope) (lookup : ActiveStateLookup) (activeKey : String) :
    RouterAbProtocolResult EcdsaActivationMaterial := do
  let found ← openLinked env scope (tables.linked.select fun row => row.activeKey = some activeKey)
  let stored ← okOr found (missingError "ECDSA wallet activation material is missing")
  match stored.state, stored.activation with
  | .sourcePreservingActive _, some activation => do
    lookup.validateActiveState activation.active
    return activation
  | _, _ => .error (walletError "linked ECDSA activation row holds no active material")

def loadActivation (scope : WalletScope) (lookup : ActiveStateLookup) :
    RouterAbProtocolResult EcdsaActivationMaterial := do
  scope.validate
  lookup.validate
  ensure (lookup.accountId = scope.walletId)
    (walletError "ECDSA activation lookup wallet owner changed")
  let key := s!"active-signing-worker/{lookup.accountId}/" ++
    s!"{lookup.materialActivationId}/{lookup.signingWorkerId}"
  match ← readActivation env tables scope key with
  | none => loadLinkedActivation env tables scope lookup key
  | some stored => do
    lookup.validateActiveState stored.activeSigningWorkerState
    return ⟨stored.activeSigningWorkerState, stored.material⟩

/-- Refuses material that belongs to a linked device that is not active. Material with no
linked reservation is the wallet's own. -/
def requireLinkedMaterialUnrevoked (scope : WalletScope)
    (materialActivation : MpcMaterialActivationRef) : RouterAbProtocolResult Unit := do
  match ← readLinked env tables scope (reservationRecordKey env.linked materialActivation) with
  | none => return ()
  | some ⟨.sourcePreservingActive _, some _⟩ => return ()
  | some _ => .error (lifecycleError "linked ECDSA material is not active")

/-- Claims a signing effect and consumes its presignature, refused for a linked device that
is not active. -/
def claimAndConsumeLinkedEffect (scope : WalletScope)
    (admitted : AdmittedEcdsaFinalizeRequest Admission)
    (nowUnixMs : ℕ) :
    RouterAbProtocolResult (ClaimAndConsume × LinkedTables Context Bundle) := do
  let unrevoked := requireLinkedMaterialUnrevoked env tables scope
    admitted.request.scope.materialActivation
  let (answer, ecdsa) ← claimAndConsumeEffect env.wallet (reads.forEffects unrevoked)
    tables.ecdsa scope admitted nowUnixMs
  return (answer, { tables with ecdsa })

end Store

/-! ## Calls -/

inductive LinkedCall (Admission Context Bundle : Type) where
  | activate (scope : WalletScope) (activation : ActivationRequest Context Bundle)
      (material : ServerOutputMaterialRecord) (activatedAtMs : ℕ)
  | reserve (request : SourcePreservingReservationRequest) (serverKey : ServerOutputKey)
      (sealSeed : Bytes 32)
  | activateLinked (request : ActivateReservationRequest) (serverKey : ServerOutputKey)
      (activatedAtMs : ℕ)
  | deactivate (request : DeactivateReservationRequest) (nowUnixMs : ℕ)
  | load (scope : WalletScope) (lookup : ActiveStateLookup)
  | claim (scope : WalletScope) (admitted : AdmittedEcdsaFinalizeRequest Admission)
      (nowUnixMs : ℕ)

inductive LinkedAnswer where
  | activate (answer : RouterAbProtocolResult ActivationReceipt)
  | reserve (answer : RouterAbProtocolResult SourcePreservingReservationResponse)
  | activateLinked (answer : RouterAbProtocolResult SourcePreservingReservationResponse)
  | deactivate (answer : RouterAbProtocolResult ReservationDeactivationResponse)
  | load (answer : RouterAbProtocolResult EcdsaActivationMaterial)
  | claim (answer : RouterAbProtocolResult ClaimAndConsume)

/-- Answers a call, each in one transaction, given what the other tables answer. -/
def answerLinkedCall {n : ℕ} [Fact n.Prime] {P : Type} [AddCommGroup P] [Module (ZMod n) P]
    [DecidableEq P] {Admission Context Bundle : Type} [DecidableEq Context] [DecidableEq Bundle]
    (env : StoreEnvironment n P Admission Context Bundle) (tables : LinkedTables Context Bundle)
    (call : LinkedCall Admission Context Bundle × StoreReads) :
    LinkedAnswer × LinkedTables Context Bundle :=
  match call with
  | (.activate scope activation material activatedAtMs, reads) => (transact tables
      (activate env reads tables scope activation material activatedAtMs)).map .activate id
  | (.reserve request serverKey sealSeed, reads) => (transact tables
      (reserveLinked env reads tables request serverKey sealSeed)).map .reserve id
  | (.activateLinked request serverKey activatedAtMs, reads) => (transact tables
      (activateLinked env reads tables request serverKey activatedAtMs)).map .activateLinked id
  | (.deactivate request nowUnixMs, reads) => (transact tables
      (deactivateLinked env reads tables request nowUnixMs)).map .deactivate id
  | (.load scope lookup, _) => (.load (loadActivation env tables scope lookup), tables)
  | (.claim scope admitted nowUnixMs, reads) => (transact tables
      (claimAndConsumeLinkedEffect env reads tables scope admitted nowUnixMs)).map .claim id

end SeamsWallet.LinkedEcdsa
