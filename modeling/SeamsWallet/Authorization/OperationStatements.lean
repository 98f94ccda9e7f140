import SeamsWallet.Authorization.Tables
import SeamsWallet.Library.Except

/-!
# Statements on authorized operations

The conditional insert of an admission with the triggers that debit the quota of a
wallet session or check a step-up evidence set, the read that follows it in the same
batch, and the update that completes an operation.
-/

namespace SeamsWallet.Authorization

open Library

/-! ## Conditions on the key material -/

structure AuthorizedOperationMaterialScope where
  /-- Whether the scope is of kind `ecdsa_material_activation`. -/
  ecdsaMaterialActivation : Bool
  walletId : String
  keyHandle : String
  runtimePolicyOrgId : String
  materialKind : String
  materialActivation : MpcMaterialActivation

/-- The rows a material resolver examines. -/
inductive MaterialRecordSet
  | signersOfActivation (activationId : String)
  | ecdsaSigners
  | installations

structure RecordSetCondition where
  scope : D1WalletStoreScope
  walletId : String
  records : MaterialRecordSet
  rows : List String

variable (db : Database)

def Database.materialRecords (scope : D1WalletStoreScope) (walletId : String) :
    MaterialRecordSet → List String
  | .signersOfActivation activationId =>
    (db.signers.filter fun signer => signer.scope = scope ∧ signer.walletId = walletId ∧
      signer.materialActivation.activationId = activationId).map EcdsaSignerRow.recordJson
  | .ecdsaSigners =>
    (db.signers.filter fun signer => signer.scope = scope ∧
      signer.walletId = walletId).map EcdsaSignerRow.recordJson
  | .installations =>
    (db.installations.filter fun installation => installation.scope = scope ∧
      installation.walletId = walletId).map AuthorityInstallationRow.snapshot

/-- As many rows as were examined, and none that was not. -/
def RecordSetCondition.holds (condition : RecordSetCondition) (db : Database) : Bool :=
  let current := db.materialRecords condition.scope condition.walletId condition.records
  current.length = condition.rows.length && current.all fun record => record ∈ condition.rows

structure EcdsaMaterialReadSnapshot where
  walletId : String
  scope : D1WalletStoreScope
  conditions : List RecordSetCondition

def EcdsaMaterialReadSnapshot.condition (snapshot : EcdsaMaterialReadSnapshot)
    (scope : D1WalletStoreScope) (db : Database) : Bool :=
  scope = snapshot.scope && snapshot.conditions.all fun condition => condition.holds db

/-- `ECDSA_SIGNER_MATCH`: a signer of the wallet holds exactly this material. -/
def Database.ecdsaSignerMatch (scope : D1WalletStoreScope)
    (material : AuthorizedOperationMaterialScope) : Bool :=
  db.signers.any fun signer => signer.scope = scope ∧ signer.walletId = material.walletId ∧
    signer.materialActivation.materialOwner = signer.walletId ∧
    signer.keyHandle = material.keyHandle ∧ signer.materialKind = material.materialKind ∧
    signer.materialActivation = material.materialActivation

/-! ## The insert of an admission -/

structure AuthorizedOperationInsert where
  context : D1AuthorizationContext
  operation : AuthorizedOperation
  material : Option AuthorizedOperationMaterialScope
  materialSnapshot : Option EcdsaMaterialReadSnapshot

variable (insert : AuthorizedOperationInsert)

def AuthorizedOperationInsert.key : OperationKey :=
  ⟨insert.context.nameSpace, insert.operation.tenantId, insert.operation.operationFingerprintDigest⟩

def AuthorizedOperationInsert.materialCondition (db : Database) : Bool :=
  match insert.materialSnapshot, insert.material with
  | some snapshot, _ => snapshot.condition insert.context.walletSignerScope db
  | none, some material =>
    if material.ecdsaMaterialActivation then
      db.ecdsaSignerMatch insert.context.walletSignerScope material
    else true
  | none, none => true

def AuthorizedOperationInsert.evidenceCondition (db : Database) : Bool :=
  match insert.operation.authorization with
  | .authorizationGrant _ => true
  | .verifiedStepUp evidenceSetDigest => db.evidenceSets.any fun evidence =>
    evidence.nameSpace = insert.context.nameSpace ∧ evidence.tenantId = insert.operation.tenantId ∧
      evidence.evidenceSetDigest = evidenceSetDigest ∧
      evidence.scope = insert.context.scope

/-- The wallets a source stands for, with their scopes. -/
def Database.operationOwners (nameSpace tenantId : String) :
    OperationAuthorizationSource → List (WalletScope × String)
  | .authorizationGrant authorizationId =>
    (db.sessions.filter fun session => session.nameSpace = nameSpace ∧
      session.tenantId = tenantId ∧ session.authorizationId = authorizationId).map
      fun session => (session.scope, session.walletId)
  | .verifiedStepUp evidenceSetDigest =>
    (db.evidenceSets.filter fun evidence => evidence.nameSpace = nameSpace ∧
      evidence.tenantId = tenantId ∧ evidence.evidenceSetDigest = evidenceSetDigest).map
      fun evidence => (evidence.scope, evidence.walletId)

/-- The generations in which an owner of the source in this scope is active. -/
def Database.activeGenerations (nameSpace tenantId : String) (source : OperationAuthorizationSource)
    (scope : WalletScope) : List ℕ :=
  (db.operationOwners nameSpace tenantId source).flatMap fun owner =>
    (db.executions.filter fun execution => owner.1 = scope ∧
      execution.nameSpace = nameSpace ∧ execution.scope = owner.1 ∧
      execution.walletId = owner.2 ∧ execution.state = .active).map
      ExecutionGenerationRow.generation

def AuthorizedOperationInsert.row (db : Database) : AuthorizedOperationRow where
  nameSpace := insert.context.nameSpace
  operation := { insert.operation with lifecycle := .claimed }
  material := insert.material.map AuthorizedOperationMaterialScope.materialActivation
  ownerScope :=
    match insert.operation.authorization with
    | .authorizationGrant _ => some insert.context.scope
    | .verifiedStepUp _ => none
  ownershipGeneration :=
    (db.activeGenerations insert.context.nameSpace insert.operation.tenantId
      insert.operation.authorization insert.context.scope).head?

def OperationKind.isExport : OperationKind → Bool
  | .nearExportKey | .evmExportKey => true
  | _ => false

/-- The checks of the table on the quota of an operation. -/
def AuthorizedOperation.quotaAllowed (operation : AuthorizedOperation) : Bool :=
  match operation.quota, operation.authorization with
  | .consumeReusableWalletSession _, .authorizationGrant _ =>
    !operation.operation.operationKind.isExport &&
      operation.operation.capabilityKind ≠ .vaultAccess
  | .consumeReusableWalletSession _, .verifiedStepUp _ => false
  | .quotaNeutral, .authorizationGrant _ =>
    operation.operation.operationKind.isExport ||
      operation.operation.capabilityKind = .vaultAccess
  | .quotaNeutral, .verifiedStepUp _ => true

def claimRejected : OperationAuthorizationSource → String
  | .authorizationGrant _ => "authorization_wallet_session_rejected"
  | .verifiedStepUp _ => "authorization_evidence_claim_rejected"

variable (row : AuthorizedOperationRow)

def AuthorizedOperationRow.through (session : WalletSessionRow) : Bool :=
  row.operation.authorization = .authorizationGrant session.authorizationId &&
    (session.nameSpace = row.nameSpace && row.ownerScope = some session.scope &&
      session.tenantId = row.operation.tenantId &&
      session.principalId = row.operation.operation.principalId &&
      match row.operation.quota with
      | .consumeReusableWalletSession quotaId => decide (session.quotaId = quotaId)
      | .quotaNeutral => true)

/-- The session is neither retired nor expired, and what it rests on is active. -/
def Database.sessionLive (nowMs : ℕ) (session : WalletSessionRow) : Bool :=
  session.retiredAtMs.isNone && decide (nowMs < session.expiresAtMs) &&
    db.provenanceActive session

def WalletSessionQuotaRow.of (quota : WalletSessionQuotaRow) (session : WalletSessionRow) : Bool :=
  quota.key = session.quotaKey && quota.walletSessionId = session.walletSessionId &&
    quota.principalId = session.principalId

def Database.claimSession? : Option WalletSessionRow :=
  db.sessions.find? fun session => row.through session &&
    session.operationCredentialHash.isSome &&
    db.sessionLive row.operation.claimedAtMs session &&
    db.quotas.any fun quota => quota.of session

/-- The quota an operation of the session with this identifier is taken from. -/
def AuthorizedOperationRow.debits (quotaId : String) (session : WalletSessionRow)
    (quota : WalletSessionQuotaRow) : Bool :=
  quota.key = ⟨row.nameSpace, row.operation.tenantId, quotaId⟩ &&
    quota.principalId = row.operation.operation.principalId &&
    decide (0 < quota.remainingUses) &&
    decide (row.operation.claimedAtMs < quota.expiresAtMs) &&
    quota.walletSessionId = session.walletSessionId

def debitQuotas (debited : WalletSessionQuotaRow → Bool) (quotas : List WalletSessionQuotaRow) :
    List WalletSessionQuotaRow :=
  quotas.map fun quota =>
    if debited quota then { quota with remainingUses := quota.remainingUses - 1 } else quota

/-- `authorized_operation_owner_grant_claim_atomic`. -/
def Database.ownerGrantClaim : Except String Database := do
  let session ← okOr (db.claimSession? row) "authorization_wallet_session_rejected"
  match row.operation.quota with
  | .quotaNeutral => pure db
  | .consumeReusableWalletSession quotaId =>
    ensure (db.quotas.countP (row.debits quotaId session) = 1)
      "authorization_wallet_session_quota_rejected"
    pure { db with quotas := debitQuotas (row.debits quotaId session) db.quotas }

/-- The evidence set verifies the operation of the row. -/
def AuthorizedOperationRow.verifiedBy (evidenceSetDigest : String) (evidence : EvidenceSetRow) :
    Bool :=
  evidence.nameSpace = row.nameSpace && evidence.tenantId = row.operation.tenantId &&
    evidence.evidenceSetDigest = evidenceSetDigest &&
    evidence.principalId = row.operation.operation.principalId &&
    evidence.capabilityKind = row.operation.operation.capabilityKind &&
    evidence.operationKind = row.operation.operation.operationKind &&
    evidence.laneDigest = row.operation.operation.laneDigest &&
    evidence.intentDigest = row.operation.operation.intentDigest &&
    evidence.displayDigest = row.operation.operation.displayDigest

variable (clock : ℕ)

/-- `authorized_operation_step_up_claim_atomic`, by the clock of the database. -/
def Database.stepUpClaim (row : AuthorizedOperationRow) (evidenceSetDigest : String) :
    Except String Database := do
  ensure (db.evidenceSets.any fun evidence => row.verifiedBy evidenceSetDigest evidence &&
    decide (row.operation.claimedAtMs < evidence.expiresAtMs) &&
    decide (clock < evidence.expiresAtMs)) "authorization_evidence_claim_rejected"
  pure db

def Database.claim (row : AuthorizedOperationRow) : Except String Database :=
  match row.operation.authorization with
  | .authorizationGrant _ => db.ownerGrantClaim row
  | .verifiedStepUp evidenceSetDigest => db.stepUpClaim clock row evidenceSetDigest

def Database.generationPinned : Bool :=
  (db.operationOwners row.nameSpace row.operation.tenantId
    row.operation.authorization).any fun owner =>
      (match row.operation.authorization with
        | .verifiedStepUp _ => true
        | .authorizationGrant _ => decide (row.ownerScope = some owner.1)) &&
      db.executions.any fun execution => execution.nameSpace = row.nameSpace ∧
        execution.scope = owner.1 ∧ execution.walletId = owner.2 ∧
        execution.state = .active ∧ row.ownershipGeneration = some execution.generation

def Database.prepareAuthorizedOperationInsert (insert : AuthorizedOperationInsert) :
    Except String (ℕ × Database) := do
  if insert.materialCondition db && insert.evidenceCondition db &&
      (db.operation? insert.key).isNone then
    let row := insert.row db
    ensure (db.generationPinned row) (claimRejected row.operation.authorization)
    ensure row.operation.quotaAllowed "CHECK constraint failed: authorized_operations"
    ensure (db.operations.all fun other => other.nameSpace ≠ row.nameSpace ∨
        other.operation.tenantId ≠ row.operation.tenantId ∨
        other.operation.authorizedOperationId ≠ row.operation.authorizedOperationId)
      "UNIQUE constraint failed: authorized_operations.authorized_operation_id"
    let claimed ← db.claim clock row
    pure (1, { claimed with operations := claimed.operations ++ [row] })
  else pure (0, db)

/-! ## The reads -/

structure AdmissionRead where
  context : D1AuthorizationContext
  tenantId : String
  operationFingerprintDigest : String
  nowMs : ℕ
  materialSnapshot : Option EcdsaMaterialReadSnapshot

def AdmissionRead.key (read : AdmissionRead) : OperationKey :=
  ⟨read.context.nameSpace, read.tenantId, read.operationFingerprintDigest⟩

/-- A stored operation with what the admission read joins to it. -/
structure AdmissionRow where
  row : AuthorizedOperationRow
  stepUpScope : Option WalletScope
  pinnedOwnerWalletId : Option String
  materialSnapshotActive : Bool
  authorizationSourceActive : Bool

def Database.stepUpScope : Option WalletScope :=
  match row.operation.authorization with
  | .authorizationGrant _ => none
  | .verifiedStepUp evidenceSetDigest =>
    (db.evidence? row.nameSpace row.operation.tenantId evidenceSetDigest).map
      EvidenceSetRow.scope

def Database.pinnedOwnerWallet : Option String :=
  match row.operation.authorization with
  | .verifiedStepUp evidenceSetDigest =>
    (db.evidence? row.nameSpace row.operation.tenantId evidenceSetDigest).map
      EvidenceSetRow.walletId
  | .authorizationGrant authorizationId =>
    (db.sessions.find? fun session => session.nameSpace = row.nameSpace ∧
      session.tenantId = row.operation.tenantId ∧
      session.authorizationId = authorizationId ∧
      row.ownerScope = some session.scope).map fun session => session.walletId

def Database.authorizationSourceActive (read : AdmissionRead) (row : AuthorizedOperationRow) :
    Bool :=
  match row.operation.authorization with
  | .authorizationGrant _ => db.sessions.any fun session => row.through session &&
      session.scope = read.context.scope && db.sessionLive read.nowMs session
  | .verifiedStepUp evidenceSetDigest => db.evidenceSets.any fun evidence =>
    row.verifiedBy evidenceSetDigest evidence &&
      decide (max read.nowMs clock < evidence.expiresAtMs)

def Database.prepareAuthorizedOperationAdmissionRead (read : AdmissionRead) : Option AdmissionRow :=
  (db.operation? read.key).map fun row =>
    { row
      stepUpScope := db.stepUpScope row
      pinnedOwnerWalletId := db.pinnedOwnerWallet row
      materialSnapshotActive :=
        match read.materialSnapshot with
        | none => true
        | some snapshot => snapshot.condition read.context.walletSignerScope db
      authorizationSourceActive := db.authorizationSourceActive clock read row }

/-! ## The completion -/

structure WalletOperationCompletion where
  nameSpace : String
  operation : AuthorizedOperation
  result : CompletedCapabilityOperationResult
  response : AuthorizedOperationReplayResponse
  resultDigest : String
  completedAtMs : ℕ

variable (completion : WalletOperationCompletion)

def WalletOperationCompletion.completes (row : AuthorizedOperationRow) : Bool :=
  row.nameSpace = completion.nameSpace &&
    row.operation.tenantId = completion.operation.tenantId &&
    row.operation.authorizedOperationId = completion.operation.authorizedOperationId &&
    row.operation.operationFingerprintDigest = completion.operation.operationFingerprintDigest &&
    row.operation.lifecycle = .claimed

def WalletOperationCompletion.complete (row : AuthorizedOperationRow) : AuthorizedOperationRow :=
  let lifecycle := .completed completion.result completion.response completion.resultDigest
    completion.completedAtMs
  { row with operation := { row.operation with lifecycle } }

def Database.prepareWalletOperationCompletion : Option AuthorizedOperationRow × Database :=
  ((db.operations.find? completion.completes).map completion.complete,
    { db with operations := db.operations.map fun row =>
      if completion.completes row then completion.complete row else row })

end SeamsWallet.Authorization
