import Mathlib.Data.List.Infix
import SeamsWallet.Authorization.Store

/-!
# Admitting and completing authorized operations

An admission claims an operation by one batch, the conditional insert and a read of
what is stored under its fingerprint. If nothing was inserted, the stored operation
answers; if the batch failed, the operation is read once more, and the error is
classified only if there is none.
-/

namespace SeamsWallet.Authorization

open Library

/-- The digests and format checks of stored operations, which are not modelled. -/
structure OperationCodec where
  computeCapabilityOperationFingerprintDigest : CapabilityOperationEnvelope → String
  computeAuthorizedOperationResultDigest : AuthorizedOperationReplayResponse → String
  /-- The first column of a row that is malformed. -/
  rowError? : AuthorizedOperationRow → Option String
  /-- What is wrong with a response. -/
  responseError? : AuthorizedOperationReplayResponse → Option String

def maxSafeInteger : ℕ := 9007199254740991

def requirePositiveInteger (value : ℕ) (label : String) : Except String ℕ := do
  ensure (value ≤ maxSafeInteger) (label ++ " must be a safe integer")
  ensure (0 < value) (label ++ " must be positive")
  pure value

def parseUnixMs (value : ℕ) (label : String) : Except String ℕ := do
  ensure (0 < value ∧ value ≤ maxSafeInteger)
    (label ++ " must be a positive unix-millisecond timestamp")
  pure value

def throwAny : Option String → Except String Unit
  | none => pure ()
  | some message => .error message

def buildAuthorizedOperation (codec : OperationCodec) (input : AuthorizedOperationInput) :
    Except String AuthorizedOperation := do
  ensure (input.tenantId = input.operation.tenantId)
    "authorized operation tenant must match its operation envelope"
  pure { input with
    operationFingerprintDigest :=
      codec.computeCapabilityOperationFingerprintDigest input.operation
    lifecycle := .claimed }

def parseAuthorizedOperationRow (codec : OperationCodec) (row : AuthorizedOperationRow) :
    Except String AuthorizedOperation := do
  throwAny (codec.rowError? row)
  ensure (codec.computeCapabilityOperationFingerprintDigest row.operation.operation =
      row.operation.operationFingerprintDigest)
    "operation.operationFingerprintDigest does not match operation envelope"
  match row.operation.lifecycle with
  | .claimed => pure row.operation
  | .completed _ response resultDigest _ => do
    throwAny (codec.responseError? response)
    ensure (codec.computeAuthorizedOperationResultDigest response = resultDigest)
      "operation.resultDigest does not match replay response"
    pure row.operation

/-! ## How a stored operation answers -/

inductive AuthorizedOperationAdmissionRejection
  | authorizationGrantRejected
  | verifiedStepUpRejected
  | billingCreditExhausted
  | walletSessionQuotaExhausted
  | materialMismatch
  deriving DecidableEq

inductive AuthorizedOperationAdmissionOutcome
  | claimed (operation : AuthorizedOperation) (row : AdmissionRow)
  | replayed (operation : AuthorizedOperation) (row : AdmissionRow)
  | operationInProgress (operation : AuthorizedOperation) (row : AdmissionRow)
  | rejected (rejection : AuthorizedOperationAdmissionRejection)

structure AdmissionInput where
  operation : AuthorizedOperationInput
  material : Option AuthorizedOperationMaterialScope
  materialSnapshot : Option EcdsaMaterialReadSnapshot

def authorizedOperationMaterialScopeMatches (operation : AuthorizedOperation)
    (material : Option AuthorizedOperationMaterialScope)
    (snapshot : Option EcdsaMaterialReadSnapshot) : Bool :=
  let requiresMaterial := operation.operation.capabilityKind = .evmEcdsaMpcSigning
  (snapshot.all fun snapshot => decide (some snapshot.walletId =
    material.map AuthorizedOperationMaterialScope.walletId)) &&
  match material with
  | none => !requiresMaterial
  | some material => requiresMaterial && material.runtimePolicyOrgId = operation.tenantId &&
      material.materialActivation.capability = operation.operation.capabilityId &&
      material.materialActivation.materialOwner = material.walletId

def authorizationSourceRejected :
    OperationAuthorizationSource → AuthorizedOperationAdmissionRejection
  | .verifiedStepUp _ => .verifiedStepUpRejected
  | .authorizationGrant _ => .authorizationGrantRejected

variable (existing : AdmissionRow) (incoming : AuthorizedOperation)

def sourceMismatch (scope : WalletScope) : Option AuthorizedOperationAdmissionRejection :=
  match existing.row.operation.authorization, incoming.authorization with
  | .authorizationGrant stored, .authorizationGrant authorizationId =>
    if existing.row.ownerScope = some scope ∧ stored = authorizationId then none
    else some .authorizationGrantRejected
  | .verifiedStepUp stored, .verifiedStepUp evidenceSetDigest =>
    if stored = evidenceSetDigest ∧ existing.stepUpScope = some scope then none
    else some .verifiedStepUpRejected
  | _, source => some (authorizationSourceRejected source)

def quotaMismatch : Option AuthorizedOperationAdmissionRejection :=
  match existing.row.operation.quota, incoming.quota with
  | .consumeReusableWalletSession stored, .consumeReusableWalletSession quotaId =>
    if stored = quotaId then none else some .authorizationGrantRejected
  | .quotaNeutral, .quotaNeutral => none
  | _, _ => some (authorizationSourceRejected incoming.authorization)

def materialMismatch (material : Option AuthorizedOperationMaterialScope) :
    Option AuthorizedOperationAdmissionRejection :=
  if existing.row.material = material.map AuthorizedOperationMaterialScope.materialActivation
  then none else some .materialMismatch

def authorizedOperationReplayMismatch (material : Option AuthorizedOperationMaterialScope)
    (scope : WalletScope) : Option AuthorizedOperationAdmissionRejection :=
  (sourceMismatch existing incoming scope).or
    ((quotaMismatch existing incoming).or (materialMismatch existing material))

def answerExistingAuthorizedOperation (context : D1AuthorizationContext)
    (existing : AdmissionRow) (stored incoming : AuthorizedOperation)
    (material : Option AuthorizedOperationMaterialScope) :
    AuthorizedOperationAdmissionOutcome :=
  if existing.materialSnapshotActive = false then .rejected .materialMismatch
  else match authorizedOperationReplayMismatch existing incoming material context.scope with
    | some rejection => .rejected rejection
    | none =>
      match stored.lifecycle, stored.authorization with
      | .completed _ _ _ _, .authorizationGrant _ =>
        if existing.authorizationSourceActive then .replayed stored existing
        else .rejected .authorizationGrantRejected
      | .completed _ _ _ _, .verifiedStepUp _ => .replayed stored existing
      | .claimed, _ =>
        if existing.authorizationSourceActive then .operationInProgress stored existing
        else .rejected (authorizationSourceRejected incoming.authorization)

/-- The rejection the text of a failed batch stands for. -/
def classifyAuthorizedOperationAdmissionError (message : String) :
    Option AuthorizedOperationAdmissionRejection :=
  let includes (text : String) : Bool := text.toList <:+: message.toList
  if includes "billing_credit_exhausted" then some .billingCreditExhausted
  else if includes "authorization_wallet_session_quota_rejected" then
    some .walletSessionQuotaExhausted
  else if includes "authorization_wallet_session_rejected" then
    some .authorizationGrantRejected
  else if includes "authorization_evidence_claim_rejected" then some .verifiedStepUpRejected
  else none

/-! ## Admission -/

section Admission

variable (codec : OperationCodec) (context : D1AuthorizationContext) (input : AdmissionInput)
  (operation : AuthorizedOperation)

def admissionRead : AdmissionRead where
  context := context
  tenantId := operation.tenantId
  operationFingerprintDigest := operation.operationFingerprintDigest
  nowMs := operation.claimedAtMs
  materialSnapshot := input.materialSnapshot

def admissionInsert : AuthorizedOperationInsert where
  context := context
  operation := operation
  material := input.material
  materialSnapshot := input.materialSnapshot

/-- The answer when the batch failed: that of the operation another admission may have
claimed, or of the error. -/
def recoverAdmission (error : String) : Store AuthorizedOperationAdmissionOutcome := do
  let _ ← Program.ofExcept (requirePositiveInteger operation.claimedAtMs "operation replay time")
  match ← run (.admissionRead (admissionRead context input operation)) with
  | some raced => do
    let stored ← Program.ofExcept (parseAuthorizedOperationRow codec raced.row)
    pure (answerExistingAuthorizedOperation context raced stored operation input.material)
  | none =>
    match classifyAuthorizedOperationAdmissionError error with
    | some rejection => pure (.rejected rejection)
    | none => .fail error

def answerAdmission : ℕ × Option AdmissionRow → Store AuthorizedOperationAdmissionOutcome
  | (changes, none) =>
    if changes = 0 ∧ input.material.isSome then pure (.rejected .materialMismatch)
    else match changes, operation.authorization with
      | 0, .verifiedStepUp _ => pure (.rejected .verifiedStepUpRejected)
      | _, _ => .fail "authorized operation admission could not be read back"
  | (changes, some committed) => do
    let admitted ← Program.ofExcept (parseAuthorizedOperationRow codec committed.row)
    if changes = 0 then
      pure (answerExistingAuthorizedOperation context committed admitted operation
        input.material)
    else pure (.claimed admitted committed)

/-- The batch of an admission, which is prepared only for a proper claim time. -/
def claimBatch : Store (ℕ × Option AdmissionRow) := do
  let _ ← Program.ofExcept (requirePositiveInteger operation.claimedAtMs "operation.claimedAtMs")
  run (.admissionBatch (admissionInsert context input operation)
    (admissionRead context input operation))

def admitAuthorizedOperationRecord : Store AuthorizedOperationAdmissionOutcome := do
  let operation ← Program.ofExcept (buildAuthorizedOperation codec input.operation)
  if authorizedOperationMaterialScopeMatches operation input.material
      input.materialSnapshot then
    let attempt ← (Sum.inl <$> claimBatch context input operation).handle
      fun error => Sum.inr <$> recoverAdmission codec context input operation error
    match attempt with
    | .inl committed => answerAdmission codec context input operation committed
    | .inr answer => pure answer
  else pure (.rejected .materialMismatch)

end Admission

/-! ## The calls -/

structure PinnedOwnerWalletScope where
  ownershipGeneration : ℕ
  scope : WalletScope
  deriving DecidableEq

inductive AdmissionResult
  | claimed (operation : AuthorizedOperation) (ownerScope : Option PinnedOwnerWalletScope)
  | operationInProgress (operation : AuthorizedOperation)
      (ownerScope : Option PinnedOwnerWalletScope)
  | replayed (operation : AuthorizedOperation)
  | rejected (rejection : AuthorizedOperationAdmissionRejection)
  deriving DecidableEq

def pinnedWalletSessionOwnerScope (row : AdmissionRow) (walletId : String) :
    Except String PinnedOwnerWalletScope := do
  ensure (row.pinnedOwnerWalletId = some walletId)
    "Pinned owner Wallet Session scope is unavailable"
  let ownershipGeneration ← requirePositiveInteger (row.row.ownershipGeneration.getD 0)
    "operation.ownershipGeneration"
  let scope ← okOr row.row.ownerScope
    "operation.ownerScope.orgId must be a compact opaque identifier"
  pure { ownershipGeneration, scope }

def pinWalletSessionAdmission (walletId : String) :
    AuthorizedOperationAdmissionOutcome → Except String AdmissionResult
  | .claimed operation row => do
    let ownerScope ← pinnedWalletSessionOwnerScope row walletId
    pure (.claimed operation (some ownerScope))
  | .operationInProgress operation row => do
    let ownerScope ← pinnedWalletSessionOwnerScope row walletId
    pure (.operationInProgress operation (some ownerScope))
  | .replayed operation _ => pure (.replayed operation)
  | .rejected rejection => pure (.rejected rejection)

def AuthorizedOperationAdmissionOutcome.result :
    AuthorizedOperationAdmissionOutcome → AdmissionResult
  | .claimed operation _ => .claimed operation none
  | .operationInProgress operation _ => .operationInProgress operation none
  | .replayed operation _ => .replayed operation
  | .rejected rejection => .rejected rejection

section Calls

variable (codec : OperationCodec) (context : D1AuthorizationContext)
  (operation : AuthorizedOperationInput)

def admitAuthorizedOperation (material : Option AuthorizedOperationMaterialScope) :
    Store AdmissionResult := do
  let outcome ← admitAuthorizedOperationRecord codec context
    { operation, material, materialSnapshot := none }
  pure outcome.result

def admitEcdsaWalletSessionOperation (material : AuthorizedOperationMaterialScope)
    (readSnapshot : EcdsaMaterialReadSnapshot) :
    Store AdmissionResult := do
  let outcome ← admitAuthorizedOperationRecord codec context
    { operation, material := some material, materialSnapshot := some readSnapshot }
  Program.ofExcept (pinWalletSessionAdmission material.walletId outcome)

def admitEd25519WalletSessionOperation (walletId : String) : Store AdmissionResult := do
  let outcome ← admitAuthorizedOperationRecord codec context
    { operation, material := none, materialSnapshot := none }
  Program.ofExcept (pinWalletSessionAdmission walletId outcome)

def completeAuthorizedOperation (operation : AuthorizedOperation)
    (result : CompletedCapabilityOperationResult)
    (response : AuthorizedOperationReplayResponse) (completedAtMs : ℕ) :
    Store AuthorizedOperation := do
  Program.ofExcept (throwAny (codec.responseError? response))
  let completedAtMs ← Program.ofExcept (parseUnixMs completedAtMs "operation.completedAtMs")
  let completed ← run (.completionUpdate
    { nameSpace := context.nameSpace
      operation
      result
      response
      resultDigest := codec.computeAuthorizedOperationResultDigest response
      completedAtMs })
  match completed with
  | some row => Program.ofExcept (parseAuthorizedOperationRow codec row)
  | none => do
    let existing ← run (.operationRead ⟨context.nameSpace, operation.tenantId,
      operation.operationFingerprintDigest⟩)
    match existing with
    | some row => Program.ofExcept (parseAuthorizedOperationRow codec row)
    | none => .fail "authorized operation completion claim is missing"

end Calls

end SeamsWallet.Authorization
