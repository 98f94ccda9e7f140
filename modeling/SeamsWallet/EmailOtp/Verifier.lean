import SeamsWallet.EmailOtp.Database
import SeamsWallet.Nonce.Lane

/-!
# The email OTP challenge verifier

The verification of an email OTP code as a program over the database statements:
for an existing wallet (consuming the challenge now, or in a batch of the caller),
for a registration (once, or resumable with a receipt) and for a recovery. Each
call ends with what was verified or with a failure; an error thrown on the way
becomes the failure `internal`.
-/

namespace SeamsWallet.EmailOtp

open Library
open Nonce (trim)

structure VerifyFailure where
  code : String
  message : String
  attemptsRemaining : Option ℕ := none
  lockedUntilMs : Option ℕ := none
  retryAfterMs : Option ℕ := none
  resetAtMs : Option ℕ := none

/-- A verification stops early with its answer, or by a thrown error. -/
inductive VerifyError
  | returned (failure : VerifyFailure)
  | thrown (message : String)

abbrev Verify (α : Type) : Type := Program Statement Statement.Answer VerifyError α

/-- The parts of the request digest of a resumable registration. -/
structure FingerprintInput where
  operationId : String
  providerSubject : String
  walletId : String
  orgId : String
  challengeId : String
  otpCode : String
  ownerProofBindingDigest : String
  proofEmail : String

/-- The configuration of a verifier, with the text functions it calls. The lockout is
configured to last a minute at least. -/
structure VerifierOptions where
  lockoutTtlMs : ℕ
  lockoutTtlMs_ge : 60000 ≤ lockoutTtlMs
  toLowerCase : String → String
  emailOtpRegistrationVerificationFingerprint : FingerprintInput → String

def rethrow {α : Type} : Except String α → Verify α
  | .ok row => pure row
  | .error message => .fail (.thrown message)

def run (q : Statement) : Verify q.Row := do
  rethrow (← Program.ask q)

def reject {α : Type} (code message : String) : Verify α :=
  .fail (.returned { code, message })

def require (c : Prop) [Decidable c] (code message : String) : Verify Unit :=
  Program.ensure c (.returned { code, message })

def toOptionalTrimmedString (value : Option String) : String :=
  trim (value.getD "")

def emailOtpChannel : String := "email_otp"

/-! ## Enrollments and the failure state -/

inductive Patch
  | keep
  | clear
  | put (value : ℕ)

def patchedPositiveAuthStateValue (current : Option ℕ) : Patch → Option ℕ
  | .clear => none
  | .keep => current
  | .put value => if 0 < value then some value else none

def patchedNonNegativeAuthStateValue (current : Option ℕ) : Patch → Option ℕ
  | .clear => none
  | .keep => current
  | .put value => some value

structure EmailOtpAuthStatePatch where
  otpFailureCount : Patch
  lastOtpFailureAtMs : Patch
  otpLockedUntilMs : Patch

variable (enrollment : EmailOtpWalletEnrollmentRecord)

def emailOtpAuthStateRecord (existing : Option EmailOtpAuthStateRecord) (updatedAtMs : ℕ)
    (patch : EmailOtpAuthStatePatch) : EmailOtpAuthStateRecord where
  walletId := enrollment.walletId
  providerUserId := enrollment.providerUserId
  orgId := enrollment.orgId
  createdAtMs := (existing.map (·.createdAtMs)).getD updatedAtMs
  updatedAtMs := updatedAtMs
  otpFailureCount := patchedNonNegativeAuthStateValue
    (existing.bind (·.otpFailureCount)) patch.otpFailureCount
  lastOtpFailureAtMs := patchedPositiveAuthStateValue
    (existing.bind (·.lastOtpFailureAtMs)) patch.lastOtpFailureAtMs
  otpLockedUntilMs := patchedPositiveAuthStateValue
    (existing.bind (·.otpLockedUntilMs)) patch.otpLockedUntilMs
  lastEmailOtpLoginAtMs := existing.bind (·.lastEmailOtpLoginAtMs)
  lastStrongAuthAtMs := existing.bind (·.lastStrongAuthAtMs)

def Fits (state : Option EmailOtpAuthStateRecord) : Prop :=
  ∀ existing ∈ state, existing.orgId = enrollment.orgId ∧
    existing.providerUserId = enrollment.providerUserId

instance (enrollment : EmailOtpWalletEnrollmentRecord)
    (state : Option EmailOtpAuthStateRecord) : Decidable (Fits enrollment state) :=
  inferInstanceAs (Decidable (∀ existing ∈ state, _))

def readActiveEnrollment (walletId orgId providerUserId : String) :
    Verify EmailOtpWalletEnrollmentRecord := do
  match ← run (.selectEnrollment walletId) with
  | none => reject "not_found" "Email OTP enrollment not found"
  | some enrollment =>
    require (enrollment.orgId = orgId) "tenant_scope_mismatch"
      "Email OTP enrollment does not match the requested orgId"
    require (enrollment.providerUserId = providerUserId) "provider_identity_mismatch"
      "Email OTP enrollment does not match the requested provider user"
    pure enrollment

def readAuthStateForEnrollment : Verify (Option EmailOtpAuthStateRecord) := do
  let state ← run (.selectAuthState enrollment.walletId)
  require (Fits enrollment state) "auth_state_enrollment_mismatch"
    "Email OTP auth state does not match the active enrollment"
  pure state

def putAuthStateForEnrollment (patch : EmailOtpAuthStatePatch) : Verify Unit := do
  let nowMs ← run .dateNow
  let existing ← run (.selectAuthState enrollment.walletId)
  Program.ensure (Fits enrollment existing)
    (.thrown "Email OTP auth state does not match the active enrollment")
  run (.upsertAuthState (emailOtpAuthStateRecord enrollment existing nowMs patch))

def hasFailureState (state : EmailOtpAuthStateRecord) : Prop :=
  0 < state.otpFailureCount.getD 0 ∨ state.lastOtpFailureAtMs ≠ none ∨ state.otpLockedUntilMs ≠ none

instance (state : EmailOtpAuthStateRecord) : Decidable (hasFailureState state) :=
  inferInstanceAs (Decidable (_ ∨ _ ∨ _))

def resetFailureState (authState : Option EmailOtpAuthStateRecord) : Verify Unit :=
  if ∃ state ∈ authState, hasFailureState state then
    putAuthStateForEnrollment enrollment
      { otpFailureCount := .put 0, lastOtpFailureAtMs := .clear, otpLockedUntilMs := .clear }
  else pure ()

def requireNotLocked (authState : Option EmailOtpAuthStateRecord) : Verify Unit := do
  match authState.bind (·.otpLockedUntilMs) with
  | none => pure ()
  | some lockedUntilMs =>
    let nowMs ← run .dateNow
    Program.ensure (lockedUntilMs ≤ nowMs) (.returned {
      code := "otp_locked_out"
      message := "Email OTP is temporarily locked for this wallet"
      lockedUntilMs := some lockedUntilMs })

def consumeRateLimit : Verify Unit := do
  match ← run .consumeRateLimit with
  | none => pure ()
  | some limited => .fail (.returned {
      code := "rate_limited"
      message := "Email OTP rate limit exceeded"
      retryAfterMs := limited.retryAfterMs
      resetAtMs := limited.resetAtMs })

/-! ## Challenges -/

def emailOtpChallengeInvalidOrExpired {α : Type} : Verify α :=
  reject "challenge_expired_or_invalid" "Email OTP challenge expired or invalid"

def emailOtpChallengeBindingMismatchCode (record : EmailOtpChallengeRecord)
    (userId walletId orgId ownerProofBindingDigest : String)
    (purpose : EmailOtpChallengePurpose) : Option String :=
  if record.challengeSubjectId ≠ userId then some "challenge_subject_mismatch"
  else if record.walletId ≠ walletId then some "challenge_wallet_mismatch"
  else if record.orgId.getD "" ≠ orgId then some "challenge_org_mismatch"
  else if record.purpose ≠ purpose then some "challenge_purpose_mismatch"
  else if record.ownerProofBindingDigest ≠ ownerProofBindingDigest then
    some "challenge_session_mismatch"
  else none

variable (options : VerifierOptions) (record : EmailOtpChallengeRecord)

def emailOtpRegistrationChallengeBindingMismatchCode
    (providerSubject walletId orgId ownerProofBindingDigest proofEmail : String) :
    Option String :=
  if record.challengeSubjectId ≠ providerSubject then some "challenge_subject_mismatch"
  else if options.toLowerCase (trim record.email) ≠ proofEmail then
    some "challenge_email_mismatch"
  else if record.orgId.getD "" ≠ orgId then some "challenge_org_mismatch"
  else if record.purpose ≠ .registration then some "challenge_purpose_mismatch"
  else if record.walletId ≠ walletId then some "challenge_wallet_mismatch"
  else if record.ownerProofBindingDigest ≠ ownerProofBindingDigest then
    some "challenge_session_mismatch"
  else none

/-- The challenge a call may compare its code with. -/
def readChallenge (challengeId : String) (nowMs : ℕ) : Verify EmailOtpChallengeRecord := do
  run (.deleteExpiredChallenges nowMs)
  match ← run (.selectChallenge challengeId) with
  | none => emailOtpChallengeInvalidOrExpired
  | some record =>
    if record.expiresAtMs < nowMs then
      run (.deleteChallenge record.challengeId)
      emailOtpChallengeInvalidOrExpired
    else pure record

def requireBinding (mismatch : Option String) : Verify Unit :=
  match mismatch with
  | none => pure ()
  | some code => reject code
      "Email OTP challenge is not valid for the current owner proof binding"

/-- The challenge row after a wrong code: deleted when the attempts are used up,
otherwise rewritten with one more. -/
def countInvalidAttempt (lockedUntilMs : ℕ) : Verify VerifyFailure := do
  let nextAttemptCount := record.attemptCount + 1
  if (record.maxAttempts : ℕ) ≤ nextAttemptCount then
    run (.deleteChallenge record.challengeId)
    pure {
      code := "otp_attempts_exhausted"
      message := "Email OTP challenge exceeded the maximum number of attempts"
      attemptsRemaining := some 0
      lockedUntilMs := if lockedUntilMs = 0 then none else some lockedUntilMs }
  else
    run (.updateChallenge (emailOtpChallengeWithAttemptCount record nextAttemptCount))
    pure {
      code := "invalid_otp"
      message := "OTP code is invalid"
      attemptsRemaining := some (record.maxAttempts - nextAttemptCount) }

def recordInvalidAttempt (enrollment : EmailOtpWalletEnrollmentRecord)
    (authState : Option EmailOtpAuthStateRecord) (record : EmailOtpChallengeRecord) :
    Verify VerifyFailure := do
  let nextFailureCount := (authState.bind (·.otpFailureCount)).getD 0 + 1
  let nowMs ← run .dateNow
  let lockedUntilMs := nowMs + options.lockoutTtlMs
  putAuthStateForEnrollment enrollment {
    otpFailureCount := .put nextFailureCount
    lastOtpFailureAtMs := .put nowMs
    otpLockedUntilMs :=
      if (record.maxAttempts : ℕ) ≤ record.attemptCount + 1 ∧ lockedUntilMs ≠ 0 then
        .put lockedUntilMs else .keep }
  countInvalidAttempt record lockedUntilMs

def recordInvalidRegistrationAttempt (enrollment : Option EmailOtpWalletEnrollmentRecord)
    (authState : Option EmailOtpAuthStateRecord) (record : EmailOtpChallengeRecord) :
    Verify VerifyFailure := do
  match enrollment with
  | some enrollment => recordInvalidAttempt options enrollment authState record
  | none =>
    let nowMs ← run .dateNow
    countInvalidAttempt record (nowMs + options.lockoutTtlMs)

/-! ## Existing wallets -/

/-- The texts of a request that are not text are absent. -/
structure ExistingChallengeVerifyInput where
  userId : Option String
  walletId : Option String
  orgId : Option String
  challengeId : Option String
  otpCode : Option String
  otpChannel : Option String
  ownerProofBindingDigest : Option String
  purpose : EmailOtpChallengePurpose

inductive Consumption
  | now
  | inBatch

/-- A verified challenge; in a batch, with the row and the time its consumption is
prepared for. -/
structure ExistingChallengeVerified where
  challengeId : String
  userId : String
  walletId : String
  orgId : String
  ownerProofBindingDigest : String
  enrollment : EmailOtpWalletEnrollmentRecord
  expiresAtMs : ℕ
  consumeInBatch : Option (EmailOtpChallengeRecord × ℕ)

def consume (challengeId : String) : Verify EmailOtpChallengeRecord := do
  match ← run (.consumeChallenge challengeId) with
  | none => emailOtpChallengeInvalidOrExpired
  | some record => pure record

/-- The failure recorded for a wrong code is the answer. -/
def answerFailure {α : Type} (recorded : Verify VerifyFailure) : Verify α := do
  .fail (.returned (← recorded))

def consumeExisting (nowMs : ℕ) : Consumption → Verify (Option (EmailOtpChallengeRecord × ℕ))
  | .now => do
    let _ ← consume record.challengeId
    pure none
  | .inBatch => pure (some (record, nowMs))

def verifyExistingChallenge (input : ExistingChallengeVerifyInput)
    (consumption : Consumption) : Verify ExistingChallengeVerified := do
  let userId := toOptionalTrimmedString input.userId
  let walletId := toOptionalTrimmedString input.walletId
  let orgId := toOptionalTrimmedString input.orgId
  let challengeId := toOptionalTrimmedString input.challengeId
  let otpCode := toOptionalTrimmedString input.otpCode
  let ownerProofBindingDigest := toOptionalTrimmedString input.ownerProofBindingDigest
  require (userId ≠ "") "invalid_body" "Missing userId"
  require (walletId ≠ "") "invalid_body" "Missing walletId"
  require (orgId ≠ "") "invalid_body" "Missing orgId"
  require (challengeId ≠ "") "invalid_body" "Missing challengeId"
  require (otpCode ≠ "") "invalid_body" "Missing otpCode"
  require (toOptionalTrimmedString input.otpChannel = emailOtpChannel) "invalid_body"
    "otpChannel must be email_otp"
  require (ownerProofBindingDigest ≠ "") "invalid_body" "Missing ownerProofBindingDigest"
  consumeRateLimit
  let enrollment ← readActiveEnrollment walletId orgId userId
  let authState ← readAuthStateForEnrollment enrollment
  requireNotLocked authState
  let nowMs ← run .dateNow
  let record ← readChallenge challengeId nowMs
  requireBinding (emailOtpChallengeBindingMismatchCode record userId walletId orgId
    ownerProofBindingDigest input.purpose)
  if ← run (.compareCode record otpCode) then
    let consumeInBatch ← consumeExisting record nowMs consumption
    resetFailureState enrollment authState
    pure {
      challengeId := record.challengeId, userId, walletId, orgId
      ownerProofBindingDigest, enrollment, consumeInBatch
      expiresAtMs := record.expiresAtMs }
  else answerFailure (recordInvalidAttempt options enrollment authState record)

/-! ## Registration and recovery -/

structure RegistrationChallengeVerifyInput where
  providerSubject : Option String
  walletId : Option String
  orgId : Option String
  challengeId : Option String
  otpCode : Option String
  otpChannel : Option String
  ownerProofBindingDigest : Option String
  proofEmail : Option String

inductive RegistrationConsumption
  | singleUse
  | resumableRegistrationStart (operationId : String) (receiptExpiresAtMs : ℕ)

/-- An expired receipt is deleted and counts as absent. -/
def readRegistrationVerificationReceipt (challengeId : String) (nowMs : ℕ) :
    Verify (Option EmailOtpRegistrationVerificationReceiptV1) := do
  match ← run (.selectReceipt challengeId) with
  | none => pure none
  | some receipt =>
    if receipt.expiresAtMs ≤ nowMs then
      run (.deleteReceipt challengeId)
      pure none
    else pure (some receipt)

def receiptConflict {α : Type} : Verify α :=
  reject "verification_receipt_conflict"
    "Email OTP verification receipt belongs to another registration start"

def resetRegistrationFailureStateForReceipt
    (receipt : EmailOtpRegistrationVerificationReceiptV1) : Verify Unit := do
  match ← run (.selectEnrollment receipt.verified.walletId) with
  | none => pure ()
  | some enrollment =>
    Program.ensure (enrollment.orgId = receipt.verified.orgId)
      (.thrown "Email OTP verification receipt enrollment tenant changed")
    let state ← run (.selectAuthState enrollment.walletId)
    Program.ensure (Fits enrollment state)
      (.thrown "Email OTP auth state does not match the active enrollment")
    resetFailureState enrollment state

def sameReceipt (stored expected : EmailOtpRegistrationVerificationReceiptV1) : Prop :=
  stored.requestFingerprint = expected.requestFingerprint ∧
    stored.expiresAtMs = expected.expiresAtMs ∧ stored.verified = expected.verified

instance (stored expected : EmailOtpRegistrationVerificationReceiptV1) :
    Decidable (sameReceipt stored expected) :=
  inferInstanceAs (Decidable (_ ∧ _ ∧ _))

def receiptMatchesChallenge (challenge : EmailOtpChallengeRecord)
    (receipt : EmailOtpRegistrationVerificationReceiptV1) : Prop :=
  receipt.verified.challengeId = challenge.challengeId ∧
    receipt.verified.challengeSubjectId = challenge.challengeSubjectId ∧
    receipt.verified.walletId = challenge.walletId ∧
    some receipt.verified.orgId = challenge.orgId ∧
    receipt.verified.email = challenge.email ∧ receipt.verifiedAtMs < receipt.expiresAtMs

instance (challenge : EmailOtpChallengeRecord)
    (receipt : EmailOtpRegistrationVerificationReceiptV1) :
    Decidable (receiptMatchesChallenge challenge receipt) :=
  inferInstanceAs (Decidable (_ ∧ _ ∧ _ ∧ _ ∧ _ ∧ _))

def registrationVerificationReceiptDisposition
    (stored expected : EmailOtpRegistrationVerificationReceiptV1) : Verify Unit :=
  if sameReceipt stored expected then pure () else receiptConflict

/-- Stores the receipt and deletes the challenge in one batch. A batch that failed may
have been committed, by this call or by another: the receipt tells. -/
def consumeRegistrationWithReceipt (challenge : EmailOtpChallengeRecord)
    (receipt : EmailOtpRegistrationVerificationReceiptV1) : Verify Unit := do
  Program.ensure (receiptMatchesChallenge challenge receipt)
    (.thrown "Email OTP registration verification receipt does not match its challenge")
  match ← readRegistrationVerificationReceipt challenge.challengeId receipt.verifiedAtMs with
  | some existing => registrationVerificationReceiptDisposition existing receipt
  | none =>
    match ← (Program.ask (Statement.consumeWithReceipt challenge receipt) :
        Verify (Except String Unit)) with
    | .ok () => pure ()
    | .error message =>
      match ← readRegistrationVerificationReceipt challenge.challengeId
          receipt.verifiedAtMs with
      | some reconciled => registrationVerificationReceiptDisposition reconciled receipt
      | none =>
        match ← run (.selectChallenge challenge.challengeId) with
        | none => emailOtpChallengeInvalidOrExpired
        | some _ => .fail (.thrown message)

def readExistingEnrollment (walletId orgId providerSubject : String)
    (recoveryBootstrap : Bool) : Verify (Option EmailOtpWalletEnrollmentRecord) := do
  match ← run (.selectEnrollment walletId) with
  | none => pure none
  | some enrollment =>
    require (enrollment.orgId = orgId) "tenant_scope_mismatch"
      "Email OTP enrollment does not match the requested orgId"
    require (recoveryBootstrap = true → enrollment.providerUserId = providerSubject)
      "provider_identity_mismatch"
      "Email OTP enrollment does not match the requested provider user"
    pure (some enrollment)

def readExistingAuthState : Option EmailOtpWalletEnrollmentRecord →
    Verify (Option EmailOtpAuthStateRecord)
  | none => pure none
  | some enrollment => readAuthStateForEnrollment enrollment

def resetExistingFailureState (enrollment : Option EmailOtpWalletEnrollmentRecord)
    (authState : Option EmailOtpAuthStateRecord) : Verify Unit :=
  match enrollment with
  | none => pure ()
  | some enrollment => resetFailureState enrollment authState

/-- What the two kinds of calls compare a challenge with. -/
def registrationBindingMismatchCode
    (providerSubject walletId orgId ownerProofBindingDigest proofEmail : String)
    (recoveryBootstrap : Bool) : Option String :=
  if recoveryBootstrap then
    (emailOtpChallengeBindingMismatchCode record providerSubject walletId orgId
      ownerProofBindingDigest .recoveryBootstrap).or
      (if record.email ≠ proofEmail then some "challenge_email_mismatch" else none)
  else emailOtpRegistrationChallengeBindingMismatchCode options record providerSubject
    walletId orgId ownerProofBindingDigest proofEmail

def consumeRegistration (walletId orgId : String) (nowMs : ℕ) (requestFingerprint : String) :
    RegistrationConsumption → Verify EmailOtpChallengeRecord
  | .singleUse => consume record.challengeId
  | .resumableRegistrationStart _ receiptExpiresAtMs => do
    consumeRegistrationWithReceipt record {
      requestFingerprint
      verified := {
        challengeId := record.challengeId
        challengeSubjectId := record.challengeSubjectId
        walletId, orgId
        email := record.email }
      verifiedAtMs := nowMs
      expiresAtMs := receiptExpiresAtMs }
    pure record

def verifyRegistrationChallenge
    (providerSubject walletId orgId challengeId otpCode ownerProofBindingDigest proofEmail
      requestFingerprint : String)
    (recoveryBootstrap : Bool) (consumption : RegistrationConsumption) :
    Verify RegistrationVerification := do
  consumeRateLimit
  let existingEnrollment ←
    readExistingEnrollment walletId orgId providerSubject recoveryBootstrap
  let authState ← readExistingAuthState existingEnrollment
  requireNotLocked authState
  let nowMs ← run .dateNow
  let record ← readChallenge challengeId nowMs
  let resolvedProviderSubject :=
    if providerSubject = "" then record.challengeSubjectId else providerSubject
  requireBinding (registrationBindingMismatchCode options record resolvedProviderSubject
    walletId orgId ownerProofBindingDigest proofEmail recoveryBootstrap)
  if ← run (.compareCode record otpCode) then
    let consumed ←
      consumeRegistration record walletId orgId nowMs requestFingerprint consumption
    resetExistingFailureState existingEnrollment authState
    pure {
      challengeId := consumed.challengeId
      challengeSubjectId := resolvedProviderSubject
      walletId, orgId
      email := consumed.email }
  else
    answerFailure (recordInvalidRegistrationAttempt options existingEnrollment authState record)

/-- A registration that was verified before is answered from its receipt. -/
def verifyWithReceipt (challengeId requestFingerprint : String)
    (consumption : RegistrationConsumption) (verify : Verify RegistrationVerification) :
    Verify RegistrationVerification :=
  match consumption with
  | .singleUse => verify
  | .resumableRegistrationStart _ receiptExpiresAtMs => do
    let nowMs ← run .dateNow
    match ← readRegistrationVerificationReceipt challengeId nowMs with
    | none => verify
    | some receipt =>
      if receipt.requestFingerprint ≠ requestFingerprint ∨
          receipt.expiresAtMs ≠ receiptExpiresAtMs then receiptConflict
      else
        resetRegistrationFailureStateForReceipt receipt
        pure receipt.verified

def RegistrationConsumption.operationId : RegistrationConsumption → String
  | .singleUse => ""
  | .resumableRegistrationStart operationId _ => operationId

def verifyRegistrationWithConsumption
    (input : RegistrationChallengeVerifyInput) (recoveryBootstrap : Bool)
    (consumption : RegistrationConsumption) : Verify RegistrationVerification := do
  let providerSubject := toOptionalTrimmedString input.providerSubject
  let walletId := toOptionalTrimmedString input.walletId
  let orgId := toOptionalTrimmedString input.orgId
  let challengeId := toOptionalTrimmedString input.challengeId
  let otpCode := toOptionalTrimmedString input.otpCode
  let ownerProofBindingDigest := toOptionalTrimmedString input.ownerProofBindingDigest
  let proofEmail := options.toLowerCase (toOptionalTrimmedString input.proofEmail)
  require (walletId ≠ "") "invalid_body" "Missing walletId"
  require (orgId ≠ "") "invalid_body" "Missing orgId"
  require (challengeId ≠ "") "invalid_body" "Missing challengeId"
  require (otpCode ≠ "") "invalid_body" "Missing otpCode"
  require (toOptionalTrimmedString input.otpChannel = emailOtpChannel) "invalid_body"
    "otpChannel must be email_otp"
  require (ownerProofBindingDigest ≠ "") "invalid_body" "Missing ownerProofBindingDigest"
  require (proofEmail ≠ "") "invalid_body" "Email OTP registration requires proofEmail"
  require (recoveryBootstrap = true → providerSubject ≠ "") "invalid_body"
    "Email OTP recovery requires providerSubject"
  let requestFingerprint := options.emailOtpRegistrationVerificationFingerprint {
    operationId := consumption.operationId
    providerSubject := if providerSubject = "" then walletId else providerSubject
    walletId, orgId, challengeId, otpCode, ownerProofBindingDigest, proofEmail }
  verifyWithReceipt challengeId requestFingerprint consumption
    (verifyRegistrationChallenge options providerSubject walletId orgId challengeId otpCode
      ownerProofBindingDigest proofEmail requestFingerprint recoveryBootstrap consumption)

/-- The expiry is absent if it is not a whole number. -/
def requireReceiptExpiry (receiptExpiresAtMs : Option ℕ) : Verify ℕ := do
  let nowMs ← run .dateNow
  match receiptExpiresAtMs.filter (nowMs < ·) with
  | none => reject "invalid_body" "Verification receipt expiry must be in the future"
  | some expiresAtMs => pure expiresAtMs

def verifyRegistrationResumable
    (input : RegistrationChallengeVerifyInput) (operationId : Option String)
    (receiptExpiresAtMs : Option ℕ) : Verify RegistrationVerification := do
  let operationId := toOptionalTrimmedString operationId
  require (operationId ≠ "") "invalid_body" "Missing verification operationId"
  let expiresAtMs ← requireReceiptExpiry receiptExpiresAtMs
  verifyRegistrationWithConsumption options input false
    (.resumableRegistrationStart operationId expiresAtMs)

/-! ## Calls -/

inductive VerifyCall
  | existing (input : ExistingChallengeVerifyInput)
  | existingForBatch (input : ExistingChallengeVerifyInput)
  | registration (input : RegistrationChallengeVerifyInput)
  | registrationResumable (input : RegistrationChallengeVerifyInput)
      (operationId : Option String) (receiptExpiresAtMs : Option ℕ)
  | recoveryBootstrap (input : RegistrationChallengeVerifyInput)

inductive Verified
  | existing (verified : ExistingChallengeVerified)
  | registration (verified : RegistrationVerification)

def VerifyCall.challengeId : VerifyCall → String
  | existing input | existingForBatch input => toOptionalTrimmedString input.challengeId
  | registration input | recoveryBootstrap input | registrationResumable input _ _ =>
    toOptionalTrimmedString input.challengeId

def catchInternal {α : Type} (fallback : String) (p : Verify α) :
    Program Statement Statement.Answer VerifyFailure α :=
  p.handle fun
    | .returned failure => .fail failure
    | .thrown message => .fail {
        code := "internal"
        message := if message = "" then fallback else message }

def VerifyCall.program : VerifyCall → Program Statement Statement.Answer VerifyFailure Verified
  | existing input => catchInternal "Failed to verify Email OTP challenge"
      (.existing <$> verifyExistingChallenge options input .now)
  | existingForBatch input => catchInternal "Failed to verify Email OTP challenge"
      (.existing <$> verifyExistingChallenge options input .inBatch)
  | registration input => catchInternal "Failed to verify Email OTP enrollment challenge"
      (.registration <$> verifyRegistrationWithConsumption options input false .singleUse)
  | registrationResumable input operationId receiptExpiresAtMs =>
    catchInternal "Failed to verify Email OTP enrollment challenge" (.registration <$>
        verifyRegistrationResumable options input operationId receiptExpiresAtMs)
  | recoveryBootstrap input =>
    catchInternal "Failed to verify Email OTP enrollment challenge"
      (.registration <$> verifyRegistrationWithConsumption options input true .singleUse)

/-! ## Concurrent calls -/

abbrev VerifyThread : Type := Thread Statement Statement.Answer VerifyFailure Verified

/-- The database, the calls under way and answered, and the calls whose batch was
committed, each with the challenge it consumed. -/
structure OtpState where
  db : Db
  threads : List VerifyThread
  committed : List (ℕ × String)

inductive OtpEvent
  | tick (nowMs : ℕ)
  | call (call : VerifyCall)
  /-- The next statement of call `i`. -/
  | statement (i : ℕ) (outside : Outside)
  /-- The caller of call `i` commits the batch that consumes the challenge. -/
  | commit (i : ℕ)

/-- The consumption that call `i` left to a batch of its caller. -/
def OtpState.prepared (state : OtpState) (i : ℕ) : Option (EmailOtpChallengeRecord × ℕ) := do
  let thread ← state.threads[i]?
  match thread.rest.result? with
  | some (.ok (.existing verified)) => verified.consumeInBatch
  | _ => none

def step (state : OtpState) : OtpEvent → Option OtpState
  | .tick nowMs =>
    if state.db.nowMs ≤ nowMs then some { state with db := { state.db with nowMs } }
    else none
  | .call call =>
    some { state with threads := state.threads ++ [Thread.start (call.program options)] }
  | .statement i outside => do
    let thread ← state.threads[i]?
    let (thread, db) ← thread.step database outside state.db
    some { state with threads := state.threads.set i thread, db }
  | .commit i => do
    let (record, nowMs) ← state.prepared i
    if state.db.holdsExactly record nowMs then
      some { state with
        db := { state.db with
          challenges := state.db.challenges.delete record.challengeId }
        committed := state.committed ++ [(i, record.challengeId)] }
    -- The guard aborts the batch.
    else some state

end SeamsWallet.EmailOtp
