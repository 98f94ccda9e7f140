import Mathlib.Data.PNat.Basic
import SeamsWallet.Library.Dict
import SeamsWallet.Library.Threads

/-!
# The email OTP tables and their statements

The rows an email OTP verification reads and writes, and the database statements
it is made of. A statement is atomic; it may fail before it takes effect, and its
answer may be lost after it took effect. Two steps of the verifier that are not
statements are listed with them: reading the clock and comparing a code, the
latter so that comparisons can be counted.
-/

namespace SeamsWallet.EmailOtp

open Library

inductive EmailOtpLoginChallengeOperation
  | walletUnlock
  | transactionSign
  | exportKey
  deriving DecidableEq

/-- The valid pairs of an action and an operation. -/
inductive EmailOtpChallengePurpose
  | login (operation : EmailOtpLoginChallengeOperation)
  | registration
  | recoveryBootstrap
  | deviceLink
  | relocation
  deriving DecidableEq

/-- A challenge as reading a row accepts it: the number of attempts is positive. -/
structure EmailOtpChallengeRecord where
  challengeId : String
  challengeSubjectId : String
  walletId : String
  orgId : Option String
  email : String
  otpCode : String
  ownerProofBindingDigest : String
  purpose : EmailOtpChallengePurpose
  createdAtMs : ℕ
  expiresAtMs : ℕ
  attemptCount : ℕ
  maxAttempts : ℕ+
  deriving DecidableEq

def emailOtpChallengeWithAttemptCount (record : EmailOtpChallengeRecord) (attemptCount : ℕ) :
    EmailOtpChallengeRecord :=
  { record with attemptCount }

structure EmailOtpWalletEnrollmentRecord where
  walletId : String
  providerUserId : String
  orgId : String
  verifiedEmail : String

structure EmailOtpAuthStateRecord where
  walletId : String
  providerUserId : String
  orgId : String
  createdAtMs : ℕ
  updatedAtMs : ℕ
  otpFailureCount : Option ℕ
  lastOtpFailureAtMs : Option ℕ
  otpLockedUntilMs : Option ℕ
  lastEmailOtpLoginAtMs : Option ℕ
  lastStrongAuthAtMs : Option ℕ

structure RegistrationVerification where
  challengeId : String
  challengeSubjectId : String
  walletId : String
  orgId : String
  email : String
  deriving DecidableEq

structure EmailOtpRegistrationVerificationReceiptV1 where
  requestFingerprint : String
  verified : RegistrationVerification
  verifiedAtMs : ℕ
  expiresAtMs : ℕ

/-- The tables of one tenant, the clock, and the comparisons made so far: the
challenge that was read and whether the code agreed. -/
structure Db where
  nowMs : ℕ
  enrollments : Dict String EmailOtpWalletEnrollmentRecord
  authStates : Dict String EmailOtpAuthStateRecord
  challenges : Dict String EmailOtpChallengeRecord
  receipts : Dict String EmailOtpRegistrationVerificationReceiptV1
  comparisons : List (String × Bool)

structure RateLimited where
  retryAfterMs : Option ℕ
  resetAtMs : Option ℕ

inductive Statement
  | dateNow
  | compareCode (record : EmailOtpChallengeRecord) (otpCode : String)
  | consumeRateLimit
  | selectEnrollment (walletId : String)
  | selectAuthState (walletId : String)
  | upsertAuthState (record : EmailOtpAuthStateRecord)
  | deleteExpiredChallenges (nowMs : ℕ)
  | selectChallenge (challengeId : String)
  | deleteChallenge (challengeId : String)
  /-- The row is deleted and returned. -/
  | consumeChallenge (challengeId : String)
  | updateChallenge (record : EmailOtpChallengeRecord)
  | selectReceipt (challengeId : String)
  | deleteReceipt (challengeId : String)
  /-- The batch that stores a receipt and deletes the challenge it is for, or aborts. -/
  | consumeWithReceipt (challenge : EmailOtpChallengeRecord)
      (receipt : EmailOtpRegistrationVerificationReceiptV1)

abbrev Statement.Row : Statement → Type
  | dateNow => ℕ
  | compareCode _ _ => Bool
  | consumeRateLimit => Option RateLimited
  | selectEnrollment _ => Option EmailOtpWalletEnrollmentRecord
  | selectAuthState _ => Option EmailOtpAuthStateRecord
  | selectChallenge _ | consumeChallenge _ => Option EmailOtpChallengeRecord
  | selectReceipt _ => Option EmailOtpRegistrationVerificationReceiptV1
  | upsertAuthState _ | deleteExpiredChallenges _ | deleteChallenge _ | updateChallenge _
  | deleteReceipt _ | consumeWithReceipt _ _ => Unit

abbrev Statement.Answer (q : Statement) : Type := Except String q.Row

/-- The row is exactly the challenge the statement was prepared for, unexpired. -/
def Db.holdsExactly (db : Db) (challenge : EmailOtpChallengeRecord) (nowMs : ℕ) : Prop :=
  db.challenges.get? challenge.challengeId = some challenge ∧ nowMs < challenge.expiresAtMs

instance (db : Db) (challenge : EmailOtpChallengeRecord) (nowMs : ℕ) :
    Decidable (db.holdsExactly challenge nowMs) :=
  inferInstanceAs (Decidable (_ ∧ _))

def casGuardError : String := "UNIQUE constraint failed: cas_guard.guard_id"

/-- What a statement answers and does when nothing goes wrong on the way. -/
def Db.perform (db : Db) (rateLimited : Option RateLimited) : (q : Statement) → q.Answer × Db
  | .dateNow => (.ok db.nowMs, db)
  | .compareCode record otpCode =>
    (.ok (decide (record.otpCode = otpCode)), { db with comparisons :=
      db.comparisons ++ [(record.challengeId, decide (record.otpCode = otpCode))] })
  | .consumeRateLimit => (.ok rateLimited, db)
  | .selectEnrollment walletId => (.ok (db.enrollments.get? walletId), db)
  | .selectAuthState walletId => (.ok (db.authStates.get? walletId), db)
  | .upsertAuthState record =>
    (.ok (), { db with authStates := db.authStates.set record.walletId record })
  | .deleteExpiredChallenges nowMs =>
    (.ok (), { db with challenges := db.challenges.filter fun record =>
      nowMs < record.expiresAtMs })
  | .selectChallenge challengeId => (.ok (db.challenges.get? challengeId), db)
  | .deleteChallenge challengeId =>
    (.ok (), { db with challenges := db.challenges.delete challengeId })
  | .consumeChallenge challengeId =>
    (.ok (db.challenges.get? challengeId),
      { db with challenges := db.challenges.delete challengeId })
  | .updateChallenge record =>
    (.ok (), if (db.challenges.get? record.challengeId).isSome then
      { db with challenges := db.challenges.set record.challengeId record } else db)
  | .selectReceipt challengeId => (.ok (db.receipts.get? challengeId), db)
  | .deleteReceipt challengeId =>
    (.ok (), { db with receipts := db.receipts.delete challengeId })
  | .consumeWithReceipt challenge receipt =>
    if db.holdsExactly challenge receipt.verifiedAtMs ∧
        db.receipts.get? challenge.challengeId = none then
      (.ok (), { db with
        receipts := db.receipts.set challenge.challengeId receipt
        challenges := db.challenges.delete challenge.challengeId })
    else (.error casGuardError, db)

/-- What becomes of a statement on its way to the database and back. -/
inductive Delivery
  | answered
  | failed (message : String)
  | lost (message : String)
  deriving DecidableEq

structure Outside where
  delivery : Delivery
  rateLimited : Option RateLimited

/-- The clock and the comparison need no database. -/
def Statement.isLocal : Statement → Bool
  | dateNow | compareCode _ _ => true
  | _ => false

def Db.execute (outside : Outside) (db : Db) (q : Statement) : q.Answer × Db :=
  if q.isLocal then db.perform outside.rateLimited q
  else match outside.delivery with
    | .answered => db.perform outside.rateLimited q
    | .failed message => (.error message, db)
    | .lost message => (.error message, (db.perform outside.rateLimited q).2)

/-- Reading a challenge opens the window that the call's last statement closes. -/
def Statement.readsChallenge : Statement → Bool
  | selectChallenge _ => true
  | _ => false

def database : QuerySystem Statement Statement.Answer Outside Db where
  exec := Db.execute
  opens := Statement.readsChallenge

end SeamsWallet.EmailOtp
