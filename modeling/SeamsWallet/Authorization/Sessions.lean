import SeamsWallet.Authorization.Operations

/-!
# Issuing, retiring and exchanging wallet sessions

A session is issued and retired by one batch each. A hosted exchange code is redeemed
in two steps: it is read and classified, then a batch creates the credential and
consumes the code, which may have changed in between.
-/

namespace SeamsWallet.Authorization

open Library

/-! ## Issuance and retirement -/

def requireExactWalletSessionAuthorizationV2Quota
    (persisted : PersistedActiveWalletSessionAuthorizationV2) : Except String Unit :=
  ensure (persisted.session.tenantId = persisted.quota.tenantId ∧
      persisted.session.principalId = persisted.quota.principalId ∧
      persisted.session.walletSessionId = persisted.quota.walletSessionId ∧
      persisted.session.quotaId = persisted.quota.quotaId ∧
      persisted.session.expiresAtMs = persisted.quota.expiresAtMs)
    "V2 Wallet Session authorization and quota must have one exact identity"

/-- Whether the session was inserted, or the mint had been committed before. -/
inductive DirectV2CommitResult
  | inserted
  | alreadyCommitted
  deriving DecidableEq

section Sessions

variable (context : D1AuthorizationContext)

def commitDirectWalletSessionAuthorizationV2
    (persisted : PersistedActiveWalletSessionAuthorizationV2) : Store DirectV2CommitResult := do
  Program.ofExcept (requireExactWalletSessionAuthorizationV2Quota persisted)
  let _ ← Program.ofExcept
    (requirePositiveInteger persisted.session.createdAtMs "Direct V2 issuance time")
  let _ ← Program.ofExcept
    (requirePositiveInteger persisted.quota.remainingUses "Direct V2 quota.remainingUses")
  let _ ← Program.ofExcept
    (requirePositiveInteger persisted.quota.expiresAtMs "Direct V2 quota.expiresAtMs")
  let (quotaChanges, sessionChanges) ← run (.issuanceBatch { context, persisted })
  Program.ensure (quotaChanges = sessionChanges)
    "Direct V2 Wallet Session transaction persisted an incomplete identity"
  pure (if sessionChanges = 0 then .alreadyCommitted else .inserted)

def retireWalletSessionAuthorizationsForAuthMethod
    (tenantId walletId walletAuthMethodId : String) (nowMs : ℕ) : Store Unit := do
  let _ ← Program.ofExcept (requirePositiveInteger nowMs "auth-method session retirement time")
  run (.retirementBatch (prepareRetireWalletSessionAuthorizationsForAuthMethod context
    tenantId walletId walletAuthMethodId nowMs))

def retireWalletSessionAuthorizationsV2ForAuthority
    (tenantId walletId authorityId : String) (nowMs : ℕ) : Store Unit := do
  let _ ← Program.ofExcept (requirePositiveInteger nowMs "authority session revocation time")
  run (.retirementBatch (prepareRetireWalletSessionAuthorizationsV2ForAuthority context
    tenantId walletId authorityId nowMs))

/-! ## Hosted exchange codes -/

inductive HostedExchangeRejection
  | invalidCode
  | alreadyConsumed
  | expired
  | nonceMismatch
  | appOriginMismatch
  | walletOriginMismatch
  | walletSessionUnavailable
  deriving DecidableEq

structure RedeemedHostedExchange where
  tenantId : String
  authorizationId : String
  walletSessionId : String
  hostedCredentialId : String
  expiresAtMs : ℕ
  deriving DecidableEq

inductive HostedExchangeResult
  | redeemed (exchange : RedeemedHostedExchange)
  | rejected (rejection : HostedExchangeRejection)
  deriving DecidableEq

/-- The session and the quota of the code allow a redemption at the given time. -/
def HostedWalletExchangeV2Row.available (row : HostedWalletExchangeV2Row) (nowMs : ℕ) : Bool :=
  (row.session.any fun session => session.operationCredentialHash.isSome &&
    session.retiredAtMs.isNone && decide (nowMs < session.expiresAtMs) &&
    decide (row.exchange.expiresAtMs ≤ session.expiresAtMs)) &&
  row.quota.any fun quota => decide (0 < quota.remainingUses) &&
    decide (nowMs < quota.expiresAtMs) &&
    decide (row.exchange.expiresAtMs ≤ quota.expiresAtMs)

def classifyHostedWalletExchangeV2 (row : Option HostedWalletExchangeV2Row)
    (input : RedeemHostedWalletSeamsSessionExchangeV2Input) : Option HostedExchangeRejection :=
  match row with
  | none => some .invalidCode
  | some row =>
    if row.exchange.lifecycle ≠ .issued then some .alreadyConsumed
    else if row.exchange.expiresAtMs ≤ input.redeemedAtMs then some .expired
    else if row.exchange.nonceDigest ≠ input.nonceDigest then some .nonceMismatch
    else if row.exchange.appOrigin ≠ input.appOrigin then some .appOriginMismatch
    else if row.exchange.walletOrigin ≠ input.walletOrigin then some .walletOriginMismatch
    else if row.available input.redeemedAtMs then none
    else some .walletSessionUnavailable

def putIssuedHostedWalletSeamsSessionExchange
    (exchange : IssuedHostedWalletSeamsSessionExchangeV2) : Store Unit := do
  let _ ← Program.ofExcept (requirePositiveInteger exchange.issuedAtMs "exchange.issuedAtMs")
  let _ ← Program.ofExcept (requirePositiveInteger exchange.expiresAtMs "exchange.expiresAtMs")
  let changes ← run (.exchangeInsert { context, exchange })
  Program.ensure (changes = 1) "hosted-wallet Seams session exchange code was not persisted"

/-- The batch of a redemption: redeemed if both rows changed, otherwise what a new read
says. -/
def redeemExchange (input : RedeemHostedWalletSeamsSessionExchangeV2Input)
    (current : HostedExchangeCodeRow) : Store HostedExchangeResult := do
  let _ ← Program.ofExcept (requirePositiveInteger input.redeemedAtMs "exchange.redeemedAtMs")
  let changes ← run (.redemptionBatch { context, input, current })
  if changes = (1, 1) then
    pure (.redeemed {
      tenantId := current.tenantId
      authorizationId := current.authorizationId
      walletSessionId := current.walletSessionId
      hostedCredentialId := input.hostedCredentialId
      expiresAtMs := current.expiresAtMs })
  else do
    let row ← run (.exchangeRead context input.codeHash)
    pure (.rejected ((classifyHostedWalletExchangeV2 row input).getD .walletSessionUnavailable))

/-- The publication of the credential's locator, between the two steps, touches none of
the tables and is left out. -/
def redeemHostedWalletSeamsSessionExchange
    (input : RedeemHostedWalletSeamsSessionExchangeV2Input) : Store HostedExchangeResult := do
  let row ← run (.exchangeRead context input.codeHash)
  match classifyHostedWalletExchangeV2 row input, row with
  | some rejection, _ => pure (.rejected rejection)
  | none, none => .fail "hosted-wallet exchange disappeared"
  | none, some current =>
    Program.handle (fun _ => pure (.rejected .walletSessionUnavailable))
      (redeemExchange context input current.exchange)

end Sessions

end SeamsWallet.Authorization
