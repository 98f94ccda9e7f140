import SeamsWallet.Authorization.OperationStatements

/-!
# Statements on wallet sessions

The batch that issues a wallet session and retires its predecessors, the batches that
retire the sessions of a sign-in method or of an authority, and the statements that
issue and redeem a hosted exchange code. All three retirements close the sessions they
select in the same four statements.
-/

namespace SeamsWallet.Authorization

open Library

/-! ## Retirement -/

/-- The sessions a retirement selects, by the tables as they stand. The statements of one
retirement select the same ones: what they change does not matter. -/
structure Retirement where
  context : D1AuthorizationContext
  tenantId : String
  nowMs : ℕ
  selects : Database → WalletSessionRow → Bool
  steady : ∀ (db : Database) quotas exchanges credentials,
    quotas.map WalletSessionQuotaRow.key = db.quotas.map WalletSessionQuotaRow.key →
      selects { db with quotas, exchanges, credentials } = selects db

variable (retirement : Retirement) (db : Database)

/-- The session belongs to the scope and tenant of the retirement and is selected. -/
def Retirement.retires (session : WalletSessionRow) : Bool :=
  session.nameSpace = retirement.context.nameSpace &&
    session.scope = retirement.context.scope && session.tenantId = retirement.tenantId &&
    session.retiredAtMs.isNone && retirement.selects db session

def Retirement.exhaustQuotas : Database :=
  { db with quotas := db.quotas.map fun quota =>
      if quota.key.nameSpace = retirement.context.nameSpace ∧
          quota.key.tenantId = retirement.tenantId ∧
          db.sessions.any (fun session => retirement.retires db session &&
            session.quotaId = quota.key.quotaId) then
        { quota with remainingUses := 0 }
      else quota }

def Retirement.parentSelected (hosted : SessionIdentity) : Bool :=
  db.sessions.any fun session => session.toSessionIdentity = hosted &&
    retirement.retires db session

def Retirement.deleteHostedExchanges : Database :=
  { db with exchanges := db.exchanges.filter fun exchange =>
      !(exchange.lifecycle = .issued &&
        retirement.parentSelected db exchange.toSessionIdentity) }

def Retirement.retireHostedCredentials : Database :=
  { db with credentials := db.credentials.map fun credential =>
      if credential.retiredAtMs.isNone &&
          retirement.parentSelected db credential.toSessionIdentity then
        { credential with retiredAtMs := some (max credential.issuedAtMs retirement.nowMs) }
      else credential }

def Retirement.retireSessions : Database :=
  { db with sessions := db.sessions.map fun session =>
      if retirement.retires db session then
        { session with retiredAtMs := some (max session.issuedAtMs retirement.nowMs) }
      else session }

def Retirement.run : Database :=
  retirement.retireSessions (retirement.retireHostedCredentials
    (retirement.deleteHostedExchanges (retirement.exhaustQuotas db)))

def prepareRetireWalletSessionAuthorizationsForAuthMethod (context : D1AuthorizationContext)
    (tenantId walletId walletAuthMethodId : String) (nowMs : ℕ) : Retirement where
  context := context
  tenantId := tenantId
  nowMs := nowMs
  selects := fun _ session =>
    session.walletId = walletId && session.walletAuthMethodId = walletAuthMethodId
  steady := fun _ _ _ _ _ => rfl

def Database.remainingMethod (context : D1AuthorizationContext) (walletId authorityId : String) :
    Bool :=
  db.authMethods.any fun method => method.nameSpace = context.nameSpace ∧
    method.scope = context.scope ∧ method.walletId = walletId ∧
    method.walletAuthorityId = authorityId ∧ method.active

def prepareRetireWalletSessionAuthorizationsV2ForAuthority (context : D1AuthorizationContext)
    (tenantId walletId authorityId : String) (nowMs : ℕ) : Retirement where
  context := context
  tenantId := tenantId
  nowMs := nowMs
  selects := fun db session => session.walletId = walletId &&
    session.authorityId = authorityId && !db.remainingMethod context walletId authorityId
  steady := fun _ _ _ _ _ => rfl

/-! ## Issuance -/

structure WalletSessionAuthorizationV2 where
  tenantId : String
  principalId : String
  walletId : String
  authorityId : String
  walletAuthMethodId : String
  authorityDigestB64u : String
  authorityRevocationEpoch : ℕ
  mintId : String
  authorizationId : String
  walletSessionId : String
  quotaId : String
  createdAtMs : ℕ
  expiresAtMs : ℕ

structure ActiveWalletSessionQuota where
  tenantId : String
  principalId : String
  walletSessionId : String
  quotaId : String
  remainingUses : ℕ
  expiresAtMs : ℕ

structure PersistedActiveWalletSessionAuthorizationV2 where
  session : WalletSessionAuthorizationV2
  quota : ActiveWalletSessionQuota
  primaryOperationCredentialDigestB64u : String

structure WalletSessionIssuance where
  context : D1AuthorizationContext
  persisted : PersistedActiveWalletSessionAuthorizationV2

namespace WalletSessionIssuance

variable (issuance : WalletSessionIssuance)

def sessionRow : WalletSessionRow where
  nameSpace := issuance.context.nameSpace
  scope := issuance.context.scope
  tenantId := issuance.persisted.session.tenantId
  authorizationId := issuance.persisted.session.authorizationId
  walletSessionId := issuance.persisted.session.walletSessionId
  quotaId := issuance.persisted.session.quotaId
  principalId := issuance.persisted.session.principalId
  walletId := issuance.persisted.session.walletId
  authorityId := issuance.persisted.session.authorityId
  walletAuthMethodId := issuance.persisted.session.walletAuthMethodId
  mintId := issuance.persisted.session.mintId
  authorityDigestB64u := issuance.persisted.session.authorityDigestB64u
  authorityRevocationEpoch := issuance.persisted.session.authorityRevocationEpoch
  issuedAtMs := issuance.persisted.session.createdAtMs
  expiresAtMs := issuance.persisted.session.expiresAtMs
  retiredAtMs := none
  operationCredentialHash := some issuance.persisted.primaryOperationCredentialDigestB64u

def quotaRow : WalletSessionQuotaRow where
  key := ⟨issuance.context.nameSpace, issuance.persisted.quota.tenantId,
    issuance.persisted.quota.quotaId⟩
  walletSessionId := issuance.persisted.quota.walletSessionId
  principalId := issuance.persisted.quota.principalId
  remainingUses := issuance.persisted.quota.remainingUses
  expiresAtMs := issuance.persisted.quota.expiresAtMs

variable (db : Database)

/-- The authority and the method of the session are active in the signer's scope. -/
def provenanceActive : Bool :=
  db.provenanceActive { issuance.sessionRow with
    nameSpace := issuance.context.walletSignerScope.nameSpace }

def sessionIdentityAvailable : Bool :=
  issuance.provenanceActive db &&
  (db.executions.any fun execution => execution.nameSpace = issuance.context.nameSpace ∧
    execution.scope = issuance.context.scope ∧
    execution.walletId = issuance.persisted.session.walletId ∧
    (execution.state = .registering ∨ execution.state = .active)) &&
  !(db.sessions.any fun existing => existing.nameSpace = issuance.context.nameSpace ∧
    existing.scope = issuance.context.scope ∧
    existing.tenantId = issuance.persisted.session.tenantId ∧
    (existing.authorizationId = issuance.persisted.session.authorizationId ∨
      existing.mintId = issuance.persisted.session.mintId ∨
      existing.walletSessionId = issuance.persisted.session.walletSessionId ∨
      existing.quotaId = issuance.persisted.session.quotaId))

def identityAvailable : Bool :=
  issuance.sessionIdentityAvailable db &&
  !(db.quotas.any fun quota => quota.key = ⟨issuance.context.nameSpace,
    issuance.persisted.session.tenantId, issuance.persisted.session.quotaId⟩)

/-- The sessions of the same wallet, authority and method from other mints. -/
def predecessors : Retirement where
  context := issuance.context
  tenantId := issuance.persisted.session.tenantId
  nowMs := issuance.persisted.session.createdAtMs
  selects := fun db session =>
    session.walletId = issuance.persisted.session.walletId &&
      session.authorityId = issuance.persisted.session.authorityId &&
      session.walletAuthMethodId = issuance.persisted.session.walletAuthMethodId &&
      session.mintId ≠ issuance.persisted.session.mintId && issuance.identityAvailable db
  steady := by
    intro db quotas exchanges credentials hkeys
    have havailable : issuance.identityAvailable { db with quotas, exchanges, credentials } =
        issuance.identityAvailable db := by
      have hany (key : QuotaKey) : quotas.any (·.key = key) = db.quotas.any (·.key = key) := by
        rw [← Function.comp_def (decide <| · = key), ← List.any_map, hkeys, List.any_map]
      exact congrArg (_ && !·) (hany _)
    simp only [havailable]

def insertQuota : ℕ × Database :=
  let row := issuance.quotaRow
  if issuance.identityAvailable db && db.quotas.all (fun quota => quota.key ≠ row.key ∧
      (quota.key.nameSpace ≠ row.key.nameSpace ∨ quota.key.tenantId ≠ row.key.tenantId ∨
        quota.walletSessionId ≠ row.walletSessionId)) then
    (1, { db with quotas := db.quotas ++ [row] })
  else (0, db)

/-- The keys of the session table that the availability does not cover, and its checks on
identifiers and times. -/
def sessionInsertable : Bool :=
  let row := issuance.sessionRow
  (db.sessions.all fun existing => existing.nameSpace ≠ row.nameSpace ∨
    existing.scope ≠ row.scope ∨ existing.tenantId ≠ row.tenantId ∨
    ((existing.retiredAtMs.isSome ∨ existing.walletId ≠ row.walletId ∨
        existing.authorityId ≠ row.authorityId ∨
        existing.walletAuthMethodId ≠ row.walletAuthMethodId) ∧
      existing.operationCredentialHash ≠ row.operationCredentialHash)) &&
  row.authorizationId ≠ row.walletSessionId && row.authorizationId ≠ row.quotaId &&
  row.walletSessionId ≠ row.quotaId && decide (row.issuedAtMs < row.expiresAtMs)

/-- `INSERT OR IGNORE` of the session, which needs its quota unused. -/
def insertSession : ℕ × Database :=
  if issuance.sessionIdentityAvailable db &&
      db.quotas.any (fun quota => quota = issuance.quotaRow ∧ 0 < quota.remainingUses) &&
      issuance.sessionInsertable db then
    (1, { db with sessions := db.sessions ++ [issuance.sessionRow] })
  else (0, db)

/-- The changes of the quota and of the session statement, with the tables after the
batch. -/
def run : (ℕ × ℕ) × Database :=
  let retired := issuance.predecessors.run db
  let (quotaChanges, withQuota) := issuance.insertQuota retired
  let (sessionChanges, withSession) := issuance.insertSession withQuota
  ((quotaChanges, sessionChanges), withSession)

end WalletSessionIssuance

/-! ## Hosted exchange codes -/

structure IssuedHostedWalletSeamsSessionExchangeV2 where
  tenantId : String
  exchangeCodeId : String
  authorizationId : String
  walletSessionId : String
  quotaId : String
  principalId : String
  walletId : String
  authorityId : String
  walletAuthMethodId : String
  codeHash : String
  nonceDigest : String
  appOrigin : String
  walletOrigin : String
  issuedAtMs : ℕ
  expiresAtMs : ℕ

structure HostedExchangeInsert where
  context : D1AuthorizationContext
  exchange : IssuedHostedWalletSeamsSessionExchangeV2

def HostedExchangeInsert.row (insert : HostedExchangeInsert) : HostedExchangeCodeRow where
  nameSpace := insert.context.nameSpace
  scope := insert.context.scope
  tenantId := insert.exchange.tenantId
  authorizationId := insert.exchange.authorizationId
  walletSessionId := insert.exchange.walletSessionId
  quotaId := insert.exchange.quotaId
  principalId := insert.exchange.principalId
  walletId := insert.exchange.walletId
  authorityId := insert.exchange.authorityId
  walletAuthMethodId := insert.exchange.walletAuthMethodId
  exchangeCodeId := insert.exchange.exchangeCodeId
  codeHash := insert.exchange.codeHash
  nonceDigest := insert.exchange.nonceDigest
  appOrigin := insert.exchange.appOrigin
  walletOrigin := insert.exchange.walletOrigin
  issuedAtMs := insert.exchange.issuedAtMs
  expiresAtMs := insert.exchange.expiresAtMs
  lifecycle := .issued

/-- The session can parent a hosted child until the given time. -/
def Database.parents (db : Database) (hosted : SessionIdentity) (expiresAtMs : ℕ)
    (session : WalletSessionRow) : Bool :=
  session.toSessionIdentity = hosted && session.operationCredentialHash.isSome &&
    session.retiredAtMs.isNone && decide (expiresAtMs ≤ session.expiresAtMs) &&
    db.provenanceActive session

/-- A quota of the session has uses left until the given time. -/
def Database.quotaOpen (db : Database) (expiresAtMs : ℕ) (session : WalletSessionRow) : Bool :=
  db.quotas.any fun quota => quota.of session && decide (0 < quota.remainingUses) &&
    decide (expiresAtMs ≤ quota.expiresAtMs)

def Database.insertHostedExchange (db : Database) (insert : HostedExchangeInsert) :
    Except String (ℕ × Database) := do
  let row := insert.row
  if db.sessions.any (fun session =>
      db.parents row.toSessionIdentity row.expiresAtMs session &&
        db.quotaOpen row.expiresAtMs session) then
    ensure (db.exchanges.all fun other => other.nameSpace ≠ row.nameSpace ∨
        other.scope ≠ row.scope ∨ other.tenantId ≠ row.tenantId ∨
        (other.exchangeCodeId ≠ row.exchangeCodeId ∧ other.codeHash ≠ row.codeHash ∧
          other.nonceDigest ≠ row.nonceDigest))
      "UNIQUE constraint failed: wallet_session_hosted_exchange_codes_v2"
    pure (1, { db with exchanges := db.exchanges ++ [row] })
  else pure (0, db)

structure RedeemHostedWalletSeamsSessionExchangeV2Input where
  codeHash : String
  nonceDigest : String
  appOrigin : String
  walletOrigin : String
  tokenHash : String
  hostedCredentialId : String
  redeemedAtMs : ℕ

/-- An exchange code with its session and quota, as a redemption reads them. -/
structure HostedWalletExchangeV2Row where
  exchange : HostedExchangeCodeRow
  session : Option WalletSessionRow
  quota : Option WalletSessionQuotaRow

def Database.readHostedWalletExchangeV2 (db : Database) (context : D1AuthorizationContext)
    (codeHash : String) : Option HostedWalletExchangeV2Row :=
  (db.exchanges.find? fun exchange => exchange.nameSpace = context.nameSpace ∧
    exchange.scope = context.scope ∧ exchange.codeHash = codeHash).map fun exchange =>
      { exchange
        session := db.sessions.find? fun session =>
          session.toSessionIdentity = exchange.toSessionIdentity
        quota := db.quotas.find? fun quota => quota.key = exchange.quotaKey ∧
          quota.walletSessionId = exchange.walletSessionId ∧
          quota.principalId = exchange.principalId }

structure HostedRedemption where
  context : D1AuthorizationContext
  input : RedeemHostedWalletSeamsSessionExchangeV2Input
  current : HostedExchangeCodeRow

namespace HostedRedemption

variable (redemption : HostedRedemption)

def redeems (exchange : HostedExchangeCodeRow) : Bool :=
  exchange.nameSpace = redemption.context.nameSpace &&
    exchange.scope = redemption.context.scope &&
    exchange.tenantId = redemption.current.tenantId &&
    exchange.codeHash = redemption.input.codeHash &&
    exchange.nonceDigest = redemption.input.nonceDigest &&
    exchange.appOrigin = redemption.input.appOrigin &&
    exchange.walletOrigin = redemption.input.walletOrigin &&
    exchange.lifecycle = .issued && decide (redemption.input.redeemedAtMs < exchange.expiresAtMs)

def credential (exchange : HostedExchangeCodeRow) : HostedCredentialRow where
  toSessionIdentity := exchange.toSessionIdentity
  hostedCredentialId := redemption.input.hostedCredentialId
  credentialDigestB64u := redemption.input.tokenHash
  appOrigin := exchange.appOrigin
  walletOrigin := exchange.walletOrigin
  issuedAtMs := exchange.issuedAtMs
  expiresAtMs := exchange.expiresAtMs
  retiredAtMs := none

variable (db : Database) (exchange : HostedExchangeCodeRow)

/-- The exchange's session and quota allow a credential. -/
def open? (session : WalletSessionRow) : Bool :=
  db.parents exchange.toSessionIdentity exchange.expiresAtMs session &&
    db.quotaOpen exchange.expiresAtMs session

def insertCredential : Except String (ℕ × Database) :=
  match db.exchanges.find? fun exchange => redemption.redeems exchange &&
      db.sessions.any (open? db exchange) with
  | none => pure (0, db)
  | some exchange => do
    let row := redemption.credential exchange
    ensure (db.credentials.all fun other => other.nameSpace ≠ row.nameSpace ∨
        other.scope ≠ row.scope ∨ other.tenantId ≠ row.tenantId ∨
        (other.hostedCredentialId ≠ row.hostedCredentialId ∧
          other.credentialDigestB64u ≠ row.credentialDigestB64u))
      "UNIQUE constraint failed: wallet_session_hosted_credentials_v2"
    pure (1, { db with credentials := db.credentials ++ [row] })

/-- The exchange is consumed by the update: its session lives and the credential is
there. -/
def consumes : Bool :=
  redemption.redeems exchange &&
  (db.sessions.any fun session => open? db exchange session &&
    decide (redemption.input.redeemedAtMs < session.expiresAtMs)) &&
  db.credentials.any fun credential =>
    credential.toSessionIdentity = exchange.toSessionIdentity &&
      credential.hostedCredentialId = redemption.input.hostedCredentialId &&
      credential.credentialDigestB64u = redemption.input.tokenHash &&
      credential.retiredAtMs.isNone && decide (exchange.expiresAtMs ≤ credential.expiresAtMs)

def consume : HostedExchangeCodeRow :=
  let lifecycle := .consumed redemption.input.hostedCredentialId redemption.input.redeemedAtMs
  { exchange with lifecycle }

def updateExchange : ℕ × Database :=
  (db.exchanges.countP (redemption.consumes db),
    { db with exchanges := db.exchanges.map fun exchange =>
        if redemption.consumes db exchange then redemption.consume exchange else exchange })

/-- The credential this batch inserted, if the exchange was not consumed after all. -/
def deleteOrphanedCredential : Database :=
  { db with credentials := db.credentials.filter fun credential =>
      !(credential.nameSpace = redemption.context.nameSpace &&
        credential.scope = redemption.context.scope &&
        credential.toSessionIdentity = { redemption.current.toSessionIdentity with
          nameSpace := redemption.context.nameSpace, scope := redemption.context.scope } &&
        credential.hostedCredentialId = redemption.input.hostedCredentialId &&
        credential.credentialDigestB64u = redemption.input.tokenHash &&
        db.exchanges.any fun exchange => exchange.nameSpace = credential.nameSpace ∧
          exchange.scope = credential.scope ∧ exchange.tenantId = credential.tenantId ∧
          exchange.codeHash = redemption.input.codeHash ∧ exchange.lifecycle = .issued) }

/-- The changes of the insert and of the update, with the tables after the batch. -/
def run : Except String ((ℕ × ℕ) × Database) := do
  let (inserted, withCredential) ← redemption.insertCredential db
  let (updated, consumed) := redemption.updateExchange withCredential
  pure ((inserted, updated), redemption.deleteOrphanedCredential consumed)

end HostedRedemption

end SeamsWallet.Authorization
