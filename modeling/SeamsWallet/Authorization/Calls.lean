import SeamsWallet.Authorization.Sessions
import SeamsWallet.Library.Run

/-!
# Interleaved calls of the authorization store

Any number of calls run over one database, interleaved at their statements. Other
parts of the system write to the database as well; which tables they may touch is a
parameter of the runs.
-/

namespace SeamsWallet.Authorization

open Library

inductive AuthorizationCall
  | admitAuthorizedOperation (context : D1AuthorizationContext)
      (operation : AuthorizedOperationInput)
      (material : Option AuthorizedOperationMaterialScope)
  | admitEcdsaWalletSessionOperation (context : D1AuthorizationContext)
      (operation : AuthorizedOperationInput) (material : AuthorizedOperationMaterialScope)
      (readSnapshot : EcdsaMaterialReadSnapshot)
  | admitEd25519WalletSessionOperation (context : D1AuthorizationContext)
      (operation : AuthorizedOperationInput) (walletId : String)
  | completeAuthorizedOperation (context : D1AuthorizationContext)
      (operation : AuthorizedOperation) (result : CompletedCapabilityOperationResult)
      (response : AuthorizedOperationReplayResponse) (completedAtMs : ℕ)
  | commitDirectWalletSessionAuthorizationV2 (context : D1AuthorizationContext)
      (persisted : PersistedActiveWalletSessionAuthorizationV2)
  | retireForAuthMethod (context : D1AuthorizationContext)
      (tenantId walletId walletAuthMethodId : String) (nowMs : ℕ)
  | retireForAuthority (context : D1AuthorizationContext)
      (tenantId walletId authorityId : String) (nowMs : ℕ)
  | putIssuedHostedWalletSeamsSessionExchange (context : D1AuthorizationContext)
      (exchange : IssuedHostedWalletSeamsSessionExchangeV2)
  | redeemHostedWalletSeamsSessionExchange (context : D1AuthorizationContext)
      (input : RedeemHostedWalletSeamsSessionExchangeV2Input)

inductive CallAnswer
  | admission (result : AdmissionResult)
  | completed (operation : AuthorizedOperation)
  | committed (result : DirectV2CommitResult)
  | retired
  | exchangeIssued
  | exchange (result : HostedExchangeResult)
  deriving DecidableEq

variable (codec : OperationCodec)

def AuthorizationCall.program : AuthorizationCall → Store CallAnswer
  | .admitAuthorizedOperation context operation material =>
    CallAnswer.admission <$>
      Authorization.admitAuthorizedOperation codec context operation material
  | .admitEcdsaWalletSessionOperation context operation material readSnapshot =>
    CallAnswer.admission <$>
      Authorization.admitEcdsaWalletSessionOperation codec context operation material
        readSnapshot
  | .admitEd25519WalletSessionOperation context operation walletId =>
    CallAnswer.admission <$>
      Authorization.admitEd25519WalletSessionOperation codec context operation walletId
  | .completeAuthorizedOperation context operation result response completedAtMs =>
    CallAnswer.completed <$> Authorization.completeAuthorizedOperation codec context
      operation result response completedAtMs
  | .commitDirectWalletSessionAuthorizationV2 context persisted =>
    CallAnswer.committed <$>
      Authorization.commitDirectWalletSessionAuthorizationV2 context persisted
  | .retireForAuthMethod context tenantId walletId walletAuthMethodId nowMs =>
    (fun _ => CallAnswer.retired) <$> retireWalletSessionAuthorizationsForAuthMethod
      context tenantId walletId walletAuthMethodId nowMs
  | .retireForAuthority context tenantId walletId authorityId nowMs =>
    (fun _ => CallAnswer.retired) <$> retireWalletSessionAuthorizationsV2ForAuthority
      context tenantId walletId authorityId nowMs
  | .putIssuedHostedWalletSeamsSessionExchange context exchange =>
    (fun _ => CallAnswer.exchangeIssued) <$>
      Authorization.putIssuedHostedWalletSeamsSessionExchange context exchange
  | .redeemHostedWalletSeamsSessionExchange context input =>
    CallAnswer.exchange <$>
      Authorization.redeemHostedWalletSeamsSessionExchange context input

structure AuthorizationThread where
  call : AuthorizationCall
  rest : Store CallAnswer

structure AuthorizationState where
  db : Database
  threads : List AuthorizationThread

def AuthorizationState.answer? (state : AuthorizationState) (i : ℕ) : Option CallAnswer := do
  let thread ← state.threads[i]?
  let result ← thread.rest.result?
  result.toOption

inductive AuthorizationEvent
  | call (call : AuthorizationCall)
  | statement (i : ℕ) (outside : Outside)
  /-- Another part of the system leaves the database like this. -/
  | elsewhere (db : Database)

def step (state : AuthorizationState) : AuthorizationEvent → Option AuthorizationState
  | .call call => some { state with threads := state.threads ++ [⟨call, call.program codec⟩] }
  | .statement i outside => do
    let thread ← state.threads[i]?
    match thread.rest with
    | .query q next =>
      let (answer, db) := state.db.execute outside q
      some { db, threads := state.threads.set i ⟨thread.call, next answer⟩ }
    | _ => none
  | .elsewhere db => some { state with db }

/-- A step in which other parts of the system keep to what is given. -/
def Step (Keeps : Database → Database → Prop) (state : AuthorizationState)
    (event : AuthorizationEvent) (state' : AuthorizationState) :
    Prop :=
  step codec state event = some state' ∧
    match event with
    | .elsewhere db => Keeps state.db db
    | _ => True

inductive StepCases (codec : OperationCodec) (Keeps : Database → Database → Prop)
    (state : AuthorizationState) : AuthorizationEvent → AuthorizationState → Prop
  | call (call : AuthorizationCall) : StepCases codec Keeps state (.call call)
      { state with threads := state.threads ++ [⟨call, call.program codec⟩] }
  | statement {i : ℕ} {call : AuthorizationCall} {q : Statement}
      {next : q.Answer → Store CallAnswer} (outside : Outside)
      (hthread : state.threads[i]? = some ⟨call, .query q next⟩) :
      StepCases codec Keeps state (.statement i outside)
        { db := (state.db.execute outside q).2
          threads := state.threads.set i ⟨call, next (state.db.execute outside q).1⟩ }
  | elsewhere {db : Database} (hkeeps : Keeps state.db db) :
      StepCases codec Keeps state (.elsewhere db) { state with db }

variable {state : AuthorizationState}

theorem step_cases {codec : OperationCodec} {Keeps : Database → Database → Prop}
    {state' : AuthorizationState} {event : AuthorizationEvent}
    (h : Step codec Keeps state event state') : StepCases codec Keeps state event state' := by
  obtain ⟨hstep, hkeeps⟩ := h
  cases event with
  | call call =>
    cases hstep
    exact .call call
  | statement i outside =>
    obtain ⟨⟨call, rest⟩, hthread, hstep⟩ := Option.bind_eq_some_iff.mp hstep
    cases rest with
    | done value | fail error => cases hstep
    | query q next =>
      cases hstep
      exact .statement outside hthread
  | elsewhere db =>
    cases hstep
    exact .elsewhere hkeeps

/-! ## Runs of the calls alone -/

def AuthorizationEvent.IsOwn : AuthorizationEvent → Prop
  | .elsewhere _ => False
  | _ => True

instance (event : AuthorizationEvent) : Decidable event.IsOwn :=
  match event with
  | .elsewhere _ => inferInstanceAs (Decidable False)
  | .call _ | .statement _ _ => inferInstanceAs (Decidable True)

def runOwn (start : AuthorizationState) (events : List AuthorizationEvent) :
    Option AuthorizationState :=
  events.foldlM (fun s (e : AuthorizationEvent) => if e.IsOwn then step codec s e else none)
    start

theorem run_of_runOwn {codec : OperationCodec} (Keeps : Database → Database → Prop)
    {events : List AuthorizationEvent} {start : AuthorizationState}
    (h : runOwn codec start events = some state) : Run (Step codec Keeps) start events state := by
  have hrun : Run (fun s e s' => step codec s e = some s' ∧ e.IsOwn) start events state :=
    Run.of_foldlM h
  refine hrun.mono ?_
  rintro s e s' ⟨hstep, hown⟩
  cases e with
  | elsewhere db => cases hown
  | call | statement => exact ⟨hstep, trivial⟩

def sampleScope : WalletScope := ⟨"org", "project", "env"⟩

def sampleContext : D1AuthorizationContext :=
  ⟨"ns", { toWalletScope := sampleScope, nameSpace := "ns" }⟩

def sampleCodec : OperationCodec where
  computeCapabilityOperationFingerprintDigest := CapabilityOperationEnvelope.operationId
  computeAuthorizedOperationResultDigest := AuthorizedOperationReplayResponse.bodyText
  rowError? _ := none
  responseError? _ := none

/-- A session issued for the wallet's sign-in method, with two uses. -/
def sampleSession : PersistedActiveWalletSessionAuthorizationV2 where
  session := {
    tenantId := "tenant"
    principalId := "principal"
    walletId := "wallet"
    authorityId := "authority"
    walletAuthMethodId := "method"
    authorityDigestB64u := "digest"
    authorityRevocationEpoch := 0
    mintId := "mint"
    authorizationId := "authorization"
    walletSessionId := "session"
    quotaId := "quota"
    createdAtMs := 1
    expiresAtMs := 1000 }
  quota := {
    tenantId := "tenant"
    principalId := "principal"
    walletSessionId := "session"
    quotaId := "quota"
    remainingUses := 2
    expiresAtMs := 1000 }
  primaryOperationCredentialDigestB64u := "credential"

/-- An active wallet with an active authority and method, and no session yet. -/
def sampleState : AuthorizationState where
  db := {
    operations := []
    quotas := []
    sessions := []
    exchanges := []
    credentials := []
    evidenceSets := []
    authorities := [⟨"ns", sampleScope, "authority", "wallet", true, "digest", 0⟩]
    authMethods := [⟨"ns", sampleScope, "method", "wallet", "authority", true⟩]
    executions := [⟨"ns", sampleScope, "wallet", 1, .active⟩]
    signers := []
    installations := [] }
  threads := []

def sampleOperation (operationId : String) : AuthorizedOperationInput where
  tenantId := "tenant"
  authorizedOperationId := operationId
  auditEventId := "audit"
  claimedAtMs := 10
  operation := {
    tenantId := "tenant"
    principalId := "principal"
    capabilityId := "capability"
    operationId
    capabilityKind := .nearEd25519MpcSigning
    operationKind := .nearSignTransaction
    laneDigest := "lane"
    intentDigest := "intent"
    displayDigest := "display" }
  authorization := .authorizationGrant "authorization"
  quota := .consumeReusableWalletSession "quota"

def sampleAdmit (operationId : String) : AuthorizationCall :=
  .admitAuthorizedOperation sampleContext (sampleOperation operationId) none

/-- Call `i` is made and its next `n` statements are answered. -/
def sampleCall (call : AuthorizationCall) (i n : ℕ) : List AuthorizationEvent :=
  .call call :: List.replicate n (.statement i ⟨.answered, 20⟩)

end SeamsWallet.Authorization
