import SeamsWallet.Authorization.SessionEffects

/-!
# What a revocation closes

Once the batch of a retirement has committed, the sessions it selected are retired in every
later state. Nothing is admitted through them, their hosted credentials are inactive, and
their exchange codes stay as the batch left them.
-/

namespace SeamsWallet.Authorization

open Library

/-- Other parts of the system leave the operations and the sessions, and what hangs on them,
alone. -/
structure KeepsSessions (db db' : Database) : Prop where
  operations : db'.operations = db.operations
  quotas : db'.quotas = db.quotas
  sessions : db'.sessions = db.sessions
  exchanges : db'.exchanges = db.exchanges
  credentials : db'.credentials = db.credentials

/-- No session has been issued yet. -/
def Database.Fresh (db : Database) : Prop :=
  db.operations = [] ∧ db.quotas = [] ∧ db.sessions = [] ∧ db.exchanges = [] ∧ db.credentials = []

section Steps

variable {codec : OperationCodec} {state state' : AuthorizationState}
  {event : AuthorizationEvent} {log : List AuthorizationEvent} {db db' : Database}

theorem StepCases.changes (h : StepCases codec KeepsSessions state event state') :
    (∃ clock, Performs clock state.db state'.db) ∨ KeepsSessions state.db state'.db := by
  cases h with
  | call => exact .inl ⟨0, .reads⟩
  | statement outside => exact .inl ⟨_, (state.db.execute_cases outside _).performs⟩
  | elsewhere hkeeps => exact .inr hkeeps

/-- What statements keep and what depends on the kept tables only holds in every run. -/
theorem invariant_of_run {P : Database → Prop} (hperforms : ∀ clock db db',
      Performs clock db db' → P db → P db')
    (hkeeps : ∀ db db', KeepsSessions db db' → P db → P db') (hstart : P state.db)
    (hrun : Run (Step codec KeepsSessions) state log state') : P state'.db := by
  refine hrun.invariant (fun _ s => P s.db) hstart ?_
  intro log s e s' _ hs hstep
  rcases (step_cases hstep).changes with ⟨clock, h⟩ | h
  · exact hperforms clock _ _ h hs
  · exact hkeeps _ _ h hs

theorem KeepsSessions.consistent (hkeeps : KeepsSessions db db') (h : Consistent db) :
    Consistent db' := by
  obtain ⟨hdistinct, hexchange, hcredential⟩ := h
  rw [← hkeeps.sessions] at hdistinct
  rw [← hkeeps.exchanges] at hexchange
  rw [← hkeeps.credentials] at hcredential
  have hparent {hosted : SessionIdentity} (hhas : db.HasParent hosted) : db'.HasParent hosted :=
    hhas.mono (hkeeps.sessions ▸ List.Subset.refl _)
  exact ⟨hdistinct, fun e he h => hparent (hexchange e he h),
    fun c hc h => hparent (hcredential c hc h)⟩

theorem consistent_of_run (hstart : state.db.Fresh)
    (hrun : Run (Step codec KeepsSessions) state log state') : Consistent state'.db := by
  obtain ⟨-, -, hsessions, hexchanges, hcredentials⟩ := hstart
  refine invariant_of_run (fun _ _ _ h => h.consistent) (fun _ _ h => h.consistent) ?_ hrun
  constructor
  · rw [hsessions]
    exact List.Pairwise.nil
  · rw [hexchanges]
    exact nofun
  · rw [hcredentials]
    exact nofun

/-! ## Retired sessions -/

def Database.Closed (db : Database) (session : WalletSessionRow) : Prop :=
  ∃ retired ∈ db.sessions, retired.toSessionIdentity = session.toSessionIdentity ∧
    retired.retiredAtMs ≠ none

variable {session other : WalletSessionRow} {clock : ℕ}

theorem Retirement.closed (retirement : Retirement) (hmem : session ∈ db.sessions)
    (hscope : session.nameSpace = retirement.context.nameSpace ∧
      session.scope = retirement.context.scope ∧ session.tenantId = retirement.tenantId)
    (hselects : retirement.selects db session = true) :
    (retirement.run db).Closed session := by
  rw [Retirement.run_eq]
  refine ⟨_, List.mem_map.mpr ⟨session, hmem, rfl⟩, ?_⟩
  split
  · exact ⟨rfl, nofun⟩
  · rename_i hnot
    refine ⟨rfl, fun hlive => hnot ?_⟩
    simp [Retirement.retires, hscope, hselects, hlive]

theorem Database.Closed.retired (hclosed : db.Closed session) (h : Consistent db)
    (hmem : other ∈ db.sessions) (hidentity : other.nameSpace = session.nameSpace ∧
      other.scope = session.scope ∧ other.tenantId = session.tenantId ∧
      other.authorizationId = session.authorizationId) : other.retiredAtMs ≠ none := by
  obtain ⟨retired, hretired, heq, hnot⟩ := hclosed
  rw [← heq] at hidentity
  rw [h.eq_of_identity hmem hretired hidentity]
  exact hnot

theorem Database.Closed.not_hasParent (hclosed : db.Closed session) (h : Consistent db) :
    ¬ db.HasParent session.toSessionIdentity := by
  rintro ⟨parent, hmem, hidentity, hlive⟩
  refine hclosed.retired h hmem ?_ hlive
  rw [hidentity]
  exact ⟨rfl, rfl, rfl, rfl⟩

theorem Performs.mem_exchanges (hperforms : Performs clock db db')
    {exchange : HostedExchangeCodeRow}
    (hparent : ¬ db.HasParent exchange.toSessionIdentity) (hmem : exchange ∈ db'.exchanges) :
    exchange ∈ db.exchanges := by
  have hrun (retirement : Retirement) (h : exchange ∈ (retirement.run db).exchanges) :
      exchange ∈ db.exchanges := by
    rw [Retirement.run_eq] at h
    exact List.mem_of_mem_filter h
  cases hperforms with
  | reads | completes => exact hmem
  | inserts hinserts =>
    obtain ⟨quotas, rfl, -⟩ := hinserts.cases
    exact hmem
  | issues issuance =>
    refine hrun _ (issuance.run_induction (P := fun db => exchange ∈ db.exchanges →
      exchange ∈ (issuance.predecessors.run _).exchanges) db id (fun _ h _ => h)
      (fun _ h _ _ _ => h) hmem)
  | retires retirement => exact hrun retirement hmem
  | hosted hexchanges => exact (hexchanges exchange hmem).resolve_right hparent

/-! ## Admissions through a retired session -/

/-- The admission presents the grant of the session, in its scope. -/
structure Through (context : D1AuthorizationContext) (input : AdmissionInput)
    (session : WalletSessionRow) : Prop where
  nameSpace : context.nameSpace = session.nameSpace
  scope : context.scope = session.scope
  tenantId : input.operation.tenantId = session.tenantId
  authorization : input.operation.authorization = .authorizationGrant session.authorizationId

variable {context : D1AuthorizationContext} {input : AdmissionInput} {result : AdmissionResult}

theorem Database.Closed.not_live (hclosed : db.Closed session) (h : Consistent db)
    {row : AuthorizedOperationRow} {nowMs : ℕ} (hmem : other ∈ db.sessions)
    (hthrough : row.through other = true) (hrow : row.nameSpace = session.nameSpace ∧
      row.ownerScope = some session.scope ∧ row.operation.tenantId = session.tenantId ∧
      row.operation.authorization = .authorizationGrant session.authorizationId) :
    db.sessionLive nowMs other ≠ true := by
  simp only [AuthorizedOperationRow.through, Bool.and_eq_true, decide_eq_true_eq] at hthrough
  obtain ⟨hgrant, ⟨⟨⟨hnameSpace, hscope⟩, htenant⟩, -⟩, -⟩ := hthrough
  rw [hrow.2.2.2] at hgrant
  rw [hrow.2.1] at hscope
  have hretired := hclosed.retired h hmem ⟨hnameSpace.trans hrow.1, (Option.some.inj hscope).symm,
    htenant.trans hrow.2.2.1, (OperationAuthorizationSource.authorizationGrant.inj hgrant).symm⟩
  simp [Database.sessionLive, hretired]

theorem Answered.rejected (h : Answered codec context input db db' result)
    (hconsistent : Consistent db) (hclosed : db.Closed session)
    (hthrough : Through context input session) : ∃ rejection, result = .rejected rejection := by
  -- An answer for a stored operation rests on a live session that granted it.
  have hstored {row : AuthorizedOperationRow}
      (hrow : db.operation? (admissionKey codec context input) = some row)
      (hpresents : Presents context input db row)
      (hactive : ∀ authorizationId,
        row.operation.authorization = .authorizationGrant authorizationId →
          GrantActive context input db row) : False := by
    have hgrant := hpresents.authorization.trans hthrough.authorization
    obtain ⟨other, hmem, hother, -, hlive⟩ := hactive _ hgrant
    have hkey : row.key = admissionKey codec context input := by
      simpa using List.find?_some hrow
    exact hclosed.not_live hconsistent hmem hother
      ⟨(congrArg OperationKey.nameSpace hkey).trans hthrough.nameSpace,
        hthrough.scope ▸ hpresents.grantScope _ hgrant,
        (congrArg OperationKey.tenantId hkey).trans hthrough.tenantId, hgrant⟩ hlive
  cases result with
  | rejected rejection => exact ⟨rejection, rfl⟩
  | claimed operation ownerScope =>
    obtain ⟨clock, operation, hinput, hinserts⟩ := h.inserted rfl
    have hgrant : operation.authorization = .authorizationGrant session.authorizationId :=
      (congrArg AuthorizedOperationInput.authorization hinput).trans hthrough.authorization
    have hclaimed := hinserts.claimed
    rw [Database.claim,
      show ((admissionInsert context input operation).row db).operation.authorization =
        .authorizationGrant session.authorizationId from hgrant] at hclaimed
    obtain ⟨other, hother, -⟩ := bind_eq_ok.mp hclaimed
    have hfound := okOr_eq_ok.mp hother
    have hclaims := List.find?_some hfound
    simp only [Bool.and_eq_true] at hclaims
    refine (hclosed.not_live hconsistent (List.mem_of_find?_eq_some hfound) hclaims.1.1.1
      ⟨hthrough.nameSpace, ?_, (congrArg AuthorizedOperationInput.tenantId hinput).trans
        hthrough.tenantId, hgrant⟩ hclaims.1.2).elim
    simp only [AuthorizedOperationInsert.row, admissionInsert, hgrant, hthrough.scope]
  | operationInProgress =>
    cases h.sound with
    | operationInProgress _ hrow _ hpresents hactive =>
      exact (hstored hrow hpresents hactive).elim
  | replayed =>
    cases h.sound with
    | replayed _ hrow _ hpresents hactive => exact (hstored hrow hpresents hactive).elim

/-! ## The revocation -/

/-- The batch revokes the session: that of its sign-in method, or that of its authority when
no active method of the authority is left. -/
def Revokes (db : Database) (retirement : Retirement) (session : WalletSessionRow) : Prop :=
  ∃ context tenantId walletId nowMs, session.nameSpace = context.nameSpace ∧
    session.scope = context.scope ∧ session.tenantId = tenantId ∧ session.walletId = walletId ∧
    (retirement = prepareRetireWalletSessionAuthorizationsForAuthMethod context tenantId walletId
        session.walletAuthMethodId nowMs ∨
      retirement = prepareRetireWalletSessionAuthorizationsV2ForAuthority context tenantId
        walletId session.authorityId nowMs ∧
        db.remainingMethod context walletId session.authorityId = false)

theorem Revokes.closed {retirement : Retirement} (h : Revokes db retirement session)
    (hmem : session ∈ db.sessions) : (retirement.run db).Closed session := by
  obtain ⟨context, tenantId, walletId, nowMs, hnameSpace, hscope, htenant, hwallet,
    hretirement⟩ := h
  rcases hretirement with rfl | ⟨rfl, hnone⟩
  · refine Retirement.closed _ hmem ⟨hnameSpace, hscope, htenant⟩ ?_
    simp [prepareRetireWalletSessionAuthorizationsForAuthMethod, hwallet]
  · refine Retirement.closed _ hmem ⟨hnameSpace, hscope, htenant⟩ ?_
    simp [prepareRetireWalletSessionAuthorizationsV2ForAuthority, hwallet, hnone]

/-- The session is retired, and its exchange codes are among the given ones. -/
structure Shut (session : WalletSessionRow) (codes : List HostedExchangeCodeRow) (db : Database) :
    Prop where
  consistent : Consistent db
  closed : db.Closed session
  exchanges : ∀ exchange ∈ db.exchanges,
    exchange.toSessionIdentity = session.toSessionIdentity → exchange ∈ codes

variable {codes : List HostedExchangeCodeRow}

theorem Performs.shut (hperforms : Performs clock db db') (h : Shut session codes db) :
    Shut session codes db' := by
  obtain ⟨retired, hmem, hidentity, hretired⟩ := h.closed
  refine ⟨hperforms.consistent h.consistent,
    ⟨retired, hperforms.mem_of_retired hmem hretired, hidentity, hretired⟩, ?_⟩
  intro exchange hexchange heq
  refine h.exchanges exchange (hperforms.mem_exchanges ?_ hexchange) heq
  rw [heq]
  exact h.closed.not_hasParent h.consistent

theorem KeepsSessions.shut (hkeeps : KeepsSessions db db') (h : Shut session codes db) :
    Shut session codes db' := by
  obtain ⟨hconsistent, hclosed, hexchanges⟩ := h
  rw [Database.Closed, ← hkeeps.sessions] at hclosed
  rw [← hkeeps.exchanges] at hexchanges
  exact ⟨hkeeps.consistent hconsistent, hclosed, hexchanges⟩

theorem described_of_run {start : AuthorizationState} (hstart : start.threads = [])
    (hrun : Run (Step codec KeepsSessions) start log state) : state.Described codec := by
  have hoperations : Run (Step codec KeepsOperations) start log state := by
    refine hrun.mono ?_
    rintro s e s' ⟨hstep, hkeeps⟩
    refine ⟨hstep, ?_⟩
    cases e with
    | elsewhere db => exact KeepsSessions.operations hkeeps
    | call | statement => trivial
  exact (accounted_of_run hstart hoperations).described

/-- Every active hosted credential has a live parent. After a revocation has committed, the
sessions it closed admit nothing, have no active credential and no code to redeem, and
their codes stay as they are. -/
theorem revocation_closes {start : AuthorizationState} (hfresh : start.db.Fresh)
    (hstart : start.threads = []) (hrun : Run (Step codec KeepsSessions) start log state) :
    (∀ credential ∈ state.db.credentials, credential.retiredAtMs = none →
      ∃ session ∈ state.db.sessions,
        session.toSessionIdentity = credential.toSessionIdentity ∧ session.retiredAtMs = none) ∧
    ∀ i outside call retirement next,
      state.threads[i]? = some ⟨call, .query (.retirementBatch retirement) next⟩ →
      (∀ message, outside.delivery ≠ .aborted message) →
      ∀ after, Step codec KeepsSessions state (.statement i outside) after →
      ∀ session ∈ state.db.sessions, Revokes state.db retirement session →
      ∀ log' later, Run (Step codec KeepsSessions) after log' later →
        (∀ credential ∈ later.db.credentials,
          credential.toSessionIdentity = session.toSessionIdentity →
            credential.retiredAtMs ≠ none) ∧
        (∀ exchange ∈ later.db.exchanges, exchange.toSessionIdentity = session.toSessionIdentity →
            exchange ∈ after.db.exchanges ∧ exchange.lifecycle ≠ .issued) ∧
        ∀ event last, Step codec KeepsSessions later event last →
          ∀ j context input result, last.Admitted j context input result →
            Through context input session → later.Admitted j context input result ∨
              ∃ rejection, result = .rejected rejection := by
  refine ⟨(consistent_of_run hfresh hrun).credential, ?_⟩
  intro i outside call retirement next hthread hcommits after hstep session hmem hrevokes log' later
    hrun'
  have hafter : Shut session after.db.exchanges after.db := by
    refine ⟨consistent_of_run hfresh (hrun.snoc hstep), ?_, fun _ hexchange _ => hexchange⟩
    have hcommitted : after.db = retirement.run state.db := by
      cases step_cases hstep with
      | statement _ hthread' =>
        cases hthread.symm.trans hthread'
        rw [Database.execute]
        cases hdelivery : outside.delivery with
        | aborted message => exact absurd hdelivery (hcommits message)
        | answered | lost => rfl
    rw [hcommitted]
    exact hrevokes.closed hmem
  have hlater := invariant_of_run (fun _ _ _ h => h.shut) (fun _ _ h => h.shut) hafter hrun'
  refine ⟨?_, ?_, ?_⟩
  · intro credential hcredential hidentity hactive
    have hhas := hlater.consistent.credential credential hcredential hactive
    rw [hidentity] at hhas
    exact hlater.closed.not_hasParent hlater.consistent hhas
  · intro exchange hexchange hidentity
    refine ⟨hlater.exchanges exchange hexchange hidentity, fun hissued => ?_⟩
    have hhas := hlater.consistent.exchange exchange hexchange hissued
    rw [hidentity] at hhas
    exact hlater.closed.not_hasParent hlater.consistent hhas
  · intro event last hlast j context input result hadmitted hthrough
    obtain ⟨k, hanswered⟩ := (step_cases hlast).admitted
      (described_of_run hstart (hrun.append (.cons hstep hrun')))
    exact (hanswered j context input result hadmitted).imp_right
      fun h => h.2.rejected hlater.consistent hlater.closed hthrough

end Steps

def sampleRevocation : AuthorizationCall :=
  .retireForAuthMethod sampleContext "tenant" "wallet" "method" 15

/-- A session is issued, an operation admitted through it, and the batch that revokes its
method is about to run. -/
def revocationRun : List AuthorizationEvent :=
  (sampleCall (.commitDirectWalletSessionAuthorizationV2 sampleContext sampleSession) 0 1 ++
    sampleCall (sampleAdmit "operation") 1 1) ++ [.call sampleRevocation]

theorem revocation_closes_method : ∃ state session after,
    Run (Step sampleCodec KeepsSessions) sampleState revocationRun state ∧
    session ∈ state.db.sessions ∧
    Through sampleContext ⟨sampleOperation "operation", none, none⟩ session ∧
    Step sampleCodec KeepsSessions state (.statement 2 ⟨.answered, 20⟩) after ∧
    ∀ log' later, Run (Step sampleCodec KeepsSessions) after log' later →
      ∀ event last, Step sampleCodec KeepsSessions later event last →
        ∀ j context input result, last.Admitted j context input result →
          Through context input session → later.Admitted j context input result ∨
            ∃ rejection, result = .rejected rejection := by
  let issuance : WalletSessionIssuance := ⟨sampleContext, sampleSession⟩
  have hopened : (runOwn sampleCodec sampleState revocationRun).bind (fun s =>
      some (s.threads.length, s.db.sessions)) = some (3, [issuance.sessionRow]) := by
    decide +kernel
  obtain ⟨state, hstate, hresult⟩ := Option.bind_eq_some_iff.mp hopened
  obtain ⟨hlength, hsessions⟩ := Prod.mk.inj (Option.some.inj hresult)
  have hmem : issuance.sessionRow ∈ state.db.sessions := by
    rw [hsessions]
    exact List.mem_singleton_self _
  have hrun := run_of_runOwn KeepsSessions hstate
  obtain ⟨opened, -, hcalled⟩ := Run.snoc_iff.mp hrun
  cases hcalled.1
  have hthread : (opened.threads ++ [⟨sampleRevocation, sampleRevocation.program sampleCodec⟩])[2]?
      = some ⟨sampleRevocation, sampleRevocation.program sampleCodec⟩ := by
    have htwo : opened.threads.length = 2 := by simpa using hlength
    rw [← htwo]
    exact List.getElem?_concat_length
  obtain ⟨after, hafter⟩ : ∃ after, step sampleCodec { opened with threads := opened.threads ++
      [⟨sampleRevocation, sampleRevocation.program sampleCodec⟩] }
      (.statement 2 ⟨.answered, 20⟩) = some after :=
    ⟨_, Option.bind_eq_some_iff.mpr ⟨_, hthread, rfl⟩⟩
  have hstep := And.intro hafter trivial
  refine ⟨_, _, after, hrun, hmem, ⟨rfl, rfl, rfl, rfl⟩, hstep, fun log' later hrun' => ?_⟩
  exact ((revocation_closes ⟨rfl, rfl, rfl, rfl, rfl⟩ rfl hrun).2 2 _ _ _ _ hthread
    (fun _ h => by cases h) _ hstep _
    hmem ⟨sampleContext, _, _, 15, rfl, rfl, rfl, rfl, .inl rfl⟩ log' later hrun').2.2

end SeamsWallet.Authorization
