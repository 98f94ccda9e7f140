import Mathlib.Data.List.Pairwise
import SeamsWallet.Authorization.Claims

/-!
# Sessions and their hosted children

Statements retire sessions and add new ones. No statement brings a retired session back,
no two sessions share an authorization, and one sign-in method has one live session. Every
code that can be redeemed and every active hosted credential has a live parent.
-/

namespace SeamsWallet.Authorization

open Library

variable {db db' : Database}

/-! ## Retirement -/

section Retirement

variable (retirement : Retirement) (db)

theorem Retirement.exhaustQuotas_keys :
    (retirement.exhaustQuotas db).quotas.map WalletSessionQuotaRow.key =
      db.quotas.map WalletSessionQuotaRow.key := by
  rw [exhaustQuotas, List.map_map]
  refine List.map_congr_left fun quota _ => ?_
  rw [Function.comp_apply]
  split <;> rfl

theorem Retirement.retires_staged (exchanges : List HostedExchangeCodeRow)
    (credentials : List HostedCredentialRow) :
    retirement.retires { retirement.exhaustQuotas db with exchanges, credentials } =
      retirement.retires db := by
  funext session
  exact congrArg (_ && ·)
    (congrFun (retirement.steady db _ _ _ (retirement.exhaustQuotas_keys db)) session)

/-- Every statement of a retirement acts on what the tables were before the first. -/
theorem Retirement.run_eq : retirement.run db = { db with
    quotas := (retirement.exhaustQuotas db).quotas
    exchanges := (retirement.deleteHostedExchanges db).exchanges
    credentials := (retirement.retireHostedCredentials db).credentials
    sessions := (retirement.retireSessions db).sessions } := by
  have hparent (exchanges : List HostedExchangeCodeRow) : retirement.parentSelected
      { retirement.exhaustQuotas db with exchanges } = retirement.parentSelected db :=
    funext fun hosted => congrArg (fun retires : WalletSessionRow → Bool =>
      db.sessions.any fun session => session.toSessionIdentity = hosted && retires session)
        (retirement.retires_staged db exchanges db.credentials)
  have hcodes : retirement.deleteHostedExchanges (retirement.exhaustQuotas db) =
      { retirement.exhaustQuotas db with
        exchanges := (retirement.deleteHostedExchanges db).exchanges } := by
    rw [deleteHostedExchanges, show retirement.parentSelected (retirement.exhaustQuotas db) =
      retirement.parentSelected db from hparent db.exchanges]
    rfl
  rw [run, retireSessions, hcodes, retireHostedCredentials, hparent,
    retirement.retires_staged db _ _]
  rfl

theorem Retirement.mem_run_sessions_of_not {session : WalletSessionRow}
    (hmem : session ∈ db.sessions) (h : retirement.retires db session = false) :
    session ∈ (retirement.run db).sessions := by
  rw [run_eq]
  exact List.mem_map.mpr ⟨session, hmem, if_neg (by simp [h])⟩

end Retirement

/-! ## Issuance -/

section Issuance

variable (issuance : WalletSessionIssuance) (db)

/-- Something that the retirement, a new quota and a new session each keep. -/
theorem WalletSessionIssuance.run_induction {P : Database → Prop}
    (hretired : P (issuance.predecessors.run db))
    (hquota : ∀ db, P db → (∀ quota ∈ db.quotas, quota.key ≠ issuance.quotaRow.key) →
      P { db with quotas := db.quotas ++ [issuance.quotaRow] })
    (hsession : ∀ db, P db → issuance.sessionIdentityAvailable db = true →
      issuance.quotaRow ∈ db.quotas → issuance.sessionInsertable db = true →
      P { db with sessions := db.sessions ++ [issuance.sessionRow] }) :
    P (issuance.run db).2 := by
  have hwith : P (issuance.insertQuota (issuance.predecessors.run db)).2 := by
    rw [insertQuota]
    split
    · rename_i h
      rw [Bool.and_eq_true, List.all_eq_true] at h
      exact hquota _ hretired fun quota hmem => (of_decide_eq_true (h.2 quota hmem)).1
    · exact hretired
  change P (issuance.insertSession (issuance.insertQuota (issuance.predecessors.run db)).2).2
  rw [insertSession]
  split
  · rename_i h
    rw [Bool.and_eq_true, Bool.and_eq_true, List.any_eq_true] at h
    obtain ⟨⟨havailable, quota, hmem, hsame⟩, hinsertable⟩ := h
    obtain rfl := (of_decide_eq_true hsame).1
    exact hsession _ hwith havailable hmem hinsertable
  · exact hwith

end Issuance

/-! ## Keys and parents -/

/-- What the keys of the session table exclude: two sessions with one authorization, or two
live ones of one wallet, authority and method. -/
def Clash (a b : WalletSessionRow) : Prop :=
  a.nameSpace = b.nameSpace ∧ a.scope = b.scope ∧ a.tenantId = b.tenantId ∧
    (a.authorizationId = b.authorizationId ∨ a.retiredAtMs = none ∧ b.retiredAtMs = none ∧
      a.walletId = b.walletId ∧ a.authorityId = b.authorityId ∧
      a.walletAuthMethodId = b.walletAuthMethodId)

structure Consistent (db : Database) : Prop where
  distinct : db.sessions.Pairwise fun a b => ¬ Clash a b
  exchange : ∀ exchange ∈ db.exchanges, exchange.lifecycle = .issued →
    db.HasParent exchange.toSessionIdentity
  credential : ∀ credential ∈ db.credentials, credential.retiredAtMs = none →
    db.HasParent credential.toSessionIdentity

theorem Consistent.eq_of_identity (h : Consistent db) {a b : WalletSessionRow}
    (ha : a ∈ db.sessions) (hb : b ∈ db.sessions)
    (hidentity : a.nameSpace = b.nameSpace ∧ a.scope = b.scope ∧ a.tenantId = b.tenantId ∧
      a.authorizationId = b.authorizationId) : a = b := by
  obtain ⟨hnameSpace, hscope, htenant, hauthorization⟩ := hidentity
  by_contra hne
  have hsymm : Std.Symm fun a b => ¬ Clash a b := ⟨by
    rintro a b h ⟨h₁, h₂, h₃, h₄⟩
    refine h ⟨h₁.symm, h₂.symm, h₃.symm, h₄.imp Eq.symm ?_⟩
    rintro ⟨ha, hb, hwallet, hauthority, hmethod⟩
    exact ⟨hb, ha, hwallet.symm, hauthority.symm, hmethod.symm⟩⟩
  exact h.distinct.forall ha hb hne ⟨hnameSpace, hscope, htenant, .inl hauthorization⟩

theorem Clash.of_later {a b a' b' : WalletSessionRow} (h : Clash a' b')
    (ha : a'.toSessionIdentity = a.toSessionIdentity ∧
      (a'.retiredAtMs = none → a.retiredAtMs = none))
    (hb : b'.toSessionIdentity = b.toSessionIdentity ∧
      (b'.retiredAtMs = none → b.retiredAtMs = none)) :
    Clash a b := by
  rw [Clash, ha.1, hb.1] at h
  obtain ⟨hnameSpace, hscope, htenant, hrest⟩ := h
  refine ⟨hnameSpace, hscope, htenant, hrest.imp_right ?_⟩
  rintro ⟨hlive, hlive', hrest⟩
  exact ⟨ha.2 hlive, hb.2 hlive', hrest⟩

theorem Consistent.retire (h : Consistent db) (retirement : Retirement) :
    Consistent (retirement.run db) := by
  have hparent {hosted : SessionIdentity} (hhas : db.HasParent hosted)
      (hselected : retirement.parentSelected db hosted = false) :
      (retirement.run db).HasParent hosted := by
    obtain ⟨session, hmem, rfl, hlive⟩ := hhas
    refine ⟨session, retirement.mem_run_sessions_of_not db hmem ?_, rfl, hlive⟩
    rw [Retirement.parentSelected, List.any_eq_false] at hselected
    simpa using hselected session hmem
  refine ⟨?_, ?_, ?_⟩
  · rw [Retirement.run_eq]
    refine List.pairwise_map.mpr (h.distinct.imp fun hab hclash => hab (hclash.of_later ?_ ?_))
    all_goals
      split
      · exact ⟨rfl, nofun⟩
      · exact ⟨rfl, id⟩
  · intro exchange hmem hissued
    rw [Retirement.run_eq] at hmem
    obtain ⟨hmem, hkept⟩ := List.mem_filter.mp hmem
    exact hparent (h.exchange exchange hmem hissued) (by simpa [hissued] using hkept)
  · intro credential hmem hactive
    rw [Retirement.run_eq] at hmem
    obtain ⟨before, hbefore, rfl⟩ := List.mem_map.mp hmem
    split at hactive
    · cases hactive
    · rename_i hnot
      rw [if_neg hnot]
      exact hparent (h.credential before hbefore hactive) (by simpa [hactive] using hnot)

theorem Database.HasParent.mono {hosted : SessionIdentity} (h : db.HasParent hosted)
    (hsessions : db.sessions ⊆ db'.sessions) : db'.HasParent hosted := by
  obtain ⟨session, hmem, hidentity, hlive⟩ := h
  exact ⟨session, hsessions hmem, hidentity, hlive⟩

theorem Consistent.issue (h : Consistent db) (issuance : WalletSessionIssuance) :
    Consistent (issuance.run db).2 := by
  refine issuance.run_induction db (h.retire _)
    (fun db h _ => ⟨h.distinct, h.exchange, h.credential⟩)
    fun db h havailable _ hinsertable => ?_
  have hparent {hosted : SessionIdentity} (hhas : db.HasParent hosted) :
      Database.HasParent { db with sessions := db.sessions ++ [issuance.sessionRow] } hosted :=
    hhas.mono (List.subset_append_left _ _)
  refine ⟨?_, fun exchange hmem hissued => hparent (h.exchange exchange hmem hissued),
    fun credential hmem hactive => hparent (h.credential credential hmem hactive)⟩
  refine List.pairwise_append.mpr ⟨h.distinct, List.pairwise_singleton _ _, ?_⟩
  rintro existing hmem _ hnew ⟨hnameSpace, hscope, htenant, hclash⟩
  obtain rfl := List.mem_singleton.mp hnew
  rcases hclash with hauthorization | ⟨hlive, -, hmethod⟩
  · rw [WalletSessionIssuance.sessionIdentityAvailable, Bool.and_eq_true, Bool.not_eq_true',
      List.any_eq_false] at havailable
    have hnone := havailable.2 existing hmem
    simp only [decide_eq_true_eq, not_and, not_or] at hnone
    exact (hnone hnameSpace hscope htenant).1 hauthorization
  · simp only [WalletSessionIssuance.sessionInsertable, Bool.and_eq_true, List.all_eq_true,
      decide_eq_true_eq] at hinsertable
    have hone := hinsertable.1.1.1.1 existing hmem
    rw [Option.isSome_iff_ne_none] at hone
    tauto

variable {clock : ℕ}

/-- An admission that stores its operation debits the quota the operation names, if any. -/
theorem Inserts.cases {insert : AuthorizedOperationInsert} (h : Inserts db clock insert db') :
    ∃ quotas, db' = { db with quotas, operations := db.operations ++ [insert.row db] } ∧
      (quotas = db.quotas ∧ (insert.row db).operation.quota = .quotaNeutral ∨ ∃ quotaId session,
          (insert.row db).operation.quota = .consumeReusableWalletSession quotaId ∧
          db.quotas.countP ((insert.row db).debits quotaId session) = 1 ∧
          quotas = debitQuotas ((insert.row db).debits quotaId session) db.quotas) := by
  have hdb' {quotas} (heq : { db' with operations := db.operations } = { db with quotas }) :
      db' = { db with quotas, operations := db.operations ++ [insert.row db] } := by
    rw [← h.operations]
    obtain ⟨⟩ := db'
    cases heq
    rfl
  rcases Database.claim_eq_ok h.claimed with (⟨heq, hquota⟩ | ⟨heq, digest, hdigest⟩) |
    ⟨quotaId, session, hquota, -, hcount, heq⟩
  · exact ⟨_, hdb' heq, .inl ⟨rfl, hquota⟩⟩
  · refine ⟨_, hdb' heq, .inl ⟨rfl, ?_⟩⟩
    have hallowed := h.allowed
    cases hquota : (insert.row db).operation.quota with
    | quotaNeutral => rfl
    | consumeReusableWalletSession quotaId =>
      rw [AuthorizedOperation.quotaAllowed, hdigest, hquota] at hallowed
      cases hallowed
  · exact ⟨_, hdb' heq, .inr ⟨quotaId, session, hquota, hcount, rfl⟩⟩

theorem Performs.consistent (hperforms : Performs clock db db') (h : Consistent db) :
    Consistent db' := by
  cases hperforms with
  | reads => exact h
  | inserts hinserts =>
    obtain ⟨quotas, rfl, -⟩ := hinserts.cases
    exact ⟨h.distinct, h.exchange, h.credential⟩
  | completes completion => exact ⟨h.distinct, h.exchange, h.credential⟩
  | issues issuance => exact h.issue issuance
  | retires retirement => exact h.retire retirement
  | hosted hexchanges hcredentials =>
    refine ⟨h.distinct, fun exchange hmem hissued => ?_, fun credential hmem hactive => ?_⟩
    · exact (hexchanges exchange hmem).elim (fun hold => h.exchange exchange hold hissued) id
    · exact (hcredentials credential hmem).elim (fun hold => h.credential credential hold hactive)
        id

theorem Performs.mem_of_retired (hperforms : Performs clock db db') {session : WalletSessionRow}
    (hmem : session ∈ db.sessions) (hretired : session.retiredAtMs ≠ none) :
    session ∈ db'.sessions := by
  have hrun (retirement : Retirement) : session ∈ (retirement.run db).sessions :=
    retirement.mem_run_sessions_of_not db hmem (by simp [Retirement.retires, hretired])
  cases hperforms with
  | reads | completes | hosted => exact hmem
  | inserts hinserts =>
    obtain ⟨quotas, rfl, -⟩ := hinserts.cases
    exact hmem
  | issues issuance =>
    exact issuance.run_induction (P := fun db => session ∈ db.sessions) db (hrun _)
      (fun _ h _ => h) fun _ h _ _ _ => List.mem_append_left _ h
  | retires retirement => exact hrun retirement

end SeamsWallet.Authorization
