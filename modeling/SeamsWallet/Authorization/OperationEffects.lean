import SeamsWallet.Authorization.Calls

/-!
# What statements do to the operations

A stored operation stays under its key: the only change is its completion, once. An
admission batch either leaves all tables as they are or stores its own operation under
a key that was free.
-/

namespace SeamsWallet.Authorization

open Library Database

/-- The row is the same one later: unchanged, or completed in the meantime. -/
inductive AuthorizedOperationRow.Continues (row : AuthorizedOperationRow) :
    AuthorizedOperationRow → Prop
  | refl : row.Continues row
  | completed (hclaimed : row.operation.lifecycle = .claimed)
      (completion : WalletOperationCompletion) : row.Continues (completion.complete row)

variable {row' : AuthorizedOperationRow} {row : AuthorizedOperationRow}

theorem AuthorizedOperationRow.Continues.trans {row'' : AuthorizedOperationRow}
    (h : row.Continues row') (h' : row'.Continues row'') : row.Continues row'' := by
  cases h with
  | refl => exact h'
  | completed hclaimed completion =>
    cases h' with
    | refl => exact .completed hclaimed completion
    | completed hclaimed' completion' => cases hclaimed'

def Database.Retains (db db' : Database) : Prop :=
  ∀ key row, db.operation? key = some row →
    ∃ row', db'.operation? key = some row' ∧ row.Continues row'

theorem Database.Retains.refl (db : Database) : db.Retains db :=
  fun _ row h => ⟨row, h, .refl⟩

variable {db db' : Database}

theorem Database.Retains.trans {db'' : Database} (h : db.Retains db') (h' : db'.Retains db'') :
    db.Retains db'' := by
  intro key row hrow
  obtain ⟨row', hrow', hcontinues⟩ := h key row hrow
  obtain ⟨row'', hrow'', hcontinues'⟩ := h' key row' hrow'
  exact ⟨row'', hrow'', hcontinues.trans hcontinues'⟩

theorem Database.retains_of_operations_eq (h : db'.operations = db.operations) :
    db.Retains db' := by
  intro key row hrow
  refine ⟨row, ?_, .refl⟩
  rw [operation?, h]
  exact hrow

theorem Database.retains_append (h : db'.operations = db.operations ++ [row]) : db.Retains db' := by
  intro key stored hstored
  refine ⟨stored, ?_, .refl⟩
  rw [operation?] at hstored
  rw [operation?, h, List.find?_append, hstored]
  rfl

theorem Database.retains_complete (db : Database) (completion : WalletOperationCompletion) :
    db.Retains (db.prepareWalletOperationCompletion completion).2 := by
  intro key row hrow
  have hkey : ((fun row => decide (row.key = key)) ∘ fun row =>
      if completion.completes row then completion.complete row else row) =
      fun row => decide (row.key = key) := by
    funext row
    rw [Function.comp_apply]
    split <;> rfl
  have hread : (db.prepareWalletOperationCompletion completion).2.operation? key =
      some (if completion.completes row then completion.complete row else row) := by
    rw [operation?, prepareWalletOperationCompletion, List.find?_map, hkey]
    rw [operation?] at hrow
    rw [hrow]
    rfl
  refine ⟨_, hread, ?_⟩
  split
  · rename_i hcompletes
    rw [WalletOperationCompletion.completes, Bool.and_eq_true, decide_eq_true_iff]
      at hcompletes
    exact .completed hcompletes.2 completion
  · exact .refl

/-! ## The insert of an admission -/

variable {clock : ℕ}

/-- The triggers after an insert change nothing but quotas. -/
theorem Database.claim_eq_ok (h : db.claim clock row = .ok db') :
    (db' = db ∧ row.operation.quota = .quotaNeutral ∨
      db' = db ∧ ∃ digest, row.operation.authorization = .verifiedStepUp digest) ∨
    ∃ quotaId session, row.operation.quota = .consumeReusableWalletSession quotaId ∧
      db.claimSession? row = some session ∧
      db.quotas.countP (row.debits quotaId session) = 1 ∧
      db' = { db with quotas := debitQuotas (row.debits quotaId session) db.quotas } := by
  rw [claim] at h
  split at h
  · rw [ownerGrantClaim] at h
    obtain ⟨session, hsession, h⟩ := bind_eq_ok.mp h
    rw [okOr_eq_ok] at hsession
    split at h
    · rename_i hquota
      exact .inl (.inl ⟨(pure_eq_ok.mp h).symm, hquota⟩)
    · rename_i quotaId hquota
      obtain ⟨_, hcount, h⟩ := bind_eq_ok.mp h
      rw [ensure_eq_ok] at hcount
      exact .inr ⟨quotaId, session, hquota, hsession, hcount, (pure_eq_ok.mp h).symm⟩
  · rename_i digest hdigest
    rw [stepUpClaim] at h
    obtain ⟨_, -, h⟩ := bind_eq_ok.mp h
    exact .inl (.inr ⟨(pure_eq_ok.mp h).symm, digest, hdigest⟩)

/-- A claim that inserted its row: the key was free, and the triggers accepted it. -/
structure Inserts (db : Database) (clock : ℕ) (insert : AuthorizedOperationInsert)
    (db' : Database) : Prop where
  free : db.operation? insert.key = none
  allowed : (insert.row db).operation.quotaAllowed = true
  claimed : db.claim clock (insert.row db) = .ok { db' with operations := db.operations }
  operations : db'.operations = db.operations ++ [insert.row db]

variable {insert : AuthorizedOperationInsert}

theorem Database.insert_eq_ok {changes : ℕ}
    (h : db.prepareAuthorizedOperationInsert clock insert = .ok (changes, db')) :
    changes = 0 ∧ db' = db ∨ changes = 1 ∧ Inserts db clock insert db' := by
  rw [prepareAuthorizedOperationInsert] at h
  split at h
  · rename_i hcondition
    rw [Bool.and_eq_true, Option.isNone_iff_eq_none] at hcondition
    simp only [ok_iff, Prod.mk.injEq] at h
    obtain ⟨-, hallowed, -, claimed, hclaim, rfl, rfl⟩ := h
    have hoperations : claimed.operations = db.operations := by
      rcases claim_eq_ok hclaim with (⟨rfl, -⟩ | ⟨rfl, -⟩) | ⟨_, _, -, -, -, rfl⟩ <;> rfl
    refine .inr ⟨rfl, hcondition.2, hallowed, ?_, ?_⟩
    · rw [hclaim, ← hoperations]
    · rw [hoperations]
  · obtain ⟨rfl, rfl⟩ := Prod.mk.inj (pure_eq_ok.mp h)
    exact .inl ⟨rfl, rfl⟩

theorem Inserts.stored (h : Inserts db clock insert db') :
    db'.operation? insert.key = some (insert.row db) := by
  have hfree := h.free
  rw [operation?] at hfree
  rw [operation?, h.operations, List.find?_append, hfree]
  simp [show (insert.row db).key = insert.key from rfl]

/-! ## All statements -/

/-- A live session has the identity of the hosted child. -/
def Database.HasParent (db : Database) (hosted : SessionIdentity) : Prop :=
  ∃ session ∈ db.sessions, session.toSessionIdentity = hosted ∧ session.retiredAtMs = none

/-- What a performed statement may do to the tables. New and changed hosted rows have a
parent. -/
inductive Performs (clock : ℕ) (db : Database) : Database → Prop
  | reads : Performs clock db db
  | inserts {insert : AuthorizedOperationInsert} {db' : Database}
      (h : Inserts db clock insert db') : Performs clock db db'
  | completes (completion : WalletOperationCompletion) :
      Performs clock db (db.prepareWalletOperationCompletion completion).2
  | issues (issuance : WalletSessionIssuance) : Performs clock db (issuance.run db).2
  | retires (retirement : Retirement) : Performs clock db (retirement.run db)
  | hosted {exchanges : List HostedExchangeCodeRow} {credentials : List HostedCredentialRow}
      (hexchanges : ∀ exchange ∈ exchanges, exchange ∈ db.exchanges ∨
        db.HasParent exchange.toSessionIdentity)
      (hcredentials : ∀ credential ∈ credentials, credential ∈ db.credentials ∨
        db.HasParent credential.toSessionIdentity) :
      Performs clock db { db with exchanges, credentials }

theorem Database.hasParent_of_parents {hosted : SessionIdentity} {expiresAtMs : ℕ}
    {session : WalletSessionRow} (hmem : session ∈ db.sessions)
    (h : db.parents hosted expiresAtMs session = true) : db.HasParent hosted := by
  simp only [parents, Bool.and_eq_true, decide_eq_true_eq, Option.isNone_iff_eq_none] at h
  exact ⟨session, hmem, h.1.1.1.1, h.1.1.2⟩

theorem Database.insertHostedExchange_eq_ok {changes : ℕ} {insert : HostedExchangeInsert}
    (h : db.insertHostedExchange insert = .ok (changes, db')) : Performs clock db db' := by
  rw [insertHostedExchange] at h
  split at h
  · rename_i hsession
    obtain ⟨session, hmem, hopen⟩ := List.any_eq_true.mp hsession
    obtain ⟨_, -, h⟩ := bind_eq_ok.mp h
    cases h
    refine .hosted ?_ fun _ => .inl
    rw [List.forall_mem_append, List.forall_mem_singleton]
    exact ⟨fun _ => .inl, .inr (hasParent_of_parents hmem (Bool.and_eq_true_iff.mp hopen).1)⟩
  · cases h
    exact .reads

theorem HostedRedemption.run_eq_ok {redemption : HostedRedemption} {changes : ℕ × ℕ}
    (h : redemption.run db = .ok (changes, db')) : Performs clock db db' := by
  have hparent {exchange : HostedExchangeCodeRow} {p : WalletSessionRow → Bool}
      (hopen : db.sessions.any (fun session => open? db exchange session && p session) = true) :
      db.HasParent exchange.toSessionIdentity := by
    obtain ⟨session, hmem, hopen⟩ := List.any_eq_true.mp hopen
    rw [open?, Bool.and_eq_true, Bool.and_eq_true] at hopen
    exact hasParent_of_parents hmem hopen.1.1
  obtain ⟨⟨inserted, withCredential⟩, hinsert, h⟩ := bind_eq_ok.mp h
  have hwith : ∃ credentials, withCredential = { db with credentials } ∧ ∀ credential ∈ credentials,
      credential ∈ db.credentials ∨ db.HasParent credential.toSessionIdentity := by
    rw [HostedRedemption.insertCredential] at hinsert
    split at hinsert
    · cases hinsert
      exact ⟨_, rfl, fun _ => .inl⟩
    · rename_i exchange hfound
      obtain ⟨_, -, hinsert⟩ := bind_eq_ok.mp hinsert
      cases hinsert
      refine ⟨_, rfl, ?_⟩
      have hopen := List.find?_some hfound
      rw [Bool.and_eq_true] at hopen
      rw [List.forall_mem_append, List.forall_mem_singleton]
      exact ⟨fun _ => .inl, .inr (hparent (p := fun _ => true) (by simpa using hopen.2))⟩
  obtain ⟨credentials, rfl, hcredentials⟩ := hwith
  cases h
  refine .hosted (fun exchange hexchange => ?_)
    fun credential hcredential => hcredentials credential (List.mem_of_mem_filter hcredential)
  obtain ⟨before, hbefore, rfl⟩ := List.mem_map.mp hexchange
  split
  · rename_i hconsumes
    rw [consumes, Bool.and_eq_true, Bool.and_eq_true] at hconsumes
    exact .inr (hparent hconsumes.1.2)
  · exact .inl hbefore

variable {q : Statement}

theorem Database.perform_eq_ok {row : q.Row} (h : db.perform clock q = .ok (row, db')) :
    Performs clock db db' := by
  cases q with
  | admissionBatch insert read =>
    obtain ⟨⟨changes, inserted⟩, hinsert, h⟩ := bind_eq_ok.mp h
    cases h
    rcases insert_eq_ok hinsert with ⟨-, rfl⟩ | ⟨-, hinserts⟩
    · exact .reads
    · exact .inserts hinserts
  | admissionRead | operationRead | exchangeRead =>
    cases h
    exact .reads
  | completionUpdate completion =>
    cases h
    exact .completes completion
  | issuanceBatch issuance =>
    cases h
    exact .issues issuance
  | retirementBatch retirement =>
    cases h
    exact .retires retirement
  | exchangeInsert insert => exact insertHostedExchange_eq_ok h
  | redemptionBatch redemption => exact HostedRedemption.run_eq_ok h

/-- No statement loses an operation, or changes one but by completing it. -/
theorem Performs.retains (h : Performs clock db db') : db.Retains db' := by
  cases h with
  | reads => exact .refl _
  | inserts h => exact retains_append h.operations
  | completes completion => exact db.retains_complete completion
  | issues issuance =>
    refine retains_of_operations_eq ?_
    change (issuance.insertSession (issuance.insertQuota _).2).2.operations = _
    rw [WalletSessionIssuance.insertSession, WalletSessionIssuance.insertQuota]
    split <;> split <;> rfl
  | retires | hosted => exact retains_of_operations_eq rfl

/-- A statement is rolled back with an error, or performed; the answer of a performed
statement may be lost. -/
inductive Executes (outside : Outside) (db : Database) (q : Statement) :
    q.Answer → Database → Prop
  | failed (message : String) : Executes outside db q (.error message) db
  | answered {row : q.Row} {db' : Database}
      (h : db.perform outside.clock q = .ok (row, db')) : Executes outside db q (.ok row) db'
  | lost {row : q.Row} {db' : Database} (message : String)
      (hlost : outside.delivery = .lost message)
      (h : db.perform outside.clock q = .ok (row, db')) :
      Executes outside db q (.error message) db'

theorem Database.execute_cases (outside : Outside) (db : Database) (q : Statement) :
    Executes outside db q (db.execute outside q).1 (db.execute outside q).2 := by
  rw [execute]
  split
  · exact .failed _
  · exact .failed _
  · rename_i h
    exact .answered h
  · rename_i hlost h
    exact .lost _ hlost h

theorem Executes.performs {outside : Outside} {answer : q.Answer}
    (h : Executes outside db q answer db') : Performs outside.clock db db' := by
  cases h with
  | failed => exact .reads
  | answered h | lost _ _ h => exact perform_eq_ok h

end SeamsWallet.Authorization
