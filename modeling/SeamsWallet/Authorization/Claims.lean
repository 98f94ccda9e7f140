import SeamsWallet.Authorization.OperationEffects

/-!
# An operation is claimed once

What an admission may answer is described by the exchange with the database from which
the answer came: a claim stored its operation under a key that was free, and any other
answer for a stored operation repeats that operation to a caller that presents what it
was claimed with. Since operations stay under their keys, no two admissions claim the
same one, however the calls are interleaved.
-/

namespace SeamsWallet.Authorization

open Library Discipline

def AdmissionResult.isClaimed : AdmissionResult → Bool
  | .claimed _ _ => true
  | _ => false

variable {db : Database} {result : AdmissionResult} {operation : AuthorizedOperation}
  {codec : OperationCodec} {context : D1AuthorizationContext} {input : AdmissionInput}

section Answers

variable (codec : OperationCodec) (context : D1AuthorizationContext) (input : AdmissionInput)

def admissionKey : OperationKey :=
  ⟨context.nameSpace, input.operation.tenantId,
    codec.computeCapabilityOperationFingerprintDigest input.operation.operation⟩

/-- The caller presents the source, quota, scope and material the row was stored with. The
scope of a step-up operation is that of its evidence set. -/
structure Presents (db : Database) (row : AuthorizedOperationRow) : Prop where
  authorization : row.operation.authorization = input.operation.authorization
  quota : row.operation.quota = input.operation.quota
  grantScope : ∀ authorizationId,
    row.operation.authorization = .authorizationGrant authorizationId →
      row.ownerScope = some context.scope
  stepUpScope : ∀ evidenceSetDigest,
    row.operation.authorization = .verifiedStepUp evidenceSetDigest →
      db.stepUpScope row = some context.scope
  material : row.material = input.material.map AuthorizedOperationMaterialScope.materialActivation

/-- A session the row was granted by is active at the time of the caller. -/
def GrantActive (db : Database) (row : AuthorizedOperationRow) : Prop :=
  ∃ session ∈ db.sessions, row.through session = true ∧ session.scope = context.scope ∧
    db.sessionLive input.operation.claimedAtMs session = true

/-- What an answer says about the database before and after the exchange it came from. -/
inductive AdmissionSound (db db' : Database) : AdmissionResult → Prop
  | claimed {row : AuthorizedOperationRow} {ownerScope : Option PinnedOwnerWalletScope}
      (hfree : db.operation? (admissionKey codec context input) = none)
      (hstored : db'.operation? (admissionKey codec context input) = some row)
      (hinput : row.operation.toAuthorizedOperationInput = input.operation)
      (hclaimed : row.operation.lifecycle = .claimed) :
      AdmissionSound db db' (.claimed row.operation ownerScope)
  | operationInProgress {row : AuthorizedOperationRow}
      {ownerScope : Option PinnedOwnerWalletScope} (hdb : db' = db)
      (hstored : db.operation? (admissionKey codec context input) = some row)
      (hclaimed : row.operation.lifecycle = .claimed) (hpresents : Presents context input db row)
      (hactive : ∀ authorizationId,
        row.operation.authorization = .authorizationGrant authorizationId →
          GrantActive context input db row) :
      AdmissionSound db db' (.operationInProgress row.operation ownerScope)
  | replayed {row : AuthorizedOperationRow} (hdb : db' = db)
      (hstored : db.operation? (admissionKey codec context input) = some row)
      (hcompleted : row.operation.lifecycle ≠ .claimed)
      (hpresents : Presents context input db row)
      (hactive : ∀ authorizationId,
        row.operation.authorization = .authorizationGrant authorizationId →
          GrantActive context input db row) :
      AdmissionSound db db' (.replayed row.operation)
  | rejected (rejection : AuthorizedOperationAdmissionRejection) :
      AdmissionSound db db' (.rejected rejection)

/-- A claim stored its operation in the exchange; any other answer changed nothing. -/
structure Answered (db db' : Database) (result : AdmissionResult) : Prop where
  sound : AdmissionSound codec context input db db' result
  kept : result.isClaimed = false → db' = db
  inserted : result.isClaimed = true → ∃ clock operation,
    operation.toAuthorizedOperationInput = input.operation ∧
      Inserts db clock (admissionInsert context input operation) db'

abbrev Exchange : Type := (Database × Delivery) × Database × Delivery

/-- An answer that came from the last exchange, or from none. -/
def AnswerSound : Option Exchange → AdmissionResult → Prop
  | some ((db, _), db', _), result => Answered codec context input db db' result
  | none, result => ∃ rejection, result = .rejected rejection

variable {codec context input}

/-- An exchange that changed nothing claimed nothing. -/
theorem AdmissionSound.answered (h : AdmissionSound codec context input db db result) :
    Answered codec context input db db result where
  sound := h
  kept _ := rfl
  inserted hclaimed := by
    cases h with
    | claimed hfree hstored => exact absurd (hfree.symm.trans hstored) nofun
    | operationInProgress | replayed | rejected => cases hclaimed

end Answers

/-! ## The parts of an admission -/

section Parts

variable {codec : OperationCodec} {context : D1AuthorizationContext} {input : AdmissionInput}

structure Builds (codec : OperationCodec) (input : AdmissionInput)
    (operation : AuthorizedOperation) : Prop where
  built : operation.toAuthorizedOperationInput = input.operation
  fingerprint : operation.operationFingerprintDigest =
    codec.computeCapabilityOperationFingerprintDigest input.operation.operation
  lifecycle : operation.lifecycle = .claimed

theorem Builds.key (h : Builds codec input operation) :
    (⟨context.nameSpace, operation.tenantId, operation.operationFingerprintDigest⟩ :
      OperationKey) = admissionKey codec context input := by
  rw [admissionKey, ← h.fingerprint, ← h.built]

theorem parseAuthorizedOperationRow_eq_ok {row : AuthorizedOperationRow}
    (h : parseAuthorizedOperationRow codec row = .ok operation) : operation = row.operation := by
  obtain ⟨_, -, h⟩ := bind_eq_ok.mp h
  obtain ⟨_, -, h⟩ := bind_eq_ok.mp h
  split at h
  · exact (pure_eq_ok.mp h).symm
  · obtain ⟨_, -, h⟩ := bind_eq_ok.mp h
    obtain ⟨_, -, h⟩ := bind_eq_ok.mp h
    exact (pure_eq_ok.mp h).symm

variable {db : Database} {existing : AdmissionRow}

/-- A caller that does not mismatch presents what the row was stored with. -/
theorem presents_of_replayMismatch_none
    (hoperation : operation.toAuthorizedOperationInput = input.operation)
    (hscope : existing.stepUpScope = db.stepUpScope existing.row)
    (h : authorizedOperationReplayMismatch existing operation input.material context.scope = none) :
    Presents context input db existing.row := by
  rw [authorizedOperationReplayMismatch, Option.or_eq_none_iff, Option.or_eq_none_iff] at h
  obtain ⟨hsource, hquota, hmaterial⟩ := h
  have hauthorization : operation.authorization = input.operation.authorization :=
    congrArg AuthorizedOperationInput.authorization hoperation
  have hquota' : operation.quota = input.operation.quota :=
    congrArg AuthorizedOperationInput.quota hoperation
  constructor
  · rw [← hauthorization]
    rw [sourceMismatch] at hsource
    split at hsource <;> simp_all
  · rw [← hquota']
    rw [quotaMismatch] at hquota
    split at hquota <;> simp_all
  · intro authorizationId hgrant
    rw [sourceMismatch, hgrant] at hsource
    split at hsource <;> simp_all
  · intro evidenceSetDigest hstepUp
    rw [sourceMismatch, hstepUp] at hsource
    split at hsource <;> simp_all
  · simpa [materialMismatch] using hmaterial

variable {clock : ℕ}

theorem admissionRead_eq_some {read : AdmissionRead}
    (h : db.prepareAuthorizedOperationAdmissionRead clock read = some existing) :
    db.operation? read.key = some existing.row ∧
      existing.stepUpScope = db.stepUpScope existing.row ∧
      existing.authorizationSourceActive =
        db.authorizationSourceActive clock read existing.row := by
  obtain ⟨row, hstored, rfl⟩ := Option.map_eq_some_iff.mp h
  exact ⟨hstored, rfl, rfl⟩

theorem answerExisting_sound {stored : AuthorizedOperation} (hbuilds : Builds codec input operation)
    (hread : db.prepareAuthorizedOperationAdmissionRead clock (admissionRead context input
      operation) = some existing)
    (hparse : parseAuthorizedOperationRow codec existing.row = .ok stored) :
    AdmissionSound codec context input db db (answerExistingAuthorizedOperation context existing
      stored operation input.material).result := by
  obtain ⟨hstored, hscope, hsource⟩ := admissionRead_eq_some hread
  rw [AdmissionRead.key, admissionRead, hbuilds.key] at hstored
  have hactive : existing.authorizationSourceActive = true → ∀ authorizationId,
      existing.row.operation.authorization = .authorizationGrant authorizationId →
        GrantActive context input db existing.row := by
    intro hactive authorizationId hgrant
    rw [hsource, Database.authorizationSourceActive, hgrant, List.any_eq_true] at hactive
    obtain ⟨session, hmem, hsession⟩ := hactive
    rw [Bool.and_eq_true, Bool.and_eq_true, decide_eq_true_iff] at hsession
    refine ⟨session, hmem, hsession.1.1, hsession.1.2, ?_⟩
    rw [← hbuilds.built]
    exact hsession.2
  rw [parseAuthorizedOperationRow_eq_ok hparse, answerExistingAuthorizedOperation]
  split
  · exact .rejected _
  split
  · exact .rejected _
  rename_i hmatch
  have hpresents := presents_of_replayMismatch_none hbuilds.built hscope hmatch
  split
  · rename_i hlifecycle _
    split
    · rename_i hsourceActive
      exact .replayed rfl hstored (by simp [hlifecycle]) hpresents (hactive hsourceActive)
    · exact .rejected _
  · rename_i hlifecycle hstepUp
    refine .replayed rfl hstored (by simp [hlifecycle]) hpresents ?_
    intro authorizationId hgrant
    rw [hstepUp] at hgrant
    cases hgrant
  · rename_i hlifecycle
    split
    · rename_i hsourceActive
      exact .operationInProgress rfl hstored hlifecycle hpresents (hactive hsourceActive)
    · exact .rejected _

end Parts

/-! ## The calls keep to the exchange they answer from -/

section Calls

variable {codec : OperationCodec} {context : D1AuthorizationContext} {input : AdmissionInput}
  {m : Option Exchange}

/-- The statement changed nothing, or its answer was lost. -/
def Unchanged (s s' : Database × Delivery) : Prop :=
  s'.1 = s.1 ∨ ∃ message, s'.2 = .lost message

/-- An admission is described by its last exchange; those before changed nothing. -/
abbrev exchanges : Discipline database (Option Exchange) Unit :=
  Discipline.lastExchange database Unit Unchanged

theorem obeys_run {q : Statement} {post : Option Exchange → Except String q.Row → Prop}
    (hm : ∀ e, m = some e → Unchanged e.1 e.2)
    (h : ∀ outside db delivery answer db', Executes outside db q answer db' →
      post (some ((db, delivery), db', outside.delivery)) answer) :
    exchanges.Obeys post m (run q) := by
  refine obeys_bind (obeys_query fun s outside _ _ _ =>
    ⟨_, ⟨rfl, trivial, ⟨rfl, hm⟩, fun _ _ => trivial⟩, ?_⟩)
  exact obeys_pure (obeys_ofExcept (h outside s.1 s.2 _ _ (s.1.execute_cases outside q)))

def AdmissionPost (codec : OperationCodec) (context : D1AuthorizationContext)
    (input : AdmissionInput) (m : Option Exchange)
    (r : Except String AuthorizedOperationAdmissionOutcome) : Prop :=
  ∀ outcome, r = .ok outcome → AnswerSound codec context input m outcome.result

variable {error : String}

theorem admissionPost_error : AdmissionPost codec context input m (.error error) := by
  intro outcome h
  cases h

theorem admissionPost_rejected {delivery delivery' : Delivery}
    (rejection : AuthorizedOperationAdmissionRejection) :
    AdmissionPost codec context input (some ((db, delivery), db, delivery'))
      (.ok (.rejected rejection)) := by
  intro outcome h
  cases h
  exact (AdmissionSound.rejected rejection).answered

theorem obeys_recoverAdmission (hbuilds : Builds codec input operation)
    (hm : ∀ e, m = some e → Unchanged e.1 e.2) :
    exchanges.Obeys (AdmissionPost codec context input) m
      (recoverAdmission codec context input operation error) := by
  refine obeys_bind (obeys_ofExcept ?_)
  split
  · refine obeys_bind (obeys_run hm fun outside db delivery answer db' h => ?_)
    cases h with
    | failed | lost => exact admissionPost_error
    | @answered row db' h =>
      obtain ⟨rfl, rfl⟩ := Prod.mk.inj (pure_eq_ok.mp h)
      dsimp only
      split
      · rename_i existing hread
        refine obeys_bind (obeys_ofExcept ?_)
        split
        · rename_i stored hparse
          refine obeys_pure fun outcome houtcome => ?_
          cases houtcome
          exact (answerExisting_sound hbuilds hread hparse).answered
        · exact admissionPost_error
      · split
        · exact obeys_pure (admissionPost_rejected _)
        · exact obeys_fail admissionPost_error
  · exact admissionPost_error

def BatchPost (context : D1AuthorizationContext) (input : AdmissionInput)
    (operation : AuthorizedOperation) (m : Option Exchange)
    (committed : ℕ × Option AdmissionRow) : Prop :=
  ∃ clock db delivery db' delivery', m = some ((db, delivery), db', delivery') ∧
    db.prepareAuthorizedOperationInsert clock (admissionInsert context input operation) =
      .ok (committed.1, db') ∧
    committed.2 = db'.prepareAuthorizedOperationAdmissionRead clock
      (admissionRead context input operation)

theorem obeys_claimBatch : exchanges.Obeys (fun m r => match r with
      | .ok committed => BatchPost context input operation m committed
      | .error _ => ∀ e, m = some e → Unchanged e.1 e.2) none
      (claimBatch context input operation) := by
  refine obeys_bind (obeys_ofExcept ?_)
  split
  · refine obeys_run (q := .admissionBatch (admissionInsert context input operation)
      (admissionRead context input operation)) nofun fun outside db delivery answer db' h => ?_
    cases h with
    | failed =>
      rintro _ ⟨⟩
      exact .inl rfl
    | lost message hlost =>
      rintro _ ⟨⟩
      exact .inr ⟨message, hlost⟩
    | @answered row db' h =>
      obtain ⟨⟨changes, inserted⟩, hinsert, h⟩ := bind_eq_ok.mp h
      cases h
      exact ⟨outside.clock, db, _, _, _, rfl, hinsert, rfl⟩
  · exact nofun

theorem obeys_answerAdmission
    {committed : ℕ × Option AdmissionRow} (hbuilds : Builds codec input operation)
    (h : BatchPost context input operation m committed) :
    exchanges.Obeys (AdmissionPost codec context input) m
      (answerAdmission codec context input operation committed) := by
  obtain ⟨clock, db, _, db', _, rfl, hinsert, hread⟩ := h
  obtain ⟨changes, existing⟩ := committed
  cases existing with
  | none =>
    unfold answerAdmission
    dsimp only
    rcases Database.insert_eq_ok hinsert with ⟨rfl, rfl⟩ | ⟨rfl, -⟩
    · split
      · exact obeys_pure (admissionPost_rejected _)
      · split
        · exact obeys_pure (admissionPost_rejected _)
        · exact obeys_fail admissionPost_error
    · exact obeys_fail admissionPost_error
  | some existing =>
    refine obeys_bind (obeys_ofExcept ?_)
    split
    · rename_i stored hparse
      rcases Database.insert_eq_ok hinsert with ⟨rfl, rfl⟩ | ⟨rfl, hinserts⟩
      · refine obeys_pure fun outcome houtcome => ?_
        cases houtcome
        exact (answerExisting_sound hbuilds hread.symm hparse).answered
      · refine obeys_pure fun outcome houtcome => ?_
        cases houtcome
        refine ⟨?_, nofun, fun _ => ⟨clock, operation, hbuilds.built, hinserts⟩⟩
        have hkey : (admissionInsert context input operation).key =
            admissionKey codec context input := hbuilds.key
        have hstored := hinserts.stored
        obtain ⟨hrow, -, -⟩ := admissionRead_eq_some hread.symm
        have hfree := hinserts.free
        rw [hkey] at hstored hfree
        rw [AdmissionRead.key, admissionRead, hbuilds.key, hstored, Option.some.injEq] at hrow
        rw [parseAuthorizedOperationRow_eq_ok hparse, ← hrow]
        exact .claimed hfree hstored hbuilds.built rfl
    · exact admissionPost_error

theorem obeys_admitAuthorizedOperationRecord :
    exchanges.Obeys (AdmissionPost codec context input) none
      (admitAuthorizedOperationRecord codec context input) := by
  refine obeys_bind (obeys_ofExcept ?_)
  split
  · rename_i operation hbuild
    have hbuilds : Builds codec input operation := by
      obtain ⟨_, -, h⟩ := bind_eq_ok.mp hbuild
      obtain rfl := pure_eq_ok.mp h
      exact ⟨rfl, rfl, rfl⟩
    split
    · refine obeys_bind (obeys_handle (obeys_map (obeys_claimBatch.mono fun m' r hr => ?_)))
      cases r with
      | error error =>
        refine obeys_map ((obeys_recoverAdmission hbuilds hr).mono
          fun m'' r hr => ?_)
        cases r with
        | error error => exact admissionPost_error
        | ok outcome => exact obeys_pure hr
      | ok committed => exact obeys_answerAdmission hbuilds hr
    · refine obeys_pure fun outcome houtcome => ?_
      cases houtcome
      exact ⟨_, rfl⟩
  · exact admissionPost_error

variable {walletId : String}

/-- Pinning the owner changes what goes with an answer, not the answer. -/
theorem AnswerSound.pin {outcome : AuthorizedOperationAdmissionOutcome}
    (h : AnswerSound codec context input m outcome.result)
    (hpin : pinWalletSessionAdmission walletId outcome = .ok result) :
    AnswerSound codec context input m result := by
  cases outcome with
  | claimed operation row =>
    obtain ⟨ownerScope, -, hpin⟩ := bind_eq_ok.mp hpin
    obtain rfl := pure_eq_ok.mp hpin
    cases m with
    | none => exact absurd h (by rintro ⟨_, h⟩; cases h)
    | some exchange =>
      obtain ⟨hsound, -, hinserted⟩ := h
      cases hsound with
      | claimed hfree hstored hinput hclaimed =>
        exact ⟨.claimed hfree hstored hinput hclaimed, nofun, hinserted⟩
  | operationInProgress operation row =>
    obtain ⟨ownerScope, -, hpin⟩ := bind_eq_ok.mp hpin
    obtain rfl := pure_eq_ok.mp hpin
    cases m with
    | none => exact absurd h (by rintro ⟨_, h⟩; cases h)
    | some exchange =>
      obtain ⟨hsound, hkept, -⟩ := h
      cases hsound with
      | operationInProgress hdb hstored hclaimed hpresents hactive =>
        exact ⟨.operationInProgress hdb hstored hclaimed hpresents hactive, hkept, nofun⟩
  | replayed operation row | rejected rejection =>
    obtain rfl := pure_eq_ok.mp hpin
    exact h

theorem obeys_pinned : exchanges.Obeys (fun m r => ∀ result, r = .ok result →
      AnswerSound codec context input m result) none (do
        let outcome ← admitAuthorizedOperationRecord codec context input
        Program.ofExcept (pinWalletSessionAdmission walletId outcome)) := by
  refine obeys_bind (obeys_admitAuthorizedOperationRecord.mono fun m' r hr => ?_)
  cases r with
  | error error => rintro result ⟨⟩
  | ok outcome => exact obeys_ofExcept fun result hpin => (hr outcome rfl).pin hpin

end Calls

/-! ## Runs -/

def AuthorizationCall.admission? :
    AuthorizationCall → Option (D1AuthorizationContext × AdmissionInput)
  | .admitAuthorizedOperation context operation material =>
    some (context, { operation, material, materialSnapshot := none })
  | .admitEcdsaWalletSessionOperation context operation material readSnapshot =>
    some (context, { operation, material := some material, materialSnapshot := some readSnapshot })
  | .admitEd25519WalletSessionOperation context operation _ =>
    some (context, { operation, material := none, materialSnapshot := none })
  | _ => none

def CallPost (codec : OperationCodec) (context : D1AuthorizationContext) (input : AdmissionInput)
    (m : Option Exchange) (r : Except String CallAnswer) : Prop :=
  ∀ result, r = .ok (.admission result) → AnswerSound codec context input m result

theorem obeys_admission {p : Store AdmissionResult} {m : Option Exchange}
    (h : exchanges.Obeys (fun m r => ∀ result, r = .ok result →
      AnswerSound codec context input m result) m p) :
    exchanges.Obeys (CallPost codec context input) m (CallAnswer.admission <$> p) := by
  refine obeys_map (h.mono fun m' r hr result hresult => ?_)
  cases r with
  | error error => cases hresult
  | ok answer =>
    cases hresult
    exact hr _ rfl

theorem AuthorizationCall.obeys (codec : OperationCodec) {call : AuthorizationCall}
    (h : call.admission? = some (context, input)) :
    exchanges.Obeys (CallPost codec context input) none (call.program codec) := by
  cases call <;> cases h
  · refine obeys_admission (obeys_bind
      (obeys_admitAuthorizedOperationRecord.mono fun m' r hr => ?_))
    cases r with
    | error error => rintro result ⟨⟩
    | ok outcome =>
      refine obeys_pure fun result hresult => ?_
      cases hresult
      exact hr outcome rfl
  · exact obeys_admission obeys_pinned
  · exact obeys_admission obeys_pinned

/-- Other parts of the system leave the operations alone. -/
def KeepsOperations (db db' : Database) : Prop := db'.operations = db.operations

/-- Call `i` is this admission and has ended with this answer. -/
def AuthorizationState.Admitted (state : AuthorizationState) (i : ℕ)
    (context : D1AuthorizationContext) (input : AdmissionInput) (result : AdmissionResult) :
    Prop :=
  ∃ thread, state.threads[i]? = some thread ∧ thread.call.admission? = some (context, input) ∧
    thread.rest.result? = some (.ok (.admission result))

def AdmissionResult.operation? : AdmissionResult → Option AuthorizedOperation
  | .claimed operation _ | .operationInProgress operation _ | .replayed operation =>
    some operation
  | .rejected _ => none

theorem AdmissionSound.stored {db' : Database}
    (h : AdmissionSound codec context input db db' result)
    (hoperation : result.operation? = some operation) :
    ∃ row, db'.operation? (admissionKey codec context input) = some row ∧
      row.operation = operation := by
  cases h with
  | claimed _ hstored =>
    cases hoperation
    exact ⟨_, hstored, rfl⟩
  | operationInProgress hdb hstored | replayed hdb hstored =>
    cases hoperation
    exact ⟨_, hdb ▸ hstored, rfl⟩
  | rejected => cases hoperation

theorem AdmissionSound.free {db' : Database}
    (h : AdmissionSound codec context input db db' result) (hclaimed : result.isClaimed = true) :
    db.operation? (admissionKey codec context input) = none := by
  cases h with
  | claimed hfree => exact hfree
  | operationInProgress | replayed | rejected => cases hclaimed

/-- Every admission is described by its last exchange. -/
def AuthorizationState.Described (codec : OperationCodec) (state : AuthorizationState) : Prop :=
  ∀ (i : ℕ) (thread : AuthorizationThread) context input, state.threads[i]? = some thread →
    thread.call.admission? = some (context, input) →
    ∃ m, exchanges.Obeys (CallPost codec context input) m thread.rest

/-- Every answer that names an operation names the one that is stored, and no two
admissions have claimed the same one. -/
structure AuthorizationState.Accounted (codec : OperationCodec) (state : AuthorizationState) :
    Prop where
  described : state.Described codec
  stored : ∀ i context input result operation, state.Admitted i context input result →
    result.operation? = some operation →
    ∃ row, state.db.operation? (admissionKey codec context input) = some row ∧
      row.operation.toAuthorizedOperationInput = operation.toAuthorizedOperationInput
  once : ∀ i j context context' input input' result result',
    state.Admitted i context input result → state.Admitted j context' input' result' →
    result.isClaimed = true → result'.isClaimed = true →
    admissionKey codec context input = admissionKey codec context' input' → i = j

section Steps

variable {codec : OperationCodec} {state state' : AuthorizationState}
  {event : AuthorizationEvent}

theorem StepCases.retains (h : StepCases codec KeepsOperations state event state') :
    state.db.Retains state'.db := by
  cases h with
  | call => exact .refl _
  | statement outside => exact (state.db.execute_cases outside _).performs.retains
  | elsewhere hkeeps => exact Database.retains_of_operations_eq hkeeps

variable {Keeps : Database → Database → Prop}

/-- At most one thread moves in a step, and then it is described by this step. -/
theorem StepCases.thread
    (h : StepCases codec Keeps state event state') (hdescribed : state.Described codec) :
    ∃ k, ∀ (i : ℕ) (thread : AuthorizationThread) context input, state'.threads[i]? = some thread →
      thread.call.admission? = some (context, input) → state.threads[i]? = some thread ∨
        i = k ∧ ∃ m, exchanges.Obeys (CallPost codec context input) m thread.rest ∧
          (m = none ∧ state'.db = state.db ∨
            ∃ delivery delivery', m = some ((state.db, delivery), state'.db, delivery')) := by
  cases h with
  | call call =>
    refine ⟨state.threads.length, fun i thread context input hthread hadmission => ?_⟩
    by_cases hlt : i < state.threads.length
    · rw [List.getElem?_append_left hlt] at hthread
      exact .inl hthread
    · have hlen := (List.getElem?_eq_some_iff.mp hthread).1
      rw [List.length_append, List.length_singleton] at hlen
      rw [List.getElem?_append_right (Nat.le_of_not_lt hlt)] at hthread
      obtain rfl := List.mem_singleton.mp (List.mem_of_getElem? hthread)
      exact .inr ⟨by omega, none, AuthorizationCall.obeys codec hadmission, .inl ⟨rfl, rfl⟩⟩
  | @statement j call q next outside hmoved =>
    refine ⟨j, fun i thread context input hthread hadmission => ?_⟩
    by_cases hij : i = j
    · subst hij
      rw [List.getElem?_set_self (List.getElem?_eq_some_iff.mp hmoved).1,
        Option.some.injEq] at hthread
      subst hthread
      obtain ⟨m, hobeys⟩ := hdescribed _ _ _ _ hmoved hadmission
      exact .inr ⟨rfl, _, (hobeys.exchange (state.db, .answered) outside).2, .inr ⟨_, _, rfl⟩⟩
    · rw [List.getElem?_set_ne (Ne.symm hij)] at hthread
      exact .inl hthread
  | elsewhere => exact ⟨0, fun i thread _ _ hthread _ => .inl hthread⟩

/-- An answer is as old as the state before, or comes from the one call that moved, and
then says how the step changed the database. -/
theorem StepCases.admitted
    (h : StepCases codec Keeps state event state') (hdescribed : state.Described codec) :
    ∃ k, ∀ i context input result, state'.Admitted i context input result →
      state.Admitted i context input result ∨
        i = k ∧ Answered codec context input state.db state'.db result := by
  obtain ⟨k, hthreads⟩ := h.thread hdescribed
  refine ⟨k, fun i context input result hadmitted => ?_⟩
  obtain ⟨thread, hthread, hcall, hresult⟩ := hadmitted
  rcases hthreads i thread context input hthread hcall with hold | ⟨hik, m, hobeys, hm⟩
  · exact .inl ⟨thread, hold, hcall, hresult⟩
  · have hsound := hobeys.result hresult result rfl
    rcases hm with ⟨rfl, hdb⟩ | ⟨_, _, rfl⟩
    · obtain ⟨rejection, rfl⟩ := hsound
      rw [hdb]
      exact .inr ⟨hik, (AdmissionSound.rejected rejection).answered⟩
    · exact .inr ⟨hik, hsound⟩

/-- The key of an operation that has been claimed is taken. -/
theorem AuthorizationState.Accounted.taken (haccounted : state.Accounted codec) {i : ℕ}
    (hadmitted : state.Admitted i context input result) (hclaimed : result.isClaimed = true) :
    state.db.operation? (admissionKey codec context input) ≠ none := by
  intro hfree
  cases result with
  | claimed operation ownerScope =>
    obtain ⟨row, hrow, -⟩ := haccounted.stored i context input _ operation hadmitted rfl
    rw [hfree] at hrow
    cases hrow
  | operationInProgress | replayed | rejected => cases hclaimed

theorem AuthorizationState.Accounted.step (haccounted : state.Accounted codec)
    (h : StepCases codec KeepsOperations state event state') : state'.Accounted codec := by
  have hretains := h.retains
  obtain ⟨k, hadmitted⟩ := h.admitted haccounted.described
  constructor
  · obtain ⟨k, hthreads⟩ := h.thread haccounted.described
    intro i thread context input hthread hcall
    rcases hthreads i thread context input hthread hcall with hold | ⟨-, m, hobeys, -⟩
    · exact haccounted.described i thread context input hold hcall
    · exact ⟨m, hobeys⟩
  · intro i context input result operation hi hoperation
    rcases hadmitted i context input result hi with hold | ⟨-, hsound⟩
    · obtain ⟨row, hrow, hinput⟩ :=
        haccounted.stored i context input result operation hold hoperation
      obtain ⟨row', hrow', hcontinues⟩ := hretains _ row hrow
      cases hcontinues with
      | refl | completed => exact ⟨_, hrow', hinput⟩
    · obtain ⟨row, hrow, rfl⟩ := hsound.sound.stored hoperation
      exact ⟨row, hrow, rfl⟩
  · intro i j context context' input input' result result' hi hj hclaimed hclaimed' hkey
    -- A claim of this step found its key free, so nobody had claimed it before.
    rcases hadmitted i _ _ _ hi with hiold | ⟨hik, hisound⟩
    · rcases hadmitted j _ _ _ hj with hjold | ⟨-, hjsound⟩
      · exact haccounted.once i j _ _ _ _ _ _ hiold hjold hclaimed hclaimed' hkey
      · exact absurd (hkey ▸ hjsound.sound.free hclaimed') (haccounted.taken hiold hclaimed)
    · rcases hadmitted j _ _ _ hj with hjold | ⟨hjk, -⟩
      · exact absurd (hkey ▸ hisound.sound.free hclaimed) (haccounted.taken hjold hclaimed')
      · exact hik.trans hjk.symm

variable {log : List AuthorizationEvent}

theorem accounted_of_run {start : AuthorizationState} (hstart : start.threads = [])
    (hrun : Run (Step codec KeepsOperations) start log state) : state.Accounted codec := by
  refine hrun.invariant (fun _ state => state.Accounted codec) ?_ ?_
  · constructor <;> simp [AuthorizationState.Described, AuthorizationState.Admitted, hstart]
  · intro log s e s' _ haccounted hstep
    exact haccounted.step (step_cases hstep)

theorem retains_of_run (hrun : Run (Step codec KeepsOperations) state log state') :
    state.db.Retains state'.db := by
  refine hrun.invariant (fun _ s => state.db.Retains s.db) (.refl _) ?_
  intro log s e s' _ hretains hstep
  exact hretains.trans (step_cases hstep).retains

/-- However calls are interleaved, at most one admission claims an operation, all answers
that name an operation of one key name the same one, and every answer is sound at the
step that gives it; a completed operation keeps its result. -/
theorem operation_claimed_once {start : AuthorizationState} {log : List AuthorizationEvent}
    (hstart : start.threads = []) (hrun : Run (Step codec KeepsOperations) start log state) :
    (∀ i j context context' input input' result result',
      state.Admitted i context input result → state.Admitted j context' input' result' →
      admissionKey codec context input = admissionKey codec context' input' →
      (result.isClaimed = true → result'.isClaimed = true → i = j) ∧
      ∀ operation operation', result.operation? = some operation →
        result'.operation? = some operation' →
        operation.toAuthorizedOperationInput = operation'.toAuthorizedOperationInput) ∧
    (∀ event state', Step codec KeepsOperations state event state' →
      ∀ i context input result, state'.Admitted i context input result →
        state.Admitted i context input result ∨
          AdmissionSound codec context input state.db state'.db result) ∧
    ∀ key row, state.db.operation? key = some row → row.operation.lifecycle ≠ .claimed →
      ∀ log' state', Run (Step codec KeepsOperations) state log' state' →
        state'.db.operation? key = some row := by
  have haccounted := accounted_of_run hstart hrun
  refine ⟨?_, ?_, ?_⟩
  · intro i j context context' input input' result result' hi hj hkey
    refine ⟨fun hclaimed hclaimed' =>
      haccounted.once i j _ _ _ _ _ _ hi hj hclaimed hclaimed' hkey, ?_⟩
    intro operation operation' hoperation hoperation'
    obtain ⟨row, hrow, hinput⟩ := haccounted.stored i _ _ _ _ hi hoperation
    obtain ⟨row', hrow', hinput'⟩ := haccounted.stored j _ _ _ _ hj hoperation'
    rw [hkey, hrow', Option.some.injEq] at hrow
    rw [← hinput, ← hinput', hrow]
  · intro event state' hstep i context input result hadmitted
    obtain ⟨k, hadmitted'⟩ := (step_cases hstep).admitted haccounted.described
    exact (hadmitted' i context input result hadmitted).imp_right fun h => h.2.sound
  · intro key row hrow hcompleted log' state' hrun'
    obtain ⟨row', hrow', hcontinues⟩ := retains_of_run hrun' key row hrow
    cases hcontinues with
    | refl => exact hrow'
    | completed hclaimed => exact absurd hclaimed hcompleted

end Steps

/-- Two admissions of one operation and its completion: issued, claimed, completed, and
the second admission is answered with the result. -/
def replayRun : List AuthorizationEvent :=
  sampleCall (.commitDirectWalletSessionAuthorizationV2 sampleContext sampleSession) 0 1 ++
    sampleCall (sampleAdmit "operation") 1 1 ++
    sampleCall (.completeAuthorizedOperation sampleContext
      { sampleOperation "operation" with
        operationFingerprintDigest := "operation"
        lifecycle := .claimed } .succeeded ⟨200, "application/json", "signed"⟩ 30) 2 1 ++
    sampleCall (sampleAdmit "operation") 3 1

def replayedOperation : AuthorizedOperation :=
  { sampleOperation "operation" with
    operationFingerprintDigest := "operation"
    lifecycle := .completed .succeeded ⟨200, "application/json", "signed"⟩ "signed" 30 }

def replayedKey : OperationKey := ⟨"ns", "tenant", "operation"⟩

theorem operation_claimed_once_replayed :
    ∃ state, Run (Step sampleCodec KeepsOperations) sampleState replayRun state ∧
      state.answer? 1 = some (.admission (.claimed
        { replayedOperation with lifecycle := .claimed } none)) ∧
      state.answer? 3 = some (.admission (.replayed replayedOperation)) ∧
      state.db.operation? replayedKey ≠ none ∧
      ∀ log' state', Run (Step sampleCodec KeepsOperations) state log' state' →
        state'.db.operation? replayedKey = state.db.operation? replayedKey := by
  have hrun : (runOwn sampleCodec sampleState replayRun).bind (fun s =>
      some (s.answer? 1, s.answer? 3, (s.db.operation? replayedKey).map
        fun (row : AuthorizedOperationRow) => decide (row.operation.lifecycle ≠ .claimed))) =
      some (some (.admission (.claimed
        { replayedOperation with lifecycle := .claimed } none)),
        some (.admission (.replayed replayedOperation)), some true) := by
    decide +kernel
  obtain ⟨state, hstate, hresult⟩ := Option.bind_eq_some_iff.mp hrun
  obtain ⟨hclaimed, hrest⟩ := Prod.mk.inj (Option.some.inj hresult)
  obtain ⟨hreplayed, hstored⟩ := Prod.mk.inj hrest
  obtain ⟨row, hrow, hcompleted⟩ := Option.map_eq_some_iff.mp hstored
  have hrun := run_of_runOwn KeepsOperations hstate
  refine ⟨state, hrun, hclaimed, hreplayed, by rw [hrow]; exact Option.some_ne_none row, ?_⟩
  intro log' state' hrun'
  rw [hrow]
  exact (operation_claimed_once rfl hrun).2.2 _ row hrow (of_decide_eq_true hcompleted) log'
    state' hrun'

end SeamsWallet.Authorization
