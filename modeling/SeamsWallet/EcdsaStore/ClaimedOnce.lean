import SeamsWallet.EcdsaStore.Transactions
import SeamsWallet.Library.Run

/-!
# Signing effects are claimed once

The store receives any sequence of claims, commits and pool commands, each in
one transaction and each with any answers from the tables it only reads. Two
things never go away: an effect that is stored stays stored under its keys,
with its response once it has one, and a presignature that is spent stays
spent. A claim that is granted needs both to be absent and leaves both behind.
-/

namespace SeamsWallet.EcdsaStore

open Library EcdsaPool WalletObject

/-! ## Calls -/

inductive StoreCall (Admission : Type) where
  | claim (scope : WalletScope) (admitted : AdmittedEcdsaFinalizeRequest Admission)
      (nowUnixMs : ℕ)
  | commit (scope : WalletScope) (admitted : AdmittedEcdsaFinalizeRequest Admission)
      (response : EcdsaSigningResponse) (nowUnixMs : ℕ)
  | mutate (scope : WalletScope) (command : EcdsaPoolCommand)

inductive StoreAnswer where
  | claim (answer : RouterAbProtocolResult ClaimAndConsume)
  | commit (answer : RouterAbProtocolResult TerminalResponseCommit)
  | mutate (answer : RouterAbProtocolResult EcdsaPoolMutationOutcome)

variable {Admission : Type} {env : WalletEnvironment Admission}
  {admitted : AdmittedEcdsaFinalizeRequest Admission} {scope : WalletScope}

def answerCall (env : WalletEnvironment Admission)
    (tables : EcdsaTables) (call : StoreCall Admission × WalletReads) :
    StoreAnswer × EcdsaTables :=
  match call with
  | (.claim scope admitted nowUnixMs, reads) =>
    (transact tables
      (claimAndConsumeEffect env reads tables scope admitted nowUnixMs)).map .claim id
  | (.commit scope admitted response nowUnixMs, reads) =>
    (transact tables
      (commitTerminal env reads tables scope admitted response nowUnixMs)).map .commit id
  | (.mutate scope command, reads) =>
    (transact tables (mutatePool env reads tables scope command)).map .mutate id

abbrev StoreEvent (Admission : Type) : Type :=
  (StoreCall Admission × WalletReads) × StoreAnswer

/-- The event granted a claim: its operation and authorisation keys, and the
pool key of the presignature it handed out. -/
def StoreEvent.Claims (env : WalletEnvironment Admission)
    (event : StoreEvent Admission) (operationKey authorizationKey poolKey : String) : Prop :=
  ∃ scope admitted nowUnixMs material, event.1.1 = .claim scope admitted nowUnixMs ∧
    event.2 = .claim (.ok (.claimed material)) ∧
    admitted.effectOperationKey env = .ok operationKey ∧
    admitted.effectAuthorizationKey env = .ok authorizationKey ∧
    ecdsaPoolStorageKey env.prims admitted.request.scope
      admitted.request.serverPresignatureId = .ok poolKey

def StoreEvent.Commits (env : WalletEnvironment Admission)
    (event : StoreEvent Admission) (operationKey responseJson : String) : Prop :=
  ∃ scope admitted response nowUnixMs, event.1.1 = .commit scope admitted response nowUnixMs ∧
    event.2 = .commit (.ok .committed) ∧
    admitted.effectOperationKey env = .ok operationKey ∧
    env.responseJson response = responseJson

/-! ## What never goes away -/

def HasEffect (tables : EcdsaTables) (operationKey authorizationKey : String) : Prop :=
  ∃ row ∈ tables.effects.rows,
    row.operationKey = operationKey ∧ row.authorizationKey = authorizationKey

def Recorded (tables : EcdsaTables) (operationKey responseJson : String) : Prop :=
  ∃ row ∈ tables.effects.rows,
    row.operationKey = operationKey ∧ row.terminalJson = some responseJson

/-- Nothing that was stored is lost from one state of the tables to the next. -/
structure Keeps (tables tables' : EcdsaTables) : Prop where
  spent : ∀ key, Spent tables key → Spent tables' key
  effect : ∀ operationKey authorizationKey, HasEffect tables operationKey authorizationKey →
    HasEffect tables' operationKey authorizationKey
  recorded : ∀ operationKey responseJson, Recorded tables operationKey responseJson →
    Recorded tables' operationKey responseJson

theorem Keeps.refl (tables : EcdsaTables) : Keeps tables tables :=
  ⟨fun _ => id, fun _ _ => id, fun _ _ => id⟩

variable {tables tables' : EcdsaTables}

theorem Keeps.of_effects_subset (hspent : ∀ key, Spent tables key → Spent tables' key)
    (hrows : ∀ row ∈ tables.effects.rows, row ∈ tables'.effects.rows) : Keeps tables tables' := by
  refine ⟨hspent, ?_, ?_⟩
  · rintro operationKey authorizationKey ⟨row, hrow, hkeys⟩
    exact ⟨row, hrows row hrow, hkeys⟩
  · rintro operationKey responseJson ⟨row, hrow, hkeys⟩
    exact ⟨row, hrows row hrow, hkeys⟩

variable {Admission : Type}

theorem PoolMutated.keeps {command : EcdsaPoolCommand}
    {outcome : EcdsaPoolMutationOutcome} {key : String} {current : Option EcdsaPoolLifecycleRecord}
    (h : PoolMutated env tables command outcome tables' key current) : Keeps tables tables' := by
  apply Keeps.of_effects_subset fun _ => h.spent_kept
  intro row hrow
  rw [h.effects]
  exact hrow

variable {identity : EffectIdentity}

theorem ClaimedFresh.keeps {answer : ClaimAndConsume} {key : String}
    (h : ClaimedFresh env tables admitted identity answer tables' key) : Keeps tables tables' := by
  apply Keeps.of_effects_subset h.spent_kept
  intro row hrow
  rcases h.outcome with ⟨-, heffects⟩ | ⟨-, -, -, added, -, -, hrows⟩
  · rw [heffects]
    exact hrow
  · rw [hrows]
    exact List.mem_append_left _ hrow

variable {responseJson : String} {answer : TerminalResponseCommit}

theorem CommitAnswered.keeps {row : EcdsaEffectRow}
    (h : CommitAnswered tables identity responseJson answer tables' row) :
    Keeps tables tables' := by
  rcases h.answer with ⟨-, rfl⟩ | ⟨-, -, committedAtMs, -, hrows⟩
  · exact Keeps.refl _
  · refine ⟨?_, ?_, ?_⟩
    · intro key hspent
      unfold Spent
      rw [h.pool]
      exact hspent
    · rintro operationKey authorizationKey ⟨r, hr, hkeys⟩
      rcases hrows r hr with hmem | ⟨-, hmem⟩
      · exact ⟨r, hmem, hkeys⟩
      · exact ⟨_, hmem, hkeys⟩
    · rintro operationKey json ⟨r, hr, hkey, hjson⟩
      rcases hrows r hr with hmem | ⟨hnone, -⟩
      · exact ⟨r, hmem, hkey, hjson⟩
      · rw [hnone] at hjson
        cases hjson

/-! ## One call -/

theorem answerCall_keeps (env : WalletEnvironment Admission) (tables : EcdsaTables)
    (call : StoreCall Admission × WalletReads) : Keeps tables (answerCall env tables call).2 := by
  obtain ⟨call, reads⟩ := call
  cases call with
  | claim scope admitted nowUnixMs =>
    apply transact_keeps (Keeps tables) (Keeps.refl tables)
    intro answer tables' h
    obtain ⟨identity, -, ⟨-, rfl⟩ | ⟨key, hfresh⟩⟩ := claimAndConsumeEffect_eq_ok h
    · exact Keeps.refl _
    · exact hfresh.keeps
  | commit scope admitted response nowUnixMs =>
    apply transact_keeps (Keeps tables) (Keeps.refl tables)
    intro answer tables' h
    obtain ⟨identity, row, -, hcommit⟩ := commitTerminal_eq_ok h
    exact hcommit.keeps
  | mutate scope command =>
    apply transact_keeps (Keeps tables) (Keeps.refl tables)
    intro answer tables' h
    obtain ⟨key, current, hmutated⟩ := mutatePool_eq_ok h
    exact hmutated.keeps

variable {nowUnixMs : ℕ} {reads : WalletReads} {scope : WalletScope}

theorem claim_of_answer {env : WalletEnvironment Admission}
    {admitted : AdmittedEcdsaFinalizeRequest Admission} {answer : ClaimAndConsume}
    (h : answerCall env tables (.claim scope admitted nowUnixMs, reads) =
      (.claim (.ok answer), tables')) :
    claimAndConsumeEffect env reads tables scope admitted nowUnixMs = .ok (answer, tables') := by
  apply transact_eq_ok
  obtain ⟨hanswer, htables⟩ := Prod.mk.inj h
  exact Prod.ext (StoreAnswer.claim.inj hanswer) htables

variable {response : EcdsaSigningResponse}

theorem commit_of_answer
    (h : answerCall env tables (.commit scope admitted response nowUnixMs, reads) =
      (.commit (.ok answer), tables')) :
    commitTerminal env reads tables scope admitted response nowUnixMs = .ok (answer, tables') := by
  apply transact_eq_ok
  obtain ⟨hanswer, htables⟩ := Prod.mk.inj h
  exact Prod.ext (StoreAnswer.commit.inj hanswer) htables

variable {event : StoreEvent Admission} {operationKey authorizationKey : String}

/-- A granted claim found neither its keys nor a spent presignature, and left
both. -/
theorem claims_step {env : WalletEnvironment Admission} {poolKey : String}
    (h : Answers (answerCall env) tables event tables')
    (hclaims : StoreEvent.Claims env event operationKey authorizationKey poolKey) :
    (∀ o a, HasEffect tables o a → o ≠ operationKey ∧ a ≠ authorizationKey) ∧
      ¬ Spent tables poolKey ∧ HasEffect tables' operationKey authorizationKey ∧
      Spent tables' poolKey := by
  obtain ⟨⟨call, reads⟩, answer⟩ := event
  obtain ⟨scope, admitted, nowUnixMs, material, rfl, rfl, hoperation, hauthorization,
    hpool⟩ := hclaims
  obtain ⟨identity, hidentity, hend⟩ := claimAndConsumeEffect_eq_ok (claim_of_answer h)
  obtain ⟨hop, hauth⟩ := effectIdentity_eq_ok hidentity
  cases hoperation.symm.trans hop
  cases hauthorization.symm.trans hauth
  rcases hend with ⟨⟨row, hanswered⟩, -⟩ | ⟨key, hfresh⟩
  · have hanswer := hanswered.answer
    cases hterminal : row.terminalJson <;> simp [hterminal] at hanswer
  · cases hpool.symm.trans hfresh.storageKey
    rcases hfresh.outcome with ⟨hburned, -⟩ | ⟨-, hlive, hspent, row, hrowOp, hrowAuth, hrows⟩
    · cases hburned
    · refine ⟨?_, hlive, ⟨row, ?_, hrowOp, hrowAuth⟩, hspent⟩
      · rintro o a ⟨r, hr, rfl, rfl⟩
        exact hfresh.unclaimed r hr
      · rw [hrows]
        exact List.mem_append_right _ List.mem_cons_self

theorem commits_step {env : WalletEnvironment Admission}
    (h : Answers (answerCall env) tables event tables')
    (hcommits : StoreEvent.Commits env event operationKey responseJson) :
    Recorded tables' operationKey responseJson := by
  obtain ⟨⟨call, reads⟩, answer⟩ := event
  obtain ⟨scope, admitted, response, nowUnixMs, rfl, rfl, hoperation, rfl⟩ := hcommits
  obtain ⟨identity, row, hidentity, hcommit⟩ := commitTerminal_eq_ok (commit_of_answer h)
  cases hoperation.symm.trans (effectIdentity_eq_ok hidentity).1
  rcases hcommit.answer with ⟨⟨terminalJson, -, hreplay⟩, -⟩ | ⟨-, -, committedAtMs, hrow, -⟩
  · cases hreplay
  · exact hrow

/-! ## Whole runs -/

/-- What the answers given so far say about the tables. -/
structure StoreHistory {Admission : Type} (env : WalletEnvironment Admission)
    (log : List (StoreEvent Admission)) (tables : EcdsaTables) : Prop where
  claimed : ∀ e ∈ log, ∀ o a k, StoreEvent.Claims env e o a k →
    HasEffect tables o a ∧ Spent tables k
  committed : ∀ e ∈ log, ∀ o j, StoreEvent.Commits env e o j → Recorded tables o j
  once : log.Pairwise fun e e' => ∀ o a k o' a' k',
    StoreEvent.Claims env e o a k → StoreEvent.Claims env e' o' a' k' → o ≠ o' ∧ a ≠ a' ∧ k ≠ k'
  granted : ∀ e ∈ log, ∀ scope admitted nowUnixMs reads material,
    e = ((.claim scope admitted nowUnixMs, reads), .claim (.ok (.claimed material))) →
      material.serverPresignatureId = admitted.request.serverPresignatureId ∧
      ∃ o a k, StoreEvent.Claims env e o a k

variable {log : List (StoreEvent Admission)} {env : WalletEnvironment Admission}

theorem StoreHistory.step (h : StoreHistory env log tables)
    (hstep : Answers (answerCall env) tables event tables') :
    StoreHistory env (log ++ [event]) tables' := by
  have hkeeps : Keeps tables tables' := by
    have := answerCall_keeps env tables event.1
    rwa [show answerCall env tables event.1 = (event.2, tables') from hstep] at this
  constructor
  · rw [List.forall_mem_append, List.forall_mem_singleton]
    constructor
    · intro e he o a k hclaims
      obtain ⟨heffect, hspent⟩ := h.claimed e he o a k hclaims
      exact ⟨hkeeps.effect o a heffect, hkeeps.spent k hspent⟩
    · intro o a k hclaims
      exact (claims_step hstep hclaims).2.2
  · rw [List.forall_mem_append, List.forall_mem_singleton]
    constructor
    · intro e he o j hcommits
      exact hkeeps.recorded o j (h.committed e he o j hcommits)
    · intro o j hcommits
      exact commits_step hstep hcommits
  · rw [List.pairwise_append]
    refine ⟨h.once, List.pairwise_singleton _ _, ?_⟩
    intro e he e' he' o a k o' a' k' hclaims hclaims'
    rw [List.mem_singleton] at he'
    subst he'
    obtain ⟨heffect, hspent⟩ := h.claimed e he o a k hclaims
    obtain ⟨hkeys, hlive, -⟩ := claims_step hstep hclaims'
    refine ⟨(hkeys o a heffect).1, (hkeys o a heffect).2, ?_⟩
    rintro rfl
    exact hlive hspent
  · rw [List.forall_mem_append, List.forall_mem_singleton]
    refine ⟨h.granted, ?_⟩
    rintro scope admitted nowUnixMs reads material rfl
    obtain ⟨identity, hidentity, hend⟩ := claimAndConsumeEffect_eq_ok (claim_of_answer hstep)
    obtain ⟨hop, hauth⟩ := effectIdentity_eq_ok hidentity
    rcases hend with ⟨⟨row, hanswered⟩, -⟩ | ⟨key, hfresh⟩
    · have hanswer := hanswered.answer
      cases hterminal : row.terminalJson <;> simp [hterminal] at hanswer
    · rcases hfresh.outcome with ⟨hburned, -⟩ | ⟨⟨_, hmaterial, hpair⟩, -⟩
      · cases hburned
      · cases hmaterial
        exact ⟨hpair, _, _, key, scope, admitted, nowUnixMs, material, rfl, rfl, hop, hauth,
          hfresh.storageKey⟩

theorem StoreHistory.of_run {start : EcdsaTables}
    (h : Run (Answers (answerCall env)) start log tables) : StoreHistory env log tables := by
  apply h.invariant (StoreHistory env)
  · constructor <;> simp
  · intro log s e s' _ hs hstep
    exact hs.step hstep

/-- Along every sequence of store calls, from any tables: two granted claims
differ in their operation key, in their authorisation key and in the
presignature they hand out; a claim under the keys of a granted one writes
nothing; and once a response is stored for an operation, every claim and every
commit for it answers that response or fails. -/
theorem effects_claimed_once {Admission : Type} (env : WalletEnvironment Admission)
    (start : EcdsaTables) (calls : List (StoreCall Admission × WalletReads)) :
    ((answers (answerCall env) start calls).Pairwise fun e e' => ∀ o a k o' a' k',
      StoreEvent.Claims env e o a k → StoreEvent.Claims env e' o' a' k' →
        o ≠ o' ∧ a ≠ a' ∧ k ≠ k') ∧
    (∀ e ∈ answers (answerCall env) start calls, ∀ scope admitted nowUnixMs reads material,
      e = ((.claim scope admitted nowUnixMs, reads), .claim (.ok (.claimed material))) →
        material.serverPresignatureId = admitted.request.serverPresignatureId ∧
        ∃ o a k, StoreEvent.Claims env e o a k) ∧
    (∀ e ∈ answers (answerCall env) start calls, ∀ o a k, StoreEvent.Claims env e o a k →
      ∀ scope admitted nowUnixMs reads, (admitted.effectOperationKey env = .ok o ∨
          admitted.effectAuthorizationKey env = .ok a) →
        (answerCall env (stateAfter (answerCall env) start calls)
          (.claim scope admitted nowUnixMs, reads)).2 = stateAfter (answerCall env) start calls) ∧
    (∀ e ∈ answers (answerCall env) start calls, ∀ o j, StoreEvent.Commits env e o j →
      ∀ scope admitted nowUnixMs reads, admitted.effectOperationKey env = .ok o →
        (∀ answer, (answerCall env (stateAfter (answerCall env) start calls)
            (.claim scope admitted nowUnixMs, reads)).1 = .claim (.ok answer) →
          answer = .replay j) ∧
        (∀ response answer, (answerCall env (stateAfter (answerCall env) start calls)
            (.commit scope admitted response nowUnixMs, reads)).1 = .commit (.ok answer) →
          answer = .replay j)) := by
  have hhistory := StoreHistory.of_run (run_answers (answerCall env) calls start)
  refine ⟨hhistory.once, hhistory.granted, ?_, ?_⟩
  · -- under the keys of a stored effect a claim writes nothing
    intro e he o a k hclaims scope admitted nowUnixMs reads hkey
    obtain ⟨row, hrow, rfl, rfl⟩ := (hhistory.claimed e he o a k hclaims).1
    apply transact_keeps (· = stateAfter (answerCall env) start calls) rfl
    intro answer tables' hok
    obtain ⟨identity, hidentity, ⟨-, htables⟩ | ⟨key, hfresh⟩⟩ := claimAndConsumeEffect_eq_ok hok
    · exact htables
    · obtain ⟨hop, hauth⟩ := effectIdentity_eq_ok hidentity
      obtain ⟨hneOp, hneAuth⟩ := hfresh.unclaimed row hrow
      rcases hkey with hkey | hkey
      · exact absurd (Except.ok.inj (hkey.symm.trans hop)) hneOp
      · exact absurd (Except.ok.inj (hkey.symm.trans hauth)) hneAuth
  · -- the one row of the operation has the response
    intro e he o j hcommits scope admitted nowUnixMs reads hkey
    obtain ⟨row, hrow, rfl, hjson⟩ := hhistory.committed e he o j hcommits
    constructor
    · intro answer hanswer
      obtain ⟨identity, hidentity, hend⟩ :=
        claimAndConsumeEffect_eq_ok (claim_of_answer (Prod.ext hanswer rfl))
      have hop := Except.ok.inj (hkey.symm.trans (effectIdentity_eq_ok hidentity).1)
      rcases hend with ⟨⟨found, hanswered⟩, -⟩ | ⟨key, hfresh⟩
      · have hmem : row ∈ [found] :=
          hanswered.select ▸ Table.mem_select.mpr ⟨hrow, .inl hop⟩
        rw [hanswered.answer, ← List.mem_singleton.mp hmem, hjson]
      · exact absurd hop (hfresh.unclaimed row hrow).1
    · intro response answer hanswer
      obtain ⟨identity, found, hidentity, hcommit⟩ :=
        commitTerminal_eq_ok (commit_of_answer (Prod.ext hanswer rfl))
      have hop := Except.ok.inj (hkey.symm.trans (effectIdentity_eq_ok hidentity).1)
      have hmem : row ∈ [found] := hcommit.select ▸ Table.mem_select.mpr ⟨hrow, hop⟩
      rw [List.mem_singleton] at hmem
      rcases hcommit.answer with ⟨⟨terminalJson, hfound, rfl⟩, -⟩ | ⟨hnone, -⟩
      · rw [← hmem, hjson] at hfound
        cases hfound
        rfl
      · rw [← hmem, hjson] at hnone
        cases hnone

end SeamsWallet.EcdsaStore
