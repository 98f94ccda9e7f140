import SeamsWallet.EcdsaStore.Store

/-!
# What a call to the wallet store does

One inversion lemma per call. A pool mutation writes at most the row of its
own key, never a row whose record is terminal, and never an effect; a claim
either answers from the stored effect and writes nothing, or finds no effect
under its keys, consumes the presignature and stores the effect; a commit
either answers from the stored effect or fills in its missing response.
-/

namespace SeamsWallet.EcdsaStore

open Library EcdsaPool WalletObject

/-- The pool row under this key holds a consumed record or a tombstone. -/
def Spent (tables : EcdsaTables) (key : String) : Prop :=
  ∃ row ∈ tables.pool.rows, row.poolKey = key ∧ row.ciphertext.value.lifecycle.IsTerminal

variable {found : List EcdsaPoolRow}
  {Admission : Type} {env : WalletEnvironment Admission} {scope : WalletScope}
  {tables tables' : EcdsaTables} {admitted : AdmittedEcdsaFinalizeRequest Admission}
  {identity : EffectIdentity}

theorem openPoolRecord_eq_ok {key : String} {current : Option EcdsaPoolLifecycleRecord}
    (h : openPoolRecord env scope key found = .ok current) :
    found = [] ∧ current = none ∨ ∃ row, found = [row] ∧ current = some row.ciphertext.value := by
  match found with
  | [] =>
    left
    cases h
    exact ⟨rfl, rfl⟩
  | [row] =>
    right
    simp only [openPoolRecord, ok_iff] at h
    obtain ⟨-, identity, -, record, hrecord, -, rfl⟩ := h
    exact ⟨row, rfl, by rw [Sealed.openAs_eq_ok hrecord]⟩
  | _ :: _ :: _ => cases h

/-- A pool mutation: the record it found under its key, the transition it made,
and what it wrote. -/
structure PoolMutated {Admission : Type} (env : WalletEnvironment Admission)
    (tables : EcdsaTables) (command : EcdsaPoolCommand)
    (outcome : EcdsaPoolMutationOutcome) (tables' : EcdsaTables)
    (key : String) (current : Option EcdsaPoolLifecycleRecord) : Prop where
  storageKey : ecdsaPoolStorageKey env.prims command.scope command.serverPresignatureId = .ok key
  found : (tables.pool.select fun row => row.poolKey = key) = [] ∧ current = none ∨
    ∃ row, (tables.pool.select fun row => row.poolKey = key) = [row] ∧
      current = some row.ciphertext.value
  applied : Applied env.prims current command outcome
  valid : outcome.validate env.prims = .ok ()
  effects : tables'.effects = tables.effects
  pool : (recordIsTerminal current ∨ isAlreadyStored outcome) ∧ tables' = tables ∨
    ¬ recordIsTerminal current ∧ ∃ ownerJson identity,
      let written := writePoolRecord tables.pool
        (tables.pool.select fun row => row.poolKey = key) key ownerJson
        ⟨"ecdsa_pool", identity, outcome.record⟩
      written.1 ≠ [] ∧ tables'.pool = written.2

variable {outcome : EcdsaPoolMutationOutcome} {command : EcdsaPoolCommand}

theorem mutatePoolRecord_eq_ok
    (h : mutatePoolRecord env tables scope command = .ok (outcome, tables')) :
    ∃ key current, PoolMutated env tables command outcome tables' key current := by
  simp only [mutatePoolRecord, ok_iff] at h
  obtain ⟨-, -, -, key, hkey, current, hcurrent, outcome', houtcome, hvalid, h⟩ := h
  have hfound := openPoolRecord_eq_ok hcurrent
  have happlied := applyCommand_eq_ok houtcome
  by_cases hkeep : recordIsTerminal current ∨ isAlreadyStored outcome'
  · rw [if_pos hkeep, pure_eq_ok, Prod.mk.injEq] at h
    obtain ⟨rfl, rfl⟩ := h
    exact ⟨key, current, hkey, hfound, happlied, hvalid, rfl, .inl ⟨hkeep, rfl⟩⟩
  · rw [if_neg hkeep] at h
    simp only [ok_iff, Prod.mk.injEq] at h
    obtain ⟨identity, -, hwritten, rfl, rfl⟩ := h
    refine ⟨key, current, hkey, hfound, happlied, hvalid, rfl,
      .inr ⟨fun hterminal => hkeep (.inl hterminal), env.scopeJson scope, identity, ?_, rfl⟩⟩
    intro hnil
    rw [hnil] at hwritten
    cases hwritten

variable {reads : WalletReads}

theorem mutatePool_eq_ok (h : mutatePool env reads tables scope command = .ok (outcome, tables')) :
    ∃ key current, PoolMutated env tables command outcome tables' key current := by
  simp only [mutatePool, ok_iff] at h
  exact mutatePoolRecord_eq_ok h.2

namespace PoolMutated

variable {Admission : Type} {env : WalletEnvironment Admission}
  {tables tables' : EcdsaTables} {command : EcdsaPoolCommand}
  {outcome : EcdsaPoolMutationOutcome} {key : String}
  {current : Option EcdsaPoolLifecycleRecord}
  (h : PoolMutated env tables command outcome tables' key current)
include h

theorem terminal_of_spent (hspent : Spent tables key) :
    ∃ record, current = some record ∧ record.lifecycle.IsTerminal := by
  obtain ⟨row, hrow, hkey, hterminal⟩ := hspent
  have hmem : row ∈ tables.pool.select fun row => row.poolKey = key :=
    Table.mem_select.mpr ⟨hrow, hkey⟩
  rcases h.found with ⟨hnil, -⟩ | ⟨read, hread, hcurrent⟩
  · rw [hnil] at hmem
    cases hmem
  · rw [hread, List.mem_singleton] at hmem
    subst hmem
    exact ⟨_, hcurrent, hterminal⟩

theorem spent_kept
    {spentKey : String} (hspent : Spent tables spentKey) : Spent tables' spentKey := by
  rcases h.pool with ⟨-, rfl⟩ | ⟨hlive, ownerJson, identity, -, hpool⟩
  · exact hspent
  · by_cases hkey : spentKey = key
    · subst hkey
      obtain ⟨record, rfl, hterminal⟩ := h.terminal_of_spent hspent
      exact absurd (by simpa [recordIsTerminal] using hterminal) hlive
    · obtain ⟨row, hrow, rfl, hterminal⟩ := hspent
      refine ⟨row, ?_, rfl, hterminal⟩
      rw [hpool]
      unfold writePoolRecord
      split
      · exact Table.mem_update_of_not _ hrow fun h => hkey h.1
      · exact Table.mem_insertIgnore hrow

/-- Consuming finds a live record and leaves a spent one. -/
theorem consumed {record : EcdsaPoolLifecycleRecord} {material : EcdsaPresignatureRecord}
    (houtcome : outcome = .consumed record material) :
    ¬ Spent tables key ∧ Spent tables' key := by
  subst houtcome
  have hlive : ∃ found, current = some found ∧ ¬ found.lifecycle.IsTerminal ∧
      record.lifecycle.IsTerminal := by
    cases h.applied with
    | keepTerminal _ houtcome =>
      rcases houtcome with houtcome | ⟨houtcome, -⟩ <;> cases houtcome
    | destroy _ houtcome => rcases houtcome with houtcome | houtcome <;> cases houtcome
    | @consume found _ _ _ _ _ hconsume =>
      obtain ⟨lifecycle, hlifecycle, -⟩ := hconsume.within_lease
      obtain ⟨consumed, rfl, -⟩ := hconsume.eq_consumed
      refine ⟨found, rfl, ?_, trivial⟩
      rw [hlifecycle]
      exact id
  obtain ⟨found, hcurrent, hfound, hrecord⟩ := hlive
  constructor
  · intro hspent
    obtain ⟨terminal, hterminal, hisTerminal⟩ := h.terminal_of_spent hspent
    cases hcurrent.symm.trans hterminal
    exact hfound hisTerminal
  · rcases h.pool with ⟨hkeep | hkeep, -⟩ | ⟨-, ownerJson, identity, hwritten, hpool⟩
    · rw [hcurrent] at hkeep
      exact absurd (by simpa [recordIsTerminal] using hkeep) hfound
    · simp [isAlreadyStored] at hkeep
    · rcases h.found with ⟨-, hnone⟩ | ⟨row, hrow, -⟩
      · cases hcurrent.symm.trans hnone
      · simp only [hrow, writePoolRecord] at hwritten hpool
        obtain ⟨r, -, ⟨hkey, -⟩, hmem⟩ := Table.exists_of_update_ne_nil hwritten
        rw [← hpool] at hmem
        exact ⟨_, hmem, hkey, hrecord⟩

omit h

end PoolMutated

/-! ## Claims -/

theorem effectIdentity_eq_ok (h : effectIdentity env scope admitted = .ok identity) :
    admitted.effectOperationKey env = .ok identity.operationKey ∧
      admitted.effectAuthorizationKey env = .ok identity.authorizationKey := by
  simp only [effectIdentity, ok_iff] at h
  obtain ⟨operationKey, hoperation, authorizationKey, hauthorization, -, -, rfl⟩ := h
  exact ⟨hoperation, hauthorization⟩

/-- A claim answered from the effect stored under its keys. -/
structure ClaimAnswered (tables : EcdsaTables) (identity : EffectIdentity)
    (answer : ClaimAndConsume) (row : EcdsaEffectRow) : Prop where
  select : (tables.effects.select fun row => row.operationKey = identity.operationKey ∨
    row.authorizationKey = identity.authorizationKey) = [row]
  answer : answer = match row.terminalJson with
    | some terminalJson => .replay terminalJson
    | none => .inProgress

/-- A claim that found no effect under its keys and mutated the pool. -/
structure ClaimedFresh {Admission : Type} (env : WalletEnvironment Admission)
    (tables : EcdsaTables) (admitted : AdmittedEcdsaFinalizeRequest Admission)
    (identity : EffectIdentity) (answer : ClaimAndConsume) (tables' : EcdsaTables)
    (key : String) : Prop where
  storageKey : ecdsaPoolStorageKey env.prims admitted.request.scope
    admitted.request.serverPresignatureId = .ok key
  unclaimed : ∀ row ∈ tables.effects.rows, row.operationKey ≠ identity.operationKey ∧
    row.authorizationKey ≠ identity.authorizationKey
  spent_kept : ∀ spentKey, Spent tables spentKey → Spent tables' spentKey
  outcome : answer = .burned ∧ tables'.effects = tables.effects ∨
    (∃ material, answer = .claimed material ∧
        material.serverPresignatureId = admitted.request.serverPresignatureId) ∧
      ¬ Spent tables key ∧ Spent tables' key ∧
      ∃ row : EcdsaEffectRow, row.operationKey = identity.operationKey ∧
        row.authorizationKey = identity.authorizationKey ∧
        tables'.effects.rows = tables.effects.rows ++ [row]

variable {nowUnixMs : ℕ} {answer : ClaimAndConsume}

theorem claimFresh_eq_ok
    (hunclaimed : ∀ row ∈ tables.effects.rows, row.operationKey ≠ identity.operationKey ∧
      row.authorizationKey ≠ identity.authorizationKey)
    (h : claimFresh env reads tables scope admitted identity nowUnixMs = .ok (answer, tables')) :
    ∃ key, ClaimedFresh env tables admitted identity answer tables' key := by
  simp only [claimFresh, ok_iff] at h
  obtain ⟨-, -, -, requestDigest, -, ⟨outcome, mid⟩, hmutate, h⟩ := h
  obtain ⟨key, current, hmutated⟩ := mutatePool_eq_ok hmutate
  cases outcome with
  | consumed record material =>
    simp only [ok_iff, Prod.mk.injEq] at h
    obtain ⟨claimedAtMs, -, hinserted, rfl, rfl⟩ := h
    obtain ⟨hfresh, hspent⟩ := hmutated.consumed rfl
    refine ⟨key, hmutated.storageKey, hunclaimed, fun _ => hmutated.spent_kept,
      .inr ⟨⟨material, rfl, ?_⟩, hfresh, hspent, identity.claimedRow claimedAtMs, rfl, rfl, ?_⟩⟩
    · have hvalid := hmutated.valid
      simp only [EcdsaPoolMutationOutcome.validate, EcdsaPoolMutationOutcome.validateMaterial,
        validateMaterialPairId, ok_iff] at hvalid
      obtain ⟨-, ⟨-, hpair, -⟩, -⟩ := hvalid
      cases hmutated.applied with
      | keepTerminal _ houtcome =>
        rcases houtcome with houtcome | ⟨houtcome, -⟩ <;> cases houtcome
      | destroy _ houtcome => rcases houtcome with houtcome | houtcome <;> cases houtcome
      | consume hconsume hidentity =>
        obtain ⟨consumed, rfl, -⟩ := hconsume.eq_consumed
        rw [← hpair]
        exact hidentity.2
    · rw [← hmutated.effects]
      apply (Table.insertIgnore_eq_singleton _).2
      intro hnil
      rw [hnil] at hinserted
      cases hinserted
  | burned record =>
    simp only [pure_eq_ok, Prod.mk.injEq] at h
    obtain ⟨rfl, rfl⟩ := h
    exact ⟨key, hmutated.storageKey, hunclaimed, fun _ => hmutated.spent_kept,
      .inl ⟨rfl, hmutated.effects⟩⟩
  | available record stored | reserved record | preservedTerminal record | finished record =>
    cases h

theorem claimAndConsumeEffect_eq_ok
    (h : claimAndConsumeEffect env reads tables scope admitted nowUnixMs = .ok (answer, tables')) :
    ∃ identity, effectIdentity env scope admitted = .ok identity ∧
      ((∃ row, ClaimAnswered tables identity answer row) ∧ tables' = tables ∨
        ∃ key, ClaimedFresh env tables admitted identity answer tables' key) := by
  simp only [claimAndConsumeEffect, ok_iff] at h
  obtain ⟨-, -, identity, hidentity, h⟩ := h
  refine ⟨identity, hidentity, ?_⟩
  split at h
  · rename_i hselect
    right
    apply claimFresh_eq_ok _ h
    intro row hrow
    exact not_or.mp (Table.select_eq_nil.mp hselect row hrow)
  · rename_i row hselect
    left
    simp only [ok_iff, Prod.mk.injEq] at h
    obtain ⟨outcome, houtcome, rfl, rfl⟩ := h
    refine ⟨⟨row, hselect, ?_⟩, rfl⟩
    simp only [ecdsaEffectClaimOutcome, ok_iff] at houtcome
    cases hterminal : row.terminalJson with
    | none | some terminalJson =>
      rw [hterminal] at houtcome
      exact (pure_eq_ok.mp houtcome.2).symm
  · cases h

/-! ## Commits -/

/-- A commit answered from the response stored first, or one that stored the
response of a claimed effect. -/
structure CommitAnswered (tables : EcdsaTables) (identity : EffectIdentity)
    (responseJson : String) (answer : TerminalResponseCommit) (tables' : EcdsaTables)
    (row : EcdsaEffectRow) : Prop where
  select : (tables.effects.select fun row => row.operationKey = identity.operationKey) = [row]
  pool : tables'.pool = tables.pool
  answer : (∃ terminalJson, row.terminalJson = some terminalJson ∧
      answer = .replay terminalJson) ∧ tables' = tables ∨
    row.terminalJson = none ∧ answer = .committed ∧ ∃ committedAtMs,
        (∃ r ∈ tables'.effects.rows, r.operationKey = identity.operationKey ∧
          r.terminalJson = some responseJson) ∧
        ∀ r ∈ tables.effects.rows, r ∈ tables'.effects.rows ∨ r.terminalJson = none ∧
            r.commit responseJson committedAtMs ∈ tables'.effects.rows

theorem commitTerminal_eq_ok {response : EcdsaSigningResponse} {answer : TerminalResponseCommit}
    (h : commitTerminal env reads tables scope admitted response nowUnixMs = .ok (answer, tables'))
    :
    ∃ identity row, effectIdentity env scope admitted = .ok identity ∧
      CommitAnswered tables identity (env.responseJson response) answer tables' row := by
  simp only [commitTerminal, ok_iff] at h
  obtain ⟨-, -, -, identity, hidentity, h⟩ := h
  split at h
  · rename_i row hselect
    refine ⟨identity, row, hidentity, ?_⟩
    simp only [ok_iff] at h
    obtain ⟨-, h⟩ := h
    cases hterminal : row.terminalJson with
    | some terminalJson =>
      simp only [hterminal, pure_eq_ok, Prod.mk.injEq] at h
      obtain ⟨rfl, rfl⟩ := h
      exact ⟨hselect, rfl, .inl ⟨⟨terminalJson, hterminal, rfl⟩, rfl⟩⟩
    | none =>
      simp only [hterminal, ok_iff, Prod.mk.injEq] at h
      obtain ⟨-, committedAtMs, -, hwritten, rfl, rfl⟩ := h
      refine ⟨hselect, rfl, .inr ⟨hterminal, rfl, committedAtMs, ?_, ?_⟩⟩
      · obtain ⟨r, -, ⟨hkey, -⟩, hmem⟩ := Table.exists_of_update_ne_nil
          (fun hnil => by rw [hnil] at hwritten; cases hwritten)
        exact ⟨_, hmem, hkey, rfl⟩
      · intro r hr
        by_cases hmatch : r.operationKey = identity.operationKey ∧
            r.ownerJson = identity.ownerJson ∧
            r.requestDigestHex = identity.requestDigestHex ∧
            r.authorizationJson = identity.authorizationJson ∧ r.terminalJson = none
        · exact .inr ⟨hmatch.2.2.2.2, Table.mem_update_of
            (EcdsaEffectRow.commit_keepsKeys _ _) hr hmatch⟩
        · exact .inl (Table.mem_update_of_not (EcdsaEffectRow.commit_keepsKeys _ _) hr hmatch)
  · cases h

end SeamsWallet.EcdsaStore
