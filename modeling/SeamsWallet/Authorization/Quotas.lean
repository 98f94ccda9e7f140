import Mathlib.Data.List.Nodup
import SeamsWallet.Authorization.Revocation

/-!
# Quotas are conserved

The uses left of a quota and the operations inserted with it add up to the uses the quota
was created with, until a session of the quota is retired. An admission that claims nothing
changes nothing.
-/

namespace SeamsWallet.Authorization

open Library Database

def AuthorizedOperationRow.consumes (row : AuthorizedOperationRow) (key : QuotaKey) : Bool :=
  row.nameSpace = key.nameSpace && row.operation.tenantId = key.tenantId &&
    row.operation.quota = .consumeReusableWalletSession key.quotaId

/-- The number of operations that were inserted with the quota. -/
def Database.consumed (db : Database) (key : QuotaKey) : ℕ :=
  db.operations.countP (·.consumes key)

/-- No session of the quota was retired. -/
def Database.QuotaLive (db : Database) (key : QuotaKey) : Prop :=
  ∀ session ∈ db.sessions, session.quotaKey = key → session.retiredAtMs = none

abbrev Database.quotaKeys (db : Database) : List QuotaKey :=
  db.quotas.map WalletSessionQuotaRow.key

/-! ## One step -/

/-- What a step does to the quotas. The uses left of a quota and the operations inserted
with it keep their sum, unless a session of the quota is retired. -/
structure Balances (db db' : Database) : Prop where
  nodup : db'.quotaKeys.Nodup
  live : ∀ key, db'.QuotaLive key → db.QuotaLive key
  absent : ∀ key ∉ db.quotaKeys, db'.consumed key = db.consumed key
  spent : ∀ quota ∈ db.quotas, ∃ quota' ∈ db'.quotas, quota'.key = quota.key ∧
    (quota'.remainingUses + db'.consumed quota.key = quota.remainingUses + db.consumed quota.key ∨
      quota'.remainingUses = 0 ∧ db'.consumed quota.key = db.consumed quota.key ∧
        ¬ db'.QuotaLive quota.key)

variable {db db' : Database} {clock : ℕ}

theorem Balances.of_kept (hnodup : db.quotaKeys.Nodup) (hquotas : db'.quotas = db.quotas)
    (hconsumed : ∀ key, db'.consumed key = db.consumed key)
    (hlive : ∀ key, db'.QuotaLive key → db.QuotaLive key) : Balances db db' where
  nodup := by
    rw [quotaKeys, hquotas]
    exact hnodup
  live := hlive
  absent := fun key _ => hconsumed key
  spent := fun quota hmem => ⟨quota, hquotas.symm ▸ hmem, rfl, .inl (by rw [hconsumed])⟩

theorem Performs.quotaLive (h : Performs clock db db') (key : QuotaKey)
    (hlive : db'.QuotaLive key) : db.QuotaLive key := by
  intro session hmem hkey
  by_contra hretired
  exact hretired (hlive session (h.mem_of_retired hmem hretired) hkey)

/-- A retirement exhausts the quotas of the sessions it retires and no others. -/
theorem Retirement.balances (retirement : Retirement) (hnodup : db.quotaKeys.Nodup) :
    Balances db (retirement.run db) := by
  have hlive := (Performs.retires retirement : Performs 0 db _).quotaLive
  rw [Retirement.run_eq] at hlive ⊢
  refine ⟨?_, hlive, fun _ _ => rfl, fun quota hmem => ⟨_, List.mem_map.mpr ⟨quota, hmem, rfl⟩, ?_⟩⟩
  · rw [quotaKeys, retirement.exhaustQuotas_keys db]
    exact hnodup
  · split
    · rename_i hselected
      refine ⟨rfl, .inr ⟨rfl, rfl, fun hquotaLive => ?_⟩⟩
      obtain ⟨hnameSpace, htenant, hany⟩ := hselected
      obtain ⟨session, hsession, hretires⟩ := List.any_eq_true.mp hany
      rw [Bool.and_eq_true, decide_eq_true_iff] at hretires
      have hretired := hquotaLive _ (List.mem_map.mpr ⟨session, hsession, rfl⟩)
      rw [if_pos hretires.1] at hretired
      refine nomatch hretired ?_
      have hscope := hretires.1
      simp only [Retirement.retires, Bool.and_eq_true, decide_eq_true_eq] at hscope
      rw [SessionIdentity.quotaKey, hscope.1.1.1.1, hscope.1.1.2, hretires.2, ← hnameSpace,
        ← htenant]
    · exact ⟨rfl, .inl rfl⟩

/-- New quotas and sessions leave the balance of the other quotas. -/
theorem Balances.grow {grown : Database} (h : Balances db db') (hnodup : grown.quotaKeys.Nodup)
    (hquotas : db'.quotas ⊆ grown.quotas) (hsessions : db'.sessions ⊆ grown.sessions)
    (hoperations : grown.operations = db'.operations) : Balances db grown := by
  have hlive (key : QuotaKey) (hgrown : grown.QuotaLive key) : db'.QuotaLive key :=
    fun session hmem => hgrown session (hsessions hmem)
  have hconsumed (key : QuotaKey) : grown.consumed key = db'.consumed key := by
    rw [consumed, hoperations, consumed]
  refine ⟨hnodup, fun key hgrown => h.live key (hlive key hgrown), ?_, ?_⟩
  · intro key habsent
    rw [hconsumed, h.absent key habsent]
  · intro quota hmem
    obtain ⟨quota', hmem', hkey, hspent⟩ := h.spent quota hmem
    refine ⟨quota', hquotas hmem', hkey, ?_⟩
    rw [hconsumed]
    exact hspent.imp_right fun hexhausted => ⟨hexhausted.1, hexhausted.2.1,
      fun hgrown => hexhausted.2.2 (hlive _ hgrown)⟩

theorem WalletSessionIssuance.balances (issuance : WalletSessionIssuance)
    (hnodup : db.quotaKeys.Nodup) : Balances db (issuance.run db).2 := by
  refine issuance.run_induction db (issuance.predecessors.balances hnodup) ?_ ?_
  · intro db₁ h hfree
    refine h.grow ?_ (List.subset_append_left _ _) (List.Subset.refl _) rfl
    rw [quotaKeys, List.map_append, List.map_singleton, List.nodup_append]
    refine ⟨h.nodup, List.nodup_singleton _, ?_⟩
    rintro key hkey _ hnew rfl
    obtain ⟨quota, hmem, rfl⟩ := List.mem_map.mp hkey
    exact hfree quota hmem (List.mem_singleton.mp hnew)
  · intro db₁ h _ _ _
    exact h.grow h.nodup (List.Subset.refl _) (List.subset_append_left _ _) rfl

/-- The trigger takes one use from the one quota the inserted operation names. -/
theorem Inserts.balances {insert : AuthorizedOperationInsert} (h : Inserts db clock insert db')
    (hnodup : db.quotaKeys.Nodup) : Balances db db' := by
  have hlive := (Performs.inserts h).quotaLive
  have hconsumed (key : QuotaKey) : db'.consumed key =
      db.consumed key + if (insert.row db).consumes key then 1 else 0 := by
    rw [consumed, h.operations, List.countP_append, List.countP_singleton]
    rfl
  obtain ⟨quotas, rfl, hquotas⟩ := h.cases
  rcases hquotas with ⟨rfl, hneutral⟩ | ⟨quotaId, session, hquota, hcount, rfl⟩
  · refine .of_kept hnodup rfl (fun key => ?_) hlive
    rw [hconsumed, if_neg (by simp [AuthorizedOperationRow.consumes, hneutral]), Nat.add_zero]
  · obtain ⟨debited, hdebited, hdebits⟩ :=
      List.countP_pos_iff.mp (Nat.lt_of_lt_of_eq Nat.zero_lt_one hcount.symm)
    have hkey {quota : WalletSessionQuotaRow}
        (hdebits : (insert.row db).debits quotaId session quota = true) :
        0 < quota.remainingUses ∧ ∀ key, (insert.row db).consumes key = true ↔ quota.key = key := by
      simp only [AuthorizedOperationRow.debits, Bool.and_eq_true, decide_eq_true_eq] at hdebits
      refine ⟨hdebits.1.1.2, fun key => ?_⟩
      rw [hdebits.1.1.1.1, AuthorizedOperationRow.consumes, hquota]
      cases key
      simp [and_assoc]
    refine ⟨?_, hlive, ?_, fun quota hmem => ⟨_, List.mem_map.mpr ⟨quota, hmem, rfl⟩, ?_⟩⟩
    · rw [quotaKeys, debitQuotas, List.map_map]
      refine (List.map_congr_left fun quota _ => ?_) ▸ hnodup
      rw [Function.comp_apply]
      split <;> rfl
    · intro key habsent
      rw [hconsumed, if_neg, Nat.add_zero]
      intro hconsumes
      exact habsent (List.mem_map.mpr ⟨debited, hdebited, ((hkey hdebits).2 key).mp hconsumes⟩)
    · rw [hconsumed]
      split
      · rename_i hdebits'
        obtain ⟨hpos, hconsumes⟩ := hkey hdebits'
        refine ⟨rfl, .inl ?_⟩
        rw [if_pos ((hconsumes _).mpr rfl)]
        change quota.remainingUses - 1 + _ = _
        omega
      · rename_i hnot
        refine ⟨rfl, .inl ?_⟩
        rw [if_neg, Nat.add_zero]
        intro hconsumes
        have heq := List.inj_on_of_nodup_map hnodup hdebited hmem
          (((hkey hdebits).2 _).mp hconsumes)
        exact hnot (heq ▸ hdebits)

theorem Performs.balances (h : Performs clock db db') (hnodup : db.quotaKeys.Nodup) :
    Balances db db' := by
  cases h with
  | reads => exact .of_kept hnodup rfl (fun _ => rfl) fun _ hlive => hlive
  | inserts hinserts => exact hinserts.balances hnodup
  | completes completion =>
    refine .of_kept hnodup rfl (fun key => ?_) fun _ hlive => hlive
    rw [consumed, prepareWalletOperationCompletion, List.countP_map]
    refine congrArg (List.countP · _) (funext fun row => ?_)
    rw [Function.comp_apply]
    split <;> rfl
  | issues issuance => exact issuance.balances hnodup
  | retires retirement => exact retirement.balances hnodup
  | hosted => exact .of_kept hnodup rfl (fun _ => rfl) fun _ hlive => hlive

theorem KeepsSessions.balances (h : KeepsSessions db db') (hnodup : db.quotaKeys.Nodup) :
    Balances db db' := by
  refine .of_kept hnodup h.quotas (fun key => ?_) fun key hlive => ?_
  · rw [consumed, h.operations, consumed]
  · rw [Database.QuotaLive, h.sessions] at hlive
    exact hlive

/-! ## Runs -/

/-- Quotas have distinct keys, and an operation needs the quota it consumes. -/
structure Backed (db : Database) : Prop where
  nodup : db.quotaKeys.Nodup
  absent : ∀ key ∉ db.quotaKeys, db.consumed key = 0

/-- The quota was created with `n` uses. -/
structure Conserved (key : QuotaKey) (n : ℕ) (db : Database) : Prop where
  nodup : db.quotaKeys.Nodup
  spent : ∃ quota ∈ db.quotas, quota.key = key ∧ quota.remainingUses + db.consumed key ≤ n ∧
    (db.QuotaLive key → quota.remainingUses + db.consumed key = n)

theorem Balances.backed (h : Balances db db') (hbacked : Backed db) : Backed db' := by
  refine ⟨h.nodup, fun key habsent => ?_⟩
  have hbefore : key ∉ db.quotaKeys := by
    intro hkey
    obtain ⟨quota, hmem, rfl⟩ := List.mem_map.mp hkey
    obtain ⟨quota', hmem', hkey', -⟩ := h.spent quota hmem
    exact habsent (List.mem_map.mpr ⟨quota', hmem', hkey'⟩)
  rw [h.absent key hbefore, hbacked.absent key hbefore]

theorem Balances.conserved {key : QuotaKey} {n : ℕ} (h : Balances db db')
    (hconserved : Conserved key n db) : Conserved key n db' := by
  obtain ⟨quota, hmem, rfl, hle, heq⟩ := hconserved.spent
  obtain ⟨quota', hmem', hkey, hspent⟩ := h.spent quota hmem
  refine ⟨h.nodup, quota', hmem', hkey, ?_⟩
  rcases hspent with hsum | ⟨hzero, hconsumed, hnot⟩
  · rw [hsum]
    exact ⟨hle, fun hlive => heq (h.live _ hlive)⟩
  · exact ⟨by omega, fun hlive => absurd hlive hnot⟩

variable {codec : OperationCodec} {start state after later : AuthorizationState}
  {event : AuthorizationEvent} {log : List AuthorizationEvent}

theorem backed_of_run (hfresh : start.db.Fresh)
    (hrun : Run (Step codec KeepsSessions) start log state) : Backed state.db := by
  obtain ⟨hoperations, hquotas, -⟩ := hfresh
  refine invariant_of_run (fun _ _ _ h hbacked => (h.balances hbacked.nodup).backed hbacked)
    (fun _ _ h hbacked => (h.balances hbacked.nodup).backed hbacked) ⟨?_, fun key _ => ?_⟩ hrun
  · rw [quotaKeys, hquotas]
    exact List.nodup_nil
  · rw [consumed, hoperations]
    rfl

theorem conserved_of_created {quota : WalletSessionQuotaRow} (hbacked : Backed state.db)
    (hstep : Step codec KeepsSessions state event after) (hmem : quota ∈ after.db.quotas)
    (hnew : quota.key ∉ state.db.quotaKeys) :
    Conserved quota.key quota.remainingUses after.db := by
  have hbalances : Balances state.db after.db := by
    rcases (step_cases hstep).changes with ⟨clock, h⟩ | h
    · exact h.balances hbacked.nodup
    · exact h.balances hbacked.nodup
  have hnone := (hbalances.absent _ hnew).trans (hbacked.absent _ hnew)
  exact ⟨hbalances.nodup, quota, hmem, rfl, by omega, fun _ => by omega⟩

/-! ## Admissions that claim nothing -/

variable {Keeps : Database → Database → Prop} {thread : AuthorizationThread} {i : ℕ}

/-- A call keeps its place, and where it has ended it stays as it is. -/
theorem StepCases.stays
    (h : StepCases codec Keeps state event after) (hthread : state.threads[i]? = some thread) :
    ∃ rest, after.threads[i]? = some ⟨thread.call, rest⟩ ∧
      ∀ r, thread.rest.result? = some r → rest = thread.rest := by
  cases h with
  | call call =>
    have hlt := (List.getElem?_eq_some_iff.mp hthread).1
    exact ⟨_, (List.getElem?_append_left hlt).trans hthread, fun _ _ => rfl⟩
  | @statement j call q next outside hmoved =>
    by_cases hij : j = i
    · subst hij
      cases hmoved.symm.trans hthread
      refine ⟨_, List.getElem?_set_self (List.getElem?_eq_some_iff.mp hthread).1, ?_⟩
      intro r hr
      cases hr
    · exact ⟨_, (List.getElem?_set_ne hij).trans hthread, fun _ _ => rfl⟩
  | elsewhere => exact ⟨_, hthread, fun _ _ => rfl⟩

theorem stays_of_run
    (hrun : Run (Step codec Keeps) state log later) (hthread : state.threads[i]? = some thread) :
    ∃ rest, later.threads[i]? = some ⟨thread.call, rest⟩ ∧
      ∀ r, thread.rest.result? = some r → rest = thread.rest := by
  refine hrun.invariant (fun _ s => ∃ rest, s.threads[i]? = some ⟨thread.call, rest⟩ ∧
    ∀ r, thread.rest.result? = some r → rest = thread.rest) ⟨_, hthread, fun _ _ => rfl⟩ ?_
  rintro log s e s' - ⟨rest, hrest, hstays⟩ hstep
  obtain ⟨rest', hrest', hstays'⟩ := (step_cases hstep).stays hrest
  refine ⟨rest', hrest', fun r hr => ?_⟩
  have hsame := hstays r hr
  rw [hstays' r (by rw [hsame]; exact hr), hsame]

/-- Each statement of an admission that ends without a claim changed nothing, unless its
answer was lost. -/
theorem unchanged_of_not_claimed {outside : Outside} {context : D1AuthorizationContext}
    {input : AdmissionInput} {result : AdmissionResult} (hdescribed : state.Described codec)
    (hstep : Step codec KeepsSessions state (.statement i outside) after)
    (hrun : Run (Step codec KeepsSessions) after log later)
    (hadmitted : later.Admitted i context input result) (hclaimed : result.isClaimed = false)
    (hlost : ∀ message, outside.delivery ≠ .lost message) : after.db = state.db := by
  cases step_cases hstep with
  | @statement _ call q next _ hthread =>
    obtain ⟨rest, hrest, hstays⟩ := stays_of_run hrun
      (List.getElem?_set_self (List.getElem?_eq_some_iff.mp hthread).1)
    obtain ⟨thread, hlater, hcall, hresult⟩ := hadmitted
    cases hrest.symm.trans hlater
    obtain ⟨m, hobeys⟩ := hdescribed i _ context input hthread hcall
    have hnext := (hobeys.exchange (state.db, .answered) outside).2
    change exchanges.Obeys _ (some ((state.db, .answered), (state.db.execute outside q).2,
      outside.delivery)) (next (state.db.execute outside q).1) at hnext
    cases hended : next (state.db.execute outside q).1 with
    | query q' next' =>
      rw [hended] at hnext
      rcases (hnext.exchange (state.db, .answered) outside).1 _ rfl with hsame | ⟨message, h⟩
      · exact hsame
      · exact absurd h (hlost message)
    | done value =>
      obtain rfl := hstays (.ok value) (by rw [hended]; rfl)
      exact (hnext.result hresult result rfl).kept hclaimed
    | fail error =>
      obtain rfl := hstays (.error error) (by rw [hended]; rfl)
      rw [hended] at hresult
      cases hresult

/-- From an empty store on, at most as many operations are inserted with a quota as it was
created with uses, and until a session of the quota is retired the rest of the uses remain.
A batch that is rolled back and an admission that claims nothing change nothing. -/
theorem quotas_conserved (hfresh : start.db.Fresh) (hstart : start.threads = [])
    (hrun : Run (Step codec KeepsSessions) start log state)
    (hstep : Step codec KeepsSessions state event after) :
    (∀ quota ∈ after.db.quotas, quota.key ∉ state.db.quotaKeys →
      ∀ log' later, Run (Step codec KeepsSessions) after log' later →
        later.db.consumed quota.key ≤ quota.remainingUses ∧ later.db.quotaKeys.Nodup ∧
        ∃ row ∈ later.db.quotas, row.key = quota.key ∧ (later.db.QuotaLive quota.key →
          row.remainingUses = quota.remainingUses - later.db.consumed quota.key)) ∧
    ∀ i outside, event = .statement i outside → (∀ message, outside.delivery ≠ .lost message) →
      (∀ call q next message, state.threads[i]? = some ⟨call, .query q next⟩ →
        (state.db.execute outside q).1 = .error message → after.db = state.db) ∧
      ∀ log' later, Run (Step codec KeepsSessions) after log' later →
        ∀ context input result, later.Admitted i context input result →
          result.isClaimed = false → after.db = state.db := by
  refine ⟨?_, ?_⟩
  · intro quota hmem hnew log' later hrun'
    have hcreated := conserved_of_created (backed_of_run hfresh hrun) hstep hmem hnew
    obtain ⟨hnodup, row, hrow, hkey, hle, heq⟩ := invariant_of_run
      (fun _ _ _ h hconserved => (h.balances hconserved.nodup).conserved hconserved)
      (fun _ _ h hconserved => (h.balances hconserved.nodup).conserved hconserved) hcreated hrun'
    refine ⟨by omega, hnodup, row, hrow, hkey, fun hlive => ?_⟩
    have hsum := heq hlive
    omega
  · rintro i outside rfl hlost
    refine ⟨?_, fun log' later hrun' context input result hadmitted hclaimed =>
      unchanged_of_not_claimed (described_of_run hstart hrun) hstep hrun' hadmitted hclaimed hlost⟩
    intro call q next message hthread herror
    cases step_cases hstep with
    | statement _ hthread' =>
      cases hthread.symm.trans hthread'
      have hexecutes := state.db.execute_cases outside q
      rw [herror] at hexecutes
      generalize (state.db.execute outside q).2 = db' at hexecutes ⊢
      cases hexecutes with
      | failed => rfl
      | lost _ h => exact absurd h (hlost message)

/-- A session is issued with a quota of two uses. -/
theorem quotas_conserved_two_uses : ∃ state after, Run (Step sampleCodec KeepsSessions) sampleState
      [.call (.commitDirectWalletSessionAuthorizationV2 sampleContext sampleSession)] state ∧
    Step sampleCodec KeepsSessions state (.statement 0 ⟨.answered, 20⟩) after ∧
    ∀ log' later, Run (Step sampleCodec KeepsSessions) after log' later →
      later.db.consumed ⟨"ns", "tenant", "quota"⟩ ≤ 2 := by
  let call := AuthorizationCall.commitDirectWalletSessionAuthorizationV2 sampleContext sampleSession
  let quota := WalletSessionIssuance.quotaRow ⟨sampleContext, sampleSession⟩
  let state := { sampleState with threads := [⟨call, call.program sampleCodec⟩] }
  have hrun : Run (Step sampleCodec KeepsSessions) sampleState [.call call] state :=
    run_of_runOwn KeepsSessions rfl
  have hcreated : (step sampleCodec state (.statement 0 ⟨.answered, 20⟩)).bind
      (fun after => some after.db.quotas) = some [quota] := by
    decide +kernel
  obtain ⟨after, hafter, hquotas⟩ := Option.bind_eq_some_iff.mp hcreated
  have hmem : quota ∈ after.db.quotas := by
    rw [Option.some.inj hquotas]
    exact List.mem_singleton_self _
  have hstep := And.intro hafter trivial
  refine ⟨state, after, hrun, hstep, fun log' later hrun' => ?_⟩
  exact ((quotas_conserved ⟨rfl, rfl, rfl, rfl, rfl⟩ rfl hrun hstep).1 quota hmem
    List.not_mem_nil log' later hrun').1

end SeamsWallet.Authorization
