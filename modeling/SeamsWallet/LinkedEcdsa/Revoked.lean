import SeamsWallet.LinkedEcdsa.Steps

/-!
# Revoked material stays revoked

Every row is stored under the key of its own activation, so the rows that a call reads for
an activation are the rows of that activation. A revoked row is replaced by no call; from
it a reservation from the same target fails, a reservation from the same source finds no
share, signing finds no material, and a claim is refused.
-/

namespace SeamsWallet.LinkedEcdsa

open Library EcdsaDerivation WalletObject EcdsaStore

theorem materialActivation_of_validate {Context Bundle : Type}
    {format : RegistrationFormat Context Bundle} {record : ActivationRecord Context Bundle}
    (h : record.validate format = .ok ()) :
    record.activeSigningWorkerState.materialActivation = record.activation.materialActivation := by
  simp only [ActivationRecord.validate, ok_iff] at h
  obtain ⟨-, -, -, _, -, -, hactivation, -⟩ := h
  exact hactivation

section Revoked

variable {n : ℕ} [Fact n.Prime] {P : Type} [AddCommGroup P] [Module (ZMod n) P] [DecidableEq P]
  {Admission Context Bundle : Type} {env : StoreEnvironment n P Admission Context Bundle}
  {tables tables' : LinkedTables Context Bundle}

/-! ## The row of revoked material -/

/-- The row that is left of revoked material. -/
structure RevokedRow (env : StoreEnvironment n P Admission Context Bundle)
    (m : MpcMaterialActivationRef) (scope : WalletScope) (revokedAtMs : ℕ)
    (row : LinkedRow) : Prop where
  recordKey : row.recordKey = reservationRecordKey env.linked m
  activeKey : row.activeKey = none
  noMaterial : row.ciphertext.value.activation = none
  revoked : ∃ reservation, row.ciphertext.value.state = .sourcePreservingRevoked reservation ∧
    reservation.materialActivation = m ∧ reservation.revokedAtMs = revokedAtMs
  opens : Opens env scope row

variable {row : LinkedRow}

theorem LinkedChange.keeps_revoked (h : LinkedChange env tables tables')
    {reservation : RevokedReservation} (hrow : row ∈ tables.linked.rows)
    (hrevoked : row.ciphertext.value.state = .sourcePreservingRevoked reservation) :
    row ∈ tables'.linked.rows := by
  cases h with
  | kept hlinked => rwa [hlinked]
  | reserved hreserves =>
    rw [hreserves.rows]
    exact List.mem_append_left _ hrow
  | activated hactivates =>
    refine (hactivates.replaces.mem_iff row).mpr (.inl ⟨hrow, ?_⟩)
    rintro rfl
    rcases hactivates.reserved with hstate | hstate <;> rw [hrevoked] at hstate <;>
      cases hstate
  | revoked hrevokes =>
    refine (hrevokes.replaces.mem_iff row).mpr (.inl ⟨hrow, ?_⟩)
    rintro rfl
    exact hrevokes.unrevoked reservation hrevoked

/-- No activation of the wallet itself is of this material. -/
def NotOwn (tables : LinkedTables Context Bundle) (m : MpcMaterialActivationRef) : Prop :=
  ∀ row ∈ tables.activations.rows, row.ciphertext.value.activation.materialActivation ≠ m

/-- What passes its checks has the reservation id of its activation and binding. -/
theorem reservationIdMatches_of_identity {linked : LinkedEnvironment n P}
    {state : EcdsaReservationState}
    (h : validateSourcePreservingIdentity linked state = .ok ()) :
    reservationIdMatches linked state := by
  simp only [validateSourcePreservingIdentity, bindingDigestAs, ok_iff] at h
  obtain ⟨-, -, _, -, -, digest, hdigest, hid, -⟩ := h
  rw [reservationIdMatches, hdigest]
  exact decide_eq_true hid

section After

variable {m : MpcMaterialActivationRef} {scope : WalletScope} {revokedAtMs : ℕ} {row : LinkedRow}
  {request : SourcePreservingReservationRequest} {serverKey : ServerOutputKey}
  (hrevoked : RevokedRow env m scope revokedAtMs row) (hrow : row ∈ tables.linked.rows)

include hrevoked hrow

theorem RevokedRow.sourceShare_ne_ok (hown : NotOwn tables m)
    (hsource : mpcMaterialActivationFromEcdsaRef
      request.sourceContribution.binding.source.activation = .ok m)
    (share : Bytes 32) : sourceShare env tables request serverKey ≠ .ok share := by
  intro h
  simp only [sourceShare, bind_eq_ok] at h
  obtain ⟨source, hm, stored, hstored, h⟩ := h
  cases hsource.symm.trans hm
  rcases readActivation_eq_ok hstored with ⟨rfl, -⟩ | ⟨own, hmem, -, rfl, hvalid⟩
  · simp only [ok_iff] at h
    obtain ⟨found, hfound, linkedSource, rfl, h⟩ := h
    rw [← hrevoked.recordKey] at hfound
    cases readLinked_of_mem hrow hfound
    obtain ⟨reservation, hstate, -⟩ := hrevoked.revoked
    simp only [linkedSourceRelayerShare, hstate, selectSourcePreservingActiveReservation,
      bind_eq_ok] at h
    obtain ⟨_, -, _, ⟨_, -, hselect⟩, -⟩ := h
    cases hselect
  · simp only [ok_iff] at h
    exact hown own hmem ((materialActivation_of_validate hvalid).symm.trans h.1)

theorem RevokedRow.loadActivation_ne (hown : NotOwn tables m)
    (hkeyed : ∀ row ∈ tables.linked.rows, WellKeyed env row) {scope' : WalletScope}
    {lookup : ActiveStateLookup} {loaded : EcdsaActivationMaterial}
    (h : loadActivation env tables scope' lookup = .ok loaded) :
    loaded.active.materialActivation ≠ m := by
  simp only [loadActivation, ok_iff] at h
  obtain ⟨-, -, -, stored, hstored, h⟩ := h
  rcases readActivation_eq_ok hstored with ⟨rfl, -⟩ | ⟨own, hmem, -, rfl, hvalid⟩
  · simp only [loadLinkedActivation, ok_iff] at h
    obtain ⟨found, hfound, linked, rfl, h⟩ := h
    rcases openLinked_eq_ok hfound with ⟨-, hnone⟩ | ⟨active, hselect, hvalue, -⟩
    · cases hnone
    · cases hvalue
      obtain ⟨hactive, -⟩ := Table.mem_select.mp (hselect ▸ List.mem_singleton_self active)
      split at h
      · rename_i reservation activation hstate hactivation
        simp only [ok_iff] at h
        obtain ⟨-, rfl⟩ := h
        -- Material of `m` would stand in the row of `m`, and that row is revoked.
        intro hm
        have hkeyed := hkeyed active hactive
        rw [hkeyed.material activation hactivation] at hm
        have hsame : active = row := linked_eq_of_recordKey hactive hrow <| by
          rw [hkeyed.recordKey, hm, hrevoked.recordKey]
        rw [hsame, hrevoked.noMaterial] at hactivation
        cases hactivation
      · cases h
  · simp only [ok_iff] at h
    obtain ⟨-, rfl⟩ := h
    exact fun hm => hown own hmem ((materialActivation_of_validate hvalid).symm.trans hm)

/-- A claim is refused for revoked material, whichever wallet asks. -/
theorem RevokedRow.requireLinkedMaterialUnrevoked_ne (scope' : WalletScope) :
    requireLinkedMaterialUnrevoked env tables scope' m ≠ .ok () := by
  intro h
  obtain ⟨stored, hstored, h⟩ := bind_eq_ok.mp h
  rw [← hrevoked.recordKey] at hstored
  cases readLinked_of_mem hrow hstored
  obtain ⟨reservation, hstate, -⟩ := hrevoked.revoked
  have hvalue : row.ciphertext.value = ⟨.sourcePreservingRevoked reservation, none⟩ := by
    rw [← hstate, ← hrevoked.noMaterial]
  rw [hvalue] at h
  cases h

variable {sealSeed : Bytes 32}

theorem RevokedRow.target_ne {target : MpcMaterialActivationRef}
    {response : SourcePreservingReservationResponse}
    (h : ReserveOutcome env tables tables' request serverKey sealSeed target response) :
    target ≠ m := by
  rintro rfl
  cases h with
  | answered htables hfound hkey hreserved =>
    cases linked_eq_of_recordKey hfound hrow (hkey.trans hrevoked.recordKey.symm)
    obtain ⟨reservation, hstate, -⟩ := hrevoked.revoked
    rcases hreserved with hreserved | hreserved <;> rw [hstate] at hreserved <;> cases hreserved
  | stored hfresh => exact hfresh row hrow hrevoked.recordKey

variable {request : DeactivateReservationRequest}

/-- A revocation of revoked material answers with the time of the first. -/
theorem RevokedRow.deactivated
    {response : ReservationDeactivationResponse} (hm : request.materialActivation = m)
    (hkeyed : ∀ row ∈ tables.linked.rows, WellKeyed env row)
    (h : DeactivateOutcome env tables tables' request response) :
    response.revokedAtMs = revokedAtMs := by
  obtain ⟨reservation, hstate, -, htime⟩ := hrevoked.revoked
  cases h with
  | answered htables hfound hkey hopens hfoundState hactivation hresponse =>
    rw [hm] at hkey
    cases linked_eq_of_recordKey hfound hrow (hkey.trans hrevoked.recordKey.symm)
    cases hstate.symm.trans hfoundState
    exact hresponse.trans htime
  | @revoked found row' hactivation hopens hrevokes =>
    have hkey := (hkeyed found hrevokes.replaces.mem).recordKey
    rw [hactivation, hm] at hkey
    cases linked_eq_of_recordKey hrevokes.replaces.mem hrow (hkey.trans hrevoked.recordKey.symm)
    exact absurd hstate (hrevokes.unrevoked reservation)

/-- A well-formed revocation of the wallet that owns the material is answered. -/
theorem RevokedRow.exists_deactivated (reads : StoreReads) {nowUnixMs : ℕ}
    (hm : request.materialActivation = m) (hscope : request.scope = scope)
    (hvalid : request.validate = .ok ()) (hnow : nowUnixMs ≠ 0) :
    ∃ response, deactivateLinked env reads tables request nowUnixMs = .ok (response, tables) := by
  subst hm
  subst hscope
  obtain ⟨reservation, hstate, hactivation, -⟩ := hrevoked.revoked
  have hread : readLinked env tables request.scope
      (reservationRecordKey env.linked request.materialActivation) =
        .ok (some row.ciphertext.value) := by
    rw [readLinked, Table.select_eq_singleton hrow hrevoked.recordKey
      fun r s hr hs => .inl (hr.trans hs.symm)]
    exact hrevoked.opens.openLinked
  have hstateValid := hrevoked.opens.valid
  rw [hstate] at hstateValid
  have hid := reservationIdMatches_of_identity
    (validateSourcePreservingIdentity_of_validate hstateValid)
  refine ⟨⟨"revoked", reservation.reservationId, reservation.materialActivation,
    reservation.revokedAtMs⟩, ?_⟩
  rw [deactivateLinked, hvalid, ok_bind, Worker.requirePositiveMs, ensure_of hnow, ok_bind]
  dsimp only
  rw [hread, ok_bind, okOr_some, ok_bind, hstate, settleLinkedEcdsaDeactivation, hstateValid,
    ok_bind, ensure_of ⟨hactivation, hid⟩, ok_bind]
  rfl

end After

/-! ## Calls after the revocation -/

/-- What the state keeps, call by call, once a row of `m` is revoked: the row itself, and no
reservation from `m` that was not there before. -/
structure AfterRevocation (env : StoreEnvironment n P Admission Context Bundle)
    (m : MpcMaterialActivationRef) (atRevocation : LinkedTables Context Bundle) (row : LinkedRow)
    (tables : LinkedTables Context Bundle) : Prop where
  mem : row ∈ tables.linked.rows
  notOwn : NotOwn tables m
  wellKeyed : ∀ r ∈ tables.linked.rows, WellKeyed env r
  fromSource : ∀ r ∈ tables.linked.rows,
    mpcMaterialActivationFromEcdsaRef r.ciphertext.value.state.binding.source.activation = .ok m →
      ∃ earlier ∈ atRevocation.linked.rows, earlier.recordKey = r.recordKey ∧
        earlier.ciphertext.value.state.binding = r.ciphertext.value.state.binding

variable {m : MpcMaterialActivationRef}

theorem StoreChange.notOwn {call : LinkedCall Admission Context Bundle}
    (h : StoreChange env call tables tables')
    (hcall : ¬ call.ActivatesOwn m) (hown : NotOwn tables m) : NotOwn tables' m := by
  rintro row hrow rfl
  rcases h.added row hrow with hrow | hnew
  · exact hown row hrow rfl
  · exact hcall hnew

variable [DecidableEq Context] [DecidableEq Bundle]
  {atRevocation : LinkedTables Context Bundle} {scope : WalletScope} {revokedAtMs : ℕ}

theorem AfterRevocation.step (hrevoked : RevokedRow env m scope revokedAtMs row)
    (h : AfterRevocation env m atRevocation row tables)
    {call : LinkedCall Admission Context Bundle × StoreReads} (hcall : ¬ call.1.ActivatesOwn m) :
    AfterRevocation env m atRevocation row (answerLinkedCall env tables call).2 := by
  have hchange := answerLinkedCall_change env tables call
  obtain ⟨reservation, hstate, -⟩ := hrevoked.revoked
  refine ⟨hchange.linked.keeps_revoked h.mem hstate, hchange.notOwn hcall h.notOwn,
    hchange.linked.wellKeyed h.wellKeyed, ?_⟩
  intro r hr hsource
  rcases hchange.linked.binding r hr with ⟨earlier, hearlier, hkey, hbinding⟩ |
    ⟨request, serverKey, sealSeed, share, state, hreserves, hbinding⟩
  · obtain ⟨first, hfirst, hfirstKey, hfirstBinding⟩ :=
      h.fromSource earlier hearlier (hbinding ▸ hsource)
    exact ⟨first, hfirst, hfirstKey.trans hkey, hfirstBinding.trans hbinding⟩
  · rw [hbinding] at hsource
    exact absurd hreserves.source (hrevoked.sourceShare_ne_ok h.mem h.notOwn hsource share)

theorem AfterRevocation.run (hrevoked : RevokedRow env m scope revokedAtMs row)
    (h : AfterRevocation env m atRevocation row tables)
    (calls : List (LinkedCall Admission Context Bundle × StoreReads))
    (hcalls : ∀ call ∈ calls, ¬ call.1.ActivatesOwn m) :
    AfterRevocation env m atRevocation row (stateAfter (answerLinkedCall env) tables calls) := by
  induction calls generalizing tables with
  | nil => exact h
  | cons call calls ih =>
    exact ih (h.step hrevoked (hcalls call List.mem_cons_self))
      fun call hmem => hcalls call (List.mem_cons_of_mem _ hmem)

/-! ## Before the revocation -/

/-- Before its revocation the material is not the wallet's own and all rows are well
keyed. -/
theorem notOwn_and_wellKeyed (env : StoreEnvironment n P Admission Context Bundle)
    (ecdsa : EcdsaTables)
    (calls : List (LinkedCall Admission Context Bundle × StoreReads))
    (hcalls : ∀ call ∈ calls, ¬ call.1.ActivatesOwn m) :
    NotOwn (stateAfter (answerLinkedCall env) (.ofEcdsa ecdsa) calls) m ∧
      ∀ row ∈ (stateAfter (answerLinkedCall env) (.ofEcdsa ecdsa) calls).linked.rows,
        WellKeyed env row := by
  induction calls using List.reverseRecOn with
  | nil => simp [stateAfter, NotOwn, LinkedTables.ofEcdsa, Table.empty]
  | append_singleton calls call ih =>
    obtain ⟨hown, hkeyed⟩ := ih fun call hmem => hcalls call (List.mem_append_left _ hmem)
    have hchange := answerLinkedCall_change env
      (stateAfter (answerLinkedCall env) (.ofEcdsa ecdsa) calls) call
    rw [stateAfter_snoc]
    exact ⟨hchange.notOwn (hcalls call (by simp)) hown, hchange.linked.wellKeyed hkeyed⟩

variable {request : DeactivateReservationRequest} {response : ReservationDeactivationResponse}

omit [DecidableEq Context] [DecidableEq Bundle] in
theorem DeactivateOutcome.exists_revokedRow
    (h : DeactivateOutcome env tables tables' request response)
    (hkeyed : ∀ row ∈ tables.linked.rows, WellKeyed env row) :
    ∃ row ∈ tables'.linked.rows, RevokedRow env request.materialActivation request.scope
      response.revokedAtMs row := by
  cases h with
  | @answered row reservation htables hrow hkey hopens hstate hactivation hresponse =>
    obtain ⟨hactive, hmaterial⟩ := (hkeyed row hrow).revoked reservation hstate
    subst htables
    exact ⟨row, hrow, hkey, hactive, hmaterial,
      ⟨reservation, hstate, hactivation, hresponse.symm⟩, hopens⟩
  | @revoked row row' hactivation hopens hrevokes =>
    refine ⟨row', (hrevokes.replaces.mem_iff row').mpr (.inr rfl), ?_, hrevokes.activeKey, ?_,
      ?_, hopens⟩
    · rw [hrevokes.keepsKey, hrevokes.recordKey, hactivation]
    · rw [hrevokes.value]
    · rw [hrevokes.value]
      exact ⟨_, rfl, hactivation, rfl⟩

/-! ## Every later call -/

/-- What every call after the revocation of `m` meets: the revoked row, unchanged and the
only one of `m`; no material of `m` to load and no presignature to claim for it; no
reservation for `m`, and from `m` only the retry of one that was stored when `m` was
revoked; and the first revocation's answer. -/
structure StaysRevoked (env : StoreEnvironment n P Admission Context Bundle)
    (m : MpcMaterialActivationRef) (scope : WalletScope) (revokedAtMs : ℕ)
    (atRevocation : LinkedTables Context Bundle) (row : LinkedRow)
    (tables : LinkedTables Context Bundle) : Prop where
  stays : row ∈ tables.linked.rows ∧ ∀ r ∈ tables.linked.rows,
    r.ciphertext.value.state.materialActivation = m → r = row
  load : ∀ reads scope' lookup loaded,
    (answerLinkedCall env tables (.load scope' lookup, reads)).1 = .load (.ok loaded) →
      loaded.active.materialActivation ≠ m
  claim : ∀ reads scope' admitted nowUnixMs, admitted.request.scope.materialActivation = m →
    (answerLinkedCall env tables (.claim scope' admitted nowUnixMs, reads)).2 = tables ∧
      ∀ material, (answerLinkedCall env tables (.claim scope' admitted nowUnixMs, reads)).1 ≠
        .claim (.ok (.claimed material))
  target : ∀ reads request serverKey sealSeed response,
    (answerLinkedCall env tables (.reserve request serverKey sealSeed, reads)).1 =
      .reserve (.ok response) →
    mpcMaterialActivationFromEcdsaRef
      request.sourceContribution.binding.target.activation ≠ .ok m
  source : ∀ reads request serverKey sealSeed response,
    (answerLinkedCall env tables (.reserve request serverKey sealSeed, reads)).1 =
      .reserve (.ok response) →
    mpcMaterialActivationFromEcdsaRef
      request.sourceContribution.binding.source.activation = .ok m →
    (answerLinkedCall env tables (.reserve request serverKey sealSeed, reads)).2 = tables ∧
      (∃ r ∈ tables.linked.rows, IsReserved r.ciphertext.value.state response.reservation) ∧
      ∃ r ∈ atRevocation.linked.rows,
        r.ciphertext.value.state.binding = request.sourceContribution.binding
  deactivate : ∀ reads request nowUnixMs response, request.materialActivation = m →
    (answerLinkedCall env tables (.deactivate request nowUnixMs, reads)).1 =
      .deactivate (.ok response) → response.revokedAtMs = revokedAtMs
  answers : ∀ reads request nowUnixMs, request.materialActivation = m →
    request.scope = scope → request.validate = .ok () → nowUnixMs ≠ 0 →
    ∃ response, (answerLinkedCall env tables (.deactivate request nowUnixMs, reads)).1 =
      .deactivate (.ok response)

variable {reads : StoreReads}

theorem reserve_of_answer {request : SourcePreservingReservationRequest}
    {serverKey : ServerOutputKey} {response : SourcePreservingReservationResponse}
    (h : (answerLinkedCall env tables (.reserve request serverKey sealSeed, reads)).1 =
      .reserve (.ok response)) :
    ∃ target, mpcMaterialActivationFromEcdsaRef
        request.sourceContribution.binding.target.activation = .ok target ∧
      ReserveOutcome env tables
        (answerLinkedCall env tables (.reserve request serverKey sealSeed, reads)).2 request
        serverKey sealSeed target response := by
  have hok : reserveLinked env reads tables request serverKey sealSeed = .ok (response, _) :=
    transact_eq_ok (Prod.ext (LinkedAnswer.reserve.inj h) rfl)
  exact reserveLinked_eq_ok hok

theorem deactivate_of_answer {nowUnixMs : ℕ}
    (h : (answerLinkedCall env tables (.deactivate request nowUnixMs, reads)).1 =
      .deactivate (.ok response)) :
    DeactivateOutcome env tables
      (answerLinkedCall env tables (.deactivate request nowUnixMs, reads)).2 request
      response := by
  have hok : deactivateLinked env reads tables request nowUnixMs = .ok (response, _) :=
    transact_eq_ok (Prod.ext (LinkedAnswer.deactivate.inj h) rfl)
  exact deactivateLinked_eq_ok hok

theorem AfterRevocation.staysRevoked (hrevoked : RevokedRow env m scope revokedAtMs row)
    (h : AfterRevocation env m atRevocation row tables) :
    StaysRevoked env m scope revokedAtMs atRevocation row tables where
  stays := by
    refine ⟨h.mem, fun r hr hm => linked_eq_of_recordKey hr h.mem ?_⟩
    rw [(h.wellKeyed r hr).recordKey, hm, hrevoked.recordKey]
  load reads scope' lookup loaded hload :=
    hrevoked.loadActivation_ne h.mem h.notOwn h.wellKeyed (LinkedAnswer.load.inj hload)
  claim := by
    intro reads scope' admitted nowUnixMs hm
    -- a claim that succeeds ends without a write and without a presignature
    have hrefused : ∀ answer tables',
        claimAndConsumeLinkedEffect env reads tables scope' admitted nowUnixMs =
          .ok (answer, tables') → tables' = tables ∧ ∀ material, answer ≠ .claimed material := by
      intro answer tables' hok
      simp only [claimAndConsumeLinkedEffect, ok_iff, hm] at hok
      obtain ⟨⟨answer, ecdsa'⟩, hclaim, hend⟩ := hok
      cases hend
      simp only [claimAndConsumeEffect, ok_iff] at hclaim
      obtain ⟨-, -, identity, -, hclaim⟩ := hclaim
      split at hclaim
      · simp only [claimFresh, ok_iff] at hclaim
        exact absurd hclaim.2.2.1 (hrevoked.requireLinkedMaterialUnrevoked_ne h.mem scope')
      · simp only [ecdsaEffectClaimOutcome, ok_iff, Prod.mk.injEq] at hclaim
        obtain ⟨outcome, ⟨-, houtcome⟩, rfl, rfl⟩ := hclaim
        refine ⟨rfl, ?_⟩
        rintro material rfl
        split at houtcome <;> cases houtcome
      · cases hclaim
    constructor
    · apply transact_keeps (· = tables) rfl
      intro answer tables' hok
      exact (hrefused answer tables' hok).1
    · intro material hanswer
      obtain ⟨tables', hok⟩ := exists_of_transact_fst (LinkedAnswer.claim.inj hanswer)
      exact (hrefused _ tables' hok).2 material rfl
  target := by
    intro reads request serverKey sealSeed response hreserve htarget
    obtain ⟨target, hm, houtcome⟩ := reserve_of_answer hreserve
    cases htarget.symm.trans hm
    exact hrevoked.target_ne h.mem houtcome rfl
  source := by
    intro reads request serverKey sealSeed response hreserve hsource
    obtain ⟨target, -, houtcome⟩ := reserve_of_answer hreserve
    cases houtcome with
    | @answered r reservation htables hr hkey hreserved hbinding htarget hresponse =>
      subst hresponse
      have hstored := hreserved.binding.trans hbinding
      obtain ⟨earlier, hearlier, -, hsame⟩ := h.fromSource r hr (by rwa [hstored])
      exact ⟨htables, ⟨r, hr, hreserved⟩, earlier, hearlier, hsame.trans hstored⟩
    | stored hfresh htarget hreserves =>
      exact absurd hreserves.source (hrevoked.sourceShare_ne_ok h.mem h.notOwn hsource _)
  deactivate reads request nowUnixMs response hm hdeactivate :=
    hrevoked.deactivated h.mem hm h.wellKeyed (deactivate_of_answer hdeactivate)
  answers := by
    intro reads request nowUnixMs hm hscope hvalid hnow
    obtain ⟨response, hok⟩ := hrevoked.exists_deactivated h.mem reads hm hscope hvalid hnow
    refine ⟨response, ?_⟩
    rw [answerLinkedCall, hok]
    rfl

end Revoked

def LinkedAnswer.isOk : LinkedAnswer → Bool
  | .activate answer => answer.isOk
  | .reserve answer | .activateLinked answer => answer.isOk
  | .deactivate answer => answer.isOk
  | .load answer => answer.isOk
  | .claim answer => answer.isOk

section Answers

variable {n : ℕ} [Fact n.Prime] {P : Type} [AddCommGroup P] [Module (ZMod n) P] [DecidableEq P]
  {Admission Context Bundle : Type} [DecidableEq Context] [DecidableEq Bundle]
  {env : StoreEnvironment n P Admission Context Bundle}
  {tables : LinkedTables Context Bundle} {reads : StoreReads}

theorem exists_of_reserve_isOk {request : SourcePreservingReservationRequest}
    {serverKey : ServerOutputKey}
    (h : (answerLinkedCall env tables (.reserve request serverKey sealSeed, reads)).1.isOk) :
    ∃ response, (answerLinkedCall env tables (.reserve request serverKey sealSeed, reads)).1 =
      .reserve (.ok response) := by
  rw [answerLinkedCall] at h ⊢
  generalize transact tables (reserveLinked env reads tables request serverKey sealSeed) =
    result at h ⊢
  obtain ⟨response, hresponse⟩ := exists_ok_of_isOk h
  exact ⟨response, congrArg LinkedAnswer.reserve hresponse⟩

end Answers

/-! ## A small store

A wallet whose own material is linked to a first device and that to a second, over the
curve with 31 points, with encodings and seals that are easy to evaluate.
-/

/-- The length and the number of a byte string, one character each, where both are small;
otherwise a mark and one character a byte. -/
def plainText (bytes : List UInt8) : String :=
  if bytes.length < 64 ∧ ofBigEndian bytes < 64 then
    String.ofList [Char.ofNat (48 + bytes.length), Char.ofNat (48 + ofBigEndian bytes)]
  else String.ofList ('!' :: bytes.map fun byte => Char.ofNat byte.toNat)

def plainBytes (text : String) : Except String (List UInt8) :=
  match text.toList with
  | '!' :: chars => .ok (chars.map fun c => UInt8.ofNat c.toNat)
  | [length, number] => .ok (toBigEndian (length.toNat - 48) (number.toNat - 48)).toList
  | _ => .error "not a text of bytes"

theorem toNat_charOfNat {k : ℕ} (hk : k < 256) : (Char.ofNat k).toNat = k := by
  rw [Char.ofNat, dif_pos (Or.inl (lt_trans hk (by decide)))]
  rfl

theorem plainBytes_plainText (bytes : List UInt8) : plainBytes (plainText bytes) = .ok bytes := by
  unfold plainText
  split_ifs with hsmall
  · have hmark : Char.ofNat (48 + bytes.length) ≠ '!' := by
      intro hmark
      have hnat := congrArg Char.toNat hmark
      rw [toNat_charOfNat (by omega)] at hnat
      change 48 + bytes.length = 33 at hnat
      omega
    simp only [plainBytes, String.toList_ofList]
    rw [toNat_charOfNat (by omega), toNat_charOfNat (by omega), Nat.add_sub_cancel_left,
      Nat.add_sub_cancel_left, toBigEndian_ofBigEndian]
  · have hbyte : ∀ byte : UInt8, UInt8.ofNat (Char.ofNat byte.toNat).toNat = byte := by
      intro byte
      rw [toNat_charOfNat byte.toNat_lt, UInt8.ofNat_toNat]
    simp [plainBytes, Function.comp_def, hbyte]

/-- The digest of a text is its last byte. -/
def plainBase64Url : Base64Url where
  prims :=
    { sha256 := fun input => toBigEndian 32 (input.getLast?.elim 0 UInt8.toNat)
      encodeBase64UrlUnpadded := plainText
      decodeBase64UrlUnpadded := plainBytes
      decodeUrlSafeNoPad := plainBytes }
  decodeBase64UrlUnpadded_encode := plainBytes_plainText
  decodeUrlSafeNoPad_encode := plainBytes_plainText

/-- A seal that only pads what it seals. -/
def paddingHpke : Hpke where
  isPublicKey _ := true
  isPrivateKey _ := true
  isEncapsulatedKey _ := true
  sealBase seed _ _ _ plaintext := some (seed, List.replicate 16 0 ++ plaintext)
  openBase _ _ _ _ ciphertext := some (ciphertext.drop 16)
  opens_to_sealed := by
    intro seed publicKey privateKey encapped info aad plaintext info' aad' ciphertext opened
      hsealed hopened
    cases hsealed
    cases hopened
    simp

/-- Whatever it is derived from, the wallet's own relayer share is `4`. -/
def smallStore : StoreEnvironment 31 (ZMod 31) Unit Unit Unit where
  wallet :=
    { prims := plainBase64Url.prims
      validateAdmission := fun _ => .ok ()
      scopeJson := fun scope => scope.walletId
      claimJson := fun _ => "claim"
      requestJson := fun _ => []
      responseJson := fun _ => "response" }
  linked :=
    { b64 := plainBase64Url
      curve := K256.additive31
      address := additive31Address
      derivation :=
        { sha256 := fun _ => toBigEndian 32 17
          sha512 := fun _ => Bytes.zeros 64
          reduceSha512DigestToNonzeroScalar := fun _ => ⟨4, by decide⟩ }
      hpke := paddingHpke
      materialActivationJson := fun m => stringBytes m.activationId
      hpkeX25519PublicKeyBytes := fun _ => .ok (toBigEndian 32 2) }
  registration :=
    { lifecycleId := fun _ => "l"
      accountId := fun _ => "w"
      selectedServer := fun _ => ⟨"k", "e", "key"⟩
      transcriptDigest := fun _ => Bytes.zeros 32
      accountPublicKey := fun _ => "public"
      validateContext := fun _ => .ok ()
      validateForActivationContext := fun _ _ => .ok ()
      activationDigest := fun _ => .ok (Bytes.zeros 32) }
  samePrimitives := rfl

def smallActivation (activationId : String) : EcdsaMaterialActivationRef :=
  ⟨activationId, "c", "w", "PA", "l", "k"⟩

def smallMaterial (activationId : String) : MpcMaterialActivationRef :=
  ⟨activationId, "c", "w", "PA", "l", "k"⟩

def smallScope : WalletScope := ⟨"o", "p", "v", "w"⟩

def smallText (width number : ℕ) : String := plainText (toBigEndian width number).toList

def smallEnvelope (digest recipient number : ℕ) : LinkedDeviceEcdsaEncryptedSourceContribution where
  kind := envelopeDomain
  recipientPublicKeyB64u := smallText 32 recipient
  bindingDigestB64u := smallText 32 digest
  encappedKeyB64u := smallText 32 0
  ciphertextB64u := smallText 48 number

def smallLink (source : String) (client relayer : ZMod 31) (target : String)
    (targetClient : ZMod 31) : SourcePreservingReservationRequest where
  ownershipGeneration := 1
  scope := smallScope
  sourceDerivation := ⟨smallText 32 0, 0⟩
  sourceContribution :=
    { binding :=
        { linkSessionId := "s"
          enrollmentId := "e"
          sourceAuthorityId := "a"
          source := ⟨smallActivation source, smallText 33 client.val, smallText 33 relayer.val,
            smallText 33 (client + relayer).val, smallText 20 (client + relayer).val⟩
          target := ⟨smallActivation target, "d", smallText 32 0, smallText 32 1, smallText 32 2⟩
          targetClientPublicKey33B64u := smallText 33 targetClient.val }
      encryptedDelta := smallEnvelope targetClient.val 2 (client - targetClient).val
      encryptedTargetClientShare := smallEnvelope targetClient.val 1 1 }

def smallReads : StoreReads where
  poolAdmission := .ok .opened
  executionAuthority := .ok (some (.registration "material"))
  ecdsaSnapshotRecordCount := .ok 0
  hasImportActivation := .ok false
  installExecutionAuthority := fun _ => .ok ()

def smallKey : ServerOutputKey := ⟨"e", "key", Bytes.zeros 32⟩

def smallStart : LinkedTables Unit Unit := .ofEcdsa ⟨Table.empty _, Table.empty _⟩

/-- The wallet activates its material, links a first device, activates it, and links a
second device from the first. -/
def linkSecond : List (LinkedCall Unit Unit Unit × StoreReads) :=
  [(.activate smallScope ⟨(), (), smallMaterial "0"⟩
      ⟨Bytes.zeros 32, .xServerBase, .server, "k", Bytes.zeros 32⟩ 1, smallReads),
    (.reserve (smallLink "0" 3 4 "1" 5) smallKey (Bytes.zeros 32), smallReads),
    (.activateLinked ⟨1, smallScope, smallMaterial "1", sourcePreservingReservationId
      smallStore.linked (smallMaterial "1") (toBigEndian 32 5)⟩ smallKey 1, smallReads),
    (.reserve (smallLink "1" 5 2 "2" 6) smallKey (Bytes.zeros 32), smallReads)]

def revokeFirst : DeactivateReservationRequest := ⟨1, smallScope, smallMaterial "1"⟩

def linkAgain : LinkedCall Unit Unit Unit :=
  .reserve (smallLink "1" 5 2 "2" 6) smallKey (Bytes.zeros 32)

theorem small_run_succeeds : ∀ event ∈ answers (answerLinkedCall smallStore) smallStart
      (linkSecond ++ [(.deactivate revokeFirst 7, smallReads), (linkAgain, smallReads)]),
      event.2.isOk = true := by
  decide +kernel

theorem revokeFirst_succeeds : ∃ response, (answerLinkedCall smallStore
      (stateAfter (answerLinkedCall smallStore) smallStart linkSecond)
        (.deactivate revokeFirst 7, smallReads)).1 = .deactivate (.ok response) := by
  have hok := answer_of_answers (p := fun answer : LinkedAnswer => answer.isOk = true)
    [(linkAgain, smallReads)] small_run_succeeds
  rw [answerLinkedCall] at hok ⊢
  generalize transact _ (deactivateLinked smallStore smallReads _ revokeFirst 7) = result at hok ⊢
  obtain ⟨response, hresponse⟩ := exists_ok_of_isOk hok
  exact ⟨response, congrArg LinkedAnswer.deactivate hresponse⟩

end SeamsWallet.LinkedEcdsa
