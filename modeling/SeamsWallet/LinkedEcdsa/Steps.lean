import SeamsWallet.LinkedEcdsa.Store

/-!
# What a call does to the linked devices

A lookup finds nothing or the one row under its key, with its sealed value checked. From
there one lemma says what a call can do: the activations only grow, and the linked devices
stay as they are, gain a new inactive reservation, or have one row replaced, an unrevoked
reservation by its active or its revoked form.
-/

namespace SeamsWallet.LinkedEcdsa

open Library EcdsaDerivation WalletObject EcdsaStore

section Steps

variable {n : ℕ} [Fact n.Prime] {P : Type} [AddCommGroup P] [Module (ZMod n) P] [DecidableEq P]
  {Admission Context Bundle : Type} {env : StoreEnvironment n P Admission Context Bundle}
  {tables tables' : LinkedTables Context Bundle}

theorem sameLinkedKey_symm (r s : LinkedRow) (h : SameLinkedKey r s) : SameLinkedKey s r := by
  rcases h with hkey | ⟨hsome, hkey⟩
  · exact .inl hkey.symm
  · exact .inr ⟨hkey ▸ hsome, hkey.symm⟩

variable {r : LinkedRow}

theorem linked_eq_of_recordKey {s : LinkedRow} (hr : r ∈ tables.linked.rows)
    (hs : s ∈ tables.linked.rows) (h : r.recordKey = s.recordKey) : r = s :=
  Table.eq_of_clash sameLinkedKey_symm hr hs (.inl h)

/-! ## Lookups -/

/-- The row of a scope that opens and passes its checks. -/
structure Opens (env : StoreEnvironment n P Admission Context Bundle) (scope : WalletScope)
    (row : LinkedRow) : Prop where
  owner : row.ownerJson = env.wallet.scopeJson scope
  purpose : row.ciphertext.purpose = "linked_ecdsa"
  identity : env.rowIdentity scope row.recordKey = .ok row.ciphertext.identity
  valid : row.ciphertext.value.state.validate env.linked = .ok ()

variable {scope : WalletScope} {row : LinkedRow} {stored : Option WalletLinkedEcdsa}

theorem Opens.openLinked (h : Opens env scope row) :
    openLinked env scope [row] = .ok (some row.ciphertext.value) := by
  have hopen : row.ciphertext.openAs "linked_ecdsa" row.ciphertext.identity =
      .ok row.ciphertext.value := by
    rw [Sealed.openAs, ensure_of ⟨h.purpose, rfl⟩, ok_bind]
    rfl
  rw [LinkedEcdsa.openLinked, ensure_of h.owner, ok_bind, h.identity, ok_bind, hopen, ok_bind,
    h.valid, ok_bind]
  rfl

theorem openLinked_eq_ok {found : List LinkedRow} (h : openLinked env scope found = .ok stored) :
    found = [] ∧ stored = none ∨
      ∃ row, found = [row] ∧ stored = some row.ciphertext.value ∧ Opens env scope row := by
  match found with
  | [] =>
    left
    cases h
    exact ⟨rfl, rfl⟩
  | [row] =>
    right
    simp only [openLinked, Sealed.openAs, ok_iff] at h
    obtain ⟨howner, identity, hidentity, value, ⟨⟨hpurpose, rfl⟩, rfl⟩, hvalid, rfl⟩ := h
    exact ⟨row, rfl, rfl, howner, hpurpose, hidentity, hvalid⟩
  | _ :: _ :: _ => cases h

theorem readLinked_eq_ok {recordKey : String}
    (h : readLinked env tables scope recordKey = .ok stored) :
    (stored = none ∧ ∀ row ∈ tables.linked.rows, row.recordKey ≠ recordKey) ∨
      ∃ row ∈ tables.linked.rows, row.recordKey = recordKey ∧
        stored = some row.ciphertext.value ∧ Opens env scope row := by
  rcases openLinked_eq_ok h with ⟨hnil, hnone⟩ | ⟨row, hone, hstored, hopens⟩
  · exact .inl ⟨hnone, Table.select_eq_nil.mp hnil⟩
  · have hrow : row ∈ tables.linked.select fun row => row.recordKey = recordKey := by
      rw [hone]
      exact List.mem_singleton_self row
    obtain ⟨hmem, hkey⟩ := Table.mem_select.mp hrow
    exact .inr ⟨row, hmem, hkey, hstored, hopens⟩

/-- Where a row is stored under the key, a lookup that answers returns that row. -/
theorem readLinked_of_mem (hrow : row ∈ tables.linked.rows)
    (h : readLinked env tables scope row.recordKey = .ok stored) :
    stored = some row.ciphertext.value := by
  rcases readLinked_eq_ok h with ⟨-, hnone⟩ | ⟨found, hfound, hkey, hstored, -⟩
  · exact absurd rfl (hnone row hrow)
  · rw [linked_eq_of_recordKey hrow hfound hkey.symm]
    exact hstored

omit [DecidableEq P] in
theorem readActivation_eq_ok {activeKey : String}
    {stored : Option (ActivationRecord Context Bundle)}
    (h : readActivation env tables scope activeKey = .ok stored) :
    (stored = none ∧ ∀ row ∈ tables.activations.rows, row.activeKey ≠ activeKey) ∨
      ∃ row ∈ tables.activations.rows, row.activeKey = activeKey ∧
        stored = some row.ciphertext.value ∧
        row.ciphertext.value.validate env.registration = .ok () := by
  rw [readActivation] at h
  match hfound : tables.activations.select fun row => row.activeKey = activeKey with
  | [] =>
    rw [hfound] at h
    cases h
    exact .inl ⟨rfl, Table.select_eq_nil.mp hfound⟩
  | [row] =>
    obtain ⟨hmem, hkey⟩ := Table.mem_select.mp (hfound ▸ List.mem_singleton_self row)
    simp only [hfound, openActivation, ok_iff] at h
    obtain ⟨-, identity, -, value, hvalue, hvalid, rfl⟩ := h
    cases Sealed.openAs_eq_ok hvalue
    exact .inr ⟨row, hmem, hkey, rfl, hvalid⟩
  | _ :: _ :: _ =>
    rw [hfound] at h
    cases h

/-! ## What is settled -/

def IsReserved (state : EcdsaReservationState) (reservation : LinkedReservation) : Prop :=
  state = .sourcePreservingInactive reservation ∨ state = .sourcePreservingActivating reservation

variable {state : EcdsaReservationState}

section Reserved

variable {reservation : LinkedReservation} (h : IsReserved state reservation)

include h

theorem IsReserved.unrevoked : state.unrevoked = some reservation := by
  rcases h with rfl | rfl <;> rfl

theorem IsReserved.binding : state.binding = reservation.binding := by
  rcases h with rfl | rfl <;> rfl

theorem IsReserved.materialActivation :
    state.materialActivation = reservation.materialActivation := by
  rcases h with rfl | rfl <;> rfl

end Reserved

variable {linked : LinkedEnvironment n P} {request : SourcePreservingReservationRequest}
  {target : MpcMaterialActivationRef}

/-- A reservation that is settled from a stored one is its exact retry. -/
theorem settleLinkedEcdsaReservation_eq_ok {reservationId : String}
    {settled : LinkedEcdsaReservation}
    (h : settleLinkedEcdsaReservation linked (some state) request target reservationId =
      .ok settled) :
    ∃ reservation, IsReserved state reservation ∧
      reservation.binding = request.sourceContribution.binding ∧
      reservation.materialActivation = target ∧
      settled = .answer ⟨"inactive", reservation⟩ := by
  simp only [settleLinkedEcdsaReservation, ok_iff, matchesRequest, decide_eq_true_eq] at h
  obtain ⟨-, ⟨hbinding, htarget, -⟩, h⟩ := h
  cases state with
  | sourcePreservingInactive reservation | sourcePreservingActivating reservation =>
    obtain ⟨-, rfl⟩ : _ ∧ LinkedEcdsaReservation.answer ⟨"inactive", reservation⟩ = settled := by
      simpa [bind_eq_ok, Unique.exists_iff, sourcePreservingResponseFromState,
        EcdsaReservationState.unrevoked] using h
    exact ⟨reservation, by simp [IsReserved], hbinding, htarget, rfl⟩
  | sourcePreservingActive reservation =>
    obtain ⟨_, -, h⟩ := bind_eq_ok.mp h
    cases h
  | sourcePreservingRevoked reservation | sourcePreservingDeactivating reservation => cases h

/-- Only a reservation that is not active yet is activated. -/
theorem settleLinkedEcdsaActivation_activate {request : ActivateReservationRequest}
    (h : settleLinkedEcdsaActivation linked state request = .ok .activate) :
    ∃ reservation, IsReserved state reservation ∧
      request.materialActivation = reservation.materialActivation := by
  simp only [settleLinkedEcdsaActivation, ok_iff, ActivateReservationRequest.matchesReservation,
    decide_eq_true_eq] at h
  obtain ⟨-, ⟨-, hactivation⟩, h⟩ := h
  cases state with
  | sourcePreservingInactive reservation => exact ⟨reservation, .inl rfl, hactivation⟩
  | sourcePreservingActivating reservation => exact ⟨reservation, .inr rfl, hactivation⟩
  | sourcePreservingActive reservation =>
    obtain ⟨_, -, h⟩ := bind_eq_ok.mp h
    cases h
  | sourcePreservingRevoked reservation | sourcePreservingDeactivating reservation => cases h

/-- A revocation is for the reservation's own activation; a revoked reservation answers
with its own time. -/
theorem settleLinkedEcdsaDeactivation_eq_ok {materialActivation : MpcMaterialActivationRef}
    {settled : LinkedEcdsaDeactivation}
    (h : settleLinkedEcdsaDeactivation linked state materialActivation = .ok settled) :
    state.materialActivation = materialActivation ∧
      ((∃ reservation, state = .sourcePreservingRevoked reservation ∧
          settled = .revoked ⟨"revoked", reservation.reservationId,
            reservation.materialActivation, reservation.revokedAtMs⟩) ∨
        (∀ reservation, state ≠ .sourcePreservingRevoked reservation) ∧
          ((∃ revokedAtMs, revokedAtMs ≠ 0 ∧ settled = .resume revokedAtMs) ∨
            settled = .revoke)) := by
  simp only [settleLinkedEcdsaDeactivation, ok_iff] at h
  obtain ⟨hvalid, ⟨hactivation, -⟩, h⟩ := h
  refine ⟨hactivation, ?_⟩
  cases state with
  | sourcePreservingRevoked reservation =>
    cases h
    exact .inl ⟨reservation, rfl, rfl⟩
  | sourcePreservingDeactivating reservation =>
    cases h
    obtain ⟨_, -, htime⟩ := bind_eq_ok.mp hvalid
    exact .inr ⟨by simp, .inl ⟨reservation.revokedAtMs, ensure_eq_ok.mp htime, rfl⟩⟩
  | sourcePreservingInactive reservation | sourcePreservingActivating reservation
  | sourcePreservingActive reservation =>
    cases h
    exact .inr ⟨by simp, .inr rfl⟩

/-! ## What is written -/

/-- A new inactive reservation, made from the share of its source. -/
structure Reserves (env : StoreEnvironment n P Admission Context Bundle)
    (tables tables' : LinkedTables Context Bundle)
    (request : SourcePreservingReservationRequest) (serverKey : ServerOutputKey)
    (sealSeed share : Bytes 32) (state : EcdsaReservationState) (row : LinkedRow) : Prop where
  source : sourceShare env tables request serverKey = .ok share
  inactive : linkedEcdsaInactiveState env.linked request share serverKey.privateKey sealSeed =
    .ok state
  recordKey : mpcMaterialActivationFromEcdsaRef
    request.sourceContribution.binding.target.activation = .ok state.materialActivation ∧
    row.recordKey = reservationRecordKey env.linked state.materialActivation
  activeKey : row.activeKey = none
  value : row.ciphertext.value = ⟨state, none⟩
  activations : tables'.activations = tables.activations
  rows : tables'.linked.rows = tables.linked.rows ++ [row]

/-- An inactive reservation becomes active, with the material opened from it. -/
structure Activates (env : StoreEnvironment n P Admission Context Bundle)
    (tables tables' : LinkedTables Context Bundle) (reservation : LinkedReservation)
    (serverKey : ServerOutputKey) (activation : EcdsaActivationMaterial)
    (row row' : LinkedRow) : Prop where
  reserved : IsReserved row.ciphertext.value.state reservation
  opened : ∃ server activatedAtMs, linkedEcdsaActiveMaterial env.linked
    (.sourcePreservingActive reservation) reservation.materialActivation server
    serverKey.privateKey activatedAtMs = .ok activation
  recordKey : row'.recordKey = row.recordKey
  activeKey : row'.activeKey = some (activeOutputKey reservation.materialActivation)
  value : row'.ciphertext.value = ⟨.sourcePreservingActive reservation, some activation⟩
  activations : tables'.activations = tables.activations
  replaces : tables.linked.Replaces tables'.linked row row'

def EcdsaReservationState.revokedAt (state : EcdsaReservationState) (revokedAtMs : ℕ) :
    EcdsaReservationState :=
  .sourcePreservingRevoked ⟨state.binding, state.sourceDerivation, state.materialActivation,
    state.reservationId, revokedAtMs⟩

/-- A reservation that is not revoked yet is revoked, and its material dropped. -/
structure Revokes (env : StoreEnvironment n P Admission Context Bundle)
    (tables tables' : LinkedTables Context Bundle) (revokedAtMs : ℕ)
    (row row' : LinkedRow) : Prop where
  unrevoked : ∀ reservation, row.ciphertext.value.state ≠ .sourcePreservingRevoked reservation
  recordKey : row.recordKey =
    reservationRecordKey env.linked row.ciphertext.value.state.materialActivation
  keepsKey : row'.recordKey = row.recordKey
  activeKey : row'.activeKey = none
  value : row'.ciphertext.value = ⟨row.ciphertext.value.state.revokedAt revokedAtMs, none⟩
  activations : tables'.activations = tables.activations
  replaces : tables.linked.Replaces tables'.linked row row'

theorem ne_nil_of_map_eq_singleton {α β : Type} {f : α → β} {l : List α} {b : β}
    (h : l.map f = [b]) : l ≠ [] := by
  rintro rfl
  cases h

/-! ## Reservations -/

/-- What a successful reservation did: answered an exact retry, or stored a new row. -/
inductive ReserveOutcome (env : StoreEnvironment n P Admission Context Bundle)
    (tables tables' : LinkedTables Context Bundle)
    (request : SourcePreservingReservationRequest) (serverKey : ServerOutputKey)
    (sealSeed : Bytes 32) (target : MpcMaterialActivationRef)
    (response : SourcePreservingReservationResponse) : Prop
  | answered {row : LinkedRow} {reservation : LinkedReservation}
      (htables : tables' = tables) (hrow : row ∈ tables.linked.rows)
      (hkey : row.recordKey = reservationRecordKey env.linked target)
      (hreserved : IsReserved row.ciphertext.value.state reservation)
      (hbinding : reservation.binding = request.sourceContribution.binding)
      (htarget : reservation.materialActivation = target)
      (hresponse : response = ⟨"inactive", reservation⟩)
  | stored {share : Bytes 32} {state : EcdsaReservationState} {row : LinkedRow}
      (hfresh : ∀ row ∈ tables.linked.rows, row.recordKey ≠ reservationRecordKey env.linked target)
      (htarget : state.materialActivation = target)
      (hreserves : Reserves env tables tables' request serverKey sealSeed share state row)

variable {privateKey sealSeed : Bytes 32}

/-- The state is an inactive reservation of its request's binding. -/
theorem linkedEcdsaInactiveState_eq_ok {share : Bytes 32}
    (h : linkedEcdsaInactiveState linked request share privateKey sealSeed = .ok state) :
    ∃ reservation, state = .sourcePreservingInactive reservation ∧
      reservation.binding = request.sourceContribution.binding ∧
      mpcMaterialActivationFromEcdsaRef request.sourceContribution.binding.target.activation =
        .ok reservation.materialActivation := by
  simp only [linkedEcdsaInactiveState, ok_iff] at h
  obtain ⟨_, -, activation, hactivation, _, -, _, -, _, -, _, -, _, -, -, rfl⟩ := h
  exact ⟨_, rfl, rfl, hactivation⟩

variable {serverKey : ServerOutputKey} {response : SourcePreservingReservationResponse}
  {reads : StoreReads}

theorem reserveLinked_eq_ok
    (h : reserveLinked env reads tables request serverKey sealSeed = .ok (response, tables')) :
    ∃ target, mpcMaterialActivationFromEcdsaRef
        request.sourceContribution.binding.target.activation = .ok target ∧
      ReserveOutcome env tables tables' request serverKey sealSeed target response := by
  simp only [reserveLinked, ok_iff] at h
  obtain ⟨-, -, target, htarget, digest, -, current, hcurrent, settled, hsettled, h⟩ := h
  refine ⟨target, htarget, ?_⟩
  rcases readLinked_eq_ok hcurrent with ⟨rfl, hnone⟩ | ⟨row, hrow, hkey, rfl, -⟩
  · cases hsettled
    simp only [reserveRow, ok_iff] at h
    obtain ⟨-, share, hshare, state, hstate, identity, -, hwritten, _, -, hend⟩ := h
    cases hend
    obtain ⟨-, hrows⟩ := Table.insertIgnore_eq_singleton (ne_nil_of_map_eq_singleton hwritten)
    obtain ⟨reservation, rfl, -, hactivation⟩ := linkedEcdsaInactiveState_eq_ok hstate
    cases htarget.symm.trans hactivation
    exact .stored hnone rfl ⟨hshare, hstate, ⟨htarget, rfl⟩, rfl, rfl, rfl, hrows⟩
  · obtain ⟨reservation, hreserved, hbinding, hactivation, rfl⟩ :=
      settleLinkedEcdsaReservation_eq_ok hsettled
    cases h
    exact .answered rfl hrow hkey hreserved hbinding hactivation rfl

/-! ## Activations of linked devices -/

variable {activatedAtMs : ℕ}

theorem activateLinked_eq_ok {request : ActivateReservationRequest}
    (h : activateLinked env reads tables request serverKey activatedAtMs = .ok (response, tables'))
    :
    tables' = tables ∨ ∃ reservation activation row row',
      Activates env tables tables' reservation serverKey activation row row' := by
  simp only [activateLinked, ok_iff] at h
  obtain ⟨-, -, found, hfound, stored, rfl, settled, hsettled, h⟩ := h
  rcases readLinked_eq_ok hfound with ⟨hnone, -⟩ | ⟨row, hrow, hkey, hstored, -⟩
  · cases hnone
  · cases hstored
    cases settled with
    | answer answered =>
      cases h
      exact .inl rfl
    | activate =>
      obtain ⟨reservation, hreserved, hrequest⟩ := settleLinkedEcdsaActivation_activate hsettled
      rw [← hkey] at h
      simp only [activateRow, ok_iff, intoSourcePreservingActive, hreserved.unrevoked,
        hrequest] at h
      obtain ⟨-, state, ⟨_, hsome, rfl⟩, server, -, activation, hactivation, _, -, identity, -,
        ⟨written, linked⟩, hupdate, hwritten, hend⟩ := h
      cases hsome
      cases hend
      obtain ⟨found, ⟨hfound, -, -⟩, hreplaces⟩ := Table.replaces_of_updateUnique hupdate
        (ne_nil_of_map_eq_singleton hwritten) fun r hr s hs hpr hps =>
          linked_eq_of_recordKey hr hs (hpr.1.trans hps.1.symm)
      obtain rfl := linked_eq_of_recordKey hreplaces.mem hrow hfound
      refine .inr ⟨reservation, activation, _, _, hreserved, ⟨server, activatedAtMs, hactivation⟩,
        ?_, ?_, ?_, rfl, hreplaces⟩ <;> rfl

/-! ## Revocations -/

theorem validateSourcePreservingIdentity_of_validate (h : state.validate linked = .ok ()) :
    validateSourcePreservingIdentity linked state = .ok () := by
  cases state with
  | sourcePreservingInactive reservation | sourcePreservingActivating reservation
  | sourcePreservingActive reservation | sourcePreservingRevoked reservation
  | sourcePreservingDeactivating reservation =>
    obtain ⟨_, hidentity, -⟩ := bind_eq_ok.mp h
    exact hidentity

variable {revokedAtMs : ℕ}

/-- The identity is all a revoked reservation keeps, so it stays valid. -/
theorem validate_revokedAt (h : state.validate linked = .ok ()) (htime : revokedAtMs ≠ 0) :
    (state.revokedAt revokedAtMs).validate linked = .ok () := by
  have hidentity := validateSourcePreservingIdentity_of_validate h
  have hsame : validateSourcePreservingIdentity linked (state.revokedAt revokedAtMs) =
      validateSourcePreservingIdentity linked state := by
    cases state <;> rfl
  refine bind_eq_ok.mpr ⟨(), hsame.trans hidentity, ?_⟩
  exact ensure_of htime _

/-- What a successful revocation did: answered the one that is stored, or revoked. -/
inductive DeactivateOutcome (env : StoreEnvironment n P Admission Context Bundle)
    (tables tables' : LinkedTables Context Bundle) (request : DeactivateReservationRequest)
    (response : ReservationDeactivationResponse) : Prop
  | answered {row : LinkedRow} {reservation : RevokedReservation}
      (htables : tables' = tables) (hrow : row ∈ tables.linked.rows)
      (hkey : row.recordKey = reservationRecordKey env.linked request.materialActivation)
      (hopens : Opens env request.scope row)
      (hstate : row.ciphertext.value.state = .sourcePreservingRevoked reservation)
      (hactivation : reservation.materialActivation = request.materialActivation)
      (hresponse : response.revokedAtMs = reservation.revokedAtMs)
  | revoked {row row' : LinkedRow}
      (hactivation : row.ciphertext.value.state.materialActivation = request.materialActivation)
      (hopens : Opens env request.scope row')
      (hrevokes : Revokes env tables tables' response.revokedAtMs row row')

variable {nowUnixMs : ℕ}

theorem deactivateLinked_eq_ok {request : DeactivateReservationRequest}
    {response : ReservationDeactivationResponse}
    (h : deactivateLinked env reads tables request nowUnixMs = .ok (response, tables')) :
    DeactivateOutcome env tables tables' request response := by
  simp only [deactivateLinked, ok_iff] at h
  obtain ⟨-, hnow, found, hfound, stored, rfl, settled, hsettled, h⟩ := h
  rcases readLinked_eq_ok hfound with ⟨hnone, -⟩ | ⟨row, hrow, hkey, hstored, hopens⟩
  · cases hnone
  · cases hstored
    obtain ⟨hactivation, ⟨reservation, hstate, rfl⟩ | ⟨hunrevoked, htime⟩⟩ :=
      settleLinkedEcdsaDeactivation_eq_ok hsettled
    · cases h
      rw [hstate] at hactivation
      exact .answered rfl hrow hkey hopens hstate hactivation rfl
    · obtain ⟨revokedAtMs, hnonzero, h⟩ : ∃ revokedAtMs, revokedAtMs ≠ 0 ∧
          revokeRow env tables request revokedAtMs row.ciphertext.value.state
            (reservationRecordKey env.linked request.materialActivation) =
              .ok (response, tables') := by
        rcases htime with ⟨revokedAtMs, hnonzero, rfl⟩ | rfl
        · obtain ⟨_, -, h⟩ := bind_eq_ok.mp h
          exact ⟨revokedAtMs, hnonzero, h⟩
        · obtain ⟨_, -, h⟩ := bind_eq_ok.mp h
          exact ⟨nowUnixMs, ensure_eq_ok.mp hnow, h⟩
      rw [← hkey] at h
      simp only [revokeRow, ok_iff] at h
      obtain ⟨identity, hidentity, ⟨written, linked⟩, hupdate, hwritten, hend⟩ := h
      cases hend
      obtain ⟨found, ⟨hfound, howner⟩, hreplaces⟩ := Table.replaces_of_updateUnique hupdate
        (ne_nil_of_map_eq_singleton hwritten) fun r hr s hs hpr hps =>
          linked_eq_of_recordKey hr hs (hpr.1.trans hps.1.symm)
      obtain rfl := linked_eq_of_recordKey hreplaces.mem hrow hfound
      rw [← hactivation] at hreplaces
      refine .revoked hactivation ?_
        ⟨hunrevoked, hactivation ▸ hkey, ?_, ?_, ?_, rfl, hreplaces⟩
      · exact ⟨howner, rfl, hidentity, validate_revokedAt hopens.valid hnonzero⟩
      all_goals rfl

/-! ## The wallet's own material -/

/-- Activations stay, and a new one is the activation that was asked for. -/
structure ActivationsGrow (tables tables' : LinkedTables Context Bundle)
    (activation : ActivationRequest Context Bundle) : Prop where
  kept : ∀ row ∈ tables.activations.rows, row ∈ tables'.activations.rows
  added : ∀ row ∈ tables'.activations.rows, row ∈ tables.activations.rows ∨
    row.ciphertext.value.activation = activation
  linked : tables'.linked = tables.linked

omit [DecidableEq P] in
theorem activate_eq_ok [DecidableEq Context] [DecidableEq Bundle]
    {activation : ActivationRequest Context Bundle}
    {material : Ed25519Worker.ServerOutputMaterialRecord} {receipt : ActivationReceipt}
    (h : activate env reads tables scope activation material activatedAtMs =
      .ok (receipt, tables')) : ActivationsGrow tables tables' activation := by
  have hinsert : ∃ row : ActivationRow Context Bundle,
      row.ciphertext.value.activation = activation ∧
        tables' = { tables with activations := (tables.activations.insertIgnore row).2 } := by
    simp only [activate, ok_iff] at h
    obtain ⟨-, -, -, -, -, -, authority, -, active, -, -, identity, -, stored, -, -, hend⟩ := h
    obtain ⟨-, rfl⟩ := Prod.mk.inj hend
    exact ⟨_, rfl, rfl⟩
  obtain ⟨row, hrow, rfl⟩ := hinsert
  refine ⟨fun _ => Table.mem_insertIgnore, ?_, rfl⟩
  intro r hr
  rcases Table.insertIgnore_cases tables.activations row with ⟨-, -, hrows⟩ | hsame
  · rw [hrows, List.mem_append, List.mem_singleton] at hr
    rcases hr with hr | rfl
    · exact .inl hr
    · exact .inr hrow
  · rw [hsame] at hr
    exact .inl hr

/-! ## Calls -/

/-- What a call can do to the linked devices. -/
inductive LinkedChange (env : StoreEnvironment n P Admission Context Bundle)
    (tables tables' : LinkedTables Context Bundle) : Prop
  | kept (hlinked : tables'.linked = tables.linked)
  | reserved {request : SourcePreservingReservationRequest} {serverKey : ServerOutputKey}
      {sealSeed share : Bytes 32} {state : EcdsaReservationState} {row : LinkedRow}
      (hreserves : Reserves env tables tables' request serverKey sealSeed share state row)
  | activated {reservation : LinkedReservation} {serverKey : ServerOutputKey}
      {activation : EcdsaActivationMaterial} {row row' : LinkedRow}
      (hactivates : Activates env tables tables' reservation serverKey activation row row')
  | revoked {revokedAtMs : ℕ} {row row' : LinkedRow}
      (hrevokes : Revokes env tables tables' revokedAtMs row row')

/-- The call activates the wallet's own material, and it is this one. -/
def LinkedCall.ActivatesOwn (call : LinkedCall Admission Context Bundle)
    (m : MpcMaterialActivationRef) : Prop :=
  match call with
  | .activate _ activation _ _ => activation.materialActivation = m
  | _ => False

/-- What a call can do to the tables of activations and linked devices. -/
structure StoreChange (env : StoreEnvironment n P Admission Context Bundle)
    (call : LinkedCall Admission Context Bundle)
    (tables tables' : LinkedTables Context Bundle) : Prop where
  linked : LinkedChange env tables tables'
  kept : ∀ row ∈ tables.activations.rows, row ∈ tables'.activations.rows
  added : ∀ row ∈ tables'.activations.rows, row ∈ tables.activations.rows ∨
    call.ActivatesOwn row.ciphertext.value.activation.materialActivation

theorem StoreChange.of_activations {call : LinkedCall Admission Context Bundle}
    (hlinked : LinkedChange env tables tables')
    (hactivations : tables'.activations = tables.activations) :
    StoreChange env call tables tables' := by
  refine ⟨hlinked, ?_, ?_⟩ <;> rw [hactivations]
  · exact fun _ => id
  · exact fun _ => .inl

theorem StoreChange.refl (call : LinkedCall Admission Context Bundle)
    (tables : LinkedTables Context Bundle) : StoreChange env call tables tables :=
  .of_activations (.kept rfl) rfl

theorem answerLinkedCall_change [DecidableEq Context] [DecidableEq Bundle]
    (env : StoreEnvironment n P Admission Context Bundle) (tables : LinkedTables Context Bundle)
    (call : LinkedCall Admission Context Bundle × StoreReads) :
    StoreChange env call.1 tables (answerLinkedCall env tables call).2 := by
  obtain ⟨call, reads⟩ := call
  cases call with
  | activate scope activation material activatedAtMs =>
    apply transact_keeps (StoreChange env _ tables) (.refl _ tables)
    intro receipt tables' h
    obtain ⟨hkept, hadded, hlinked⟩ := activate_eq_ok h
    refine ⟨.kept hlinked, hkept, fun row hrow => ?_⟩
    exact (hadded row hrow).imp id fun hnew => by rw [hnew]; rfl
  | reserve request serverKey sealSeed =>
    apply transact_keeps (StoreChange env _ tables) (.refl _ tables)
    intro response tables' h
    obtain ⟨target, -, houtcome⟩ := reserveLinked_eq_ok h
    cases houtcome with
    | answered htables =>
      subst htables
      exact .refl _ _
    | stored hfresh htarget hreserves =>
      exact .of_activations (.reserved hreserves) hreserves.activations
  | activateLinked request serverKey activatedAtMs =>
    apply transact_keeps (StoreChange env _ tables) (.refl _ tables)
    intro response tables' h
    rcases activateLinked_eq_ok h with rfl | ⟨_, _, _, _, hactivates⟩
    · exact .refl _ _
    · exact .of_activations (.activated hactivates) hactivates.activations
  | deactivate request nowUnixMs =>
    apply transact_keeps (StoreChange env _ tables) (.refl _ tables)
    intro response tables' h
    cases deactivateLinked_eq_ok h with
    | answered htables =>
      subst htables
      exact .refl _ _
    | revoked hactivation howner hrevokes =>
      exact .of_activations (.revoked hrevokes) hrevokes.activations
  | load scope lookup => exact .refl _ tables
  | claim scope admitted nowUnixMs =>
    apply transact_keeps (StoreChange env _ tables) (.refl _ tables)
    intro answer tables' h
    simp only [claimAndConsumeLinkedEffect, ok_iff] at h
    obtain ⟨_, -, hend⟩ := h
    cases hend
    exact .of_activations (.kept rfl) rfl

/-- What is true of all rows stays so if it is true of a new reservation and passes from a
replaced row to the one in its place. -/
theorem LinkedChange.forall_mem {p : LinkedRow → Prop} (h : LinkedChange env tables tables')
    (hkept : ∀ row ∈ tables.linked.rows, p row)
    (hreserved : ∀ {request serverKey sealSeed share state row},
      Reserves env tables tables' request serverKey sealSeed share state row → p row)
    (hactivated : ∀ {reservation serverKey activation row row'},
      Activates env tables tables' reservation serverKey activation row row' → p row → p row')
    (hrevoked : ∀ {revokedAtMs row row'},
      Revokes env tables tables' revokedAtMs row row' → p row → p row') :
    ∀ row ∈ tables'.linked.rows, p row := by
  intro r hr
  cases h with
  | kept hlinked => exact hkept r (hlinked ▸ hr)
  | reserved hreserves =>
    rw [hreserves.rows, List.mem_append, List.mem_singleton] at hr
    rcases hr with hr | rfl
    · exact hkept r hr
    · exact hreserved hreserves
  | activated hactivates =>
    rcases (hactivates.replaces.mem_iff r).mp hr with ⟨hr, -⟩ | rfl
    · exact hkept r hr
    · exact hactivated hactivates (hkept _ hactivates.replaces.mem)
  | revoked hrevokes =>
    rcases (hrevokes.replaces.mem_iff r).mp hr with ⟨hr, -⟩ | rfl
    · exact hkept r hr
    · exact hrevoked hrevokes (hkept _ hrevokes.replaces.mem)

/-! ## Rows and their activations -/

/-- Rows are stored under the key of their activation and hold material of that activation
only; a revoked row holds none. -/
structure WellKeyed (env : StoreEnvironment n P Admission Context Bundle)
    (row : LinkedRow) : Prop where
  recordKey : row.recordKey =
    reservationRecordKey env.linked row.ciphertext.value.state.materialActivation
  material : ∀ activation, row.ciphertext.value.activation = some activation →
    activation.active.materialActivation = row.ciphertext.value.state.materialActivation
  revoked : ∀ reservation, row.ciphertext.value.state = .sourcePreservingRevoked reservation →
      row.activeKey = none ∧ row.ciphertext.value.activation = none

theorem LinkedChange.wellKeyed (h : LinkedChange env tables tables')
    (hrows : ∀ row ∈ tables.linked.rows, WellKeyed env row) :
    ∀ row ∈ tables'.linked.rows, WellKeyed env row := by
  refine h.forall_mem hrows (fun hreserves => ?_) (fun hactivates hrow => ?_) fun hrevokes _ => ?_
  · obtain ⟨reservation, hstate, -⟩ := linkedEcdsaInactiveState_eq_ok hreserves.inactive
    constructor <;> rw [hreserves.value]
    · exact hreserves.recordKey.2
    · rintro _ ⟨⟩
    · rw [hstate]
      rintro _ ⟨⟩
  · obtain ⟨server, activatedAtMs, hopened⟩ := hactivates.opened
    constructor <;> rw [hactivates.value]
    · rw [hactivates.recordKey, hrow.recordKey, hactivates.reserved.materialActivation]
      rfl
    · rintro _ ⟨⟩
      simp only [linkedEcdsaActiveMaterial, ok_iff] at hopened
      obtain ⟨-, _, -, _, -, -, _, -, _, -, _, -, -, -, rfl⟩ := hopened
      rfl
    · rintro _ ⟨⟩
  · constructor <;> rw [hrevokes.value]
    · exact hrevokes.keepsKey.trans hrevokes.recordKey
    · rintro _ ⟨⟩
    · exact fun _ _ => ⟨hrevokes.activeKey, rfl⟩

/-- The binding of a row never changes, and a new row's binding is the one of its request. -/
theorem LinkedChange.binding (h : LinkedChange env tables tables') :
    ∀ r ∈ tables'.linked.rows,
    (∃ earlier ∈ tables.linked.rows, earlier.recordKey = r.recordKey ∧
      earlier.ciphertext.value.state.binding = r.ciphertext.value.state.binding) ∨
    ∃ request serverKey sealSeed share state,
      Reserves env tables tables' request serverKey sealSeed share state r ∧
        r.ciphertext.value.state.binding = request.sourceContribution.binding := by
  refine h.forall_mem (fun r hr => .inl ⟨r, hr, rfl, rfl⟩) (fun hreserves => ?_)
    (fun hactivates _ => ?_) fun hrevokes _ => ?_
  · obtain ⟨reservation, rfl, hbinding, -⟩ := linkedEcdsaInactiveState_eq_ok hreserves.inactive
    refine .inr ⟨_, _, _, _, _, hreserves, ?_⟩
    rw [hreserves.value]
    exact hbinding
  · refine .inl ⟨_, hactivates.replaces.mem, hactivates.recordKey.symm, ?_⟩
    rw [hactivates.value]
    exact hactivates.reserved.binding
  · refine .inl ⟨_, hrevokes.replaces.mem, hrevokes.keepsKey.symm, ?_⟩
    rw [hrevokes.value]
    rfl

end Steps

end SeamsWallet.LinkedEcdsa
