import SeamsWallet.Nonce.Quiet

/-!
# Every operation keeps the ledger

For each operation of one coordinator, while the leases of the others stay as they
are: if the ledger is in order when the operation starts, then it is in order when
the operation returns and also when it throws.

Two operations need more than the ledger. A reservation needs that no other
coordinator holds a stale lease of the lane, and an accepted NEAR broadcast needs a
transaction hash that can be read back.
-/

namespace SeamsWallet.Nonce

open Library Effect

section

variable (others : ℕ → Dict NonceLeaseId NonceLease) (i nowMs : ℕ)

/-- The ledger, seen from the world of one operation. -/
def InOrder (exempt : Option NonceLeaseId) (w : World) : Prop :=
  Ledger nowMs exempt (allHeld others i w) w.store w.nextRandomId

/-- In order, and the coordinator at work holds the lease. -/
structure Holding (lease : NonceLease) (w : World) : Prop where
  inOrder : InOrder others i nowMs none w
  held : w.coordinator.leases.get? lease.leaseId = some lease

/-- In order but for the lease, which the coordinator at work holds. -/
structure Pending (lease : NonceLease) (w : World) : Prop where
  inOrder : InOrder others i nowMs (some lease.leaseId) w
  held : w.coordinator.leases.get? lease.leaseId = some lease

/-- An operation that keeps the ledger, whether it returns or throws. -/
def Keeps {α : Type} (m : NonceM α) : Prop :=
  Meets (InOrder others i nowMs none) m (fun _ => InOrder others i nowMs none)
    (InOrder others i nowMs none)

/-- An operation after which the ledger is in order. -/
abbrev Settles {α : Type} (P : World → Prop) (m : NonceM α) : Prop :=
  Meets P m (fun _ => InOrder others i nowMs none) (InOrder others i nowMs none)

variable {others i nowMs} {w w' : World}

theorem InOrder.quiet {exempt : Option NonceLeaseId} (hquiet : Quiet nowMs w w')
    (h : InOrder others i nowMs exempt w) : InOrder others i nowMs exempt w' := by
  rw [InOrder, allHeld, hquiet.leases, hquiet.nextRandomId]
  exact Ledger.of_store h hquiet.store

variable {lease : NonceLease}

theorem Holding.quiet (hquiet : Quiet nowMs w w') (h : Holding others i nowMs lease w) :
    Holding others i nowMs lease w' :=
  ⟨h.inOrder.quiet hquiet, hquiet.leases ▸ h.held⟩

theorem Pending.quiet (hquiet : Quiet nowMs w w') (h : Pending others i nowMs lease w) :
    Pending others i nowMs lease w' :=
  ⟨h.inOrder.quiet hquiet, hquiet.leases ▸ h.held⟩

variable {α : Type} {m : NonceM α}

theorem Keeps.of_quiet (h : Within (Quiet nowMs) m) : Keeps others i nowMs m :=
  h.meets fun _ _ hquiet hw => hw.quiet hquiet

theorem Holding.meets_of_quiet (h : Within (Quiet nowMs) m) :
    Meets (Holding others i nowMs lease) m (fun _ => Holding others i nowMs lease)
      (InOrder others i nowMs none) :=
  (h.meets fun _ _ hquiet hw => Holding.quiet hquiet hw).failing fun _ hw => hw.inOrder

theorem Keeps.bind {β : Type} {f : α → NonceM β} (hm : Keeps others i nowMs m)
    (hf : ∀ a, Keeps others i nowMs (f a)) : Keeps others i nowMs (m >>= f) :=
  Meets.bind hm hf

theorem Keeps.pure (a : α) : Keeps others i nowMs (pure a) :=
  Meets.pure fun _ hw => hw

/-- An operation whose answer is read off what it returns. -/
theorem Keeps.returns {β : Type} {C : Prop} {f : α → β} (h : C → Keeps others i nowMs m) :
    Settles others i nowMs (fun w => InOrder others i nowMs none w ∧ C) (do return f (← m)) :=
  Meets.given fun hc => Keeps.bind (h hc) fun _ => Keeps.pure _

theorem Holding.pending (h : Holding others i nowMs lease w) : Pending others i nowMs lease w :=
  ⟨h.inOrder.exempting lease.leaseId, h.held⟩

theorem Pending.allHeld (h : Pending others i nowMs lease w) :
    Nonce.allHeld others i w i lease.leaseId lease := by
  rw [Nonce.allHeld, heldBy, Function.update_self]
  exact h.held

/-- The exemption of a held lease ends when the lease needs no record or has one. -/
theorem Pending.settle (h : Pending others i nowMs lease w)
    (hlease : isActiveLeaseState lease.state = true →
      Stale nowMs lease ∨ ∃ record, w.store.get? lease.leaseId = some record ∧ Covers record lease)
    :
    InOrder others i nowMs none w := by
  refine Ledger.settle h.inOrder fun j other hother hactive => ?_
  obtain ⟨-, rfl⟩ := h.inOrder.owner j i _ other lease hother h.allHeld
  exact hlease hactive

/-! ## Writing leases and records -/

theorem Pending.withLease {next : NonceLease} (hw : Pending others i nowMs lease w)
    (hid : next.leaseId = lease.leaseId) (hlane : next.lane = lease.lane)
    (hnonce : next.nonce = lease.nonce)
    (hactive : isActiveLeaseState next.state = true → isActiveLeaseState lease.state = true) :
    Pending others i nowMs next (w.withLease next) := by
  refine ⟨?_, Dict.get?_set_self _ _ _⟩
  rw [InOrder, Nonce.allHeld, World.withLease, heldBy_update_set, hid]
  exact Ledger.replace hw.inOrder hw.allHeld hid hlane hnonce hactive

/-- A record for the lease, whatever it says, concerns no other lease. -/
theorem Pending.withRecord {record : NonceLaneCoordinationRecord}
    (hw : Pending others i nowMs lease w) (hid : record.leaseId = lease.leaseId) :
    Pending others i nowMs lease (w.withRecord record) := by
  refine ⟨Ledger.touchRecord hw.inOrder ?_, hw.held⟩
  intro id hne
  rw [← hid] at hne
  exact (Dict.get?_set_of_ne _ _ hne).symm

variable {E : World → Prop}

theorem removeCoordinationLease_meets :
    Meets (Pending others i nowMs lease) (removeCoordinationLease lease)
      (fun _ => Pending others i nowMs lease) E := by
  refine Meets.update fun w hw => ⟨Ledger.touchRecord hw.inOrder ?_, hw.held⟩
  intro id hne
  apply Option.ext
  intro record
  rw [NonceLaneCoordinationStore.remove, Dict.get?_delete]
  exact ⟨fun hget => ⟨hget, hne⟩, fun hget => hget.1⟩

theorem removeHeldLease_meets : Meets (Holding others i nowMs lease) (removeCoordinationLease lease)
      (fun _ => Pending others i nowMs lease) E :=
  removeCoordinationLease_meets.pre fun _ hw => hw.pending

theorem persistCoordinationLease_meets {lifecycle : NonceDurableLeaseLifecycle} {expiresAtMs : ℕ} :
    Meets (Pending others i nowMs lease) (persistCoordinationLease lease lifecycle expiresAtMs)
      (fun _ w => Pending others i nowMs lease w ∧
        w.store.get? lease.leaseId = some (coordinationRecord lease lifecycle expiresAtMs))
      E :=
  Meets.update fun _ hw => ⟨hw.withRecord rfl, Dict.get?_set_self _ _ _⟩

/-! ## Transitions -/

variable {P : World → Prop} {state : NonceLeaseState} {transition : NonceLeaseTransition}

theorem reduceNonceLeaseState_meets : Meets P (reduceNonceLeaseState state transition)
      (fun next w => P w ∧ tryReduceNonceLeaseState state transition = some next) P := by
  unfold reduceNonceLeaseState
  split
  · rename_i next hnext
    exact Meets.pure fun w hw => ⟨hw, hnext⟩
  · exact Meets.fail fun w hw => hw

/-- A transition that is not to signed or accepted ends the lease. -/
def Ends (transition : NonceLeaseTransition) : Prop :=
  transition ≠ .markSigned ∧ transition ≠ .broadcastAccepted

instance (transition : NonceLeaseTransition) : Decidable (Ends transition) :=
  inferInstanceAs (Decidable (_ ∧ _))

variable {next : NonceLeaseState}

theorem Ends.inactive
    (hends : Ends transition) (h : tryReduceNonceLeaseState state transition = some next) :
    ¬isActiveLeaseState next = true := by
  revert hends
  cases state <;> cases transition <;> cases h <;> decide

variable {expiresAtMs : Option ℕ}

/-- A legal transition cannot fail, and it changes state and time of expiry only. -/
theorem transitionLease_meets (hnext : tryReduceNonceLeaseState lease.state transition = some next)
    (hactive : isActiveLeaseState next = true → isActiveLeaseState lease.state = true) :
    Meets (Pending others i nowMs lease) (transitionLease lease transition expiresAtMs)
      (fun moved w => Pending others i nowMs moved w ∧ moved = { lease with
          state := next
          expiresAtMs := expiresAtMs.getD lease.expiresAtMs }) E := by
  have hreduce : reduceNonceLeaseState lease.state transition = pure next := by
    rw [reduceNonceLeaseState, hnext]
  rw [transitionLease, hreduce]
  exact ⟨fun w hw => ⟨hw.withLease rfl rfl rfl hactive, rfl⟩⟩

theorem transitionLease_illegal {Q : NonceLease → World → Prop}
    (hnext : tryReduceNonceLeaseState lease.state transition = none) :
    Meets P (transitionLease lease transition expiresAtMs) Q P := by
  refine Meets.bind reduceNonceLeaseState_meets fun next => Meets.given fun hsome => ?_
  rw [hnext] at hsome
  exact nomatch hsome

/-- A lease whose record is gone and that is then ended is in order again. -/
theorem transitionLease_ends (hends : Ends transition)
    (hlegal : ∃ next, tryReduceNonceLeaseState lease.state transition = some next) :
    Meets (Pending others i nowMs lease) (transitionLease lease transition none)
      (fun ended w => Holding others i nowMs ended w ∧
        ended.leaseId = lease.leaseId ∧ ¬isActiveLeaseState ended.state = true) E := by
  obtain ⟨next, hnext⟩ := hlegal
  have hinactive : ¬isActiveLeaseState next = true := hends.inactive hnext
  refine (transitionLease_meets hnext fun hactive => absurd hactive hinactive).post ?_
  rintro ended w ⟨hw, rfl⟩
  have hsettled : InOrder others i nowMs none w := by
    refine hw.settle ?_
    intro hactive
    exact absurd hactive hinactive
  exact ⟨⟨hsettled, hw.held⟩, rfl, hinactive⟩

theorem normalizeLeaseOperationInput_meets (input : NonceLeaseOperationInput) :
    Meets P (normalizeLeaseOperationInput input)
      (fun operationInput w => P w ∧ operationInput.leaseId = input.leaseId) P := by
  have htext : ∀ label value, Meets P (requireText label value) (fun _ => P) P := by
    intro label value
    unfold requireText
    split
    · exact Meets.fail fun w hw => hw
    · exact Meets.pure fun w hw => hw
  refine Meets.bind (htext _ _) fun _ => Meets.bind (htext _ _) fun _ => ?_
  exact Meets.pure fun w hw => ⟨hw, rfl⟩

theorem InOrder.holding {id : NonceLeaseId} (hw : InOrder others i nowMs none w)
    (hget : w.coordinator.leases.get? id = some lease) : Holding others i nowMs lease w := by
  have hall : Nonce.allHeld others i w i id lease := by
    rw [Nonce.allHeld, heldBy, Function.update_self]
    exact hget
  refine ⟨hw, ?_⟩
  rw [(hw.keyed i id lease hall).1]
  exact hget

variable {C : NonceLease → Prop}

theorem readLease_meets (input : NonceLeaseOperationInput) :
    Meets (fun w => InOrder others i nowMs none w ∧
        ∀ lease ∈ w.coordinator.leases.get? input.leaseId, C lease)
      (readLease input) (fun lease w => Holding others i nowMs lease w ∧ C lease)
      (InOrder others i nowMs none) := by
  refine Meets.bind Meets.read fun v => ?_
  split
  · exact Meets.fail fun w hw => hw.2.1
  · rename_i lease hget
    split
    · exact Meets.fail fun w hw => hw.2.1
    · split
      · exact Meets.fail fun w hw => hw.2.1
      · refine Meets.pure fun w hw => ?_
        obtain ⟨rfl, hw, hlease⟩ := hw
        exact ⟨hw.holding hget, hlease lease hget⟩

variable {input : NonceLeaseOperationInput} {f : NonceLease → NonceM α}

theorem meets_onLease
    (hf : ∀ lease, C lease → Settles others i nowMs (Holding others i nowMs lease) (f lease)) :
    Settles others i nowMs (fun w => InOrder others i nowMs none w ∧
        ∀ lease ∈ w.coordinator.leases.get? input.leaseId, C lease)
      (do
        let operationInput ← normalizeLeaseOperationInput input
        let lease ← readLease operationInput
        f lease) := by
  refine Meets.bind ((normalizeLeaseOperationInput_meets input).failing fun w hw => hw.1)
    fun operationInput => ?_
  refine Meets.bind ((readLease_meets (C := C) operationInput).pre ?_) fun lease => ?_
  · rintro w ⟨hw, hid⟩
    rw [hid]
    exact hw
  · exact Meets.given (hf lease)

theorem keeps_onLease
    (hf : ∀ lease, Settles others i nowMs (Holding others i nowMs lease) (f lease)) :
    Keeps others i nowMs (do
      let operationInput ← normalizeLeaseOperationInput input
      let lease ← readLease operationInput
      f lease) :=
  (meets_onLease (C := fun _ => True) fun lease _ => hf lease).pre
    fun _ hw => ⟨hw, fun _ _ => trivial⟩

/-! ## Ending a lease -/

theorem forgetEvmReservation_meets :
    Meets (Pending others i nowMs lease) (forgetEvmReservation nowMs lease)
      (fun _ => Pending others i nowMs lease) E := by
  refine Meets.bind Meets.read fun v => ?_
  split
  · exact Meets.pure fun w hw => hw.2
  · refine Meets.bind (R := fun _ => Pending others i nowMs lease) ?_ fun active => ?_
    · constructor
      intro w hw
      rw [readActiveEvmLeaseNonces, readActiveLeaseNonces_apply]
      exact hw.2.quiet (quiet_pruneExpired w)
    · exact Meets.update fun w hw => hw.quiet (setEvmState_quiet _ _ w)

theorem releaseBackendReservation_meets :
    Meets (Holding others i nowMs lease) (releaseBackendReservation nowMs lease)
      (fun _ => Pending others i nowMs lease) E := by
  unfold releaseBackendReservation
  split
  · exact Meets.bind removeHeldLease_meets fun _ => forgetEvmReservation_meets
  · refine Meets.bind (R := fun _ => Pending others i nowMs lease) ?_ ?_
    · exact Meets.update fun w hw => hw.pending.quiet (quiet_nearFree.updateNearState _ w)
    · exact fun _ => removeCoordinationLease_meets

/-- An ending transition is the last thing an operation does to a lease. -/
theorem transitionLease_last (hends : Ends transition)
    (hlegal : ∃ next, tryReduceNonceLeaseState lease.state transition = some next) :
    Settles others i nowMs (Pending others i nowMs lease) (do
        let _ ← transitionLease lease transition none
        return ()) :=
  Meets.bind (transitionLease_ends hends hlegal) fun _ => Meets.pure fun _ hw => hw.1.inOrder

theorem after_preflight
    (hm : (∃ next, tryReduceNonceLeaseState lease.state transition = some next) →
      Settles others i nowMs (Holding others i nowMs lease) m) :
    Settles others i nowMs (Holding others i nowMs lease)
      (do preflightLeaseTransition lease transition; m) := by
  refine Meets.bind ?_ fun _ => Meets.given hm
  refine Meets.bind (reduceNonceLeaseState_meets.failing fun w hw => hw.inOrder) fun next => ?_
  exact Meets.pure fun w hw => ⟨hw.1, next, hw.2⟩

theorem release_keeps (input : NonceLeaseOperationInput) :
    Keeps others i nowMs (release nowMs input) := by
  unfold release
  refine keeps_onLease fun lease => after_preflight fun hlegal => ?_
  refine Meets.bind releaseBackendReservation_meets fun _ => ?_
  exact transitionLease_last (by decide) hlegal

variable (config : NonceCoordinatorConfig) (input : NonceLeaseOperationInput)

theorem markBroadcastRejected_keeps :
    Keeps others i nowMs (markBroadcastRejected config nowMs input) := by
  unfold markBroadcastRejected
  refine keeps_onLease fun lease => after_preflight fun hlegal => ?_
  refine Meets.bind releaseBackendReservation_meets fun _ => ?_
  refine Meets.bind (R := fun _ => Pending others i nowMs lease) ?_
    fun _ => transitionLease_last (by decide) hlegal
  unfold refreshAfterRejection
  split
  · have hquiet : Within (Quiet nowMs) (refreshNearNonceAfterBroadcastRejected nowMs) :=
      quiet_nearFree.refreshNearNonceAfterBroadcastRejected nowMs
    refine Meets.attempt (hquiet.meets ?_)
    exact fun _ _ hquiet hw => hw.quiet hquiet
  · exact Meets.pure fun w hw => hw

section

variable (lease : NonceLease)

theorem recordFinalized_meets :
    Meets (Holding others i nowMs lease) (recordFinalized config nowMs lease)
      (fun _ => Pending others i nowMs lease)
      (InOrder others i nowMs none) := by
  have hremove : ∀ {m : NonceM Unit}, Within (Quiet nowMs) m →
      Meets (Holding others i nowMs lease) (do m; removeCoordinationLease lease)
        (fun _ => Pending others i nowMs lease)
        (InOrder others i nowMs none) := by
    intro m hm
    exact Meets.bind (Holding.meets_of_quiet hm) fun _ => removeHeldLease_meets
  unfold recordFinalized
  split
  · refine Meets.bind (Holding.meets_of_quiet (getOrCreateEvmState_quiet _)) fun state => ?_
    exact hremove (setEvmState_quiet _ _)
  · unfold markNearFinalized
    split
    · exact hremove (quiet_nearFree.updateNearNonceFromBlockchain nowMs _)
    · exact Meets.bind releaseBackendReservation_meets fun _ => removeCoordinationLease_meets

theorem markFinalized_keeps : Keeps others i nowMs (markFinalized config nowMs input) := by
  unfold markFinalized
  refine keeps_onLease fun lease => after_preflight fun hlegal => ?_
  refine Meets.bind (recordFinalized_meets config lease) fun _ => ?_
  exact transitionLease_last (by decide) hlegal

theorem markDroppedOrReplaced_keeps (reason : EvmNonceOutcomeReason) (txHash : Option String) :
    Keeps others i nowMs (markDroppedOrReplaced nowMs input reason txHash) := by
  unfold markDroppedOrReplaced
  refine keeps_onLease fun lease => ?_
  split
  · exact Meets.fail fun w hw => hw.inOrder
  · refine after_preflight fun hlegal => ?_
    have hends : Ends reason.transition := by cases reason <;> decide
    refine Meets.bind (Holding.meets_of_quiet (getOrCreateEvmState_quiet _)) fun state => ?_
    refine Meets.bind (Holding.meets_of_quiet (setEvmState_quiet _ _)) fun _ => ?_
    exact Meets.bind removeHeldLease_meets fun _ => transitionLease_last hends hlegal

/-! ## Expiry and reconciliation -/

theorem forLeases_keeps {p : NonceLease → Bool} {f : NonceLease → NonceM (Option α)}
    (hf : ∀ lease, Settles others i nowMs (Holding others i nowMs lease) (f lease)) :
    Keeps others i nowMs (forLeases p f) := by
  refine Keeps.bind (Keeps.of_quiet Within.read) fun v => ?_
  refine Meets.bind (Meets.mapM' fun leaseId _ => ?_) fun _ => Meets.pure fun w hw => hw
  refine Meets.bind Meets.read fun v => ?_
  split
  · rename_i lease hget
    refine (hf lease).pre ?_
    rintro w ⟨rfl, hw⟩
    exact hw.holding hget
  · exact Meets.pure fun w hw => hw.2

/-- A stale lease needs no record, so its expiry may be cut short. -/
theorem expireLease_meets :
    Settles others i nowMs (Holding others i nowMs lease) (expireLease config nowMs lease) := by
  unfold expireLease
  split
  · exact Meets.pure fun w hw => hw.inOrder
  · rename_i hdue
    have hfinish : (∃ next, tryReduceNonceLeaseState lease.state .expire = some next) →
        Settles others i nowMs (Pending others i nowMs lease) (do
          let expired ← transitionLease lease .expire none
          return some expired) := by
      intro hlegal
      exact Meets.bind (transitionLease_ends (by decide) hlegal) fun _ =>
        Meets.pure fun w hw => hw.1.inOrder
    split
    · rename_i hsigned
      have hstale : Stale nowMs lease := ⟨by rw [hsigned]; decide, Nat.le_of_not_lt hdue⟩
      refine Meets.bind (R := fun _ => Pending others i nowMs lease) ?_
        fun _ => hfinish ⟨_, by rw [hsigned]; rfl⟩
      refine Meets.bind releaseBackendReservation_meets fun _ => ?_
      split
      · rename_i lane _
        refine Meets.bind (R := fun _ => Pending others i nowMs lease) ?_
          fun _ => Meets.pure fun w hw => hw
        refine ((reconcileEvmLane_quiet config lane).meets fun _ _ hquiet hw =>
          Pending.quiet hquiet hw).failing fun w hw => ?_
        exact hw.settle fun _ => .inl hstale
      · exact Meets.pure fun w hw => hw
    · rename_i hreserved
      exact Meets.bind releaseBackendReservation_meets fun _ =>
        hfinish ⟨_, by rw [hreserved]; rfl⟩
    · exact Meets.pure fun w hw => hw.inOrder

theorem expireDueLeasesForLane_keeps (laneKey : String) :
    Keeps others i nowMs (expireDueLeasesForLane config nowMs laneKey) :=
  forLeases_keeps (expireLease_meets config)

theorem expireDueLeasesForWallet_keeps (walletId : Option String) :
    Keeps others i nowMs (expireDueLeasesForWallet config nowMs walletId) := by
  refine Keeps.bind (Keeps.of_quiet Within.read) fun w => ?_
  refine Keeps.bind (Meets.mapM' fun laneKey _ => ?_) fun _ => Keeps.pure _
  exact expireDueLeasesForLane_keeps config laneKey

/-- Here the lease ends first and its record goes after it. -/
theorem settleNearLease_meets (hends : Ends transition) :
    Settles others i nowMs (Holding others i nowMs lease) (settleNearLease lease transition) := by
  refine Meets.bind (R := fun ended w => Holding others i nowMs ended w ∧
    ended.leaseId = lease.leaseId ∧ ¬isActiveLeaseState ended.state = true) ?_ fun ended => ?_
  · cases hnext : tryReduceNonceLeaseState lease.state transition with
    | some next =>
      exact (transitionLease_ends hends ⟨next, hnext⟩).pre fun w hw => hw.pending
    | none => exact (transitionLease_illegal hnext).failing fun w hw => hw.inOrder
  · refine Meets.bind (R := fun _ => InOrder others i nowMs none) ?_
      fun _ => Keeps.of_quiet (quiet_nearFree.updateNearState _)
    refine Meets.given fun hended => ?_
    obtain ⟨hid, hinactive⟩ := hended
    have hremove : removeCoordinationLease lease = removeCoordinationLease ended := by
      rw [removeCoordinationLease, removeCoordinationLease, hid]
    rw [hremove]
    refine removeHeldLease_meets.post fun _ w hw => ?_
    exact hw.settle fun hactive => absurd hactive hinactive

end

theorem reconcileNearLease_meets (chainNonce : ℕ) (lease : NonceLease) :
    Settles others i nowMs (Holding others i nowMs lease)
      (reconcileNearLease chainNonce lease) := by
  refine Meets.bind (Holding.meets_of_quiet Within.read) fun v => ?_
  dsimp only
  split
  · exact Meets.pure fun w hw => hw.inOrder
  · split
    · exact Meets.pure fun w hw => hw.inOrder
    · split
      · exact Meets.pure fun w hw => hw.inOrder
      · refine Meets.bind (Holding.meets_of_quiet quiet_nearFree.requests.2.2) fun outcome =>
        ?_
        split
        · exact Meets.bind (settleNearLease_meets lease (by decide)) fun _ =>
            Meets.pure fun w hw => hw
        · exact Meets.bind (settleNearLease_meets lease (by decide)) fun _ =>
            Meets.pure fun w hw => hw
        · exact Meets.pure fun w hw => hw.inOrder

theorem reconcileNearLane_keeps (lane : NearNonceLane) :
    Keeps others i nowMs (reconcileNearLane config nowMs lane) := by
  refine Keeps.bind (Keeps.of_quiet (NearFree.requireNearClient _)) fun _ => ?_
  refine Keeps.bind (Keeps.of_quiet (quiet_nearFree.updateNearState _)) fun _ => ?_
  refine Keeps.bind (Keeps.of_quiet quiet_nearFree.requests.1) fun answer => ?_
  split
  · refine Keeps.bind (forLeases_keeps (reconcileNearLease_meets _)) fun unresolved => ?_
    exact Keeps.bind (Keeps.of_quiet (quiet_nearFree.updateNearState _)) fun _ => Keeps.pure _
  · exact Keeps.of_quiet (Within.fail _)
  · exact Keeps.of_quiet (Within.fail _)

/-! ## Signing and broadcast -/

/-- A signed lease and its record get the same time of expiry. -/
theorem markSigned_keeps : Keeps others i nowMs (markSigned config nowMs input) := by
  unfold markSigned
  refine keeps_onLease fun lease => ?_
  cases hnext : tryReduceNonceLeaseState lease.state .markSigned with
  | none =>
    refine Meets.bind (R := fun _ _ => False) ?_ fun _ => ⟨fun _ hw => hw.elim⟩
    exact (transitionLease_illegal hnext).failing fun w hw => hw.inOrder
  | some next =>
    have hstate : next = .signed ∧ isActiveLeaseState lease.state = true := by
      revert hnext
      cases lease.state <;> rintro ⟨⟩ <;> decide
    obtain ⟨rfl, hactive⟩ := hstate
    refine Meets.bind ((transitionLease_meets hnext fun _ => hactive).pre
      fun w hw => hw.pending) fun signed => ?_
    refine Meets.given fun hsigned => ?_
    refine persistCoordinationLease_meets.post ?_
    rintro _ w ⟨hw, hget⟩
    refine hw.settle fun _ => .inr ⟨_, hget, ?_⟩
    subst hsigned
    exact ⟨rfl, rfl, rfl, rfl, .inr ⟨nofun, rfl⟩⟩

/-- A lease with the record of an accepted broadcast, which covers it in any state. -/
structure Accepted (others : ℕ → Dict NonceLeaseId NonceLease) (i nowMs : ℕ)
    (lease : NonceLease) (w : World) : Prop where
  holding : Pending others i nowMs lease w
  record : ∃ record, w.store.get? lease.leaseId = some record ∧
    ∀ state expiresAtMs, Covers record { lease with state, expiresAtMs }

variable {txHash : String}

theorem persistAccepted_meets {expiresAtMs : ℕ} (hhash : IsStoredText txHash) :
    Meets (Holding others i nowMs lease)
      (persistCoordinationLease lease (.broadcastAccepted txHash) expiresAtMs)
      (fun _ => Accepted others i nowMs lease) E := by
  refine persistCoordinationLease_meets.mono (fun w hw => hw.pending) ?_ fun w hw => hw
  rintro _ w ⟨hw, hget⟩
  refine ⟨hw, _, hget, fun state expiresAtMs => ⟨rfl, rfl, rfl, ?_, .inl rfl⟩⟩
  exact decide_eq_true hhash

theorem isStoredText_of_requireEvmTransactionHash {value : String}
    (h : requireEvmTransactionHash value = some txHash) : IsStoredText txHash := by
  rw [requireEvmTransactionHash] at h
  split at h
  · rename_i hshape
    obtain rfl := Option.some.inj h
    obtain ⟨htake, hlength, hall⟩ := hshape
    generalize (trim value).toLower = text at htake hlength hall
    have hsplit : text.toList = ['0', 'x'] ++ text.toList.drop 2 := by
      rw [← htake, List.take_append_drop]
    constructor
    · rintro rfl
      simp at hlength
    · refine trimBy_of_forall fun c hc => ?_
      rw [hsplit, List.mem_append] at hc
      rcases hc with hc | hc
      · rw [List.mem_cons, List.mem_singleton] at hc
        rcases hc with rfl | rfl <;> rfl
      · have hdigit := List.all_eq_true.mp hall c hc
        rw [isLowerHexDigit] at hdigit
        rw [isJsWhitespace]
        simp only [Bool.or_eq_true, Bool.and_eq_true, decide_eq_true_eq] at hdigit
        simp only [Bool.or_eq_false_iff, Bool.and_eq_false_iff, decide_eq_false_iff_not,
          beq_eq_false_iff_ne]
        omega
  · cases h

/-- The hash that a NEAR broadcast is accepted with can be read back. -/
def ReadableNearHash (leases : Dict NonceLeaseId NonceLease) (input : NonceLeaseOperationInput)
    (txHash : String) : Prop :=
  ∀ lease ∈ leases.get? input.leaseId, lease.lane.family = .near → IsStoredText txHash

theorem recordBroadcastAccepted_meets (hhash : lease.lane.family = .near → IsStoredText txHash) :
    Meets (Holding others i nowMs lease) (recordBroadcastAccepted config nowMs lease txHash)
      (fun _ => Accepted others i nowMs lease) (InOrder others i nowMs none) := by
  unfold recordBroadcastAccepted
  split
  · refine Meets.bind (Holding.meets_of_quiet (getOrCreateEvmState_quiet _)) fun state => ?_
    split
    · exact Meets.fail fun w hw => hw.inOrder
    · rename_i hash hrequire
      refine Meets.bind (Holding.meets_of_quiet (setEvmState_quiet _ _)) fun _ => ?_
      exact persistAccepted_meets (isStoredText_of_requireEvmTransactionHash hrequire)
  · rename_i lane hlane
    refine Meets.bind (Holding.meets_of_quiet (quiet_nearFree.updateNearState _)) fun _ => ?_
    exact persistAccepted_meets (hhash (by rw [hlane]; rfl))

theorem acceptBroadcast_meets (hhash : lease.lane.family = .near → IsStoredText txHash) :
    Settles others i nowMs (Holding others i nowMs lease) (do
      preflightLeaseTransition lease .broadcastAccepted
      recordBroadcastAccepted config nowMs lease txHash
      let _ ← transitionLease lease .broadcastAccepted none
      return ()) := by
  refine after_preflight fun hlegal => ?_
  obtain ⟨next, hnext⟩ := hlegal
  have hactive : isActiveLeaseState lease.state = true := by
    revert hnext
    cases lease.state <;> rintro ⟨⟩ <;> decide
  refine Meets.bind (recordBroadcastAccepted_meets config hhash) fun _ => ⟨?_⟩
  intro w hw
  obtain ⟨record, hget, hcovers⟩ := hw.record
  have hreduce : reduceNonceLeaseState lease.state .broadcastAccepted = pure next := by
    rw [reduceNonceLeaseState, hnext]
  have hmoved : Pending others i nowMs { lease with state := next }
      (w.withLease { lease with state := next }) :=
    hw.holding.withLease rfl rfl rfl fun _ => hactive
  rw [transitionLease, hreduce]
  -- setting the lease leaves the store alone, so the record is still there
  exact hmoved.settle fun _ => .inr ⟨record, hget, hcovers _ _⟩

/-! ## Reservation -/

/-- In order, and each of the nonces is free on the lane. -/
structure Vacant (others : ℕ → Dict NonceLeaseId NonceLease) (i nowMs : ℕ) (laneKey : String)
    (nonces : List ℕ) (w : World) : Prop where
  inOrder : InOrder others i nowMs none w
  free : ∀ nonce ∈ nonces, Free (Nonce.allHeld others i w) laneKey nonce

variable {nonces : List ℕ}

theorem Vacant.quiet {laneKey : String} (hquiet : Quiet nowMs w w')
    (h : Vacant others i nowMs laneKey nonces w) : Vacant others i nowMs laneKey nonces w' := by
  refine ⟨h.inOrder.quiet hquiet, ?_⟩
  rw [Nonce.allHeld, hquiet.leases]
  exact h.free

/-- Adding a lease takes its nonce and leaves the others free. -/
theorem addReservedLease_meets (lane : NonceLane)
    (operation : PreparedNonceOperationContext) {nonce : ℕ} (hnonce : nonce ∉ nonces) :
    Meets (Vacant others i nowMs (nonceLaneKey lane) (nonce :: nonces))
      (addReservedLease config nowMs lane operation nonce)
      (fun _ => Vacant others i nowMs (nonceLaneKey lane) nonces)
      (InOrder others i nowMs none) := by
  refine Meets.bind Meets.read fun v => ⟨?_⟩
  rintro w ⟨rfl, hw⟩
  generalize hlease : (NonceLease.mk ⟨lane.chain, operation.operationId, nonce, v.nextRandomId⟩
    lane operation.operationId operation.operationFingerprint nonce .reserved nowMs
    (nowMs + config.leaseTtlMs)) = lease
  have hheld : Nonce.allHeld others i ({ v with nextRandomId := v.nextRandomId + 1 }.withLease
      lease) = (Nonce.allHeld others i v).set i lease :=
    heldBy_update_set others i v.coordinator.leases lease
  -- exempt until its record is there
  have hnew : Pending others i nowMs lease
      ({ v with nextRandomId := v.nextRandomId + 1 }.withLease lease) := by
    refine ⟨?_, Dict.get?_set_self _ _ _⟩
    rw [InOrder, hheld]
    subst hlease
    exact Ledger.insert hw.inOrder rfl (hw.free nonce List.mem_cons_self)
  have hdone := hnew.withRecord
    (show (coordinationRecord lease .reserved lease.expiresAtMs).leaseId = lease.leaseId from rfl)
  constructor
  · refine hdone.settle fun _ => .inr ⟨_, Dict.get?_set_self _ _ _, ?_⟩
    subst hlease
    exact ⟨rfl, rfl, rfl, rfl, .inr ⟨nofun, rfl⟩⟩
  · intro other hother j id taken htaken hactive hkey
    change Nonce.allHeld others i ({ v with nextRandomId := v.nextRandomId + 1 }.withLease
      lease) j id taken at htaken
    rw [hheld] at htaken
    rcases htaken with ⟨-, -, rfl⟩ | ⟨-, htaken⟩
    · subst hlease
      rintro rfl
      exact hnonce hother
    · exact hw.free other (List.mem_cons_of_mem _ hother) j id taken htaken hactive hkey

/-- Reading the nonces in use leaves all others vacant. -/
theorem readActiveLeaseNonces_meets {lane : NonceLane}
    (hothers : NoStaleElsewhere others i nowMs (nonceLaneKey lane)) :
    Meets (InOrder others i nowMs none)
      (readActiveLeaseNonces lane.family isActiveLeaseState nowMs (nonceLaneKey lane) none none)
      (fun active w => ∀ nonces : List ℕ, (∀ nonce ∈ nonces, nonce ∉ active) →
        Vacant others i nowMs (nonceLaneKey lane) nonces w) E := by
  constructor
  intro w hw
  have hread := @readActiveLeaseNonces_apply nowMs lane.family isActiveLeaseState
    (nonceLaneKey lane) none none w
  rw [hread]
  intro nonces hnonces
  refine ⟨hw.quiet (quiet_pruneExpired w), fun nonce hmem => ?_⟩
  exact free_of_notMem_active hw hothers hread (hnonces nonce hmem)

variable (operation : PreparedNonceOperationContext)

theorem reserveEvmNonceLease_keeps {lane : EvmNonceLane}
    (hothers : NoStaleElsewhere others i nowMs (nonceLaneKey (.evm lane))) :
    Keeps others i nowMs (reserveEvmNonceLease config nowMs lane operation) := by
  refine Keeps.bind (expireDueLeasesForLane_keeps config _) fun _ => ?_
  refine Keeps.bind (Keeps.of_quiet (prepareEvmLane_quiet config lane)) fun state => ?_
  refine Meets.bind (readActiveLeaseNonces_meets hothers) fun active => ?_
  have hfree := firstFree_notMem (active ++ state.inFlight.keys)
    (state.chainNonce.getD (state.nextCandidate.getD 0))
  generalize firstFree (active ++ state.inFlight.keys)
    (state.chainNonce.getD (state.nextCandidate.getD 0)) = candidate at hfree
  refine Meets.bind (R := fun _ =>
    Vacant others i nowMs (nonceLaneKey (.evm lane)) [candidate]) ?_ fun _ => ?_
  · refine Meets.update fun w hw => (hw [candidate] ?_).quiet (setEvmState_quiet _ _ w)
    intro nonce hmem
    rw [List.mem_singleton.mp hmem]
    exact fun hactive => hfree (List.mem_append_left _ hactive)
  · exact (addReservedLease_meets config (.evm lane) operation List.not_mem_nil).post
      fun _ w hw => hw.inOrder

variable {lane : NearNonceLane}

/-- The leases of a batch are added one after the other. -/
theorem addReservedLeases_meets (lane : NonceLane)
    (operation : PreparedNonceOperationContext) (hnodup : nonces.Nodup) :
    Settles others i nowMs (Vacant others i nowMs (nonceLaneKey lane) nonces)
      (nonces.mapM' fun nonce => addReservedLease config nowMs lane operation nonce) := by
  induction nonces with
  | nil => exact Meets.pure fun w hw => hw.inOrder
  | cons nonce nonces ih =>
    rw [List.nodup_cons] at hnodup
    refine Meets.bind (addReservedLease_meets config lane operation hnodup.1) fun _ => ?_
    exact Meets.bind (ih hnodup.2) fun _ => Meets.pure fun w hw => hw

theorem reserveNearNonceBatch_keeps (count : ℕ)
    (hothers : NoStaleElsewhere others i nowMs (nonceLaneKey (.near lane))) :
    Keeps others i nowMs (reserveNearNonceBatch config nowMs lane operation count) := by
  refine Keeps.bind (expireDueLeasesForLane_keeps config _) fun _ => ?_
  refine Meets.bind ?_ fun planned => Meets.given (addReservedLeases_meets config _ operation)
  refine Meets.bind (Meets.read.post fun _ _ hw => hw.2) fun v => ?_
  split
  · exact Meets.fail fun w hw => hw
  · refine Meets.bind (readActiveLeaseNonces_meets hothers) fun active => ?_
    refine Meets.bind (Meets.update fun w hw => Vacant.quiet ?_ (hw _ ?_))
      fun _ => Meets.pure fun w hw => ⟨hw, nodup_freshFrom _ _ _⟩
    · exact Quiet.of_eq rfl rfl rfl
    · intro nonce hmem hactive
      exact (mem_freshFrom hmem).2 (List.mem_append_right _ hactive)

theorem reserveNearContext_keeps (count : ℕ) (source : NearContextSource)
    (hothers : NoStaleElsewhere others i nowMs (nonceLaneKey (.near lane))) :
    Keeps others i nowMs (reserveNearContext config nowMs lane operation count source) := by
  refine Keeps.bind (Keeps.of_quiet (quiet_nearFree.updateNearState _)) fun _ => ?_
  refine Keeps.bind (Keeps.of_quiet (quiet_nearFree.fetchNearContextFrom config nowMs lane source))
    ?_
  intro context
  refine Keeps.bind (Keeps.of_quiet (quiet_nearFree.updateNearState _)) fun _ => ?_
  exact Keeps.bind (reserveNearNonceBatch_keeps config operation count hothers) fun _ =>
    Keeps.pure _

/-! ## All operations -/

/-- What an operation needs besides the ledger: a reservation, that no other coordinator
holds a stale lease of the lane; an accepted NEAR broadcast, a readable hash. -/
def Permitted (others : ℕ → Dict NonceLeaseId NonceLease) (i nowMs : ℕ)
    (leases : Dict NonceLeaseId NonceLease) : NonceOperation → Prop
  | .reserve lane _ => NoStaleElsewhere others i nowMs (nonceLaneKey lane)
  | .reserveBatch lane _ _ => NoStaleElsewhere others i nowMs (nonceLaneKey (.near lane))
  | .reserveNearContext lane _ _ _ => NoStaleElsewhere others i nowMs (nonceLaneKey (.near lane))
  | .markBroadcastAccepted input txHash => ReadableNearHash leases input txHash
  | _ => True

theorem perform_meets (operation : NonceOperation) :
    Settles others i nowMs (fun w => InOrder others i nowMs none w ∧
        Permitted others i nowMs w.coordinator.leases operation)
      (perform config nowMs operation) := by
  unfold perform Permitted
  cases operation with
  | reserve lane operation =>
    cases lane with
    | evm lane => exact Keeps.returns (reserveEvmNonceLease_keeps config operation)
    | near lane => exact Keeps.returns (reserveNearNonceBatch_keeps config operation 1)
  | reserveBatch lane operation count =>
    exact Keeps.returns (reserveNearNonceBatch_keeps config operation count)
  | reserveNearContext lane operation count source =>
    exact Keeps.returns (reserveNearContext_keeps config operation count source)
  | markSigned input => exact Keeps.returns fun _ => markSigned_keeps config input
  | markBroadcastAccepted input txHash =>
    exact Meets.bind (meets_onLease fun lease hhash => acceptBroadcast_meets config hhash)
      fun _ => Meets.pure fun w hw => hw
  | markBroadcastRejected input =>
    exact Keeps.returns fun _ => markBroadcastRejected_keeps config input
  | markFinalized input => exact Keeps.returns fun _ => markFinalized_keeps config input
  | markDroppedOrReplaced input reason txHash =>
    exact Keeps.returns fun _ => markDroppedOrReplaced_keeps input reason txHash
  | release input => exact Keeps.returns fun _ => release_keeps input
  | expireLeases walletId =>
    exact Keeps.returns fun _ => expireDueLeasesForWallet_keeps config walletId
  | reconcile lane =>
    cases lane with
    | evm lane =>
      exact Keeps.returns fun _ => Keeps.of_quiet (reconcileEvmLane_quiet config lane)
    | near lane => exact Keeps.returns fun _ => reconcileNearLane_keeps config lane

end

end SeamsWallet.Nonce
