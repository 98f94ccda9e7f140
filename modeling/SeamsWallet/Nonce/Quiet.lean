import SeamsWallet.Nonce.Ledger
import SeamsWallet.Nonce.Operations

/-!
# What leaves the leases alone

Most of what an operation does concerns the states of the lanes and the answers of
the chain. It is quiet: it changes no lease, draws no random id and deletes
only records that have expired.

The nonces that a coordinator reads as being in use are all the nonces of active
leases of the lane, provided no other coordinator holds a stale lease of it.
-/

namespace SeamsWallet.Nonce

open Library Effect

structure Quiet (nowMs : ℕ) (w w' : World) : Prop where
  leases : w'.coordinator.leases = w.coordinator.leases
  nextRandomId : w'.nextRandomId = w.nextRandomId
  store : ∀ id record, w.store.get? id = some record → parsesNonceLeaseRow record = true →
    isActiveCoordinationLeaseRecord record nowMs = true → w'.store.get? id = some record

variable {nowMs : ℕ}

instance : Std.Refl (Quiet nowMs) where
  refl _ := ⟨rfl, rfl, fun _ _ hget _ _ => hget⟩

instance : IsTrans World (Quiet nowMs) where
  trans _ _ _ h h' :=
    ⟨h'.leases.trans h.leases, h'.nextRandomId.trans h.nextRandomId,
      fun id record hget hparses hactive =>
        h'.store id record (h.store id record hget hparses hactive) hparses hactive⟩

/-- A change of the lane states or of the answers only. -/
theorem Quiet.of_eq {w w' : World} (hleases : w'.coordinator.leases = w.coordinator.leases)
    (hrandom : w'.nextRandomId = w.nextRandomId) (hstore : w'.store = w.store) :
    Quiet nowMs w w' :=
  ⟨hleases, hrandom, fun _ _ hget _ _ => hstore ▸ hget⟩

theorem quiet_pruneExpired (w : World) :
    Quiet nowMs w { w with store := w.store.pruneExpired nowMs } where
  leases := rfl
  nextRandomId := rfl
  store := by
    intro id record hget hparses hactive
    refine Dict.get?_filter.mpr ⟨hget, ?_⟩
    rw [isActiveCoordinationLeaseRecord] at hactive
    cases haccepted : record.lifecycle.isBroadcastAccepted with
    | true => simp
    | false =>
      rw [haccepted, Bool.false_or] at hactive
      have hlt : nowMs < record.expiresAtMs := of_decide_eq_true hactive
      simp [hlt]

/-! ## Requests and lane states -/

theorem fetchChainNonce_quiet : Within (Quiet nowMs) fetchChainNonce := by
  refine Within.bind Within.read fun w => ?_
  split
  · exact Within.bind (Within.update fun _ => Quiet.of_eq rfl rfl rfl) fun _ => Within.pure _
  · exact Within.bind (Within.update fun _ => Quiet.of_eq rfl rfl rfl) fun _ => Within.fail _
  · exact Within.fail _

theorem setEvmState_quiet (laneKey : String) (state : EvmNonceLaneState) :
    Within (Quiet nowMs) (setEvmState laneKey state) :=
  Within.update fun _ => Quiet.of_eq rfl rfl rfl

theorem getOrCreateEvmState_quiet (laneKey : String) :
    Within (Quiet nowMs) (getOrCreateEvmState laneKey) := by
  refine Within.bind Within.read fun w => ?_
  split
  · exact Within.pure _
  · exact Within.bind (setEvmState_quiet _ _) fun _ => Within.pure _

section

variable (family : NonceFamily) (isActive : NonceLeaseState → Bool) (laneKey : String)
  (chainNextNonce : Option ℕ) (excludeLeaseId : Option NonceLeaseId)

/-- Reading the nonces in use answers and prunes, and does nothing else. -/
theorem readActiveLeaseNonces_apply (w : World) :
    readActiveLeaseNonces family isActive nowMs laneKey chainNextNonce excludeLeaseId w =
      (.ok (((w.coordinator.leases.values.filter fun lease =>
          excludeLeaseId ≠ some lease.leaseId && lease.lane.family = family &&
            nonceLaneKey lease.lane = laneKey && isActive lease.state &&
            chainNextNonce.all (· ≤ lease.nonce)).map (·.nonce)) ++
        (((w.store.pruneExpired nowMs).readLane laneKey).filter fun record =>
          record.family = family && excludeLeaseId ≠ some record.leaseId &&
            isActiveCoordinationLeaseRecord record nowMs &&
            chainNextNonce.all (· ≤ record.nonce)).map (·.nonce)),
        { w with store := w.store.pruneExpired nowMs }) := rfl

theorem readActiveLeaseNonces_quiet : Within (Quiet nowMs)
      (readActiveLeaseNonces family isActive nowMs laneKey chainNextNonce excludeLeaseId) := by
  intro w
  rw [readActiveLeaseNonces_apply]
  exact quiet_pruneExpired w

end

theorem refreshEvmLaneFromChain_quiet (lane : EvmNonceLane) :
    Within (Quiet nowMs) (refreshEvmLaneFromChain nowMs lane) := by
  refine Within.bind fetchChainNonce_quiet fun raw => ?_
  refine Within.bind (readActiveLeaseNonces_quiet _ _ _ _ _) fun active => ?_
  refine Within.bind (getOrCreateEvmState_quiet _) fun state => ?_
  exact Within.bind (setEvmState_quiet _ _) fun _ => Within.pure _

variable (config : NonceCoordinatorConfig)

theorem shouldRefreshEvmLane_quiet (laneKey : String) (state : EvmNonceLaneState) :
    Within (Quiet nowMs) (shouldRefreshEvmLane config nowMs laneKey state) := by
  unfold shouldRefreshEvmLane
  split
  · exact Within.pure _
  · exact Within.pure _
  · split
    · exact Within.pure _
    · refine Within.bind (readActiveLeaseNonces_quiet _ _ _ _ _) fun active => ?_
      split
      · exact Within.pure _
      · exact Within.pure _

theorem reconcileEvmLane_quiet (lane : EvmNonceLane) :
    Within (Quiet nowMs) (reconcileEvmLane config nowMs lane) := by
  refine Within.bind (getOrCreateEvmState_quiet _) fun _ => ?_
  refine Within.bind (refreshEvmLaneFromChain_quiet lane) fun chainNextNonce => ?_
  exact Within.bind (getOrCreateEvmState_quiet _) fun state => Within.pure _

theorem prepareEvmLane_quiet (lane : EvmNonceLane) :
    Within (Quiet nowMs) (prepareEvmLane config nowMs lane) := by
  refine Within.bind (getOrCreateEvmState_quiet _) fun state => ?_
  refine Within.bind (shouldRefreshEvmLane_quiet config _ state) fun shouldRefresh => ?_
  split
  on_goal 1 => refine Within.bind (refreshEvmLaneFromChain_quiet lane) fun _ => ?_
  -- with or without a refresh, the state is read again and checked
  all_goals
    refine Within.bind (getOrCreateEvmState_quiet _) fun state => ?_
    split
    · exact Within.fail _
    · exact Within.pure _

/-! ## The NEAR access key -/

/-- A relation that allows every change of the NEAR state and of the NEAR answers. -/
structure NearFree (R : World → World → Prop) : Prop where
  near : ∀ (w : World) (f : NearNonceLaneState → NearNonceLaneState), R w { w with
    coordinator := { w.coordinator with nearState := f w.coordinator.nearState } }
  answers : ∀ (w : World) accessKeys blocks txOutcomes, R w { w with
    rpc := ⟨w.rpc.chainNonces, accessKeys, blocks, txOutcomes⟩ }

theorem quiet_nearFree : NearFree (Quiet nowMs) where
  near _ _ := Quiet.of_eq rfl rfl rfl
  answers _ _ _ _ := Quiet.of_eq rfl rfl rfl

namespace NearFree

variable {R : World → World → Prop} [Std.Refl R] [IsTrans World R] (h : NearFree R)
include h

omit [Std.Refl R] [IsTrans World R] in
theorem updateNearState (f : NearNonceLaneState → NearNonceLaneState) :
    Within R (updateNearState f) :=
  Within.update fun w => h.near w f

theorem requests : Within R viewAccessKey ∧ Within R viewBlock ∧ Within R readNearTxOutcome := by
  refine ⟨?_, ?_, ?_⟩
  all_goals
    refine Within.bind Within.read fun w => ?_
    split
    · exact Within.bind (Within.update fun w => h.answers w _ _ _) fun _ => Within.pure _
    · exact Within.pure _

omit h in
theorem requireNearAccessKeySubject : Within R requireNearAccessKeySubject := by
  refine Within.bind Within.read fun w => ?_
  split
  · exact Within.pure _
  · exact Within.fail _

omit h [IsTrans World R] in
theorem requireNearClient (available : Bool) : Within R (requireNearClient available) := by
  unfold Nonce.requireNearClient
  split
  · exact Within.pure _
  · exact Within.fail _

variable {α : Type} (previous : Option NearNonceReadyContext) (subject : NearAccessKeySubject)

theorem failNearLookup (error : NonceError) :
    Within R (failNearLookup subject previous error : NonceM α) :=
  Within.bind (h.updateNearState _) fun _ => Within.fail _

theorem resolveAccessKeyNonce (answer : Option AccessKeyAnswer) :
    Within R (resolveAccessKeyNonce subject previous answer) := by
  unfold Nonce.resolveAccessKeyNonce
  split
  · exact Within.pure _
  · exact Within.pure _
  · exact Within.pure _
  · split
    · exact Within.bind (h.updateNearState _) fun _ => Within.fail _
    · exact Within.bind (h.updateNearState _) fun _ => Within.fail _
  · exact h.failNearLookup _ _ _

theorem resolveBlock (answer : Option BlockAnswer) :
    Within R (resolveBlock subject previous answer) := by
  unfold Nonce.resolveBlock
  split
  · exact Within.pure _
  · exact Within.pure _
  · exact h.failNearLookup _ _ _
  · exact h.failNearLookup _ _ _

omit h in
theorem requestIf {m : NonceM α} (hm : Within R m) (c : Bool) : Within R (requestIf c m) := by
  unfold Nonce.requestIf
  split
  · exact Within.bind hm fun _ => Within.pure _
  · exact Within.pure _

variable (nowMs : ℕ)

theorem lookUpNearContext (force : Bool) : Within R (lookUpNearContext nowMs force) := by
  refine Within.bind requireNearAccessKeySubject fun subject => ?_
  refine Within.bind Within.read fun w => ?_
  refine Within.bind (requestIf h.requests.1 _) fun accessKey => ?_
  refine Within.bind (requestIf h.requests.2.1 _) fun block => ?_
  refine Within.bind (h.resolveAccessKeyNonce _ _ _) fun accessKeyNonce => ?_
  refine Within.bind (h.resolveBlock _ _ _) fun resolved => ?_
  exact Within.bind (h.updateNearState _) fun _ => Within.pure _

theorem fetchNearFreshData (force : Bool) : Within R (fetchNearFreshData nowMs force) := by
  refine Within.bind Within.read fun w => ?_
  split
  · exact Within.pure _
  · exact h.lookUpNearContext nowMs _

theorem fetchNearContextFrom (lane : NearNonceLane) (source : NearContextSource) :
    Within R (fetchNearContextFrom config nowMs lane source) := by
  unfold Nonce.fetchNearContextFrom
  split
  · exact Within.pure _
  · exact Within.fail _
  · refine Within.bind (h.updateNearState _) fun _ => ?_
    exact Within.bind (requireNearClient _) fun _ => h.fetchNearFreshData nowMs _

theorem refreshNearNonceAfterBroadcastRejected :
    Within R (refreshNearNonceAfterBroadcastRejected nowMs) := by
  refine Within.bind requireNearAccessKeySubject fun subject => ?_
  refine Within.bind h.requests.1 fun answer => ?_
  split
  · exact h.updateNearState _
  · exact Within.fail _

theorem updateNearNonceFromBlockchain (nowMs actual : ℕ) :
    Within R (updateNearNonceFromBlockchain nowMs actual) := by
  refine Within.bind requireNearAccessKeySubject fun subject => ?_
  exact Within.bind h.requests.1 fun answer => h.updateNearState _

end NearFree

/-! ## The nonces in use -/

section

variable (others : ℕ → Dict NonceLeaseId NonceLease) (i : ℕ)

/-- What all coordinators hold while one of them works. -/
def allHeld (w : World) : Holdings :=
  heldBy (Function.update others i w.coordinator.leases)

/-- No coordinator but the one at work holds a lease of the lane that is reserved or
signed and past its time. -/
def NoStaleElsewhere (nowMs : ℕ) (laneKey : String) : Prop :=
  ∀ j, j ≠ i → ∀ lease ∈ (others j).values, nonceLaneKey lease.lane = laneKey →
    lease.state = .reserved ∨ lease.state = .signed → nowMs < lease.expiresAtMs

variable {others} {i}

/-- A nonce that is not read as in use is free. -/
theorem free_of_notMem_active {w w' : World} {lane : NonceLane} {active : List ℕ} {nonce : ℕ}
    (hledger : Ledger nowMs none (allHeld others i w) w.store w.nextRandomId)
    (hothers : NoStaleElsewhere others i nowMs (nonceLaneKey lane))
    (hread : readActiveLeaseNonces lane.family isActiveLeaseState nowMs (nonceLaneKey lane)
      none none w = (.ok active, w'))
    (hnonce : nonce ∉ active) : Free (allHeld others i w') (nonceLaneKey lane) nonce := by
  rw [readActiveLeaseNonces_apply] at hread
  obtain ⟨hactive, rfl⟩ := Prod.mk.inj hread
  obtain rfl := Except.ok.inj hactive
  intro j id lease hheld hstate hkey heq
  apply hnonce
  rw [← heq]
  have hfamily : lease.lane.family = lane.family := family_eq_of_nonceLaneKey_eq hkey
  by_cases hj : j = i
  · -- its own leases are in memory
    subst hj
    rw [allHeld, heldBy, Function.update_self] at hheld
    refine List.mem_append_left _ (List.mem_map.mpr ⟨lease, List.mem_filter.mpr ⟨?_, ?_⟩, rfl⟩)
    · exact Dict.mem_values.mpr ⟨id, hheld⟩
    · simp [hfamily, hkey, hstate]
  · -- the lease of another coordinator is not stale, so its record is there
    have hmem : lease ∈ (others j).values := by
      rw [allHeld, heldBy, Function.update_of_ne hj] at hheld
      exact Dict.mem_values.mpr ⟨id, hheld⟩
    have hfresh : ¬Stale nowMs lease := by
      rintro ⟨haccepted, hexpired⟩
      have hopen : lease.state = .reserved ∨ lease.state = .signed := by
        revert hstate haccepted
        cases lease.state <;> decide
      exact Nat.not_lt.mpr hexpired (hothers j hj lease hmem hkey hopen)
    rcases hledger.covered j id lease hheld hstate (by simp) with hstale | ⟨record, hget, hcovers⟩
    · exact absurd hstale hfresh
    · have hrecord := hcovers.isActive hfresh
      have hkept := (quiet_pruneExpired w).store id record hget hcovers.parses hrecord
      refine List.mem_append_right _ (List.mem_map.mpr
        ⟨record, List.mem_filter.mpr ⟨List.mem_filter.mpr ⟨?_, ?_⟩, ?_⟩, hcovers.nonce⟩)
      · exact Dict.mem_values.mpr ⟨id, hkept⟩
      · simp [hcovers.laneKey, hkey, hcovers.parses]
      · simp [hcovers.family, hfamily, hrecord]

end

end SeamsWallet.Nonce
