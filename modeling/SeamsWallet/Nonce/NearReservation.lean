import SeamsWallet.Nonce.Operations

/-!
# The reserved nonces of a NEAR lane

Each write to the lane is one event here, whatever was awaited before it. After every one of
them the last reserved nonce is the greatest of the reserved ones. A reservation therefore
starts above all of them, and above the nonces that leases are active for; the loop that
skips taken nonces finds at most one, the nonce 0, and the batch has no gaps.
-/

namespace SeamsWallet.Nonce

open Library Effect

/-- One write to the lane. A lookup writes the lifecycle only; a reservation has read the next
nonce of its context, and the active nonces, before. -/
inductive NearLaneWrite where
  | clear
  | bound (subject : NearAccessKeySubject)
  | commit (subject : NearAccessKeySubject) (context : TransactionContext) (nowMs : ℕ)
  | lookUp (lifecycle : NearNonceLaneLifecycle)
  | reserve (nextNonce : ℕ) (active : List ℕ) (count : ℕ)
  | releaseNonce (nonce : ℕ)
  | accepted (nonce : ℕ) (txHash : String) (nowMs : ℕ)
  | settled (nonce : ℕ)
  | reconciled (subject : NearAccessKeySubject) (chainNonce nowMs : ℕ)
  | finalized (subject : NearAccessKeySubject) (actual : ℕ) (answer : AccessKeyAnswer)
      (nowMs : ℕ)
  | rejected (subject : NearAccessKeySubject) (chainNonce nowMs : ℕ)

namespace NearNonceLaneState

variable (state : NearNonceLaneState)

/-- The nonces that a reservation plans. -/
def planNonces (nextNonce : ℕ) (active : List ℕ) (count : ℕ) : List ℕ :=
  let highestDurable := active.foldl max 0
  let start := max state.nextAfterReserved (max nextNonce
    (if 0 < highestDurable then highestDurable + 1 else 0))
  freshFrom (state.reservedNonces ++ active) count start

def addReserved (planned : List ℕ) : NearNonceLaneState :=
  { state with
    reservedNonces := state.reservedNonces ++ planned
    lastReservedNonce := planned.getLast?.orElse fun _ => state.lastReservedNonce }

def written : NearLaneWrite → NearNonceLaneState
  | .clear => createNearNonceLaneState
  | .bound subject => state.initializeAccessKey subject
  | .commit subject context nowMs => state.commitTransactionContext subject context nowMs
  | .lookUp lifecycle => { state with lifecycle }
  | .reserve nextNonce active count => state.addReserved (state.planNonces nextNonce active count)
  | .releaseNonce nonce => state.releaseNonce nonce
  | .accepted nonce txHash nowMs => state.markBroadcastAccepted nonce txHash nowMs
  | .settled nonce => { state with inFlight := state.inFlight.delete nonce }.releaseNonce nonce
  | .reconciled subject chainNonce nowMs =>
    let nextNonce := max (chainNonce + 1) (max state.previousNextNonce state.nextAfterReserved)
    (state.setAccessKeyReady subject (state.contextWith chainNonce nextNonce) nowMs
      true false).pruneReservedNonces chainNonce
  | .finalized subject actual answer nowMs =>
    state.updateNonceFromBlockchain subject actual answer nowMs
  | .rejected subject chainNonce nowMs =>
    state.refreshAfterBroadcastRejected subject chainNonce nowMs

def LastIsMax : Prop := state.lastReservedNonce = state.reservedNonces.max?

end NearNonceLaneState

/-- The coordinator reserves what is planned here. -/
theorem reserveNearNonces_apply {nowMs count : ℕ} {lane : NearNonceLane} {w : World}
    {context : TransactionContext}
    (h : w.coordinator.nearState.readTransactionContext = some context) :
    ∃ active w', let planned := w.coordinator.nearState.planNonces context.nextNonce active count
      reserveNearNonces nowMs lane count w = (.ok planned, w') ∧
        w'.coordinator.nearState = w.coordinator.nearState.addReserved planned := by
  unfold reserveNearNonces
  simp only [bind_apply, Effect.read, h]
  exact ⟨_, _, rfl, rfl⟩

namespace NearNonceLaneState

variable {state : NearNonceLaneState} (h : state.LastIsMax)

include h in
theorem LastIsMax.releaseNonce (nonce : ℕ) : (state.releaseNonce nonce).LastIsMax := by
  unfold NearNonceLaneState.releaseNonce
  split
  · rfl
  · exact h

include h in
theorem LastIsMax.pruneReservedNonces (chainNonce : ℕ) :
    (state.pruneReservedNonces chainNonce).LastIsMax := by
  unfold NearNonceLaneState.pruneReservedNonces
  split
  · exact h
  · rfl

include h in
theorem LastIsMax.initializeAccessKey (subject : NearAccessKeySubject) :
    (state.initializeAccessKey subject).LastIsMax := by
  unfold NearNonceLaneState.initializeAccessKey
  split
  · exact h
  · rfl

include h in
theorem LastIsMax.lt_nextAfterReserved :
    ∀ nonce ∈ state.reservedNonces, nonce < state.nextAfterReserved := by
  intro nonce hmem
  obtain ⟨last, hlast⟩ := Option.isSome_iff_exists.mp (List.isSome_max?_of_mem hmem)
  rw [nextAfterReserved, h, hlast]
  exact Nat.lt_succ_of_le ((List.max?_eq_some_iff.mp hlast).2 nonce hmem)

include h in
theorem planNonces_eq (nextNonce : ℕ) (active : List ℕ) :
    ∃ start, (∀ nonce ∈ state.reservedNonces, nonce < start) ∧
      (∀ nonce ∈ active, nonce < start) ∧ nextNonce ≤ start ∧
      ∀ count, state.planNonces nextNonce active count = List.range' start count := by
  let highestDurable := active.foldl max 0
  let start := max state.nextAfterReserved (max nextNonce
    (if 0 < highestDurable then highestDurable + 1 else 0))
  have htaken : ∀ nonce ∈ state.reservedNonces ++ active, nonce ≤ start := by
    intro nonce hmem
    rcases List.mem_append.mp hmem with hreserved | hactive
    · exact (h.lt_nextAfterReserved nonce hreserved).le.trans (le_max_left _ _)
    · have hle : nonce ≤ highestDurable := by
        refine (List.le_max?_getD_of_mem (k := 0) hactive).trans ?_
        exact (le_max_right _ _).trans_eq List.foldl_max.symm
      refine le_trans ?_ ((le_max_right nextNonce _).trans (le_max_right _ _))
      split_ifs <;> omega
  have hlt := lt_firstFree _ htaken
  refine ⟨firstFree (state.reservedNonces ++ active) start,
    fun nonce hmem => hlt nonce (List.mem_append_left _ hmem),
    fun nonce hmem => hlt nonce (List.mem_append_right _ hmem), ?_,
    freshFrom_eq_range' _ htaken⟩
  exact ((le_max_left _ _).trans (le_max_right _ _)).trans (le_searchFree _ _ start)

include h in
theorem LastIsMax.reserve (nextNonce : ℕ) (active : List ℕ) (count : ℕ) :
    (state.addReserved (state.planNonces nextNonce active count)).LastIsMax := by
  obtain ⟨start, hreserved, -, -, hplanned⟩ := planNonces_eq h nextNonce active
  rw [hplanned]
  cases count with
  | zero =>
    rw [LastIsMax, addReserved, List.range'_zero, List.append_nil]
    exact h
  | succ count =>
    -- the last planned nonce is above the reserved ones
    have hmax : (state.reservedNonces ++ List.range' start (count + 1)).max? =
        some (start + count) := by
      refine List.max?_eq_some_iff.mpr ⟨?_, fun nonce hmem => ?_⟩
      · exact List.mem_append_right _ (List.mem_range'_1.mpr (by omega))
      · rcases List.mem_append.mp hmem with hold | hnew
        · exact (hreserved nonce hold).le.trans (Nat.le_add_right _ _)
        · have := List.mem_range'_1.mp hnew
          omega
    rw [LastIsMax, addReserved, hmax, List.getLast?_range']
    rfl

include h in
theorem LastIsMax.written (write : NearLaneWrite) : (state.written write).LastIsMax := by
  cases write with
  | clear => rfl
  | bound subject | commit subject _ _ => exact h.initializeAccessKey subject
  | lookUp | accepted => exact h
  | reserve nextNonce active count => exact h.reserve nextNonce active count
  | releaseNonce nonce => exact h.releaseNonce nonce
  | settled nonce => exact LastIsMax.releaseNonce (by exact h) nonce
  | reconciled _ chainNonce _ | rejected _ chainNonce _ =>
    exact LastIsMax.pruneReservedNonces (by exact h) chainNonce
  | finalized _ actual answer =>
    cases answer with
    | view chainNonce =>
      exact (LastIsMax.releaseNonce (by exact h) actual).pruneReservedNonces chainNonce
    | malformed | missing | failed => exact h

/-- After all writes to a lane the last reserved nonce is the greatest reserved one, and there
is none exactly if nothing is reserved; and a reservation then adds to the reserved nonces as
many consecutive ones as it is asked for, from one on that is above all reserved and all
active nonces and not below the next nonce of the context. -/
theorem near_nonces_reserved (writes : List NearLaneWrite) :
    let state := writes.foldl written createNearNonceLaneState
    state.lastReservedNonce = state.reservedNonces.max? ∧
    ∀ nextNonce active count, ∃ start,
      (∀ nonce ∈ state.reservedNonces, nonce < start) ∧ (∀ nonce ∈ active, nonce < start) ∧
      nextNonce ≤ start ∧
      state.planNonces nextNonce active count = List.range' start count ∧
      (state.written (.reserve nextNonce active count)).reservedNonces =
        state.reservedNonces ++ List.range' start count := by
  intro state
  have hlast : state.LastIsMax := by
    refine List.foldlRecOn writes written (motive := LastIsMax) rfl fun state hstate write _ => ?_
    exact hstate.written write
  refine ⟨hlast, fun nextNonce active count => ?_⟩
  obtain ⟨start, hreserved, hactive, hnext, hplanned⟩ := planNonces_eq hlast nextNonce active
  refine ⟨start, hreserved, hactive, hnext, hplanned count, ?_⟩
  rw [NearNonceLaneState.written, addReserved, hplanned count]

end NearNonceLaneState

end SeamsWallet.Nonce
