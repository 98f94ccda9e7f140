import SeamsWallet.Library.Fresh
import SeamsWallet.Nonce.Coordinator

/-!
# The operations of a nonce coordinator

Reservation first ends the coordinator's own leases of the lane that are past
their time, then searches for a free nonce, and then writes the lease and its
record. The other operations move one lease along its states, or compare a lane
with the chain.
-/

namespace SeamsWallet.Nonce

open Library Effect

/-! ## Expiry -/

def releaseBackendReservation (nowMs : ℕ) (lease : NonceLease) : NonceM Unit :=
  match lease.lane with
  | .evm _ => releaseEvmNonceReservation nowMs lease
  | .near _ => do
    updateNearState fun state => state.releaseNonce lease.nonce
    removeCoordinationLease lease

variable (config : NonceCoordinatorConfig) (nowMs : ℕ)

def reconcileAfterSignedLeaseExpiry (lease : NonceLease) : NonceM Unit := do
  releaseBackendReservation nowMs lease
  match lease.lane with
  | .evm lane => do
    let _ ← reconcileEvmLane config nowMs lane
    return ()
  | .near _ => return ()

def expireLease (lease : NonceLease) : NonceM (Option NonceLease) :=
  if nowMs < lease.expiresAtMs then return none
  else match lease.state with
    | .signed => do
      reconcileAfterSignedLeaseExpiry config nowMs lease
      let expired ← transitionLease lease .expire none
      return some expired
    | .reserved => do
      releaseBackendReservation nowMs lease
      let expired ← transitionLease lease .expire none
      return some expired
    | _ => return none

/-- Does something to each of the leases that meet a condition when the loop
starts; it sees each lease as it is when its turn comes. -/
def forLeases {α : Type} (p : NonceLease → Bool) (f : NonceLease → NonceM (Option α)) :
    NonceM (List α) := do
  let w ← read
  let leaseIds := (w.coordinator.leases.filter p).keys
  let results ← leaseIds.mapM' fun leaseId => do
    let w ← read
    match w.coordinator.leases.get? leaseId with
    | some lease => f lease
    | none => return none
  return results.filterMap id

def expireDueLeasesForLane (laneKey : String) : NonceM (List NonceLease) :=
  forLeases (fun lease => nonceLaneKey lease.lane = laneKey) (expireLease config nowMs)

def laneKeysOfWallet (coordinator : NonceCoordinator) (walletId : String) : List String :=
  let leases := coordinator.leases.values.filter fun lease =>
    trim walletId = "" || nonceLaneSubjectId lease.lane = trim walletId
  (leases.map fun lease => nonceLaneKey lease.lane).reverse.dedup.reverse

def expireDueLeasesForWallet (walletId : Option String) : NonceM (List NonceLease) := do
  let w ← read
  let laneKeys := laneKeysOfWallet w.coordinator (walletId.getD "")
  let expired ← laneKeys.mapM' fun laneKey => expireDueLeasesForLane config nowMs laneKey
  return expired.flatten

/-! ## Reservation -/

structure PreparedNonceOperationContext where
  operationId : StoredText
  operationFingerprint : StoredText

def NonceLane.chain : NonceLane → String
  | .evm ⟨.evm _, _, _, _⟩ => "evm"
  | .evm ⟨.tempo _, _, _, _⟩ => "tempo"
  | .near _ => "near"

def addReservedLease (lane : NonceLane) (operation : PreparedNonceOperationContext) (nonce : ℕ) :
    NonceM NonceLease := do
  let w ← read
  let lease : NonceLease := {
    leaseId := ⟨lane.chain, operation.operationId, nonce, w.nextRandomId⟩
    lane
    operationId := operation.operationId
    operationFingerprint := operation.operationFingerprint
    nonce
    state := .reserved
    reservedAtMs := nowMs
    expiresAtMs := nowMs + config.leaseTtlMs }
  update fun w => { w with nextRandomId := w.nextRandomId + 1 }
  setLease lease
  persistCoordinationLease lease .reserved lease.expiresAtMs
  return lease

def evmNonceLaneBlockedMessage (lane : EvmNonceLane) (blockedNonce ageMs : ℕ) : String :=
  s!"nonce lane blocked on {nonceLaneNetworkKey (.evm lane)} (nonce={blockedNonce}) for " ++
    s!"{ageMs}ms; reconcile or replace/dropped report required"

/-- Brings the state of a lane up to date. A nonce that has been in flight for too
long blocks the lane. -/
def prepareEvmLane (lane : EvmNonceLane) : NonceM EvmNonceLaneState := do
  let laneKey := nonceLaneKey (.evm lane)
  let state ← getOrCreateEvmState laneKey
  let shouldRefresh ← shouldRefreshEvmLane config nowMs laneKey state
  if shouldRefresh then
    let _ ← refreshEvmLaneFromChain nowMs lane
  let state ← getOrCreateEvmState laneKey
  match state.readBlockedEvmInFlight nowMs config.evmStaleInFlightThresholdMs with
  | some (blockedNonce, ageMs) =>
    coordinatorError (evmNonceLaneBlockedMessage lane blockedNonce ageMs)
  | none => return state

def reserveEvmNonceLease (lane : EvmNonceLane) (operation : PreparedNonceOperationContext) :
    NonceM NonceLease := do
  let laneKey := nonceLaneKey (.evm lane)
  let _ ← expireDueLeasesForLane config nowMs laneKey
  let state ← prepareEvmLane config nowMs lane
  let activeLeaseNonces ← readActiveEvmLeaseNonces nowMs laneKey none none
  let candidate := firstFree (activeLeaseNonces ++ state.inFlight.keys)
    (state.chainNonce.getD (state.nextCandidate.getD 0))
  setEvmState laneKey { state with nextCandidate := some (candidate + 1) }
  addReservedLease config nowMs (.evm lane) operation candidate

def reserveNearNonces (lane : NearNonceLane) (count : ℕ) : NonceM (List ℕ) := do
  let w ← read
  match w.coordinator.nearState.readTransactionContext with
  | none => fail (.message
      "NEAR transaction context not available - call fetchNearContext() first")
  | some context => do
    let active ← readActiveNearLeaseNonces nowMs (nonceLaneKey (.near lane))
    let state := w.coordinator.nearState
    let highestDurable := active.foldl max 0
    let start := max state.nextAfterReserved (max context.nextNonce
      (if 0 < highestDurable then highestDurable + 1 else 0))
    let planned := freshFrom (state.reservedNonces ++ active) count start
    updateNearState fun state => { state with
      reservedNonces := state.reservedNonces ++ planned
      lastReservedNonce := planned.getLast?.orElse fun _ => state.lastReservedNonce }
    return planned

def reserveNearNonceBatch (lane : NearNonceLane) (operation : PreparedNonceOperationContext)
    (count : ℕ) : NonceM (List NonceLease) := do
  let _ ← expireDueLeasesForLane config nowMs (nonceLaneKey (.near lane))
  let nonces ← reserveNearNonces nowMs lane (max 1 count)
  nonces.mapM' fun nonce => addReservedLease config nowMs (.near lane) operation nonce

/-- Where a reservation with a context takes the context from: the caller, whose
lookup may fail, or the chain. -/
inductive NearContextSource where
  | provided (context : Option TransactionContext)
  | client (nearClient : Bool) (force : Bool)

def fetchNearContextFrom (lane : NearNonceLane) : NearContextSource → NonceM TransactionContext
  | .provided (some context) => return context
  | .provided none => fail .rpc
  | .client nearClient force =>
    fetchNearContextForLane nowMs lane (nearClient || config.hasNearClient) force

def reserveNearContext (lane : NearNonceLane) (operation : PreparedNonceOperationContext)
    (count : ℕ) (source : NearContextSource) :
    NonceM (TransactionContext × List NonceLease) := do
  initializeNearAccessKey lane
  let context ← fetchNearContextFrom config nowMs lane source
  updateNearState fun state => state.commitTransactionContext lane.subject context nowMs
  let leases ← reserveNearNonceBatch config nowMs lane operation count
  return ({ context with
    nextNonce := (leases.head?.map (·.nonce)).getD context.nextNonce }, leases)

/-! ## The states of a lease -/

/-- A signed lease gets a new time of expiry, whether or not the old one is past. -/
def markSigned (input : NonceLeaseOperationInput) : NonceM Unit := do
  let operationInput ← normalizeLeaseOperationInput input
  let lease ← readLease operationInput
  let expiresAtMs := nowMs + config.signedLeaseTtlMs
  let signed ← transitionLease lease .markSigned (some expiresAtMs)
  persistCoordinationLease signed .signed expiresAtMs

def markEvmBroadcastAccepted (lease : NonceLease) (txHash : String) : NonceM Unit := do
  let laneKey := nonceLaneKey lease.lane
  let state ← getOrCreateEvmState laneKey
  match requireEvmTransactionHash txHash with
  | none => coordinatorError "EVM broadcast acceptance requires txHash"
  | some txHash => do
    setEvmState laneKey (state.markBroadcastAccepted lease.nonce txHash nowMs)
    persistCoordinationLease lease (.broadcastAccepted txHash)
      (nowMs + config.evmStaleInFlightThresholdMs)

def markNearBroadcastAccepted (lease : NonceLease) (txHash : String) : NonceM Unit := do
  updateNearState fun state => state.markBroadcastAccepted lease.nonce txHash nowMs
  persistCoordinationLease lease (.broadcastAccepted txHash) lease.expiresAtMs

def recordBroadcastAccepted (lease : NonceLease) (txHash : String) : NonceM Unit :=
  match lease.lane with
  | .evm _ => markEvmBroadcastAccepted config nowMs lease txHash
  | .near _ => markNearBroadcastAccepted nowMs lease txHash

def markBroadcastAccepted (input : NonceLeaseOperationInput) (txHash : String) : NonceM Unit := do
  let operationInput ← normalizeLeaseOperationInput input
  let lease ← readLease operationInput
  preflightLeaseTransition lease .broadcastAccepted
  recordBroadcastAccepted config nowMs lease txHash
  let _ ← transitionLease lease .broadcastAccepted none
  return ()

def refreshNearNonceAfterBroadcastRejected : NonceM Unit := do
  let subject ← requireNearAccessKeySubject
  let answer ← viewAccessKey
  match answer with
  | .view chainNonce => updateNearState fun state =>
    state.refreshAfterBroadcastRejected subject chainNonce nowMs
  | _ => fail .rpc

/-- Rejection always releases the lease, so a failure here is ignored. -/
def refreshAfterRejection (lease : NonceLease) : NonceM (Option Unit) :=
  if lease.lane.family = .near && config.hasNearClient then
    attempt (refreshNearNonceAfterBroadcastRejected nowMs)
  else return none

def markBroadcastRejected (input : NonceLeaseOperationInput) : NonceM Unit := do
  let operationInput ← normalizeLeaseOperationInput input
  let lease ← readLease operationInput
  preflightLeaseTransition lease .broadcastRejected
  releaseBackendReservation nowMs lease
  let _ ← refreshAfterRejection config nowMs lease
  let _ ← transitionLease lease .broadcastRejected none
  return ()

def updateNearNonceFromBlockchain (nowMs actual : ℕ) : NonceM Unit := do
  let subject ← requireNearAccessKeySubject
  let answer ← viewAccessKey
  updateNearState fun state => state.updateNonceFromBlockchain subject actual answer nowMs

def markEvmFinalized (lease : NonceLease) : NonceM Unit := do
  let laneKey := nonceLaneKey lease.lane
  let state ← getOrCreateEvmState laneKey
  setEvmState laneKey (state.markFinalized lease.nonce nowMs)
  removeCoordinationLease lease

def markNearFinalized (lease : NonceLease) : NonceM Unit :=
  if config.hasNearClient then do
    updateNearNonceFromBlockchain nowMs lease.nonce
    removeCoordinationLease lease
  else do
    releaseBackendReservation nowMs lease
    removeCoordinationLease lease

def recordFinalized (lease : NonceLease) : NonceM Unit :=
  match lease.lane with
  | .evm _ => markEvmFinalized nowMs lease
  | .near _ => markNearFinalized config nowMs lease

def markFinalized (input : NonceLeaseOperationInput) : NonceM Unit := do
  let operationInput ← normalizeLeaseOperationInput input
  let lease ← readLease operationInput
  preflightLeaseTransition lease .finalize
  recordFinalized config nowMs lease
  let _ ← transitionLease lease .finalize none
  return ()

def EvmNonceOutcomeReason.transition : EvmNonceOutcomeReason → NonceLeaseTransition
  | .dropped => .drop
  | .replaced => .replace

def markDroppedOrReplaced (input : NonceLeaseOperationInput) (reason : EvmNonceOutcomeReason)
    (txHash : Option String) : NonceM Unit := do
  let operationInput ← normalizeLeaseOperationInput input
  let lease ← readLease operationInput
  match lease.lane with
  | .near _ => coordinatorError "expected an EVM-family nonce lease"
  | .evm _ => do
    preflightLeaseTransition lease reason.transition
    let laneKey := nonceLaneKey lease.lane
    let state ← getOrCreateEvmState laneKey
    setEvmState laneKey (state.markDroppedOrReplaced lease.nonce reason
      (txHash.filter (· ≠ "")) nowMs)
    removeCoordinationLease lease
    let _ ← transitionLease lease reason.transition none
    return ()

def release (input : NonceLeaseOperationInput) : NonceM Unit := do
  let operationInput ← normalizeLeaseOperationInput input
  let lease ← readLease operationInput
  preflightLeaseTransition lease .release
  releaseBackendReservation nowMs lease
  let _ ← transitionLease lease .release none
  return ()

/-! ## Reconciliation of a NEAR lane -/

def settleNearLease (lease : NonceLease) (transition : NonceLeaseTransition) : NonceM Unit := do
  let _ ← transitionLease lease transition none
  removeCoordinationLease lease
  updateNearState fun state =>
    { state with inFlight := state.inFlight.delete lease.nonce }.releaseNonce lease.nonce

/-- Returns the nonce of a lease that stays open. -/
def reconcileNearLease (chainNonce : ℕ) (lease : NonceLease) : NonceM (Option ℕ) := do
  let w ← read
  let inFlight := w.coordinator.nearState.inFlight.get? lease.nonce
  if chainNonce < lease.nonce then return inFlight.map fun _ => lease.nonce
  else match inFlight with
    | none => return none
    | some record =>
      if record.txHash = "" then return none
      else do
        let outcome ← readNearTxOutcome
        match outcome with
        | .finalized => do
          settleNearLease lease .finalize
          return none
        | .missing => do
          settleNearLease lease .drop
          return none
        | .unknown => return some lease.nonce

def reconcileNearLane (lane : NearNonceLane) : NonceM NonceLaneStatus := do
  requireNearClient config.hasNearClient
  initializeNearAccessKey lane
  let answer ← viewAccessKey
  match answer with
  | .view chainNonce => do
    let unresolved ← forLeases (fun lease => nonceLaneKey lease.lane = nonceLaneKey (.near lane) &&
        lease.state = .broadcastAccepted)
      (reconcileNearLease chainNonce)
    updateNearState fun state =>
      let nextNonce := max (chainNonce + 1) (max state.previousNextNonce
        state.nextAfterReserved)
      (state.setAccessKeyReady lane.subject (state.contextWith chainNonce nextNonce) nowMs
        true false).pruneReservedNonces chainNonce
    return ⟨chainNonce + 1, sortNonces unresolved, none⟩
  | .malformed => fail (.message
      s!"Access key not found or invalid for account {lane.nearAccountId}")
  | _ => fail .rpc

/-! ## All operations -/

inductive NonceOperation where
  | reserve (lane : NonceLane) (operation : PreparedNonceOperationContext)
  | reserveBatch (lane : NearNonceLane) (operation : PreparedNonceOperationContext) (count : ℕ)
  | reserveNearContext (lane : NearNonceLane) (operation : PreparedNonceOperationContext)
      (count : ℕ) (source : NearContextSource)
  | markSigned (input : NonceLeaseOperationInput)
  | markBroadcastAccepted (input : NonceLeaseOperationInput) (txHash : String)
  | markBroadcastRejected (input : NonceLeaseOperationInput)
  | markFinalized (input : NonceLeaseOperationInput)
  | markDroppedOrReplaced (input : NonceLeaseOperationInput) (reason : EvmNonceOutcomeReason)
      (txHash : Option String)
  | release (input : NonceLeaseOperationInput)
  | expireLeases (walletId : Option String)
  | reconcile (lane : NonceLane)

inductive NonceAnswer where
  | done
  | leases (leases : List NonceLease)
  | nearContext (context : TransactionContext) (leases : List NonceLease)
  | status (status : NonceLaneStatus)

def perform : NonceOperation → NonceM NonceAnswer
  | .reserve (.evm lane) operation => do
    let lease ← reserveEvmNonceLease config nowMs lane operation
    return .leases [lease]
  | .reserve (.near lane) operation => do
    let leases ← reserveNearNonceBatch config nowMs lane operation 1
    return .leases (leases.take 1)
  | .reserveBatch lane operation count => do
    let leases ← reserveNearNonceBatch config nowMs lane operation count
    return .leases leases
  | .reserveNearContext lane operation count source => do
    let (context, leases) ← reserveNearContext config nowMs lane operation count source
    return .nearContext context leases
  | .markSigned input => do
    markSigned config nowMs input
    return .done
  | .markBroadcastAccepted input txHash => do
    markBroadcastAccepted config nowMs input txHash
    return .done
  | .markBroadcastRejected input => do
    markBroadcastRejected config nowMs input
    return .done
  | .markFinalized input => do
    markFinalized config nowMs input
    return .done
  | .markDroppedOrReplaced input reason txHash => do
    markDroppedOrReplaced nowMs input reason txHash
    return .done
  | .release input => do
    release nowMs input
    return .done
  | .expireLeases walletId => do
    let leases ← expireDueLeasesForWallet config nowMs walletId
    return .leases leases
  | .reconcile (.evm lane) => do
    let status ← reconcileEvmLane config nowMs lane
    return .status status
  | .reconcile (.near lane) => do
    let status ← reconcileNearLane config nowMs lane
    return .status status

end SeamsWallet.Nonce
