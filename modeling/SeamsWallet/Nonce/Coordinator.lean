import SeamsWallet.Library.Effect
import SeamsWallet.Nonce.LaneState

/-!
# The nonce coordinator

One coordinator per runtime hands out nonces of lanes as leases and follows each
lease until its transaction is final. It keeps its leases in memory and writes a
coordination record for each active one into the store that all coordinators of
the wallet share; of the leases of the others it sees the records only.

An operation works on a `World`: the memory of its own coordinator, the shared
store, the source of random ids and the answers the chain is going to give. It
runs at one point in time. When it throws, what it did before stays done.
-/

namespace SeamsWallet.Nonce

open Library

/-! ## The world of one operation -/

structure NonceCoordinatorConfig where
  leaseTtlMs : ℕ
  signedLeaseTtlMs : ℕ
  evmRefreshTtlMs : ℕ
  evmStaleInFlightThresholdMs : ℕ
  hasNearClient : Bool

def defaultConfig (hasNearClient : Bool) : NonceCoordinatorConfig :=
  ⟨120000, 30000, 5000, 45000, hasNearClient⟩

def nearNonceFreshnessThresholdMs : ℕ := 5000

def nearBlockFreshnessThresholdMs : ℕ := 20000

structure NonceCoordinator where
  leases : Dict NonceLeaseId NonceLease
  evmStates : Dict String EvmNonceLaneState
  nearState : NearNonceLaneState

def createNonceCoordinator : NonceCoordinator :=
  ⟨Dict.empty, Dict.empty, createNearNonceLaneState⟩

inductive NearTxOutcome where
  | finalized
  | missing
  | unknown

/-- The chain's answers in the order they are asked for; none is a failure. -/
structure RpcAnswers where
  chainNonces : List (Option ℤ)
  accessKeys : List AccessKeyAnswer
  blocks : List BlockAnswer
  txOutcomes : List NearTxOutcome

structure World where
  coordinator : NonceCoordinator
  store : NonceLaneCoordinationStore
  nextRandomId : ℕ
  rpc : RpcAnswers

inductive NonceError where
  | message (text : String)
  | nearImplicitAccountFundingRequired (nearAccountId : String)
  | nearAccountLookupFailed (nearAccountId : String)
  | rpc

abbrev NonceM : Type → Type := Effect NonceError World

open Effect

def coordinatorError {α : Type} (message : String) : NonceM α :=
  fail (.message s!"[NonceCoordinator] {message}")

/-! ## Requests to the chain -/

def fetchChainNonce : NonceM ℤ := do
  let w ← read
  match w.rpc.chainNonces with
  | some nonce :: rest => do
    update fun w => { w with rpc := { w.rpc with chainNonces := rest } }
    return nonce
  | none :: rest => do
    update fun w => { w with rpc := { w.rpc with chainNonces := rest } }
    fail .rpc
  | [] => fail .rpc

def viewAccessKey : NonceM AccessKeyAnswer := do
  let w ← read
  match w.rpc.accessKeys with
  | answer :: rest => do
    update fun w => { w with rpc := { w.rpc with accessKeys := rest } }
    return answer
  | [] => return .failed

def viewBlock : NonceM BlockAnswer := do
  let w ← read
  match w.rpc.blocks with
  | answer :: rest => do
    update fun w => { w with rpc := { w.rpc with blocks := rest } }
    return answer
  | [] => return .failed

def readNearTxOutcome : NonceM NearTxOutcome := do
  let w ← read
  match w.rpc.txOutcomes with
  | outcome :: rest => do
    update fun w => { w with rpc := { w.rpc with txOutcomes := rest } }
    return outcome
  | [] => return .unknown

/-- A request that is made only under a condition. -/
def requestIf {α : Type} (c : Bool) (request : NonceM α) : NonceM (Option α) :=
  if c then do
    let answer ← request
    return some answer
  else return none

/-! ## Leases and their records -/

structure NonceLeaseOperationInput where
  leaseId : NonceLeaseId
  operationId : String
  operationFingerprint : String

def requireText (label value : String) : NonceM String :=
  if trim value = "" then fail (.message s!"[SigningSession] {label} is required")
  else return trim value

def normalizeLeaseOperationInput (input : NonceLeaseOperationInput) :
    NonceM NonceLeaseOperationInput := do
  let operationId ← requireText "signingOperationId" input.operationId
  let operationFingerprint ← requireText "signingOperationFingerprint"
    input.operationFingerprint
  return ⟨input.leaseId, operationId, operationFingerprint⟩

def readLease (input : NonceLeaseOperationInput) : NonceM NonceLease := do
  let w ← read
  match w.coordinator.leases.get? input.leaseId with
  | none => coordinatorError "nonce lease not found"
  | some lease =>
    if lease.operationId.val ≠ input.operationId then
      coordinatorError "nonce lease operation mismatch"
    else if lease.operationFingerprint.val ≠ input.operationFingerprint then
      coordinatorError "nonce lease operation fingerprint mismatch"
    else return lease

def reduceNonceLeaseState (state : NonceLeaseState) (transition : NonceLeaseTransition) :
    NonceM NonceLeaseState :=
  match tryReduceNonceLeaseState state transition with
  | some next => return next
  | none => coordinatorError
      s!"illegal nonce lease transition: {state.text} -> {transition.text}"

def World.withLease (w : World) (lease : NonceLease) : World :=
  { w with
    coordinator := { w.coordinator with leases := w.coordinator.leases.set lease.leaseId lease } }

variable (lease : NonceLease)

def setLease : NonceM Unit := update fun w => w.withLease lease

def transitionLease (transition : NonceLeaseTransition) (expiresAtMs : Option ℕ) :
    NonceM NonceLease := do
  let state ← reduceNonceLeaseState lease.state transition
  let next := { lease with state, expiresAtMs := expiresAtMs.getD lease.expiresAtMs }
  setLease next
  return next

def preflightLeaseTransition (transition : NonceLeaseTransition) : NonceM Unit := do
  let _ ← reduceNonceLeaseState lease.state transition
  return ()

def coordinationRecord (lifecycle : NonceDurableLeaseLifecycle) (expiresAtMs : ℕ) :
    NonceLaneCoordinationRecord where
  laneKey := nonceLaneKey lease.lane
  leaseId := lease.leaseId
  family := lease.lane.family
  nonce := lease.nonce
  lifecycle
  expiresAtMs

def World.withRecord (w : World) (record : NonceLaneCoordinationRecord) : World :=
  { w with store := w.store.upsert record }

def persistCoordinationLease (lifecycle : NonceDurableLeaseLifecycle) (expiresAtMs : ℕ) :
    NonceM Unit :=
  update fun w => w.withRecord (coordinationRecord lease lifecycle expiresAtMs)

def removeCoordinationLease : NonceM Unit :=
  update fun w => { w with store := w.store.remove lease.leaseId }

variable (nowMs : ℕ) (laneKey : String)

def readCoordinationLaneRecords : NonceM (List NonceLaneCoordinationRecord) := do
  update fun w => { w with store := w.store.pruneExpired nowMs }
  let w ← read
  return w.store.readLane laneKey

/-- The nonces of a lane that are in use: those of the coordinator's own active
leases and those of active records. -/
def readActiveLeaseNonces (family : NonceFamily) (isActive : NonceLeaseState → Bool)
    (nowMs : ℕ) (laneKey : String) (chainNextNonce : Option ℕ)
    (excludeLeaseId : Option NonceLeaseId) : NonceM (List ℕ) := do
  let w ← read
  let own := w.coordinator.leases.values.filter fun lease =>
    excludeLeaseId ≠ some lease.leaseId && lease.lane.family = family &&
      nonceLaneKey lease.lane = laneKey && isActive lease.state &&
      chainNextNonce.all (· ≤ lease.nonce)
  let records ← readCoordinationLaneRecords nowMs laneKey
  let durable := records.filter fun record =>
    record.family = family && excludeLeaseId ≠ some record.leaseId &&
      isActiveCoordinationLeaseRecord record nowMs && chainNextNonce.all (· ≤ record.nonce)
  return own.map (·.nonce) ++ durable.map (·.nonce)

def readActiveEvmLeaseNonces (chainNextNonce : Option ℕ) (excludeLeaseId : Option NonceLeaseId) :
    NonceM (List ℕ) :=
  readActiveLeaseNonces .evm isActiveEvmLeaseState nowMs laneKey chainNextNonce
    excludeLeaseId

def readActiveNearLeaseNonces : NonceM (List ℕ) :=
  readActiveLeaseNonces .near isActiveNearLeaseState nowMs laneKey none none

/-! ## EVM lanes -/

def setEvmState (state : EvmNonceLaneState) : NonceM Unit :=
  update fun w => { w with
    coordinator := { w.coordinator with evmStates := w.coordinator.evmStates.set laneKey state } }

def getOrCreateEvmState : NonceM EvmNonceLaneState := do
  let w ← read
  match w.coordinator.evmStates.get? laneKey with
  | some state => return state
  | none => do
    setEvmState laneKey createEvmNonceLaneState
    return createEvmNonceLaneState

def refreshEvmLaneFromChain (lane : EvmNonceLane) : NonceM ℕ := do
  let laneKey := nonceLaneKey (.evm lane)
  let chainNextNonceRaw ← fetchChainNonce
  let chainNextNonce := chainNextNonceRaw.toNat
  let activeLeaseNonces ← readActiveEvmLeaseNonces nowMs laneKey (some chainNextNonce) none
  let state ← getOrCreateEvmState laneKey
  setEvmState laneKey (state.refreshFromChain chainNextNonce activeLeaseNonces nowMs)
  return chainNextNonce

def shouldRefreshEvmLane (config : NonceCoordinatorConfig) (nowMs : ℕ) (laneKey : String)
    (state : EvmNonceLaneState) : NonceM Bool :=
  match state.nextCandidate, state.lastRefreshMs with
  | none, _ => return true
  | _, none => return true
  | some _, some lastRefreshMs =>
    if !state.inFlight.entries.isEmpty then return true
    else do
      let active ← readActiveEvmLeaseNonces nowMs laneKey none none
      if !active.isEmpty then return false
      else return config.evmRefreshTtlMs ≤ nowMs - lastRefreshMs

structure NonceLaneStatus where
  chainNextNonce : ℕ
  unresolvedInFlightNonces : List ℕ
  blockedNonce : Option ℕ

def sortNonces (nonces : List ℕ) : List ℕ := nonces.mergeSort (· ≤ ·)

def reconcileEvmLane (config : NonceCoordinatorConfig) (nowMs : ℕ) (lane : EvmNonceLane) :
    NonceM NonceLaneStatus := do
  let laneKey := nonceLaneKey (.evm lane)
  let _ ← getOrCreateEvmState laneKey
  let chainNextNonce ← refreshEvmLaneFromChain nowMs lane
  let state ← getOrCreateEvmState laneKey
  return {
    chainNextNonce
    unresolvedInFlightNonces := sortNonces (state.inFlight.values.map (·.nonce))
    blockedNonce :=
      (state.readBlockedEvmInFlight nowMs config.evmStaleInFlightThresholdMs).map Prod.fst }

/-- A lane without other nonces in use is refreshed at its next reservation. -/
def forgetEvmReservation (lease : NonceLease) : NonceM Unit := do
  let laneKey := nonceLaneKey lease.lane
  let w ← read
  match w.coordinator.evmStates.get? laneKey with
  | none => return ()
  | some state => do
    let inFlight := state.inFlight.delete lease.nonce
    let active ← readActiveEvmLeaseNonces nowMs laneKey none (some lease.leaseId)
    let lastRefreshMs :=
      if active.isEmpty && inFlight.entries.isEmpty then none else state.lastRefreshMs
    setEvmState laneKey { state with inFlight, lastRefreshMs }

def releaseEvmNonceReservation (lease : NonceLease) : NonceM Unit := do
  removeCoordinationLease lease
  forgetEvmReservation nowMs lease

/-! ## The NEAR access key -/

def updateNearState (f : NearNonceLaneState → NearNonceLaneState) : NonceM Unit :=
  update fun w => { w with
    coordinator := { w.coordinator with nearState := f w.coordinator.nearState } }

def requireNearAccessKeySubject : NonceM NearAccessKeySubject := do
  let w ← read
  match w.coordinator.nearState.readAccessKeySubject with
  | some subject => return subject
  | none => coordinatorError "NEAR access key is not initialized"

def initializeNearAccessKey (lane : NearNonceLane) : NonceM Unit :=
  updateNearState fun state => state.initializeAccessKey lane.subject

def requireNearClient (available : Bool) : NonceM Unit :=
  if available then return () else coordinatorError "NEAR client is not configured"

def setNearLifecycle (lifecycle : NearNonceLaneLifecycle) : NonceM Unit :=
  updateNearState fun state => { state with lifecycle }

variable (subject : NearAccessKeySubject)

/-- A lookup that throws leaves the key bound, with the context it had. -/
def failNearLookup {α : Type} (previous : Option NearNonceReadyContext) (error : NonceError) :
    NonceM α := do
  setNearLifecycle (.accessKeyBound subject previous)
  fail error

/-- The access key's nonce, from the chain's answer if it was asked. -/
def resolveAccessKeyNonce (previous : Option NearNonceReadyContext) :
    Option AccessKeyAnswer → NonceM ℕ
  | some (.view nonce) => return nonce
  | none | some .malformed =>
    return (previous.map (·.transactionContext.accessKeyNonce)).getD 0
  | some .missing =>
    if isImplicitNearAccountId subject.nearAccountId then do
      setNearLifecycle (.implicitUnfunded subject)
      fail (.nearImplicitAccountFundingRequired subject.nearAccountId)
    else do
      setNearLifecycle (.lookupFailed subject)
      fail (.nearAccountLookupFailed subject.nearAccountId)
  | some .failed => failNearLookup subject previous .rpc

/-- Height and hash of the block, from the chain's answer if it was asked. -/
def resolveBlock (previous : Option NearNonceReadyContext) :
    Option BlockAnswer → NonceM (String × String)
  | some (.view height hash) => return (height, hash)
  | none =>
    return ((previous.map (·.transactionContext.txBlockHeight)).getD "",
      (previous.map (·.transactionContext.txBlockHash)).getD "")
  | some .malformed => failNearLookup subject previous
      (.message "[NonceCoordinator] failed to fetch NEAR block info")
  | some .failed => failNearLookup subject previous .rpc

def lookUpNearContext (force : Bool) : NonceM TransactionContext := do
  let subject ← requireNearAccessKeySubject
  let w ← read
  let previous := w.coordinator.nearState.readReadyContext
  let fetchAccessKey := force || previous.all fun ready =>
    nearNonceFreshnessThresholdMs ≤ nowMs - ready.lastNonceUpdateMs
  let fetchBlock := force || previous.all fun ready =>
    nearBlockFreshnessThresholdMs ≤ nowMs - ready.lastBlockHeightUpdateMs ||
      ready.transactionContext.txBlockHeight = "" || ready.transactionContext.txBlockHash = ""
  let accessKey ← requestIf fetchAccessKey viewAccessKey
  let block ← requestIf fetchBlock viewBlock
  let accessKeyNonce ← resolveAccessKeyNonce subject previous accessKey
  let (txBlockHeight, txBlockHash) ← resolveBlock subject previous block
  let nextNonce := max (accessKeyNonce + 1)
    (max ((previous.map (·.transactionContext.nextNonce)).getD 0)
      (max w.coordinator.nearState.nextAfterReserved 1))
  let context : TransactionContext := ⟨accessKeyNonce, nextNonce, txBlockHeight, txBlockHash⟩
  updateNearState fun state =>
    let ready := state.setAccessKeyReady subject context nowMs fetchAccessKey fetchBlock
    if fetchAccessKey || fetchBlock then ready else ready.setAccessKeyLookupPending subject
  return context

def fetchNearFreshData (force : Bool) : NonceM TransactionContext := do
  let w ← read
  match force, w.coordinator.nearState.lifecycle with
  | false, .accessKeyLookupPending _ context => return context.transactionContext
  | _, _ => lookUpNearContext nowMs force

def fetchNearContextForLane (lane : NearNonceLane) (hasClient force : Bool) :
    NonceM TransactionContext := do
  initializeNearAccessKey lane
  requireNearClient hasClient
  fetchNearFreshData nowMs force

end SeamsWallet.Nonce
