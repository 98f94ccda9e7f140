import SeamsWallet.Nonce.Lane

/-!
# What a coordinator remembers of its lanes

An EVM lane remembers the chain's next nonce, the next candidate and the nonces
in flight. All NEAR lanes of a coordinator share one state, bound to one access
key at a time: the last transaction context of the key, the nonces reserved
under it and those in flight.

These states only steer where the search for a free nonce starts and which
requests go to the chain.
-/

namespace SeamsWallet.Nonce

open Library

/-! ## EVM lanes -/

inductive EvmInFlightStatus where
  | accepted
  | replaced

structure EvmInFlightNonceRecord where
  nonce : ℕ
  txHash : Option String
  status : EvmInFlightStatus
  acceptedAtMs : ℕ
  updatedAtMs : ℕ

structure EvmNonceLaneState where
  chainNonce : Option ℕ
  nextCandidate : Option ℕ
  inFlight : Dict ℕ EvmInFlightNonceRecord
  lastRefreshMs : Option ℕ

def createEvmNonceLaneState : EvmNonceLaneState := ⟨none, none, Dict.empty, none⟩

inductive EvmNonceOutcomeReason where
  | dropped
  | replaced

namespace EvmNonceLaneState

variable (state : EvmNonceLaneState)

/-- The state after the chain answered with its next nonce. -/
def refreshFromChain (chainNextNonce : ℕ) (activeLeaseNonces : List ℕ) (nowMs : ℕ) :
    EvmNonceLaneState :=
  let highestActiveLease := activeLeaseNonces.foldl max 0
  let prunedInFlight := state.inFlight.filter fun record => chainNextNonce ≤ record.nonce
  let highestInFlight := (prunedInFlight.values.map (·.nonce)).foldl max 0
  let hasOutstandingLocalNonce :=
    !activeLeaseNonces.isEmpty || !prunedInFlight.entries.isEmpty
  let nextFromCurrent := if hasOutstandingLocalNonce then state.nextCandidate.getD 0 else 0
  let nextFromActiveLease := if 0 < highestActiveLease then highestActiveLease + 1 else 0
  let nextFromInFlight := if 0 < highestInFlight then highestInFlight + 1 else 0
  { chainNonce := some chainNextNonce
    nextCandidate := some (max chainNextNonce (max nextFromCurrent
      (max nextFromActiveLease nextFromInFlight)))
    inFlight := prunedInFlight
    lastRefreshMs := some nowMs }

def raiseNextCandidate (minNext : ℕ) : EvmNonceLaneState :=
  { state with nextCandidate := some (max minNext (state.nextCandidate.getD 0)) }

def markBroadcastAccepted (nonce : ℕ) (txHash : String) (nowMs : ℕ) : EvmNonceLaneState :=
  raiseNextCandidate
    { state with
      inFlight := state.inFlight.set nonce ⟨nonce, some txHash, .accepted, nowMs, nowMs⟩ }
    (nonce + 1)

def markFinalized (nonce nowMs : ℕ) : EvmNonceLaneState :=
  raiseNextCandidate
    { state with
      inFlight := state.inFlight.delete nonce
      chainNonce := some (max (state.chainNonce.getD 0) (nonce + 1))
      lastRefreshMs := some nowMs }
    (nonce + 1)

def markDroppedOrReplaced (nonce : ℕ) (reason : EvmNonceOutcomeReason) (txHash : Option String)
    (nowMs : ℕ) :
    EvmNonceLaneState :=
  match reason with
  | .dropped =>
    let nextCandidate := match state.chainNonce with
      | some chainNonce =>
        if chainNonce ≤ nonce then some (min (state.nextCandidate.getD nonce) nonce)
        else state.nextCandidate
      | none => some (min (state.nextCandidate.getD nonce) nonce)
    { state with
      inFlight := state.inFlight.delete nonce
      nextCandidate
      lastRefreshMs := none }
  | .replaced =>
    let previous := state.inFlight.get? nonce
    let record : EvmInFlightNonceRecord := {
      nonce
      txHash := txHash.orElse fun _ => previous.bind (·.txHash)
      status := .replaced
      acceptedAtMs := (previous.map (·.acceptedAtMs)).getD nowMs
      updatedAtMs := nowMs }
    { state with inFlight := state.inFlight.set nonce record, lastRefreshMs := none }

def oldestInFlight : Option EvmInFlightNonceRecord :=
  state.inFlight.values.foldl (fun oldest record =>
    match oldest with
    | some best => if record.nonce < best.nonce then some record else some best
    | none => some record) none

/-- The oldest nonce in flight and its age, once it has been there too long. -/
def readBlockedEvmInFlight (nowMs staleInFlightThresholdMs : ℕ) : Option (ℕ × ℕ) := do
  let chainNonce ← state.chainNonce
  let oldest ← state.oldestInFlight
  let ageMs := nowMs - oldest.updatedAtMs
  if oldest.nonce < chainNonce then none
  else if ageMs < staleInFlightThresholdMs then none
  else some (oldest.nonce, ageMs)

end EvmNonceLaneState

def isLowerHexDigit (c : Char) : Bool :=
  (48 ≤ c.toNat && c.toNat ≤ 57) || (97 ≤ c.toNat && c.toNat ≤ 102)

/-- The hash in lower case, if it is `0x` and 64 hexadecimal digits. -/
def requireEvmTransactionHash (value : String) : Option String :=
  let normalized := (trim value).toLower
  let digits := normalized.toList.drop 2
  if normalized.toList.take 2 = ['0', 'x'] ∧ digits.length = 64 ∧ digits.all isLowerHexDigit
  then some normalized
  else none

/-! ## The NEAR access key -/

structure NearAccessKeySubject where
  walletId : StoredText
  nearAccountId : StoredText
  publicKey : StoredText
  deriving DecidableEq

def NearNonceLane.subject (lane : NearNonceLane) : NearAccessKeySubject :=
  ⟨lane.walletId, lane.nearAccountId, lane.publicKey⟩

structure TransactionContext where
  accessKeyNonce : ℕ
  nextNonce : ℕ
  txBlockHeight : String
  txBlockHash : String

structure NearNonceReadyContext where
  transactionContext : TransactionContext
  lastNonceUpdateMs : ℕ
  lastBlockHeightUpdateMs : ℕ

/-- The access key and what is known of it. A lookup that found nothing to fetch
leaves its finished promise behind, with the context it returned. -/
inductive NearNonceLaneLifecycle where
  | uninitialized
  | accessKeyBound (subject : NearAccessKeySubject) (context : Option NearNonceReadyContext)
  | accessKeyLookupPending (subject : NearAccessKeySubject) (context : NearNonceReadyContext)
  | implicitUnfunded (subject : NearAccessKeySubject)
  | lookupFailed (subject : NearAccessKeySubject)

structure NearInFlightNonceRecord where
  nonce : ℕ
  txHash : String
  acceptedAtMs : ℕ
  updatedAtMs : ℕ

structure NearNonceLaneState where
  lifecycle : NearNonceLaneLifecycle
  reservedNonces : List ℕ
  lastReservedNonce : Option ℕ
  inFlight : Dict ℕ NearInFlightNonceRecord

def createNearNonceLaneState : NearNonceLaneState := ⟨.uninitialized, [], none, Dict.empty⟩

/-- The access key nonce as the chain answers it: a view, something else, an error
that says the key does not exist, or another error. -/
inductive AccessKeyAnswer where
  | view (nonce : ℕ)
  | malformed
  | missing
  | failed
  deriving DecidableEq

/-- The final block as the chain answers it. -/
inductive BlockAnswer where
  | view (height hash : String)
  | malformed
  | failed

def isImplicitNearAccountId (nearAccountId : String) : Bool :=
  nearAccountId.length = 64 && nearAccountId.toList.all isLowerHexDigit

namespace NearNonceLaneState

variable (state : NearNonceLaneState)

def readAccessKeySubject : Option NearAccessKeySubject :=
  match state.lifecycle with
  | .uninitialized => none
  | .accessKeyBound subject _ => some subject
  | .accessKeyLookupPending subject _ => some subject
  | .implicitUnfunded subject => some subject
  | .lookupFailed subject => some subject

def readReadyContext : Option NearNonceReadyContext :=
  match state.lifecycle with
  | .accessKeyBound _ context => context
  | .accessKeyLookupPending _ context => some context
  | _ => none

def readTransactionContext : Option TransactionContext :=
  state.readReadyContext.map (·.transactionContext)

variable (subject : NearAccessKeySubject)

def setAccessKeyReady (transactionContext : TransactionContext) (nowMs : ℕ)
    (updateNonce updateBlock : Bool) :
    NearNonceLaneState :=
  let previous := state.readReadyContext
  { state with
    lifecycle := .accessKeyBound subject (some {
      transactionContext
      lastNonceUpdateMs :=
        if updateNonce then nowMs else (previous.map (·.lastNonceUpdateMs)).getD nowMs
      lastBlockHeightUpdateMs :=
        if updateBlock then nowMs
        else (previous.map (·.lastBlockHeightUpdateMs)).getD nowMs }) }

/-- A lookup that has nothing to fetch is over before it is recorded as pending, so
it stays recorded. -/
def setAccessKeyLookupPending : NearNonceLaneState :=
  match state.readReadyContext with
  | some context => { state with lifecycle := .accessKeyLookupPending subject context }
  | none => state

def initializeAccessKey : NearNonceLaneState :=
  if state.readAccessKeySubject = some subject then state
  else ⟨.accessKeyBound subject none, [], none, Dict.empty⟩

def commitTransactionContext (transactionContext : TransactionContext) (nowMs : ℕ) :
    NearNonceLaneState :=
  (state.initializeAccessKey subject).setAccessKeyReady subject transactionContext nowMs
    true true

def computeLastReservedNonce (reserved : List ℕ) : Option ℕ := reserved.max?

def releaseNonce (nonce : ℕ) : NearNonceLaneState :=
  if nonce ∈ state.reservedNonces then
    let reservedNonces := state.reservedNonces.filter (· ≠ nonce)
    { state with
      reservedNonces
      lastReservedNonce := computeLastReservedNonce reservedNonces }
  else state

def pruneReservedNonces (chainNonce : ℕ) : NearNonceLaneState :=
  if state.reservedNonces.isEmpty then state
  else
    let reservedNonces := state.reservedNonces.filter (chainNonce < ·)
    { state with
      reservedNonces
      lastReservedNonce := computeLastReservedNonce reservedNonces }

def nextAfterReserved : ℕ :=
  (state.lastReservedNonce.map (· + 1)).getD 0

def previousNextNonce : ℕ :=
  (state.readTransactionContext.map (·.nextNonce)).getD 0

def contextWith (accessKeyNonce nextNonce : ℕ) : TransactionContext :=
  match state.readTransactionContext with
  | some previous => { previous with accessKeyNonce, nextNonce }
  | none => ⟨accessKeyNonce, nextNonce, "0", ""⟩

def markBroadcastAccepted (nonce : ℕ) (txHash : String) (nowMs : ℕ) : NearNonceLaneState :=
  { state with inFlight := state.inFlight.set nonce ⟨nonce, txHash, nowMs, nowMs⟩ }

/-- The state after a finalised nonce, with what the chain says of the key. An
answer that is no access key counts as a missing one. -/
def updateNonceFromBlockchain (actual : ℕ) (answer : AccessKeyAnswer) (nowMs : ℕ) :
    NearNonceLaneState :=
  match answer with
  | .view chainNonce =>
    let candidateNext := max (chainNonce + 1) (max (actual + 1)
      (max state.previousNextNonce state.nextAfterReserved))
    let ready := state.setAccessKeyReady subject
      (state.contextWith chainNonce candidateNext) nowMs true false
    let released :=
      { ready with inFlight := ready.inFlight.delete actual }.releaseNonce actual
    released.pruneReservedNonces chainNonce
  | .malformed | .missing =>
    let candidateNext := max (actual + 1) (max state.previousNextNonce
      state.nextAfterReserved)
    let accessKeyNonce := (state.readTransactionContext.map (·.accessKeyNonce)).getD 0
    state.setAccessKeyReady subject (state.contextWith accessKeyNonce candidateNext) nowMs
      true false
  | .failed => state

/-- The state after a rejected broadcast, with the key's nonce on chain. -/
def refreshAfterBroadcastRejected (chainNonce nowMs : ℕ) : NearNonceLaneState :=
  let candidateNext := max (chainNonce + 1) (max state.nextAfterReserved 1)
  (state.setAccessKeyReady subject (state.contextWith chainNonce candidateNext) nowMs
    true false).pruneReservedNonces chainNonce

end NearNonceLaneState

end SeamsWallet.Nonce
