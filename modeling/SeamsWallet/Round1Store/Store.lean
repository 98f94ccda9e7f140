import SeamsWallet.Ed25519.WorkerHandler
import SeamsWallet.Library.Table

/-!
# The SigningWorker's NEAR round-1 store

One row per prepared pair of nonces, sealed with the request it was prepared for
and the response that was given. A row is found by its binding digest when a
prepare is repeated, by its handle when it is finalised, and by the operation or
the authorisation that claimed it. Finalising claims the row, signs, and stores
the terminal answer in one call.

The tables of execution generations, relocation fences, settlements,
retirements and activations are only read here. What they answer is an argument
of each call.
-/

namespace SeamsWallet.Round1Store

open Library WalletObject Ed25519Worker

/-! ## Rows -/

inductive NormalSigningTerminal where
  | success (response : NormalSigningResponse)
  | failure (code : RouterAbProtocolErrorCode) (message : String)

structure PreparedRound1 (Admission : Type) where
  request : AdmittedNearPrepareRequest Admission
  response : Round1PrepareResponse
  record : Round1Record

inductive Round1RowState where
  | prepared
  | claimed
  | completed
  deriving DecidableEq

structure Round1Row (Admission : Type) where
  bindingKey : String
  handle : String
  requestDigestHex : String
  ciphertext : Sealed (PreparedRound1 Admission)
  state : Round1RowState
  effectOperationKey : Option String
  authorizationKey : Option String
  authorizationJson : Option String
  effectRequestDigestHex : Option String
  terminal : Option NormalSigningTerminal

variable {Admission : Type}

/-- Rows differ in each unique column; absent values do not collide. -/
def SameRound1Key (r s : Round1Row Admission) : Prop :=
  r.bindingKey = s.bindingKey ∨ r.handle = s.handle ∨
    (r.effectOperationKey ≠ none ∧ r.effectOperationKey = s.effectOperationKey) ∨
    (r.authorizationKey ≠ none ∧ r.authorizationKey = s.authorizationKey)

instance : DecidableRel (@SameRound1Key Admission) :=
  fun _ _ => inferInstanceAs (Decidable (_ ∨ _ ∨ _ ∨ _))

abbrev Round1Table (Admission : Type) : Type := Table (@SameRound1Key Admission)

namespace Round1Row

variable (row : Round1Row Admission)

def claimComplete : Bool :=
  row.effectOperationKey.isSome && row.authorizationKey.isSome &&
    row.authorizationJson.isSome && row.effectRequestDigestHex.isSome

def hasValidLifecycle : Bool :=
  match row.state with
  | .prepared => row.effectOperationKey.isNone && row.authorizationKey.isNone &&
      row.authorizationJson.isNone && row.effectRequestDigestHex.isNone &&
      row.terminal.isNone
  | .claimed => row.claimComplete && row.terminal.isNone
  | .completed => row.claimComplete && row.terminal.isSome

def validate : RouterAbProtocolResult Unit :=
  ensure row.hasValidLifecycle (walletError "SigningWorker round-1 row has an invalid lifecycle")

def claim (operationKey authorizationKey authorizationJson
    effectDigestHex : String) (row : Round1Row Admission) : Round1Row Admission :=
  { row with
    state := .claimed
    effectOperationKey := some operationKey
    authorizationKey := some authorizationKey
    authorizationJson := some authorizationJson
    effectRequestDigestHex := some effectDigestHex }

def complete (terminal : NormalSigningTerminal) (row : Round1Row Admission) : Round1Row Admission :=
  { row with state := .completed, terminal := some terminal }

theorem complete_keepsKeys (terminal : NormalSigningTerminal) :
    Table.KeepsKeys (@SameRound1Key Admission) (complete terminal) :=
  ⟨fun _ _ => Iff.rfl, fun _ _ => Iff.rfl⟩

end Round1Row

def readRound1 : List (Round1Row Admission) → RouterAbProtocolResult (Option (Round1Row Admission))
  | [] => .ok none
  | [row] => do
    row.validate
    return some row
  | _ => .error (walletError "SigningWorker round-1 lookup returned duplicate rows")

/-! ## What a call reads from the other tables -/

structure OutputActivation where
  activeSigningWorkerState : ActiveSigningWorkerState
  material : ServerOutputMaterialRecord

/-- The answers of the tables that prepare and finalize do not write. The
activation is the registration's or the linked device's row under a key, decoded
and checked to be active. -/
structure NearReads where
  executionGenerations : List ℕ
  fenced : RouterAbProtocolResult Bool
  settled : RouterAbProtocolResult Bool
  activationRetired : String → RouterAbProtocolResult Bool
  storedActivation : String → RouterAbProtocolResult OutputActivation

def executionError (message : String) : RouterAbProtocolError :=
  ⟨.invalidLifecycleState, message⟩

def missingError (message : String) : RouterAbProtocolError :=
  ⟨.missingLocalBinding, message⟩

namespace NearReads

variable (reads : NearReads)

def requireGeneration (scope : WalletScope) (generation : ℕ) : RouterAbProtocolResult Unit := do
  validateWalletOwnershipGeneration generation
  scope.validate
  match reads.executionGenerations with
  | [] => .error (executionError "Ed25519 execution authority is missing")
  | [found] =>
    ensure (found = generation) (executionError "Ed25519 execution ownership generation differs")
  | _ => .error (executionError "Ed25519 execution authority is duplicated")

def requireUnfenced : RouterAbProtocolResult Unit := do
  let fenced ← reads.fenced
  ensure (¬ fenced) ⟨.lifecycleTransitionInProgress,
    "Wallet relocation has closed new Ed25519 work"⟩

def requireFinalizationAdmission : RouterAbProtocolResult Unit := do
  let settled ← reads.settled
  ensure (¬ settled) (executionError "Ed25519 source signing has settled")

def loadNearActivation (source : NormalSigningMaterialSource) :
    RouterAbProtocolResult OutputActivation :=
  match source with
  | .rotatableLane .. =>
    .error (walletError "SigningWorker wallet object requires registration material")
  | .registrationActivation lookup => do
    let retired ← reads.activationRetired lookup.activeKey
    ensure (¬ retired) ⟨.invalidLifecycleState, "SigningWorker activation is retired"⟩
    let activation ← reads.storedActivation lookup.activeKey
    lookup.validateActiveState activation.activeSigningWorkerState
    return activation

end NearReads

/-! ## Calls -/

/-- An answer, with which of a call's two returns gave it: the one that made it
or the one that found it stored. -/
inductive Answered (α : Type) where
  | fresh (value : α)
  | stored (value : α)

section Calls

variable {q : ℕ} {G : Type} [AddCommGroup G] [DecidableEq G] {Admission : Type}
  [DecidableEq Admission] (env : NearEnvironment Admission)

def prepareDigestHex (request : AdmittedNearPrepareRequest Admission) : String :=
  hexSlice (env.prims.sha256 (stringBytes "seams/signing-worker/wallet-do/v1" ++
    stringBytes "near-prepare" ++ env.prepareJson request)).toList

variable (frost : FrostEd25519 q G)

def openRound1 (scope : WalletScope) (row : Round1Row Admission) :
    RouterAbProtocolResult (PreparedRound1 Admission) := do
  ensure (row.handle ≠ "" ∧ row.requestDigestHex ≠ "")
    (walletError "SigningWorker round-1 row is incomplete")
  let identity ← walletRowIdentity env.prims env.scopeJson scope row.bindingKey
  let stored ← row.ciphertext.openAs "round1" identity
  stored.request.validate env
  stored.response.validate
  stored.record.validate env.prims frost
  let bindingDigest ← stored.request.round1BindingDigest
  ensure (stored.record.serverRound1Handle = row.handle ∧
      hexSlice bindingDigest.toList = row.bindingKey ∧
      prepareDigestHex env stored.request = row.requestDigestHex)
    (walletError "SigningWorker round-1 index differs from its sealed record")
  return stored

def replayPrepare (scope : WalletScope) (request : AdmittedNearPrepareRequest Admission)
    (nowUnixMs : ℕ)
    (requestDigestHex : String) (row : Round1Row Admission) :
    RouterAbProtocolResult Round1PrepareResponse := do
  ensure (row.requestDigestHex = requestDigestHex)
    (replayError "SigningWorker round-1 binding has different request material")
  ensure (row.state = .prepared) (replayError "SigningWorker round-1 material is already consumed")
  let stored ← openRound1 env frost scope row
  ensure (stored.request = request ∧ nowUnixMs < stored.record.expiresAtMs)
    (replayError "SigningWorker round-1 retry is changed or expired")
  return stored.response

def preparedRow (bindingKey requestDigestHex identity : String)
    (stored : PreparedRound1 Admission) : Round1Row Admission where
  bindingKey := bindingKey
  handle := stored.record.serverRound1Handle
  requestDigestHex := requestDigestHex
  ciphertext := ⟨"round1", identity, stored⟩
  state := .prepared
  effectOperationKey := none
  authorizationKey := none
  authorizationJson := none
  effectRequestDigestHex := none
  terminal := none

def prepareNear (reads : NearReads) (table : Round1Table Admission) (scope : WalletScope)
    (request : AdmittedNearPrepareRequest Admission) (nowUnixMs : ℕ) (random : PrepareRandom) :
    RouterAbProtocolResult (Answered Round1PrepareResponse × Round1Table Admission) := do
  reads.requireGeneration scope request.ownershipGeneration
  reads.requireUnfenced
  let activation ← reads.loadNearActivation request.materialSource
  let bindingDigest ← request.round1BindingDigest
  let bindingKey := hexSlice bindingDigest.toList
  let requestDigestHex := prepareDigestHex env request
  match ← readRound1 (table.select fun row => row.bindingKey = bindingKey) with
  | some row => do
    let response ← replayPrepare env frost scope request nowUnixMs requestDigestHex row
    return (.stored response, table)
  | none => do
    let prepared ← handlePreparePrivateRequest env frost random nowUnixMs request
      activation.activeSigningWorkerState activation.material
    let stored : PreparedRound1 Admission := ⟨request, prepared.response, prepared.record⟩
    let identity ← walletRowIdentity env.prims env.scopeJson scope bindingKey
    let inserted := table.insertIgnore (preparedRow bindingKey requestDigestHex identity stored)
    if inserted.1.map Round1Row.handle = [stored.record.serverRound1Handle] then
      return (.fresh stored.response, inserted.2)
    else do
      let found ← readRound1 (inserted.2.select fun row => row.bindingKey = bindingKey)
      let existing ← okOr found (walletError "SigningWorker round-1 write is uncertain")
      let response ← replayPrepare env frost scope stored.request nowUnixMs
        requestDigestHex existing
      return (.stored response, inserted.2)

namespace NormalSigningTerminal

def fromResult : RouterAbProtocolResult NormalSigningResponse → NormalSigningTerminal
  | .ok response => .success response
  | .error error => .failure error.code error.message

def validateForRequest (terminal : NormalSigningTerminal)
    (request : AdmittedNearFinalizeRequest Admission) : RouterAbProtocolResult Unit := do
  request.validate env
  match terminal with
  | .success response => do
    response.validate
    ensure (response.scope = request.request.scope ∧ response.signingPayloadDigest =
          request.request.prepareBinding.signingPayloadDigest)
      (walletError "SigningWorker terminal success does not match admitted request")
  | .failure _ message =>
    Worker.requireNonEmpty "SigningWorker terminal failure message" message

end NormalSigningTerminal

def replayTerminal (request : AdmittedNearFinalizeRequest Admission) (effectDigestHex : String)
    (row : Round1Row Admission) : RouterAbProtocolResult NormalSigningTerminal := do
  ensure (row.effectRequestDigestHex = some effectDigestHex)
    (replayError "SigningWorker operation key has different request material")
  let terminal ← okOr row.terminal
    (replayError "SigningWorker normal-signing effect is still pending")
  ensure (row.state = .completed) (walletError "SigningWorker terminal row has an invalid state")
  terminal.validateForRequest env request
  return terminal

/-- The checks a finalize makes on the row it names, up to the claim. -/
def openForFinalize (scope : WalletScope) (request : AdmittedNearFinalizeRequest Admission)
    (active : ActiveSigningWorkerState) (nowUnixMs : ℕ) (row : Round1Row Admission) :
    RouterAbProtocolResult (PreparedRound1 Admission) := do
  ensure (row.state = .prepared) (replayError "SigningWorker round-1 material is already consumed")
  let stored ← openRound1 env frost scope row
  let lookup : Round1Lookup := ⟨active, request.request.prepareBinding.serverRound1Handle,
    request.request.prepareBinding.round1BindingDigest, nowUnixMs⟩
  lookup.validate
  stored.record.validateForLookup env.prims frost lookup
  ensure (stored.request.ownershipGeneration = request.ownershipGeneration)
    (replayError "SigningWorker finalize generation differs from prepared round-1")
  ensure (stored.request.scope = request.request.scope)
    (replayError "SigningWorker finalize scope differs from prepared round-1")
  return stored

/-- Finalises the prepared material a request names, or answers what was stored
for the request's operation. -/
def finalizeNear (reads : NearReads) (table : Round1Table Admission) (scope : WalletScope)
    (request : AdmittedNearFinalizeRequest Admission) (nowUnixMs : ℕ) :
    RouterAbProtocolResult (Answered NormalSigningTerminal × Round1Table Admission) := do
  let operationKey ← request.effectOperationKey env
  let effectDigest ← request.effectRequestDigest env
  let effectDigestHex := hexSlice effectDigest.toList
  match ← readRound1 (table.select fun row => row.effectOperationKey = some operationKey) with
  | some row => do
    let terminal ← replayTerminal env request effectDigestHex row
    return (.stored terminal, table)
  | none => do
    reads.requireGeneration scope request.ownershipGeneration
    reads.requireFinalizationAdmission
    let activation ← reads.loadNearActivation request.materialSource
    request.request.validateAt nowUnixMs
    let authorizationKey := request.effectClaim.nearAuthorizationKey
    let claimant ← readRound1 (table.select fun row => row.authorizationKey = some authorizationKey)
    ensure (claimant = none)
      (replayError "SigningWorker authorization already claimed another effect")
    let active := activation.activeSigningWorkerState
    let round1Handle := request.request.prepareBinding.serverRound1Handle
    let found ← readRound1 (table.select fun row => row.handle = round1Handle)
    let row ← okOr found (missingError "SigningWorker round-1 material is missing")
    let stored ← openForFinalize env frost scope request active nowUnixMs row
    let (claimedRows, claimed) ← okOr (table.updateUnique
        (fun r => r.handle = round1Handle ∧ r.state = .prepared ∧ r.bindingKey = row.bindingKey)
        (Round1Row.claim operationKey authorizationKey (env.claimJson request.effectClaim)
          effectDigestHex))
      (walletError "SigningWorker round-1 unique column conflict")
    ensure (claimedRows.map Round1Row.handle = [round1Handle])
      (replayError "SigningWorker round-1 claim lost to another execution")
    let terminal := NormalSigningTerminal.fromResult (handleFinalizePrivateRequest env
      frost nowUnixMs request active activation.material stored.record)
    terminal.validateForRequest env request
    let committed := claimed.update (fun r => r.handle = round1Handle ∧ r.state = .claimed ∧
        r.effectOperationKey = some operationKey ∧
        r.effectRequestDigestHex = some effectDigestHex)
      (Round1Row.complete terminal) (Round1Row.complete_keepsKeys terminal)
    if committed.1.length = 1 then
      return (.fresh terminal, committed.2)
    else do
      let found ← readRound1
        (committed.2.select fun row => row.effectOperationKey = some operationKey)
      let row ← okOr found (walletError "SigningWorker terminal write is uncertain")
      let terminal ← replayTerminal env request effectDigestHex row
      return (.stored terminal, committed.2)

end Calls

end SeamsWallet.Round1Store
