import SeamsWallet.EcdsaPool.Transitions
import SeamsWallet.Library.Table
import SeamsWallet.Protocol.WalletObject

/-!
# The SigningWorker's ECDSA wallet store

Two tables: the presignature pool, one sealed lifecycle record per key, and the
signing effects, unique by operation and by authorisation. Claiming an effect
and consuming the presignature it names is one call; recording its response is
another. Each call returns the tables it leaves behind, and a host runs it in
one transaction, so an error leaves the tables as they were.

The tables of relocation fences, execution authorities and linked devices are
only read here. What they answer is an argument of each call.
-/

namespace SeamsWallet.EcdsaStore

open Library EcdsaPool WalletObject

/-! ## Rows -/

structure EcdsaPoolRow where
  poolKey : String
  ownerJson : String
  ciphertext : Sealed EcdsaPoolLifecycleRecord
  version : ℕ

structure EcdsaEffectRow where
  operationKey : String
  authorizationKey : String
  ownerJson : String
  requestDigestHex : String
  authorizationJson : String
  claimedAtMs : ℕ
  terminalJson : Option String
  committedAtMs : Option ℕ

abbrev SamePoolKey (r s : EcdsaPoolRow) : Prop := r.poolKey = s.poolKey

abbrev SameEffectKey (r s : EcdsaEffectRow) : Prop :=
  r.operationKey = s.operationKey ∨ r.authorizationKey = s.authorizationKey

structure EcdsaTables where
  pool : Table SamePoolKey
  effects : Table SameEffectKey

/-! ## What a call reads from the other tables -/

inductive ExecutionAuthority where
  | registration (materialKey : String)
  | relocation (sourceGeneration : ℕ)
  | emptySource (sourceGeneration : ℕ)

def ExecutionAuthority.generation : ExecutionAuthority → ℕ
  | .registration _ => 1
  | .relocation sourceGeneration => sourceGeneration + 1
  | .emptySource sourceGeneration => sourceGeneration

def ExecutionAuthority.isEmptySource : ExecutionAuthority → Bool
  | .emptySource _ => true
  | _ => false

inductive PoolAdmission where
  | opened
  | closed
  deriving DecidableEq

/-- The answers of the tables a claim or a commit reads but does not write. -/
structure WalletReads where
  poolAdmission : RouterAbProtocolResult PoolAdmission
  executionAuthority : RouterAbProtocolResult (Option ExecutionAuthority)
  linkedMaterialUnrevoked : RouterAbProtocolResult Unit

def WalletReads.requireMutationAdmission (reads : WalletReads) : RouterAbProtocolResult Unit := do
  let admission ← reads.poolAdmission
  ensure (admission = .opened) ⟨.lifecycleTransitionInProgress,
    "Wallet relocation has closed ECDSA pool admission"⟩

def WalletReads.requireExecutionGeneration (reads : WalletReads) (ownershipGeneration : ℕ) :
    RouterAbProtocolResult Unit := do
  validateWalletOwnershipGeneration ownershipGeneration
  let found ← reads.executionAuthority
  let authority ← okOr found (walletError "ECDSA execution authority is missing")
  ensure (¬ authority.isEmptySource) (walletError "An empty relocation source cannot execute")
  ensure (authority.generation = ownershipGeneration)
    (walletError "ECDSA execution ownership generation differs")

/-! ## The pool -/

def ecdsaPoolStorageKey (prims : Primitives) (scope : EcdsaNormalSigningScope)
    (serverPresignatureId : String) : RouterAbProtocolResult String := do
  let activationId ← scope.materialActivationId prims
  return s!"signing-worker-ecdsa-pool/{scope.walletId}/{activationId}/" ++
    s!"{scope.signingWorker.serverId}/{serverPresignatureId}"

variable {Admission : Type} (env : WalletEnvironment Admission)

def openPoolRecord (scope : WalletScope) (key : String) :
    List EcdsaPoolRow → RouterAbProtocolResult (Option EcdsaPoolLifecycleRecord)
  | [] => .ok none
  | [row] => do
    ensure (row.ownerJson = env.scopeJson scope) (walletError "ECDSA pool owner conflict")
    let identity ← walletRowIdentity env.prims env.scopeJson scope key
    let record ← row.ciphertext.openAs "ecdsa_pool" identity
    record.validate env.prims
    return some record
  | _ => .error (walletError "ECDSA pool lookup returned duplicate rows")

def recordIsTerminal (record : Option EcdsaPoolLifecycleRecord) : Bool :=
  record.any fun record => record.lifecycle.IsTerminal

def isAlreadyStored : EcdsaPoolMutationOutcome → Bool
  | .available _ false => true
  | _ => false

/-- Writes the record of an outcome under its key: an insert when the lookup
found nothing, otherwise an update of the version that was read. -/
def writePoolRecord (pool : Table SamePoolKey) (found : List EcdsaPoolRow)
    (key ownerJson : String) (ciphertext : Sealed EcdsaPoolLifecycleRecord) :
    List EcdsaPoolRow × Table SamePoolKey :=
  match found with
  | [row] =>
    pool.update (fun r => r.poolKey = key ∧ r.ownerJson = ownerJson ∧ r.version = row.version)
      (fun r => { r with ciphertext, version := r.version + 1 })
      ⟨fun _ _ => Iff.rfl, fun _ _ => Iff.rfl⟩
  | _ => pool.insertIgnore { poolKey := key, ownerJson, ciphertext, version := 0 }

def mutatePoolRecord (tables : EcdsaTables) (scope : WalletScope) (command : EcdsaPoolCommand) :
    RouterAbProtocolResult (EcdsaPoolMutationOutcome × EcdsaTables) := do
  scope.validate
  command.validate env.prims
  ensure (scope.walletId = command.scope.walletId)
    (walletError "SigningWorker ECDSA pool wallet scope changed")
  let key ← ecdsaPoolStorageKey env.prims command.scope command.serverPresignatureId
  let found := tables.pool.select fun row => row.poolKey = key
  let current ← openPoolRecord env scope key found
  let outcome ← applyCommand env.prims current command
  outcome.validate env.prims
  if recordIsTerminal current ∨ isAlreadyStored outcome then
    return (outcome, tables)
  else do
    let identity ← walletRowIdentity env.prims env.scopeJson scope key
    let written := writePoolRecord tables.pool found key (env.scopeJson scope)
      ⟨"ecdsa_pool", identity, outcome.record⟩
    ensure (written.1.map EcdsaPoolRow.poolKey = [key])
      (walletError "ECDSA pool write is uncertain")
    return (outcome, { tables with pool := written.2 })

variable (reads : WalletReads)

def mutatePool (tables : EcdsaTables) (scope : WalletScope) (command : EcdsaPoolCommand) :
    RouterAbProtocolResult (EcdsaPoolMutationOutcome × EcdsaTables) := do
  reads.requireMutationAdmission
  mutatePoolRecord env tables scope command

/-! ## Effects -/

inductive ClaimAndConsume where
  | claimed (material : EcdsaPresignatureRecord)
  | replay (terminalJson : String)
  | inProgress
  | burned

inductive TerminalResponseCommit where
  | committed
  | replay (responseJson : String)

structure EffectIdentity where
  operationKey : String
  authorizationKey : String
  ownerJson : String
  requestDigestHex : String
  authorizationJson : String
  deriving DecidableEq

def EcdsaEffectRow.identity (row : EcdsaEffectRow) : EffectIdentity :=
  ⟨row.operationKey, row.authorizationKey, row.ownerJson, row.requestDigestHex,
    row.authorizationJson⟩

def EffectIdentity.claimedRow (identity : EffectIdentity) (claimedAtMs : ℕ) : EcdsaEffectRow where
  operationKey := identity.operationKey
  authorizationKey := identity.authorizationKey
  ownerJson := identity.ownerJson
  requestDigestHex := identity.requestDigestHex
  authorizationJson := identity.authorizationJson
  claimedAtMs := claimedAtMs
  terminalJson := none
  committedAtMs := none

def EcdsaEffectRow.commit (responseJson : String) (committedAtMs : ℕ)
    (row : EcdsaEffectRow) : EcdsaEffectRow :=
  { row with terminalJson := some responseJson, committedAtMs := some committedAtMs }

theorem EcdsaEffectRow.commit_keepsKeys (responseJson : String) (committedAtMs : ℕ) :
    Table.KeepsKeys SameEffectKey (EcdsaEffectRow.commit responseJson committedAtMs) :=
  ⟨fun _ _ => Iff.rfl, fun _ _ => Iff.rfl⟩

def validateWalletEcdsaEffectScope
    (scope : WalletScope) (admitted : AdmittedEcdsaFinalizeRequest Admission) :
    RouterAbProtocolResult Unit := do
  admitted.validate env
  ensure (admitted.walletScope = scope)
    (walletError "SigningWorker ECDSA effect wallet scope changed")

def effectIdentity (scope : WalletScope) (admitted : AdmittedEcdsaFinalizeRequest Admission) :
    RouterAbProtocolResult EffectIdentity := do
  let operationKey ← admitted.effectOperationKey env
  let authorizationKey ← admitted.effectAuthorizationKey env
  let requestDigest ← admitted.effectRequestDigest env
  return {
    operationKey
    authorizationKey
    ownerJson := env.scopeJson scope
    requestDigestHex := hexSlice requestDigest.toList
    authorizationJson := env.claimJson admitted.effectClaim }

def validateEcdsaEffectRow (row : EcdsaEffectRow) (identity : EffectIdentity) :
    RouterAbProtocolResult Unit :=
  ensure (row.identity = identity) (replayError
    "SigningWorker ECDSA effect identity or authorization changed")

def ecdsaEffectClaimOutcome (row : EcdsaEffectRow) (identity : EffectIdentity) :
    RouterAbProtocolResult ClaimAndConsume := do
  validateEcdsaEffectRow row identity
  match row.terminalJson with
  | some terminalJson => return .replay terminalJson
  | none => return .inProgress

/-- SQLite integers are signed and 64 bits wide. -/
def sqliteInteger (label : String) (value : ℕ) : RouterAbProtocolResult ℕ := do
  ensure (value < 2 ^ 63) (walletError s!"{label} timestamp exceeds SQLite integer range")
  return value

def claimFresh (tables : EcdsaTables) (scope : WalletScope)
    (admitted : AdmittedEcdsaFinalizeRequest Admission) (identity : EffectIdentity)
    (nowUnixMs : ℕ) : RouterAbProtocolResult (ClaimAndConsume × EcdsaTables) := do
  reads.requireExecutionGeneration admitted.ownershipGeneration
  admitted.request.validateAt env.prims nowUnixMs
  reads.linkedMaterialUnrevoked
  let requestDigest ← admitted.request.prepareRequestDigest env.prims
  let (outcome, consumed) ← mutatePool env reads tables scope (.consume
    { scope := admitted.request.scope
      serverPresignatureId := admitted.request.serverPresignatureId
      expectedRevision := 1 } requestDigest nowUnixMs)
  match outcome with
  | .consumed _ material => do
    let claimedAtMs ← sqliteInteger "ECDSA effect" nowUnixMs
    let inserted := consumed.effects.insertIgnore (identity.claimedRow claimedAtMs)
    ensure (inserted.1.map EcdsaEffectRow.operationKey = [identity.operationKey])
      (walletError "ECDSA effect claim is uncertain")
    return (.claimed material, { consumed with effects := inserted.2 })
  | .burned _ => return (.burned, consumed)
  | _ => .error (walletError "ECDSA consume returned the wrong lifecycle outcome")

def claimAndConsumeEffect (tables : EcdsaTables) (scope : WalletScope)
    (admitted : AdmittedEcdsaFinalizeRequest Admission) (nowUnixMs : ℕ) :
    RouterAbProtocolResult (ClaimAndConsume × EcdsaTables) := do
  validateWalletEcdsaEffectScope env scope admitted
  Worker.requirePositiveMs "SigningWorker ECDSA effect time" nowUnixMs
  let identity ← effectIdentity env scope admitted
  match tables.effects.select fun row => row.operationKey = identity.operationKey ∨
      row.authorizationKey = identity.authorizationKey with
  | [] => claimFresh env reads tables scope admitted identity nowUnixMs
  | [row] => do
    let outcome ← ecdsaEffectClaimOutcome row identity
    return (outcome, tables)
  | _ => .error (walletError "ECDSA effect lookup returned duplicate rows")

/-- Records the response of a claimed effect; a second call returns the
response recorded first. -/
def commitTerminal (tables : EcdsaTables) (scope : WalletScope)
    (admitted : AdmittedEcdsaFinalizeRequest Admission) (response : EcdsaSigningResponse)
    (nowUnixMs : ℕ) : RouterAbProtocolResult (TerminalResponseCommit × EcdsaTables) := do
  validateWalletEcdsaEffectScope env scope admitted
  response.validateForRequest env.prims admitted.request
  Worker.requirePositiveMs "SigningWorker ECDSA terminal time" nowUnixMs
  let identity ← effectIdentity env scope admitted
  match tables.effects.select fun row => row.operationKey = identity.operationKey with
  | [row] => do
    validateEcdsaEffectRow row identity
    match row.terminalJson with
    | some terminalJson => return (.replay terminalJson, tables)
    | none => do
      reads.requireExecutionGeneration admitted.ownershipGeneration
      let committedAtMs ← sqliteInteger "ECDSA terminal" nowUnixMs
      let written := tables.effects.update (fun row => row.operationKey = identity.operationKey ∧
          row.ownerJson = identity.ownerJson ∧
          row.requestDigestHex = identity.requestDigestHex ∧
          row.authorizationJson = identity.authorizationJson ∧
          row.terminalJson = none)
        (EcdsaEffectRow.commit (env.responseJson response) committedAtMs)
        (EcdsaEffectRow.commit_keepsKeys _ _)
      ensure (written.1.map EcdsaEffectRow.operationKey = [identity.operationKey])
        (walletError "ECDSA terminal write is uncertain")
      return (.committed, { tables with effects := written.2 })
  | _ => .error (walletError "ECDSA terminal requires one claimed effect")

end SeamsWallet.EcdsaStore
