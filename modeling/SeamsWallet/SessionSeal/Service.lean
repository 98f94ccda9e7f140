import SeamsWallet.Nonce.Lane

/-!
# The signing-session seal service

The service applies and removes the server seal of a session's ciphertext. Every
request is keyed by its operation, user, session, key version and a hash of its
ciphertext; a result stored under the key is replayed, a request in flight under
the key is shared, and otherwise the session is checked and the cipher runs.

Calls overlap: each call is cut at the points where the service waits, and the
steps of different calls interleave in any order. What the guard and the cipher
answer, and when, is part of the step.
-/

namespace SeamsWallet.SessionSeal

open Library
open Nonce (trim)

/-! ## Requests and results -/

inductive SigningSessionSealOperation where
  | applyServerSeal
  | removeServerSeal
  deriving DecidableEq

structure SigningSessionSealServerSealRequest where
  thresholdSessionId : String
  ciphertext : String
  keyVersion : Option String
  deriving DecidableEq

/-- The session a caller was authenticated with. An expiry that is not a finite
number is absent. -/
structure SigningSessionSealAuthorizationSessionRecord where
  thresholdSessionId : String
  userId : String
  expiresAtMs : Option ℕ
  deriving DecidableEq

structure SigningSessionSealAuthInput where
  userId : String
  session : SigningSessionSealAuthorizationSessionRecord
  deriving DecidableEq

inductive SigningSessionSealRouteResult where
  | ok (ciphertext : String) (keyVersion : Option String) (expiresAtMs : Option ℕ)
  | failure (code message : String)
  deriving DecidableEq

/-- A call of the service. The digest may be unavailable to it. -/
structure SealCall where
  operation : SigningSessionSealOperation
  request : SigningSessionSealServerSealRequest
  auth : SigningSessionSealAuthInput
  digestAvailable : Bool
  deriving DecidableEq

structure SealDigest where
  sha256BytesUtf8 : String → Bytes 32
  base64UrlEncode : Bytes 32 → String

def toMessage (input defaultMessage : String) : String :=
  if trim input = "" then defaultMessage else trim input

def toCode (input defaultCode : String) : String :=
  if trim input = "" then defaultCode else trim input

/-! ## Operation keys -/

/-- The UTF-16 code units of a text. -/
def charCodes (s : String) : List ℕ :=
  s.toList.flatMap fun c =>
    if c.toNat < 0x10000 then [c.toNat]
    else [0xD800 + (c.toNat - 0x10000) / 0x400, 0xDC00 + (c.toNat - 0x10000) % 0x400]

def fnv1aHex (input : String) : String :=
  let hash := (charCodes input).foldl
    (fun hash code => (hash ^^^ UInt32.ofNat code) * 16777619) (2166136261 : UInt32)
  let digits := Nat.toDigits 16 hash.toNat
  String.ofList (List.replicate (8 - digits.length) '0' ++ digits)

def hashCiphertextForIdempotency (digest : SealDigest) (digestAvailable : Bool)
    (ciphertext : String) : String :=
  let normalized := trim ciphertext
  if normalized = "" then ""
  else if digestAvailable then
    "sha256:" ++ digest.base64UrlEncode (digest.sha256BytesUtf8 normalized)
  else "fnv1a:" ++ fnv1aHex normalized

/-- The key of a call; the empty text if it has none. -/
def makeOperationRequestKey (digest : SealDigest) (call : SealCall) : String :=
  let thresholdSessionId := trim call.request.thresholdSessionId
  let userId := trim call.auth.userId
  let ciphertext := trim call.request.ciphertext
  if thresholdSessionId = "" ∨ userId = "" ∨ ciphertext = "" then ""
  else
    let keyVersion := trim (call.request.keyVersion.getD "")
    let operation := match call.operation with
      | .applyServerSeal => "apply"
      | .removeServerSeal => "remove"
    let ciphertextHash := hashCiphertextForIdempotency digest call.digestAvailable ciphertext
    if ciphertextHash = "" then ""
    else String.intercalate ":" ["signing-session-seal", operation, userId,
      thresholdSessionId, if keyVersion = "" then "_" else keyVersion, ciphertextHash]

/-! ## The idempotency store -/

structure IdempotencyEntry where
  result : SigningSessionSealRouteResult
  expiresAtMs : ℕ

abbrev IdempotencyStore : Type := Dict String IdempotencyEntry

variable (entries : IdempotencyStore)

def trimExpired (nowMs : ℕ) : IdempotencyStore :=
  entries.filter fun entry => decide (nowMs < entry.expiresAtMs)

/-- Looks a key up, after the expired entries have been dropped. -/
def IdempotencyStore.get (key : String) (nowMs : ℕ) :
    Option SigningSessionSealRouteResult × IdempotencyStore :=
  let entries := trimExpired entries nowMs
  let key := trim key
  if key = "" then (none, entries)
  else match entries.get? key with
    | none => (none, entries)
    | some entry =>
      if entry.expiresAtMs ≤ nowMs then (none, entries.delete key)
      else (some entry.result, entries)

def IdempotencyStore.put (key : String) (result : SigningSessionSealRouteResult) (expiresAtMs : ℕ) :
    IdempotencyStore :=
  let key := trim key
  if key = "" then entries
  else if expiresAtMs = 0 then entries
  else entries.set key { result, expiresAtMs }

def replayableErrorCodes : List String :=
  ["expired", "exhausted", "forbidden", "not_found", "invalid_ciphertext", "invalid_key_version"]

def shouldPersistIdempotentResult : SigningSessionSealRouteResult → Bool
  | .ok _ _ _ => true
  | .failure code _ => replayableErrorCodes.contains (trim code)

/-- The options of the service: without a lifetime it has no idempotency store. -/
structure SealOptions where
  idempotencyTtlMs : Option (Option ℕ)

def SealOptions.hasStore (options : SealOptions) : Bool :=
  options.idempotencyTtlMs.isSome

/-- The lifetime of a stored result; zero and an absent value mean the default. -/
def SealOptions.ttlMs (options : SealOptions) : ℕ :=
  match options.idempotencyTtlMs with
  | some (some (ttl + 1)) => ttl + 1
  | _ => 90000

/-! ## One operation -/

def isExpired (session : SigningSessionSealAuthorizationSessionRecord) (nowMs : ℕ) : Bool :=
  match session.expiresAtMs with
  | none => true
  | some expiresAtMs => decide (expiresAtMs ≤ nowMs)

/-- The checks an operation makes before it asks the guard. -/
def checkSession (call : SealCall) (nowMs : ℕ) : Option SigningSessionSealRouteResult :=
  if call.auth.session.thresholdSessionId ≠ call.request.thresholdSessionId then
    some (.failure "forbidden" "Wallet Session does not match requested thresholdSessionId")
  else if call.auth.session.userId ≠ call.auth.userId then
    some (.failure "forbidden" "thresholdSessionId does not belong to authenticated user")
  else if isExpired call.auth.session nowMs then
    some (.failure "expired" "threshold session expired")
  else none

/-- What the guard and the cipher come to. -/
inductive SealOutcome where
  | guardRefused (code message : String)
  | cipherFailed (code message : String)
  | threw (message : String)
  | sealed (ciphertext : String) (keyVersion : Option String)

def sealResult (call : SealCall) : SealOutcome → SigningSessionSealRouteResult
  | .guardRefused code message =>
    .failure (toCode code "forbidden") (toMessage message "Request rejected")
  | .cipherFailed code message =>
    .failure (toCode code "internal") (toMessage message "Signing-session seal operation failed")
  | .threw message => .failure "internal" (toMessage message "Internal error")
  | .sealed ciphertext keyVersion =>
    let keyVersion := match keyVersion with
      | some version => if version = "" then call.request.keyVersion else some version
      | none => call.request.keyVersion
    .ok ciphertext keyVersion call.auth.session.expiresAtMs

/-! ## Overlapping calls -/

inductive SealPhase where
  /-- for the digest of its ciphertext -/
  | keying
  /-- for the answer of the store -/
  | lookingUp (replay : Option SigningSessionSealRouteResult)
  /-- for the guard and the cipher -/
  | running
  /-- for the audit, with the result at hand -/
  | finishing (result : SigningSessionSealRouteResult)
  /-- for its own task to settle -/
  | settling (result : SigningSessionSealRouteResult)
  /-- for the task of another call -/
  | joined (owner : ℕ)
  | answered (result : SigningSessionSealRouteResult)
  deriving DecidableEq

structure CallState where
  call : SealCall
  arrivedAtMs : ℕ
  phase : SealPhase
  deriving DecidableEq

/-- The state of the service. `sealedBy` records which call the cipher computed each
successful result for; no step reads it. -/
structure SealState where
  nowMs : ℕ
  calls : List CallState
  singleFlight : Dict String ℕ
  store : IdempotencyStore
  sealedBy : List (ℕ × SigningSessionSealRouteResult)

def SealState.initial : SealState :=
  { nowMs := 0, calls := [], singleFlight := Dict.empty, store := Dict.empty, sealedBy := [] }

def SealState.setPhase (state : SealState) (i : ℕ) (phase : SealPhase) : SealState :=
  { state with calls := state.calls.modify i fun entry => { entry with phase } }

inductive SealEvent where
  | elapse (ms : ℕ)
  | arrive (call : SealCall)
  | lookUp (i : ℕ) (storeFails : Bool)
  | proceed (i : ℕ)
  | finish (i : ℕ) (outcome : SealOutcome)
  | persist (i : ℕ) (storeFails : Bool)
  | settle (i : ℕ)
  | follow (i : ℕ)

section Steps

variable (digest : SealDigest) (options : SealOptions) (state : SealState)

/-- `tryReplayIdempotentResult` of the call with this key. -/
def tryReplay (key : String) (storeFails : Bool) :
    Option SigningSessionSealRouteResult × IdempotencyStore :=
  if !options.hasStore || key = "" || storeFails then (none, state.store)
  else state.store.get key state.nowMs

/-- `tryPersistIdempotentResult` of a result that is to be kept. -/
def tryPersist (key : String) (result : SigningSessionSealRouteResult) (storeFails : Bool) :
    IdempotencyStore :=
  if !options.hasStore || key = "" || storeFails then state.store
  else state.store.put key result (state.nowMs + options.ttlMs)

/-- Starts the operation of a call: the session is checked at once. -/
def runSealOperation (i : ℕ) (call : SealCall) : SealState :=
  match checkSession call state.nowMs with
  | some result => state.setPhase i (.finishing result)
  | none => state.setPhase i .running

/-- One step of the service; a step that is not due is none. -/
def step : SealEvent → Option SealState
  | .elapse ms => some { state with nowMs := state.nowMs + ms }
  | .arrive call =>
    some { state with
      calls := state.calls ++ [{ call, arrivedAtMs := state.nowMs, phase := .keying }] }
  | .lookUp i storeFails =>
    match state.calls[i]? with
    | some { call, phase := .keying, .. } =>
      let key := makeOperationRequestKey digest call
      let (replay, store) := tryReplay options state key storeFails
      some ({ state with store }.setPhase i (.lookingUp replay))
    | _ => none
  | .proceed i =>
    match state.calls[i]? with
    | some { call, phase := .lookingUp replay, .. } =>
      match replay with
      | some result => some (state.setPhase i (.answered result))
      | none =>
        let key := makeOperationRequestKey digest call
        if key = "" then some (runSealOperation state i call)
        else match state.singleFlight.get? key with
          | some owner => some (state.setPhase i (.joined owner))
          | none =>
            some (runSealOperation
              { state with singleFlight := state.singleFlight.set key i } i call)
    | _ => none
  | .finish i outcome =>
    match state.calls[i]? with
    | some { call, phase := .running, .. } =>
      let result := sealResult call outcome
      let sealedBy := match result with
        | .ok _ _ _ => (i, result) :: state.sealedBy
        | .failure _ _ => state.sealedBy
      some ({ state with sealedBy }.setPhase i (.finishing result))
    | _ => none
  | .persist i storeFails =>
    match state.calls[i]? with
    | some { call, phase := .finishing result, .. } =>
      let key := makeOperationRequestKey digest call
      let store :=
        if shouldPersistIdempotentResult result then
          tryPersist options state key result storeFails
        else state.store
      some ({ state with store }.setPhase i (.settling result))
    | _ => none
  | .settle i =>
    match state.calls[i]? with
    | some { call, phase := .settling result, .. } =>
      let key := makeOperationRequestKey digest call
      let singleFlight :=
        if key = "" then state.singleFlight else state.singleFlight.delete key
      some ({ state with singleFlight }.setPhase i (.answered result))
    | _ => none
  | .follow i =>
    match state.calls[i]? with
    | some { phase := .joined owner, .. } =>
      match state.calls[owner]? with
      | some { phase := .answered result, .. } =>
        some (state.setPhase i (.answered result))
      | _ => none
    | _ => none

inductive SealReachable : SealState → Prop
  | initial : SealReachable .initial
  | step {state state' : SealState} {event : SealEvent} :
      SealReachable state → step digest options state event = some state' →
      SealReachable state'

end Steps

end SeamsWallet.SessionSeal
