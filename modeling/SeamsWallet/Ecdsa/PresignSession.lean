import SeamsWallet.Ecdsa.Presign
import SeamsWallet.Library.Run

/-!
# Presign sessions

A presign session of either role drives eleven rounds over encoded frames: it
decodes the peer's frame of the round it is in, lets the driver answer, encodes
the answer as its own frame of the next round and queues it. After nine rounds
it pauses until the presign phase is started. Every step first replaces the
state by `poisoned`, so a step that fails leaves nothing to continue from.

The frame header is modelled as the codec writes and checks it. The driver of
the rounds and the message bodies are arbitrary functions.
-/

namespace SeamsWallet.PresignSession

open Library EcdsaPresign

/-! ## Frames -/

inductive PresignCodecError where
  | frameTooShort
  | invalidMagic
  | unsupportedVersion
  | unexpectedSenderRole
  | unexpectedRound
  | nonZeroFlags
  | payloadTooLarge
  | lengthMismatch
  | invalidMessageBinding
  | invalidBody
  deriving DecidableEq

def magic : List UInt8 := [0x52, 0x41, 0x45, 0x50]

def version : UInt8 := 1

def roleByte : FixedRole → UInt8
  | .client => 1
  | .signingWorker => 2

def headerSize : ℕ := 12

def contextSize : ℕ := 64

def openingSize : ℕ := 5 * 33 + 32

def tripleContributionSize : ℕ := 7 * 33 + 5 * 32

def payloadSize : ℕ → ℕ
  | 1 => contextSize + 2 * 32 + 33
  | 2 => contextSize + 2 * openingSize + 2 * (2 * 32) + 128 * 33
  | 3 => contextSize + 1024 * 16
  | 4 => contextSize + 32
  | 5 => contextSize + 32 + 128 * 32
  | 6 => contextSize + 32
  | 7 => contextSize + 2 * 384 * 2 * 32
  | 8 => contextSize + 4 * 32
  | 9 => contextSize + 2 * tripleContributionSize
  | 10 => contextSize + 32
  | 11 => contextSize + 2 * 32
  | _ => 0

def maxPresignFrameSize : ℕ := headerSize + payloadSize 7

def frame (role round : UInt8) (payloadSize : ℕ) : List UInt8 :=
  magic ++ [version, role, round, 0] ++ (toBigEndian 4 payloadSize).toList

def finishFrame (output : List UInt8) (payloadSize : ℕ) : Except PresignCodecError (List UInt8) :=
  if output.length ≠ headerSize + payloadSize ∨ output.length > maxPresignFrameSize then
    .error .lengthMismatch
  else .ok output

def decodeFrame (encoded : List UInt8) (expectedRole expectedRound : UInt8)
    (expectedPayloadSize : ℕ) : Except PresignCodecError (List UInt8) := do
  ensure (headerSize ≤ encoded.length) .frameTooShort
  ensure (encoded.take 4 = magic) .invalidMagic
  ensure (encoded[4]? = some version) .unsupportedVersion
  ensure (encoded[5]? = some expectedRole) .unexpectedSenderRole
  ensure (encoded[6]? = some expectedRound) .unexpectedRound
  ensure (encoded[7]? = some 0) .nonZeroFlags
  let payloadSize' := ofBigEndian ((encoded.drop 8).take 4)
  ensure (payloadSize' ≤ payloadSize 7 ∧ encoded.length ≤ maxPresignFrameSize)
    .payloadTooLarge
  ensure (payloadSize' = expectedPayloadSize ∧ encoded.length = headerSize + payloadSize')
    .lengthMismatch
  return encoded.drop headerSize

def encodeRound (role : FixedRole) (round : ℕ) (body : Except PresignCodecError (List UInt8)) :
    Except PresignCodecError (List UInt8) := do
  let payload ← body
  finishFrame (frame (roleByte role) (UInt8.ofNat round) (payloadSize round) ++ payload)
    (payloadSize round)

/-- The bytes are a well-formed frame of the role's round. -/
def IsFrame (role : FixedRole) (round : ℕ) (bytes : List UInt8) : Prop :=
  ∃ payload, decodeFrame bytes (roleByte role) (UInt8.ofNat round) (payloadSize round) = .ok payload

theorem payloadSize_le (round : ℕ) : payloadSize round ≤ payloadSize 7 := by
  unfold payloadSize
  split <;> decide

variable {round : ℕ}

theorem isFrame_of_encodeRound {role : FixedRole} {body : Except PresignCodecError (List UInt8)}
    {bytes : List UInt8} (h : encodeRound role round body = .ok bytes) :
    IsFrame role round bytes := by
  rw [encodeRound, bind_eq_ok] at h
  obtain ⟨payload, -, hfinish⟩ := h
  unfold finishFrame at hfinish
  split at hfinish
  · cases hfinish
  · rename_i hlength
    push Not at hlength
    obtain rfl := Except.ok.inj hfinish
    have hsize : ofBigEndian (toBigEndian 4 (payloadSize round)).toList = payloadSize round := by
      apply ofBigEndian_toBigEndian_of_lt
      exact lt_of_le_of_lt (payloadSize_le round) (by decide)
    have hfield : (((frame (roleByte role) (UInt8.ofNat round) (payloadSize round) ++
        payload).drop 8).take 4) = (toBigEndian 4 (payloadSize round)).toList := by
      simp [frame, magic]
    refine ⟨(frame (roleByte role) (UInt8.ofNat round) (payloadSize round) ++
      payload).drop headerSize, ?_⟩
    simp only [decodeFrame, ok_iff, hfield, hsize]
    exact ⟨by omega, rfl, rfl, rfl, rfl, rfl, ⟨payloadSize_le round, hlength.2⟩,
      ⟨trivial, hlength.1⟩, trivial⟩

theorem IsFrame.round_eq {role : FixedRole} {round' : ℕ} {bytes : List UInt8}
    (h : IsFrame role round bytes) (h' : IsFrame role round' bytes) :
    UInt8.ofNat round = UInt8.ofNat round' := by
  have hbyte {k : ℕ} (hk : IsFrame role k bytes) : bytes[6]? = some (UInt8.ofNat k) := by
    obtain ⟨payload, hpayload⟩ := hk
    simp only [decodeFrame, ok_iff] at hpayload
    exact hpayload.2.2.2.2.1
  exact Option.some.inj ((hbyte h).symm.trans (hbyte h'))

/-! ## The session -/

/-- The driver of a role's rounds, with the writers and readers of the message
bodies. Each round has its own state and messages. -/
structure PresignDriver where
  Rng : Type
  Input : Type
  State : ℕ → Type
  OwnMessage : ℕ → Type
  PeerMessage : ℕ → Type
  Output : Type
  DriverError : Type
  start : Input → Rng → Except DriverError (State 1 × OwnMessage 1)
  receive : (round : ℕ) → State round → PeerMessage round → Rng →
    Except DriverError (State (round + 1) × OwnMessage (round + 1))
  finish : State 11 → PeerMessage 11 → Except DriverError Output
  writeBody : (round : ℕ) → OwnMessage round → Except PresignCodecError (List UInt8)
  readBody : (round : ℕ) → List UInt8 → Except PresignCodecError (PeerMessage round)
  outputBytes : Output → List UInt8

inductive PresignSessionStage where
  | triples
  | triplesDone
  | presign
  | done

inductive PresignSessionEvent where
  | none
  | triplesDone
  | finalBatchReady
  | presignDone

structure PresignSessionProgress where
  stage : PresignSessionStage
  event : PresignSessionEvent
  outgoing : List (List UInt8)

inductive PresignSessionError (D : PresignDriver) where
  | invalidState
  | outputUnavailable
  | driver (error : D.DriverError)
  | codec (error : PresignCodecError)

/-- The states of a session; a finished one keeps its output as `Stored`. -/
inductive SessionState (D : PresignDriver) (Stored : Type) where
  | round1 (state : D.State 1)
  | round2 (state : D.State 2)
  | round3 (state : D.State 3)
  | round4 (state : D.State 4)
  | round5 (state : D.State 5)
  | round6 (state : D.State 6)
  | round7 (state : D.State 7)
  | round8 (state : D.State 8)
  | round9 (state : D.State 9)
  | triplesDone (state : D.State 10) (firstPresignMessage : List UInt8)
  | round10 (state : D.State 10)
  | round11 (state : D.State 11)
  | done (output : Option Stored)
  | poisoned

structure Session (D : PresignDriver) (Stored : Type) where
  state : SessionState D Stored
  outgoing : List (List UInt8)
  event : PresignSessionEvent

def peerOf : FixedRole → FixedRole
  | .client => .signingWorker
  | .signingWorker => .client

variable (D : PresignDriver) (role : FixedRole)

def encodePresignMessage (round : ℕ) (message : D.OwnMessage round) :
    Except (PresignSessionError D) (List UInt8) :=
  (encodeRound role round (D.writeBody round message)).mapError .codec

def decodePeerRound (round : ℕ) (encoded : List UInt8) :
    Except (PresignSessionError D) (D.PeerMessage round) :=
  (do
    let payload ← decodeFrame encoded (roleByte (peerOf role)) (UInt8.ofNat round)
      (payloadSize round)
    D.readBody round payload).mapError .codec

def receiveRound (round : ℕ) (state : D.State round) (encoded : List UInt8) (rng : D.Rng) :
    Except (PresignSessionError D) (D.State (round + 1) × List UInt8) := do
  let peer ← decodePeerRound D role round encoded
  let (next, message) ← (D.receive round state peer rng).mapError .driver
  let bytes ← encodePresignMessage D role (round + 1) message
  return (next, bytes)

def receiveLast (state : D.State 11) (encoded : List UInt8) :
    Except (PresignSessionError D) D.Output := do
  let peer ← decodePeerRound D role 11 encoded
  (D.finish state peer).mapError .driver

section Advance

variable (D : PresignDriver) {Stored : Type} (role : FixedRole)
  (round10Event : PresignSessionEvent) (store : D.Output → Stored)

/-- The next state, the frame to queue and the event of an accepted peer frame. The
roles differ in the event of the tenth round and in how the output is kept. -/
def advance (state : SessionState D Stored) (encoded : List UInt8) (rng : D.Rng) :
    Except (PresignSessionError D)
      (SessionState D Stored × Option (List UInt8) × PresignSessionEvent) :=
  match state with
  | .round1 state => do
    let (next, bytes) ← receiveRound D role 1 state encoded rng
    return (.round2 next, some bytes, .none)
  | .round2 state => do
    let (next, bytes) ← receiveRound D role 2 state encoded rng
    return (.round3 next, some bytes, .none)
  | .round3 state => do
    let (next, bytes) ← receiveRound D role 3 state encoded rng
    return (.round4 next, some bytes, .none)
  | .round4 state => do
    let (next, bytes) ← receiveRound D role 4 state encoded rng
    return (.round5 next, some bytes, .none)
  | .round5 state => do
    let (next, bytes) ← receiveRound D role 5 state encoded rng
    return (.round6 next, some bytes, .none)
  | .round6 state => do
    let (next, bytes) ← receiveRound D role 6 state encoded rng
    return (.round7 next, some bytes, .none)
  | .round7 state => do
    let (next, bytes) ← receiveRound D role 7 state encoded rng
    return (.round8 next, some bytes, .none)
  | .round8 state => do
    let (next, bytes) ← receiveRound D role 8 state encoded rng
    return (.round9 next, some bytes, .none)
  | .round9 state => do
    let (next, bytes) ← receiveRound D role 9 state encoded rng
    return (.triplesDone next bytes, none, .triplesDone)
  | .round10 state => do
    let (next, bytes) ← receiveRound D role 10 state encoded rng
    return (.round11 next, some bytes, round10Event)
  | .round11 state => do
    let output ← receiveLast D role state encoded
    return (.done (some (store output)), none, .presignDone)
  | .triplesDone _ _ | .done _ | .poisoned => .error .invalidState

end Advance

def advanceClient : SessionState D D.Output → List UInt8 → D.Rng → Except (PresignSessionError D)
      (SessionState D D.Output × Option (List UInt8) × PresignSessionEvent) :=
  advance D .client .finalBatchReady id

def advanceSigningWorker :
    SessionState D (List UInt8) → List UInt8 → D.Rng → Except (PresignSessionError D)
      (SessionState D (List UInt8) × Option (List UInt8) × PresignSessionEvent) :=
  advance D .signingWorker .none D.outputBytes

namespace Session

variable {D : PresignDriver} {Stored : Type}

def new (D : PresignDriver) (Stored : Type) (role : FixedRole) (input : D.Input)
    (rng : D.Rng) : Except (PresignSessionError D) (Session D Stored) := do
  let (state, message) ← (D.start input rng).mapError .driver
  let bytes ← encodePresignMessage D role 1 message
  return { state := .round1 state, outgoing := [bytes], event := .none }

variable (session : Session D Stored)

def stage : PresignSessionStage :=
  match session.state with
  | .round1 _ | .round2 _ | .round3 _ | .round4 _ | .round5 _ | .round6 _ | .round7 _
  | .round8 _ | .round9 _ => .triples
  | .triplesDone _ _ => .triplesDone
  | .round10 _ | .round11 _ => .presign
  | .done _ | .poisoned => .done

def poll : PresignSessionProgress × Session D Stored :=
  ({ stage := session.stage, event := session.event, outgoing := session.outgoing },
    { session with outgoing := [], event := .none })

def message (advance : SessionState D Stored → List UInt8 → D.Rng → Except (PresignSessionError D)
      (SessionState D Stored × Option (List UInt8) × PresignSessionEvent))
    (session : Session D Stored) (encoded : List UInt8) (rng : D.Rng) :
    Except (PresignSessionError D) Unit × Session D Stored :=
  match advance session.state encoded rng with
  | .error error => (.error error, { session with state := .poisoned })
  | .ok (next, outgoing, event) =>
    (.ok (), { state := next, outgoing := session.outgoing ++ outgoing.toList, event })

def startPresign : Except (PresignSessionError D) Unit × Session D Stored :=
  match session.state with
  | .triplesDone state firstPresignMessage =>
    (.ok (), { session with
      state := .round10 state
      outgoing := session.outgoing ++ [firstPresignMessage] })
  | _ => (.error .invalidState, { session with state := .poisoned })

def takePresignature : Except (PresignSessionError D) Stored × Session D Stored :=
  match session.state with
  | .done (some output) => (.ok output, { session with state := .done none })
  | _ => (.error .outputUnavailable, session)

end Session

/-- The calls of a session. The worker's has only the second form of taking. -/
inductive SessionCall (D : PresignDriver) where
  | message (encoded : List UInt8) (rng : D.Rng)
  | startPresign
  | poll
  | takePresignature
  | takePresignature97

inductive SessionAnswer (D : PresignDriver) (Stored : Type) where
  | message (result : Except (PresignSessionError D) Unit)
  | startPresign (result : Except (PresignSessionError D) Unit)
  | poll (progress : PresignSessionProgress)
  | takePresignature (result : Except (PresignSessionError D) Stored)
  | takePresignature97 (result : Except (PresignSessionError D) (List UInt8))

def handle {D : PresignDriver} {Stored : Type}
    (advance : SessionState D Stored → List UInt8 → D.Rng → Except (PresignSessionError D)
      (SessionState D Stored × Option (List UInt8) × PresignSessionEvent))
    (toBytes : Stored → List UInt8) (session : Session D Stored) :
    SessionCall D → SessionAnswer D Stored × Session D Stored
  | .message encoded rng =>
    let (result, next) := session.message advance encoded rng
    (.message result, next)
  | .startPresign =>
    let (result, next) := session.startPresign
    (.startPresign result, next)
  | .poll =>
    let (progress, next) := session.poll
    (.poll progress, next)
  | .takePresignature =>
    let (result, next) := session.takePresignature
    (.takePresignature result, next)
  | .takePresignature97 =>
    let (result, next) := session.takePresignature
    (.takePresignature97 (result.map toBytes), next)

def handleClient : Session D D.Output → SessionCall D →
    SessionAnswer D D.Output × Session D D.Output :=
  handle (advanceClient D) D.outputBytes

def handleSigningWorker : Session D (List UInt8) → SessionCall D →
    SessionAnswer D (List UInt8) × Session D (List UInt8) :=
  handle (advanceSigningWorker D) id

end SeamsWallet.PresignSession
