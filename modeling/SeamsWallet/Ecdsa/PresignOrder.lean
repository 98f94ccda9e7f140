import SeamsWallet.Ecdsa.PresignSession

/-!
# A presign session runs its rounds once and in order

Whatever calls are made on a session, with whatever bytes, the frames it hands
out are its own rounds in order, the two presign rounds come after the presign
phase was started, the presignature is taken at most once, and nothing new comes
out of a session after a step has failed.

`Position` says for each state how many rounds have been queued, how many peer
frames were accepted and how often the presignature was taken; a step moves it,
and `Tracks` carries it along every run.
-/

namespace SeamsWallet.PresignSession

open Library EcdsaPresign SessionAnswer PresignSession

/-! ## What a run shows -/

namespace SessionAnswer

variable {D : PresignDriver} {Stored : Type}

def polled : SessionAnswer D Stored → List (List UInt8)
  | .poll progress => progress.outgoing
  | _ => []

def isAccepted : SessionAnswer D Stored → Bool
  | .message (.ok _) => true
  | _ => false

def isStarted : SessionAnswer D Stored → Bool
  | .startPresign (.ok _) => true
  | _ => false

def isTaken : SessionAnswer D Stored → Bool
  | .takePresignature (.ok _) | .takePresignature97 (.ok _) => true
  | _ => false

def isFailed : SessionAnswer D Stored → Bool
  | .message (.error _) | .startPresign (.error _) => true
  | _ => false

end SessionAnswer

section Log

variable {D : PresignDriver} {Stored : Type} (log : List (SessionCall D × SessionAnswer D Stored))

def polledFrames : List (List UInt8) :=
  log.flatMap fun event => event.2.polled

def acceptedFrames : ℕ :=
  log.countP fun event => event.2.isAccepted

def presignaturesTaken : ℕ :=
  log.countP fun event => event.2.isTaken

/-- The presign phase was started after nine accepted peer frames. -/
def StartedAfterNine : Prop :=
  ∃ before event after, log = before ++ event :: after ∧ event.2.isStarted = true ∧
    acceptedFrames before = 9

theorem StartedAfterNine.snoc {log : List (SessionCall D × SessionAnswer D Stored)}
    (h : StartedAfterNine log) (event : SessionCall D × SessionAnswer D Stored) :
    StartedAfterNine (log ++ [event]) := by
  obtain ⟨before, start, after, rfl, hstart, hnine⟩ := h
  exact ⟨before, start, after ++ [event], by simp, hstart, hnine⟩

variable (event : SessionCall D × SessionAnswer D Stored)

@[simp] theorem polledFrames_snoc :
    polledFrames (log ++ [event]) = polledFrames log ++ event.2.polled := by
  simp [polledFrames]

@[simp] theorem acceptedFrames_snoc :
    acceptedFrames (log ++ [event]) = acceptedFrames log + event.2.isAccepted.toNat := by
  cases h : event.2.isAccepted <;> simp [acceptedFrames, h]

@[simp] theorem presignaturesTaken_snoc : presignaturesTaken (log ++ [event]) =
      presignaturesTaken log + event.2.isTaken.toNat := by
  cases h : event.2.isTaken <;> simp [presignaturesTaken, h]

end Log

/-! ## One step -/

section Step

variable {D : PresignDriver} {Stored : Type} (role : FixedRole)

/-- The numbers of queued rounds, accepted peer frames and taken presignatures in
each state. A poisoned session only keeps the bounds. -/
def Position (sent accepted taken : ℕ) : SessionState D Stored → Prop
  | .round1 _ => sent = 1 ∧ accepted = 0 ∧ taken = 0
  | .round2 _ => sent = 2 ∧ accepted = 1 ∧ taken = 0
  | .round3 _ => sent = 3 ∧ accepted = 2 ∧ taken = 0
  | .round4 _ => sent = 4 ∧ accepted = 3 ∧ taken = 0
  | .round5 _ => sent = 5 ∧ accepted = 4 ∧ taken = 0
  | .round6 _ => sent = 6 ∧ accepted = 5 ∧ taken = 0
  | .round7 _ => sent = 7 ∧ accepted = 6 ∧ taken = 0
  | .round8 _ => sent = 8 ∧ accepted = 7 ∧ taken = 0
  | .round9 _ => sent = 9 ∧ accepted = 8 ∧ taken = 0
  | .triplesDone _ bytes => (sent = 9 ∧ accepted = 9 ∧ taken = 0) ∧ IsFrame role 10 bytes
  | .round10 _ => sent = 10 ∧ accepted = 9 ∧ taken = 0
  | .round11 _ => sent = 11 ∧ accepted = 10 ∧ taken = 0
  | .done (some _) => sent = 11 ∧ accepted = 11 ∧ taken = 0
  | .done none => sent = 11 ∧ accepted = 11 ∧ taken = 1
  | .poisoned => sent ≤ 11 ∧ taken ≤ 1 ∧ (taken = 1 → accepted = 11)

variable {sent accepted : ℕ} {state : SessionState D Stored}

theorem Position.bounds {taken : ℕ} (h : Position role sent accepted taken state) :
    sent ≤ 11 ∧ taken ≤ 1 ∧ (taken = 1 → accepted = 11) := by
  cases state with
  | poisoned => exact h
  | triplesDone state bytes =>
    obtain ⟨rfl, rfl, rfl⟩ := h.1
    omega
  | done output =>
    cases output with
    | none | some output =>
      obtain ⟨rfl, rfl, rfl⟩ := h
      omega
  | _ =>
    obtain ⟨rfl, rfl, rfl⟩ := h
    omega

variable {encoded : List UInt8} {rng : D.Rng}

theorem isFrame_of_receiveRound {round : ℕ} {state : D.State round} {next : D.State (round + 1)}
    {bytes : List UInt8} (h : receiveRound D role round state encoded rng = .ok (next, bytes)) :
    IsFrame role (round + 1) bytes := by
  simp only [receiveRound, ok_iff] at h
  obtain ⟨peer, -, ⟨next', message⟩, -, bytes', hbytes, hpair⟩ := h
  cases hpair
  rw [encodePresignMessage, mapError_eq_ok] at hbytes
  exact isFrame_of_encodeRound hbytes

/-- An accepted peer frame moves the session one round on: it queues the next round's
frame, except before the pause and at the end. -/
theorem advance_position {round10Event : PresignSessionEvent} {store : D.Output → Stored}
    {next : SessionState D Stored} {outgoing : Option (List UInt8)} {event : PresignSessionEvent}
    {taken : ℕ}
    (h : advance D role round10Event store state encoded rng = .ok (next, outgoing, event))
    (hposition : Position role sent accepted taken state) :
    ∃ count, Position role (sent + count) (accepted + 1) taken next ∧
      List.Forall₂ (IsFrame role) (List.range' (sent + 1) count) outgoing.toList ∧
      (10 ≤ sent + count → 10 ≤ sent) := by
  cases state with
  | round1 state | round2 state | round3 state | round4 state | round5 state
  | round6 state | round7 state | round8 state | round10 state =>
    simp only [advance, ok_iff] at h
    obtain ⟨⟨next', bytes⟩, hround, hpair⟩ := h
    cases hpair
    obtain ⟨rfl, rfl, rfl⟩ := hposition
    exact ⟨1, ⟨rfl, rfl, rfl⟩, .cons (isFrame_of_receiveRound role hround) .nil, by omega⟩
  | round9 state =>
    simp only [advance, ok_iff] at h
    obtain ⟨⟨next', bytes⟩, hround, hpair⟩ := h
    cases hpair
    obtain ⟨rfl, rfl, rfl⟩ := hposition
    exact ⟨0, ⟨⟨rfl, rfl, rfl⟩, isFrame_of_receiveRound role hround⟩, .nil, by omega⟩
  | round11 state =>
    simp only [advance, ok_iff] at h
    obtain ⟨output, -, hpair⟩ := h
    cases hpair
    obtain ⟨rfl, rfl, rfl⟩ := hposition
    exact ⟨0, ⟨rfl, rfl, rfl⟩, .nil, by omega⟩
  | triplesDone state bytes | done output | poisoned => cases h

end Step

/-! ## Runs -/

section Runs

variable {D : PresignDriver} {Stored : Type}

/-- The order a session keeps from its start on, whatever calls are made. -/
structure OneShotOrder
    (handler : Session D Stored → SessionCall D → SessionAnswer D Stored × Session D Stored)
    (role : FixedRole) (session : Session D Stored) : Prop where
  /-- All polled frames are the role's own rounds `1, 2, …`, each once. -/
  rounds : ∀ calls, ∃ count ≤ 11, List.Forall₂ (IsFrame role) (List.range' 1 count)
    (polledFrames (answers handler session calls))
  /-- The frames of the presign phase come after its start. -/
  presign_rounds : ∀ calls, ∀ frame ∈ polledFrames (answers handler session calls),
    ∀ round, round = 10 ∨ round = 11 → IsFrame role round frame →
    StartedAfterNine (answers handler session calls)
  /-- The presignature is taken once. -/
  taken_once : ∀ calls, presignaturesTaken (answers handler session calls) ≤ 1
  /-- It is taken only after eleven accepted peer frames. -/
  taken_last : ∀ calls, 0 < presignaturesTaken (answers handler session calls) →
    acceptedFrames (answers handler session calls) = 11
  /-- After a refused call only the frames queued before it come out. -/
  after_failure : ∀ before call answer next after,
    handler (stateAfter handler session before) call = (answer, next) →
    answer.isFailed = true →
    polledFrames (answers handler next after) <+: (stateAfter handler session before).outgoing ∧
      presignaturesTaken (answers handler next after) = 0

variable (role : FixedRole)

/-- What a run so far says about the session it has reached. -/
def Tracks (log : List (SessionCall D × SessionAnswer D Stored))
    (session : Session D Stored) : Prop :=
  ∃ sent, Position role sent (acceptedFrames log) (presignaturesTaken log) session.state ∧
    List.Forall₂ (IsFrame role) (List.range' 1 sent) (polledFrames log ++ session.outgoing) ∧
    (10 ≤ sent → StartedAfterNine log)

variable {role} {log : List (SessionCall D × SessionAnswer D Stored)}
  {session : Session D Stored} {event : SessionCall D × SessionAnswer D Stored}
  (h : Tracks role log session)

include h

theorem Tracks.refused (hfailed : event.2.isFailed = true) :
    Tracks role (log ++ [event]) { session with state := .poisoned } := by
  obtain ⟨sent, hposition, hframes, hstarted⟩ := h
  obtain ⟨call, answer⟩ := event
  have hquiet : answer.polled = [] ∧ answer.isAccepted = false ∧ answer.isTaken = false := by
    cases answer with
    | message result | startPresign result => cases result with
      | error error => exact ⟨rfl, rfl, rfl⟩
      | ok _ => cases hfailed
    | poll progress | takePresignature result | takePresignature97 result => cases hfailed
  refine ⟨sent, ?_, ?_, fun h10 => (hstarted h10).snoc _⟩
  · simpa [hquiet, Position] using hposition.bounds
  · simpa [hquiet] using hframes

variable {round10Event : PresignSessionEvent} {store : D.Output → Stored}

theorem Tracks.message (encoded : List UInt8) (rng : D.Rng) : Tracks role
      (log ++ [(.message encoded rng, .message (session.message (advance D role round10Event store)
          encoded rng).1)])
      (session.message (advance D role round10Event store)
        encoded rng).2 := by
  unfold Session.message
  cases hadvance : advance D role round10Event store session.state encoded
      rng with
  | error error => exact h.refused rfl
  | ok result =>
    obtain ⟨next, outgoing, event⟩ := result
    obtain ⟨sent, hposition, hframes, hstarted⟩ := h
    obtain ⟨count, hnext, houtgoing, hten⟩ := advance_position role hadvance hposition
    refine ⟨sent + count, ?_, ?_, fun h10 => (hstarted (hten h10)).snoc _⟩
    · simpa [isAccepted, isTaken] using hnext
    · have hall := List.rel_append hframes houtgoing
      rw [← List.range'_append_1, Nat.add_comm 1 sent]
      simpa [polled] using hall

theorem Tracks.startPresign :
    Tracks role (log ++ [(.startPresign, .startPresign session.startPresign.1)])
      session.startPresign.2 := by
  unfold Session.startPresign
  split
  case h_1 state bytes hstate =>
    obtain ⟨sent, hposition, hframes, hstarted⟩ := h
    rw [hstate] at hposition
    obtain ⟨⟨rfl, haccepted, htaken⟩, hframe⟩ := hposition
    refine ⟨10, ?_, ?_, fun _ => ?_⟩
    · simpa [isAccepted, isTaken, Position] using ⟨haccepted, htaken⟩
    · have hall := List.rel_append hframes
        (.cons hframe .nil : List.Forall₂ (IsFrame role) [10] [bytes])
      change List.Forall₂ (IsFrame role) (List.range' 1 9 ++ [10]) _
      simpa [polled] using hall
    · exact ⟨log, _, [], rfl, rfl, haccepted⟩
  case h_2 => exact h.refused rfl

theorem Tracks.poll : Tracks role (log ++ [(.poll, .poll session.poll.1)]) session.poll.2 := by
  obtain ⟨sent, hposition, hframes, hstarted⟩ := h
  refine ⟨sent, ?_, ?_, fun h10 => (hstarted h10).snoc _⟩
  · simpa [isAccepted, isTaken, Session.poll] using hposition
  · simpa [polled, Session.poll] using hframes

theorem Tracks.take (hpolled : event.2.polled = []) (haccepted : event.2.isAccepted = false)
    (htaken : event.2.isTaken = session.takePresignature.1.isOk) :
    Tracks role (log ++ [event]) session.takePresignature.2 := by
  obtain ⟨sent, hposition, hframes, hstarted⟩ := h
  revert htaken
  unfold Session.takePresignature
  split
  case h_1 output hstate =>
    intro htaken
    rw [hstate] at hposition
    obtain ⟨rfl, hnine, hzero⟩ := hposition
    refine ⟨11, ?_, by simpa [hpolled] using hframes, fun h10 => (hstarted h10).snoc _⟩
    simp [Position, haccepted, htaken, hnine, hzero, Except.isOk, Except.toBool]
  case h_2 =>
    intro htaken
    refine ⟨sent, ?_, by simpa [hpolled] using hframes, fun h10 => (hstarted h10).snoc _⟩
    simpa [haccepted, htaken, Except.isOk, Except.toBool] using hposition

variable {session' : Session D Stored} {toBytes : Stored → List UInt8}

theorem Tracks.step (hstep : Answers (handle (advance D role round10Event store) toBytes) session
      event session') :
    Tracks role (log ++ [event]) session' := by
  obtain ⟨call, answer⟩ := event
  cases call with
  | message encoded rng =>
    cases hstep
    exact h.message encoded rng
  | startPresign =>
    cases hstep
    exact h.startPresign
  | poll =>
    cases hstep
    exact h.poll
  | takePresignature | takePresignature97 =>
    cases hstep
    exact h.take rfl rfl (by unfold Session.takePresignature; split <;> rfl)

omit h

variable {input : D.Input} {rng : D.Rng}

theorem tracks_new (h : Session.new D Stored role input rng = .ok session) :
    Tracks role [] session := by
  simp only [Session.new, ok_iff] at h
  obtain ⟨⟨state, message⟩, -, bytes, hbytes, rfl⟩ := h
  rw [encodePresignMessage, mapError_eq_ok] at hbytes
  exact ⟨1, ⟨rfl, rfl, rfl⟩, .cons (isFrame_of_encodeRound hbytes) .nil, by omega⟩

theorem ten_le_of_isFrame {sent : ℕ} {frames : List (List UInt8)}
    (h : List.Forall₂ (IsFrame role) (List.range' 1 sent) frames) (hsent : sent ≤ 11)
    {bytes : List UInt8} (hmem : bytes ∈ frames) {round : ℕ}
    (hround : round = 10 ∨ round = 11) (hframe : IsFrame role round bytes) :
    10 ≤ sent := by
  obtain ⟨⟨i, hi⟩, rfl⟩ := List.mem_iff_get.mp hmem
  have hlength : i < sent := by
    have := h.length_eq
    rw [List.length_range'] at this
    omega
  have hown : IsFrame role (1 + i) (frames.get ⟨i, hi⟩) := by
    have hget := h.get (by simpa using hlength) hi
    simpa using hget
  have heq := congrArg UInt8.toNat (hown.round_eq hframe)
  rw [UInt8.toNat_ofNat', UInt8.toNat_ofNat'] at heq
  omega

/-- The queue and the frames polled from a session that has failed. -/
def Exhausts (queue : List (List UInt8))
    (log : List (SessionCall D × SessionAnswer D Stored)) (session : Session D Stored) :
    Prop :=
  session.state = .poisoned ∧ polledFrames log ++ session.outgoing = queue ∧
    presignaturesTaken log = 0

/-- A poisoned session refuses every call but the poll, which empties its queue. -/
theorem Exhausts.step {queue : List (List UInt8)} (h : Exhausts queue log session)
    (hstep : Answers (handle (advance D role round10Event store) toBytes) session
      event session') :
    Exhausts queue (log ++ [event]) session' := by
  obtain ⟨state, outgoing, sessionEvent⟩ := session
  obtain ⟨rfl, hqueue, htaken⟩ := h
  obtain ⟨call, answer⟩ := event
  cases call with
  | message encoded rng | startPresign | poll | takePresignature | takePresignature97 =>
    cases hstep
    refine ⟨rfl, ?_, ?_⟩
    · simpa [polled] using hqueue
    · simpa [isTaken, Except.map] using htaken

/-- Along every run a poisoned session hands out its queue and nothing else. -/
theorem exhausts_of_poisoned (hstate : session.state = .poisoned) (calls : List (SessionCall D)) :
    Exhausts session.outgoing (answers (handle (advance D role round10Event store) toBytes)
        session calls)
      (stateAfter (handle (advance D role round10Event store) toBytes)
        session calls) := by
  refine (run_answers _ calls session).invariant (Exhausts session.outgoing) ⟨hstate, rfl, rfl⟩ ?_
  intro log s event s' _ hexhausts hstep
  exact hexhausts.step hstep

theorem eq_poisoned_of_isFailed {call : SessionCall D} {answer : SessionAnswer D Stored}
    {next : Session D Stored}
    (h : handle (advance D role round10Event store) toBytes session call = (answer, next))
    (hfailed : answer.isFailed = true) : next = { session with state := .poisoned } := by
  cases call with
  | message encoded rng =>
    simp only [handle, Session.message] at h
    split at h <;> cases h
    · rfl
    · cases hfailed
  | startPresign =>
    simp only [handle, Session.startPresign] at h
    split at h <;> cases h
    · cases hfailed
    · rfl
  | poll | takePresignature | takePresignature97 =>
    cases h
    cases hfailed

theorem oneShotOrder_of_new (h : Session.new D Stored role input rng = .ok session) :
    OneShotOrder (handle (advance D role round10Event store) toBytes) role
      session := by
  generalize hhandler : handle (advance D role round10Event store) toBytes = handler
  have htracks (calls : List (SessionCall D)) : Tracks role
      (answers handler session calls) (stateAfter handler session calls) := by
    refine (run_answers handler calls session).invariant (Tracks role) (tracks_new h) ?_
    intro log s event s' _ htracks hstep
    subst hhandler
    exact htracks.step hstep
  constructor
  case rounds =>
    intro calls
    obtain ⟨sent, hposition, hframes, -⟩ := htracks calls
    have hle : (polledFrames (answers handler session calls)).length ≤ sent := by
      have := hframes.length_eq
      rw [List.length_range', List.length_append] at this
      omega
    refine ⟨_, hle.trans hposition.bounds.1, ?_⟩
    rw [← List.take_range'_of_length_ge hle]
    exact List.forall₂_take_append _ _ _ hframes
  case presign_rounds =>
    intro calls frame hmem round hround hframe
    obtain ⟨sent, hposition, hframes, hstarted⟩ := htracks calls
    exact hstarted (ten_le_of_isFrame hframes hposition.bounds.1
      (List.mem_append_left _ hmem) hround hframe)
  case taken_once =>
    intro calls
    obtain ⟨sent, hposition, -, -⟩ := htracks calls
    exact hposition.bounds.2.1
  case taken_last =>
    intro calls htaken
    obtain ⟨sent, hposition, -, -⟩ := htracks calls
    obtain ⟨-, honce, hlast⟩ := hposition.bounds
    exact hlast (le_antisymm honce htaken)
  case after_failure =>
    intro before call answer next after hanswer hfailed
    generalize stateAfter handler session before = met at hanswer
    subst hhandler
    obtain rfl := eq_poisoned_of_isFailed hanswer hfailed
    have hpoisoned : ({ met with state := .poisoned } : Session D Stored).state = .poisoned := rfl
    obtain ⟨-, hqueue, htaken⟩ := exhausts_of_poisoned hpoisoned after
    exact ⟨⟨_, hqueue⟩, htaken⟩

end Runs

/-- **A presign session of either role is one-shot and ordered,** whatever calls are
made on it after its creation. -/
theorem presign_session_one_shot (D : PresignDriver) (input : D.Input) (rng : D.Rng) :
    (∀ session, Session.new D D.Output .client input rng = .ok session →
      OneShotOrder (handleClient D) .client session) ∧
    (∀ session, Session.new D (List UInt8) .signingWorker input rng = .ok session →
      OneShotOrder (handleSigningWorker D) .signingWorker session) := by
  constructor
  · intro session h
    exact oneShotOrder_of_new h
  · intro session h
    exact oneShotOrder_of_new h

/-- A driver whose messages are empty of content: every body is zero bytes. -/
def zeroDriver : PresignDriver where
  Rng := Unit
  Input := Unit
  State _ := Unit
  OwnMessage _ := Unit
  PeerMessage _ := Unit
  Output := Unit
  DriverError := Unit
  start _ _ := .ok ((), ())
  receive _ _ _ _ := .ok ((), ())
  finish _ _ := .ok ()
  writeBody round _ := .ok (List.replicate (payloadSize round) 0)
  readBody _ _ := .ok ()
  outputBytes _ := List.replicate 97 0

theorem exists_new_zeroDriver (Stored : Type) (role : FixedRole) :
    ∃ session, Session.new zeroDriver Stored role () () = .ok session := by
  have hlength : ¬ ((frame (roleByte role) (UInt8.ofNat 1) (payloadSize 1) ++
      List.replicate (payloadSize 1) 0).length ≠ headerSize + payloadSize 1 ∨
      (frame (roleByte role) (UInt8.ofNat 1) (payloadSize 1) ++
        List.replicate (payloadSize 1) 0).length > maxPresignFrameSize) := by
    have hle := payloadSize_le 1
    simp only [frame, magic, headerSize, maxPresignFrameSize, List.length_append,
      List.length_cons, List.length_nil, List.Vector.toList_length, List.length_replicate]
    omega
  simp only [Session.new, zeroDriver, encodePresignMessage, encodeRound, ok_bind,
    mapError_ok, finishFrame, if_neg hlength]
  exact ⟨_, rfl⟩

/-- Over that driver a session of either role is created, and both keep the order. -/
theorem presign_session_one_shot_zeroDriver : ∃ client worker,
      Session.new zeroDriver zeroDriver.Output .client () () = .ok client ∧
      Session.new zeroDriver (List UInt8) .signingWorker () () = .ok worker ∧
      OneShotOrder (handleClient zeroDriver) .client client ∧
      OneShotOrder (handleSigningWorker zeroDriver) .signingWorker worker := by
  obtain ⟨client, hclient⟩ := exists_new_zeroDriver zeroDriver.Output .client
  obtain ⟨worker, hworker⟩ := exists_new_zeroDriver (List UInt8) .signingWorker
  exact ⟨client, worker, hclient, hworker,
    (presign_session_one_shot zeroDriver () ()).1 client hclient,
    (presign_session_one_shot zeroDriver () ()).2 worker hworker⟩

end SeamsWallet.PresignSession
