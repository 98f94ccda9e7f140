import SeamsWallet.SessionSeal.Service

/-!
# Which seal answers are authorized

A successful answer of the service goes back to a call the cipher ran for, and
that call had passed the session checks. Between the two stands the operation
key: the answer may have been replayed or shared because the keys agree, without
any check of the answered call and without a comparison of the requests.

`Justified` is what the service guarantees on its own. The main theorem adds
what is needed of the calls: those that share a key are authorized themselves and
ask for the same thing. Without it the claim fails, as the run at the end shows.
-/

namespace SeamsWallet.SessionSeal

open Library
open Nonce (trim)

abbrev Request : Type := SealCall × ℕ

def SealState.requests (state : SealState) : List Request :=
  state.calls.map fun entry => (entry.call, entry.arrivedAtMs)

/-- The session of the call is the requested one, belongs to the calling user and was
not expired when the call was made. -/
def Authorized (request : Request) : Prop :=
  request.1.auth.session.thresholdSessionId = request.1.request.thresholdSessionId ∧
    request.1.auth.session.userId = request.1.auth.userId ∧
    isExpired request.1.auth.session request.2 = false

instance (request : Request) : Decidable (Authorized request) :=
  inferInstanceAs (Decidable (_ ∧ _ ∧ _))

/-- Two calls ask for the same operation, for the same user, session and key version,
on the same ciphertext. -/
def SameRequest (call call' : SealCall) : Prop :=
  call.operation = call'.operation ∧ call.auth.userId = call'.auth.userId ∧
    call.request.thresholdSessionId = call'.request.thresholdSessionId ∧
    call.request.keyVersion = call'.request.keyVersion ∧
    call.request.ciphertext = call'.request.ciphertext

instance (call call' : SealCall) : Decidable (SameRequest call call') :=
  inferInstanceAs (Decidable (_ ∧ _ ∧ _ ∧ _ ∧ _))

def SigningSessionSealRouteResult.isOk : SigningSessionSealRouteResult → Bool
  | .ok _ _ _ => true
  | .failure _ _ => false

variable {state : SealState} {result : SigningSessionSealRouteResult}

section Guarantee

variable (digest : SealDigest)

/-- Two calls are looked up under the same key. -/
def SharesKey (call call' : SealCall) : Prop :=
  makeOperationRequestKey digest call ≠ "" ∧
    trim (makeOperationRequestKey digest call) = trim (makeOperationRequestKey digest call')

/-- A result was computed for the call itself or for one that shares its key. -/
def Justified (requests : List Request)
    (sealedBy : List (ℕ × SigningSessionSealRouteResult)) (i : ℕ)
    (result : SigningSessionSealRouteResult) : Prop :=
  ∃ j request request', (j, result) ∈ sealedBy ∧ requests[i]? = some request ∧
    requests[j]? = some request' ∧ (i = j ∨ SharesKey digest request.1 request'.1)

def PhaseOk (requests : List Request)
    (sealedBy : List (ℕ × SigningSessionSealRouteResult)) (i : ℕ) : SealPhase → Prop
  | .keying => True
  | .lookingUp replay => ∀ result, replay = some result → result.isOk = true →
      Justified digest requests sealedBy i result
  | .running => ∃ request, requests[i]? = some request ∧ Authorized request
  | .finishing result => result.isOk = true → (i, result) ∈ sealedBy
  | .settling result | .answered result => result.isOk = true →
      Justified digest requests sealedBy i result
  | .joined owner => ∃ request request', requests[i]? = some request ∧
      requests[owner]? = some request' ∧ SharesKey digest request.1 request'.1

/-- The guarantees of the service in every state. -/
structure SealInvariant (state : SealState) : Prop where
  arrived : ∀ request ∈ state.requests, request.2 ≤ state.nowMs
  computed : ∀ i result, (i, result) ∈ state.sealedBy →
    ∃ request, state.requests[i]? = some request ∧ Authorized request
  stored : ∀ key entry, state.store.get? key = some entry → entry.result.isOk = true →
    ∃ j request, (j, entry.result) ∈ state.sealedBy ∧ state.requests[j]? = some request ∧
      trim (makeOperationRequestKey digest request.1) = key
  flight : ∀ key owner, state.singleFlight.get? key = some owner →
    ∃ request, state.requests[owner]? = some request ∧
      makeOperationRequestKey digest request.1 = key
  phases : ∀ i entry, state.calls[i]? = some entry →
    PhaseOk digest state.requests state.sealedBy i entry.phase

variable {digest}

/-! ## The parts of a step -/

@[simp] theorem requests_setPhase (state : SealState) (i : ℕ) (phase : SealPhase) :
    (state.setPhase i phase).requests = state.requests := by
  unfold SealState.requests SealState.setPhase
  apply List.ext_getElem?
  intro k
  by_cases hk : i = k <;> cases hentry : state.calls[k]? <;>
    simp [hk, hentry]

variable {i : ℕ} {entry : CallState}

theorem requests_of_calls (h : state.calls[i]? = some entry) :
    state.requests[i]? = some (entry.call, entry.arrivedAtMs) := by
  simp [SealState.requests, h]

variable {request : Request} {requests : List Request}

theorem getElem?_append_of_some (h : requests[i]? = some request) (more : List Request) :
    (requests ++ more)[i]? = some request := by
  rw [List.getElem?_append_left (List.getElem?_eq_some_iff.mp h).1, h]

variable {sealedBy sealedBy' : List (ℕ × SigningSessionSealRouteResult)}

theorem Justified.mono (h : Justified digest requests sealedBy i result) (more : List Request)
    (hsealed : sealedBy ⊆ sealedBy') : Justified digest (requests ++ more) sealedBy' i result := by
  obtain ⟨j, request, request', hj, hi, hrequest, hkey⟩ := h
  exact ⟨j, request, request', hsealed hj, getElem?_append_of_some hi more,
    getElem?_append_of_some hrequest more, hkey⟩

variable {phase : SealPhase}

theorem PhaseOk.mono (h : PhaseOk digest requests sealedBy i phase) (more : List Request)
    (hsealed : sealedBy ⊆ sealedBy') :
    PhaseOk digest (requests ++ more) sealedBy' i phase := by
  cases phase with
  | keying => trivial
  | lookingUp replay =>
    intro result hreplay hok
    exact (h result hreplay hok).mono more hsealed
  | running =>
    obtain ⟨request, hrequest, hauthorized⟩ := h
    exact ⟨request, getElem?_append_of_some hrequest more, hauthorized⟩
  | finishing result =>
    intro hok
    exact hsealed (h hok)
  | settling result | answered result =>
    intro hok
    exact (h hok).mono more hsealed
  | joined owner =>
    obtain ⟨request, request', hi, howner, hkey⟩ := h
    exact ⟨request, request', getElem?_append_of_some hi more,
      getElem?_append_of_some howner more, hkey⟩

theorem SealInvariant.setPhase (h : SealInvariant digest state)
    (hphase : PhaseOk digest state.requests state.sealedBy i phase) :
    SealInvariant digest (state.setPhase i phase) := by
  constructor <;> rw [requests_setPhase]
  · exact h.arrived
  · exact h.computed
  · exact h.stored
  · exact h.flight
  · intro k entry hentry
    rw [SealState.setPhase, List.getElem?_modify] at hentry
    obtain ⟨old, hold, rfl⟩ := Option.map_eq_some_iff.mp hentry
    split
    · rename_i hk
      exact hk ▸ hphase
    · exact h.phases k old hold

variable {entries : IdempotencyStore} {nowMs : ℕ} {key : String}

/-- Looking up returns only what is stored under the key, and stores nothing. -/
theorem get_fst (h : (entries.get key nowMs).1 = some result) :
    trim key ≠ "" ∧ ∃ entry, entries.get? (trim key) = some entry ∧ entry.result = result := by
  simp only [IdempotencyStore.get] at h
  repeat' split at h
  all_goals cases h
  rename_i hkey _ entry hentry _
  exact ⟨hkey, entry, (Dict.get?_filter.mp hentry).1, rfl⟩

theorem get_snd {key' : String} {entry : IdempotencyEntry}
    (h : (entries.get key nowMs).2.get? key' = some entry) : entries.get? key' = some entry := by
  simp only [IdempotencyStore.get] at h
  repeat' split at h
  all_goals simp_all [trimExpired, Dict.get?_filter, Dict.get?_delete]

variable {call : SealCall} {arrivedAtMs : ℕ}

theorem authorized_of_checkSession (h : checkSession call nowMs = none)
    (harrived : arrivedAtMs ≤ nowMs) : Authorized (call, arrivedAtMs) := by
  unfold checkSession at h
  split_ifs at h with hsession huser hexpired
  refine ⟨not_not.mp hsession, not_not.mp huser, ?_⟩
  unfold isExpired at hexpired ⊢
  cases hexpires : call.auth.session.expiresAtMs with
  | none => simp [hexpires] at hexpired
  | some expiresAtMs =>
    simp only [hexpires, decide_eq_true_eq, not_le] at hexpired
    simpa using harrived.trans_lt hexpired

theorem isOk_checkSession (h : checkSession call nowMs = some result) : result.isOk = false := by
  unfold checkSession at h
  split_ifs at h <;> cases h <;> rfl

/-! ## Every step keeps the guarantees -/

variable {options : SealOptions} {state state' : SealState} (h : SealInvariant digest state)

include h

theorem SealInvariant.arrive (call : SealCall) : SealInvariant digest { state with
      calls := state.calls ++ [{ call, arrivedAtMs := state.nowMs, phase := .keying }] } := by
  have hrequests : SealState.requests { state with
      calls := state.calls ++ [{ call, arrivedAtMs := state.nowMs, phase := .keying }] } =
      state.requests ++ [(call, state.nowMs)] := by simp [SealState.requests]
  constructor <;> rw [hrequests]
  · intro request hmem
    rcases List.mem_append.mp hmem with hold | hnew
    · exact h.arrived request hold
    · rw [List.mem_singleton.mp hnew]
  · intro i result hmem
    obtain ⟨request, hrequest, hauthorized⟩ := h.computed i result hmem
    exact ⟨request, getElem?_append_of_some hrequest _, hauthorized⟩
  · intro key entry hentry hok
    obtain ⟨j, request, hj, hrequest, hkey⟩ := h.stored key entry hentry hok
    exact ⟨j, request, hj, getElem?_append_of_some hrequest _, hkey⟩
  · intro key owner howner
    obtain ⟨request, hrequest, hkey⟩ := h.flight key owner howner
    exact ⟨request, getElem?_append_of_some hrequest _, hkey⟩
  · intro i entry hentry
    rw [List.getElem?_append] at hentry
    split at hentry
    · exact (h.phases i entry hentry).mono _ (List.Subset.refl _)
    · rw [List.mem_singleton.mp (List.mem_of_getElem? hentry)]
      trivial

theorem SealInvariant.withStore {store : IdempotencyStore}
    (hstored : ∀ key entry, store.get? key = some entry → entry.result.isOk = true →
      ∃ j request, (j, entry.result) ∈ state.sealedBy ∧ state.requests[j]? = some request ∧
        trim (makeOperationRequestKey digest request.1) = key) :
    SealInvariant digest { state with store } :=
  ⟨h.arrived, h.computed, hstored, h.flight, h.phases⟩

theorem SealInvariant.lookUp (hrequest : state.requests[i]? = some request)
    (hkey : makeOperationRequestKey digest request.1 = key) (storeFails : Bool) :
    SealInvariant digest
      ({ state with store := (tryReplay options state key storeFails).2 }.setPhase i
        (.lookingUp (tryReplay options state key storeFails).1)) := by
  unfold tryReplay
  split
  · refine (h.withStore h.stored).setPhase ?_
    intro result hresult
    cases hresult
  · rename_i hkey0
    have hsub : ∀ key' entry, (state.store.get key state.nowMs).2.get? key' = some entry →
        state.store.get? key' = some entry := fun _ _ hget => get_snd hget
    refine (h.withStore fun key' entry hget => h.stored key' entry (hsub _ _ hget)).setPhase ?_
    intro result hresult hok
    obtain ⟨-, stored, hstored, rfl⟩ := get_fst hresult
    obtain ⟨j, request', hj, hrequest', hshared⟩ := h.stored _ stored hstored hok
    refine ⟨j, request, request', hj, hrequest, hrequest', .inr ⟨?_, ?_⟩⟩
    · intro hempty
      simp [← hkey, hempty] at hkey0
    · rw [hkey, hshared]

/-- An operation that starts has checked the session of its call. -/
theorem SealInvariant.runSealOperation (hrequest : state.requests[i]? = some (call, arrivedAtMs)) :
    SealInvariant digest (runSealOperation state i call) := by
  unfold SessionSeal.runSealOperation
  split
  · rename_i result hcheck
    refine h.setPhase fun hok => ?_
    rw [isOk_checkSession hcheck] at hok
    cases hok
  · rename_i hcheck
    have harrived := h.arrived _ (List.mem_of_getElem? hrequest)
    exact h.setPhase ⟨_, hrequest, authorized_of_checkSession hcheck harrived⟩

theorem SealInvariant.proceed (hstep : step digest options state (.proceed i) = some state') :
    SealInvariant digest state' := by
  simp only [step] at hstep
  split at hstep
  case h_2 => cases hstep
  rename_i call arrivedAtMs replay hentry
  have hrequest := requests_of_calls hentry
  have hphase := h.phases i _ hentry
  generalize hkey : makeOperationRequestKey digest call = key at hstep
  split at hstep
  · rename_i result
    cases hstep
    exact h.setPhase fun hok => hphase result rfl hok
  · split at hstep
    · cases hstep
      exact h.runSealOperation hrequest
    · rename_i hkey0
      split at hstep
      · rename_i owner howner
        cases hstep
        obtain ⟨request', hrequest', hkey'⟩ := h.flight key owner howner
        refine h.setPhase ⟨_, request', hrequest, hrequest', ?_, ?_⟩
        · rwa [hkey]
        · rw [hkey, hkey']
      · cases hstep
        -- The call is entered as the owner of its key before the session is checked.
        have hflight : SealInvariant digest
            { state with singleFlight := state.singleFlight.set key i } := by
          refine ⟨h.arrived, h.computed, h.stored, ?_, h.phases⟩
          intro key' owner howner
          rw [Dict.get?_set] at howner
          split at howner
          · rename_i heq
            cases howner
            exact ⟨_, hrequest, hkey.trans heq.symm⟩
          · exact h.flight key' owner howner
        exact hflight.runSealOperation hrequest

theorem SealInvariant.finish {outcome : SealOutcome}
    (hstep : step digest options state (.finish i outcome) = some state') :
    SealInvariant digest state' := by
  simp only [step] at hstep
  split at hstep
  case h_2 => cases hstep
  rename_i call arrivedAtMs hentry
  obtain ⟨request, hrequest, hauthorized⟩ := h.phases i _ hentry
  generalize sealResult call outcome = result at hstep
  cases hstep
  cases result with
  | failure code message =>
    refine h.setPhase ?_
    intro hok
    cases hok
  | ok ciphertext keyVersion expiresAtMs =>
    have hsealed : state.sealedBy ⊆ (i, .ok ciphertext keyVersion expiresAtMs) :: state.sealedBy :=
      List.subset_cons_self _ _
    have hstate : SealInvariant digest { state with
        sealedBy := (i, .ok ciphertext keyVersion expiresAtMs) :: state.sealedBy } := by
      refine ⟨h.arrived, ?_, ?_, h.flight, ?_⟩
      · intro j result hmem
        rcases List.mem_cons.mp hmem with heq | hmem
        · cases heq
          exact ⟨request, hrequest, hauthorized⟩
        · exact h.computed j result hmem
      · intro key entry hget hok
        obtain ⟨j, request', hj, hrequest', hkey⟩ := h.stored key entry hget hok
        exact ⟨j, request', hsealed hj, hrequest', hkey⟩
      · intro k entry hcall
        have hmono := (h.phases k entry hcall).mono [] hsealed
        rwa [List.append_nil] at hmono
    exact hstate.setPhase fun _ => List.mem_cons_self

theorem SealInvariant.persist {storeFails : Bool}
    (hstep : step digest options state (.persist i storeFails) = some state') :
    SealInvariant digest state' := by
  simp only [step] at hstep
  split at hstep
  case h_2 => cases hstep
  rename_i call arrivedAtMs result hentry
  have hrequest := requests_of_calls hentry
  have hphase := h.phases i _ hentry
  have hsettle : PhaseOk digest state.requests state.sealedBy i (.settling result) :=
    fun hok => ⟨i, _, _, hphase hok, hrequest, hrequest, .inl rfl⟩
  generalize hkey : makeOperationRequestKey digest call = key at hstep
  cases hstep
  refine (h.withStore ?_).setPhase hsettle
  intro key' entry hget hok
  by_cases hold : state.store.get? key' = some entry
  · exact h.stored key' entry hold hok
  simp only [tryPersist, IdempotencyStore.put, apply_ite (Dict.get? · key'), Dict.get?_set] at hget
  split_ifs at hget with _ _ _ _ heq <;> first | exact absurd hget hold | cases hget
  exact ⟨i, _, hphase hok, hrequest, by rw [hkey, heq]⟩

theorem SealInvariant.settle (hstep : step digest options state (.settle i) = some state') :
    SealInvariant digest state' := by
  simp only [step] at hstep
  split at hstep
  case h_2 => cases hstep
  rename_i call arrivedAtMs result hentry
  have hphase := h.phases i _ hentry
  generalize makeOperationRequestKey digest call = key at hstep
  cases hstep
  have hstate : SealInvariant digest { state with
      singleFlight := if key = "" then state.singleFlight
        else state.singleFlight.delete key } := by
    refine ⟨h.arrived, h.computed, h.stored, ?_, h.phases⟩
    intro key' owner howner
    split at howner
    · exact h.flight key' owner howner
    · exact h.flight key' owner (Dict.get?_delete.mp howner).1
  exact hstate.setPhase hphase

theorem SealInvariant.follow {owner : ℕ} {ownerEntry : CallState}
    (hentry : state.calls[i]? = some entry)
    (hjoined : entry.phase = .joined owner) (howner : state.calls[owner]? = some ownerEntry)
    (hanswered : ownerEntry.phase = .answered result) :
    SealInvariant digest (state.setPhase i (.answered result)) := by
  have hphase := h.phases i entry hentry
  have hphase' := h.phases owner ownerEntry howner
  rw [hjoined] at hphase
  rw [hanswered] at hphase'
  refine h.setPhase fun hok => ?_
  obtain ⟨request, request', hrequest, hrequest', hshared⟩ := hphase
  obtain ⟨j, ownerRequest, request'', hj, hownerRequest, hrequest'', hkey⟩ := hphase' hok
  rw [hrequest', Option.some.injEq] at hownerRequest
  subst hownerRequest
  refine ⟨j, request, request'', hj, hrequest, hrequest'', .inr ?_⟩
  rcases hkey with rfl | hkey
  · rw [hrequest', Option.some.injEq] at hrequest''
    exact hrequest'' ▸ hshared
  · exact ⟨hshared.1, hshared.2.trans hkey.2⟩

theorem SealInvariant.step {event : SealEvent}
    (hstep : step digest options state event = some state') :
    SealInvariant digest state' := by
  cases event with
  | elapse ms =>
    cases hstep
    refine ⟨fun request hmem => ?_, h.computed, h.stored, h.flight, h.phases⟩
    exact (h.arrived request hmem).trans (Nat.le_add_right _ _)
  | arrive call =>
    cases hstep
    exact h.arrive call
  | lookUp i storeFails =>
    simp only [SessionSeal.step] at hstep
    split at hstep
    · rename_i call arrivedAtMs hentry
      cases hstep
      exact h.lookUp (requests_of_calls hentry) rfl storeFails
    · cases hstep
  | proceed i => exact h.proceed hstep
  | finish i outcome => exact h.finish hstep
  | persist i storeFails => exact h.persist hstep
  | settle i => exact h.settle hstep
  | follow i =>
    simp only [SessionSeal.step] at hstep
    split at hstep
    · rename_i owner hentry
      split at hstep
      · rename_i result howner
        cases hstep
        exact h.follow hentry rfl howner rfl
      · cases hstep
    · cases hstep

omit h

theorem sealInvariant_of_reachable (h : SealReachable digest options state) :
    SealInvariant digest state := by
  induction h with
  | initial => exact ⟨nofun, nofun, nofun, nofun, nofun⟩
  | step _ hstep ih => exact ih.step hstep

end Guarantee

/-! ## Authorized answers -/

/-- A successful answer was given to a call. -/
def Answered (state : SealState) (i : ℕ) (request : Request)
    (result : SigningSessionSealRouteResult) : Prop :=
  state.calls[i]? = some ⟨request.1, request.2, .answered result⟩ ∧ result.isOk = true

/-- Every successful answer goes to an authorized call, and was computed for a call
with the same request. -/
def AnswersAuthorized (state : SealState) : Prop :=
  ∀ i request result, Answered state i request result →
    Authorized request ∧ ∃ j request', (j, result) ∈ state.sealedBy ∧
      state.requests[j]? = some request' ∧ SameRequest request.1 request'.1

/-- The calls that share a key are authorized and ask for the same. -/
def KeysSeparate (digest : SealDigest) (state : SealState) : Prop :=
  ∀ (i j : ℕ) (request request' : Request), i ≠ j → state.requests[i]? = some request →
    state.requests[j]? = some request' → SharesKey digest request.1 request'.1 →
    Authorized request ∧ SameRequest request.1 request'.1

theorem sealReachable_of_foldlM {digest : SealDigest} {options : SealOptions}
    {events : List SealEvent} {start : SealState} (hstart : SealReachable digest options start)
    (h : events.foldlM (step digest options) start = some state) :
    SealReachable digest options state := by
  induction events generalizing start with
  | nil =>
    cases h
    exact hstart
  | cons event events ih =>
    rw [List.foldlM_cons, Option.bind_eq_bind, Option.bind_eq_some_iff] at h
    obtain ⟨next, hnext, hrest⟩ := h
    exact ih (hstart.step hnext) hrest

/-- A digest that tells no two ciphertexts apart. -/
def sampleDigest : SealDigest where
  sha256BytesUtf8 _ := Bytes.zeros 32
  base64UrlEncode _ := "digest"

/-- The user `a:b` applies the seal in the session `c`. -/
def sampleCall : SealCall where
  operation := .applyServerSeal
  request := { thresholdSessionId := "c", ciphertext := "x", keyVersion := some "v" }
  auth := { userId := "a:b", session :=
    { thresholdSessionId := "c", userId := "a:b", expiresAtMs := some 60000 } }
  digestAvailable := true

/-- The user `a` asks for the session `b:c` with an expired session of someone else. -/
def foreignCall : SealCall where
  operation := .applyServerSeal
  request := { thresholdSessionId := "b:c", ciphertext := "x", keyVersion := some "v" }
  auth := { userId := "a", session :=
    { thresholdSessionId := "z", userId := "z", expiresAtMs := some 0 } }
  digestAvailable := true

/-- The first call runs to its end and its result is stored; the second is looked up. -/
def replayRun (call call' : SealCall) : List SealEvent :=
  [.arrive call, .lookUp 0 false, .proceed 0, .finish 0 (.sealed "y" none),
    .persist 0 false, .settle 0, .arrive call', .lookUp 1 false, .proceed 1]

end SeamsWallet.SessionSeal
