import SeamsWallet.EmailOtp.Calls
import SeamsWallet.Library.Run

/-!
# How many codes may be tried

The attempts of a challenge bound the wrong codes that are compared with it as long
as the calls do not overlap between reading the challenge and their last statement,
and no statement of a call goes wrong in between. Every such run keeps to the
outline, and the outline bounds the failures.

Calls that do overlap read the same attempt count: all of them compare, and the
count they write back is that of one. The run at the end of the file is of this
kind.
-/

namespace SeamsWallet.EmailOtp

open Library

def OtpState.Verified (state : OtpState) (i : ℕ) : Prop :=
  ∃ thread verified, state.threads[i]? = some thread ∧ thread.rest.result? = some (.ok verified)

def OnChallenge (challengeId : String) : OtpEvent → Prop
  | .call call => call.challengeId = challengeId
  | _ => True

instance (challengeId : String) (event : OtpEvent) :
    Decidable (OnChallenge challengeId event) :=
  match event with
  | .call _ => inferInstanceAs (Decidable (_ = _))
  | .tick _ | .statement _ _ | .commit _ => inferInstanceAs (Decidable True)

def CallStep (options : VerifierOptions) (challengeId : String) (state : OtpState)
    (event : OtpEvent) (state' : OtpState) : Prop :=
  step options state event = some state' ∧ OnChallenge challengeId event

/-- A call reads the challenge, or a batch consumes it, only while no other call is
between its own reading of the challenge and its answer; and there no statement goes
wrong. -/
def Undisturbed (state : OtpState) : OtpEvent → Prop
  | .tick _ | .call _ => True
  | .statement i outside => ∀ thread ∈ state.threads[i]?,
      (thread.opened = true → outside.delivery = .answered) ∧
        ∀ q ∈ thread.next?, q.readsChallenge = true →
          ∀ j < state.threads.length, j ≠ i → ∀ other ∈ state.threads[j]?, ¬ other.inWindow
  | .commit _ => ∀ thread ∈ state.threads, ¬ thread.inWindow

def UndisturbedStep (options : VerifierOptions) (challengeId : String) (state : OtpState)
    (event : OtpEvent) (state' : OtpState) : Prop :=
  CallStep options challengeId state event state' ∧ Undisturbed state event

/-- The challenge has been stored, and no call has been made on it. -/
structure Stored (c : EmailOtpChallengeRecord) (start : OtpState) : Prop where
  row : start.db.challenges.get? c.challengeId = some c
  threads : start.threads = []
  comparisons : start.db.comparisons = []
  unreceipted : start.db.receipts.get? c.challengeId = none
  keyed : ∀ walletId enrollment, start.db.enrollments.get? walletId = some enrollment →
    enrollment.walletId = walletId

section Runs

variable {options : VerifierOptions} {c : EmailOtpChallengeRecord}
  {enrollments : Dict String EmailOtpWalletEnrollmentRecord}

def OtpState.Sound (c : EmailOtpChallengeRecord)
    (enrollments : Dict String EmailOtpWalletEnrollmentRecord) (state : OtpState) : Prop :=
  (outline c enrollments).Sound state.db state.threads

inductive StepCases (options : VerifierOptions) (state : OtpState) :
    OtpEvent → OtpState → Prop
  | tick (nowMs : ℕ) : StepCases options state (.tick nowMs)
      { state with db := { state.db with nowMs } }
  | call (call : VerifyCall) : StepCases options state (.call call)
      { state with threads := state.threads ++ [Thread.start (call.program options)] }
  | statement {i : ℕ} {outside : Outside} {thread thread' : VerifyThread} {db : Db}
      (hthread : state.threads[i]? = some thread)
      (hstep : thread.step database outside state.db = some (thread', db)) :
      StepCases options state (.statement i outside)
        { state with threads := state.threads.set i thread', db }
  | commit {i : ℕ} {record : EmailOtpChallengeRecord} {nowMs : ℕ}
      (hprepared : state.prepared i = some (record, nowMs))
      (hexact : state.db.holdsExactly record nowMs) : StepCases options state (.commit i)
        { state with
          db := { state.db with
            challenges := state.db.challenges.delete record.challengeId }
          committed := state.committed ++ [(i, record.challengeId)] }
  | abort (i : ℕ) : StepCases options state (.commit i) state

variable {state state' : OtpState} {event : OtpEvent} (h : step options state event = some state')

include h in
theorem step_cases : StepCases options state event state' := by
  cases event with
  | tick nowMs =>
    rw [step] at h
    split at h
    · cases h
      exact .tick nowMs
    · cases h
  | call call =>
    cases h
    exact .call call
  | statement i outside =>
    obtain ⟨thread, hthread, h⟩ := Option.bind_eq_some_iff.mp h
    obtain ⟨⟨thread', db⟩, hstep, h⟩ := Option.bind_eq_some_iff.mp h
    cases h
    exact .statement hthread hstep
  | commit i =>
    obtain ⟨⟨record, nowMs⟩, hprepared, h⟩ := Option.bind_eq_some_iff.mp h
    dsimp only at h
    split at h
    · rename_i hexact
      cases h
      exact .commit hprepared hexact
    · cases h
      exact .abort i

theorem Stored.sound {start : OtpState} (h : Stored c start) :
    start.Sound c start.db.enrollments := by
  have hnone : start.db.failures c.challengeId = 0 := by
    rw [Db.failures, h.comparisons]
    rfl
  unfold OtpState.Sound
  rw [h.threads]
  have : Nonempty Mode := ⟨.settled⟩
  refine Discipline.Sound.nil ⟨⟨rfl, fun hne => absurd h.unreceipted hne⟩, ?_, ?_, ?_⟩
  · intro record hrecord
    rw [h.row, Option.some.injEq] at hrecord
    rw [hnone]
    exact ⟨hrecord.symm, .inl rfl⟩
  · rw [hnone]
    exact Nat.zero_le _
  · intro hused
    have := c.maxAttempts.pos
    omega

theorem Holds.bounded {m : Mode} (hm : m.inWindow = true) {db : Db}
    (h : Holds c enrollments m db) : db.failures c.challengeId ≤ c.maxAttempts := by
  cases m with
  | outside e | receiptSeen => cases hm
  | spent => exact h.2.below.le
  | settled => exact AtRest.bounded h
  | read record enrollment => exact h.2.2.isOpen.lt.le
  | wrong record enrollment | recorded record =>
    obtain ⟨-, -, k, hk, hlive⟩ := h
    have := hlive.isOpen.lt
    omega

theorem OtpState.Sound.base_and_bounded (h : state.Sound c enrollments) :
    Base c enrollments state.db ∧ state.db.failures c.challengeId ≤ c.maxAttempts := by
  rcases Discipline.Sound.rest_or_window h with hrest | ⟨m, hm, hholds⟩
  · exact ⟨hrest.toBase, hrest.bounded⟩
  · exact ⟨Holds.base hholds, Holds.bounded hm hholds⟩

theorem OtpState.Sound.holds_outside (h : state.Sound c enrollments) :
    Holds c enrollments (.outside none) state.db :=
  ⟨h.base_and_bounded.1, fun _ he => nomatch he⟩

theorem OtpState.Sound.statement (h : state.Sound c enrollments) {i : ℕ} {outside : Outside}
    {thread thread' : VerifyThread} {db : Db}
    (hundisturbed : Undisturbed state (.statement i outside))
    (hthread : state.threads[i]? = some thread)
    (hstep : thread.step database outside state.db = some (thread', db)) :
    (outline c enrollments).Sound db (state.threads.set i thread') ∧
      ∀ r, thread'.rest.result? = some r → RightResult c r db := by
  obtain ⟨hdelivery, hserial⟩ := hundisturbed thread hthread
  refine Discipline.Sound.run h hthread hstep (fun q _ hopened => hdelivery hopened) ?_
  intro q hq hreads j other hji hother
  exact hserial q hq hreads j (List.getElem?_eq_some_iff.mp hother).1 hji other hother

variable (hkeyed : ∀ w e, enrollments.get? w = some e → e.walletId = w)

include hkeyed in
theorem OtpState.Sound.step (h : state.Sound c enrollments)
    (hstep : UndisturbedStep options c.challengeId state event state') :
    state'.Sound c enrollments := by
  obtain ⟨⟨hcases, hcall⟩, hundisturbed⟩ := hstep
  -- A change of the database by itself only deletes.
  have hidle : ∀ {db'}, Idle c state.db db' → (outline c enrollments).Sound db' state.threads := by
    intro db' hidle
    refine Discipline.Sound.outside h (fun m hm => Holds.idle hm hidle) fun hrest => ?_
    exact Holds.idle (show Holds c enrollments .settled state.db from hrest) hidle
  cases step_cases hcases with
  | tick nowMs => exact hidle ⟨rfl, rfl, rfl, .inl rfl, .inl rfl⟩
  | call call =>
    have hapart : ∀ n, Apart (.outside none) n := by
      intro n
      exact ⟨nofun, nofun⟩
    exact Discipline.Sound.start (m := .outside none) h rfl h.holds_outside hapart
      (VerifyCall.obeys hkeyed options call hcall)
  | statement hthread hstep => exact (h.statement hundisturbed hthread hstep).1
  | commit hprepared hexact =>
    exact hidle ⟨rfl, rfl, rfl, get?_delete_or _ _ _, .inl rfl⟩
  | abort i => exact h

theorem failures_perform_le (db : Db) (limited : Option RateLimited) (q : Statement)
    (id : String) : db.failures id ≤ (db.perform limited q).2.failures id := by
  cases q with
  | compareCode record otpCode =>
    simp only [Db.perform, Db.failures, List.count_append]
    exact Nat.le_add_right _ _
  | updateChallenge record | consumeWithReceipt challenge receipt =>
    simp only [Db.perform]
    split <;> exact le_rfl
  | _ => exact le_rfl

include h in
/-- A step moves the clock on, or does to the database what one statement does. -/
theorem step_db {P : Db → Prop} (htick : ∀ nowMs, P { state.db with nowMs })
    (hperform : ∀ limited q, P (state.db.perform limited q).2) : P state'.db := by
  cases step_cases h with
  | tick nowMs => exact htick nowMs
  | call | abort => exact hperform none .dateNow
  | @commit i record => exact hperform none (.deleteChallenge record.challengeId)
  | @statement i outside thread thread' db hthread hstep =>
    obtain ⟨opened, rest⟩ := thread
    cases rest with
    | done value | fail error => cases hstep
    | query q next =>
      cases hstep
      change P (state.db.execute outside q).2
      rcases execute_cases outside state.db q with hexec | ⟨-, _, -, hsame | hlost⟩
      · rw [hexec]
        exact hperform _ q
      · rw [hsame]
        exact hperform none .dateNow
      · rw [hlost]
        exact hperform _ q

include h in
theorem failures_step_le (id : String) : state.db.failures id ≤ state'.db.failures id :=
  step_db (P := fun db => _ ≤ db.failures id) h (fun _ => le_rfl)
    fun limited q => failures_perform_le _ limited q id

/-- What has succeeded on the challenge by the second state had succeeded by the first. -/
def NoNewSuccess (challengeId : String) (state state' : OtpState) : Prop :=
  (∀ i, (i, challengeId) ∈ state'.committed → (i, challengeId) ∈ state.committed) ∧
    ∀ i, state'.Verified i → state.Verified i

include hkeyed in
/-- With the attempts used up, a step lets no call succeed. -/
theorem OtpState.Sound.no_success (h : state.Sound c enrollments)
    (hused : state'.db.failures c.challengeId = c.maxAttempts)
    (hstep : UndisturbedStep options c.challengeId state event state') :
    NoNewSuccess c.challengeId state state' := by
  obtain ⟨⟨hcases, hcall⟩, hundisturbed⟩ := hstep
  cases step_cases hcases with
  | tick nowMs | abort i => exact ⟨fun _ => id, fun _ => id⟩
  | call call =>
    refine ⟨fun _ => id, ?_⟩
    rintro i ⟨thread, verified, hthread, hresult⟩
    rw [List.getElem?_append] at hthread
    split at hthread
    · exact ⟨thread, verified, hthread, hresult⟩
    · -- A call that answers at once does not succeed either.
      rw [List.mem_singleton.mp (List.mem_of_getElem? hthread)] at hresult
      have hends := (VerifyCall.obeys hkeyed options call hcall).result hresult
      exact absurd hused ((hends state.db h.holds_outside).1 verified rfl).ne
  | @statement i outside thread thread' db hthread hstep =>
    refine ⟨fun _ => id, ?_⟩
    rintro j ⟨other, verified, hother, hresult⟩
    by_cases hji : j = i
    · subst hji
      have hlt := (List.getElem?_eq_some_iff.mp hthread).1
      rw [List.getElem?_set_self hlt, Option.some.injEq] at hother
      subst hother
      have hright := (h.statement hundisturbed hthread hstep).2 _ hresult verified rfl
      exact absurd hused hright.ne
    · rw [List.getElem?_set_ne (Ne.symm hji)] at hother
      exact ⟨other, verified, hother, hresult⟩
  | @commit i record nowMs hprepared hexact =>
    refine ⟨?_, fun _ => id⟩
    intro j hj
    rcases List.mem_append.mp hj with hold | hnew
    · exact hold
    · obtain ⟨-, hid⟩ := Prod.mk.inj (List.mem_singleton.mp hnew)
      have hrest := Discipline.Sound.rest h hundisturbed
      have hrow := hexact.1
      rw [← hid] at hrow
      exact absurd hused (hrest.row record hrow).2.lt.ne

/-- No statement brings a challenge back. -/
theorem gone_perform {db : Db} {id : String} (h : db.challenges.get? id = none)
    (limited : Option RateLimited) (q : Statement) :
    (db.perform limited q).2.challenges.get? id = none := by
  cases q with
  | updateChallenge record =>
    simp only [Db.perform]
    split
    · -- A row that the update finds is not this challenge's.
      rename_i hrow
      rw [Dict.get?_set, if_neg, h]
      rintro rfl
      simp [h] at hrow
    · exact h
  | consumeWithReceipt challenge receipt =>
    simp only [Db.perform]
    split
    · exact eq_none_of_or (get?_delete_or _ _ _) h
    · exact h
  | deleteExpiredChallenges nowMs => exact eq_none_of_or (get?_filter_or _ _ _) h
  | deleteChallenge | consumeChallenge => exact eq_none_of_or (get?_delete_or _ _ _) h
  | _ => exact h

theorem gone_step {id : String} (h : state.db.challenges.get? id = none)
    (hstep : step options state event = some state') : state'.db.challenges.get? id = none :=
  step_db (P := fun db => db.challenges.get? id = none) hstep (fun _ => h) (gone_perform h)

/-- What batches have committed was committed once, and is gone. -/
def OtpState.SpentOnce (state : OtpState) : Prop :=
  (state.committed.map Prod.snd).Nodup ∧
    ∀ id ∈ state.committed.map Prod.snd, state.db.challenges.get? id = none

theorem OtpState.SpentOnce.step (h : state.SpentOnce)
    (hstep : step options state event = some state') : state'.SpentOnce := by
  have hgone := fun id hid => gone_step (h.2 id hid) hstep
  cases step_cases hstep with
  | tick | call | abort | statement => exact ⟨h.1, hgone⟩
  | @commit i record nowMs hprepared hexact =>
    have hfresh : record.challengeId ∉ state.committed.map Prod.snd := by
      intro hmem
      cases (h.2 _ hmem).symm.trans hexact.1
    rw [OtpState.SpentOnce, List.map_append, List.nodup_append_comm]
    refine ⟨h.1.cons hfresh, ?_⟩
    intro id hid
    rcases List.mem_append.mp hid with hold | hnew
    · exact hgone id hold
    · rw [List.mem_singleton.mp hnew]
      exact get?_delete_self _ _

end Runs

/-- In every run of calls on a stored challenge that do not disturb each other, at most
as many wrong codes are compared as the challenge has attempts. Once that many were,
no further call succeeds, and when the calls that read the challenge have answered, it
is deleted and the wallet, if enrolled, has a lockout on record. -/
theorem otp_guesses_bounded (options : VerifierOptions) {c : EmailOtpChallengeRecord}
    {start : OtpState} (hstart : Stored c start) {log : List OtpEvent} {s : OtpState}
    (hrun : Run (UndisturbedStep options c.challengeId) start log s) :
    s.db.failures c.challengeId ≤ c.maxAttempts ∧ (s.db.failures c.challengeId = c.maxAttempts →
        (∀ log' s', Run (UndisturbedStep options c.challengeId) s log' s' →
          NoNewSuccess c.challengeId s s') ∧
        ((∀ thread ∈ s.threads, ¬ thread.inWindow) →
          s.db.challenges.get? c.challengeId = none ∧ Locked c s.db.enrollments s.db)) := by
  have hsound : ∀ {log s}, Run (UndisturbedStep options c.challengeId) start log s →
      s.Sound c start.db.enrollments := by
    intro log s hrun
    refine hrun.invariant (fun _ s => s.Sound c start.db.enrollments) hstart.sound ?_
    intro log s event s' _ h hstep
    exact h.step hstart.keyed hstep
  refine ⟨(hsound hrun).base_and_bounded.2, fun hused => ⟨?_, ?_⟩⟩
  · intro log' s' hrun'
    have hlater : s'.Sound c start.db.enrollments ∧
        s'.db.failures c.challengeId = c.maxAttempts ∧ NoNewSuccess c.challengeId s s' := by
      refine hrun'.invariant (fun _ (s' : OtpState) => s'.Sound c start.db.enrollments ∧
        s'.db.failures c.challengeId = (c.maxAttempts : ℕ) ∧ NoNewSuccess c.challengeId s s')
        ⟨hsound hrun, hused, fun _ => id, fun _ => id⟩ ?_
      intro log s₁ event s₂ _ ⟨h, hused, hnone⟩ hstep
      have h' := h.step hstart.keyed hstep
      have hused' : s₂.db.failures c.challengeId = c.maxAttempts :=
        le_antisymm h'.base_and_bounded.2 (hused ▸ failures_step_le hstep.1.1 c.challengeId)
      have hnone' := h.no_success hstart.keyed hused' hstep
      exact ⟨h', hused', fun i hi => hnone.1 i (hnone'.1 i hi),
        fun i hi => hnone.2 i (hnone'.2 i hi)⟩
    exact hlater.2.2
  · intro hclosed
    have hrest := Discipline.Sound.rest (hsound hrun) hclosed
    refine ⟨?_, ?_⟩
    · by_contra hrow
      obtain ⟨record, hrecord⟩ := Option.ne_none_iff_exists'.mp hrow
      exact absurd hused (hrest.row record hrecord).2.lt.ne
    · rw [hrest.enrolled]
      exact hrest.locked hused

/-- However calls overlap and whichever answers are lost, a challenge that is gone stays
gone, and no two batches commit one challenge. -/
theorem challenge_spent_once (options : VerifierOptions) (start : OtpState) :
    (∀ id log s, start.db.challenges.get? id = none →
      Run (fun s e s' => step options s e = some s') start log s → s.db.challenges.get? id = none) ∧
    ∀ log s, start.committed = [] →
      Run (fun s e s' => step options s e = some s') start log s → s.SpentOnce := by
  refine ⟨fun id log s h hrun => ?_, fun log s h hrun => ?_⟩
  · exact hrun.invariant (fun _ s => s.db.challenges.get? id = none) h
      fun _ _ _ _ _ => gone_step
  · exact hrun.invariant (fun _ s => s.SpentOnce) (by simp [OtpState.SpentOnce, h])
      fun _ _ _ _ _ => OtpState.SpentOnce.step

/-! ## Overlapping calls -/

instance (state : OtpState) (event : OtpEvent) : Decidable (Undisturbed state event) :=
  match event with
  | .tick _ | .call _ => inferInstanceAs (Decidable True)
  | .statement i _ => inferInstanceAs (Decidable (∀ thread ∈ state.threads[i]?, _ ∧ _))
  | .commit _ => inferInstanceAs (Decidable (∀ thread ∈ state.threads, _))

def sampleOptions : VerifierOptions where
  lockoutTtlMs := 60000
  lockoutTtlMs_ge := le_rfl
  toLowerCase := id
  emailOtpRegistrationVerificationFingerprint _ := "fingerprint"

def sampleChallenge : EmailOtpChallengeRecord where
  challengeId := "challenge"
  challengeSubjectId := "user"
  walletId := "wallet"
  orgId := some "org"
  email := "user@example"
  otpCode := "123456"
  ownerProofBindingDigest := "digest"
  purpose := .login .walletUnlock
  createdAtMs := 1
  expiresAtMs := 1000
  attemptCount := 0
  maxAttempts := 1

def sampleState : OtpState where
  db := {
    nowMs := 10
    enrollments := Dict.empty.set "wallet" ⟨"wallet", "user", "org", "user@example"⟩
    authStates := Dict.empty
    challenges := Dict.empty.set "challenge" sampleChallenge
    receipts := Dict.empty
    comparisons := [] }
  threads := []
  committed := []

theorem stored_sample : Stored sampleChallenge sampleState where
  row := rfl
  threads := rfl
  comparisons := rfl
  unreceipted := rfl
  keyed walletId enrollment h := by
    change (Dict.empty.set "wallet" _).get? walletId = some enrollment at h
    rw [Dict.get?_set] at h
    split at h
    · cases h
      rename_i hwallet
      exact hwallet.symm
    · cases h

def sampleCall (otpCode : String) : OtpEvent :=
  .call (.existing {
    userId := some "user"
    walletId := some "wallet"
    orgId := some "org"
    challengeId := some "challenge"
    otpCode := some otpCode
    otpChannel := some "email_otp"
    ownerProofBindingDigest := some "digest"
    purpose := .login .walletUnlock })

def statements (i n : ℕ) : List OtpEvent :=
  List.replicate n (.statement i ⟨.answered, none⟩)

/-- Three calls read the challenge; then two of them compare a wrong code, and the third
the right one. -/
def overlappingRun : List OtpEvent :=
  [sampleCall "000000", sampleCall "111111", sampleCall "123456"] ++
    statements 0 6 ++ statements 1 6 ++ statements 2 6 ++
    statements 0 1 ++ statements 1 1 ++ statements 2 2

/-- Calls that overlap compare more wrong codes than the challenge has attempts, and the
right code still succeeds. -/
theorem otp_guesses_overlapping :
    ∃ s, Run (CallStep sampleOptions sampleChallenge.challengeId) sampleState
        overlappingRun s ∧
      Stored sampleChallenge sampleState ∧ (sampleChallenge.maxAttempts : ℕ) = 1 ∧
      s.db.failures sampleChallenge.challengeId = 2 ∧ s.Verified 2 := by
  have hrun : (overlappingRun.foldlM (fun s e => if OnChallenge sampleChallenge.challengeId e
      then step sampleOptions s e else none) sampleState).bind (fun s =>
        some (s.db.failures sampleChallenge.challengeId,
          (s.threads[2]?.bind fun thread => thread.rest.result?).any Except.isOk)) =
      some (2, true) := by
    decide +kernel
  obtain ⟨s, hs, hresult⟩ := Option.bind_eq_some_iff.mp hrun
  obtain ⟨hfailures, hverified⟩ := Prod.mk.inj (Option.some.inj hresult)
  refine ⟨s, Run.of_foldlM hs, stored_sample, rfl, hfailures, ?_⟩
  obtain ⟨result, hresult, hok⟩ := (Option.any_eq_true _ _).mp hverified
  obtain ⟨thread, hthread, hresult⟩ := Option.bind_eq_some_iff.mp hresult
  cases result with
  | error failure => cases hok
  | ok verified => exact ⟨thread, verified, hthread, hresult⟩

/-- One call with a wrong code uses up the attempt: the challenge is deleted and the
wallet locked. -/
theorem otp_guesses_bounded_single :
    ∃ s, Run (UndisturbedStep sampleOptions sampleChallenge.challengeId) sampleState
        (sampleCall "000000" :: statements 0 12) s ∧
      s.db.failures sampleChallenge.challengeId = 1 ∧
      s.db.challenges.get? sampleChallenge.challengeId = none ∧
      Locked sampleChallenge s.db.enrollments s.db := by
  have hrun : ((sampleCall "000000" :: statements 0 12).foldlM (fun s e =>
      if OnChallenge sampleChallenge.challengeId e ∧ Undisturbed s e
        then step sampleOptions s e else none) sampleState).bind (fun s =>
        some (s.db.failures sampleChallenge.challengeId,
          decide (∀ thread ∈ s.threads, ¬ thread.inWindow))) = some (1, true) := by
    decide +kernel
  obtain ⟨s, hs, hresult⟩ := Option.bind_eq_some_iff.mp hrun
  obtain ⟨hfailures, hclosed⟩ := Prod.mk.inj (Option.some.inj hresult)
  have hsteps : Run (UndisturbedStep sampleOptions sampleChallenge.challengeId) sampleState
      (sampleCall "000000" :: statements 0 12) s :=
    (Run.of_foldlM hs).mono fun _ _ _ ⟨hstep, hon, hundisturbed⟩ =>
      ⟨⟨hstep, hon⟩, hundisturbed⟩
  obtain ⟨hgone, hlocked⟩ :=
    ((otp_guesses_bounded sampleOptions stored_sample hsteps).2 hfailures).2
      (of_decide_eq_true hclosed)
  exact ⟨s, hsteps, hfailures, hgone, hlocked⟩

end SeamsWallet.EmailOtp
