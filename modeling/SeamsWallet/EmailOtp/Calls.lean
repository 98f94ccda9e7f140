import SeamsWallet.EmailOtp.Rules

/-!
# The verifier under the outline

Every function of the verifier keeps to the outline, so that every call does. Each
lemma says from which mode the function starts and in which mode it hands over.
-/

namespace SeamsWallet.EmailOtp

open Library

section Calls

variable {c : EmailOtpChallengeRecord}
  {enrollments : Dict String EmailOtpWalletEnrollmentRecord}
  (hkeyed : ∀ w e, enrollments.get? w = some e → e.walletId = w)
  {ok : Mode → Unit → Prop} {m : Mode} {record : EmailOtpChallengeRecord}
  {enrollment : Option EmailOtpWalletEnrollmentRecord}

variable {e : EmailOtpWalletEnrollmentRecord}

include hkeyed in
theorem get?_walletId {w : String} (he : enrollments.get? w = some e) :
    enrollments.get? e.walletId = some e := by
  rw [hkeyed w e he, he]

/-! ## Before the window -/

section Outside

variable {ok : Mode → Unit → Prop}

theorem keeps_consumeRateLimit (hok : ok (.outside enrollment) ()) :
    Keeps c enrollments ok (.outside enrollment) consumeRateLimit := by
  refine keeps_ask .consumeRateLimit rfl nofun fun row => ?_
  cases row with
  | none => exact keeps_pure hok
  | some limited => exact keeps_fail rfl

theorem keeps_requireNotLocked
    (authState : Option EmailOtpAuthStateRecord) (hok : ok (.outside enrollment) ()) :
    Keeps c enrollments ok (.outside enrollment) (requireNotLocked authState) := by
  unfold requireNotLocked
  split
  · exact keeps_pure hok
  · refine keeps_ask .dateNow rfl nofun fun nowMs => ?_
    exact Discipline.obeys_ensure (fun _ => hok) fun _ => rfl

variable {walletId : String}
  {ok : Mode → Option EmailOtpWalletEnrollmentRecord → Prop}

theorem keeps_selectEnrollment (hok : ok m (enrollments.get? walletId)) :
    Keeps c enrollments ok m (run (.selectEnrollment walletId)) := by
  refine keeps_run_idle (.selectEnrollment walletId) rfl nofun ?_
  intro db limited row hm hrow
  cases hrow
  rw [hm.base.enrolled]
  exact hok

variable {orgId : String}

theorem keeps_readActiveEnrollment {providerUserId : String}
    {ok : Mode → EmailOtpWalletEnrollmentRecord → Prop}
    (hok : ∀ e, enrollments.get? walletId = some e → ok (.outside none) e) :
    Keeps c enrollments ok (.outside none)
      (readActiveEnrollment walletId orgId providerUserId) := by
  refine keeps_bind (keeps_selectEnrollment ?_)
  cases he : enrollments.get? walletId with
  | none => exact keeps_fail rfl
  | some e =>
    iterate 2 refine keeps_require rfl fun _ => ?_
    exact keeps_pure (hok e he)

theorem keeps_readExistingEnrollment {providerSubject : String} {recoveryBootstrap : Bool}
    (hok : ok (.outside none) (enrollments.get? walletId)) :
    Keeps c enrollments ok (.outside none)
      (readExistingEnrollment walletId orgId providerSubject recoveryBootstrap) := by
  refine keeps_bind (keeps_selectEnrollment ?_)
  cases he : enrollments.get? walletId with
  | none =>
    rw [he] at hok
    exact keeps_pure hok
  | some e =>
    rw [he] at hok
    iterate 2 refine keeps_require rfl fun _ => ?_
    exact keeps_pure hok

variable {ok : Mode → Option EmailOtpAuthStateRecord → Prop}

/-- From here on the call knows that the failure state fits the enrollment. -/
theorem keeps_readAuthStateForEnrollment (he : enrollments.get? e.walletId = some e)
    (hok : ∀ state, ok (.outside (some e)) state) :
    Keeps c enrollments ok (.outside none) (readAuthStateForEnrollment e) := by
  have hidle : ∀ db, Idle c db db := Idle.refl
  refine keeps_bind (keeps_run_outside (.selectAuthState e.walletId) rfl rfl ?_ ?_)
  · intro db limited hm
    exact ⟨hm, (hidle db).move id .inl .inl⟩
  · intro db limited hm
    by_cases hfits : Fits e (db.authStates.get? e.walletId)
    · refine ⟨.outside (some e), _, rfl, rfl, ⟨hm.1, ?_⟩, (hidle db).move id .inl nofun, ?_⟩
      · intro e' he'
        cases he'
        exact ⟨he, hfits⟩
      · exact keeps_require rfl fun _ => keeps_pure (hok _)
    · refine ⟨.outside none, _, rfl, rfl, hm, (hidle db).move id .inl .inl, ?_⟩
      exact keeps_require rfl fun h => absurd h hfits

include hkeyed in
theorem keeps_readExistingAuthState
    (hok : ∀ state, ok (.outside (enrollments.get? walletId)) state) :
    Keeps c enrollments ok (.outside none) (readExistingAuthState (enrollments.get? walletId)) := by
  cases he : enrollments.get? walletId with
  | none =>
    rw [he] at hok
    exact keeps_pure (hok none)
  | some e =>
    rw [he] at hok
    have hself := get?_walletId hkeyed he
    exact keeps_readAuthStateForEnrollment hself hok

end Outside

/-! ## Opening the window -/

/-- Whoever reads the challenge finds the row that counts all failures, or none. -/
theorem keeps_selectChallenge
    {ok : Mode → Option EmailOtpChallengeRecord → Prop}
    (hnone : ok .settled none)
    (hsome : ∀ k, ok (.read (attempt c k) enrollment) (some (attempt c k))) :
    Keeps c enrollments ok (.outside enrollment) (run (.selectChallenge c.challengeId)) := by
  refine keeps_run (.selectChallenge c.challengeId) fun db outside hm _ hrest => ?_
  have hrest : AtRest c enrollments db := hrest rfl rfl
  rcases execute_cases outside db (.selectChallenge c.challengeId) with
    hexec | ⟨-, message, hanswer, hdb⟩
  · rw [hexec]
    cases hrow : db.challenges.get? c.challengeId with
    | none =>
      refine ⟨.settled, takes_of hm rfl hrest ((Idle.refl db).move nofun nofun nofun), ?_, nofun⟩
      intro row hanswer
      cases hanswer
      exact hrow ▸ hnone
    | some record =>
      obtain ⟨rfl, hopen⟩ := hrest.row record hrow
      have hunreceipted : db.receipts.get? c.challengeId = none := by
        by_contra hreceipt
        rw [(hrest.receipt hreceipt).1] at hrow
        cases hrow
      refine ⟨.read _ enrollment, takes_of hm rfl ⟨hm.1, hm.2, rfl, .inr hrow, hunreceipted, hopen⟩
        ((Idle.refl db).move nofun (fun _ => .inr ?_) nofun), ?_, nofun⟩
      · rw [hrow]
        exact nofun
      · intro row hanswer
        cases hanswer
        exact hrow ▸ hsome _
  · have hsame : (db.execute outside (.selectChallenge c.challengeId)).2 = db := hdb.elim id id
    rw [hanswer, hsame]
    exact ⟨.settled, takes_of hm rfl hrest ((Idle.refl db).move nofun nofun nofun), nofun,
      fun _ _ => rfl⟩

variable {nowMs : ℕ}

theorem keeps_readChallenge
    {ok : Mode → EmailOtpChallengeRecord → Prop}
    (hok : ∀ k, ok (.read (attempt c k) enrollment) (attempt c k)) :
    Keeps c enrollments ok (.outside enrollment) (readChallenge c.challengeId nowMs) := by
  refine keeps_ask (.deleteExpiredChallenges nowMs) rfl nofun fun row => ?_
  refine keeps_bind (keeps_selectChallenge ?_ ?_)
  · exact keeps_fail rfl
  · intro k
    dsimp only
    split
    · refine keeps_ask (.deleteChallenge (attempt c k).challengeId) rfl nofun fun row => ?_
      exact keeps_fail rfl
    · exact keeps_pure (hok k)

/-! ## Comparing a code -/

theorem failures_append (db : Db) (id : String) (equal : Bool) :
    Db.failures { db with comparisons := db.comparisons ++ [(id, equal)] } id =
      db.failures id + if equal then 0 else 1 := by
  cases equal <;> simp [Db.failures]

variable {db : Db}

/-- In the window of a call that attempts, the others only rely on their failure states
and on the absence of the row. -/
theorem move_attempting {m' : Mode} {db' : Db} (hin : m.attempting = true)
    (hin' : m'.inWindow = true)
    (hchecked : ∀ enrollment, Checked enrollments enrollment db →
      Checked enrollments enrollment db')
    (hgone : db.challenges.get? c.challengeId = none → db'.challenges.get? c.challengeId = none) :
    Move c enrollments m db m' db' where
  window _ := hin'
  checked := hchecked
  gone := hgone
  row hout := absurd (hin'.symm.trans hout) nofun
  receipt hout := absurd (hin'.symm.trans hout) nofun
  failures hidle := absurd (hin.symm.trans hidle) nofun
  authStates hout := absurd ((Mode.inWindow_of_attempting hin).symm.trans hout) nofun
  attempting _ := .inl hin
  seen hseen := by
    rw [hseen] at hin'
    cases hin'

variable {otpCode : String}

theorem keeps_compareCode
    {ok : Mode → Bool → Prop}
    (hright : ok (.read record enrollment) true)
    (hwrong : ok (.wrong record enrollment) false) :
    Keeps c enrollments ok (.read record enrollment) (run (.compareCode record otpCode)) := by
  refine keeps_run_window (.compareCode record otpCode) rfl
    fun db limited ⟨hbase, hchecked, hlive⟩ => ?_
  obtain ⟨hrecord, hrow, hunreceipted, hopen⟩ := hlive
  have hid : record.challengeId = c.challengeId := by
    rw [hrecord]
    rfl
  have hbase' : ∀ comparisons, Base c enrollments { db with comparisons } :=
    fun _ => ⟨hbase.enrolled, fun hne => absurd hunreceipted hne⟩
  have hmove : ∀ m' comparisons, m'.inWindow = true →
      Move c enrollments (.read record enrollment) db m' { db with comparisons } :=
    fun _ _ hin => move_attempting rfl hin (fun _ h => h) id
  have hfailures := failures_append db c.challengeId
  simp only [Db.perform, hid]
  by_cases hcode : record.otpCode = otpCode
  · rw [decide_eq_true hcode]
    refine ⟨.read record enrollment, true, rfl, rfl, ⟨hbase' _, hchecked, ?_⟩,
      hmove _ _ rfl, hright⟩
    rw [hfailures true]
    exact ⟨hrecord, hrow, hunreceipted, hopen⟩
  · rw [decide_eq_false hcode]
    refine ⟨.wrong record enrollment, false, rfl, rfl,
      ⟨hbase' _, hchecked, db.failures c.challengeId, hfailures false, ?_⟩, hmove _ _ rfl, hwrong⟩
    exact ⟨hrecord, hrow, hunreceipted, hopen⟩

/-! ## Recording a wrong code -/

variable {e : EmailOtpWalletEnrollmentRecord} {state : EmailOtpAuthStateRecord}

/-- The failure state that is written fits its enrollment, and so everyone's. -/
theorem Checked.upsert (he : enrollments.get? e.walletId = some e)
    (hwallet : state.walletId = e.walletId) (hfits : Fits e (some state))
    (enrollment : Option EmailOtpWalletEnrollmentRecord) (h : Checked enrollments enrollment db) :
    Checked enrollments enrollment
      { db with authStates := db.authStates.set state.walletId state } := by
  intro e' he'
  obtain ⟨henrolled, hfits'⟩ := h e' he'
  refine ⟨henrolled, ?_⟩
  rw [Dict.get?_set, hwallet]
  by_cases hsame : e'.walletId = e.walletId
  · rw [if_pos hsame]
    rw [hsame, he, Option.some.injEq] at henrolled
    exact henrolled ▸ hfits
  · rw [if_neg hsame]
    exact hfits'

theorem fits_emailOtpAuthStateRecord (e : EmailOtpWalletEnrollmentRecord)
    (existing : Option EmailOtpAuthStateRecord) (updatedAtMs : ℕ)
    (patch : EmailOtpAuthStatePatch) :
    Fits e (some (emailOtpAuthStateRecord e existing updatedAtMs patch)) := by
  intro state hstate
  cases hstate
  exact ⟨rfl, rfl⟩

/-- The lockout is on record before the row is deleted. -/
theorem keeps_upsertFailure
    (he : enrollments.get? c.walletId = some e) (hself : e.walletId = c.walletId)
    (hwallet : state.walletId = c.walletId) (hfits : Fits e (some state))
    (hlock : c.maxAttempts ≤ record.attemptCount + 1 →
      ∃ lockedUntilMs, state.otpLockedUntilMs = some lockedUntilMs)
    (hok : ok (.recorded record) ()) :
    Keeps c enrollments ok (.wrong record (some e)) (run (.upsertAuthState state)) := by
  refine keeps_run_window (.upsertAuthState state) rfl
    fun db limited ⟨hbase, _, k, hk, hlive⟩ => ?_
  have hchecked : ∀ enrollment, Checked enrollments enrollment db → Checked enrollments enrollment
        { db with authStates := db.authStates.set state.walletId state } :=
    Checked.upsert (hself ▸ he) (hwallet.trans hself.symm) hfits
  refine ⟨.recorded record, (), rfl, rfl, ⟨⟨hbase.enrolled, hbase.receipt⟩, ?_, k, hk,
    ⟨hlive.record_eq, hlive.row, hlive.unreceipted, hlive.isOpen⟩⟩,
    move_attempting rfl rfl hchecked id, hok⟩
  intro hused e' he'
  have hcount : record.attemptCount = c.attemptCount + k := by
    rw [hlive.record_eq]
    rfl
  have hk : (c.maxAttempts : ℕ) = k + 1 := hused.symm.trans hk
  obtain ⟨lockedUntilMs, hlocked⟩ := hlock (by omega)
  refine ⟨state, lockedUntilMs, ?_, hlocked⟩
  change (db.authStates.set state.walletId state).get? c.walletId = some state
  rw [hwallet]
  exact Dict.get?_set_self _ _ _

variable {patch : EmailOtpAuthStatePatch}

theorem keeps_putFailure
    (he : enrollments.get? c.walletId = some e) (hself : e.walletId = c.walletId)
    (hlock : c.maxAttempts ≤ record.attemptCount + 1 →
      ∃ lockedUntilMs, 0 < lockedUntilMs ∧ patch.otpLockedUntilMs = .put lockedUntilMs)
    (hok : ok (.recorded record) ()) :
    Keeps c enrollments ok (.wrong record (some e)) (putAuthStateForEnrollment e patch) := by
  refine keeps_ask .dateNow rfl nofun fun nowMs => ?_
  refine keeps_bind (keeps_run_idle (.selectAuthState e.walletId) rfl nofun ?_)
  intro db limited existing ⟨_, hchecked, _⟩ hexisting
  cases hexisting
  rw [Program.ensure_of (hchecked e rfl).2]
  refine keeps_upsertFailure he hself hself (fits_emailOtpAuthStateRecord _ _ _ _) ?_ hok
  intro hused
  obtain ⟨lockedUntilMs, hpos, hpatch⟩ := hlock hused
  refine ⟨lockedUntilMs, ?_⟩
  change patchedPositiveAuthStateValue _ patch.otpLockedUntilMs = some lockedUntilMs
  rw [hpatch]
  exact if_pos hpos

theorem perform_updateChallenge (db : Db) (limited : Option RateLimited)
    (record : EmailOtpChallengeRecord) :
    ∃ challenges, (db.perform limited (.updateChallenge record)).2 = { db with challenges } ∧
      challenges.get? record.challengeId =
        (db.challenges.get? record.challengeId).map fun _ => record := by
  unfold Db.perform
  cases hrow : db.challenges.get? record.challengeId with
  | none => exact ⟨db.challenges, by simp [hrow], by simp [hrow]⟩
  | some old =>
    exact ⟨db.challenges.set record.challengeId record, by simp [hrow], by simp⟩

/-- With the failure on record and the row rewritten or deleted, the call owes nothing. -/
theorem Holds.settle (h : Holds c enrollments (.recorded record) db)
    {challenges : Dict String EmailOtpChallengeRecord}
    (hrow : ∀ record', challenges.get? c.challengeId = some record' →
      record' = emailOtpChallengeWithAttemptCount record (record.attemptCount + 1) ∧
      record.attemptCount + 1 < c.maxAttempts) :
    Holds c enrollments .settled { db with challenges } := by
  obtain ⟨hbase, hlocked, k, hk, hlive⟩ := h
  have hlt := hlive.isOpen.lt
  refine ⟨⟨hbase.enrolled, fun hne => absurd hlive.unreceipted hne⟩, ?_, ?_, hlocked⟩
  · intro record' hrecord'
    obtain ⟨hrecord', hleft⟩ := hrow record' hrecord'
    change record' = attempt c (db.failures c.challengeId) ∧ Open c (db.failures c.challengeId)
    rw [hlive.record_eq] at hrecord' hleft
    rw [hk]
    exact ⟨hrecord', .inr hleft⟩
  · change db.failures c.challengeId ≤ _
    omega

theorem keeps_countInvalidAttempt {lockedUntilMs : ℕ}
    {ok : Mode → VerifyFailure → Prop}
    (hok : ∀ failure, ok .settled failure) :
    Keeps c enrollments ok (.recorded record) (countInvalidAttempt record lockedUntilMs) := by
  have hid : ∀ db, Holds c enrollments (.recorded record) db →
      record.challengeId = c.challengeId ∧ record.maxAttempts = c.maxAttempts := by
    intro db ⟨_, _, k, _, hlive⟩
    rw [hlive.record_eq]
    exact ⟨rfl, rfl⟩
  unfold countInvalidAttempt
  dsimp only
  split
  · refine keeps_bind (keeps_run_window (.deleteChallenge record.challengeId) rfl
      fun db limited hm => ?_)
    have hnone : (db.challenges.delete record.challengeId).get? c.challengeId = none := by
      rw [(hid db hm).1]
      exact get?_delete_self _ _
    refine ⟨.settled, (), rfl, rfl, hm.settle ?_,
      move_attempting rfl rfl (fun _ h => h) fun _ => hnone, keeps_pure (hok _)⟩
    intro record' hrecord'
    exact absurd (hnone.symm.trans hrecord') nofun
  · rename_i hleft
    refine keeps_bind (keeps_run_window (.updateChallenge
      (emailOtpChallengeWithAttemptCount record (record.attemptCount + 1))) rfl
      fun db limited hm => ?_)
    obtain ⟨hid, hmax⟩ := hid db hm
    obtain ⟨challenges, hdb, hget⟩ := perform_updateChallenge db limited
      (emailOtpChallengeWithAttemptCount record (record.attemptCount + 1))
    change challenges.get? record.challengeId = (db.challenges.get? record.challengeId).map _
      at hget
    rw [hid] at hget
    rw [hdb]
    refine ⟨.settled, (), rfl, rfl, hm.settle ?_,
      move_attempting rfl rfl (fun _ h => h) ?_, keeps_pure (hok _)⟩
    · intro record' hrecord'
      rw [hget] at hrecord'
      obtain ⟨_, _, hrecord'⟩ := Option.map_eq_some_iff.mp hrecord'
      rw [hmax] at hleft
      exact ⟨hrecord'.symm, by omega⟩
    · intro hnone
      rw [hget, hnone]
      rfl

variable {options : VerifierOptions} {k : ℕ} {authState : Option EmailOtpAuthStateRecord}

theorem keeps_recordInvalidAttempt (he : enrollments.get? c.walletId = some e)
    (hself : e.walletId = c.walletId) {ok : Mode → VerifyFailure → Prop}
    (hok : ∀ failure, ok .settled failure) :
    Keeps c enrollments ok (.wrong (attempt c k) (some e))
      (recordInvalidAttempt options e authState (attempt c k)) := by
  refine keeps_ask .dateNow rfl nofun fun nowMs => ?_
  refine keeps_bind (keeps_putFailure he hself ?_ (keeps_countInvalidAttempt hok))
  intro hused
  have hpos : 0 < nowMs + options.lockoutTtlMs :=
    Nat.add_pos_right _ (lt_of_lt_of_le (by decide) options.lockoutTtlMs_ge)
  exact ⟨nowMs + options.lockoutTtlMs, hpos, if_pos ⟨hused, hpos.ne'⟩⟩

include hkeyed in
/-- Without an enrollment there is no failure state to lock. -/
theorem keeps_recordInvalidRegistrationAttempt
    {ok : Mode → VerifyFailure → Prop}
    (hok : ∀ failure, ok .settled failure) :
    Keeps c enrollments ok (.wrong (attempt c k) (enrollments.get? c.walletId))
      (recordInvalidRegistrationAttempt options (enrollments.get? c.walletId) authState
        (attempt c k)) := by
  cases he : enrollments.get? c.walletId with
  | some e => exact keeps_recordInvalidAttempt he (hkeyed _ _ he) hok
  | none =>
    refine keeps_bind (keeps_run_window .dateNow rfl fun db limited hm => ?_)
    obtain ⟨hbase, -, k, hk, hlive⟩ := hm
    refine ⟨.recorded _, _, rfl, rfl, ⟨hbase, fun _ e' he' => ?_, k, hk, hlive⟩,
      (Idle.refl db).move (fun _ => rfl) (fun _ => .inl rfl) nofun,
      keeps_countInvalidAttempt hok⟩
    rw [he] at he'
    cases he'

/-! ## The right code -/

/-- A call that may answer with success: the attempts are not used up. -/
def Mode.succeeds : Mode → Bool
  | receiptSeen | read _ _ | spent => true
  | _ => false

theorem Mode.owes_of_succeeds (h : m.succeeds = true) : m.owes = false := by
  cases m with
  | wrong r e | recorded r => cases h
  | outside e | receiptSeen | read r e | spent | settled => rfl

section Reset

variable (hm : m.succeeds = true) (he : enrollments.get? e.walletId = some e)

include hm he

/-- The failure state may be reset by a call that succeeds. -/
theorem holds_upsert (hwallet : state.walletId = e.walletId) (hfits : Fits e (some state))
    (h : Holds c enrollments m db) :
    Holds c enrollments m { db with authStates := db.authStates.set state.walletId state } ∧
      Move c enrollments m db m
        { db with authStates := db.authStates.set state.walletId state } := by
  have hchecked : ∀ enrollment, Checked enrollments enrollment db → Checked enrollments enrollment
        { db with authStates := db.authStates.set state.walletId state } :=
    Checked.upsert he hwallet hfits
  have hbase : Base c enrollments
      { db with authStates := db.authStates.set state.walletId state } :=
    ⟨h.base.enrolled, h.base.receipt⟩
  refine ⟨?_, ?_⟩
  · cases m with
    | outside e | wrong r e | recorded r | settled => cases hm
    | receiptSeen | spent => exact ⟨hbase, ⟨h.2.row, h.2.below⟩⟩
    | read record enrollment =>
      obtain ⟨-, h₁, hlive⟩ := h
      exact ⟨hbase, hchecked _ h₁, ⟨hlive.record_eq, hlive.row, hlive.unreceipted, hlive.isOpen⟩⟩
  · refine ⟨id, hchecked, id, fun _ => .inl rfl, fun _ => id, fun _ => rfl, ?_, .inl, .inl⟩
    intro hout hseen
    cases m with
    | receiptSeen => exact absurd rfl hseen
    | outside e | wrong r e | recorded r | settled => cases hm
    | read r e | spent => cases hout

theorem keeps_upsertReset (hwallet : state.walletId = e.walletId) (hfits : Fits e (some state))
    (hok : ok m ()) :
    Keeps c enrollments ok m (run (.upsertAuthState state)) := by
  refine keeps_run_same (.upsertAuthState state) nofun fun db limited h => ?_
  obtain ⟨hholds, hmove⟩ := holds_upsert hm he hwallet hfits h
  exact ⟨(), rfl, hholds, hmove, hok⟩

theorem keeps_resetFailureState (hok : ok m ()) :
    Keeps c enrollments ok m (resetFailureState e authState) := by
  unfold resetFailureState
  split
  · refine keeps_ask .dateNow rfl nofun fun nowMs => ?_
    refine keeps_ask (.selectAuthState e.walletId) rfl nofun fun existing => ?_
    refine keeps_ensure (Mode.owes_of_succeeds hm) fun _ => ?_
    exact keeps_upsertReset hm he rfl (fits_emailOtpAuthStateRecord _ _ _ _) hok
  · exact keeps_pure hok

end Reset

theorem keeps_consume
    {ok : Mode → EmailOtpChallengeRecord → Prop}
    (hok : ∀ consumed, ok .spent consumed) :
    Keeps c enrollments ok (.read (attempt c k) enrollment) (consume c.challengeId) := by
  refine keeps_bind (keeps_run_window (.consumeChallenge c.challengeId) rfl
    fun db limited hm => ?_)
  have hidle : Idle c db (db.perform limited (.consumeChallenge c.challengeId)).2 :=
    idle_perform db limited rfl
  cases hrow : db.challenges.get? c.challengeId with
  | none =>
    exact ⟨.read (attempt c k) enrollment, none, by rw [← hrow]; rfl, rfl, hm.idle hidle,
      hidle.move id .inl .inl, keeps_fail rfl⟩
  | some consumed =>
    have hbase := hm.base.idle hidle
    refine ⟨.spent, some consumed, by rw [← hrow]; rfl, rfl, ⟨hbase, ?_, ?_⟩,
      hidle.move (fun _ => rfl) nofun nofun, keeps_pure (hok consumed)⟩
    · exact get?_delete_self _ _
    · rw [hidle.failures]
      exact hm.2.2.isOpen.lt

/-! ## Existing wallets -/

variable {walletId orgId ownerProofBindingDigest : String}

theorem walletId_of_bindingMismatch {userId : String}
    {purpose : EmailOtpChallengePurpose}
    (h : emailOtpChallengeBindingMismatchCode record userId walletId orgId ownerProofBindingDigest
      purpose = none) :
    record.walletId = walletId := by
  unfold emailOtpChallengeBindingMismatchCode at h
  split at h
  · cases h
  · split at h
    · cases h
    · rename_i hwallet
      exact not_not.mp hwallet

theorem keeps_requireBinding (hm : m.owes = false) {mismatch : Option String}
    (hok : mismatch = none → ok m ()) :
    Keeps c enrollments ok m (requireBinding mismatch) := by
  cases mismatch with
  | none => exact keeps_pure (hok rfl)
  | some code => exact keeps_fail hm

include hkeyed in
theorem keeps_verifyExistingChallenge (options : VerifierOptions)
    (input : ExistingChallengeVerifyInput) (consumption : Consumption)
    (hid : toOptionalTrimmedString input.challengeId = c.challengeId) :
    Keeps c enrollments (fun m _ => m.succeeds = true) (.outside none)
      (verifyExistingChallenge options input consumption) := by
  unfold verifyExistingChallenge
  dsimp only
  rw [hid]
  iterate 7 refine keeps_require rfl fun _ => ?_
  refine keeps_bind (keeps_consumeRateLimit ?_)
  refine keeps_bind (keeps_readActiveEnrollment (fun e he => ?_))
  have hself := get?_walletId hkeyed he
  refine keeps_bind (keeps_readAuthStateForEnrollment hself (fun authState => ?_))
  refine keeps_bind (keeps_requireNotLocked authState ?_)
  refine keeps_ask .dateNow rfl nofun fun nowMs => ?_
  refine keeps_bind (keeps_readChallenge (fun k => ?_))
  refine keeps_bind (keeps_requireBinding rfl (fun hbinding => ?_))
  have hwallet : c.walletId = toOptionalTrimmedString input.walletId :=
    walletId_of_bindingMismatch hbinding
  have he' : enrollments.get? c.walletId = some e := by rw [hwallet, he]
  refine keeps_bind (keeps_compareCode ?_ ?_)
  · cases consumption with
    | now =>
      refine keeps_bind (keeps_bind (keeps_consume fun _ => keeps_pure ?_))
      exact keeps_bind (keeps_resetFailureState rfl hself (keeps_pure rfl))
    | inBatch =>
      refine keeps_bind (keeps_pure ?_)
      exact keeps_bind (keeps_resetFailureState rfl hself (keeps_pure rfl))
  · refine keeps_bind (keeps_recordInvalidAttempt he' (hkeyed _ e he') ?_)
    intro failure
    exact keeps_fail rfl

/-! ## Registration and recovery -/

section

variable {ok : Mode → Option EmailOtpRegistrationVerificationReceiptV1 → Prop}

/-- In the window there is no receipt to be found. -/
theorem keeps_readReceipt_read (hok : ok (.read record enrollment) none) :
    Keeps c enrollments ok (.read record enrollment)
      (readRegistrationVerificationReceipt c.challengeId nowMs) := by
  refine keeps_bind (keeps_run_idle (.selectReceipt c.challengeId) rfl nofun ?_)
  intro db limited receipt ⟨_, _, hlive⟩ hreceipt
  cases hreceipt
  rw [hlive.unreceipted]
  exact keeps_pure hok

theorem keeps_readReceipt_outside (hnone : ok (.outside none) none)
    (hsome : ∀ receipt, ok .receiptSeen (some receipt)) :
    Keeps c enrollments ok (.outside none)
      (readRegistrationVerificationReceipt c.challengeId nowMs) := by
  have hidle : ∀ db, Idle c db db := Idle.refl
  refine keeps_bind (keeps_run_outside (.selectReceipt c.challengeId) rfl rfl ?_ ?_)
  · intro db limited hm
    exact ⟨hm, (hidle db).move id .inl .inl⟩
  · intro db limited hm
    cases hreceipt : db.receipts.get? c.challengeId with
    | none =>
      exact ⟨.outside none, none, by rw [← hreceipt]; rfl, rfl, hm,
        (hidle db).move id .inl .inl, keeps_pure hnone⟩
    | some receipt =>
      by_cases hexpired : receipt.expiresAtMs ≤ nowMs
      · refine ⟨.outside none, some receipt, by rw [← hreceipt]; rfl, rfl, hm,
          (hidle db).move id .inl .inl, ?_⟩
        dsimp only
        rw [if_pos hexpired]
        refine keeps_ask (.deleteReceipt c.challengeId) rfl nofun fun row => ?_
        exact keeps_pure hnone
      · have hne : db.receipts.get? c.challengeId ≠ none := by
          rw [hreceipt]
          exact nofun
        obtain ⟨hrow, hbelow⟩ := hm.1.receipt hne
        refine ⟨.receiptSeen, some receipt, by rw [← hreceipt]; rfl, rfl,
          ⟨hm.1, hrow, hbelow⟩, (hidle db).move id nofun fun _ => .inr hne, ?_⟩
        dsimp only
        rw [if_neg hexpired]
        exact keeps_pure (hsome receipt)

end

variable {receipt : EmailOtpRegistrationVerificationReceiptV1}

include hkeyed in
theorem keeps_resetRegistrationFailureState (hok : ok .receiptSeen ()) :
    Keeps c enrollments ok .receiptSeen (resetRegistrationFailureStateForReceipt receipt) := by
  refine keeps_bind (keeps_selectEnrollment ?_)
  cases he : enrollments.get? receipt.verified.walletId with
  | none => exact keeps_pure hok
  | some e =>
    have hself := get?_walletId hkeyed he
    refine keeps_ensure rfl fun _ => ?_
    refine keeps_ask (.selectAuthState e.walletId) rfl nofun fun state => ?_
    refine keeps_ensure rfl fun _ => ?_
    exact keeps_resetFailureState rfl hself hok

/-- The batch consumes the challenge, or aborts and changes nothing. -/
theorem keeps_consumeWithReceipt {ok : Mode → Except String Unit → Prop}
    (hok : ok .spent (.ok ()))
    (habort : ∀ message, ok (.read (attempt c k) enrollment) (.error message)) :
    Keeps c enrollments ok (.read (attempt c k) enrollment)
      (Program.ask (Statement.consumeWithReceipt (attempt c k) receipt)) := by
  refine Discipline.obeys_query fun db outside hm hpermits _ => ?_
  let q : Statement := .consumeWithReceipt (attempt c k) receipt
  rcases execute_cases outside db q with hexec | ⟨hne, -⟩
  · change ∃ m', (outline c enrollments).Takes _ db q m' (db.execute outside q).2 ∧
      Keeps c enrollments ok m' (.done (db.execute outside q).1)
    rw [hexec]
    obtain ⟨hbase, hchecked, hlive⟩ := hm
    have hlt := hlive.isOpen.lt
    by_cases hcommit : db.holdsExactly (attempt c k) receipt.verifiedAtMs ∧
        db.receipts.get? (attempt c k).challengeId = none
    · simp only [q, Db.perform, if_pos hcommit]
      have hnone : (db.challenges.delete c.challengeId).get? c.challengeId = none :=
        get?_delete_self _ _
      refine ⟨.spent, takes_of ⟨hbase, hchecked, hlive⟩ rfl
        ⟨⟨hbase.enrolled, fun _ => ⟨hnone, hlt⟩⟩, hnone, hlt⟩
        (move_attempting rfl rfl (fun _ h => h) fun _ => hnone), keeps_pure hok⟩
    · simp only [q, Db.perform, if_neg hcommit]
      exact ⟨.read (attempt c k) enrollment, takes_of ⟨hbase, hchecked, hlive⟩ rfl
        ⟨hbase, hchecked, hlive⟩ ((Idle.refl db).move id .inl .inl), keeps_pure (habort _)⟩
  · exact absurd (hpermits rfl) hne

variable {providerSubject proofEmail : String} {recoveryBootstrap : Bool}

theorem walletId_of_registrationBindingMismatch
    (h : registrationBindingMismatchCode options record providerSubject walletId orgId
      ownerProofBindingDigest proofEmail recoveryBootstrap = none) :
    record.walletId = walletId := by
  unfold registrationBindingMismatchCode at h
  split at h
  · rw [Option.or_eq_none_iff] at h
    exact walletId_of_bindingMismatch h.1
  · unfold emailOtpRegistrationChallengeBindingMismatchCode at h
    split_ifs at h with _ _ _ _ hwallet
    exact not_not.mp hwallet

variable {requestFingerprint : String}

theorem keeps_consumeRegistration (consumption : RegistrationConsumption)
    {ok : Mode → EmailOtpChallengeRecord → Prop}
    (hok : ∀ consumed, ok .spent consumed) :
    Keeps c enrollments ok (.read (attempt c k) enrollment)
      (consumeRegistration (attempt c k) walletId orgId nowMs requestFingerprint
        consumption) := by
  cases consumption with
  | singleUse => exact keeps_consume hok
  | resumableRegistrationStart operationId receiptExpiresAtMs =>
    refine keeps_bind (keeps_ensure rfl fun _ => keeps_bind (keeps_readReceipt_read ?_))
    refine keeps_bind (keeps_consumeWithReceipt (keeps_pure (keeps_pure (hok _))) fun message => ?_)
    refine keeps_bind (keeps_readReceipt_read ?_)
    refine keeps_ask (.selectChallenge c.challengeId) rfl (fun _ => rfl) fun row => ?_
    cases row with
    | none | some record => exact keeps_fail rfl

include hkeyed in
theorem keeps_resetExistingFailureState (hok : ok .spent ()) : Keeps c enrollments ok .spent
      (resetExistingFailureState (enrollments.get? walletId) authState) := by
  cases he : enrollments.get? walletId with
  | none => exact keeps_pure hok
  | some e =>
    have hself := get?_walletId hkeyed he
    exact keeps_resetFailureState rfl hself hok

variable {consumption : RegistrationConsumption}

include hkeyed in
theorem keeps_verifyRegistrationChallenge (options : VerifierOptions) :
    Keeps c enrollments (fun m _ => m.succeeds = true) (.outside none)
      (verifyRegistrationChallenge options providerSubject walletId orgId c.challengeId
        otpCode ownerProofBindingDigest proofEmail requestFingerprint recoveryBootstrap
        consumption) := by
  refine keeps_bind (keeps_consumeRateLimit ?_)
  refine keeps_bind (keeps_readExistingEnrollment ?_)
  refine keeps_bind (keeps_readExistingAuthState hkeyed (fun authState => ?_))
  refine keeps_bind (keeps_requireNotLocked authState ?_)
  refine keeps_ask .dateNow rfl nofun fun nowMs => ?_
  refine keeps_bind (keeps_readChallenge (fun k => ?_))
  refine keeps_bind (keeps_requireBinding rfl (fun hbinding => ?_))
  obtain rfl : c.walletId = walletId := walletId_of_registrationBindingMismatch hbinding
  refine keeps_bind (keeps_compareCode ?_ ?_)
  · refine keeps_bind (keeps_consumeRegistration consumption (fun consumed => ?_))
    exact keeps_bind (keeps_resetExistingFailureState hkeyed (keeps_pure rfl))
  · refine keeps_bind (keeps_recordInvalidRegistrationAttempt hkeyed fun failure => ?_)
    exact keeps_fail rfl

include hkeyed in
theorem keeps_verifyWithReceipt {verify : Verify RegistrationVerification}
    (hverify : Keeps c enrollments (fun m _ => m.succeeds = true) (.outside none) verify) :
    Keeps c enrollments (fun m _ => m.succeeds = true) (.outside none)
      (verifyWithReceipt c.challengeId requestFingerprint consumption verify) := by
  cases consumption with
  | singleUse => exact hverify
  | resumableRegistrationStart operationId receiptExpiresAtMs =>
    refine keeps_ask .dateNow rfl nofun fun nowMs => ?_
    refine keeps_bind (keeps_readReceipt_outside hverify (fun receipt => ?_))
    dsimp only
    split
    · exact keeps_fail rfl
    · exact keeps_bind (keeps_resetRegistrationFailureState hkeyed (keeps_pure rfl))

include hkeyed in
theorem keeps_verifyRegistrationWithConsumption (options : VerifierOptions)
    (input : RegistrationChallengeVerifyInput) (recoveryBootstrap : Bool)
    (consumption : RegistrationConsumption)
    (hid : toOptionalTrimmedString input.challengeId = c.challengeId) :
    Keeps c enrollments (fun m _ => m.succeeds = true) (.outside none)
      (verifyRegistrationWithConsumption options input recoveryBootstrap consumption) := by
  unfold verifyRegistrationWithConsumption
  dsimp only
  rw [hid]
  iterate 8 refine keeps_require rfl fun _ => ?_
  exact keeps_verifyWithReceipt hkeyed (keeps_verifyRegistrationChallenge hkeyed options)

/-! ## Every call -/

theorem ends_of_succeeds (hm : m.succeeds = true) (result : Except VerifyFailure Verified) :
    (outline c enrollments).Ends m result := by
  intro db h
  cases m with
  | outside e | wrong r e | recorded r | settled => cases hm
  | receiptSeen | spent => exact ⟨fun _ _ => h.2.below, fun _ => h.2.atRest h.1⟩
  | read record enrollment => exact ⟨fun _ _ => h.2.2.isOpen.lt, fun _ => h.2.2.atRest h.1⟩

theorem ends_error (hm : m.owes = false) (failure : VerifyFailure) :
    (outline c enrollments).Ends m (.error failure) := by
  cases m with
  | wrong r e | recorded r => cases hm
  | receiptSeen | spent | read r e => exact ends_of_succeeds rfl _
  | outside enrollment => exact fun db h => ⟨nofun, nofun⟩
  | settled => exact fun db h => ⟨nofun, fun _ => h⟩

theorem obeys_catchInternal {α : Type} {fallback : String} {p : Verify α} {wrap : α → Verified}
    (h : Keeps c enrollments (fun m _ => m.succeeds = true) (.outside none) p) :
    (outline c enrollments).Obeys (outline c enrollments).Ends (.outside none)
      (catchInternal fallback (wrap <$> p)) := by
  refine Discipline.obeys_handle (Discipline.obeys_map (Discipline.Obeys.mono h fun m r hr => ?_))
  cases r with
  | ok verified => exact ends_of_succeeds hr _
  | error error => cases error <;> exact Discipline.obeys_fail (ends_error hr _)

include hkeyed in
theorem VerifyCall.obeys (options : VerifierOptions) (call : VerifyCall)
    (hid : call.challengeId = c.challengeId) :
    (outline c enrollments).Obeys (outline c enrollments).Ends (.outside none)
      (call.program options) := by
  cases call with
  | existing input =>
    exact obeys_catchInternal (keeps_verifyExistingChallenge hkeyed options input .now hid)
  | existingForBatch input =>
    exact obeys_catchInternal (keeps_verifyExistingChallenge hkeyed options input .inBatch hid)
  | registration input =>
    exact obeys_catchInternal
      (keeps_verifyRegistrationWithConsumption hkeyed options input false .singleUse hid)
  | registrationResumable input operationId receiptExpiresAtMs =>
    refine obeys_catchInternal (keeps_require rfl fun _ => ?_)
    refine keeps_bind (keeps_bind (keeps_run_idle .dateNow rfl nofun ?_))
    intro db limited nowMs _ _
    split
    · exact keeps_fail rfl
    · refine keeps_pure ?_
      exact keeps_verifyRegistrationWithConsumption hkeyed options input false _ hid
  | recoveryBootstrap input =>
    exact obeys_catchInternal
      (keeps_verifyRegistrationWithConsumption hkeyed options input true .singleUse hid)

end Calls

end SeamsWallet.EmailOtp
