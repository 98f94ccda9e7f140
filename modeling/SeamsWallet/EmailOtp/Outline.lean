import SeamsWallet.EmailOtp.Verifier

/-!
# What concurrent verifications rely on

The proof outline for the calls on one challenge. Between two windows the row of
the challenge counts every failed comparison, and once they are used up the row is
gone and the wallet is locked (`AtRest`). A call in its window has read the row,
knows how far the comparisons got, and owes the record of its own.

The calls outside a window only ever delete rows, except one that answers from a
receipt: it resets the failure state, and it can do so because a receipt means that
the challenge was consumed before its attempts were used up.
-/

namespace SeamsWallet.EmailOtp

open Library

def Db.failures (db : Db) (challengeId : String) : ℕ :=
  db.comparisons.count (challengeId, false)

section Outline

variable (c : EmailOtpChallengeRecord)
  (enrollments : Dict String EmailOtpWalletEnrollmentRecord)

def attempt (k : ℕ) : EmailOtpChallengeRecord :=
  emailOtpChallengeWithAttemptCount c (c.attemptCount + k)

/-- Another code may be compared after `k` failures. -/
def Open (k : ℕ) : Prop := k = 0 ∨ c.attemptCount + k < c.maxAttempts

/-- The wallet of the challenge, if it is enrolled, has a lockout on record. -/
def Locked (db : Db) : Prop :=
  ∀ enrollment, enrollments.get? c.walletId = some enrollment →
    ∃ state lockedUntilMs, db.authStates.get? c.walletId = some state ∧
      state.otpLockedUntilMs = some lockedUntilMs

/-- What holds at any time. -/
structure Base (db : Db) : Prop where
  enrolled : db.enrollments = enrollments
  receipt : db.receipts.get? c.challengeId ≠ none →
    db.challenges.get? c.challengeId = none ∧ db.failures c.challengeId < c.maxAttempts

/-- What holds while no call is in its window. -/
structure AtRest (db : Db) : Prop extends Base c enrollments db where
  row : ∀ record, db.challenges.get? c.challengeId = some record →
    record = attempt c (db.failures c.challengeId) ∧ Open c (db.failures c.challengeId)
  bounded : db.failures c.challengeId ≤ c.maxAttempts
  locked : db.failures c.challengeId = c.maxAttempts → Locked c enrollments db

/-- A record that was read after `k` failures and is still the row, if there is one. -/
structure Live (record : EmailOtpChallengeRecord) (k : ℕ) (db : Db) : Prop where
  record_eq : record = attempt c k
  row : db.challenges.get? c.challengeId = none ∨ db.challenges.get? c.challengeId = some record
  unreceipted : db.receipts.get? c.challengeId = none
  isOpen : Open c k

/-- The enrollment a call has read and whose failure state fits it. -/
def Checked (enrollment : Option EmailOtpWalletEnrollmentRecord) (db : Db) : Prop :=
  ∀ e ∈ enrollment, enrollments.get? e.walletId = some e ∧ Fits e (db.authStates.get? e.walletId)

/-- How far a call has come. -/
inductive Mode
  /-- The challenge has not been read. -/
  | outside (enrollment : Option EmailOtpWalletEnrollmentRecord)
  /-- A receipt was found. -/
  | receiptSeen
  /-- The challenge was read, and no wrong code compared. -/
  | read (record : EmailOtpChallengeRecord) (enrollment : Option EmailOtpWalletEnrollmentRecord)
  /-- A wrong code was compared. -/
  | wrong (record : EmailOtpChallengeRecord)
      (enrollment : Option EmailOtpWalletEnrollmentRecord)
  /-- The failure is on record, but the row does not count it yet. -/
  | recorded (record : EmailOtpChallengeRecord)
  /-- The challenge was consumed with the right code. -/
  | spent
  /-- Nothing is left to do. -/
  | settled

def Mode.inWindow : Mode → Bool
  | outside _ | receiptSeen => false
  | _ => true

/-- The call may still compare a code or owes the record of a comparison. -/
def Mode.attempting : Mode → Bool
  | read _ _ | wrong _ _ | recorded _ => true
  | _ => false

variable {m : Mode}

theorem Mode.inWindow_of_attempting (h : m.attempting = true) : m.inWindow = true := by
  cases m with
  | outside enrollment | receiptSeen | spent | settled => cases h
  | read r e | wrong r e | recorded r => rfl

def Mode.owes : Mode → Bool
  | wrong _ _ | recorded _ => true
  | _ => false

/-- The challenge was consumed before its attempts were used up. -/
structure Consumed (db : Db) : Prop where
  row : db.challenges.get? c.challengeId = none
  below : db.failures c.challengeId < c.maxAttempts

def Holds : Mode → Db → Prop
  | .outside enrollment, db => Base c enrollments db ∧ Checked enrollments enrollment db
  | .receiptSeen, db | .spent, db => Base c enrollments db ∧ Consumed c db
  | .read record enrollment, db => Base c enrollments db ∧
      Checked enrollments enrollment db ∧ Live c record (db.failures c.challengeId) db
  | .wrong record enrollment, db => Base c enrollments db ∧
      Checked enrollments enrollment db ∧
      ∃ k, db.failures c.challengeId = k + 1 ∧ Live c record k db
  | .recorded record, db => Base c enrollments db ∧
      (db.failures c.challengeId = c.maxAttempts → Locked c enrollments db) ∧
      ∃ k, db.failures c.challengeId = k + 1 ∧ Live c record k db
  | .settled, db => AtRest c enrollments db

/-- What a step does to the database, as far as others rely on it. -/
structure Move (m : Mode) (db : Db) (m' : Mode) (db' : Db) : Prop where
  window : m.inWindow = true → m'.inWindow = true
  checked : ∀ enrollment, Checked enrollments enrollment db → Checked enrollments enrollment db'
  gone : db.challenges.get? c.challengeId = none → db'.challenges.get? c.challengeId = none
  row : m'.inWindow = false → db'.challenges.get? c.challengeId = db.challenges.get? c.challengeId ∨
      db'.challenges.get? c.challengeId = none
  receipt : m'.inWindow = false → db.receipts.get? c.challengeId = none →
    db'.receipts.get? c.challengeId = none
  failures : m.attempting = false → db'.failures c.challengeId = db.failures c.challengeId
  authStates : m.inWindow = false → m ≠ .receiptSeen → db'.authStates = db.authStates
  attempting : m'.attempting = true → m.attempting = true ∨ db.challenges.get? c.challengeId ≠ none
  seen : m' = .receiptSeen → m = .receiptSeen ∨ db.receipts.get? c.challengeId ≠ none

/-- A call that answers from a receipt and one that is about to compare exclude each
other. -/
def Apart (m n : Mode) : Prop :=
  ¬ (m = .receiptSeen ∧ n.attempting = true) ∧ ¬ (n = .receiptSeen ∧ m.attempting = true)

variable {c enrollments} {k : ℕ}

theorem Open.lt (h : Open c k) : k < c.maxAttempts := by
  have := c.maxAttempts.pos
  rcases h with rfl | h <;> omega

variable {db : Db}

theorem Holds.base (h : Holds c enrollments m db) : Base c enrollments db := by
  cases m with
  | outside enrollment | receiptSeen | spent | read r e | wrong r e | recorded r => exact h.1
  | settled => exact h.toBase

theorem Consumed.atRest (hbase : Base c enrollments db) (h : Consumed c db) :
    AtRest c enrollments db where
  toBase := hbase
  row := by
    intro record hrecord
    rw [h.row] at hrecord
    cases hrecord
  bounded := h.below.le
  locked heq := absurd heq h.below.ne

variable {record : EmailOtpChallengeRecord}

theorem Live.atRest (hbase : Base c enrollments db)
    (h : Live c record (db.failures c.challengeId) db) :
    AtRest c enrollments db where
  toBase := hbase
  row := by
    intro record' hrecord
    rcases h.row with hnone | hsome
    · rw [hnone] at hrecord
      cases hrecord
    · rw [hsome, Option.some.injEq] at hrecord
      exact ⟨hrecord ▸ h.record_eq, h.isOpen⟩
  bounded := h.isOpen.lt.le
  locked heq := absurd heq h.isOpen.lt.ne

/-! ## Steps that only delete rows -/

/-- A step that leaves the failure states and the comparisons alone and may delete the
challenge or its receipt. -/
structure Idle (c : EmailOtpChallengeRecord) (db db' : Db) : Prop where
  enrollments : db'.enrollments = db.enrollments
  authStates : db'.authStates = db.authStates
  failures : db'.failures c.challengeId = db.failures c.challengeId
  row : db'.challenges.get? c.challengeId = db.challenges.get? c.challengeId ∨
    db'.challenges.get? c.challengeId = none
  receipt : db'.receipts.get? c.challengeId = db.receipts.get? c.challengeId ∨
    db'.receipts.get? c.challengeId = none

variable {db' : Db}

theorem eq_none_of_or {V : Type} {row row' : Option V} (h : row' = row ∨ row' = none)
    (hnone : row = none) : row' = none := by
  rcases h with hsame | hgone
  · rw [hsame, hnone]
  · exact hgone

theorem Idle.receipt_none (h : Idle c db db') :
    db.receipts.get? c.challengeId = none → db'.receipts.get? c.challengeId = none :=
  eq_none_of_or h.receipt

theorem Idle.gone (h : Idle c db db') :
    db.challenges.get? c.challengeId = none → db'.challenges.get? c.challengeId = none :=
  eq_none_of_or h.row

theorem Base.idle (h : Base c enrollments db) (hidle : Idle c db db') : Base c enrollments db' where
  enrolled := hidle.enrollments.trans h.enrolled
  receipt hne := by
    obtain ⟨hrow, hlt⟩ := h.receipt fun hnone => hne (hidle.receipt_none hnone)
    exact ⟨hidle.gone hrow, hidle.failures ▸ hlt⟩

theorem Checked.of_authStates {enrollment : Option EmailOtpWalletEnrollmentRecord}
    (h : Checked enrollments enrollment db) (hauth : db'.authStates = db.authStates) :
    Checked enrollments enrollment db' := by
  intro e he
  rw [hauth]
  exact h e he

theorem Locked.of_authStates (h : Locked c enrollments db)
    (hauth : db'.authStates = db.authStates) : Locked c enrollments db' := by
  intro e he
  rw [hauth]
  exact h e he

/-- The row of a record that was read may only disappear. -/
theorem Live.transfer (h : Live c record k db)
    (hrow : db'.challenges.get? c.challengeId = db.challenges.get? c.challengeId ∨
      db'.challenges.get? c.challengeId = none)
    (hreceipt : db.receipts.get? c.challengeId = none → db'.receipts.get? c.challengeId = none) :
    Live c record k db' where
  record_eq := h.record_eq
  row := by
    rcases hrow with hsame | hnone
    · rw [hsame]
      exact h.row
    · exact .inl hnone
  unreceipted := hreceipt h.unreceipted
  isOpen := h.isOpen

theorem AtRest.transfer (h : AtRest c enrollments db) (hbase : Base c enrollments db')
    (hfailures : db'.failures c.challengeId = db.failures c.challengeId)
    (hrow : db'.challenges.get? c.challengeId = db.challenges.get? c.challengeId ∨
      db'.challenges.get? c.challengeId = none)
    (hauth : db'.authStates = db.authStates) : AtRest c enrollments db' where
  toBase := hbase
  row := by
    intro record hrecord
    rcases hrow with hsame | hnone
    · rw [hfailures]
      exact h.row record (hsame ▸ hrecord)
    · rw [hnone] at hrecord
      cases hrecord
  bounded := hfailures ▸ h.bounded
  locked heq := (h.locked (hfailures ▸ heq)).of_authStates hauth

theorem Consumed.transfer (h : Consumed c db)
    (hgone : db.challenges.get? c.challengeId = none → db'.challenges.get? c.challengeId = none)
    (hfailures : db'.failures c.challengeId = db.failures c.challengeId) : Consumed c db' where
  row := hgone h.row
  below := hfailures ▸ h.below

theorem Holds.idle (h : Holds c enrollments m db) (hidle : Idle c db db') :
    Holds c enrollments m db' := by
  have hbase := h.base.idle hidle
  cases m with
  | outside enrollment => exact ⟨hbase, h.2.of_authStates hidle.authStates⟩
  | receiptSeen | spent => exact ⟨hbase, h.2.transfer hidle.gone hidle.failures⟩
  | read record enrollment =>
    obtain ⟨-, hchecked, hlive⟩ := h
    refine ⟨hbase, hchecked.of_authStates hidle.authStates, ?_⟩
    rw [hidle.failures]
    exact hlive.transfer hidle.row hidle.receipt_none
  | wrong record enrollment =>
    obtain ⟨-, hchecked, k, hk, hlive⟩ := h
    exact ⟨hbase, hchecked.of_authStates hidle.authStates, k, hidle.failures.trans hk,
      hlive.transfer hidle.row hidle.receipt_none⟩
  | recorded record =>
    obtain ⟨-, hlocked, k, hk, hlive⟩ := h
    refine ⟨hbase, fun heq => ?_, k, hidle.failures.trans hk,
      hlive.transfer hidle.row hidle.receipt_none⟩
    exact (hlocked (hidle.failures ▸ heq)).of_authStates hidle.authStates
  | settled => exact AtRest.transfer h hbase hidle.failures hidle.row hidle.authStates

variable {m' : Mode}

/-- A step that only deletes is a move to any mode that is not entered without
reason. -/
theorem Idle.move (h : Idle c db db') (hwindow : m.inWindow = true → m'.inWindow = true)
    (hattempting : m'.attempting = true →
      m.attempting = true ∨ db.challenges.get? c.challengeId ≠ none)
    (hseen : m' = .receiptSeen → m = .receiptSeen ∨ db.receipts.get? c.challengeId ≠ none) :
    Move c enrollments m db m' db' where
  window := hwindow
  checked _ hchecked := hchecked.of_authStates h.authStates
  gone := h.gone
  row _ := h.row
  receipt _ := h.receipt_none
  failures _ := h.failures
  authStates _ _ := h.authStates
  attempting := hattempting
  seen := hseen

/-! ## The outline -/

theorem Move.outside (h : Move c enrollments m db m' db') (hwindow : m'.inWindow = false) :
    m.inWindow = false ∧ m.attempting = false := by
  have hout : m.inWindow = false := by
    by_contra hin
    rw [h.window (by simpa using hin)] at hwindow
    cases hwindow
  refine ⟨hout, ?_⟩
  by_contra hattempting
  rw [Mode.inWindow_of_attempting (by simpa using hattempting)] at hout
  cases hout

theorem AtRest.move (h : AtRest c enrollments db) (hm : Holds c enrollments m db)
    (hmove : Move c enrollments m db m' db') (hbase : Base c enrollments db')
    (hwindow : m'.inWindow = false) : AtRest c enrollments db' := by
  obtain ⟨hout, hidle⟩ := hmove.outside hwindow
  by_cases hseen : m = .receiptSeen
  · subst hseen
    exact (hm.2.transfer hmove.gone (hmove.failures hidle)).atRest hbase
  · exact h.transfer hbase (hmove.failures hidle) (hmove.row hwindow) (hmove.authStates hout hseen)

variable {n : Mode}

theorem Apart.move (h : Apart m n) (hmove : Move c enrollments m db m' db')
    (hn : Holds c enrollments n db) : Apart m' n := by
  constructor
  · rintro ⟨hseen, hattempting⟩
    rcases hmove.seen hseen with hm | hreceipt
    · exact h.1 ⟨hm, hattempting⟩
    · cases n with
      | outside enrollment | receiptSeen | spent | settled => cases hattempting
      | read record enrollment => exact hreceipt hn.2.2.unreceipted
      | wrong record enrollment | recorded record =>
        obtain ⟨-, -, k, -, hlive⟩ := hn
        exact hreceipt hlive.unreceipted
  · rintro ⟨rfl, hattempting⟩
    rcases hmove.attempting hattempting with hm | hrow
    · exact h.2 ⟨rfl, hm⟩
    · exact hrow hn.2.row

theorem Holds.move (hm : Holds c enrollments m db) (hmove : Move c enrollments m db m' db')
    (hm' : Holds c enrollments m' db') (hn : Holds c enrollments n db) (hapart : Apart m n)
    (hclosed : n.inWindow = true → m'.inWindow = false) : Holds c enrollments n db' := by
  have hbase := hm'.base
  -- Another call in its window is only disturbed by deletions.
  have hlive : n.inWindow = true → ∀ {record k}, Live c record k db → Live c record k db' := by
    intro hin record k hlive
    exact hlive.transfer (hmove.row (hclosed hin)) (hmove.receipt (hclosed hin))
  have hfailures : n.inWindow = true → db'.failures c.challengeId = db.failures c.challengeId := by
    intro hin
    exact hmove.failures (hmove.outside (hclosed hin)).2
  cases n with
  | outside enrollment => exact ⟨hbase, hmove.checked _ hn.2⟩
  | receiptSeen =>
    have hidle : m.attempting = false := by
      by_contra hattempting
      exact hapart.2 ⟨rfl, by simpa using hattempting⟩
    exact ⟨hbase, hn.2.transfer hmove.gone (hmove.failures hidle)⟩
  | spent => exact ⟨hbase, hn.2.transfer hmove.gone (hfailures rfl)⟩
  | read record enrollment =>
    refine ⟨hbase, hmove.checked _ hn.2.1, ?_⟩
    rw [hfailures rfl]
    exact hlive rfl hn.2.2
  | wrong record enrollment =>
    obtain ⟨-, hchecked, k, hk, hrecord⟩ := hn
    exact ⟨hbase, hmove.checked _ hchecked, k, (hfailures rfl).trans hk, hlive rfl hrecord⟩
  | recorded record =>
    obtain ⟨-, hlocked, k, hk, hrecord⟩ := hn
    have hseen : m ≠ .receiptSeen := fun hm => hapart.1 ⟨hm, rfl⟩
    have hauth := hmove.authStates (hmove.outside (hclosed rfl)).1 hseen
    refine ⟨hbase, fun heq => ?_, k, (hfailures rfl).trans hk, hlive rfl hrecord⟩
    exact (hlocked (hfailures rfl ▸ heq)).of_authStates hauth
  | settled => exact AtRest.move hn hm hmove hbase (hclosed rfl)

variable (c enrollments)

/-- A success is only answered while fewer comparisons failed than there are attempts. -/
def RightResult (result : Except VerifyFailure Verified) (db : Db) : Prop :=
  ∀ verified, result = .ok verified → db.failures c.challengeId < c.maxAttempts

/-- The outline of the calls on the challenge. Only a statement before the window may
go wrong. -/
def outline : Discipline database Mode (Except VerifyFailure Verified) where
  inWindow := Mode.inWindow
  Holds := Holds c enrollments
  Rest := AtRest c enrollments
  Permits opened _ outside := opened = true → outside.delivery = .answered
  Move := Move c enrollments
  Apart := Apart
  Final := RightResult c
  apart_symm _ _ h := ⟨h.2, h.1⟩
  stable := by
    intro m db m' db' n hm hmove hm' hn hapart hwindow
    have hclosed : n.inWindow = true → m'.inWindow = false := by
      intro hin
      by_contra hopen
      exact hwindow ⟨by simpa using hopen, hin⟩
    exact ⟨hm.move hmove hm' hn hapart hclosed, hapart.move hmove hn⟩

end Outline

end SeamsWallet.EmailOtp
