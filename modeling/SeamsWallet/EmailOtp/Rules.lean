import SeamsWallet.EmailOtp.Outline

/-!
# The statements under the outline

One rule for each kind of statement: from which mode a call may run it, and which
mode it is in afterwards. Before the window a statement may go wrong, and the call
then ends; in the window every statement is answered.
-/

namespace SeamsWallet.EmailOtp

open Library

def Statement.deletesOnly : Statement → Bool
  | compareCode _ _ | upsertAuthState _ | updateChallenge _ | consumeWithReceipt _ _ => false
  | _ => true

section Rules

variable {c : EmailOtpChallengeRecord}
  {enrollments : Dict String EmailOtpWalletEnrollmentRecord} {V : Type} (d : Dict String V)

theorem get?_delete_or (k k' : String) :
    (d.delete k).get? k' = d.get? k' ∨ (d.delete k).get? k' = none := by
  cases h : (d.delete k).get? k' with
  | none => exact .inr rfl
  | some v => exact .inl (Dict.get?_delete.mp h).1.symm

theorem get?_delete_self (k : String) : (d.delete k).get? k = none := by
  cases h : (d.delete k).get? k with
  | none => rfl
  | some v => exact absurd rfl (Dict.get?_delete.mp h).2

theorem get?_filter_or (p : V → Bool) (k : String) :
    (d.filter p).get? k = d.get? k ∨ (d.filter p).get? k = none := by
  cases h : (d.filter p).get? k with
  | none => exact .inr rfl
  | some v => exact .inl (Dict.get?_filter.mp h).1.symm

variable (db : Db)

theorem Idle.refl : Idle c db db where
  enrollments := rfl
  authStates := rfl
  failures := rfl
  row := .inl rfl
  receipt := .inl rfl

variable {q : Statement} (limited : Option RateLimited)

theorem idle_perform (hq : q.deletesOnly = true) : Idle c db (db.perform limited q).2 := by
  cases q with
  | compareCode | upsertAuthState | updateChallenge | consumeWithReceipt => cases hq
  | dateNow | consumeRateLimit | selectEnrollment | selectAuthState | selectChallenge
  | selectReceipt => exact Idle.refl db
  | deleteExpiredChallenges nowMs =>
    exact ⟨rfl, rfl, rfl, get?_filter_or _ _ _, .inl rfl⟩
  | deleteChallenge challengeId | consumeChallenge challengeId =>
    exact ⟨rfl, rfl, rfl, get?_delete_or _ _ _, .inl rfl⟩
  | deleteReceipt challengeId => exact ⟨rfl, rfl, rfl, .inl rfl, get?_delete_or _ _ _⟩

theorem perform_ok (hq : q.deletesOnly = true) : ∃ row, (db.perform limited q).1 = .ok row := by
  cases q with
  | compareCode | upsertAuthState | updateChallenge | consumeWithReceipt => cases hq
  | _ => exact ⟨_, rfl⟩

/-- What can come of a statement: it is performed, or the caller only learns of an
error. -/
theorem execute_cases (outside : Outside) (db : Db) (q : Statement) :
    db.execute outside q = db.perform outside.rateLimited q ∨
      outside.delivery ≠ .answered ∧ ∃ message, (db.execute outside q).1 = .error message ∧
        ((db.execute outside q).2 = db ∨
          (db.execute outside q).2 = (db.perform outside.rateLimited q).2) := by
  unfold Db.execute
  split
  · exact .inl rfl
  · cases outside.delivery with
    | answered => exact .inl rfl
    | failed message => exact .inr ⟨nofun, message, rfl, .inl rfl⟩
    | lost message => exact .inr ⟨nofun, message, rfl, .inr rfl⟩

theorem takes_of {m m' : Mode} {db db' : Db} (hm : Holds c enrollments m db)
    (hwindow : m'.inWindow = (m.inWindow || q.readsChallenge))
    (hm' : Holds c enrollments m' db') (hmove : Move c enrollments m db m' db') :
    (outline c enrollments).Takes m db q m' db' where
  window := hwindow
  holds := hm'
  move := hmove
  rest hclosed hrest := AtRest.move hrest hm hmove hm'.base hclosed

/-! ## Programs of a call -/

section Keeps

variable (c enrollments) {α β : Type}

/-- The program keeps to the outline and ends with a value as `ok` says; where it
fails, no record of a comparison is owed. -/
def Keeps (ok : Mode → α → Prop) (m : Mode) (p : Verify α) : Prop :=
  (outline c enrollments).Obeys (fun m r => match r with
    | .ok value => ok m value
    | .error _ => m.owes = false) m p

variable {c enrollments} {ok : Mode → α → Prop} {m : Mode} {p : Prop} [Decidable p]

theorem keeps_pure {value : α} (h : ok m value) : Keeps c enrollments ok m (pure value) :=
  Discipline.obeys_pure h

variable {error : VerifyError}

theorem keeps_fail (hm : m.owes = false) : Keeps c enrollments ok m (.fail error) :=
  Discipline.obeys_fail hm

theorem keeps_bind {ok : Mode → β → Prop} {first : Verify α} {next : α → Verify β}
    (h : Keeps c enrollments (fun m value => Keeps c enrollments ok m (next value)) m first) :
    Keeps c enrollments ok m (first >>= next) := by
  refine Discipline.obeys_bind (Discipline.Obeys.mono h fun m' r hr => ?_)
  cases r with
  | ok value | error error => exact hr

variable {next : Unit → Verify α}

theorem keeps_ensure (hm : m.owes = false) (h : p → Keeps c enrollments ok m (next ())) :
    Keeps c enrollments ok m (Program.ensure p error >>= next) :=
  keeps_bind (Discipline.obeys_ensure h fun _ => hm)

theorem keeps_require {code message : String} (hm : m.owes = false)
    (h : p → Keeps c enrollments ok m (next ())) :
    Keeps c enrollments ok m (require p code message >>= next) :=
  keeps_ensure hm h

end Keeps

theorem Mode.owes_of_outside {m : Mode} (h : m.inWindow = false) : m.owes = false := by
  cases m with
  | outside e | receiptSeen => rfl
  | read r e | wrong r e | recorded r | spent | settled => cases h

variable {m : Mode} (q : Statement) {ok : Mode → q.Row → Prop}

theorem keeps_run (h : ∀ db outside, Holds c enrollments m db → (m.inWindow = true →
      outside.delivery = .answered) → (q.readsChallenge = true → m.inWindow = false →
      AtRest c enrollments db) → ∃ m',
      (outline c enrollments).Takes m db q m' (db.execute outside q).2 ∧
      (∀ row, (db.execute outside q).1 = .ok row → ok m' row) ∧
      ∀ message, (db.execute outside q).1 = .error message → m'.owes = false) :
    Keeps c enrollments ok m (run q) := by
  refine keeps_bind (Discipline.obeys_query fun db outside hm hpermits hrest => ?_)
  obtain ⟨m', htakes, hok, herror⟩ := h db outside hm hpermits hrest
  refine ⟨m', htakes, Discipline.obeys_pure ?_⟩
  change Keeps c enrollments ok m' (rethrow (db.execute outside q).1)
  cases hanswer : (db.execute outside q).1 with
  | ok row => exact keeps_pure (hok row hanswer)
  | error message => exact keeps_fail (herror message hanswer)

theorem keeps_run_window (hin : m.inWindow = true) (h : ∀ db limited, Holds c enrollments m db →
      ∃ m' row, (db.perform limited q).1 = .ok row ∧ m'.inWindow = true ∧
      Holds c enrollments m' (db.perform limited q).2 ∧
      Move c enrollments m db m' (db.perform limited q).2 ∧ ok m' row) :
    Keeps c enrollments ok m (run q) := by
  refine keeps_run q fun db outside hm hpermits _ => ?_
  rcases execute_cases outside db q with hexec | ⟨hne, -⟩
  · obtain ⟨m', row, hrow, hin', hm', hmove, hok⟩ := h db outside.rateLimited hm
    rw [hexec, hrow]
    refine ⟨m', takes_of hm (by rw [hin, hin']; rfl) hm' hmove, ?_, nofun⟩
    intro row' hrow'
    exact Except.ok.inj hrow' ▸ hok
  · exact absurd (hpermits hin) hne

theorem keeps_run_outside (hout : m.inWindow = false) (hq : q.readsChallenge = false)
    (hmove : ∀ db limited, Holds c enrollments m db →
      Holds c enrollments m (db.perform limited q).2 ∧
      Move c enrollments m db m (db.perform limited q).2)
    (hok : ∀ db limited, Holds c enrollments m db →
      ∃ m' row, (db.perform limited q).1 = .ok row ∧ m'.inWindow = false ∧
      Holds c enrollments m' (db.perform limited q).2 ∧
      Move c enrollments m db m' (db.perform limited q).2 ∧ ok m' row) :
    Keeps c enrollments ok m (run q) := by
  refine keeps_run q fun db outside hm _ _ => ?_
  rcases execute_cases outside db q with hexec | ⟨-, message, hanswer, hdb⟩
  · obtain ⟨m', row, hrow, hout', hm', hmove', hpost⟩ := hok db outside.rateLimited hm
    rw [hexec, hrow]
    refine ⟨m', takes_of hm (by rw [hout, hout', hq]; rfl) hm' hmove', ?_, nofun⟩
    intro row' hrow'
    exact Except.ok.inj hrow' ▸ hpost
  · have hwindow : m.inWindow = (m.inWindow || q.readsChallenge) := by rw [hout, hq]; rfl
    rw [hanswer]
    refine ⟨m, ?_, nofun, fun _ _ => Mode.owes_of_outside hout⟩
    rcases hdb with hsame | hlost
    · rw [hsame]
      exact takes_of hm hwindow hm ((Idle.refl db).move id .inl .inl)
    · rw [hlost]
      obtain ⟨hm', hmove'⟩ := hmove db outside.rateLimited hm
      exact takes_of hm hwindow hm' hmove'

/-- The call stays in its mode, whatever the answer. -/
theorem keeps_run_same (hread : q.readsChallenge = true → m.inWindow = true)
    (h : ∀ db limited, Holds c enrollments m db → ∃ row, (db.perform limited q).1 = .ok row ∧
      Holds c enrollments m (db.perform limited q).2 ∧
      Move c enrollments m db m (db.perform limited q).2 ∧ ok m row) :
    Keeps c enrollments ok m (run q) := by
  cases hin : m.inWindow with
  | true =>
    refine keeps_run_window q hin fun db limited hm => ?_
    obtain ⟨row, hrow, hm', hmove, hok⟩ := h db limited hm
    exact ⟨m, row, hrow, hin, hm', hmove, hok⟩
  | false =>
    have hread' : q.readsChallenge = false := by
      by_contra hreads
      rw [hread (by simpa using hreads)] at hin
      cases hin
    refine keeps_run_outside q hin hread' (fun db limited hm => ?_) fun db limited hm => ?_
    · obtain ⟨row, -, hm', hmove, -⟩ := h db limited hm
      exact ⟨hm', hmove⟩
    · obtain ⟨row, hrow, hm', hmove, hok⟩ := h db limited hm
      exact ⟨m, row, hrow, hin, hm', hmove, hok⟩

/-- A statement that only deletes. -/
theorem keeps_run_idle (hq : q.deletesOnly = true)
    (hread : q.readsChallenge = true → m.inWindow = true)
    (hok : ∀ db limited row, Holds c enrollments m db → (db.perform limited q).1 = .ok row →
      ok m row) :
    Keeps c enrollments ok m (run q) := by
  refine keeps_run_same q hread fun db limited hm => ?_
  have hidle : Idle c db (db.perform limited q).2 := idle_perform db limited hq
  obtain ⟨row, hrow⟩ := perform_ok db limited hq
  exact ⟨row, hrow, hm.idle hidle, hidle.move id .inl .inl, hok db limited row hm hrow⟩

theorem keeps_ask {α : Type} {ok : Mode → α → Prop} {next : q.Row → Verify α}
    (hq : q.deletesOnly = true) (hread : q.readsChallenge = true → m.inWindow = true)
    (hok : ∀ row, Keeps c enrollments ok m (next row)) :
    Keeps c enrollments ok m (run q >>= next) :=
  keeps_bind (keeps_run_idle q hq hread fun _ _ row _ _ => hok row)

end Rules

end SeamsWallet.EmailOtp
