import SeamsWallet.Library.Run
import SeamsWallet.Nonce.Lane

/-!
# The durable lock of a nonce lane

Where a lane has no lock of its origin, its callers take turns by a row of the database. A
caller that finds no row, or one that has expired, writes its own and starts its task; once
the task is over it deletes the row, if the row is still its own. Nothing stops a task whose
row has expired, so the next caller may start beside it. As long as no caller asks while a
task runs past the time of its row, tasks run one at a time.
-/

namespace SeamsWallet.Nonce

open Library

structure NonceLaneLockRow where
  ownerId : StoredText
  fencingToken : ℕ
  acquiredAtMs : ℕ
  expiresAtMs : ℕ
  updatedAtMs : ℕ

/-- A caller tries until its deadline, runs its task, and then gives the lock back. -/
inductive NonceLaneLockPhase where
  | waiting (deadlineMs : ℕ)
  | running
  | releasing
  | ended
  deriving DecidableEq

structure NonceLaneLockCaller where
  ownerId : StoredText
  ttlMs : ℕ
  phase : NonceLaneLockPhase

/-- The row of one lock key, and its callers by the random token each of them draws. -/
structure NonceLaneLockState where
  nowMs : ℕ
  row : Option NonceLaneLockRow
  callers : ℕ → Option NonceLaneLockCaller
  nextToken : ℕ

/-- What can happen next. The two transactions are steps of their own, and the last one may
fail without notice. -/
inductive NonceLaneLockEvent where
  | call (ownerId : StoredText) (ttlMs waitTimeoutMs : Option ℚ)
  | tryAcquire (token : ℕ)
  | timeOut (token : ℕ)
  | endTask (token : ℕ)
  | release (token : ℕ) (fails : Bool)
  | passTime (ms : ℕ)

/-- A duration in whole milliseconds; zero stands for the default. -/
def lockDurationMs (defaultMs : ℕ) (ms : Option ℚ) : ℕ :=
  (max 1 (if ms.getD 0 = 0 then (defaultMs : ℚ) else ms.getD 0).floor).toNat

namespace NonceLaneLockState

def initial (nowMs : ℕ) : NonceLaneLockState := ⟨nowMs, none, fun _ => none, 0⟩

variable (s : NonceLaneLockState)

def setCaller (token : ℕ) (caller : NonceLaneLockCaller) : NonceLaneLockState :=
  { s with callers := Function.update s.callers token (some caller) }

def acquire (token : ℕ) (caller : NonceLaneLockCaller) : NonceLaneLockState :=
  if s.row.any (s.nowMs < ·.expiresAtMs) then s
  else
    { s.setCaller token { caller with phase := .running } with
      row := some ⟨caller.ownerId, token, s.nowMs, s.nowMs + caller.ttlMs, s.nowMs⟩ }

def next : NonceLaneLockEvent → NonceLaneLockState
  | .call ownerId ttlMs waitTimeoutMs =>
    { s.setCaller s.nextToken ⟨ownerId, lockDurationMs 5000 ttlMs,
        .waiting (s.nowMs + lockDurationMs 3000 waitTimeoutMs)⟩ with
      nextToken := s.nextToken + 1 }
  | .tryAcquire token => match s.callers token with
    | some caller@⟨_, _, .waiting _⟩ => s.acquire token caller
    | _ => s
  | .timeOut token => match s.callers token with
    | some caller@⟨_, _, .waiting deadlineMs⟩ =>
      if deadlineMs ≤ s.nowMs then s.setCaller token { caller with phase := .ended } else s
    | _ => s
  | .endTask token => match s.callers token with
    | some caller@⟨_, _, .running⟩ => s.setCaller token { caller with phase := .releasing }
    | _ => s
  | .release token fails => match s.callers token with
    | some caller@⟨_, _, .releasing⟩ =>
      { s.setCaller token { caller with phase := .ended } with
        row := if fails then s.row else s.row.filter (·.fencingToken ≠ token) }
    | _ => s
  | .passTime ms => { s with nowMs := s.nowMs + ms }

abbrev Running (token : ℕ) : Prop := (s.callers token).any (·.phase = .running) = true

/-- Tasks run one at a time. -/
def Excludes : Prop := ∀ token token', s.Running token → s.Running token' → token = token'

/-- A caller that ends deletes no row but its own. -/
def SparesOthers : Prop :=
  ∀ token fails row, s.row = some row → row.fencingToken ≠ token →
    (s.next (.release token fails)).row = some row

/-- Nobody asks for the lock while a task runs past the time of its row. -/
def InTime : NonceLaneLockEvent → Prop
  | .tryAcquire _ => ∀ row, s.row = some row → s.Running row.fencingToken →
    s.nowMs < row.expiresAtMs
  | _ => True

end NonceLaneLockState

open NonceLaneLockState

/-! ## Turns -/

variable {s : NonceLaneLockState} {token token' : ℕ} {caller : NonceLaneLockCaller}

theorem running_setCaller : (s.setCaller token caller).Running token' ↔
    if token' = token then caller.phase = .running else s.Running token' := by
  rw [Running, setCaller]
  split
  · rename_i h
    simp [h]
  · rename_i h
    simp [Running, Function.update_of_ne h]

/-- A task that runs has its row in the database. -/
def Held (s : NonceLaneLockState) : Prop :=
  ∀ token, s.Running token → ∃ row, s.row = some row ∧ row.fencingToken = token

/-- A caller that does not start to run leaves the turns as they are. -/
theorem Held.setCaller (h : Held s) (hphase : caller.phase ≠ .running) :
    Held (s.setCaller token caller) := by
  intro other hother
  rw [running_setCaller] at hother
  split at hother
  · exact absurd hother hphase
  · exact h other hother

theorem Held.acquire (h : Held s)
    (hin : ∀ row, s.row = some row → s.Running row.fencingToken → s.nowMs < row.expiresAtMs) :
    Held (s.acquire token caller) := by
  unfold NonceLaneLockState.acquire
  split
  · exact h
  · rename_i hfree
    intro other hother
    -- a running task would have a row that has not expired
    obtain rfl : other = token := by
      by_contra hne
      have hbefore := (if_neg hne).mp (running_setCaller.mp hother)
      obtain ⟨row, hrow, rfl⟩ := h other hbefore
      exact hfree (by simpa [hrow] using hin row hrow hbefore)
    exact ⟨_, rfl, rfl⟩

theorem Held.release (h : Held s) (hphase : caller.phase ≠ .running) (fails : Bool) :
    Held { s.setCaller token caller with
      row := if fails then s.row else s.row.filter (·.fencingToken ≠ token) } := by
  intro other hother
  obtain ⟨row, hrow, rfl⟩ := h.setCaller hphase other hother
  have hne : row.fencingToken ≠ token := by
    rintro rfl
    exact hphase ((if_pos rfl).mp (running_setCaller.mp hother))
  refine ⟨row, ?_, rfl⟩
  change (if fails then s.row else _) = _
  rw [show s.row = some row from hrow]
  simp [hne]

theorem Held.next {e : NonceLaneLockEvent} (h : Held s) (hin : s.InTime e) : Held (s.next e) := by
  fun_cases NonceLaneLockState.next s e
  case case1 => exact h.setCaller nofun
  case case2 => exact h.acquire hin
  case case4 => exact h.setCaller nofun
  case case7 => exact h.setCaller nofun
  case case9 => exact h.release (by simp) _
  all_goals exact h

theorem sparesOthers (s : NonceLaneLockState) : s.SparesOthers := by
  intro token fails row hrow hne
  rw [NonceLaneLockState.next]
  split
  · simp [hrow, hne]
  · exact hrow

theorem excludes_of_inTime {nowMs : ℕ} {events : List NonceLaneLockEvent}
    (h : Run (fun s e s' => s.next e = s' ∧ s.InTime e) (initial nowMs) events s) :
    s.Excludes := by
  have hheld : Held s := by
    refine h.invariant (fun _ s => Held s) (by rintro token ⟨⟩) ?_
    rintro _ _ e _ _ hs ⟨rfl, hin⟩
    exact hs.next hin
  intro token token' hrun hrun'
  obtain ⟨row, hrow, rfl⟩ := hheld token hrun
  obtain ⟨row', hrow', rfl⟩ := hheld token' hrun'
  rw [Option.some.inj (hrow.symm.trans hrow')]

def sampleOwner : StoredText := ⟨"tab", by decide +kernel⟩

end SeamsWallet.Nonce
