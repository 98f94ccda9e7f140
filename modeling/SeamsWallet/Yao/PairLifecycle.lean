import SeamsWallet.Library.BigEndian
import SeamsWallet.Library.Run

/-!
# The lifecycle of a Yao input pair

A role stores one record per input pair. An executor reserves a prepared pair, may
release it as long as its peer has not claimed the execution, and claims it before its
first protocol message; from then on the pair is completed or burned. Each transition
is a function of the stored record: what it persists replaces the record.
-/

namespace SeamsWallet.YaoPair

open Library

/-- The record of a pair: bindings `B`, execution ids `E`, the role's payload `P` and the
terminal response `O`. -/
inductive Ed25519YaoPairRecordV1 (B E P O : Type)
  | prepared (pairBinding : B) (rootMetadataDigest : Bytes 32) (expiresAtMs : ℕ) (payload : P)
  | starting (pairBinding : B) (rootMetadataDigest : Bytes 32) (expiresAtMs : ℕ)
      (executionId : E) (startedAtMs : ℕ) (payload : P)
  | running (pairBinding : B) (rootMetadataDigest : Bytes 32) (executionId : E)
      (startedAtMs : ℕ) (payload : P)
  | completed (pairBinding : B) (executionId : E) (payload : P) (outcome : O)
  | burned (pairBinding : B) (executionId : E)
  | expired (pairBinding : B)

inductive Ed25519YaoPairRejectionV1
  | identityMismatch
  | expired
  | conflictingExecution
  | terminal

inductive Ed25519YaoPairTransitionV1 (B E P O : Type)
  | persist (record : Ed25519YaoPairRecordV1 B E P O)
  | duplicate
  | reject (rejection : Ed25519YaoPairRejectionV1)

structure Ed25519YaoPairExecutorV1 (B E : Type) where
  pairBinding : B
  executionId : E
  nowMs : ℕ

section Transitions

variable {B E P O : Type} [DecidableEq B] [DecidableEq E] [DecidableEq P] [DecidableEq O]

def Ed25519YaoPairRecordV1.pairBinding : Ed25519YaoPairRecordV1 B E P O → B
  | prepared pairBinding _ _ _ | starting pairBinding _ _ _ _ _ | running pairBinding _ _ _ _
  | completed pairBinding _ _ _ | burned pairBinding _ | expired pairBinding => pairBinding

def prepareEd25519YaoPairV1 (current : Option (Ed25519YaoPairRecordV1 B E P O))
    (proposed : Ed25519YaoPairRecordV1 B E P O) (nowMs : ℕ) :
    Ed25519YaoPairTransitionV1 B E P O :=
  match proposed with
  | .prepared pairBinding rootMetadataDigest expiresAtMs payload =>
    if rootMetadataDigest.toList.all (· = 0) then .reject .identityMismatch
    else if expiresAtMs ≤ nowMs then .reject .expired
    else match current with
      | none => .persist proposed
      | some (.prepared storedBinding storedRoot storedExpiry storedPayload) =>
        if storedBinding ≠ pairBinding then .reject .identityMismatch
        else if storedRoot = rootMetadataDigest ∧ storedExpiry = expiresAtMs ∧
            storedPayload = payload then .duplicate
        else .persist proposed
      | some (.starting ..) | some (.running ..) => .reject .conflictingExecution
      | some _ => .reject .terminal
  | _ => .reject .terminal

variable (current : Ed25519YaoPairRecordV1 B E P O) (executor : Ed25519YaoPairExecutorV1 B E)

def reserveEd25519YaoPairV1 : Ed25519YaoPairTransitionV1 B E P O :=
  match current with
  | .prepared pairBinding rootMetadataDigest expiresAtMs payload =>
    if pairBinding ≠ executor.pairBinding then .reject .identityMismatch
    else if expiresAtMs ≤ executor.nowMs then .reject .expired
    else .persist (.starting pairBinding rootMetadataDigest expiresAtMs executor.executionId
      executor.nowMs payload)
  | .starting pairBinding _ _ executionId _ _ =>
    if pairBinding = executor.pairBinding ∧ executionId = executor.executionId then .duplicate
    else .reject .conflictingExecution
  | .running .. | .completed .. => .reject .conflictingExecution
  | .burned .. | .expired .. => .reject .terminal

def releaseEd25519YaoPairV1 : Ed25519YaoPairTransitionV1 B E P O :=
  match current with
  | .starting pairBinding rootMetadataDigest expiresAtMs executionId _ payload =>
    if pairBinding = executor.pairBinding ∧ executionId = executor.executionId then
      .persist (.prepared pairBinding rootMetadataDigest expiresAtMs payload)
    else .reject .conflictingExecution
  | .prepared pairBinding _ _ _ =>
    if pairBinding = executor.pairBinding then .duplicate else .reject .identityMismatch
  | .running .. | .completed .. => .reject .conflictingExecution
  | .burned .. | .expired .. => .reject .terminal

def claimEd25519YaoPairV1 : Ed25519YaoPairTransitionV1 B E P O :=
  match current with
  | .starting pairBinding rootMetadataDigest expiresAtMs executionId _ payload =>
    if executionId ≠ executor.executionId then .reject .conflictingExecution
    else if pairBinding ≠ executor.pairBinding then .reject .identityMismatch
    else if expiresAtMs ≤ executor.nowMs then .reject .expired
    else .persist (.running pairBinding rootMetadataDigest executor.executionId
      executor.nowMs payload)
  | .running pairBinding _ executionId _ _ | .completed pairBinding executionId _ _ =>
    if pairBinding = executor.pairBinding ∧ executionId = executor.executionId then .duplicate
    else .reject .conflictingExecution
  | .prepared .. => .reject .conflictingExecution
  | .burned .. | .expired .. => .reject .terminal

/-- The lifetime is measured by a saturating subtraction, so a clock that went backwards
counts as no time. -/
def completeEd25519YaoPairV1 (executionId : E) (outcome : O) (nowMs runningLifetimeMs : ℕ) :
    Ed25519YaoPairTransitionV1 B E P O :=
  match current with
  | .running pairBinding _ storedExecution startedAtMs payload =>
    if storedExecution = executionId then
      if runningLifetimeMs ≤ nowMs - startedAtMs then
        .persist (.burned pairBinding executionId)
      else .persist (.completed pairBinding executionId payload outcome)
    else .reject .conflictingExecution
  | .completed _ storedExecution _ storedOutcome =>
    if storedExecution = executionId ∧ storedOutcome = outcome then .duplicate
    else .reject .conflictingExecution
  | _ => .reject .terminal

def expireEd25519YaoPairV1 (nowMs : ℕ) : Ed25519YaoPairTransitionV1 B E P O :=
  match current with
  | .prepared pairBinding _ expiresAtMs _ =>
    if expiresAtMs ≤ nowMs then .persist (.expired pairBinding) else .reject .terminal
  | .expired _ => .duplicate
  | _ => .reject .terminal

def burnEd25519YaoPairV1 (executionId : E) : Ed25519YaoPairTransitionV1 B E P O :=
  match current with
  | .starting pairBinding _ _ storedExecution _ _ | .running pairBinding _ storedExecution _ _ =>
    if storedExecution = executionId then .persist (.burned pairBinding executionId)
    else .reject .conflictingExecution
  | .burned _ storedExecution =>
    if storedExecution = executionId then .duplicate else .reject .terminal
  | _ => .reject .terminal

/-! ## The stored record -/

inductive PairCommand (B E P O : Type)
  | prepare (proposed : Ed25519YaoPairRecordV1 B E P O) (nowMs : ℕ)
  | reserve (executor : Ed25519YaoPairExecutorV1 B E)
  | release (executor : Ed25519YaoPairExecutorV1 B E)
  | claim (executor : Ed25519YaoPairExecutorV1 B E)
  | complete (executionId : E) (outcome : O) (nowMs runningLifetimeMs : ℕ)
  | expire (nowMs : ℕ)
  | burn (executionId : E)

/-- What a transition makes of the stored record. All but a preparation need one. -/
def PairCommand.transition (stored : Option (Ed25519YaoPairRecordV1 B E P O)) :
    PairCommand B E P O → Option (Ed25519YaoPairTransitionV1 B E P O)
  | .prepare proposed nowMs => some (prepareEd25519YaoPairV1 stored proposed nowMs)
  | .reserve executor => stored.map fun current => reserveEd25519YaoPairV1 current executor
  | .release executor => stored.map fun current => releaseEd25519YaoPairV1 current executor
  | .claim executor => stored.map fun current => claimEd25519YaoPairV1 current executor
  | .complete executionId outcome nowMs runningLifetimeMs => stored.map fun current =>
    completeEd25519YaoPairV1 current executionId outcome nowMs runningLifetimeMs
  | .expire nowMs => stored.map fun current => expireEd25519YaoPairV1 current nowMs
  | .burn executionId => stored.map fun current => burnEd25519YaoPairV1 current executionId

def handle (stored : Option (Ed25519YaoPairRecordV1 B E P O)) (command : PairCommand B E P O) :
    Option (Ed25519YaoPairTransitionV1 B E P O) × Option (Ed25519YaoPairRecordV1 B E P O) :=
  match command.transition stored with
  | some (.persist record) => (some (.persist record), some record)
  | answer => (answer, stored)

end Transitions

/-! ## What a record can become -/

section Runs

variable {B E P O : Type}

/-- One change of the stored record. -/
inductive Changes :
    Option (Ed25519YaoPairRecordV1 B E P O) → Ed25519YaoPairRecordV1 B E P O → Prop
  | prepared (b : B) (root : Bytes 32) (expiry : ℕ) (payload : P) :
      Changes none (.prepared b root expiry payload)
  | preparedAgain (b : B) (root root' : Bytes 32) (expiry expiry' : ℕ) (payload payload' : P) :
      Changes (some (.prepared b root expiry payload)) (.prepared b root' expiry' payload')
  | reserved (b : B) (root : Bytes 32) (expiry : ℕ) (payload : P) (e : E) (startedAtMs : ℕ) :
      Changes (some (.prepared b root expiry payload))
        (.starting b root expiry e startedAtMs payload)
  | expired (b : B) (root : Bytes 32) (expiry : ℕ) (payload : P) :
      Changes (some (.prepared b root expiry payload)) (.expired b)
  | released (b : B) (root : Bytes 32) (expiry : ℕ) (payload : P) (e : E) (startedAtMs : ℕ) :
      Changes (some (.starting b root expiry e startedAtMs payload))
        (.prepared b root expiry payload)
  | claimed (b : B) (root : Bytes 32) (expiry : ℕ) (payload : P) (e : E)
      (startedAtMs startedAtMs' : ℕ) :
      Changes (some (.starting b root expiry e startedAtMs payload))
        (.running b root e startedAtMs' payload)
  | burnedStarting (b : B) (root : Bytes 32) (expiry : ℕ) (payload : P) (e : E)
      (startedAtMs : ℕ) :
      Changes (some (.starting b root expiry e startedAtMs payload)) (.burned b e)
  | completed (b : B) (root : Bytes 32) (payload : P) (e : E) (startedAtMs : ℕ) (outcome : O) :
      Changes (some (.running b root e startedAtMs payload)) (.completed b e payload outcome)
  | burnedRunning (b : B) (root : Bytes 32) (payload : P) (e : E) (startedAtMs : ℕ) :
      Changes (some (.running b root e startedAtMs payload)) (.burned b e)

variable {nowMs : ℕ} {record : Ed25519YaoPairRecordV1 B E P O}
  {stored : Option (Ed25519YaoPairRecordV1 B E P O)}

theorem prepare_changes [DecidableEq B] [DecidableEq P] {proposed : Ed25519YaoPairRecordV1 B E P O}
    (h : prepareEd25519YaoPairV1 stored proposed nowMs = .persist record) :
    Changes stored record := by
  unfold prepareEd25519YaoPairV1 at h
  repeat' split at h
  all_goals cases h
  · exact .prepared ..
  · rename_i hbinding _
    obtain rfl := not_not.mp hbinding
    exact .preparedAgain ..

variable {current : Ed25519YaoPairRecordV1 B E P O} {executor : Ed25519YaoPairExecutorV1 B E}

theorem reserve_changes [DecidableEq B] [DecidableEq E]
    (h : reserveEd25519YaoPairV1 current executor = .persist record) :
    Changes (some current) record := by
  cases current with
  | prepared b root expiry payload =>
    simp only [reserveEd25519YaoPairV1] at h
    split_ifs at h
    cases h
    exact .reserved ..
  | starting =>
    simp only [reserveEd25519YaoPairV1] at h
    split_ifs at h
  | running | completed | burned | expired => cases h

theorem release_changes [DecidableEq B] [DecidableEq E]
    (h : releaseEd25519YaoPairV1 current executor = .persist record) :
    Changes (some current) record := by
  cases current with
  | starting b root expiry e startedAtMs payload =>
    simp only [releaseEd25519YaoPairV1] at h
    split_ifs at h
    cases h
    exact .released ..
  | prepared =>
    simp only [releaseEd25519YaoPairV1] at h
    split_ifs at h
  | running | completed | burned | expired => cases h

theorem claim_changes [DecidableEq B] [DecidableEq E]
    (h : claimEd25519YaoPairV1 current executor = .persist record) :
    Changes (some current) record := by
  cases current with
  | starting b root expiry e startedAtMs payload =>
    simp only [claimEd25519YaoPairV1] at h
    split_ifs at h with hexecution
    obtain rfl := not_not.mp hexecution
    cases h
    exact .claimed ..
  | running | completed =>
    simp only [claimEd25519YaoPairV1] at h
    split_ifs at h
  | prepared | burned | expired => cases h

variable {executionId : E}

theorem complete_changes [DecidableEq E] [DecidableEq O] {outcome : O} {runningLifetimeMs : ℕ}
    (h : completeEd25519YaoPairV1 current executionId outcome nowMs runningLifetimeMs =
      .persist record) :
    Changes (some current) record := by
  cases current with
  | running b root e startedAtMs payload =>
    simp only [completeEd25519YaoPairV1] at h
    split_ifs at h with hexecution <;> subst hexecution <;> cases h
    · exact .burnedRunning ..
    · exact .completed ..
  | completed =>
    simp only [completeEd25519YaoPairV1] at h
    split_ifs at h
  | prepared | starting | burned | expired => cases h

theorem expire_changes (h : expireEd25519YaoPairV1 current nowMs = .persist record) :
    Changes (some current) record := by
  cases current with
  | prepared b root expiry payload =>
    simp only [expireEd25519YaoPairV1] at h
    split_ifs at h
    cases h
    exact .expired ..
  | starting | running | completed | burned | expired => cases h

theorem burn_changes [DecidableEq E]
    (h : burnEd25519YaoPairV1 current executionId = .persist record) :
    Changes (some current) record := by
  cases current with
  | starting =>
    simp only [burnEd25519YaoPairV1] at h
    split_ifs at h with hexecution
    subst hexecution
    cases h
    exact .burnedStarting ..
  | running =>
    simp only [burnEd25519YaoPairV1] at h
    split_ifs at h with hexecution
    subst hexecution
    cases h
    exact .burnedRunning ..
  | burned =>
    simp only [burnEd25519YaoPairV1] at h
    split_ifs at h
  | prepared | completed | expired => cases h

/-- The execution that runs on the pair or has been completed. -/
def Ed25519YaoPairRecordV1.execution? : Ed25519YaoPairRecordV1 B E P O → Option E
  | running _ _ executionId _ _ | completed _ executionId _ _ => some executionId
  | _ => none

/-- No executor has claimed the pair. -/
def Ed25519YaoPairRecordV1.isUnclaimed : Ed25519YaoPairRecordV1 B E P O → Bool
  | prepared .. | starting .. => true
  | _ => false

def Ed25519YaoPairRecordV1.isTerminal : Ed25519YaoPairRecordV1 B E P O → Bool
  | completed .. | burned .. | expired .. => true
  | _ => false

/-- What a record may have become later. -/
structure Continues (record later : Ed25519YaoPairRecordV1 B E P O) : Prop where
  pairBinding : later.pairBinding = record.pairBinding
  execution : ∀ e, record.execution? = some e →
    later.isUnclaimed = false ∧ ∀ e', later.execution? = some e' → e = e'
  terminal : record.isTerminal = true → later = record

theorem Continues.refl (record : Ed25519YaoPairRecordV1 B E P O) : Continues record record := by
  refine ⟨rfl, ?_, fun _ => rfl⟩
  intro e he
  cases record with
  | running | completed => exact ⟨rfl, fun e' he' => Option.some.inj (he.symm.trans he')⟩
  | prepared | starting | burned | expired => cases he

variable {later : Ed25519YaoPairRecordV1 B E P O}

theorem Changes.continues (h : Changes (some record) later) : Continues record later := by
  cases h with
  | preparedAgain | reserved | expired | released | claimed | burnedStarting =>
    exact ⟨rfl, fun e he => (nomatch he), fun hterminal => (nomatch hterminal)⟩
  | completed =>
    exact ⟨rfl, fun e he => ⟨rfl, fun e' he' => Option.some.inj (he.symm.trans he')⟩,
      fun hterminal => (nomatch hterminal)⟩
  | burnedRunning =>
    exact ⟨rfl, fun e he => ⟨rfl, fun e' he' => (nomatch he')⟩,
      fun hterminal => (nomatch hterminal)⟩

theorem Continues.trans {last : Ed25519YaoPairRecordV1 B E P O}
    (h : Continues record later) (h' : Continues later last) : Continues record last := by
  refine ⟨h'.pairBinding.trans h.pairBinding, ?_, ?_⟩
  · intro e he
    obtain ⟨hclaimed, hexecution⟩ := h.execution e he
    cases hlater : later.execution? with
    | some e' =>
      rw [hexecution e' hlater]
      exact h'.execution e' hlater
    | none =>
      -- A claimed pair without an execution is burned or expired for good.
      have hterminal : later.isTerminal = true := by
        cases later with
        | prepared | starting => cases hclaimed
        | running | completed => cases hlater
        | burned | expired => rfl
      rw [h'.terminal hterminal]
      exact ⟨hclaimed, hexecution⟩
  · intro hterminal
    have heq := h.terminal hterminal
    rw [heq] at h'
    exact h'.terminal hterminal

theorem claim_duplicate [DecidableEq B] [DecidableEq E]
    (h : claimEd25519YaoPairV1 current executor = .duplicate) :
    current.pairBinding = executor.pairBinding ∧
      current.execution? = some executor.executionId := by
  cases current with
  | starting =>
    simp only [claimEd25519YaoPairV1] at h
    split_ifs at h
  | running | completed =>
    simp only [claimEd25519YaoPairV1] at h
    split_ifs at h with hsame
    exact ⟨hsame.1, congrArg some hsame.2⟩
  | prepared | burned | expired => cases h

/-! ## Over a whole run -/

variable [DecidableEq B] [DecidableEq E] [DecidableEq P] [DecidableEq O]

theorem PairCommand.changes {command : PairCommand B E P O}
    (h : command.transition stored = some (.persist record)) : Changes stored record := by
  cases stored with
  | none =>
    cases command with
    | prepare proposed nowMs => exact prepare_changes (Option.some.inj h)
    | reserve | release | claim | complete | expire | burn => cases h
  | some current =>
    cases command with
    | prepare proposed nowMs => exact prepare_changes (Option.some.inj h)
    | reserve executor => exact reserve_changes (Option.some.inj h)
    | release executor => exact release_changes (Option.some.inj h)
    | claim executor => exact claim_changes (Option.some.inj h)
    | complete executionId outcome nowMs runningLifetimeMs =>
      exact complete_changes (Option.some.inj h)
    | expire nowMs => exact expire_changes (Option.some.inj h)
    | burn executionId => exact burn_changes (Option.some.inj h)

variable (stored : Option (Ed25519YaoPairRecordV1 B E P O))

/-- A stored record stays stored, and continues. -/
def StaysStored (stored later : Option (Ed25519YaoPairRecordV1 B E P O)) : Prop :=
  ∀ record, stored = some record → ∃ record', later = some record' ∧ Continues record record'

theorem staysStored_handle (command : PairCommand B E P O) :
    StaysStored stored (handle stored command).2 := by
  intro record hstored
  rw [handle]
  split
  · rename_i record' h
    have hchanges := command.changes h
    rw [hstored] at hchanges
    exact ⟨record', rfl, hchanges.continues⟩
  · exact ⟨record, hstored, .refl record⟩

theorem staysStored_stateAfter (commands : List (PairCommand B E P O)) :
    StaysStored stored (stateAfter handle stored commands) := by
  induction commands generalizing stored with
  | nil => exact fun record hstored => ⟨record, hstored, .refl record⟩
  | cons command commands ih =>
    intro record hstored
    obtain ⟨record', hrecord', hcontinues⟩ := staysStored_handle stored command record hstored
    obtain ⟨last, hlast, hcontinues'⟩ := ih _ record' hrecord'
    exact ⟨last, hlast, hcontinues.trans hcontinues'⟩

/-- The record after the first `i` commands. -/
def recordAfter (start : Option (Ed25519YaoPairRecordV1 B E P O))
    (commands : List (PairCommand B E P O)) (i : ℕ) : Option (Ed25519YaoPairRecordV1 B E P O) :=
  stateAfter handle start (commands.take i)

theorem staysStored_recordAfter (start : Option (Ed25519YaoPairRecordV1 B E P O))
    (commands : List (PairCommand B E P O)) {i j : ℕ} (hij : i ≤ j) :
    StaysStored (recordAfter start commands i) (recordAfter start commands j) := by
  have hsplit : commands.take j = commands.take i ++ (commands.take j).drop i := by
    have h := List.take_append_drop i (commands.take j)
    rw [List.take_take, Nat.min_eq_left hij] at h
    exact h.symm
  have hlater : recordAfter start commands j =
      stateAfter handle (recordAfter start commands i) ((commands.take j).drop i) := by
    rw [recordAfter, stateAfter]
    nth_rewrite 1 [hsplit]
    exact List.foldl_append
  rw [hlater]
  exact staysStored_stateAfter _ _

/-- Over any sequence of transitions on the record of a pair at most one execution ever
runs on it, its binding stays, a claimed pair is not offered again, a finished record
does not change, and a duplicate claim is one of the stored execution. -/
theorem pair_executed_once (start : Option (Ed25519YaoPairRecordV1 B E P O))
    (commands : List (PairCommand B E P O)) :
    (∀ i j record record' e e', recordAfter start commands i = some record →
      recordAfter start commands j = some record' → record.execution? = some e →
      record'.execution? = some e' → e = e') ∧
    (∀ i j record, i ≤ j → recordAfter start commands i = some record →
      ∃ record', recordAfter start commands j = some record' ∧
        record'.pairBinding = record.pairBinding ∧
        (record.execution?.isSome = true → record'.isUnclaimed = false) ∧
        (record.isTerminal = true → record' = record)) ∧
    ∀ i executor, (handle (recordAfter start commands i) (.claim executor)).1 = some .duplicate →
      ∃ record, recordAfter start commands i = some record ∧
        record.pairBinding = executor.pairBinding ∧
        record.execution? = some executor.executionId := by
  refine ⟨?_, ?_, ?_⟩
  · intro i j record record' e e' hi hj he he'
    rcases Nat.le_total i j with hij | hji
    · obtain ⟨later, hlater, hcontinues⟩ := staysStored_recordAfter start commands hij record hi
      obtain rfl := Option.some.inj (hlater.symm.trans hj)
      exact (hcontinues.execution e he).2 e' he'
    · obtain ⟨later, hlater, hcontinues⟩ := staysStored_recordAfter start commands hji record' hj
      obtain rfl := Option.some.inj (hlater.symm.trans hi)
      exact ((hcontinues.execution e' he').2 e he).symm
  · intro i j record hij hi
    obtain ⟨later, hlater, hcontinues⟩ := staysStored_recordAfter start commands hij record hi
    refine ⟨later, hlater, hcontinues.pairBinding, ?_, hcontinues.terminal⟩
    intro hsome
    obtain ⟨e, he⟩ := Option.isSome_iff_exists.mp hsome
    exact (hcontinues.execution e he).1
  · intro i executor h
    cases hstored : recordAfter start commands i with
    | none =>
      rw [hstored] at h
      cases h
    | some record =>
      refine ⟨record, rfl, claim_duplicate ?_⟩
      rw [hstored, handle] at h
      split at h
      · cases h
      · exact Option.some.inj h

end Runs

end SeamsWallet.YaoPair
