import SeamsWallet.Library.Run
import SeamsWallet.TenantRoot.ManagedRestore

/-!
# What every run of a tenant root keeps

The states of creation, refresh and managed restore in one transition system, started
from an empty lineage. What the invariants need of a state is its revision, its active
epoch and the epoch under way; seen so, a transition starts an epoch, verifies it,
activates it or leaves the epochs alone. The invariants are proved of that view and hold
of every run: each call raises the revision by one, the active epoch number moves only at
an activation and then by one, the root of the first active epoch is the root of every
later one, and consecutive epochs share no role commitment.
-/

namespace SeamsWallet.TenantRoot

open Library ThresholdPrf TenantRootEpochCommitments TenantRootPreparingRefresh
  TenantRootManagedRestoreAvailable

/-! ## States and calls -/

/-- The states of the three machines. -/
inductive TenantRootState where
  | emptyCreation (state : TenantRootEmptyCreation)
  | preparingCreation (state : TenantRootPreparingCreation)
  | verifiedCreation (state : TenantRootVerifiedCreation)
  | activeCreation (state : TenantRootActiveCreation)
  | activeRefresh (state : TenantRootActiveRefresh)
  | preparingRefresh (state : TenantRootPreparingRefresh)
  | verifiedRefresh (state : TenantRootVerifiedRefresh)
  | retiringRefresh (state : TenantRootRetiringRefresh)
  | failedRefresh (state : TenantRootFailedBeforeActivationRefresh)
  | available (state : TenantRootManagedRestoreAvailable)
  | roleUnavailable (state : TenantRootManagedRestoreRoleUnavailable)
  | restoring (state : TenantRootManagedRestoreInstalling)
  | verifying (state : TenantRootManagedRestoreVerifying)
  | forwardPreparing (state : TenantRootManagedRestoreForward TenantRootPreparingRefresh)
  | forwardVerified (state : TenantRootManagedRestoreForward TenantRootVerifiedRefresh)
  | forwardRetiring (state : TenantRootManagedRestoreForward TenantRootRetiringRefresh)
  | forwardFailed
      (state : TenantRootManagedRestoreForward TenantRootFailedBeforeActivationRefresh)

/-- The calls of a run. The last three move a state between the machines. -/
inductive Call where
  | start
  | verify
  | activate
  | finishRetirement
  | failWithCleanup
  | retry
  | markRoleUnavailable
  | startRestore
  | acceptInstallation
  | beginForwardRefresh
  | intoRefreshState
  | newAvailable
  | active
  deriving DecidableEq

def Call.isConversion : Call → Bool
  | intoRefreshState => true
  | newAvailable => true
  | active => true
  | _ => false

variable {q : ℕ} {G : Type} [AddCommGroup G] [Module (ZMod q) G]

inductive Step [DecidableEq G] (env : TenantRootEnvironment q G) :
    TenantRootState → Call → TenantRootState → Prop
  | startCreation {state state'} (context : TenantRootCeremonyContext)
      (h : state.start env context = .ok state') :
      Step env (.emptyCreation state) .start (.preparingCreation state')
  | verifyCreation {state state'} (verification : EpochVerification q G)
      (h : state.verify env verification = .ok state') :
      Step env (.preparingCreation state) .verify (.verifiedCreation state')
  | activateCreation {state state'} (receipt : VerifiedTenantRootSignedActivationReceipt)
      (h : state.activate env receipt = .ok state') :
      Step env (.verifiedCreation state) .activate (.activeCreation state')
  | intoRefreshState {state} :
      Step env (.activeCreation state) .intoRefreshState (.activeRefresh state.intoRefreshState)
  | startRefresh {state state'} (context : TenantRootCeremonyContext)
      (h : state.start env context = .ok state') :
      Step env (.activeRefresh state) .start (.preparingRefresh state')
  | verifyRefresh {state state'} (verification : EpochVerification q G)
      (h : state.verify env verification = .ok state') :
      Step env (.preparingRefresh state) .verify (.verifiedRefresh state')
  | failRefresh {state state'} (failure : TenantRootRefreshFailure)
      (cleanup : TenantRootPendingCleanupReceipt)
      (h : state.failWithCleanup failure cleanup = .ok state') :
      Step env (.preparingRefresh state) .failWithCleanup (.failedRefresh state')
  | activateRefresh {state state'} (receipt : VerifiedTenantRootSignedActivationReceipt)
      (h : state.activate env receipt = .ok state') :
      Step env (.verifiedRefresh state) .activate (.retiringRefresh state')
  | finishRetirement {state state'} (receipts : TenantRootRoleRetirementReceipts)
      (h : state.finishRetirement receipts = .ok state') :
      Step env (.retiringRefresh state) .finishRetirement (.activeRefresh state')
  | retryRefresh {state state'} (context : TenantRootCeremonyContext)
      (h : state.retry env context = .ok state') :
      Step env (.failedRefresh state) .retry (.preparingRefresh state')
  | newAvailable {active state'}
      (h : new active = .ok state') :
      Step env (.activeRefresh active) .newAvailable (.available state')
  | active {state} : Step env (.available state) .active (.activeRefresh state.active)
  | markRoleUnavailable {state state'} (receipt : TenantRootRoleUnavailableReceipt)
      (h : state.markRoleUnavailable receipt = .ok state') :
      Step env (.available state) .markRoleUnavailable (.roleUnavailable state')
  | startRestore {state state'} (capability : TenantRootManagedRestoreCapability)
      (startedAtMs : ℕ) (h : state.startRestore env capability startedAtMs = .ok state') :
      Step env (.roleUnavailable state) .startRestore (.restoring state')
  | acceptInstallation {state state'} (receipt : TenantRootManagedRestoreInstallationReceipt)
      (h : acceptInstallation state.core receipt = .ok state') :
      Step env (.restoring state) .acceptInstallation (.verifying state')
  -- only the branch of Deriver A can be given up
  | failRestore {core state'} (failure : TenantRootManagedRestoreFailure)
      (cleanup : TenantRootManagedRestoreCleanupReceipt)
      (h : failInstallationWithCleanup core failure cleanup = .ok state') :
      Step env (.restoring (.restoringA core)) .failWithCleanup (.roleUnavailable state')
  | beginForwardRefresh {state state'}
      (peer : TenantRootManagedRestorePeerVerificationReceipt)
      (context : TenantRootCeremonyContext)
      (h : state.beginForwardRefresh env peer context = .ok state') :
      Step env (.verifying state) .beginForwardRefresh (.forwardPreparing state')
  | verifyForward {restored state state'} (verification : EpochVerification q G)
      (h : state.verify env verification = .ok state') :
      Step env (.forwardPreparing ⟨restored, state⟩) .verify (.forwardVerified ⟨restored, state'⟩)
  | failForward {restored state state'} (failure : TenantRootRefreshFailure)
      (cleanup : TenantRootPendingCleanupReceipt)
      (h : state.failWithCleanup failure cleanup = .ok state') :
      Step env (.forwardPreparing ⟨restored, state⟩) .failWithCleanup
        (.forwardFailed ⟨restored, state'⟩)
  | activateForward {restored state state'}
      (receipt : VerifiedTenantRootSignedActivationReceipt)
      (h : state.activate env receipt = .ok state') :
      Step env (.forwardVerified ⟨restored, state⟩) .activate (.forwardRetiring ⟨restored, state'⟩)
  | finishForward {restored state refresh state'}
      (receipts : TenantRootRoleRetirementReceipts)
      (h : state.finishRetirement receipts = .ok refresh)
      (hnew : new refresh = .ok state') :
      Step env (.forwardRetiring ⟨restored, state⟩) .finishRetirement (.available state')
  | retryForward {restored state state'} (context : TenantRootCeremonyContext)
      (h : state.retry env context = .ok state') :
      Step env (.forwardFailed ⟨restored, state⟩) .retry (.forwardPreparing ⟨restored, state'⟩)

/-! ## The view of a state -/

/-- The revision of a state, its active epoch and the epoch under way. -/
structure EpochView where
  revision : ℕ
  active : Option ActiveTenantRootEpoch
  pending : Option PendingTenantRootEpoch
  verified : Option VerifiedTenantRootEpoch

def TenantRootPreparingRefresh.view (state : TenantRootPreparingRefresh) : EpochView :=
  ⟨state.revision, some state.current, some state.next, none⟩

def TenantRootVerifiedRefresh.view (state : TenantRootVerifiedRefresh) : EpochView :=
  ⟨state.revision, some state.current, none, some state.next⟩

def EpochView.stable (revision : ℕ) (current : ActiveTenantRootEpoch) : EpochView :=
  ⟨revision, some current, none, none⟩

def TenantRootState.view : TenantRootState → EpochView
  | emptyCreation state => ⟨state.revision, none, none, none⟩
  | preparingCreation state => ⟨state.revision, none, some state.next, none⟩
  | verifiedCreation state => ⟨state.revision, none, none, some state.next⟩
  | activeCreation state => .stable state.revision state.current
  | activeRefresh state => .stable state.revision state.current
  | preparingRefresh state => state.view
  | verifiedRefresh state => state.view
  | retiringRefresh state => .stable state.revision state.current
  | failedRefresh state => .stable state.revision state.current
  | available state => .stable state.active.revision state.active.current
  | roleUnavailable state => .stable state.revision state.active.current
  | restoring state => .stable state.core.revision state.core.active.current
  | verifying state => .stable state.revision state.active.current
  | forwardPreparing state => state.refresh.view
  | forwardVerified state => state.refresh.view
  | forwardRetiring state => .stable state.refresh.revision state.refresh.current
  | forwardFailed state => .stable state.refresh.revision state.refresh.current

def EpochView.activeEpoch (view : EpochView) : ℕ := (view.active.map (·.epoch.get)).getD 0

/-- Commitments that can follow the active epoch: those of a pair with the same root and
other role commitments, and before the first activation those of any pair. -/
def Follows (R : Ristretto255 q G) (active : Option ActiveTenantRootEpoch)
    (next : TenantRootEpochCommitments) : Prop :=
  match active with
  | none => ∃ pair, Commits R next pair
  | some current => ∃ pair pair', Commits R current.commitments pair ∧ Commits R next pair' ∧
      pair.root = pair'.root ∧ pair'.deriverA.point ≠ pair.deriverA.point ∧
      pair'.deriverB.point ≠ pair.deriverB.point

/-- What a call does to the view of a state. -/
inductive ViewStep (R : Ristretto255 q G) : EpochView → Call → EpochView → Prop
  | convert {view : EpochView} {call : Call} (hcall : call.isConversion = true) :
      ViewStep R view call ⟨view.revision, view.active, none, none⟩
  | begin {view : EpochView} {call : Call} {pending : PendingTenantRootEpoch}
      (hcall : call.isConversion = false) (hactivate : call ≠ .activate)
      (hepoch : pending.epoch.get = view.activeEpoch + 1) :
      ViewStep R view call ⟨view.revision + 1, view.active, some pending, none⟩
  | verify {view : EpochView} {pending : PendingTenantRootEpoch}
      {verified : VerifiedTenantRootEpoch} (hpending : view.pending = some pending)
      (hverified : verified.pending = pending)
      (hfollows : Follows R view.active verified.commitments) :
      ViewStep R view .verify ⟨view.revision + 1, view.active, none, some verified⟩
  | activate {view : EpochView} {next : ActiveTenantRootEpoch}
      (hnext : view.verified = some next.verified) :
      ViewStep R view .activate (.stable (view.revision + 1) next)
  | settle {view : EpochView} {call : Call} (hcall : call.isConversion = false)
      (hactivate : call ≠ .activate) :
      ViewStep R view call ⟨view.revision + 1, view.active, none, none⟩

variable {R : Ristretto255 q G} {call : Call} {current : ActiveTenantRootEpoch}

theorem ViewStep.of_begin {view : EpochView} {state' : TenantRootPreparingRefresh}
    (hcall : call.isConversion = false) (hactivate : call ≠ .activate)
    (hactive : view.active = some current)
    (h : state'.revision = view.revision + 1 ∧ state'.current = current ∧
      state'.next.epoch.get = current.epoch.get + 1 ∧
      state'.next.transition = .refresh current.epoch) :
    ViewStep R view call state'.view := by
  obtain ⟨hrevision, hcurrent, hepoch, -⟩ := h
  have hview : state'.view = ⟨view.revision + 1, view.active, some state'.next, none⟩ := by
    rw [TenantRootPreparingRefresh.view, hrevision, hcurrent, hactive]
  rw [hview]
  refine .begin hcall hactivate ?_
  rw [hepoch, EpochView.activeEpoch, hactive]
  rfl

variable {s s' : TenantRootState}

section

variable {env : TenantRootEnvironment q G}

/-- Every transition of the machines is a step of the view. -/
theorem Step.view [DecidableEq G] (h : Step env s call s') :
    ViewStep env.ristretto s.view call s'.view := by
  cases h with
  | @startCreation state state' context h =>
    obtain ⟨hrevision, hepoch, -⟩ := TenantRootEmptyCreation.start_eq_ok h
    rw [TenantRootState.view, TenantRootState.view, hrevision]
    exact .begin rfl (by decide) (by rw [hepoch]; rfl)
  | @verifyCreation state state' verification h =>
    obtain ⟨hrevision, hpending, hpair⟩ := TenantRootPreparingCreation.verify_eq_ok h
    rw [TenantRootState.view, TenantRootState.view, hrevision]
    exact .verify rfl hpending hpair
  | activateCreation receipt h | activateRefresh receipt h | activateForward receipt h =>
    obtain ⟨_, rfl⟩ := revised_eq_ok h
    exact .activate rfl
  | intoRefreshState | active => exact .convert rfl
  | startRefresh context h =>
    exact .of_begin rfl (by decide) rfl (TenantRootActiveRefresh.start_eq_ok h)
  | verifyRefresh verification h | verifyForward verification h =>
    obtain ⟨hrevision, hcurrent, hpending, hfollows⟩ := verify_eq_ok h
    rw [TenantRootState.view, TenantRootState.view, TenantRootVerifiedRefresh.view, hrevision,
      hcurrent]
    exact .verify rfl hpending hfollows
  | failRefresh failure cleanup h | failRestore failure cleanup h | failForward failure cleanup h
  | finishRetirement receipts h | markRoleUnavailable receipt h | acceptInstallation receipt h =>
    obtain ⟨_, rfl⟩ := revised_eq_ok h
    exact .settle rfl (by decide)
  | retryRefresh context h | retryForward context h =>
    exact .of_begin rfl (by decide) rfl (TenantRootFailedBeforeActivationRefresh.retry_eq_ok h)
  | newAvailable h =>
    rw [← new_eq_ok h]
    exact .convert rfl
  | startRestore capability startedAtMs h =>
    obtain ⟨_, rfl⟩ := revised_eq_ok h
    cases capability.role <;> exact .settle rfl (by decide)
  | beginForwardRefresh peer context h =>
    simp only [TenantRootManagedRestoreVerifying.beginForwardRefresh,
      TenantRootActiveRefresh.resumeAtRevision, ok_iff] at h
    obtain ⟨-, -, _, ⟨-, rfl⟩, refresh, hrefresh, rfl⟩ := h
    exact .of_begin rfl (by decide) rfl (TenantRootActiveRefresh.start_eq_ok hrefresh)
  | finishForward receipts h hnew =>
    rw [TenantRootState.view, TenantRootState.view, new_eq_ok hnew]
    obtain ⟨_, rfl⟩ := revised_eq_ok h
    exact .settle rfl (by decide)

/-! ## Invariants of the view -/

/-- The epoch under way has the next number, and once verified it can follow the active
epoch, whose commitments are those of a pair. -/
structure EpochView.Sound (R : Ristretto255 q G) (view : EpochView) : Prop where
  pending : ∀ pending, view.pending = some pending → pending.epoch.get = view.activeEpoch + 1
  verified : ∀ verified, view.verified = some verified →
    verified.pending.epoch.get = view.activeEpoch + 1 ∧ Follows R view.active verified.commitments
  active : ∀ current, view.active = some current → ∃ pair, Commits R current.commitments pair

variable {next : TenantRootEpochCommitments}

section

variable {active : Option ActiveTenantRootEpoch}

theorem Follows.exists_pair (h : Follows R active next) : ∃ pair, Commits R next pair := by
  cases active with
  | none => exact h
  | some current =>
    obtain ⟨_, pair', -, hnext, -⟩ := h
    exact ⟨pair', hnext⟩

theorem Follows.rootCommitment (h : Follows R (some current) next) :
    next.rootCommitment = current.commitments.rootCommitment := by
  obtain ⟨pair, pair', hcurrent, hnext, hroot, -⟩ := h
  rw [← hnext.root, ← hroot, hcurrent.root]

theorem EpochView.Sound.of_stable {revision : ℕ}
    (h : ∀ current, active = some current → ∃ pair, Commits R current.commitments pair) :
    EpochView.Sound R ⟨revision, active, none, none⟩ :=
  ⟨fun _ hpending => (Option.some_ne_none _ hpending.symm).elim,
    fun _ hverified => (Option.some_ne_none _ hverified.symm).elim, h⟩

end

variable {view' : EpochView} {view : EpochView}

theorem EpochView.Sound.step (hsound : view.Sound R)
    (h : ViewStep R view call view') : view'.Sound R := by
  cases h with
  | convert | settle => exact .of_stable hsound.active
  | begin hcall hactivate hepoch =>
    refine ⟨fun pending hpending => ?_, fun _ hverified => ?_, hsound.active⟩
    · cases hpending
      exact hepoch
    · cases hverified
  | verify hpending hverified hfollows =>
    refine ⟨fun _ hnone => ?_, fun verified hsome => ?_, hsound.active⟩
    · cases hnone
    · cases hsome
      rw [hverified]
      exact ⟨hsound.pending _ hpending, hfollows⟩
  | activate hnext =>
    refine .of_stable fun current hcurrent => ?_
    cases hcurrent
    exact (hsound.verified _ hnext).2.exists_pair

theorem ViewStep.revision (h : ViewStep R view call view') :
    view'.revision = view.revision + if call.isConversion then 0 else 1 := by
  cases h with
  | convert hcall | begin hcall | settle hcall => rw [hcall]; rfl
  | verify | activate => rfl

theorem ViewStep.active_of_ne (h : ViewStep R view call view')
    (hcall : call ≠ .activate) : view'.active = view.active := by
  cases h with
  | activate => exact (hcall rfl).elim
  | convert | begin | verify | settle => rfl

/-- An activation makes the verified epoch the active one. -/
theorem ViewStep.activated (h : ViewStep R view .activate view') :
    ∃ next, view'.active = some next ∧ view.verified = some next.verified := by
  cases h with
  | activate hnext => exact ⟨_, rfl, hnext⟩
  | convert hcall => cases hcall
  | begin _ hactivate | settle _ hactivate => exact (hactivate rfl).elim

/-! ## Runs -/

/-- A run keeps the calls and the states they lead to. -/
def Transition [DecidableEq G] (env : TenantRootEnvironment q G) (s : TenantRootState)
    (entry : Call × TenantRootState) (s' : TenantRootState) : Prop :=
  Step env s entry.1 s' ∧ entry.2 = s'

def TenantRootState.active (s : TenantRootState) : Option ActiveTenantRootEpoch := s.view.active

def TenantRootState.revision (s : TenantRootState) : ℕ := s.view.revision

def TenantRootState.activeEpoch (s : TenantRootState) : ℕ := s.view.activeEpoch

def firstActive (log : List (Call × TenantRootState)) : Option ActiveTenantRootEpoch :=
  log.findSome? fun entry => entry.2.active

def rootOf (epoch : ActiveTenantRootEpoch) : Bytes 32 := epoch.commitments.rootCommitment

/-- Once an epoch is active, a step keeps the root of the active epoch. -/
theorem Step.rootOf_active [DecidableEq G] (hsound : s.view.Sound env.ristretto)
    (h : Step env s call s') (hactive : s.active = some current) :
    s'.active.map rootOf = some (rootOf current) := by
  by_cases hcall : call = .activate
  · subst hcall
    obtain ⟨next, hnext, hverified⟩ := h.view.activated
    have hfollows := (hsound.verified _ hverified).2
    rw [show s.view.active = some current from hactive] at hfollows
    rw [TenantRootState.active, hnext, Option.map_some]
    exact congrArg some hfollows.rootCommitment
  · rw [TenantRootState.active, h.view.active_of_ne hcall,
      show s.view.active = some current from hactive, Option.map_some]

theorem sound_of_run [DecidableEq G] {identity : TenantRootIdentity}
    {custodyLineage : TenantRootCustodyLineageId} {log : List (Call × TenantRootState)}
    (h : Run (Transition env) (.emptyCreation (.new identity custodyLineage)) log s) :
    s.view.Sound env.ristretto ∧ (firstActive log).map rootOf = s.active.map rootOf := by
  refine Run.invariant (fun log s => s.view.Sound env.ristretto ∧
    (firstActive log).map rootOf = s.active.map rootOf) ?_ ?_ h
  · refine ⟨.of_stable fun current hcurrent => ?_, rfl⟩
    cases hcurrent
  · rintro log s ⟨call, t⟩ s' - ⟨hsound, hroot⟩ ⟨hstep, rfl⟩
    refine ⟨hsound.step hstep.view, ?_⟩
    have hlast : firstActive (log ++ [(call, t)]) = (firstActive log).or t.active := by
      simp only [firstActive, List.findSome?_append, List.findSome?_singleton]
    rw [hlast]
    cases hactive : s.active with
    | none =>
      -- no epoch was active before: the first active epoch is the new one, if there is one
      rw [hactive, Option.map_none, Option.map_eq_none_iff] at hroot
      rw [hroot, Option.none_or]
    | some current =>
      rw [hactive, Option.map_some, Option.map_eq_some_iff] at hroot
      obtain ⟨first, hfirst, hfirstRoot⟩ := hroot
      rw [hfirst, Option.some_or, Option.map_some, hfirstRoot, hstep.rootOf_active hsound hactive]

/-- A step keeps the number of the active epoch unless it is an activation, which raises
it by one. -/
theorem Step.activeEpoch [DecidableEq G] (hsound : s.view.Sound env.ristretto)
    (h : Step env s call s') :
    (call ≠ .activate → s'.activeEpoch = s.activeEpoch) ∧
      (call = .activate → s'.activeEpoch = s.activeEpoch + 1) := by
  constructor
  · intro hcall
    rw [TenantRootState.activeEpoch, EpochView.activeEpoch, h.view.active_of_ne hcall]
    rfl
  · rintro rfl
    obtain ⟨next, hnext, hverified⟩ := h.view.activated
    rw [TenantRootState.activeEpoch, EpochView.activeEpoch, hnext]
    exact (hsound.verified _ hverified).1

end

/-- In every state a run reaches from an empty lineage, the role commitments of the active
epoch give the root of the run's first active epoch. The next call raises the revision by
one, changes the number of the active epoch only when it is an activation and then by one,
and an activation changes the commitments of both roles. Moving a state between the
machines changes neither the revision nor the active epoch. -/
theorem tenant_root_lifecycle [DecidableEq G] (env : TenantRootEnvironment q G)
    (identity : TenantRootIdentity) (custodyLineage : TenantRootCustodyLineageId)
    {log : List (Call × TenantRootState)} {s : TenantRootState}
    (hrun : Run (Transition env) (.emptyCreation (.new identity custodyLineage)) log s) :
    (∀ current, s.active = some current → ∃ first a b, firstActive log = some first ∧
        parseShareCommitment env.ristretto current.commitments.deriverA = .ok a ∧
        parseShareCommitment env.ristretto current.commitments.deriverB = .ok b ∧
        env.ristretto.compress ((2 : ZMod q) • a.point - b.point) =
          first.commitments.rootCommitment) ∧
    ∀ call s', Step env s call s' →
      s'.revision = s.revision + (if call.isConversion then 0 else 1) ∧
      (call ≠ .activate → s'.activeEpoch = s.activeEpoch) ∧
      (call = .activate → s'.activeEpoch = s.activeEpoch + 1) ∧
      ∀ current next, call = .activate → s.active = some current → s'.active = some next →
        ∃ a b a' b', parseShareCommitment env.ristretto current.commitments.deriverA = .ok a ∧
          parseShareCommitment env.ristretto current.commitments.deriverB = .ok b ∧
          parseShareCommitment env.ristretto next.commitments.deriverA = .ok a' ∧
          parseShareCommitment env.ristretto next.commitments.deriverB = .ok b' ∧
          a'.point ≠ a.point ∧ b'.point ≠ b.point := by
  obtain ⟨hsound, hroot⟩ := sound_of_run hrun
  constructor
  · intro current hcurrent
    obtain ⟨pair, hpair⟩ := hsound.active current hcurrent
    rw [hcurrent, Option.map_some, Option.map_eq_some_iff] at hroot
    obtain ⟨first, hfirst, hfirstRoot⟩ := hroot
    refine ⟨first, _, _, hfirst, hpair.deriverA, hpair.deriverB, ?_⟩
    rw [two_smul, ← pair.root_eq, hpair.root]
    exact hfirstRoot.symm
  · intro call s' hstep
    refine ⟨hstep.view.revision, (hstep.activeEpoch hsound).1, (hstep.activeEpoch hsound).2, ?_⟩
    rintro current next rfl hcurrent hnext
    obtain ⟨next', hnext', hverified⟩ := hstep.view.activated
    cases Option.some.inj (hnext.symm.trans hnext')
    have hfollows := (hsound.verified _ hverified).2
    rw [show s.view.active = some current from hcurrent] at hfollows
    obtain ⟨pair, pair', hpair, hpair', -, hA, hB⟩ := hfollows
    exact ⟨_, _, _, _, hpair.deriverA, hpair.deriverB, hpair'.deriverA, hpair'.deriverB, hA, hB⟩

/-! ### A small creation -/

namespace SmallCreation

/-- The integers modulo a prime as a group, under hashes that are always one. -/
def env : TenantRootEnvironment 65537 (ZMod 65537) where
  ristretto := { additiveRistretto with sha512 := fun _ => toLittleEndian 64 1 }
  sha256 _ := toBigEndian 32 1
  decodeAcceptedLoss _ := .error (malformed "")
  acceptedLossDigest _ := .error (malformed "")

def digest (n : ℕ) (h : toBigEndian 32 n ≠ Bytes.zeros 32) : NonZeroBytes 32 := ⟨_, h⟩

def lineage : TenantRootCustodyLineageId := ⟨toBigEndian 16 1, by decide⟩

def identity : TenantRootIdentity := ⟨"org", "project", "env", "root", "1"⟩

def context : TenantRootCeremonyContext :=
  ⟨toBigEndian 32 1, lineage, .create .initial, lineage, digest 1 (by decide), 1, 10, "a", "b"⟩

def receipts : ReceiptPair := ⟨digest 1 (by decide), digest 2 (by decide), by decide⟩

def shareA : SigningRootShareCommitment (ZMod 65537) := ⟨TwoPartyDeriverRole.deriverA.shareId, 3⟩

def shareB : SigningRootShareCommitment (ZMod 65537) := ⟨TwoPartyDeriverRole.deriverB.shareId, 1⟩

def verification : EpochVerification 65537 (ZMod 65537) :=
  ⟨⟨⟨context, .deriverA, shareA, shareB, rfl, rfl⟩, ⟨1, 4⟩⟩,
    ⟨⟨context, .deriverB, shareB, shareA, rfl, rfl⟩, ⟨1, 2⟩⟩,
    receipts, .currentRoleBackups receipts, receipts, 2⟩

def commitments : TenantRootEpochCommitments :=
  ⟨⟨(shareA.toBytes env.ristretto).toList⟩, ⟨(shareB.toBytes env.ristretto).toList⟩,
    env.ristretto.compress 5⟩

def preparing : TenantRootPreparingCreation :=
  ⟨identity, lineage, ⟨.initialCreation, .initial, digest 1 (by decide), 1, 10⟩, 1⟩

def verified : TenantRootVerifiedCreation :=
  ⟨identity, lineage, verification.epoch preparing.next commitments, 2⟩

def receipt : VerifiedTenantRootSignedActivationReceipt :=
  ⟨.initialCreation ⟨toBigEndian 32 1, lineage, digest 1 (by decide), 2, 3, commitments, receipts,
    .currentRoleBackups receipts, receipts, 3, 1, 10⟩, [], digest 1 (by decide)⟩

def active : TenantRootActiveCreation :=
  ⟨identity, lineage, ⟨verified.next, projectVerifiedActivation receipt⟩, 3⟩

theorem start_ok : (TenantRootEmptyCreation.new identity lineage).start env context =
    .ok preparing := by
  decide +kernel

theorem verify_ok : preparing.verify env verification = .ok verified := by
  decide +kernel

theorem activate_ok : verified.activate env receipt = .ok active := by
  decide +kernel

end SmallCreation

open SmallCreation in
/-- The creation of a root with commitments 3 and 1, and so the root 5. -/
theorem tenant_root_lifecycle_small_creation :
    ∃ log, Run (Transition env) (.emptyCreation (.new identity lineage)) log
        (.activeCreation active) ∧
      ∃ first a b, firstActive log = some first ∧
        parseShareCommitment env.ristretto active.current.commitments.deriverA = .ok a ∧
        parseShareCommitment env.ristretto active.current.commitments.deriverB = .ok b ∧
        env.ristretto.compress ((2 : ZMod 65537) • a.point - b.point) =
          first.commitments.rootCommitment := by
  have hrun : Run (Transition env) (.emptyCreation (.new identity lineage)) _
      (.activeCreation active) :=
    ((Run.nil.snoc (e := (.start, .preparingCreation preparing))
      ⟨.startCreation context start_ok, rfl⟩).snoc (e := (.verify, .verifiedCreation verified))
        ⟨.verifyCreation verification verify_ok, rfl⟩).snoc
          (e := (.activate, .activeCreation active)) ⟨.activateCreation receipt activate_ok, rfl⟩
  exact ⟨_, hrun, (tenant_root_lifecycle env identity lineage hrun).1 active.current rfl⟩

end SeamsWallet.TenantRoot
