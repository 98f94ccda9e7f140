import SeamsWallet.TenantRoot.OneUse

/-!
# Recovering an outage from its public projection

A role-unavailable state publishes the active root, the observed outage, the fence of the
last cleaned restore attempt and its revision. The state is rebuilt from these four: the
attempt is validated again, against the observation alone, which the times of the whole
outage allow.
-/

namespace SeamsWallet.TenantRoot

open Library

inductive TenantRootManagedRestorePriorAttempt where
  | installing (capability : TenantRootManagedRestoreCapability) (startedAtMs : ℕ)
  | installed (capability : TenantRootManagedRestoreCapability)
      (installation : TenantRootManagedRestoreInstallationReceipt)

inductive TenantRootManagedRestorePriorAttemptCleanupFence where
  | none
  | cleaned (attempt : TenantRootManagedRestorePriorAttempt)
      (failure : TenantRootManagedRestoreFailure)
      (cleanup : TenantRootManagedRestoreCleanupReceipt)

variable {q : ℕ} {G : Type} [AddCommGroup G] [Module (ZMod q) G]

def validatePriorAttempt (env : TenantRootEnvironment q G) (active : TenantRootActiveRefresh)
    (observed : TenantRootRoleUnavailabilityEvidence) :
    TenantRootManagedRestorePriorAttempt →
      RouterAbDerivationResult TenantRootManagedRestoreFailedAttempt
  | .installing capability startedAtMs => do
    validateCapability env active observed capability startedAtMs
    return .installing capability startedAtMs
  | .installed capability installation => do
    validateCapability env active observed capability capability.issuedAtMs
    validateInstallation ⟨active, observed, capability, capability.issuedAtMs, active.revision⟩
      installation
    return .installed capability installation

namespace TenantRootManagedRestoreRoleUnavailable

def unavailableReceipt (state : TenantRootManagedRestoreRoleUnavailable) :
    TenantRootRoleUnavailableReceipt :=
  state.evidence.receipt

def priorAttemptCleanupFence (state : TenantRootManagedRestoreRoleUnavailable) :
    TenantRootManagedRestorePriorAttemptCleanupFence :=
  match state.evidence with
  | .observed _ => .none
  | .restoreAttemptCleaned _ (.installing capability startedAtMs) failure cleanup =>
    .cleaned (.installing capability startedAtMs) failure cleanup
  | .restoreAttemptCleaned _ (.installed capability installation) failure cleanup =>
    .cleaned (.installed capability installation) failure cleanup

def fromPublicProjection (env : TenantRootEnvironment q G) (active : TenantRootActiveRefresh)
    (unavailable : TenantRootRoleUnavailableReceipt)
    (cleanupFence : TenantRootManagedRestorePriorAttemptCleanupFence) (revision : ℕ) :
    RouterAbDerivationResult TenantRootManagedRestoreRoleUnavailable := do
  let _ ← TenantRootManagedRestoreAvailable.new active
  ensure (active.current.activation.activatedAtMs ≤ unavailable.unavailableAtMs)
    (malformed "tenant-root role unavailability cannot predate active-epoch activation")
  ensure (active.revision < revision)
    (malformed "tenant-root role-unavailable revision must advance active state")
  match cleanupFence with
  | .none => return ⟨active, .observed unavailable, revision⟩
  | .cleaned attempt failure cleanup => do
    let attempt ← validatePriorAttempt env active (.observed unavailable) attempt
    validateFailureOrder attempt failure cleanup
    return ⟨active, .restoreAttemptCleaned unavailable attempt failure cleanup, revision⟩

/-- The state is its own recovery, and its next capability is not older than the outage. -/
structure Recovers (env : TenantRootEnvironment q G)
    (state : TenantRootManagedRestoreRoleUnavailable) : Prop where
  recovered : fromPublicProjection env state.active state.unavailableReceipt
    state.priorAttemptCleanupFence state.revision = .ok state
  later : state.unavailableReceipt.unavailableAtMs ≤ state.evidence.earliestNewCapabilityAtMs

variable {env : TenantRootEnvironment q G} {state state' : TenantRootManagedRestoreRoleUnavailable}

/-- A recovered state is the only one with its projection. -/
theorem eq_of_fromPublicProjection {fence : TenantRootManagedRestorePriorAttemptCleanupFence}
    (h : fromPublicProjection env state.active state.unavailableReceipt fence state.revision =
      .ok state') (hfence : state.priorAttemptCleanupFence = fence) : state = state' := by
  obtain ⟨active, evidence, revision⟩ := state
  simp only [fromPublicProjection, bind_eq_ok] at h
  obtain ⟨_, -, _, -, _, -, h⟩ := h
  subst hfence
  cases evidence with
  | observed receipt => exact pure_eq_ok.mp h
  | restoreAttemptCleaned receipt attempt failure cleanup =>
    cases attempt with
    | installing capability startedAtMs =>
      simp only [priorAttemptCleanupFence, validatePriorAttempt, ok_iff] at h
      obtain ⟨_, ⟨-, rfl⟩, -, rfl⟩ := h
      rfl
    | installed capability installation =>
      simp only [priorAttemptCleanupFence, validatePriorAttempt, ok_iff] at h
      obtain ⟨_, ⟨-, -, rfl⟩, -, rfl⟩ := h
      rfl

theorem recovers_of_mark {available : TenantRootManagedRestoreAvailable}
    {receipt : TenantRootRoleUnavailableReceipt}
    (h : available.markRoleUnavailable receipt = .ok state) : Recovers env state := by
  simp only [TenantRootManagedRestoreAvailable.markRoleUnavailable, ok_iff] at h
  obtain ⟨hactivated, revision, hrevision, rfl⟩ := h
  refine ⟨?_, le_rfl⟩
  simp only [fromPublicProjection, ok_iff]
  exact ⟨available, dif_pos available.backed, hactivated,
    (Nat.lt_succ_self _).trans_eq (checkedNextRevision_eq_ok hrevision).symm, rfl⟩

theorem Recovers.failed {core : TenantRootManagedRestoreInstallingCore} {revision : ℕ}
    {failure : TenantRootManagedRestoreFailure} {cleanup : TenantRootManagedRestoreCleanupReceipt}
    (hstate : Recovers env ⟨core.active, core.evidence, revision⟩) (hle : revision ≤ core.revision)
    (hvalid : validateCapability env core.active core.evidence core.capability core.startedAtMs =
      .ok ())
    (hfail : failInstallationWithCleanup core failure cleanup = .ok state) :
    Recovers env state := by
  obtain ⟨hrecovered, hlater⟩ := hstate
  simp only [fromPublicProjection, bind_eq_ok, ensure_eq_ok] at hrecovered
  obtain ⟨available, hnew, _, hactivated, _, hrevision, -⟩ := hrecovered
  simp only [validateCapability, ok_iff] at hvalid
  obtain ⟨hrole, digest, hdigest, hbinding, ⟨hissued, hstarted⟩, -⟩ := hvalid
  simp only [failInstallationWithCleanup, ok_iff] at hfail
  obtain ⟨horder, next, hnext, rfl⟩ := hfail
  have hadvanced : core.active.revision < next := by
    rw [checkedNextRevision_eq_ok hnext]
    exact Nat.lt_succ_of_le (hrevision.le.trans hle)
  refine ⟨?_, ?_⟩
  · simp only [fromPublicProjection, ok_iff]
    refine ⟨available, hnew, hactivated, hadvanced, ?_⟩
    simp only [priorAttemptCleanupFence, validatePriorAttempt, validateCapability, ok_iff]
    exact ⟨_, ⟨⟨hrole, digest, hdigest, hbinding, ⟨hlater.trans hissued, hstarted⟩,
      by rintro ⟨⟩⟩, rfl⟩, horder, rfl⟩
  · simp only [validateFailureOrder, ensure_eq_ok] at horder
    exact (hlater.trans hissued).trans (hstarted.1.trans (horder.2.1.trans horder.2.2))

end TenantRootManagedRestoreRoleUnavailable

open TenantRootManagedRestoreRoleUnavailable

/-- What the states of an outage keep. -/
def Recoverable (env : TenantRootEnvironment q G) : TenantRootState → Prop
  | .roleUnavailable state => state.Recovers env
  | .restoring installing => ∃ revision ≤ installing.core.revision,
      Recovers env ⟨installing.core.active, installing.core.evidence, revision⟩ ∧
      validateCapability env installing.core.active installing.core.evidence
        installing.core.capability installing.core.startedAtMs = .ok ()
  | _ => True

/-- A role-unavailable state that a run reaches from an available root is recovered from
its public projection. Any state recovered from a projection starts the same restores as
every state with that projection. -/
theorem outage_recovered_from_projection [DecidableEq G] {env : TenantRootEnvironment q G}
    {root : TenantRootManagedRestoreAvailable} {log : List (Call × TenantRootState)}
    {state : TenantRootManagedRestoreRoleUnavailable}
    (hrun : Run (Transition env) (.available root) log (.roleUnavailable state)) :
    fromPublicProjection env state.active state.unavailableReceipt
        state.priorAttemptCleanupFence state.revision = .ok state ∧
      ∀ other recovered : TenantRootManagedRestoreRoleUnavailable,
        fromPublicProjection env other.active other.unavailableReceipt
            other.priorAttemptCleanupFence other.revision = .ok recovered →
          ∀ capability startedAtMs, recovered.startRestore env capability startedAtMs =
            other.startRestore env capability startedAtMs := by
  have hrecoverable : Recoverable env (.roleUnavailable state) := by
    refine Run.invariant (fun _ s => Recoverable env s) (by trivial) ?_ hrun
    rintro log s ⟨call, _⟩ s' - hs ⟨hstep, -⟩
    cases hstep with
    | markRoleUnavailable receipt h => exact recovers_of_mark h
    | startRestore capability startedAtMs h =>
      simp only [startRestore, ok_iff] at h
      obtain ⟨hvalid, revision, hrevision, rfl⟩ := h
      have hle := (Nat.le_succ _).trans_eq (checkedNextRevision_eq_ok hrevision).symm
      cases capability.role <;> exact ⟨_, hle, hs, hvalid⟩
    | failRestore failure cleanup h =>
      obtain ⟨_, hle, hstate, hvalid⟩ := hs
      exact hstate.failed hle hvalid h
    | _ => trivial
  refine ⟨hrecoverable.recovered, fun other recovered h capability startedAtMs => ?_⟩
  rw [eq_of_fromPublicProjection h rfl]

open SmallCreation in
/-- The outage of the small root after one failed and cleaned attempt. -/
theorem outage_recovered_after_attempt :
    let state := unavailable (cleaned first 6) 6
    fromPublicProjection env active.intoRefreshState outage state.priorAttemptCleanupFence 6 =
      .ok state := by
  have hstart : (unavailable (.observed outage) 4).startRestore env first 7 =
      .ok (.restoringA (installing (.observed outage) first 5)) := by decide +kernel
  have hrun : Run (Transition env) (.available ⟨active.intoRefreshState, rfl⟩)
      [(.markRoleUnavailable, _), (.startRestore, _), (.failWithCleanup, _)]
      (.roleUnavailable (unavailable (cleaned first 6) 6)) :=
    .cons ⟨.markRoleUnavailable outage mark_ok, rfl⟩ <|
    .cons ⟨.startRestore first 7 hstart, rfl⟩ <|
    .cons ⟨.failRestore ⟨digest 4 (by decide), 7, by decide⟩
      ⟨digest 4 (by decide), .deriverA, 7, by decide⟩ (by decide +kernel), rfl⟩ .nil
  exact (outage_recovered_from_projection hrun).1

end SeamsWallet.TenantRoot
