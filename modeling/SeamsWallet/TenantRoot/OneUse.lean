import SeamsWallet.TenantRoot.Invariants

/-!
# The capabilities of one outage

Each attempt to restore an unavailable role takes a capability. A retry is refused the
capability of the attempt right before it, and one that was issued before the cleanup of
that attempt. Older capabilities are not remembered: where an attempt is cleaned in the
millisecond in which its capability was issued, it can be started again two attempts later.
-/

namespace SeamsWallet.TenantRoot

open Library

variable {q : ℕ} {G : Type} [AddCommGroup G] [Module (ZMod q) G]

/-- A call during an outage, with the capability if it starts a restore. A report of
another outage is not part of it. -/
inductive OutageStep [DecidableEq G] (env : TenantRootEnvironment q G) :
    TenantRootState → Option TenantRootManagedRestoreCapability → TenantRootState → Prop
  | startRestore {state state'} (capability : TenantRootManagedRestoreCapability)
      (startedAtMs : ℕ) (h : state.startRestore env capability startedAtMs = .ok state') :
      OutageStep env (.roleUnavailable state) (some capability) (.restoring state')
  | other {s call s'} (hstart : call ≠ .startRestore) (houtage : call ≠ .markRoleUnavailable)
      (h : Step env s call s') : OutageStep env s none s'

def usedDigests (log : List (Option TenantRootManagedRestoreCapability)) :
    List TenantRootLifecycleReceiptDigest :=
  log.filterMap (Option.map (·.digest))

/-- A step that cleans an attempt does so after the capability of the attempt was issued,
and the digest of a capability tells when it was issued. -/
structure OrderedStep [DecidableEq G] (env : TenantRootEnvironment q G)
    (issuedAtMs : TenantRootLifecycleReceiptDigest → ℕ) (s : TenantRootState)
    (event : Option TenantRootManagedRestoreCapability) (s' : TenantRootState) : Prop where
  step : OutageStep env s event s'
  cleaned : ∀ core state', s = .restoring (.restoringA core) → s' = .roleUnavailable state' →
    core.capability.issuedAtMs < state'.evidence.earliestNewCapabilityAtMs
  issued : ∀ capability ∈ event, capability.issuedAtMs = issuedAtMs capability.digest

/-- The used capabilities are too old for the next attempt. -/
def Outdated (issuedAtMs : TenantRootLifecycleReceiptDigest → ℕ)
    (used : List TenantRootLifecycleReceiptDigest) : TenantRootState → Prop
  | .roleUnavailable state => ∀ d ∈ used, issuedAtMs d < state.evidence.earliestNewCapabilityAtMs
  | .restoring state => ∀ d ∈ used, issuedAtMs d ≤ state.core.capability.issuedAtMs
  | _ => True

section Outage

variable [DecidableEq G] {env : TenantRootEnvironment q G} {s s' : TenantRootState}
  {issuedAtMs : TenantRootLifecycleReceiptDigest → ℕ}
  {event : Option TenantRootManagedRestoreCapability}
  {log : List (Option TenantRootManagedRestoreCapability)}

/-- A step uses no capability again. -/
theorem OrderedStep.keeps (h : OrderedStep env issuedAtMs s event s')
    (hused : (usedDigests log).Nodup ∧ Outdated issuedAtMs (usedDigests log) s) :
    (usedDigests (log ++ [event])).Nodup ∧
      Outdated issuedAtMs (usedDigests (log ++ [event])) s' := by
  obtain ⟨hstep, hcleaned, hissued⟩ := h
  obtain ⟨hnodup, hold⟩ := hused
  simp only [usedDigests, List.filterMap_append] at hnodup hold ⊢
  cases hstep with
  | startRestore capability startedAtMs h =>
    simp only [TenantRootManagedRestoreRoleUnavailable.startRestore, validateCapability,
      ok_iff] at h
    obtain ⟨⟨-, _, -, -, ⟨hearliest, -⟩, -⟩, _, -, rfl⟩ := h
    have hdigest := hissued capability rfl
    have hlt : ∀ d ∈ log.filterMap (Option.map (·.digest)), issuedAtMs d < capability.issuedAtMs :=
      fun d hd => (hold d hd).trans_le hearliest
    refine ⟨?_, ?_⟩
    · refine List.nodup_append.mpr ⟨hnodup, List.nodup_singleton _, ?_⟩
      rintro d hd _ hmem rfl
      cases List.mem_singleton.mp hmem
      exact (hlt _ hd).ne hdigest.symm
    · intro d hd
      have hle : issuedAtMs d ≤ capability.issuedAtMs := by
        rcases List.mem_append.mp hd with hd | hd
        · exact (hlt d hd).le
        · cases List.mem_singleton.mp hd
          exact hdigest.ge
      cases capability.role <;> exact hle
  | other hstart houtage h =>
    refine ⟨by simpa using hnodup, ?_⟩
    cases h with
    | startRestore => exact absurd rfl hstart
    | markRoleUnavailable => exact absurd rfl houtage
    | failRestore failure cleanup h =>
      intro d hd
      have hd : d ∈ log.filterMap (Option.map (·.digest)) := by simpa using hd
      exact (hold d hd).trans_lt (hcleaned _ _ rfl rfl)
    | _ => trivial

/-- Within one outage whose attempts are cleaned after their capabilities were issued, no
two restores are started with the same capability. -/
theorem capabilities_used_once {state : TenantRootManagedRestoreRoleUnavailable}
    (hrun : Run (OrderedStep env issuedAtMs) (.roleUnavailable state) log s) :
    (usedDigests log).Nodup := by
  refine (Run.invariant (fun log s => (usedDigests log).Nodup ∧
    Outdated issuedAtMs (usedDigests log) s) ⟨List.nodup_nil, ?_⟩ ?_ hrun).1
  · intro d hd
    cases hd
  · intro log s event s' _ hused hstep
    exact hstep.keeps hused

end Outage

/-! ## Attempts in one millisecond -/

namespace SmallCreation

def outage : TenantRootRoleUnavailableReceipt := ⟨digest 3 (by decide), .deriverA, 5, by decide⟩

def capability (d : NonZeroBytes 32) (time : ℕ) : TenantRootManagedRestoreCapability :=
  ⟨d, toBigEndian 32 1, lineage, .deriverA, .initial, digest 1 fun h => absurd h (by decide),
    time + 1, time + 9, Nat.succ_ne_zero _, by omega⟩

def cleaned (capability : TenantRootManagedRestoreCapability) (time : ℕ) :
    TenantRootRoleUnavailabilityEvidence :=
  .restoreAttemptCleaned outage (.installing capability capability.issuedAtMs)
    ⟨digest 4 (by decide), time + 1, Nat.succ_ne_zero _⟩
    ⟨digest 4 (by decide), .deriverA, time + 1, Nat.succ_ne_zero _⟩

def unavailable (evidence : TenantRootRoleUnavailabilityEvidence) (revision : ℕ) :
    TenantRootManagedRestoreRoleUnavailable :=
  ⟨active.intoRefreshState, evidence, revision⟩

def installing (evidence : TenantRootRoleUnavailabilityEvidence)
    (capability : TenantRootManagedRestoreCapability) (revision : ℕ) :
    TenantRootManagedRestoreInstallingCore :=
  ⟨active.intoRefreshState, evidence, capability, capability.issuedAtMs, revision⟩

def first : TenantRootManagedRestoreCapability := capability (digest 5 (by decide)) 6

def second : TenantRootManagedRestoreCapability := capability (digest 6 (by decide)) 6

def third : TenantRootManagedRestoreCapability := capability (digest 6 (by decide)) 7

theorem mark_ok : TenantRootManagedRestoreAvailable.markRoleUnavailable
    ⟨active.intoRefreshState, rfl⟩ outage = .ok (unavailable (.observed outage) 4) := by
  decide +kernel

theorem startFirst : OutageStep env (.roleUnavailable (unavailable (.observed outage) 4))
    (some first) (.restoring (.restoringA (installing (.observed outage) first 5))) :=
  .startRestore first 7 (by decide +kernel)

end SmallCreation

open SmallCreation in
/-- An attempt that is cleaned a millisecond after its capability was issued. -/
theorem capabilities_used_once_small :
    ∃ log s, Run (OrderedStep env fun d => if d = first.digest then 7 else 8)
      (.roleUnavailable (unavailable (.observed outage) 4)) log s ∧
      usedDigests log = [first.digest, third.digest] ∧ (usedDigests log).Nodup := by
  have hissued : ∀ c : TenantRootManagedRestoreCapability,
      c.issuedAtMs = (if c.digest = first.digest then 7 else 8) →
      ∀ capability ∈ some c, capability.issuedAtMs =
        if capability.digest = first.digest then 7 else 8 := by
    rintro c hc _ ⟨⟩
    exact hc
  have hrun : Run (OrderedStep env fun d => if d = first.digest then 7 else 8)
      (.roleUnavailable (unavailable (.observed outage) 4)) [some first, none, some third]
      (.restoring (.restoringA (installing (cleaned first 7) third 7))) :=
    .cons ⟨startFirst, fun _ _ h => (TenantRootState.noConfusion h), hissued first (by decide)⟩ <|
    .cons ⟨show OutageStep env _ _ (.roleUnavailable (unavailable (cleaned first 7) 6)) from
      .other (by decide) (by decide) (.failRestore ⟨digest 4 (by decide), 8, by decide⟩
        ⟨digest 4 (by decide), .deriverA, 8, by decide⟩ (by decide +kernel)), by
        rintro core state' ⟨⟩ ⟨⟩
        decide, nofun⟩ <|
    .cons ⟨.startRestore third 8 (by decide +kernel), fun _ _ h => (TenantRootState.noConfusion h),
      hissued third (by decide)⟩ .nil
  exact ⟨_, _, hrun, rfl, capabilities_used_once hrun⟩

open SmallCreation in
/-- Two attempts are cleaned in the millisecond of their start; then the first capability
is used again. -/
theorem capability_used_twice :
    ∃ available receipt state, TenantRootManagedRestoreAvailable.markRoleUnavailable available
        receipt = .ok state ∧
      ∃ log s, Run (OutageStep env) (.roleUnavailable state) log s ∧ ¬ (usedDigests log).Nodup := by
  have hrun : Run (OutageStep env) (.roleUnavailable (unavailable (.observed outage) 4))
      [some first, none, some second, none, some first]
      (.restoring (.restoringA (installing (cleaned second 6) first 9))) :=
    .cons startFirst <|
    .cons (show OutageStep env _ _ (.roleUnavailable (unavailable (cleaned first 6) 6)) from
      .other (by decide) (by decide) (.failRestore ⟨digest 4 (by decide), 7, by decide⟩
        ⟨digest 4 (by decide), .deriverA, 7, by decide⟩ (by decide +kernel))) <|
    .cons (show OutageStep env _ _ (.restoring (.restoringA (installing (cleaned first 6)
      second 7))) from .startRestore second 7 (by decide +kernel)) <|
    .cons (show OutageStep env _ _ (.roleUnavailable (unavailable (cleaned second 6) 8)) from
      .other (by decide) (by decide) (.failRestore ⟨digest 4 (by decide), 7, by decide⟩
        ⟨digest 4 (by decide), .deriverA, 7, by decide⟩ (by decide +kernel))) <|
    .cons (.startRestore first 7 (by decide +kernel)) .nil
  exact ⟨_, outage, _, mark_ok, _, _, hrun, by decide⟩

end SeamsWallet.TenantRoot
