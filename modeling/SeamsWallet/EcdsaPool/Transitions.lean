import SeamsWallet.EcdsaPool.Command

/-!
# What a successful pool command does

Each operation of a lifecycle record is inverted once: a record built by it is
valid, keeps the scope and the pair identifier, and is related to the previous
record by one of a few transitions. `Applied` lists the transitions a command
can make; `applyCommand_eq_ok` says there are no others, and the run theorems
argue over `Applied` alone.
-/

namespace SeamsWallet.EcdsaPool

open Library EcdsaPoolLifecycleRecord

theorem liftTransition_eq_ok {α : Type} {result : Except PoolTransitionError α} {a : α} :
    liftTransition result = .ok a ↔ result = .ok a := by
  rw [liftTransition, mapError_eq_ok]

variable {prims : Primitives} {record next : EcdsaPoolLifecycleRecord}
  {requestDigest : PublicDigest32}

namespace EcdsaPoolLifecycleRecord

theorem replace_eq_ok {lifecycle : PoolRecord} {materialState : EcdsaPoolMaterialState}
    (h : record.replace prims lifecycle materialState = .ok next) :
    next = { record with lifecycle, materialState } ∧ next.validate prims = .ok () := by
  simp only [replace, ok_iff] at h
  obtain ⟨hvalid, rfl⟩ := h
  exact ⟨rfl, hvalid⟩

structure Fresh (prims : Primitives) (material : EcdsaPresignaturePoolRecord)
    (record : EcdsaPoolLifecycleRecord) : Prop where
  valid : record.validate prims = .ok ()
  scope : record.scope = material.scope
  serverPresignatureId : record.serverPresignatureId = material.serverPresignatureId
  lifecycle : ∃ lifecycle : AvailableRecord,
    record.lifecycle = .available lifecycle ∧ lifecycle.header.revision = 0

theorem newAvailable_eq_ok {material : EcdsaPresignaturePoolRecord}
    (h : newAvailable prims material = .ok record) : record.Fresh prims material := by
  simp only [newAvailable, ok_iff] at h
  obtain ⟨-, -, key, -, digest, -, locator, -, lifecycle, hnew, hvalid, rfl⟩ := h
  rw [liftTransition_eq_ok] at hnew
  refine ⟨hvalid, rfl, rfl, lifecycle, rfl, ?_⟩
  unfold AvailableRecord.new at hnew
  split_ifs at hnew
  cases hnew
  rfl

structure ReservedFor (prims : Primitives) (request : ReservationRequest)
    (lifecycle : ReservedRecord) (material : EcdsaPresignatureRecord)
    (record : EcdsaPoolLifecycleRecord) : Prop where
  lifecycle_eq : record.lifecycle = .reserved lifecycle
  material_eq : record.materialState = .reserved material
  reservedAtMs : lifecycle.reservedAtMs = request.reservedAtMs
  requestDigest : material.requestDigest = request.requestDigest
  binding : reservationBinding prims record.scope record.serverPresignatureId
    request.requestDigest = .ok lifecycle.binding

theorem reserveFor_eq_ok
    {request : ReservationRequest} (h : record.reserveFor prims request = .ok next) :
    ∃ (available : AvailableRecord) (lifecycle : ReservedRecord)
      (material : EcdsaPresignatureRecord),
      record.lifecycle = .available available ∧
      next = { record with
        lifecycle := .reserved lifecycle, materialState := .reserved material } ∧
      next.validate prims = .ok () ∧
      lifecycle.header.revision = available.header.revision + 1 ∧
      next.ReservedFor prims request lifecycle material := by
  simp only [reserveFor, reserve, ok_iff] at h
  obtain ⟨-, binding, hbinding, h⟩ := h
  split at h
  · rename_i available material hlifecycle hmaterial
    simp only [ok_iff, liftTransition_eq_ok, EcdsaPresignaturePoolRecord.toRequestBoundRecord] at h
    obtain ⟨-, mutation, hmutation, -, bound, ⟨-, -, -, -, rfl⟩, hnext⟩ := h
    unfold AvailableRecord.reserve at hmutation
    split_ifs at hmutation
    simp only [ok_iff] at hmutation
    obtain ⟨revision, hrevision, rfl⟩ := hmutation
    obtain rfl := nextRevision_eq_ok hrevision
    obtain ⟨rfl, hvalid⟩ := replace_eq_ok hnext
    exact ⟨available, _, _, hlifecycle, rfl, hvalid, rfl, rfl, rfl, rfl, rfl, hbinding⟩
  · cases h
  · cases h

/-- The material of a live record was destroyed and a tombstone is left. -/
structure Destroys (prims : Primitives) (record next : EcdsaPoolLifecycleRecord) :
    Prop where
  live : ¬ record.lifecycle.IsTerminal
  valid : next.validate prims = .ok ()
  eq_tombstone : ∃ tombstone : TombstoneRecord,
    next = { record with lifecycle := .tombstone tombstone, materialState := .tombstone } ∧
      tombstone.revision = record.lifecycle.revision + 1

variable {mutation : PoolMutation} {header : ActiveRecordHeader}

variable (hlive : ¬ record.lifecycle.IsTerminal)

include hlive in
theorem replace_tombstone_eq_ok (hrevision : header.revision = record.lifecycle.revision)
    (hmutation : mutation.Tombstones header)
    (h : record.replace prims mutation.replacement .tombstone = .ok next) :
    record.Destroys prims next := by
  obtain ⟨rfl, hvalid⟩ := replace_eq_ok h
  obtain ⟨tombstone, hreplacement, -, hnext⟩ := hmutation.replacement
  refine ⟨hlive, hvalid, tombstone, by rw [hreplacement], ?_⟩
  rw [hnext, hrevision]

include hlive in
theorem intoDestroyedTombstone_eq_ok (hrevision : header.revision = record.lifecycle.revision)
    (hmutation : mutation.Tombstones header)
    (h : record.intoDestroyedTombstone prims mutation = .ok next) : record.Destroys prims next := by
  simp only [intoDestroyedTombstone, ok_iff] at h
  exact replace_tombstone_eq_ok hlive hrevision hmutation h.2

variable {reason : TombstoneReason} {nowUnixMs : ℕ}

theorem destroyReserved_eq_ok
    (h : record.destroyReserved prims requestDigest reason nowUnixMs = .ok next) :
    record.Destroys prims next := by
  simp only [destroyReserved, ok_iff] at h
  obtain ⟨-, h⟩ := h
  cases hlifecycle : record.lifecycle with
  | reserved lifecycle =>
    simp only [hlifecycle, bind_eq_ok, liftTransition_eq_ok] at h
    obtain ⟨attempted, -, mutation, hmutation, h⟩ := h
    exact intoDestroyedTombstone_eq_ok (by simp [hlifecycle, PoolRecord.IsTerminal])
      (by rw [hlifecycle]; rfl) (ReservedRecord.destroy_eq_ok hmutation) h
  | available lifecycle | consumed lifecycle | tombstone lifecycle => simp [hlifecycle] at h

theorem recoverAfterCrash_eq_ok
    (h : record.recoverAfterCrash prims nowUnixMs = .ok next) : record.Destroys prims next := by
  simp only [recoverAfterCrash, ok_iff] at h
  obtain ⟨-, h⟩ := h
  cases hlifecycle : record.lifecycle with
  | reserved lifecycle =>
    simp only [hlifecycle, bind_eq_ok, liftTransition_eq_ok] at h
    obtain ⟨mutation, hmutation, h⟩ := h
    exact intoDestroyedTombstone_eq_ok (by simp [hlifecycle, PoolRecord.IsTerminal])
      (by rw [hlifecycle]; rfl) (ReservedRecord.destroy_eq_ok hmutation) h
  | available lifecycle | consumed lifecycle | tombstone lifecycle => simp [hlifecycle] at h

/-- A terminal transition of a live record, whichever of the two live states it
is in. -/
theorem live_transition_eq_ok
    {available : AvailableRecord → ℕ → Except PoolTransitionError PoolMutation}
    {reserved : ReservedRecord → ℕ → Except PoolTransitionError PoolMutation}
    {terminal : RouterAbProtocolResult EcdsaPoolLifecycleRecord}
    (havailable : ∀ {lifecycle : AvailableRecord} {mutation : PoolMutation},
      available lifecycle nowUnixMs = .ok mutation → mutation.Tombstones lifecycle.header)
    (hreserved : ∀ {lifecycle : ReservedRecord} {mutation : PoolMutation},
      reserved lifecycle nowUnixMs = .ok mutation → mutation.Tombstones lifecycle.header)
    (hterminal : record.lifecycle.IsTerminal → terminal ≠ .ok next)
    (h : (match record.lifecycle with
      | .available lifecycle => do
        let mutation ← liftTransition (available lifecycle nowUnixMs)
        record.intoDestroyedTombstone prims mutation
      | .reserved lifecycle => do
        let mutation ← liftTransition (reserved lifecycle nowUnixMs)
        record.intoDestroyedTombstone prims mutation
      | .consumed _ | .tombstone _ => terminal) = .ok next) : record.Destroys prims next := by
  cases hlifecycle : record.lifecycle with
  | available lifecycle =>
    simp only [hlifecycle, bind_eq_ok, liftTransition_eq_ok] at h
    obtain ⟨mutation, hmutation, h⟩ := h
    exact intoDestroyedTombstone_eq_ok (by simp [hlifecycle, PoolRecord.IsTerminal])
      (by rw [hlifecycle]; rfl) (havailable hmutation) h
  | reserved lifecycle =>
    simp only [hlifecycle, bind_eq_ok, liftTransition_eq_ok] at h
    obtain ⟨mutation, hmutation, h⟩ := h
    exact intoDestroyedTombstone_eq_ok (by simp [hlifecycle, PoolRecord.IsTerminal])
      (by rw [hlifecycle]; rfl) (hreserved hmutation) h
  | consumed lifecycle | tombstone lifecycle =>
    rw [hlifecycle] at h hterminal
    exact absurd h (hterminal trivial)

theorem expire_eq_ok
    (h : record.expire prims nowUnixMs = .ok next) : record.Destroys prims next := by
  simp only [expire, ok_iff] at h
  refine live_transition_eq_ok AvailableRecord.expire_eq_ok ReservedRecord.expire_eq_ok ?_ h.2
  intro _ hterminal
  cases hterminal

theorem retire_eq_ok
    (h : record.retire prims reason nowUnixMs = .ok next) : record.Destroys prims next := by
  simp only [retire, ok_iff] at h
  refine live_transition_eq_ok AvailableRecord.retire_eq_ok ReservedRecord.retire_eq_ok ?_ h.2
  intro _ hterminal
  cases hterminal

include hlive in
theorem invalidateForRelocation_eq_ok
    (h : record.invalidateForRelocation prims nowUnixMs = .ok next) :
    record.Destroys prims next := by
  simp only [invalidateForRelocation, ok_iff] at h
  refine live_transition_eq_ok ActiveRecordHeader.tombstone_eq_ok
    ReservedRecord.destroy_eq_ok ?_ h.2
  intro hterminal
  exact absurd hterminal hlive

/-- The material of a reserved record is handed out to the request it was
reserved for, inside its lease. -/
structure Consumes (prims : Primitives) (requestDigest : PublicDigest32) (nowUnixMs : ℕ)
    (material : EcdsaPresignatureRecord) (record next : EcdsaPoolLifecycleRecord) :
    Prop where
  valid : next.validate prims = .ok ()
  material_eq : record.materialState = .reserved material
  within_lease : ∃ lifecycle : ReservedRecord, record.lifecycle = .reserved lifecycle ∧
    reservationBinding prims record.scope record.serverPresignatureId requestDigest =
      .ok lifecycle.binding ∧
    lifecycle.reservedAtMs ≤ nowUnixMs ∧ nowUnixMs < lifecycle.leaseExpiresAtMs
  eq_consumed : ∃ consumed : ConsumedRecord,
    next = { record with lifecycle := .consumed consumed, materialState := .consumed } ∧
      consumed.revision = record.lifecycle.revision + 1

/-- A consume attempt on a valid record has three ends: the material is handed
out, it is destroyed, or nothing happens. -/
theorem consume_eq_ok {decision : EcdsaPoolConsumeDecision}
    (h : record.consume prims requestDigest nowUnixMs = .ok decision) :
    (∃ next material, decision = .consumed next material ∧
      record.Consumes prims requestDigest nowUnixMs material next) ∨
    ∃ next, decision = .burned next ∧ record.Destroys prims next := by
  simp only [consume, ok_iff] at h
  obtain ⟨-, binding, hbinding, h⟩ := h
  cases hlifecycle : record.lifecycle with
  | available lifecycle | consumed lifecycle | tombstone lifecycle => simp [hlifecycle] at h
  | reserved lifecycle =>
    rw [hlifecycle] at h
    cases hdecision : lifecycle.consume binding nowUnixMs with
    | rejected error => simp [hdecision] at h
    | burned mutation =>
      right
      simp only [hdecision, ok_iff] at h
      obtain ⟨-, next, hnext, rfl⟩ := h
      refine ⟨next, rfl, replace_tombstone_eq_ok ?_ ?_
        (ReservedRecord.consume_eq_burned hdecision) hnext⟩
      · simp [hlifecycle, PoolRecord.IsTerminal]
      · rw [hlifecycle]
        rfl
    | consumed mutation =>
      left
      obtain ⟨rfl, hreserved, hlease, -, consumed, hreplacement, -, hrevision⟩ :=
        ReservedRecord.consume_eq_consumed hdecision
      cases hmaterial : record.materialState with
      | available material | consumed | tombstone => simp [hdecision, hmaterial] at h
      | reserved material =>
        simp only [hdecision, hmaterial, ok_iff] at h
        obtain ⟨-, next, hnext, rfl⟩ := h
        obtain ⟨rfl, hvalid⟩ := replace_eq_ok hnext
        refine ⟨_, material, rfl, hvalid, hmaterial,
          ⟨lifecycle, hlifecycle, hbinding, hreserved, hlease⟩, consumed, ?_, ?_⟩
        · rw [hreplacement]
        · rw [hrevision, hlifecycle]
          rfl

end EcdsaPoolLifecycleRecord

/-! ## Commands -/

def EcdsaPoolCommand.reservation : EcdsaPoolCommand → Option ReservationRequest
  | .putReserved _ request | .reserve _ request => some request
  | _ => none

/-- The transitions a successful command can make. -/
inductive Applied (prims : Primitives) : Option EcdsaPoolLifecycleRecord →
    EcdsaPoolCommand → EcdsaPoolMutationOutcome → Prop
  | putAvailable {material : EcdsaPresignaturePoolRecord}
      {record : EcdsaPoolLifecycleRecord} (hfresh : record.Fresh prims material) :
      Applied prims none (.putAvailable material) (.available record true)
  | putReserved {material : EcdsaPresignaturePoolRecord} {request : ReservationRequest}
      {fresh record : EcdsaPoolLifecycleRecord} (hfresh : fresh.Fresh prims material)
      (hreserve : fresh.reserveFor prims request = .ok record) :
      Applied prims none (.putReserved material request) (.reserved record)
  | keepAvailable {material : EcdsaPresignaturePoolRecord}
      {current : EcdsaPoolLifecycleRecord} (hfresh : current.Fresh prims material) :
      Applied prims (some current) (.putAvailable material) (.available current false)
  | keepReserved {current : EcdsaPoolLifecycleRecord} {target : CommandTarget}
      {request : ReservationRequest} {material : EcdsaPresignatureRecord}
      (hvalid : current.validate prims = .ok ())
      (hmaterial : current.materialState = .reserved material)
      (hdigest : material.requestDigest = request.requestDigest) :
      Applied prims (some current) (.reserve target request) (.reserved current)
  | keepTerminal {current : EcdsaPoolLifecycleRecord} {command : EcdsaPoolCommand}
      {outcome : EcdsaPoolMutationOutcome} (hvalid : current.validate prims = .ok ())
      (houtcome : outcome = .preservedTerminal current ∨
        outcome = .finished current ∧ ∃ tombstone, current.lifecycle = .tombstone tombstone)
      (hterminal : current.lifecycle.IsTerminal) :
      Applied prims (some current) command outcome
  | reserve {current record : EcdsaPoolLifecycleRecord} {target : CommandTarget}
      {request : ReservationRequest} (hreserve : current.reserveFor prims request = .ok record) :
      Applied prims (some current) (.reserve target request) (.reserved record)
  | consume {current record : EcdsaPoolLifecycleRecord} {target : CommandTarget}
      {requestDigest : PublicDigest32} {nowUnixMs : ℕ} {material : EcdsaPresignatureRecord}
      (hconsume : current.Consumes prims requestDigest nowUnixMs material record)
      (hidentity : current.scope = target.scope ∧
        current.serverPresignatureId = target.serverPresignatureId) :
      Applied prims (some current) (.consume target requestDigest nowUnixMs)
        (.consumed record material)
  | destroy {current record : EcdsaPoolLifecycleRecord} {command : EcdsaPoolCommand}
      {outcome : EcdsaPoolMutationOutcome} (hdestroy : current.Destroys prims record)
      (houtcome : outcome = .burned record ∨ outcome = .finished record) :
      Applied prims (some current) command outcome

theorem requireCurrent_eq_ok {current : Option EcdsaPoolLifecycleRecord} :
    requireCurrent current = .ok record ↔ current = some record :=
  okOr_eq_ok

variable {current : EcdsaPoolLifecycleRecord} {target : CommandTarget}

theorem validateCommandIdentity_eq_ok (h : validateCommandIdentity prims current target = .ok ()) :
    current.validate prims = .ok () ∧ current.scope = target.scope ∧
      current.serverPresignatureId = target.serverPresignatureId := by
  simp only [validateCommandIdentity, ok_iff] at h
  obtain ⟨hvalid, -, hidentity, -⟩ := h
  exact ⟨hvalid, hidentity⟩

variable {material : EcdsaPresignatureRecord}

theorem EcdsaPoolLifecycleRecord.lifecycle_of_reserved_material
    (hvalid : record.validate prims = .ok ())
    (hmaterial : record.materialState = .reserved material) :
    ∃ lifecycle, record.lifecycle = .reserved lifecycle := by
  simp only [validate, ok_iff] at hvalid
  obtain ⟨-, -, key, -, -, hvalid⟩ := hvalid
  unfold validateMaterial at hvalid
  cases hlifecycle : record.lifecycle with
  | reserved lifecycle => exact ⟨lifecycle, rfl⟩
  | available lifecycle | consumed lifecycle | tombstone lifecycle =>
    simp [hlifecycle, hmaterial] at hvalid

variable {request : ReservationRequest}

/-- A retried reservation is answered with the record that is already there,
for the digest it was reserved for. -/
theorem isReserveRetry_digest (h : isReserveRetry current target request) :
    ∃ material, current.materialState = .reserved material ∧
      material.requestDigest = request.requestDigest := by
  unfold isReserveRetry at h
  cases hmaterial : current.materialState with
  | reserved material =>
    simp only [hmaterial, decide_eq_true_eq] at h
    exact ⟨material, rfl, h.2.2.2.2.1⟩
  | available material | consumed | tombstone => simp [hmaterial] at h

variable {nowUnixMs : ℕ}

theorem isRelocationRetry_tombstone (h : isRelocationRetry current target nowUnixMs) :
    ∃ tombstone, current.lifecycle = .tombstone tombstone := by
  unfold isRelocationRetry at h
  cases hlifecycle : current.lifecycle with
  | tombstone tombstone => exact ⟨tombstone, rfl⟩
  | available lifecycle | reserved lifecycle | consumed lifecycle => simp [hlifecycle] at h

variable {outcome : EcdsaPoolMutationOutcome}

theorem runCommand_reserve
    (h : runCommand prims (some current) (.reserve target request) = .ok outcome) :
    Applied prims (some current) (.reserve target request) outcome := by
  simp only [runCommand, requireCurrent, okOr_some, ok_bind] at h
  split_ifs at h with hretry
  · simp only [ok_iff] at h
    obtain ⟨hvalid, rfl⟩ := h
    obtain ⟨material, hmaterial, hdigest⟩ := isReserveRetry_digest hretry
    exact .keepReserved hvalid hmaterial hdigest
  · simp only [ok_iff] at h
    obtain ⟨-, record, hrecord, rfl⟩ := h
    exact .reserve hrecord

theorem runCommand_consume
    (h : runCommand prims (some current) (.consume target requestDigest nowUnixMs) = .ok outcome) :
    Applied prims (some current) (.consume target requestDigest nowUnixMs) outcome := by
  simp only [runCommand, requireCurrent, okOr_some, ok_bind, ok_iff] at h
  obtain ⟨hidentity, decision, hdecision, h⟩ := h
  rcases consume_eq_ok hdecision with
    ⟨next, material, rfl, hconsume⟩ | ⟨next, rfl, hdestroy⟩
  · cases h
    exact .consume hconsume (validateCommandIdentity_eq_ok hidentity).2
  · cases h
    exact .destroy hdestroy (.inl rfl)

theorem runCommand_invalidateForRelocation
    (h : runCommand prims (some current) (.invalidateForRelocation target nowUnixMs) =
      .ok outcome) :
    Applied prims (some current) (.invalidateForRelocation target nowUnixMs) outcome := by
  simp only [runCommand, requireCurrent, okOr_some, ok_bind, ok_iff] at h
  obtain ⟨hidentity, h⟩ := h
  have hvalid := (validateCommandIdentity_eq_ok hidentity).1
  by_cases hterminal : current.lifecycle.IsTerminal
  · rw [if_pos hterminal] at h
    by_cases hretry : isRelocationRetry current target nowUnixMs
    · rw [if_pos hretry, pure_eq_ok] at h
      exact .keepTerminal hvalid (.inr ⟨h.symm, isRelocationRetry_tombstone hretry⟩)
        hterminal
    · rw [if_neg hretry, pure_eq_ok] at h
      exact .keepTerminal hvalid (.inl h.symm) hterminal
  · rw [if_neg hterminal] at h
    simp only [ok_iff] at h
    obtain ⟨record, hrecord, rfl⟩ := h
    exact .destroy (invalidateForRelocation_eq_ok hterminal hrecord) (.inr rfl)

variable {prims : Primitives}

theorem runCommand_put {current : Option EcdsaPoolLifecycleRecord}
    {material : EcdsaPresignaturePoolRecord}
    (h : runCommand prims current (.putAvailable material) = .ok outcome) :
    Applied prims current (.putAvailable material) outcome := by
  simp only [runCommand, bind_eq_ok] at h
  obtain ⟨record, hrecord, h⟩ := h
  have hfresh := newAvailable_eq_ok hrecord
  cases current with
  | none =>
    cases h
    exact .putAvailable hfresh
  | some existing =>
    simp only [ok_iff] at h
    obtain ⟨rfl, rfl⟩ := h
    exact .keepAvailable hfresh

variable {command : EcdsaPoolCommand}

theorem applyCommand_eq_ok {current : Option EcdsaPoolLifecycleRecord}
    (h : applyCommand prims current command = .ok outcome) :
    Applied prims current command outcome := by
  simp only [applyCommand, ok_iff] at h
  obtain ⟨-, h⟩ := h
  cases command with
  | putAvailable material => exact runCommand_put h
  | putReserved material request =>
    simp only [runCommand, ok_iff, Option.isNone_iff_eq_none] at h
    obtain ⟨rfl, fresh, hfresh, record, hrecord, rfl⟩ := h
    exact .putReserved (newAvailable_eq_ok hfresh) hrecord
  | reserve | consume | invalidateForRelocation =>
    obtain ⟨record, hcurrent, -⟩ := bind_eq_ok.mp h
    rw [requireCurrent_eq_ok.mp hcurrent] at h ⊢
    first
    | exact runCommand_reserve h
    | exact runCommand_consume h
    | exact runCommand_invalidateForRelocation h
  | destroyReserved | recoverInterrupted | expire | retire =>
    -- each of them ends with the tombstone that its own method makes of the record
    simp only [runCommand, ok_iff, requireCurrent_eq_ok] at h
    obtain ⟨record, rfl, -, next, hnext, rfl⟩ := h
    refine .destroy ?_ (.inr rfl)
    first
    | exact destroyReserved_eq_ok hnext
    | exact recoverAfterCrash_eq_ok hnext
    | exact expire_eq_ok hnext
    | exact retire_eq_ok hnext

theorem Applied.valid {current : Option EcdsaPoolLifecycleRecord}
    (h : Applied prims current command outcome) : outcome.record.validate prims = .ok () := by
  cases h with
  | putAvailable hfresh | keepAvailable hfresh => exact hfresh.valid
  | putReserved _ hreserve | reserve hreserve =>
    obtain ⟨-, -, -, -, -, hvalid, -⟩ := reserveFor_eq_ok hreserve
    exact hvalid
  | keepReserved hvalid => exact hvalid
  | keepTerminal hvalid houtcome =>
    rcases houtcome with rfl | ⟨rfl, -⟩ <;> exact hvalid
  | consume hconsume => exact hconsume.valid
  | destroy hdestroy houtcome =>
    rcases houtcome with rfl | rfl <;> exact hdestroy.valid

/-- A successful command keeps the record, or replaces a live one by a record
one revision later. -/
theorem Applied.revision (h : Applied prims (some current) command outcome) :
    outcome.record = current ∨ ¬ current.lifecycle.IsTerminal ∧
      outcome.record.lifecycle.revision = current.lifecycle.revision + 1 := by
  cases h with
  | keepAvailable | keepReserved => exact .inl rfl
  | keepTerminal _ houtcome =>
    left
    rcases houtcome with rfl | ⟨rfl, -⟩ <;> rfl
  | reserve hreserve =>
    right
    obtain ⟨available, lifecycle, material, havailable, rfl, -, hrevision, -⟩ :=
      reserveFor_eq_ok hreserve
    rw [havailable]
    exact ⟨id, hrevision⟩
  | consume hconsume =>
    right
    obtain ⟨lifecycle, hlifecycle, -⟩ := hconsume.within_lease
    obtain ⟨consumed, rfl, hrevision⟩ := hconsume.eq_consumed
    refine ⟨?_, hrevision⟩
    rw [hlifecycle]
    exact id
  | destroy hdestroy houtcome =>
    right
    obtain ⟨tombstone, rfl, hrevision⟩ := hdestroy.eq_tombstone
    rcases houtcome with rfl | rfl <;> exact ⟨hdestroy.live, hrevision⟩

end SeamsWallet.EcdsaPool
