import SeamsWallet.Library.BigEndian
import SeamsWallet.Library.Except

/-!
# The lifecycle of a pooled presignature

The storage-independent pool crate: one role-local presignature half is
available, then reserved for one request, and ends consumed or as a tombstone.
Every transition is planned as a compare-and-swap mutation that raises the
revision by one and says what happens to the sealed material. The records carry
the order of their timestamps, which their constructors check.
-/

namespace SeamsWallet.EcdsaPool

open Library

/-! ## Identities -/

structure NonzeroDigest where
  bytes : Bytes 32
  ne_zero : bytes ≠ Bytes.zeros 32
  deriving DecidableEq

inductive PoolIdentityError where
  | zeroBinding

def PoolIdentityError.display : PoolIdentityError → String
  | .zeroBinding => "pool binding must be non-zero"

def NonzeroDigest.new (bytes : Bytes 32) : Except PoolIdentityError NonzeroDigest :=
  if h : bytes = Bytes.zeros 32 then .error .zeroBinding else .ok ⟨bytes, h⟩

inductive PoolRole where
  | client
  | signingWorker
  deriving DecidableEq

structure PoolRecordKey where
  wallet : NonzeroDigest
  account : NonzeroDigest
  signingScope : NonzeroDigest
  pairId : NonzeroDigest
  role : PoolRole
  keyEpoch : NonzeroDigest
  activationEpoch : NonzeroDigest
  protocol : NonzeroDigest
  deriving DecidableEq

/-- The reservation and the online request a reservation is bound to. -/
structure ReservationBinding where
  reservationId : NonzeroDigest
  request : NonzeroDigest
  deriving DecidableEq

inductive PoolTransitionError where
  | invalidTimestampOrder
  | materialExpired
  | tooEarly
  | invalidTerminalReason
  | revisionExhausted
  deriving DecidableEq

def PoolTransitionError.display : PoolTransitionError → String
  | .invalidTimestampOrder => "pool timestamps are out of order"
  | .materialExpired => "presignature material is expired"
  | .tooEarly => "pool transition deadline has not elapsed"
  | .invalidTerminalReason => "terminal reason is invalid for this state"
  | .revisionExhausted => "pool revision counter is exhausted"

/-- The next revision; the counter is 64 bits wide. -/
def nextRevision (revision : ℕ) : Except PoolTransitionError ℕ := do
  ensure (revision + 1 < 2 ^ 64) .revisionExhausted
  return revision + 1

theorem nextRevision_eq_ok {revision next : ℕ}
    (h : nextRevision revision = .ok next) : next = revision + 1 := by
  simp only [nextRevision, ok_iff, exists_const] at h
  exact h.2.symm

/-! ## Records -/

structure ActiveRecordHeader where
  key : PoolRecordKey
  revision : ℕ
  material : NonzeroDigest
  createdAtMs : ℕ
  materialExpiresAtMs : ℕ
  deriving DecidableEq

structure AvailableRecord where
  header : ActiveRecordHeader
  created_lt_expires : header.createdAtMs < header.materialExpiresAtMs
  deriving DecidableEq

structure ReservedRecord where
  header : ActiveRecordHeader
  binding : ReservationBinding
  reservedAtMs : ℕ
  leaseExpiresAtMs : ℕ
  created_le_reserved : header.createdAtMs ≤ reservedAtMs
  reserved_lt_lease : reservedAtMs < leaseExpiresAtMs
  lease_le_expires : leaseExpiresAtMs ≤ header.materialExpiresAtMs
  deriving DecidableEq

structure ConsumedRecord where
  key : PoolRecordKey
  revision : ℕ
  binding : ReservationBinding
  createdAtMs : ℕ
  reservedAtMs : ℕ
  consumedAtMs : ℕ
  deriving DecidableEq

inductive TombstoneOrigin where
  | unused
  | attempted (binding : ReservationBinding)
  deriving DecidableEq

inductive TombstoneReason where
  | rejected
  | bindingRejected
  | timeout
  | cancelled
  | crashRecovery
  | peerAbort
  | persistenceFailure
  | materialExpired
  | walletRelocated
  | keyEpochRetired
  | activationEpochRetired
  deriving DecidableEq

def TombstoneReason.IsRetirement (reason : TombstoneReason) : Prop :=
  reason = .keyEpochRetired ∨ reason = .activationEpochRetired

instance (reason : TombstoneReason) : Decidable reason.IsRetirement :=
  inferInstanceAs (Decidable (_ ∨ _))

structure TombstoneRecord where
  key : PoolRecordKey
  revision : ℕ
  createdAtMs : ℕ
  terminalAtMs : ℕ
  reason : TombstoneReason
  origin : TombstoneOrigin
  deriving DecidableEq

inductive PoolRecord where
  | available (record : AvailableRecord)
  | reserved (record : ReservedRecord)
  | consumed (record : ConsumedRecord)
  | tombstone (record : TombstoneRecord)
  deriving DecidableEq

namespace PoolRecord

def key : PoolRecord → PoolRecordKey
  | .available record => record.header.key
  | .reserved record => record.header.key
  | .consumed record => record.key
  | .tombstone record => record.key

def revision : PoolRecord → ℕ
  | .available record => record.header.revision
  | .reserved record => record.header.revision
  | .consumed record => record.revision
  | .tombstone record => record.revision

/-- Consumed records and tombstones hold no material and are final. -/
def IsTerminal : PoolRecord → Prop
  | .available _ | .reserved _ => False
  | .consumed _ | .tombstone _ => True

instance : (record : PoolRecord) → Decidable record.IsTerminal
  | .available _ | .reserved _ => .isFalse id
  | .consumed _ | .tombstone _ => .isTrue trivial

end PoolRecord

inductive MaterialDisposition where
  | retain
  | take (material : NonzeroDigest)
  | destroy (material : NonzeroDigest)
  deriving DecidableEq

def MaterialDisposition.isTake : MaterialDisposition → Bool
  | .take _ => true
  | _ => false

def MaterialDisposition.isDestroy : MaterialDisposition → Bool
  | .destroy _ => true
  | _ => false

structure PoolMutation where
  expectedRevision : ℕ
  replacement : PoolRecord
  materialDisposition : MaterialDisposition
  deriving DecidableEq

/-! ## Transitions -/

def ActiveRecordHeader.tombstone (header : ActiveRecordHeader)
    (reason : TombstoneReason) (terminalAtMs : ℕ) (origin : TombstoneOrigin) :
    Except PoolTransitionError PoolMutation := do
  ensure (header.createdAtMs ≤ terminalAtMs) .invalidTimestampOrder
  let revision ← nextRevision header.revision
  return {
    expectedRevision := header.revision
    replacement := .tombstone {
      key := header.key
      revision
      createdAtMs := header.createdAtMs
      terminalAtMs
      reason
      origin }
    materialDisposition := .destroy header.material }

namespace AvailableRecord

def new (key : PoolRecordKey) (material : NonzeroDigest) (createdAtMs materialExpiresAtMs : ℕ) :
    Except PoolTransitionError AvailableRecord :=
  if h : createdAtMs < materialExpiresAtMs then
    .ok ⟨⟨key, 0, material, createdAtMs, materialExpiresAtMs⟩, h⟩
  else .error .invalidTimestampOrder

variable (record : AvailableRecord)

def reserve (binding : ReservationBinding) (reservedAtMs leaseExpiresAtMs : ℕ) :
    Except PoolTransitionError PoolMutation :=
  if hcreated : record.header.createdAtMs ≤ reservedAtMs then
    if reservedAtMs ≥ record.header.materialExpiresAtMs then .error .materialExpired
    else if hlease : reservedAtMs < leaseExpiresAtMs ∧
        leaseExpiresAtMs ≤ record.header.materialExpiresAtMs then do
      let revision ← nextRevision record.header.revision
      return {
        expectedRevision := record.header.revision
        replacement := .reserved {
          header := { record.header with revision }
          binding
          reservedAtMs
          leaseExpiresAtMs
          created_le_reserved := hcreated
          reserved_lt_lease := hlease.1
          lease_le_expires := hlease.2 }
        materialDisposition := .retain }
    else .error .invalidTimestampOrder
  else .error .invalidTimestampOrder

def expire (nowMs : ℕ) : Except PoolTransitionError PoolMutation := do
  ensure (record.header.materialExpiresAtMs ≤ nowMs) .tooEarly
  record.header.tombstone .materialExpired nowMs .unused

def invalidateForRelocation (nowMs : ℕ) : Except PoolTransitionError PoolMutation :=
  record.header.tombstone .walletRelocated nowMs .unused

def retire (reason : TombstoneReason) (nowMs : ℕ) : Except PoolTransitionError PoolMutation := do
  ensure reason.IsRetirement .invalidTerminalReason
  record.header.tombstone reason nowMs .unused

end AvailableRecord

inductive ConsumeDecision where
  | consumed (mutation : PoolMutation)
  | burned (mutation : PoolMutation)
  | rejected (error : PoolTransitionError)
  deriving DecidableEq

namespace ReservedRecord

variable (record : ReservedRecord)

/-- Why an attempt to consume must burn the material instead, if it must. -/
def burnReason (binding : ReservationBinding) (nowMs : ℕ) : Option TombstoneReason :=
  if binding ≠ record.binding then some .bindingRejected
  else if record.header.materialExpiresAtMs ≤ nowMs then some .materialExpired
  else if record.leaseExpiresAtMs ≤ nowMs then some .timeout
  else none

def consume (binding : ReservationBinding) (nowMs : ℕ) : ConsumeDecision :=
  if nowMs < record.reservedAtMs then .rejected .invalidTimestampOrder
  else
    match record.burnReason binding nowMs with
    | some reason =>
      match record.header.tombstone reason nowMs (.attempted record.binding) with
      | .ok mutation => .burned mutation
      | .error error => .rejected error
    | none =>
      match nextRevision record.header.revision with
      | .error error => .rejected error
      | .ok revision => .consumed {
          expectedRevision := record.header.revision
          replacement := .consumed {
            key := record.header.key
            revision
            binding := record.binding
            createdAtMs := record.header.createdAtMs
            reservedAtMs := record.reservedAtMs
            consumedAtMs := nowMs }
          materialDisposition := .take record.header.material }

def destroy (reason : TombstoneReason) (nowMs : ℕ) : Except PoolTransitionError PoolMutation := do
  ensure (record.reservedAtMs ≤ nowMs) .invalidTimestampOrder
  record.header.tombstone reason nowMs (.attempted record.binding)

def recoverAfterCrash (nowMs : ℕ) : Except PoolTransitionError PoolMutation :=
  record.destroy .crashRecovery nowMs

def expire (nowMs : ℕ) : Except PoolTransitionError PoolMutation :=
  if record.header.materialExpiresAtMs ≤ nowMs then record.destroy .materialExpired nowMs
  else if record.leaseExpiresAtMs ≤ nowMs then record.destroy .timeout nowMs
  else .error .tooEarly

def invalidateForRelocation (nowMs : ℕ) : Except PoolTransitionError PoolMutation :=
  record.destroy .walletRelocated nowMs

def retire (reason : TombstoneReason) (nowMs : ℕ) : Except PoolTransitionError PoolMutation := do
  ensure reason.IsRetirement .invalidTerminalReason
  record.destroy reason nowMs

end ReservedRecord

/-! ## What a planned mutation does -/

/-- The mutation replaces a record with this header by a tombstone one revision
later and destroys its material. -/
structure PoolMutation.Tombstones (mutation : PoolMutation)
    (header : ActiveRecordHeader) : Prop where
  replacement : ∃ tombstone : TombstoneRecord, mutation.replacement = .tombstone tombstone ∧
      tombstone.key = header.key ∧ tombstone.revision = header.revision + 1
  disposition : mutation.materialDisposition = .destroy header.material

theorem ActiveRecordHeader.tombstone_eq_ok {header : ActiveRecordHeader}
    {reason : TombstoneReason} {terminalAtMs : ℕ} {origin : TombstoneOrigin}
    {mutation : PoolMutation}
    (h : header.tombstone reason terminalAtMs origin = .ok mutation) :
    mutation.Tombstones header := by
  simp only [tombstone, ok_iff, exists_const] at h
  obtain ⟨-, revision, hrevision, rfl⟩ := h
  obtain rfl := nextRevision_eq_ok hrevision
  exact ⟨⟨_, rfl, rfl, rfl⟩, rfl⟩

variable {binding : ReservationBinding} {record : ReservedRecord}

namespace AvailableRecord

variable {nowMs : ℕ} {mutation : PoolMutation} {record : AvailableRecord}

theorem expire_eq_ok (h : record.expire nowMs = .ok mutation) :
    mutation.Tombstones record.header := by
  simp only [expire, ok_iff, exists_const] at h
  exact ActiveRecordHeader.tombstone_eq_ok h.2

theorem retire_eq_ok {reason : TombstoneReason} (h : record.retire reason nowMs = .ok mutation) :
    mutation.Tombstones record.header := by
  simp only [retire, ok_iff, exists_const] at h
  exact ActiveRecordHeader.tombstone_eq_ok h.2

end AvailableRecord

namespace ReservedRecord

variable {reason : TombstoneReason} {nowMs : ℕ} {mutation : PoolMutation}

theorem destroy_eq_ok (h : record.destroy reason nowMs = .ok mutation) :
    mutation.Tombstones record.header := by
  simp only [destroy, ok_iff, exists_const] at h
  exact ActiveRecordHeader.tombstone_eq_ok h.2

theorem expire_eq_ok (h : record.expire nowMs = .ok mutation) :
    mutation.Tombstones record.header := by
  unfold expire at h
  split_ifs at h
  · exact destroy_eq_ok h
  · exact destroy_eq_ok h

theorem retire_eq_ok (h : record.retire reason nowMs = .ok mutation) :
    mutation.Tombstones record.header := by
  simp only [retire, ok_iff, exists_const] at h
  exact destroy_eq_ok h.2

/-- Material is taken only for the binding it was reserved for, at or after the
reservation and before the lease expires. -/
theorem consume_eq_consumed (h : record.consume binding nowMs = .consumed mutation) :
    binding = record.binding ∧ record.reservedAtMs ≤ nowMs ∧ nowMs < record.leaseExpiresAtMs ∧
      mutation.materialDisposition = .take record.header.material ∧
      ∃ consumed : ConsumedRecord, mutation.replacement = .consumed consumed ∧
        consumed.key = record.header.key ∧
        consumed.revision = record.header.revision + 1 := by
  unfold consume at h
  split_ifs at h with hearly
  have hreason : record.burnReason binding nowMs = none := by
    cases hreason : record.burnReason binding nowMs with
    | none => rfl
    | some reason =>
      rw [hreason] at h
      cases htombstone : record.header.tombstone reason nowMs
          (.attempted record.binding) <;> simp [htombstone] at h
  rw [hreason] at h
  cases hrevision : nextRevision record.header.revision with
  | error error => simp [hrevision] at h
  | ok revision =>
    obtain rfl := nextRevision_eq_ok hrevision
    simp only [hrevision, ConsumeDecision.consumed.injEq] at h
    subst h
    unfold burnReason at hreason
    split_ifs at hreason with hbinding hexpired hlease
    exact ⟨not_not.mp hbinding, not_lt.mp hearly, not_le.mp hlease, rfl, _, rfl, rfl, rfl⟩

theorem consume_eq_burned
    (h : record.consume binding nowMs = .burned mutation) : mutation.Tombstones record.header := by
  unfold consume at h
  split_ifs at h with hearly
  cases hreason : record.burnReason binding nowMs with
  | none =>
    cases hrevision : nextRevision record.header.revision <;>
      simp [hreason, hrevision] at h
  | some reason =>
    rw [hreason] at h
    cases htombstone : record.header.tombstone reason nowMs (.attempted record.binding) with
    | error error => simp [htombstone] at h
    | ok tombstoned =>
      simp only [htombstone, ConsumeDecision.burned.injEq] at h
      subst h
      exact ActiveRecordHeader.tombstone_eq_ok htombstone

end ReservedRecord

end SeamsWallet.EcdsaPool
