import SeamsWallet.Nonce.Lane

/-!
# Leases of all coordinators against the shared records

The ledger relates the leases that all coordinators hold in memory to the shared
coordination records. An active lease is either past its time or backed by a
record that the other coordinators can see, and no two active leases of a lane
have the same nonce.

In the middle of an operation the record of one lease may be out of step with it.
That lease is then exempt, and what happens to the lease and its record does not
concern the other leases.
-/

namespace SeamsWallet.Nonce

open Library

/-- Who holds which lease under which id. -/
abbrev Holdings : Type := ℕ → NonceLeaseId → NonceLease → Prop

def heldBy (leases : ℕ → Dict NonceLeaseId NonceLease) : Holdings :=
  fun i id lease => (leases i).get? id = some lease

def Holdings.set (held : Holdings) (i : ℕ) (lease : NonceLease) : Holdings :=
  fun j id other => (j = i ∧ id = lease.leaseId ∧ other = lease) ∨
    (¬(j = i ∧ id = lease.leaseId) ∧ held j id other)

theorem heldBy_update_set (others : ℕ → Dict NonceLeaseId NonceLease) (i : ℕ)
    (leases : Dict NonceLeaseId NonceLease) (lease : NonceLease) :
    heldBy (Function.update others i (leases.set lease.leaseId lease)) =
      (heldBy (Function.update others i leases)).set i lease := by
  funext j id other
  rw [Holdings.set, heldBy, heldBy]
  by_cases hj : j = i
  · subst hj
    rw [Function.update_self, Function.update_self, Dict.get?_set]
    by_cases hid : id = lease.leaseId
    · rw [if_pos hid]
      simp [hid, eq_comm]
    · rw [if_neg hid]
      simp [hid]
  · rw [Function.update_of_ne hj, Function.update_of_ne hj]
    simp [hj]

/-- A lease past its time; an accepted broadcast has no time to pass. -/
def Stale (nowMs : ℕ) (lease : NonceLease) : Prop :=
  lease.state ≠ .broadcastAccepted ∧ lease.expiresAtMs ≤ nowMs

/-- A record from which others learn of a lease for as long as it is not stale. -/
structure Covers (record : NonceLaneCoordinationRecord) (lease : NonceLease) : Prop where
  laneKey : record.laneKey = nonceLaneKey lease.lane
  family : record.family = lease.lane.family
  nonce : record.nonce = lease.nonce
  parses : parsesNonceLeaseRow record = true
  lifecycle : record.lifecycle.isBroadcastAccepted = true ∨
    (lease.state ≠ .broadcastAccepted ∧ record.expiresAtMs = lease.expiresAtMs)

theorem Covers.isActive {record : NonceLaneCoordinationRecord} {lease : NonceLease} {nowMs : ℕ}
    (h : Covers record lease) (hstale : ¬Stale nowMs lease) :
    isActiveCoordinationLeaseRecord record nowMs = true := by
  rw [isActiveCoordinationLeaseRecord]
  rcases h.lifecycle with haccepted | ⟨hstate, hexpires⟩
  · rw [haccepted, Bool.true_or]
  · have hlt : nowMs < record.expiresAtMs := by
      rw [hexpires]
      by_contra hle
      exact hstale ⟨hstate, Nat.le_of_not_lt hle⟩
    rw [decide_eq_true hlt, Bool.or_true]

structure Ledger (nowMs : ℕ) (exempt : Option NonceLeaseId) (held : Holdings)
    (store : NonceLaneCoordinationStore) (nextRandomId : ℕ) : Prop where
  keyed : ∀ i id lease, held i id lease → lease.leaseId = id ∧ id.randomId < nextRandomId
  owner : ∀ i j id lease lease', held i id lease → held j id lease' → i = j ∧ lease = lease'
  covered : ∀ i id lease, held i id lease → isActiveLeaseState lease.state = true →
    exempt ≠ some id → Stale nowMs lease ∨
      ∃ record, store.get? id = some record ∧ Covers record lease
  exclusive : ∀ i j id id' lease lease', held i id lease → held j id' lease' →
    isActiveLeaseState lease.state = true → isActiveLeaseState lease'.state = true →
    nonceLaneKey lease.lane = nonceLaneKey lease'.lane → lease.nonce = lease'.nonce → id = id'

/-- No active lease of the lane has the nonce. -/
def Free (held : Holdings) (laneKey : String) (nonce : ℕ) : Prop :=
  ∀ i id lease, held i id lease → isActiveLeaseState lease.state = true →
    nonceLaneKey lease.lane = laneKey → lease.nonce ≠ nonce

namespace Ledger

variable {nowMs nextRandomId i : ℕ} {exempt : Option NonceLeaseId} {id : NonceLeaseId}
  {held : Holdings} {store store' : NonceLaneCoordinationStore} {lease lease' : NonceLease}

theorem of_le {nowMs' : ℕ} (h : Ledger nowMs exempt held store nextRandomId)
    (hle : nowMs ≤ nowMs') : Ledger nowMs' exempt held store nextRandomId := by
  refine ⟨h.keyed, h.owner, fun j id lease hheld hactive hexempt => ?_, h.exclusive⟩
  rcases h.covered j id lease hheld hactive hexempt with hstale | hrecord
  · exact .inl ⟨hstale.1, hstale.2.trans hle⟩
  · exact .inr hrecord

/-- Only records that nobody would see may go. -/
theorem of_store (h : Ledger nowMs exempt held store nextRandomId)
    (hstore : ∀ id record, store.get? id = some record → parsesNonceLeaseRow record = true →
      isActiveCoordinationLeaseRecord record nowMs = true → store'.get? id = some record) :
    Ledger nowMs exempt held store' nextRandomId := by
  refine ⟨h.keyed, h.owner, fun j id lease hheld hactive hexempt => ?_, h.exclusive⟩
  by_cases hstale : Stale nowMs lease
  · exact .inl hstale
  · rcases h.covered j id lease hheld hactive hexempt with hstale' | ⟨record, hget, hcovers⟩
    · exact absurd hstale' hstale
    · exact .inr ⟨record, hstore id record hget hcovers.parses (hcovers.isActive hstale), hcovers⟩

theorem exempting (h : Ledger nowMs none held store nextRandomId) (id : NonceLeaseId) :
    Ledger nowMs (some id) held store nextRandomId :=
  ⟨h.keyed, h.owner, fun j id lease hheld hactive _ => h.covered j id lease hheld hactive nofun,
    h.exclusive⟩

/-- The record of the exempt lease may change. -/
theorem touchRecord (h : Ledger nowMs (some id) held store nextRandomId)
    (hstore : ∀ id', id' ≠ id → store.get? id' = store'.get? id') :
    Ledger nowMs (some id) held store' nextRandomId := by
  refine ⟨h.keyed, h.owner, fun j id' lease hheld hactive hexempt => ?_, h.exclusive⟩
  have hne : id' ≠ id := by
    rintro rfl
    exact hexempt rfl
  rw [← hstore id' hne]
  exact h.covered j id' lease hheld hactive hexempt

/-- The exempt lease may move along its states, but not come back to life. -/
theorem replace (h : Ledger nowMs (some lease.leaseId) held store nextRandomId)
    (hheld : held i lease.leaseId lease) (hid : lease'.leaseId = lease.leaseId)
    (hlane : lease'.lane = lease.lane) (hnonce : lease'.nonce = lease.nonce)
    (hactive : isActiveLeaseState lease'.state = true → isActiveLeaseState lease.state = true) :
    Ledger nowMs (some lease.leaseId) (held.set i lease') store nextRandomId := by
  -- Each lease after the step stands for one before it, with the same id and nonce.
  have hbefore : ∀ j id other, held.set i lease' j id other →
      ∃ old, held j id old ∧ old.leaseId = other.leaseId ∧ old.lane = other.lane ∧
        old.nonce = other.nonce ∧
        (isActiveLeaseState other.state = true → isActiveLeaseState old.state = true) ∧
        (id ≠ lease.leaseId → other = old) := by
    rintro j id other (⟨rfl, rfl, rfl⟩ | ⟨-, hother⟩)
    · exact ⟨lease, hid ▸ hheld, hid.symm, hlane.symm, hnonce.symm, hactive,
        fun hne => absurd hid hne⟩
    · exact ⟨other, hother, rfl, rfl, rfl, fun h => h, fun _ => rfl⟩
  constructor
  case keyed =>
    intro j id other hother
    obtain ⟨old, hold, holdid, -⟩ := hbefore j id other hother
    rw [← holdid]
    exact h.keyed j id old hold
  case owner =>
    intro j k id l l' hl hl'
    obtain ⟨old, hold, -⟩ := hbefore j id l hl
    obtain ⟨old', hold', -⟩ := hbefore k id l' hl'
    obtain ⟨rfl, rfl⟩ := h.owner j k id old old' hold hold'
    refine ⟨rfl, ?_⟩
    rcases hl with ⟨hj, hidl, rfl⟩ | ⟨hnot, hl⟩
    · rcases hl' with ⟨-, -, rfl⟩ | ⟨hnot', -⟩
      · rfl
      · exact absurd ⟨hj, hidl⟩ hnot'
    · rcases hl' with ⟨hj, hidl, -⟩ | ⟨-, hl'⟩
      · exact absurd ⟨hj, hidl⟩ hnot
      · exact (h.owner j j id l l' hl hl').2
  case covered =>
    intro j id other hother hact hexempt
    obtain ⟨old, hold, -, -, -, -, hsame⟩ := hbefore j id other hother
    have hne : id ≠ lease.leaseId := by
      rintro rfl
      exact hexempt rfl
    obtain rfl := hsame hne
    exact h.covered j id other hold hact hexempt
  case exclusive =>
    intro j k id id' l l' hl hl' hact hact' hkey hn
    obtain ⟨old, hold, -, hlane₁, hnonce₁, hactive₁, -⟩ := hbefore j id l hl
    obtain ⟨old', hold', -, hlane₂, hnonce₂, hactive₂, -⟩ := hbefore k id' l' hl'
    refine h.exclusive j k id id' old old' hold hold' (hactive₁ hact) (hactive₂ hact') ?_ ?_
    · rw [hlane₁, hlane₂]
      exact hkey
    · rw [hnonce₁, hnonce₂]
      exact hn

/-- A lease of a free nonce under a new id may be added. -/
theorem insert (h : Ledger nowMs none held store nextRandomId)
    (hrandom : lease.leaseId.randomId = nextRandomId)
    (hfree : Free held (nonceLaneKey lease.lane) lease.nonce) :
    Ledger nowMs (some lease.leaseId) (held.set i lease) store (nextRandomId + 1) := by
  have hnew : ∀ j other, ¬held j lease.leaseId other := by
    intro j other hother
    have hlt := (h.keyed j _ other hother).2
    rw [hrandom] at hlt
    exact Nat.lt_irrefl _ hlt
  constructor
  case keyed =>
    rintro j id other (⟨-, rfl, rfl⟩ | ⟨-, hother⟩)
    · exact ⟨rfl, hrandom ▸ Nat.lt_succ_self _⟩
    · obtain ⟨hid, hlt⟩ := h.keyed j id other hother
      exact ⟨hid, Nat.lt_succ_of_lt hlt⟩
  case owner =>
    rintro j k id l l' (⟨rfl, rfl, rfl⟩ | ⟨-, hl⟩) (⟨rfl, hid, rfl⟩ | ⟨-, hl'⟩)
    · exact ⟨rfl, rfl⟩
    · exact absurd hl' (hnew k l')
    · exact absurd (hid ▸ hl) (hnew j l)
    · exact h.owner j k id l l' hl hl'
  case covered =>
    rintro j id other (⟨-, rfl, rfl⟩ | ⟨-, hother⟩) hactive hexempt
    · exact absurd rfl hexempt
    · exact h.covered j id other hother hactive nofun
  case exclusive =>
    rintro j k id id' l l' (⟨-, rfl, rfl⟩ | ⟨-, hl⟩) (⟨-, rfl, rfl⟩ | ⟨-, hl'⟩) hact hact' hkey hn
    · rfl
    · exact absurd hn.symm (hfree k id' l' hl' hact' hkey.symm)
    · exact absurd hn (hfree j id l hl hact hkey)
    · exact h.exclusive j k id id' l l' hl hl' hact hact' hkey hn

/-- The exemption ends once the lease has ended, is stale or is covered again. -/
theorem settle (h : Ledger nowMs (some id) held store nextRandomId)
    (hid : ∀ j other, held j id other → isActiveLeaseState other.state = true →
      Stale nowMs other ∨ ∃ record, store.get? id = some record ∧ Covers record other) :
    Ledger nowMs none held store nextRandomId := by
  refine ⟨h.keyed, h.owner, fun j id' other hother hactive _ => ?_, h.exclusive⟩
  by_cases heq : id' = id
  · subst heq
    exact hid j other hother hactive
  · refine h.covered j id' other hother hactive ?_
    intro hsome
    exact heq (Option.some.inj hsome).symm

end Ledger

end SeamsWallet.Nonce
