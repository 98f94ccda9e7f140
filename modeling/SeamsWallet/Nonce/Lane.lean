import SeamsWallet.Library.Dict
import SeamsWallet.Library.Text
import SeamsWallet.Protocol.WalletObject

/-!
# Nonce lanes, leases and coordination records

A lane is a sequence of nonces on a chain: an EVM sender with its chain, or a
NEAR access key. A lease holds one nonce of a lane for one signing operation. The
coordinator that made a lease keeps it in memory; what other coordinators see of
it is a coordination record.

The fields of lanes and operations are texts as they are stored: not empty and
without white space at the ends. Reading a record back checks this of each of its
fields, and only the transaction hash of a record can fail the check.
-/

namespace SeamsWallet.Nonce

open Library

/-! ## Texts -/

/-- The characters that trimming removes. -/
def isJsWhitespace (c : Char) : Bool :=
  (9 ≤ c.toNat && c.toNat ≤ 13) || c.toNat == 32 || c.toNat == 160 || c.toNat == 5760 ||
    (8192 ≤ c.toNat && c.toNat ≤ 8202) || c.toNat == 8232 || c.toNat == 8233 ||
    c.toNat == 8239 || c.toNat == 8287 || c.toNat == 12288 || c.toNat == 65279

def trim (s : String) : String := trimBy isJsWhitespace s

def IsStoredText (s : String) : Prop := s ≠ "" ∧ trim s = s

instance (s : String) : Decidable (IsStoredText s) := inferInstanceAs (Decidable (_ ∧ _))

abbrev StoredText : Type := {s : String // IsStoredText s}

/-! ## Lanes -/

inductive ThresholdEcdsaChainTarget where
  | evm (chainId : ℕ+)
  | tempo (chainId : ℕ+)
  deriving DecidableEq

def thresholdEcdsaChainTargetKey : ThresholdEcdsaChainTarget → String
  | .evm chainId => s!"evm:eip155:{(chainId : ℕ)}"
  | .tempo chainId => s!"tempo:{(chainId : ℕ)}"

structure EvmNonceLane where
  chainTarget : ThresholdEcdsaChainTarget
  subjectId : StoredText
  sender : Bytes 20
  nonceKey : Option ℕ
  deriving DecidableEq

structure NearNonceLane where
  networkKey : StoredText
  walletId : StoredText
  nearAccountId : StoredText
  publicKey : StoredText
  deriving DecidableEq

inductive NonceLane where
  | evm (lane : EvmNonceLane)
  | near (lane : NearNonceLane)
  deriving DecidableEq

inductive NonceFamily where
  | evm
  | near
  deriving DecidableEq

def NonceLane.family : NonceLane → NonceFamily
  | .evm _ => .evm
  | .near _ => .near

/-- Parts with their lengths in front, separated by bars. -/
def encodeNonceKeyParts : List String → String
  | [] => ""
  | [part] => s!"{part.length}:{part}"
  | part :: rest => s!"{part.length}:{part}" ++ "|" ++ encodeNonceKeyParts rest

def nearNonceLaneKey (lane : NearNonceLane) : String :=
  encodeNonceKeyParts ["near", lane.networkKey, lane.walletId, lane.nearAccountId, lane.publicKey]

def nonceLaneKey : NonceLane → String
  | .near lane => nearNonceLaneKey lane
  | .evm lane => encodeNonceKeyParts ["evm", thresholdEcdsaChainTargetKey lane.chainTarget,
      lane.subjectId, "0x" ++ WalletObject.hexSlice lane.sender.toList,
      lane.nonceKey.elim "" fun key => s!"{key}"]

def nonceLaneNetworkKey : NonceLane → String
  | .near lane => lane.networkKey
  | .evm lane => thresholdEcdsaChainTargetKey lane.chainTarget

def nonceLaneSubjectId : NonceLane → String
  | .near lane => lane.walletId
  | .evm lane => lane.subjectId

variable {lane' : NonceLane}

/-- The first part of a key names the family. -/
theorem family_eq_of_nonceLaneKey_eq {lane : NonceLane}
    (h : nonceLaneKey lane = nonceLaneKey lane') : lane.family = lane'.family := by
  have hevm : ∀ lane, ∃ rest, (nonceLaneKey (.evm lane)).toList = '3' :: rest := by
    intro lane
    simp only [nonceLaneKey, encodeNonceKeyParts, String.toList_append]
    exact ⟨_, rfl⟩
  have hnear : ∀ lane, ∃ rest, (nonceLaneKey (.near lane)).toList = '4' :: rest := by
    intro lane
    simp only [nonceLaneKey, nearNonceLaneKey, encodeNonceKeyParts, String.toList_append]
    exact ⟨_, rfl⟩
  cases lane with
  | evm lane =>
    cases lane' with
    | evm lane' => rfl
    | near lane' =>
      obtain ⟨rest, hrest⟩ := hevm lane
      obtain ⟨rest', hrest'⟩ := hnear lane'
      rw [h, hrest'] at hrest
      exact absurd (List.cons.inj hrest).1 (by decide)
  | near lane =>
    cases lane' with
    | near lane' => rfl
    | evm lane' =>
      obtain ⟨rest, hrest⟩ := hnear lane
      obtain ⟨rest', hrest'⟩ := hevm lane'
      rw [h, hrest'] at hrest
      exact absurd (List.cons.inj hrest).1 (by decide)

/-! ## Lease states -/

inductive NonceLeaseState where
  | reserved
  | released
  | expired
  | signed
  | signedLeaseExpired
  | broadcastAccepted
  | broadcastRejected
  | finalized
  | dropped
  | replaced
  | reconciled
  deriving DecidableEq

def NonceLeaseState.text : NonceLeaseState → String
  | .reserved => "reserved"
  | .released => "released"
  | .expired => "expired"
  | .signed => "signed"
  | .signedLeaseExpired => "signed_lease_expired"
  | .broadcastAccepted => "broadcast_accepted"
  | .broadcastRejected => "broadcast_rejected"
  | .finalized => "finalized"
  | .dropped => "dropped"
  | .replaced => "replaced"
  | .reconciled => "reconciled"

inductive NonceLeaseTransition where
  | release
  | expire
  | markSigned
  | broadcastAccepted
  | broadcastRejected
  | finalize
  | drop
  | replace
  | reconcile
  deriving DecidableEq

def NonceLeaseTransition.text : NonceLeaseTransition → String
  | .release => "release"
  | .expire => "expire"
  | .markSigned => "mark_signed"
  | .broadcastAccepted => "broadcast_accepted"
  | .broadcastRejected => "broadcast_rejected"
  | .finalize => "finalize"
  | .drop => "drop"
  | .replace => "replace"
  | .reconcile => "reconcile"

/-- The state a transition leads to, if it is legal. -/
def tryReduceNonceLeaseState : NonceLeaseState → NonceLeaseTransition → Option NonceLeaseState
  | .released, .release => some .released
  | .reserved, .release => some .released
  | .reserved, .expire => some .expired
  | .signed, .expire => some .signedLeaseExpired
  | .expired, .expire => some .expired
  | .signedLeaseExpired, .expire => some .signedLeaseExpired
  | .reserved, .markSigned => some .signed
  | .signed, .markSigned => some .signed
  | .signed, .broadcastAccepted => some .broadcastAccepted
  | .broadcastAccepted, .broadcastAccepted => some .broadcastAccepted
  | .signed, .broadcastRejected => some .broadcastRejected
  | .broadcastRejected, .broadcastRejected => some .broadcastRejected
  | .broadcastAccepted, .finalize => some .finalized
  | .finalized, .finalize => some .finalized
  | .broadcastAccepted, .drop => some .dropped
  | .dropped, .drop => some .dropped
  | .broadcastAccepted, .replace => some .replaced
  | .replaced, .replace => some .replaced
  | .released, .reconcile => some .reconciled
  | .expired, .reconcile => some .reconciled
  | .signedLeaseExpired, .reconcile => some .reconciled
  | .broadcastRejected, .reconcile => some .reconciled
  | .dropped, .reconcile => some .reconciled
  | .replaced, .reconcile => some .reconciled
  | .reconciled, .reconcile => some .reconciled
  | _, _ => none

def isActiveLeaseState (state : NonceLeaseState) : Bool :=
  state = .reserved || state = .signed || state = .broadcastAccepted

def isActiveEvmLeaseState : NonceLeaseState → Bool := isActiveLeaseState

def isActiveNearLeaseState : NonceLeaseState → Bool := isActiveLeaseState

/-! ## Leases and records -/

/-- A lease id names the chain, the operation and the nonce, and ends in a random
id that no other lease has. -/
structure NonceLeaseId where
  chain : String
  operationId : String
  nonce : ℕ
  randomId : ℕ
  deriving DecidableEq

structure NonceLease where
  leaseId : NonceLeaseId
  lane : NonceLane
  operationId : StoredText
  operationFingerprint : StoredText
  nonce : ℕ
  state : NonceLeaseState
  reservedAtMs : ℕ
  expiresAtMs : ℕ
  deriving DecidableEq

/-- The state of a record; a record of an accepted broadcast has the hash of the
transaction. -/
inductive NonceDurableLeaseLifecycle where
  | reserved
  | signed
  | broadcastAccepted (txHash : String)

structure NonceLaneCoordinationRecord where
  laneKey : String
  leaseId : NonceLeaseId
  family : NonceFamily
  nonce : ℕ
  lifecycle : NonceDurableLeaseLifecycle
  expiresAtMs : ℕ

def NonceDurableLeaseLifecycle.isBroadcastAccepted : NonceDurableLeaseLifecycle → Bool
  | .broadcastAccepted _ => true
  | _ => false

def isActiveCoordinationLeaseRecord (record : NonceLaneCoordinationRecord) (nowMs : ℕ) : Bool :=
  record.lifecycle.isBroadcastAccepted || nowMs < record.expiresAtMs

/-- Whether a stored record parses: a transaction hash is a stored text. -/
def parsesNonceLeaseRow (record : NonceLaneCoordinationRecord) : Bool :=
  match record.lifecycle with
  | .broadcastAccepted txHash => IsStoredText txHash
  | _ => true

/-! ## The coordination store -/

abbrev NonceLaneCoordinationStore : Type := Dict NonceLeaseId NonceLaneCoordinationRecord

namespace NonceLaneCoordinationStore

variable (store : NonceLaneCoordinationStore)

def readLane (laneKey : String) : List NonceLaneCoordinationRecord :=
  store.values.filter fun record => record.laneKey = laneKey && parsesNonceLeaseRow record

def upsert (record : NonceLaneCoordinationRecord) : NonceLaneCoordinationStore :=
  store.set record.leaseId record

def remove (leaseId : NonceLeaseId) : NonceLaneCoordinationStore :=
  store.delete leaseId

/-- Deletes what has expired; accepted broadcasts and rows that do not parse
stay. -/
def pruneExpired (nowMs : ℕ) : NonceLaneCoordinationStore :=
  store.filter fun record =>
    !(record.expiresAtMs ≤ nowMs && parsesNonceLeaseRow record &&
      !record.lifecycle.isBroadcastAccepted)

end NonceLaneCoordinationStore

end SeamsWallet.Nonce
