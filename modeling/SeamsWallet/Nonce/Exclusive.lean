import SeamsWallet.Nonce.Steps

/-!
# Coordinators that share a store

Any number of coordinators work on one coordination store. Each operation runs as a
whole, under the lock of its lane, at the time the shared clock shows.

A coordinator learns of the leases of the others from their records, and a record
loses its force when its time has passed. The lease itself stays in the memory of
its coordinator, and signing it later gives it new time without another look at the
store. So a second coordinator can hand out the nonce in between, and both leases
are signed. Without reservations in such a moment, and with transaction hashes that
can be read back, no two active leases of a lane ever have the same nonce.
-/

namespace SeamsWallet.Nonce

open Library Effect

/-- The coordinators, their store and the clock. -/
structure NonceSystem where
  coordinators : ℕ → NonceCoordinator
  store : NonceLaneCoordinationStore
  nextRandomId : ℕ
  nowMs : ℕ

def initialNonceSystem (nowMs : ℕ) : NonceSystem :=
  ⟨fun _ => createNonceCoordinator, Dict.empty, 0, nowMs⟩

/-- An operation of one coordinator, some time after the previous operation, with the
answers that the chain gives to it. -/
structure NonceCall where
  runtime : ℕ
  elapsedMs : ℕ
  operation : NonceOperation
  rpc : RpcAnswers

namespace NonceSystem

variable (s : NonceSystem)

def world (call : NonceCall) : World :=
  ⟨s.coordinators call.runtime, s.store, s.nextRandomId, call.rpc⟩

def timeOf (call : NonceCall) : ℕ := s.nowMs + call.elapsedMs

def putBack (call : NonceCall) (w : World) : NonceSystem where
  coordinators := Function.update s.coordinators call.runtime w.coordinator
  store := w.store
  nextRandomId := w.nextRandomId
  nowMs := s.timeOf call

/-- What a call does to the system, whether the operation returns or throws. -/
def after (configs : ℕ → NonceCoordinatorConfig) (s : NonceSystem) (call : NonceCall) :
    NonceSystem :=
  s.putBack call (perform (configs call.runtime) (s.timeOf call) call.operation (s.world call)).2

def leases (i : ℕ) : Dict NonceLeaseId NonceLease := (s.coordinators i).leases

/-- No two active leases of a lane have the same nonce. -/
def Exclusive : Prop :=
  ∀ i j id id' lease lease', (s.leases i).get? id = some lease →
    (s.leases j).get? id' = some lease' → isActiveLeaseState lease.state = true →
    isActiveLeaseState lease'.state = true →
    nonceLaneKey lease.lane = nonceLaneKey lease'.lane → lease.nonce = lease'.nonce →
    i = j ∧ id = id'

/-- A reservation happens while no other coordinator holds a lease of the lane that
is reserved or signed and past its time, and an accepted NEAR broadcast has a
transaction hash that is not empty and has no white space at its ends. -/
def Allowed (call : NonceCall) : Prop :=
  Permitted s.leases call.runtime (s.timeOf call) (s.leases call.runtime) call.operation

end NonceSystem

/-- The states that calls lead to, in any order and from any of the coordinators. -/
inductive NonceReachable (configs : ℕ → NonceCoordinatorConfig) : NonceSystem → Prop where
  | initial (nowMs : ℕ) : NonceReachable configs (initialNonceSystem nowMs)
  | step (s : NonceSystem) (call : NonceCall) :
      NonceReachable configs s → NonceReachable configs (s.after configs call)

/-- The same with each call allowed in the state it meets. -/
inductive AllowedReachable (configs : ℕ → NonceCoordinatorConfig) : NonceSystem → Prop where
  | initial (nowMs : ℕ) : AllowedReachable configs (initialNonceSystem nowMs)
  | step (s : NonceSystem) (call : NonceCall) : AllowedReachable configs s → s.Allowed call →
      AllowedReachable configs (s.after configs call)

/-! ## The ledger of the system -/

def NonceSystem.InOrder (s : NonceSystem) : Prop :=
  Ledger s.nowMs none (heldBy s.leases) s.store s.nextRandomId

theorem inOrder_initial (nowMs : ℕ) : (initialNonceSystem nowMs).InOrder := by
  have hnone : ∀ i id lease, ¬heldBy (initialNonceSystem nowMs).leases i id lease := by
    intro i id lease h
    change none = some lease at h
    exact nomatch h
  constructor
  case keyed => exact fun i id lease h => absurd h (hnone i id lease)
  case owner => exact fun i _ id lease _ h _ => absurd h (hnone i id lease)
  case covered => exact fun i id lease h => absurd h (hnone i id lease)
  case exclusive => exact fun i _ id _ lease _ h => absurd h (hnone i id lease)

theorem leases_putBack (s : NonceSystem) (call : NonceCall) (w : World) :
    (s.putBack call w).leases = Function.update s.leases call.runtime w.coordinator.leases := by
  funext i
  by_cases hi : i = call.runtime
  · subst hi
    simp [NonceSystem.leases, NonceSystem.putBack]
  · simp [NonceSystem.leases, NonceSystem.putBack, hi]

variable {configs : ℕ → NonceCoordinatorConfig} {s : NonceSystem}

theorem NonceSystem.InOrder.after {call : NonceCall} (h : s.InOrder) (hallowed : s.Allowed call) :
    (s.after configs call).InOrder := by
  have hbefore : Nonce.InOrder s.leases call.runtime (s.timeOf call) none (s.world call) := by
    rw [Nonce.InOrder, allHeld,
      show (s.world call).coordinator.leases = s.leases call.runtime from rfl,
      Function.update_eq_self]
    exact Ledger.of_le h (Nat.le_add_right _ _)
  rw [NonceSystem.InOrder, NonceSystem.after, leases_putBack]
  exact (perform_meets (configs call.runtime) call.operation).run_snd ⟨hbefore, hallowed⟩

theorem inOrder_of_allowedReachable (h : AllowedReachable configs s) : s.InOrder := by
  induction h with
  | initial nowMs => exact inOrder_initial nowMs
  | step s call _ hallowed ih => exact ih.after hallowed

theorem exclusive_of_inOrder (h : s.InOrder) : s.Exclusive := by
  intro i j id id' lease lease' hlease hlease' hactive hactive' hkey hnonce
  obtain rfl := Ledger.exclusive h i j id id' lease lease' hlease hlease' hactive hactive'
    hkey hnonce
  exact ⟨(Ledger.owner h i j id lease lease' hlease hlease').1, rfl⟩

/-! ## A lane and two operations -/

def sampleConfigs : ℕ → NonceCoordinatorConfig := fun _ => defaultConfig false

def sampleLane : EvmNonceLane :=
  ⟨.evm ⟨1, Nat.one_pos⟩, ⟨"alice", by decide +kernel⟩, ⟨List.replicate 20 0, rfl⟩, none⟩

def sampleOperation : PreparedNonceOperationContext :=
  ⟨⟨"pay", by decide +kernel⟩, ⟨"digest", by decide +kernel⟩⟩

/-- The sample lane's next nonce on chain is 7. -/
def sampleReserve (runtime elapsedMs : ℕ) : NonceCall :=
  ⟨runtime, elapsedMs, .reserve (.evm sampleLane) sampleOperation, ⟨[some 7], [], [], []⟩⟩

def sampleSign (runtime elapsedMs nonce randomId : ℕ) : NonceCall :=
  ⟨runtime, elapsedMs, .markSigned ⟨⟨"evm", "pay", nonce, randomId⟩, "pay", "digest"⟩,
    ⟨[], [], [], []⟩⟩

def sampleRun (calls : List NonceCall) : NonceSystem :=
  calls.foldl (fun s call => s.after sampleConfigs call) (initialNonceSystem 0)

/-- A signed lease of a coordinator of the sample lane. -/
def sampleSigned (nonce randomId reservedAtMs expiresAtMs : ℕ) : NonceLease :=
  ⟨⟨"evm", "pay", nonce, randomId⟩, .evm sampleLane, sampleOperation.operationId,
    sampleOperation.operationFingerprint, nonce, .signed, reservedAtMs, expiresAtMs⟩

end SeamsWallet.Nonce
