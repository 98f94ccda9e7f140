import Mathlib.Data.List.Sort
import Mathlib.Data.String.Basic
import SeamsWallet.Library.Run

/-!
# Nonces of the request proofs of linked devices

A call deletes a batch of expired nonces and then inserts its own, which a unique key refuses
to do twice. Both statements go by the time the call was made. When a call is slow, another
one may delete a nonce as expired that the slow call, still of its own time, then inserts
again.
-/

namespace SeamsWallet.DeviceLinking

open Library

/-- A nonce as a call gives it and as the table keeps it. -/
structure LinkedDeviceRequestProofNonceRecordV1 where
  linkSessionId : String
  requestNonceB64u : String
  proofDigestB64u : String
  issuedAtMs : ℕ
  expiresAtMs : ℕ
  consumedAtMs : ℕ
  issuedAtMs_pos : 0 < issuedAtMs
  issuedAtMs_le : issuedAtMs ≤ consumedAtMs
  consumedAtMs_lt : consumedAtMs < expiresAtMs
  deriving DecidableEq

namespace LinkedDeviceRequestProofNonceRecordV1

variable (record other : LinkedDeviceRequestProofNonceRecordV1)

/-- The primary key of the table, within one scope. -/
abbrev SameKey : Prop :=
  record.linkSessionId = other.linkSessionId ∧ record.requestNonceB64u = other.requestNonceB64u

/-- The records are of one request proof. -/
abbrev SameProof : Prop :=
  record.SameKey other ∧ record.issuedAtMs = other.issuedAtMs ∧
    record.expiresAtMs = other.expiresAtMs

/-- The order in which expired nonces are deleted. -/
abbrev ExpiresBefore : Prop :=
  record.expiresAtMs < other.expiresAtMs ∨ record.expiresAtMs = other.expiresAtMs ∧
    (record.linkSessionId < other.linkSessionId ∨ record.linkSessionId = other.linkSessionId ∧
      record.requestNonceB64u ≤ other.requestNonceB64u)

end LinkedDeviceRequestProofNonceRecordV1

def nonceExpiryCleanupBatchLimitV1 : ℕ := 64

def pruneExpiredNoncesV1 (nowMs : ℕ) (rows : List LinkedDeviceRequestProofNonceRecordV1) :
    List LinkedDeviceRequestProofNonceRecordV1 :=
  let expired := ((rows.filter (·.expiresAtMs ≤ nowMs)).insertionSort
    (·.ExpiresBefore ·)).take nonceExpiryCleanupBatchLimitV1
  rows.filter (· ∉ expired)

/-- The statement a call runs next, or how it has ended. -/
inductive ConsumePhase where
  | pruning
  | inserting
  | reading
  | consumed
  | alreadyUsed
  | threw
  deriving DecidableEq

structure ConsumeCall where
  record : LinkedDeviceRequestProofNonceRecordV1
  phase : ConsumePhase
  deriving DecidableEq

/-- A statement that fails may have been carried out, and may fail with a message that looks
like that of a constraint. -/
structure StatementFault where
  applied : Bool
  isUniqueConstraintError : Bool

/-- The rows of one scope, the calls in the order in which they started, and the nonces that
have been answered as consumed. -/
structure ProofNonceState where
  rows : List LinkedDeviceRequestProofNonceRecordV1
  calls : List ConsumeCall
  consumed : List LinkedDeviceRequestProofNonceRecordV1

inductive ProofNonceEvent where
  | start (record : LinkedDeviceRequestProofNonceRecordV1)
  | prune (call : ℕ) (applied : Bool)
  | insert (call : ℕ) (fault : Option StatementFault)
  | read (call : ℕ) (fails : Bool)

namespace ProofNonceState

def initial : ProofNonceState := ⟨[], [], []⟩

variable (s : ProofNonceState)

def setPhase (call : ℕ) (phase : ConsumePhase) : ProofNonceState :=
  { s with calls := s.calls.modify call ({ · with phase }) }

def insert (call : ℕ) (record : LinkedDeviceRequestProofNonceRecordV1) :
    Option StatementFault → ProofNonceState
  | none =>
    if s.rows.any (·.SameKey record) then s.setPhase call .reading
    else
      { s.setPhase call .consumed with
        rows := s.rows ++ [record]
        consumed := s.consumed ++ [record] }
  | some fault =>
    { s.setPhase call (if fault.isUniqueConstraintError then .reading else .threw) with
      rows := if fault.applied && !s.rows.any (·.SameKey record) then s.rows ++ [record]
        else s.rows }

/-- The statements of `consumeRequestProofNonceV1`, one at a time. -/
def next : ProofNonceEvent → ProofNonceState
  | .start record => { s with calls := s.calls ++ [⟨record, .pruning⟩] }
  | .prune call applied => match s.calls[call]? with
    -- a failure to delete is passed over
    | some ⟨record, .pruning⟩ =>
      { s.setPhase call .inserting with
        rows := if applied then pruneExpiredNoncesV1 record.consumedAtMs s.rows else s.rows }
    | _ => s
  | .insert call fault => match s.calls[call]? with
    | some ⟨record, .inserting⟩ => s.insert call record fault
    | _ => s
  | .read call fails => match s.calls[call]? with
    | some ⟨record, .reading⟩ =>
      s.setPhase call (if !fails && s.rows.any (·.SameKey record) then .alreadyUsed else .threw)
    | _ => s

/-- Calls start in the order of their times. -/
abbrev InOrder : ProofNonceEvent → Prop
  | .start record => ∀ call ∈ s.calls, call.record.consumedAtMs ≤ record.consumedAtMs
  | _ => True

/-- A call made at the given time, or later, has already deleted expired nonces. -/
abbrev PrunedBy (expiresAtMs : ℕ) : Prop :=
  ∃ call ∈ s.calls, call.phase ≠ .pruning ∧ expiresAtMs ≤ call.record.consumedAtMs

/-- A call inserts its nonce before a call made after the nonce has expired deletes any. -/
abbrev InTime : ProofNonceEvent → Prop
  | .insert call _ => ∀ c ∈ s.calls[call]?, ¬s.PrunedBy c.record.expiresAtMs
  | _ => True

/-- No request proof has been answered as consumed twice. -/
abbrev AcceptsOnce : Prop := s.consumed.Pairwise fun record other => ¬record.SameProof other

end ProofNonceState

open ProofNonceState

variable {s : ProofNonceState} {record : LinkedDeviceRequestProofNonceRecordV1}
  {call : ℕ} {phase : ConsumePhase} {rows : List LinkedDeviceRequestProofNonceRecordV1}

theorem mem_pruneExpiredNoncesV1 {nowMs : ℕ}
    (h : record ∈ rows) (hlive : nowMs < record.expiresAtMs) :
    record ∈ pruneExpiredNoncesV1 nowMs rows := by
  rw [pruneExpiredNoncesV1, List.mem_filter, decide_eq_true_eq]
  refine ⟨h, fun hexpired => ?_⟩
  have hmem := List.mem_of_mem_take hexpired
  rw [List.mem_insertionSort, List.mem_filter, decide_eq_true_eq] at hmem
  omega

/-- The call at an index, once it has moved on. -/
theorem mem_setPhase {i : ℕ} {c : ConsumeCall} (h : s.calls[i]? = some c) :
    (if call = i then { c with phase } else c) ∈ (s.setPhase call phase).calls := by
  apply List.mem_of_getElem?
  rw [setPhase, List.getElem?_modify, h]
  rfl

/-- Each consumed nonce is in the table until a later call has deleted expired ones. -/
structure Remembers (s : ProofNonceState) : Prop where
  kept : ∀ record ∈ s.consumed, record ∈ s.rows ∨ s.PrunedBy record.expiresAtMs
  once : s.AcceptsOnce

/-- A call moves on, and deletes rows only if they have expired. -/
theorem Remembers.setPhase (h : Remembers s) (hphase : phase ≠ .pruning)
    (hrows : ∀ row ∈ s.rows, row ∈ rows ∨ (s.setPhase call phase).PrunedBy row.expiresAtMs) :
    Remembers { s.setPhase call phase with rows } := by
  refine ⟨fun record hrecord => ?_, h.once⟩
  rcases h.kept record hrecord with hrow | ⟨c, hc, hpruned, hms⟩
  · exact hrows record hrow
  · obtain ⟨i, hi⟩ := List.mem_iff_getElem?.mp hc
    refine .inr ⟨_, mem_setPhase hi, ?_⟩
    split
    · exact ⟨hphase, hms⟩
    · exact ⟨hpruned, hms⟩

theorem Remembers.insert (h : Remembers s) (hin : ¬s.PrunedBy record.expiresAtMs)
    (fault : Option StatementFault) : Remembers (s.insert call record fault) := by
  cases fault with
  | some fault =>
    refine h.setPhase (by split <;> simp) fun row hrow => .inl ?_
    split
    · exact List.mem_append_left _ hrow
    · exact hrow
  | none =>
    rw [ProofNonceState.insert]
    split
    · exact h.setPhase (by simp) fun row hrow => .inl hrow
    rename_i hfree
    have hkept : Remembers { s.setPhase call .consumed with rows := s.rows ++ [record] } :=
      h.setPhase (by simp) fun row hrow => .inl (List.mem_append_left _ hrow)
    refine ⟨fun other hother => ?_, List.pairwise_append.mpr ⟨h.once, List.pairwise_singleton _ _,
      fun first hfirst again hagain hsame => ?_⟩⟩
    · rcases List.mem_append.mp hother with hother | hother
      · exact hkept.kept other hother
      · exact .inl (List.mem_append_right _ hother)
    -- the first answer left its row, or the row has expired for a call that has deleted some
    · obtain rfl := List.mem_singleton.mp hagain
      rcases h.kept first hfirst with hrow | hpruned
      · exact hfree (List.any_eq_true.mpr ⟨first, hrow, decide_eq_true hsame.1⟩)
      · exact hin (hsame.2.2 ▸ hpruned)

theorem Remembers.next (h : Remembers s) {e : ProofNonceEvent} (hin : s.InTime e) :
    Remembers (s.next e) := by
  fun_cases ProofNonceState.next s e
  case case1 =>
    refine ⟨fun record hrecord => (h.kept record hrecord).imp_right ?_, h.once⟩
    rintro ⟨c, hc, hpruned⟩
    exact ⟨c, List.mem_append_left _ hc, hpruned⟩
  case case2 record hcall _ =>
    refine h.setPhase (by simp) fun row hrow => ?_
    split
    · by_cases hlive : record.consumedAtMs < row.expiresAtMs
      · exact .inl (mem_pruneExpiredNoncesV1 hrow hlive)
      · exact .inr ⟨_, mem_setPhase hcall, by simp, by simpa using hlive⟩
    · exact .inl hrow
  case case4 fault record hcall => exact h.insert (hin _ hcall) fault
  case case6 => exact h.setPhase (by split <;> simp) fun row hrow => .inl hrow
  all_goals exact h

def sampleNonce (consumedAtMs expiresAtMs : ℕ) (nonce : String)
    (h : 1 ≤ consumedAtMs ∧ consumedAtMs < expiresAtMs) :
    LinkedDeviceRequestProofNonceRecordV1 :=
  ⟨"session", nonce, "digest", 1, expiresAtMs, consumedAtMs, Nat.one_pos, h.1, h.2⟩

/-- Two calls are made at 5 with one proof, which expires at 10. One inserts it; a call made
at 10 deletes it; and then the other inserts it again. -/
theorem proof_accepted_twice :
    ¬∀ events s, Run (fun s e s' => s.next e = s' ∧ s.InOrder e) initial events s →
      s.AcceptsOnce := by
  intro h
  have honce := h [.start (sampleNonce 5 10 "nonce" (by decide)),
    .start (sampleNonce 5 10 "nonce" (by decide)), .prune 0 true, .prune 1 true, .insert 0 none,
    .start (sampleNonce 10 20 "other" (by decide)), .prune 2 true, .insert 1 none] _
      (.cons ⟨rfl, by decide⟩ (.cons ⟨rfl, by decide⟩ (.cons ⟨rfl, trivial⟩ (.cons ⟨rfl, trivial⟩
        (.cons ⟨rfl, trivial⟩ (.cons ⟨rfl, by decide +kernel⟩ (.cons ⟨rfl, trivial⟩
          (.cons ⟨rfl, trivial⟩ .nil))))))))
  revert honce
  decide +kernel

/-- In every run in which each call inserts its nonce before a call made after the nonce has
expired deletes any, each request proof is answered as consumed at most once. -/
theorem proof_accepted_once (events : List ProofNonceEvent) (s : ProofNonceState)
    (h : Run (fun s e s' => s.next e = s' ∧ s.InTime e) initial events s) : s.AcceptsOnce := by
  have hremembers : Remembers s := by
    refine h.invariant (fun _ s => Remembers s) ⟨by simp [initial], .nil⟩ ?_
    rintro _ _ e _ _ hs ⟨rfl, hin⟩
    exact hs.next hin
  exact hremembers.once

/-- The second of two calls with one proof finds the nonce of the first one. -/
theorem proof_accepted_once_two :
    let proof := sampleNonce 5 10 "nonce" (by decide)
    (List.foldl ProofNonceState.next initial [.start proof, .start proof, .prune 0 true,
      .prune 1 true, .insert 0 none, .insert 1 none]).AcceptsOnce := by
  intro proof
  refine proof_accepted_once [.start proof, .start proof, .prune 0 true, .prune 1 true,
    .insert 0 none, .insert 1 none] _ (.cons ⟨rfl, trivial⟩ (.cons ⟨rfl, trivial⟩
      (.cons ⟨rfl, trivial⟩ (.cons ⟨rfl, trivial⟩ (.cons ⟨rfl, ?_⟩ (.cons ⟨rfl, ?_⟩ .nil))))))
  · decide +kernel
  · decide +kernel

end SeamsWallet.DeviceLinking
