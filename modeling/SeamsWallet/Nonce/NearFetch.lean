import SeamsWallet.Nonce.LaneState

/-!
# Superseded lookups of a NEAR access key

A fetch asks the chain for the access key and for a block, and writes what it finds into the
lane. While it waits, the lane may be bound to another key or a newer fetch may start. A
fetch that succeeds, and one that throws, look whether they are still current before they
write; one that finds no access key does not look.
-/

namespace SeamsWallet.Nonce.NearFetch

/-- A pending lookup holds the promise of its fetch, here the number of the request. -/
inductive Lifecycle where
  | uninitialized
  | accessKeyBound (subject : NearAccessKeySubject) (context : Option NearNonceReadyContext)
  | accessKeyLookupPending (subject : NearAccessKeySubject)
      (previousContext : Option NearNonceReadyContext) (promise : ℕ)
  | implicitUnfunded (subject : NearAccessKeySubject)
  | lookupFailed (subject : NearAccessKeySubject) (message : String)

namespace Lifecycle

def subject : Lifecycle → Option NearAccessKeySubject
  | .uninitialized => none
  | .accessKeyBound subject _ | .accessKeyLookupPending subject _ _
  | .implicitUnfunded subject | .lookupFailed subject _ => some subject

def readyContext : Lifecycle → Option NearNonceReadyContext
  | .accessKeyBound _ context | .accessKeyLookupPending _ context _ => context
  | _ => none

def isPending : Lifecycle → Bool
  | .accessKeyLookupPending _ _ _ => true
  | _ => false

end Lifecycle

structure State where
  lifecycle : Lifecycle
  inflightId : ℕ
  lastReservedNonce : Option ℕ

/-- A fetch that waits for its answers, with what it read of the lane when it started. -/
structure Fetch where
  subject : NearAccessKeySubject
  requestId : ℕ
  fetchAccessKey : Bool
  fetchBlock : Bool
  previous : Option TransactionContext

/-- What the chain answers a fetch, with the text of the error where there is no access key. -/
structure Answers where
  accessKey : AccessKeyAnswer
  message : String
  block : BlockAnswer

namespace Fetch

variable (f : Fetch)

/-- The nonce of the access key to go on with, unless asking for the key failed. -/
def accessKeyNonce (answers : Answers) : Option ℕ :=
  let previous := (f.previous.map (·.accessKeyNonce)).getD 0
  match f.fetchAccessKey, answers.accessKey with
  | true, .view nonce => some nonce
  | true, .missing | true, .failed => none
  | _, _ => some previous

/-- Height and hash of the block to go on with, unless asking for it failed. -/
def block (answers : Answers) : Option (String × String) :=
  match f.fetchBlock, answers.block with
  | true, .view height hash => some (height, hash)
  | true, .malformed | true, .failed => none
  | false, _ => some ((f.previous.map (·.txBlockHeight)).getD "",
      (f.previous.map (·.txBlockHash)).getD "")

def transactionContext (answers : Answers) (lastReservedNonce : Option ℕ) :
    Option TransactionContext := do
  let accessKeyNonce ← f.accessKeyNonce answers
  let (txBlockHeight, txBlockHash) ← f.block answers
  let nextNonce := max (max (accessKeyNonce + 1) ((f.previous.map (·.nextNonce)).getD 0))
    (max ((lastReservedNonce.map (· + 1)).getD 0) 1)
  return ⟨accessKeyNonce, nextNonce, txBlockHeight, txBlockHash⟩

def setNearAccessKeyReady (context : TransactionContext) (nowMs : ℕ) (lifecycle : Lifecycle) :
    Lifecycle :=
  let previous := lifecycle.readyContext
  .accessKeyBound f.subject (some ⟨context,
    if f.fetchAccessKey then nowMs else (previous.map (·.lastNonceUpdateMs)).getD nowMs,
    if f.fetchBlock then nowMs else (previous.map (·.lastBlockHeightUpdateMs)).getD nowMs⟩)

def setNearAccessKeyMissing (message : String) : Lifecycle :=
  if isImplicitNearAccountId f.subject.nearAccountId then .implicitUnfunded f.subject
  else .lookupFailed f.subject message

variable (answers : Answers) (nowMs : ℕ) (s : State)

/-- The lane has the subject of the fetch, and no newer request was made. -/
abbrev Current : Prop :=
  s.lifecycle.subject = some f.subject ∧ f.requestId = s.inflightId

abbrev FindsMissing : Prop :=
  f.fetchAccessKey = true ∧ answers.accessKey = .missing

/-- What the fetch leaves before its last block. -/
def body : Lifecycle :=
  if f.FindsMissing answers then f.setNearAccessKeyMissing answers.message
  else match f.transactionContext answers s.lastReservedNonce with
    | some context =>
      if f.Current s then f.setNearAccessKeyReady context nowMs s.lifecycle else s.lifecycle
    | none => s.lifecycle

/-- The last block takes back a lookup that is still marked as pending. -/
def finish (lifecycle : Lifecycle) : Lifecycle :=
  match lifecycle with
  | .accessKeyLookupPending subject previousContext _ =>
    if f.requestId = s.inflightId ∧ subject = f.subject then
      .accessKeyBound f.subject previousContext
    else lifecycle
  | _ => lifecycle

def complete : Lifecycle := f.finish s (f.body answers nowMs s)

end Fetch

namespace State

variable (s : State) (force : Bool)
  (nowMs nonceFreshnessThresholdMs blockFreshnessThresholdMs : ℕ)

def newFetch (subject : NearAccessKeySubject) : Fetch where
  subject
  requestId := s.inflightId + 1
  fetchAccessKey := force || s.lifecycle.readyContext.all fun ready =>
    ready.lastNonceUpdateMs + nonceFreshnessThresholdMs ≤ nowMs
  fetchBlock := force || s.lifecycle.readyContext.all fun ready =>
    ready.lastBlockHeightUpdateMs + blockFreshnessThresholdMs ≤ nowMs ||
      ready.transactionContext.txBlockHeight = "" || ready.transactionContext.txBlockHash = ""
  previous := s.lifecycle.readyContext.map (·.transactionContext)

/-- A fetch with nothing to ask for is over before it is marked as pending. -/
def start (f : Fetch) : State :=
  let s := { s with inflightId := f.requestId }
  let lifecycle := if f.fetchAccessKey || f.fetchBlock then s.lifecycle
    else f.complete ⟨.malformed, "", .malformed⟩ nowMs s
  { s with lifecycle := .accessKeyLookupPending f.subject lifecycle.readyContext f.requestId }

/-- The fetch that is started, unless a pending one is joined or there is no subject. -/
def fetchNearFreshData : Option (Fetch × State) :=
  if s.lifecycle.isPending && !force then none
  else s.lifecycle.subject.map fun subject =>
    let f := s.newFetch force nowMs nonceFreshnessThresholdMs blockFreshnessThresholdMs subject
    (f, s.start nowMs f)

end State

variable {f : Fetch} {s : State}

theorem finish_of_not_current (h : ¬f.Current s) : f.finish s s.lifecycle = s.lifecycle := by
  unfold Fetch.finish
  split
  · rename_i subject previousContext promise hlifecycle
    refine if_neg ?_
    rintro ⟨hid, rfl⟩
    exact h ⟨by rw [hlifecycle]; rfl, hid⟩
  · rfl

theorem body_of_not_current {answers : Answers} {nowMs : ℕ} (h : ¬f.Current s)
    (hfinds : ¬f.FindsMissing answers) : f.body answers nowMs s = s.lifecycle := by
  rw [Fetch.body, if_neg hfinds]
  split
  · exact if_neg h
  · rfl

def sampleSubject : NearAccessKeySubject :=
  ⟨⟨"wallet", by decide +kernel⟩, ⟨"a.near", by decide +kernel⟩, ⟨"key", by decide +kernel⟩⟩

end SeamsWallet.Nonce.NearFetch
