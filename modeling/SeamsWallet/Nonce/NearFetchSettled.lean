import SeamsWallet.Library.Run
import SeamsWallet.Nonce.NearFetch

/-!
# Settled lookups of a NEAR access key

A fetch that asks for nothing is over before it is marked as pending, so the mark stays, and
with it the promise that later calls are given. As long as every fetch finds something to
ask for, the mark goes when its promise is settled.
-/

namespace SeamsWallet.Nonce.NearFetch

open Library

structure FreshnessThresholds where
  nonceFreshnessThresholdMs : ℕ
  blockFreshnessThresholdMs : ℕ

/-- What happens to a lane: a call, the answers to a request, or a write of another function,
which marks no lookup as pending. -/
inductive Event where
  | call (force : Bool) (nowMs : ℕ)
  | settle (requestId : ℕ) (answers : Answers) (nowMs : ℕ)
  | write (lifecycle : Lifecycle) (lastReservedNonce : Option ℕ)

/-- The lane, the fetches that were started, the last one first, and the requests whose
promises are not settled yet. -/
structure Lane extends State where
  started : List Fetch
  unsettled : List ℕ

/-- The promise that a call which is not forced is given. -/
def Lifecycle.inflightFetch : Lifecycle → Option ℕ
  | .accessKeyLookupPending _ _ promise => some promise
  | _ => none

def Fetch.asks (f : Fetch) : Bool := f.fetchAccessKey || f.fetchBlock

namespace Lane

def initial : Lane := ⟨⟨.uninitialized, 0, none⟩, [], []⟩

variable (thresholds : FreshnessThresholds) (s : Lane)

def fetch (force : Bool) (nowMs : ℕ) : Option (Fetch × State) :=
  s.fetchNearFreshData force nowMs thresholds.nonceFreshnessThresholdMs
    thresholds.blockFreshnessThresholdMs

def startedFetch (requestId : ℕ) : Option Fetch :=
  s.started.find? (·.requestId = requestId)

/-- The fetch whose promise a call returns, the pending one where no new one is started. -/
def returnedFetch (force : Bool) (nowMs : ℕ) : Option Fetch :=
  match s.fetch thresholds force nowMs with
  | some (f, _) => some f
  | none => s.lifecycle.inflightFetch.bind s.startedFetch

def next : Event → Lane
  | .call force nowMs =>
    match s.fetch thresholds force nowMs with
    | none => s
    | some (f, state) =>
      { toState := state
        started := f :: s.started
        unsettled := if f.asks then f.requestId :: s.unsettled else s.unsettled }
  | .settle requestId answers nowMs =>
    match s.startedFetch requestId with
    | some f =>
      if requestId ∈ s.unsettled then
        { s with
          lifecycle := f.complete answers nowMs s.toState
          unsettled := s.unsettled.erase requestId }
      else s
    | none => s
  | .write lifecycle lastReservedNonce =>
    if lifecycle.inflightFetch = none then { s with lifecycle, lastReservedNonce } else s

/-- The fetch asks for all that is stale in the lane, and so does not take it over. -/
def Covers (nowMs : ℕ) (f : Fetch) : Prop :=
  ∀ ready ∈ s.lifecycle.readyContext,
    (ready.lastNonceUpdateMs + thresholds.nonceFreshnessThresholdMs ≤ nowMs →
      f.fetchAccessKey = true) ∧
    (ready.lastBlockHeightUpdateMs + thresholds.blockFreshnessThresholdMs ≤ nowMs →
      f.fetchBlock = true)

/-- A new fetch finds something to ask for, and a pending one that a call is given asks for
all that is stale by then. -/
def InTime : Event → Prop
  | .call force nowMs =>
    match s.fetch thresholds force nowMs with
    | some (f, _) => f.asks
    | none => ∀ f ∈ s.lifecycle.inflightFetch.bind s.startedFetch, s.Covers thresholds nowMs f
  | _ => True

/-- A lookup is marked as pending only while its promise is not settled. -/
def UnmarksSettled : Prop :=
  ∀ promise ∈ s.lifecycle.inflightFetch, promise ∈ s.unsettled

/-- The mark is that of the last fetch, whose promise is not settled, and which takes over
what it does not ask for from the lane as it still is. -/
def Marked : Prop :=
  ∀ subject previousContext promise,
    s.lifecycle = .accessKeyLookupPending subject previousContext promise →
      promise ∈ s.unsettled ∧ promise = s.inflightId ∧ ∃ f, s.startedFetch promise = some f ∧
        f.subject = subject ∧ f.requestId = promise ∧
        f.previous = previousContext.map (·.transactionContext)

end Lane

section Pending

variable {f : Fetch} {s : State} {answers : Answers} {nowMs promise : ℕ}
  {subject : NearAccessKeySubject} {previousContext : Option NearNonceReadyContext}

theorem finish_eq_pending {lifecycle : Lifecycle}
    (h : f.finish s lifecycle = .accessKeyLookupPending subject previousContext promise) :
    lifecycle = .accessKeyLookupPending subject previousContext promise ∧
      ¬(f.requestId = s.inflightId ∧ subject = f.subject) := by
  unfold Fetch.finish at h
  split at h
  · split_ifs at h with hcurrent
    cases h
    exact ⟨rfl, hcurrent⟩
  · rename_i hnot
    exact absurd h (hnot _ _ _)

theorem body_eq_or (f : Fetch) (s : State) (answers : Answers) (nowMs : ℕ) :
    f.body answers nowMs s = s.lifecycle ∨ (f.body answers nowMs s).inflightFetch = none := by
  unfold Fetch.body
  split
  · right
    unfold Fetch.setNearAccessKeyMissing
    split <;> rfl
  · split
    · split
      · exact .inr rfl
      · exact .inl rfl
    · exact .inl rfl

/-- A fetch leaves a mark only where it finds it, and not its own. -/
theorem complete_eq_pending
    (h : f.complete answers nowMs s = .accessKeyLookupPending subject previousContext promise) :
    s.lifecycle = .accessKeyLookupPending subject previousContext promise ∧
      ¬(f.requestId = s.inflightId ∧ subject = f.subject) := by
  obtain ⟨hbody, hcurrent⟩ := finish_eq_pending h
  rcases body_eq_or f s answers nowMs with hsame | hnone
  · exact ⟨hsame ▸ hbody, hcurrent⟩
  · rw [hbody] at hnone
    cases hnone

end Pending

section Run

variable {thresholds : FreshnessThresholds} {s : Lane}

theorem fetch_eq_some {force : Bool} {nowMs : ℕ} {f : Fetch} {state : State}
    (h : s.fetch thresholds force nowMs = some (f, state)) :
    ∃ subject, f = s.newFetch force nowMs thresholds.nonceFreshnessThresholdMs
      thresholds.blockFreshnessThresholdMs subject ∧ state = s.start nowMs f := by
  rw [Lane.fetch, State.fetchNearFreshData] at h
  split_ifs at h
  obtain ⟨subject, -, hnew⟩ := Option.map_eq_some_iff.mp h
  cases hnew
  exact ⟨subject, rfl, rfl⟩

theorem Lane.Marked.next (h : s.Marked) {e : Event} (hin : s.InTime thresholds e) :
    (s.next thresholds e).Marked := by
  cases e with
  | call force nowMs =>
    simp only [Lane.InTime] at hin
    simp only [Lane.next]
    cases hfetch : s.fetch thresholds force nowMs with
    | none => exact h
    | some new =>
      obtain ⟨f, state⟩ := new
      rw [hfetch] at hin
      obtain ⟨subject, rfl, rfl⟩ := fetch_eq_some hfetch
      have hasks : (_ || _) = true := hin
      simp only [show Fetch.asks _ = true from hin, if_true]
      intro subject' previousContext promise hmark
      simp only [State.start, hasks] at hmark
      cases hmark
      exact ⟨List.mem_cons_self, rfl, _, List.find?_cons_of_pos (decide_eq_true rfl), rfl, rfl, rfl⟩
  | settle requestId answers nowMs =>
    rw [Lane.next]
    cases hstarted : s.startedFetch requestId with
    | none => exact h
    | some f =>
      split_ifs
      · intro subject previousContext promise hleft
        obtain ⟨hpending, hcurrent⟩ := complete_eq_pending hleft
        obtain ⟨hmem, hid, g, hg, rfl, hgid, hprevious⟩ := h _ _ _ hpending
        refine ⟨(List.mem_erase_of_ne ?_).mpr hmem, hid, g, hg, rfl, hgid, hprevious⟩
        rintro rfl
        cases hg.symm.trans hstarted
        exact hcurrent ⟨hgid.trans hid, rfl⟩
      · exact h
  | write lifecycle lastReservedNonce =>
    rw [Lane.next]
    split_ifs with hidle
    · rintro subject previousContext promise rfl
      cases hidle
    · exact h

end Run

end SeamsWallet.Nonce.NearFetch
