import SeamsWallet.Library.Run
import SeamsWallet.Round1Store.Transactions

/-!
# Prepared nonces are used once

The store starts empty and receives any sequence of prepare and finalize calls,
each in one transaction and each with any answers from the tables it only
reads. Every row then stems from the prepare that answered for it, and is
either unconsumed, with no claim on it, or completed by the one finalize that
signed with it. Nothing takes a completed row back.
-/

namespace SeamsWallet.Round1Store

open Library WalletObject Ed25519Worker

/-! ## Calls -/

inductive NearCall (Admission : Type) where
  | prepare (scope : WalletScope) (request : AdmittedNearPrepareRequest Admission)
      (nowUnixMs : ℕ) (random : PrepareRandom)
  | finalize (scope : WalletScope) (request : AdmittedNearFinalizeRequest Admission)
      (nowUnixMs : ℕ)

inductive NearAnswer where
  | prepare (answer : RouterAbProtocolResult (Answered Round1PrepareResponse))
  | finalize (answer : RouterAbProtocolResult (Answered NormalSigningTerminal))

section Calls

variable {q : ℕ} {G : Type} [AddCommGroup G] [DecidableEq G] {Admission : Type}
  [DecidableEq Admission]

def answerCall (env : NearEnvironment Admission) (frost : FrostEd25519 q G)
    (table : Round1Table Admission) (call : NearCall Admission × NearReads) :
    NearAnswer × Round1Table Admission :=
  match call with
  | (.prepare scope request nowUnixMs random, reads) =>
    (transact table (prepareNear env frost reads table scope request nowUnixMs
      random)).map .prepare id
  | (.finalize scope request nowUnixMs, reads) =>
    (transact table (finalizeNear env frost reads table scope request
      nowUnixMs)).map .finalize id

end Calls

abbrev NearEvent (Admission : Type) : Type := (NearCall Admission × NearReads) × NearAnswer

section Events

variable {q : ℕ} {G : Type} [AddCommGroup G] [DecidableEq G] {Admission : Type}

/-- The event prepared new material for the request. -/
def PreparesAs (event : NearEvent Admission)
    (request : AdmittedNearPrepareRequest Admission) (response : Round1PrepareResponse) :
    Prop :=
  ∃ scope nowUnixMs random reads, event =
    ((.prepare scope request nowUnixMs random, reads), .prepare (.ok (.fresh response)))

/-- A finalisation that signed: its keys, the handle of the material it consumed
and the terminal it stored. -/
structure SignedEffect where
  operationKey : String
  authorizationKey : String
  effectDigestHex : String
  handle : String
  terminal : NormalSigningTerminal

def FinalizesAs (env : NearEnvironment Admission) (event : NearEvent Admission)
    (effect : SignedEffect) : Prop :=
  ∃ scope request nowUnixMs reads digest, event =
      ((.finalize scope request nowUnixMs, reads), .finalize (.ok (.fresh effect.terminal))) ∧
    request.effectOperationKey env = .ok effect.operationKey ∧
    request.effectRequestDigest env = .ok digest ∧
    effect.effectDigestHex = hexSlice digest.toList ∧
    effect.authorizationKey = request.effectClaim.nearAuthorizationKey ∧
    effect.handle = request.request.prepareBinding.serverRound1Handle

/-- The row holds the outcome of this finalisation. -/
structure CompletedBy (effect : SignedEffect) (row : Round1Row Admission) : Prop where
  handle : row.handle = effect.handle
  state : row.state = .completed
  operationKey : row.effectOperationKey = some effect.operationKey
  authorizationKey : row.authorizationKey = some effect.authorizationKey
  effectDigestHex : row.effectRequestDigestHex = some effect.effectDigestHex
  terminal : row.terminal = some effect.terminal

/-! ## One call -/

variable {response : Round1PrepareResponse}
  {request : AdmittedNearPrepareRequest Admission} {row : Round1Row Admission}
  {env : NearEnvironment Admission} {frost : FrostEd25519 q G}
  {table table' : Round1Table Admission} {reads : NearReads} {nowUnixMs : ℕ}
  {terminal : NormalSigningTerminal} {scope : WalletScope}

theorem RowFor.complete (h : RowFor request response row) (K A J D : String)
    (terminal : NormalSigningTerminal) :
    RowFor request response ((row.claim K A J D).complete terminal) :=
  ⟨h.request_eq, h.response_eq, h.handle_eq, h.bindingDigest, h.admittedDigest, h.expiresAt⟩

variable {event : NearEvent Admission}

/-- What one call does to the table: it adds a row for the material it prepares,
it completes the row of the material it signs with, or it changes nothing and
neither prepares nor signs. -/
theorem answerCall_cases [DecidableEq Admission]
    (h : Answers (answerCall env frost) table event table') :
    (∃ request response row, PreparesAs event request response ∧
      table'.rows = table.rows ++ [row] ∧ (∀ r ∈ table.rows, ¬ SameRound1Key r row) ∧
      RowFor request response row ∧ row.state = .prepared ∧
      row.effectOperationKey = none ∧ row.authorizationKey = none) ∨
    (∃ scope request nowUnixMs reads terminal operationKey digest row,
      event = ((.finalize scope request nowUnixMs, reads), .finalize (.ok (.fresh terminal))) ∧
      FinalizedFresh env frost reads table request nowUnixMs terminal table' operationKey
        digest row) ∨
    (table' = table ∧ (∀ request response, ¬ PreparesAs event request response) ∧
      ∀ effect, ¬ FinalizesAs env event effect) := by
  obtain ⟨⟨call, reads⟩, answer⟩ := event
  have hidle : table' = table → (∀ response, answer ≠ .prepare (.ok (.fresh response))) →
      (∀ terminal, answer ≠ .finalize (.ok (.fresh terminal))) →
      table' = table ∧ (∀ request response, ¬ PreparesAs ((call, reads), answer) request response) ∧
        ∀ effect, ¬ FinalizesAs env ((call, reads), answer) effect := by
    intro htable hprepare hfinalize
    refine ⟨htable, ?_, ?_⟩
    · rintro request response ⟨scope, nowUnixMs, random, reads', hevent⟩
      exact hprepare response (congrArg Prod.snd hevent)
    · rintro effect ⟨scope, request, nowUnixMs, reads', digest, hevent, -⟩
      exact hfinalize effect.terminal (congrArg Prod.snd hevent)
  cases call with
  | prepare scope request nowUnixMs random =>
    simp only [Answers, answerCall] at h
    cases hresult : prepareNear env frost reads table scope request nowUnixMs random with
    | error error =>
      rw [hresult] at h
      cases h
      exact .inr (.inr (hidle rfl nofun nofun))
    | ok pair =>
      rw [hresult] at h
      cases h
      rcases prepareNear_eq_ok hresult with
        ⟨response, row, hanswer, hfresh⟩ | ⟨response, row, -, hanswer, htable, -⟩
      · refine .inl ⟨request, response, row, ⟨scope, nowUnixMs, random, reads, ?_⟩, hfresh⟩
        rw [hanswer]
      · rw [hanswer] at hidle ⊢
        exact .inr (.inr (hidle htable nofun nofun))
  | finalize scope request nowUnixMs =>
    simp only [Answers, answerCall] at h
    cases hresult : finalizeNear env frost reads table scope request nowUnixMs with
    | error error =>
      rw [hresult] at h
      cases h
      exact .inr (.inr (hidle rfl nofun nofun))
    | ok pair =>
      rw [hresult] at h
      cases h
      rcases finalizeNear_eq_ok hresult with
        ⟨terminal, K, digest, row, -, hanswer, htable, -⟩ |
        ⟨terminal, K, digest, row, hanswer, hfresh⟩
      · rw [hanswer] at hidle ⊢
        exact .inr (.inr (hidle htable nofun nofun))
      · refine .inr (.inl ⟨scope, request, nowUnixMs, reads, terminal, K, digest, row, ?_, hfresh⟩)
        rw [hanswer]

/-- The effect of a finalize that signed, from its request and its answer. -/
def signedEffect (request : AdmittedNearFinalizeRequest Admission) (operationKey : String)
    (digest : PublicDigest32) (terminal : NormalSigningTerminal) : SignedEffect where
  operationKey := operationKey
  authorizationKey := request.effectClaim.nearAuthorizationKey
  effectDigestHex := hexSlice digest.toList
  handle := request.request.prepareBinding.serverRound1Handle
  terminal := terminal

theorem PreparesAs.not_finalizesAs (h : PreparesAs event request response)
    (effect : SignedEffect) : ¬ FinalizesAs env event effect := by
  obtain ⟨scope, nowUnixMs, random, reads, rfl⟩ := h
  rintro ⟨scope', request', nowUnixMs', reads', digest, hevent, -⟩
  cases congrArg Prod.snd hevent

theorem PreparesAs.unique {request' : AdmittedNearPrepareRequest Admission}
    {response' : Round1PrepareResponse} (h : PreparesAs event request response)
    (h' : PreparesAs event request' response') : request = request' ∧ response = response' := by
  obtain ⟨scope, nowUnixMs, random, reads, rfl⟩ := h
  obtain ⟨scope', nowUnixMs', random', reads', hevent⟩ := h'
  cases hevent
  exact ⟨rfl, rfl⟩

variable {digest : PublicDigest32} {operationKey : String}

theorem FinalizedFresh.finalizesAs_iff {request : AdmittedNearFinalizeRequest Admission}
    (h : FinalizedFresh env frost reads table request nowUnixMs terminal table' operationKey
      digest row) (scope : WalletScope) (effect : SignedEffect) :
    FinalizesAs env ((.finalize scope request nowUnixMs, reads),
        .finalize (.ok (.fresh terminal))) effect ↔
      effect = signedEffect request operationKey digest terminal := by
  constructor
  · rintro ⟨scope', request', nowUnixMs', reads', digest', hevent, hoperation, hdigest, hhex,
      hauthorization, hhandle⟩
    cases hevent
    cases h.operation.symm.trans hoperation
    cases h.effectDigest.symm.trans hdigest
    obtain ⟨K, A, D, H, T⟩ := effect
    simp only at hhex hauthorization hhandle
    rw [hhex, hauthorization, hhandle, signedEffect]
  · rintro rfl
    exact ⟨scope, request, nowUnixMs, reads, digest, rfl, h.operation, h.effectDigest, rfl,
      rfl, rfl⟩

section FinalizedFresh

variable {env : NearEnvironment Admission} {frost : FrostEd25519 q G} {reads : NearReads}
  {table table' : Round1Table Admission} {request : AdmittedNearFinalizeRequest Admission}
  {nowUnixMs : ℕ} {terminal : NormalSigningTerminal} {operationKey : String}
  {digest : PublicDigest32} {row : Round1Row Admission}
  (h : FinalizedFresh env frost reads table request nowUnixMs terminal table' operationKey digest
    row)

include h

theorem FinalizedFresh.completed :
    ∃ r ∈ table'.rows, CompletedBy (signedEffect request operationKey digest terminal) r := by
  rw [h.rows]
  refine ⟨_, List.mem_map.mpr ⟨row, h.mem, if_pos rfl⟩, ?_⟩
  exact ⟨h.handle, rfl, rfl, rfl, rfl, rfl⟩

variable {r : Round1Row Admission}

theorem FinalizedFresh.mem_rows (hr : r ∈ table'.rows) :
    r ∈ table.rows ∨ r = (row.claim operationKey request.effectClaim.nearAuthorizationKey
      (env.claimJson request.effectClaim) (hexSlice digest.toList)).complete terminal := by
  rw [h.rows] at hr
  obtain ⟨r', hr', rfl⟩ := List.mem_map.mp hr
  by_cases hhandle : r'.handle = row.handle
  · right
    rw [if_pos hhandle, eq_of_sameKey hr' h.mem (.inr (.inl hhandle))]
  · left
    rw [if_neg hhandle]
    exact hr'

/-- A row stays, or it was unconsumed and its successor is for the same request. -/
theorem FinalizedFresh.kept (hr : r ∈ table.rows) :
    r ∈ table'.rows ∨ r.state = .prepared ∧ ∃ r' ∈ table'.rows,
      ∀ request response, RowFor request response r → RowFor request response r' := by
  rw [h.rows]
  by_cases hhandle : r.handle = row.handle
  · have hsame := eq_of_sameKey hr h.mem (.inr (.inl hhandle))
    exact .inr ⟨hsame ▸ h.unconsumed, _, List.mem_map.mpr ⟨r, hr, if_pos hhandle⟩,
      fun _ _ hfor => hfor.complete _ _ _ _ _⟩
  · exact .inl (List.mem_map.mpr ⟨r, hr, if_neg hhandle⟩)

end FinalizedFresh

/-! ## Whole runs -/

/-- What the answers given so far say about the table. -/
structure Round1History (env : NearEnvironment Admission)
    (log : List (NearEvent Admission)) (table : Round1Table Admission) : Prop where
  stems : ∀ row ∈ table.rows, ∃ e ∈ log, ∃ request response,
    PreparesAs e request response ∧ RowFor request response row
  prepared : ∀ e ∈ log, ∀ request response, PreparesAs e request response →
    ∃ row ∈ table.rows, RowFor request response row
  settled : ∀ row ∈ table.rows, (row.state = .prepared ∧ row.effectOperationKey = none ∧
    row.authorizationKey = none) ∨
      ∃ e ∈ log, ∃ effect, FinalizesAs env e effect ∧ CompletedBy effect row
  finalized : ∀ e ∈ log, ∀ effect, FinalizesAs env e effect →
    ∃ row ∈ table.rows, CompletedBy effect row
  once : log.Pairwise fun e e' => ∀ effect effect',
    FinalizesAs env e effect → FinalizesAs env e' effect' →
      effect.handle ≠ effect'.handle ∧ effect.operationKey ≠ effect'.operationKey ∧
      effect.authorizationKey ≠ effect'.authorizationKey

theorem CompletedBy.not_prepared {effect : SignedEffect}
    (h : CompletedBy effect row) : row.state ≠ .prepared := by
  rw [h.state]
  intro hstate
  cases hstate

variable {log : List (NearEvent Admission)} (h : Round1History env log table)
include h

/-- A call extends the history if the rows it leaves are old ones or stem from it, if it
replaces unconsumed rows only, and if what it prepares or signs is in the table. -/
theorem Round1History.extend (hrows : ∀ row ∈ table'.rows, row ∈ table.rows ∨
      (∃ e ∈ log ++ [event], ∃ request response, PreparesAs e request response ∧
        RowFor request response row) ∧
      ((row.state = .prepared ∧ row.effectOperationKey = none ∧ row.authorizationKey = none) ∨
        ∃ effect, FinalizesAs env event effect ∧ CompletedBy effect row))
    (hkept : ∀ row ∈ table.rows, row ∈ table'.rows ∨ row.state = .prepared ∧
      ∃ row' ∈ table'.rows, ∀ request response, RowFor request response row →
        RowFor request response row')
    (hprepared : ∀ request response, PreparesAs event request response →
      ∃ row ∈ table'.rows, RowFor request response row)
    (hfinalized : ∀ effect, FinalizesAs env event effect →
      (∃ row ∈ table'.rows, CompletedBy effect row) ∧
      ∀ row ∈ table.rows, ∀ earlier, CompletedBy earlier row → earlier.handle ≠ effect.handle ∧
        earlier.operationKey ≠ effect.operationKey ∧
        earlier.authorizationKey ≠ effect.authorizationKey) :
    Round1History env (log ++ [event]) table' := by
  constructor
  · intro row hrow
    rcases hrows row hrow with hold | ⟨hstems, -⟩
    · obtain ⟨e, he, hstems⟩ := h.stems row hold
      exact ⟨e, List.mem_append_left _ he, hstems⟩
    · exact hstems
  · rw [List.forall_mem_append, List.forall_mem_singleton]
    refine ⟨fun e he request response hprepares => ?_, hprepared⟩
    obtain ⟨row, hrow, hfor⟩ := h.prepared e he request response hprepares
    rcases hkept row hrow with hrow' | ⟨-, row', hrow', hfor'⟩
    · exact ⟨row, hrow', hfor⟩
    · exact ⟨row', hrow', hfor' _ _ hfor⟩
  · intro row hrow
    rcases hrows row hrow with hold | ⟨-, hsettled⟩
    · exact (h.settled row hold).imp_right fun ⟨e, he, hcompleted⟩ =>
        ⟨e, List.mem_append_left _ he, hcompleted⟩
    · exact hsettled.imp_right fun hcompleted => ⟨event, by simp, hcompleted⟩
  · rw [List.forall_mem_append, List.forall_mem_singleton]
    refine ⟨fun e he effect heffect => ?_, fun effect heffect => (hfinalized effect heffect).1⟩
    obtain ⟨row, hrow, hcompleted⟩ := h.finalized e he effect heffect
    rcases hkept row hrow with hrow' | ⟨hstate, -⟩
    · exact ⟨row, hrow', hcompleted⟩
    · exact absurd hstate hcompleted.not_prepared
  · rw [List.pairwise_append]
    refine ⟨h.once, List.pairwise_singleton _ _, ?_⟩
    intro e he e' he' effect effect' heffect heffect'
    obtain rfl := List.mem_singleton.mp he'
    obtain ⟨row, hrow, hcompleted⟩ := h.finalized e he effect heffect
    exact (hfinalized effect' heffect').2 row hrow effect hcompleted

theorem Round1History.prepare
    (hprepares : PreparesAs event request response) (hrows : table'.rows = table.rows ++ [row])
    (hfor : RowFor request response row)
    (hunclaimed : row.state = .prepared ∧ row.effectOperationKey = none ∧
      row.authorizationKey = none) :
    Round1History env (log ++ [event]) table' := by
  refine h.extend ?_ ?_ ?_ fun effect heffect => absurd heffect (hprepares.not_finalizesAs effect)
  · rw [hrows, List.forall_mem_append, List.forall_mem_singleton]
    exact ⟨fun r hr => .inl hr,
      .inr ⟨⟨event, by simp, request, response, hprepares, hfor⟩, .inl hunclaimed⟩⟩
  · intro r hr
    rw [hrows]
    exact .inl (List.mem_append_left _ hr)
  · intro request' response' hprepares'
    obtain ⟨rfl, rfl⟩ := hprepares.unique hprepares'
    exact ⟨row, by simp [hrows], hfor⟩

theorem Round1History.finalize {request : AdmittedNearFinalizeRequest Admission}
    (hfresh : FinalizedFresh env frost reads table request nowUnixMs terminal table' operationKey
      digest row) :
    Round1History env (log ++ [((.finalize scope request nowUnixMs, reads),
      .finalize (.ok (.fresh terminal)))]) table' := by
  have hiff := hfresh.finalizesAs_iff scope
  have hself := (hiff _).mpr rfl
  refine h.extend (fun r hr => ?_) (fun r hr => hfresh.kept hr) ?_ fun effect heffect => ?_
  · refine (hfresh.mem_rows hr).imp_right ?_
    rintro rfl
    obtain ⟨e, he, request', response', hprepares, hfor⟩ := h.stems row hfresh.mem
    exact ⟨⟨e, List.mem_append_left _ he, request', response', hprepares,
      hfor.complete _ _ _ _ _⟩, .inr ⟨_, hself, ⟨hfresh.handle, rfl, rfl, rfl, rfl, rfl⟩⟩⟩
  · intro request' response' hprepares
    exact absurd hself (hprepares.not_finalizesAs _)
  · rw [(hiff effect).mp heffect]
    refine ⟨hfresh.completed, fun r hr earlier hcompleted => ?_⟩
    obtain ⟨hoperation, hauthorization⟩ := hfresh.unclaimed r hr
    rw [hcompleted.operationKey] at hoperation
    rw [hcompleted.authorizationKey] at hauthorization
    refine ⟨?_, fun hsame => hoperation (congrArg some hsame),
      fun hsame => hauthorization (congrArg some hsame)⟩
    -- the earlier row is completed, the one signed with now was unconsumed
    intro hsame
    have hhandle : r.handle = row.handle :=
      hcompleted.handle.trans (hsame.trans hfresh.handle.symm)
    have hrow := eq_of_sameKey hr hfresh.mem (.inr (.inl hhandle))
    exact hcompleted.not_prepared (hrow ▸ hfresh.unconsumed)

omit h

theorem Round1History.of_run [DecidableEq Admission]
    (h : Run (Answers (answerCall env frost)) (Table.empty _) log table) :
    Round1History env log table := by
  apply h.invariant (Round1History env)
  · constructor <;> simp [Table.empty]
  · intro log s e s' _ hs hstep
    rcases answerCall_cases hstep with
      ⟨request, response, row, hprepares, hrows, -, hfor, hunclaimed⟩ |
      ⟨scope, request, nowUnixMs, reads, terminal, K, digest, row, rfl, hfresh⟩ |
      ⟨rfl, hprepare, hfinalize⟩
    · exact hs.prepare hprepares hrows hfor hunclaimed
    · exact hs.finalize hfresh
    · exact hs.extend (fun _ => .inl) (fun _ => .inl)
        (fun request response h => absurd h (hprepare request response))
        fun effect h => absurd h (hfinalize effect)

end Events

end SeamsWallet.Round1Store
