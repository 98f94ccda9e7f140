import SeamsWallet.Round1Store.Store

/-!
# What a call to the round-1 store does

One inversion lemma per call. A prepare that succeeds either adds one row, for
material that no row has, or answers the response of an unconsumed row for the
same request. A finalize that succeeds either answers the terminal of the row
that its operation completed, or completes an unconsumed row that nothing had
claimed, with a terminal made from that row's record.
-/

namespace SeamsWallet.Round1Store

open Library WalletObject Ed25519Worker

variable {q : ℕ} {G : Type} [AddCommGroup G] [DecidableEq G] {Admission : Type}

/-! ## Lookups -/

variable {row : Round1Row Admission} {env : NearEnvironment Admission} {scope : WalletScope}
  {request : AdmittedNearPrepareRequest Admission} {active : ActiveSigningWorkerState}
  {rows : List (Round1Row Admission)}

theorem readRound1_eq_some (h : readRound1 rows = .ok (some row)) : rows = [row] := by
  match rows with
  | [] => cases h
  | [found] =>
    simp only [readRound1, ok_iff, Option.some.injEq] at h
    rw [h.2]
  | _ :: _ :: _ => cases h

theorem readRound1_eq_none (h : readRound1 rows = .ok none) : rows = [] := by
  match rows with
  | [] => rfl
  | [found] =>
    simp only [readRound1, ok_iff] at h
    exact absurd h.2 (Option.some_ne_none found)
  | _ :: _ :: _ => cases h

variable {r s : Round1Row Admission}

theorem SameRound1Key.symm (h : SameRound1Key r s) : SameRound1Key s r := by
  rcases h with h | h | ⟨hne, h⟩ | ⟨hne, h⟩
  · exact .inl h.symm
  · exact .inr (.inl h.symm)
  · exact .inr (.inr (.inl ⟨h ▸ hne, h.symm⟩))
  · exact .inr (.inr (.inr ⟨h ▸ hne, h.symm⟩))

variable {table : Round1Table Admission}

theorem eq_of_sameKey (hr : r ∈ table.rows) (hs : s ∈ table.rows) (h : SameRound1Key r s) : r = s :=
  table.eq_of_clash (fun _ _ => SameRound1Key.symm) hr hs h

variable {frost : FrostEd25519 q G}

theorem openRound1_eq_ok {stored : PreparedRound1 Admission}
    (h : openRound1 env frost scope row = .ok stored) : stored = row.ciphertext.value := by
  simp only [openRound1, ok_iff] at h
  obtain ⟨-, identity, -, opened, hopened, -, -, -, digest, -, -, rfl⟩ := h
  exact (Sealed.openAs_eq_ok hopened).symm

/-! ## Prepare -/

/-- The row was stored for this request and answered with this response. -/
structure RowFor (request : AdmittedNearPrepareRequest Admission)
    (response : Round1PrepareResponse) (row : Round1Row Admission) : Prop where
  request_eq : row.ciphertext.value.request = request
  response_eq : row.ciphertext.value.response = response
  handle_eq : row.handle = response.serverRound1Handle
  bindingDigest : ∃ digest, request.round1BindingDigest = .ok digest ∧
    row.bindingKey = hexSlice digest.toList ∧
    row.ciphertext.value.record.round1BindingDigest = digest
  admittedDigest : row.ciphertext.value.record.admittedSigningDigest =
    request.admissionCandidate.admittedSigningDigest
  expiresAt : row.ciphertext.value.record.expiresAtMs = request.expiresAtMs

variable {nowUnixMs : ℕ} {random : PrepareRandom} {material : ServerOutputMaterialRecord}
  {reads : NearReads} {table' : Round1Table Admission}

/-- A successful prepare: a new row, or the response of an unconsumed one. -/
theorem prepareNear_eq_ok [DecidableEq Admission] {answer : Answered Round1PrepareResponse}
    (h : prepareNear env frost reads table scope request nowUnixMs random = .ok (answer, table')) :
    (∃ response row, answer = .fresh response ∧ table'.rows = table.rows ++ [row] ∧
      (∀ r ∈ table.rows, ¬ SameRound1Key r row) ∧ RowFor request response row ∧
      row.state = .prepared ∧ row.effectOperationKey = none ∧
      row.authorizationKey = none) ∨
    (∃ response, ∃ row ∈ table.rows, answer = .stored response ∧ table' = table ∧
      row.state = .prepared ∧ row.ciphertext.value.request = request ∧
      nowUnixMs < row.ciphertext.value.record.expiresAtMs ∧
      row.ciphertext.value.response = response) := by
  simp only [prepareNear, ok_iff] at h
  obtain ⟨-, -, activation, -, digest, hdigest, found, hfound, h⟩ := h
  cases found with
  | some row =>
    simp only [replayPrepare, ok_iff, Prod.mk.injEq] at h
    obtain ⟨response, ⟨-, hstate, stored, hstored, ⟨hrequest, hlive⟩, hresponse⟩, rfl, rfl⟩ := h
    rw [openRound1_eq_ok hstored] at hrequest hlive hresponse
    have hmem : row ∈ table.rows := by
      have hselect := readRound1_eq_some hfound
      exact (Table.mem_select.mp (hselect ▸ List.mem_cons_self)).1
    exact .inr ⟨response, row, hmem, rfl, rfl, hstate, hrequest, hlive, hresponse⟩
  | none =>
    simp only [bind_eq_ok] at h
    obtain ⟨prepared, hprepared, identity, -, h⟩ := h
    simp only [handlePreparePrivateRequest, handleNormalSigningPrepareRequest,
      Round1Prepared.validateForRequest, ok_iff] at hprepared
    obtain ⟨-, -, -, -, state, -, digest', hbinding, -, -, -, rfl⟩ := hprepared
    obtain rfl : digest = digest' := Except.ok.inj (hdigest.symm.trans hbinding)
    rcases table.insertIgnore_cases (preparedRow (hexSlice digest.toList)
        (prepareDigestHex env request) identity ⟨request, _, _⟩) with
      ⟨hfresh, hwritten, hrows⟩ | hconflict
    · rw [if_pos (by rw [hwritten]; rfl), pure_eq_ok, Prod.mk.injEq] at h
      obtain ⟨rfl, rfl⟩ := h
      refine .inl ⟨_, _, rfl, hrows, hfresh, ?_, rfl, rfl, rfl⟩
      exact ⟨rfl, rfl, rfl, ⟨digest, hdigest, rfl, rfl⟩, rfl, rfl⟩
    · -- a conflict on the handle alone: the second lookup finds nothing
      simp only [hconflict, List.map_nil, List.nil_eq, List.cons_ne_nil, if_false, bind_eq_ok] at h
      obtain ⟨found, hagain, existing, hexisting, -⟩ := h
      rw [readRound1_eq_none hfound] at hagain
      cases hagain
      cases hexisting

/-! ## Finalize -/

/-- The signature verifies for the digest under the account's key. -/
def VerifiesUnder (env : NearEnvironment Admission) (frost : FrostEd25519 q G)
    (accountPublicKey : String) (digest : PublicDigest32) (signature : List UInt8) : Prop :=
  ∃ keyBytes key groupSignature,
    decodeNearEd25519PublicKey env.decodeBase58 "active SigningWorker account_public_key"
      accountPublicKey = .ok keyBytes ∧
    frost.deserializeElement keyBytes.toList = .ok key ∧
    Frost.verify frost.ciphersuite key digest.toList groupSignature = .ok () ∧
    groupSignature.serialize frost.ciphersuite = .ok signature

variable {request : AdmittedNearFinalizeRequest Admission} {response : NormalSigningResponse}

/-- A signature that the handler returns is over the digest of the record. -/
theorem handleFinalizePrivateRequest_eq_ok {record : Round1Record}
    (h : handleFinalizePrivateRequest env frost nowUnixMs request active material record =
      .ok response) :
    VerifiesUnder env frost active.accountPublicKey record.admittedSigningDigest
      response.signature := by
  simp only [handleFinalizePrivateRequest, handleNormalSigningFinalizeRequest, ok_iff] at h
  obtain ⟨-, -, -, answered, ⟨-, signature, hsignature, -, -, rfl⟩, -, -, rfl⟩ := h
  simp only [finalizeSignature, ok_iff] at hsignature
  obtain ⟨-, serverCommitments, -, keyBytes, hkeyBytes, share, -, -, clientId, -, workerId,
    -, keyPackage, -, clientCommitments, -, nonces, -, workerShare, -, key, hkey,
    clientVerifying, -, serverVerifying, -, clientShare, -, haggregate⟩ := hsignature
  simp only [SignerCore.aggregateSignature, Frost.aggregate, ok_iff] at haggregate
  obtain ⟨_, ⟨-, -, _, -, R, -, hverify, rfl⟩, bytes, hbytes, hlist⟩ := haggregate
  refine ⟨keyBytes, key, _, hkeyBytes, hkey, hverify, ?_⟩
  rw [hbytes, Bytes.ofList?_eq_some hlist]

/-- What the claim and the commit of one finalize leave of the table: the named
row claimed and completed, every other row as it was. -/
theorem claim_commit_rows {claimed : Round1Table Admission}
    {handle K A J D : String} {written : List (Round1Row Admission)}
    (terminal : NormalSigningTerminal)
    (hfound : (table.select fun r => r.handle = handle) = [row]) (hstate : row.state = .prepared)
    (hclaimed : table.updateUnique (fun r => r.handle = handle ∧ r.state = .prepared ∧
      r.bindingKey = row.bindingKey) (Round1Row.claim K A J D) = some (written, claimed)) :
    let committed := claimed.update
      (fun r => r.handle = handle ∧ r.state = .claimed ∧ r.effectOperationKey = some K ∧
        r.effectRequestDigestHex = some D)
      (Round1Row.complete terminal) (Round1Row.complete_keepsKeys terminal)
    committed.1.length = 1 ∧ committed.2.rows = table.rows.map fun r =>
      if r.handle = handle then (r.claim K A J D).complete terminal else r := by
  obtain ⟨-, hrows⟩ := Table.updateUnique_eq_some hclaimed
  have honly : ∀ r ∈ table.rows, r.handle = handle → r = row := by
    intro r hr hhandle
    have hmem : r ∈ table.select fun r => r.handle = handle :=
      Table.mem_select.mpr ⟨hr, hhandle⟩
    rw [hfound] at hmem
    exact List.mem_singleton.mp hmem
  -- the claim reaches exactly the row with the handle, and so does the commit
  have hclaim : claimed.rows = table.rows.map fun r =>
      if r.handle = handle then r.claim K A J D else r := by
    rw [hrows]
    apply List.map_congr_left
    intro r hr
    by_cases hhandle : r.handle = handle
    · have := honly r hr hhandle
      subst this
      rw [if_pos ⟨hhandle, hstate, rfl⟩, if_pos hhandle]
    · rw [if_neg (fun hall => hhandle hall.1), if_neg hhandle]
  have hreached (r : Round1Row Admission) :
      let r' := if r.handle = handle then r.claim K A J D else r
      (r'.handle = handle ∧ r'.state = .claimed ∧ r'.effectOperationKey = some K ∧
        r'.effectRequestDigestHex = some D) ↔ r.handle = handle := by
    by_cases hhandle : r.handle = handle <;> simp [hhandle, Round1Row.claim]
  simp only [Table.update, Table.select, hclaim, List.filter_map, List.map_map, Function.comp_def,
    hreached, List.length_map]
  constructor
  · exact congrArg List.length hfound
  · apply List.map_congr_left
    intro r hr
    split_ifs <;> rfl

/-- A finalize that signed: the keys it took, the row it consumed, what that row
had been prepared for, and the table it left. -/
structure FinalizedFresh (env : NearEnvironment Admission) (frost : FrostEd25519 q G)
    (reads : NearReads) (table : Round1Table Admission)
    (request : AdmittedNearFinalizeRequest Admission) (nowUnixMs : ℕ)
    (terminal : NormalSigningTerminal) (table' : Round1Table Admission)
    (operationKey : String) (digest : PublicDigest32) (row : Round1Row Admission) : Prop where
  operation : request.effectOperationKey env = .ok operationKey
  effectDigest : request.effectRequestDigest env = .ok digest
  unclaimed : ∀ r ∈ table.rows, r.effectOperationKey ≠ some operationKey ∧
    r.authorizationKey ≠ some request.effectClaim.nearAuthorizationKey
  mem : row ∈ table.rows
  handle : row.handle = request.request.prepareBinding.serverRound1Handle
  unconsumed : row.state = .prepared
  live : nowUnixMs < row.ciphertext.value.record.expiresAtMs
  binding : row.ciphertext.value.record.round1BindingDigest =
    request.request.prepareBinding.round1BindingDigest
  generation : row.ciphertext.value.request.ownershipGeneration = request.ownershipGeneration
  scope : row.ciphertext.value.request.scope = request.request.scope
  notRetired : reads.activationRetired request.request.scope.activeKey = .ok false
  signed : ∀ response, terminal = .success response →
    VerifiesUnder env frost row.ciphertext.value.record.activeSigningWorkerState.accountPublicKey
      row.ciphertext.value.record.admittedSigningDigest response.signature
  rows : table'.rows = table.rows.map fun r => if r.handle = row.handle then
    (r.claim operationKey request.effectClaim.nearAuthorizationKey
      (env.claimJson request.effectClaim) (hexSlice digest.toList)).complete terminal else r

/-- Material loads only from an activation that is not retired. -/
theorem loadNearActivation_eq_ok {source : NormalSigningMaterialSource}
    {activation : OutputActivation} (h : reads.loadNearActivation source = .ok activation) :
    ∃ lookup, source = .registrationActivation lookup ∧
      reads.activationRetired lookup.activeKey = .ok false := by
  cases source with
  | rotatableLane => cases h
  | registrationActivation lookup =>
    simp only [NearReads.loadNearActivation, ok_iff] at h
    obtain ⟨retired, hretired, hlive, -⟩ := h
    exact ⟨lookup, rfl, by rw [hretired, Bool.eq_false_of_not_eq_true hlive]⟩

/-- A successful finalize: the terminal its operation had stored, or a new one. -/
theorem finalizeNear_eq_ok {answer : Answered NormalSigningTerminal}
    (h : finalizeNear env frost reads table scope request nowUnixMs = .ok (answer, table')) :
    (∃ terminal operationKey digest, ∃ row ∈ table.rows, answer = .stored terminal ∧
      table' = table ∧ request.effectOperationKey env = .ok operationKey ∧
      request.effectRequestDigest env = .ok digest ∧
      row.effectOperationKey = some operationKey ∧
      row.effectRequestDigestHex = some (hexSlice digest.toList) ∧
      row.terminal = some terminal) ∨
    (∃ terminal operationKey digest row, answer = .fresh terminal ∧
      FinalizedFresh env frost reads table request nowUnixMs terminal table' operationKey
        digest row) := by
  simp only [finalizeNear, bind_eq_ok] at h
  obtain ⟨operationKey, hoperation, digest, hdigest, found, hfound, h⟩ := h
  cases found with
  | some row =>
    left
    have hmem : row ∈ table.select fun r => r.effectOperationKey = some operationKey :=
      readRound1_eq_some hfound ▸ List.mem_cons_self
    rw [Table.mem_select] at hmem
    simp only [replayTerminal, ok_iff, Prod.mk.injEq] at h
    obtain ⟨terminal, ⟨hsame, stored, hstored, -, -, rfl⟩, rfl, rfl⟩ := h
    exact ⟨stored, operationKey, digest, row, hmem.1, rfl, rfl, hoperation, hdigest, hmem.2,
      hsame, hstored⟩
  | none =>
    right
    have hvalid : request.validate env = .ok () := by
      simp only [AdmittedNearFinalizeRequest.effectOperationKey, ok_iff] at hoperation
      exact hoperation.1
    simp only [ok_iff] at h
    obtain ⟨-, -, activation, hactivation, -, claimant, hclaimant, rfl, foundRow, hfoundRow,
      row, rfl, stored, hstored, ⟨written, claimed⟩, hclaimed, -, -, h⟩ := h
    simp only [openForFinalize, Round1Record.validateForLookup, ok_iff] at hstored
    obtain ⟨hstate, _, hopened, -, ⟨-, -, hlive, -, hbinding, hactive⟩, hgeneration, hscope,
      rfl⟩ := hstored
    obtain rfl := openRound1_eq_ok hopened
    have hselect := readRound1_eq_some hfoundRow
    have hmem : row ∈ table.select fun r =>
        r.handle = request.request.prepareBinding.serverRound1Handle :=
      hselect ▸ List.mem_cons_self
    rw [Table.mem_select] at hmem
    obtain ⟨hlength, hrows⟩ := claim_commit_rows
      (NormalSigningTerminal.fromResult (handleFinalizePrivateRequest env frost nowUnixMs
        request activation.activeSigningWorkerState activation.material
        row.ciphertext.value.record)) hselect hstate hclaimed
    rw [if_pos hlength, pure_eq_ok, Prod.mk.injEq] at h
    obtain ⟨rfl, rfl⟩ := h
    obtain ⟨lookup, hsource, hretired⟩ := loadNearActivation_eq_ok hactivation
    refine ⟨_, operationKey, digest, row, rfl, ⟨hoperation, hdigest, ?_, hmem.1, hmem.2,
      hstate, hlive, hbinding, hgeneration, hscope, ?_, ?_, ?_⟩⟩
    · intro r hr
      exact ⟨Table.select_eq_nil.mp (readRound1_eq_none hfound) r hr,
        Table.select_eq_nil.mp (readRound1_eq_none hclaimant) r hr⟩
    · simp only [AdmittedNearFinalizeRequest.validate, ok_iff, hsource,
        NormalSigningMaterialSource.validateForNormalScope,
        ActiveSigningWorkerStateLookup.fromNormalSigningScope] at hvalid
      obtain ⟨-, -, -, -, ⟨-, _, ⟨-, -, rfl⟩, rfl⟩, -⟩ := hvalid
      exact hretired
    · intro response hresponse
      rw [hactive]
      unfold NormalSigningTerminal.fromResult at hresponse
      split at hresponse <;> cases hresponse
      exact handleFinalizePrivateRequest_eq_ok ‹_›
    · rw [hrows, hmem.2]

end SeamsWallet.Round1Store
