import SeamsWallet.LinkedEcdsa.Revoked

/-!
# The shares of linked devices

A reservation is made by rebinding the source's share, so the target's client key and the
key of the sealed server share again add up to the source's threshold key. Sealing hides
nothing from the argument: an envelope opens to nothing but what was sealed, so the share a
later link starts from and the material an activation stores are the one of the rebinding.
-/

namespace SeamsWallet.LinkedEcdsa

open Library EcdsaDerivation WalletObject EcdsaStore

section Shares

variable {n : ℕ} [Fact n.Prime] {P : Type} [AddCommGroup P] [Module (ZMod n) P]

/-! ## Stored texts -/

/-- The bytes a stored text stands for. -/
def Decodes (linked : LinkedEnvironment n P) {width : ℕ} (text : String)
    (bytes : Bytes width) : Prop :=
  linked.prims.decodeUrlSafeNoPad text = .ok bytes.toList

variable {linked : LinkedEnvironment n P} {width : ℕ}

theorem Decodes.unique {text : String} {bytes bytes' : Bytes width}
    (h : Decodes linked text bytes) (h' : Decodes linked text bytes') : bytes = bytes' :=
  List.Vector.toList_injective (Except.ok.inj (h.symm.trans h'))

theorem decodes_encode (linked : LinkedEnvironment n P) (bytes : Bytes width) :
    Decodes linked (linked.prims.encodeBase64UrlUnpadded bytes.toList) bytes :=
  linked.b64.decodeUrlSafeNoPad_encode bytes.toList

theorem decodeFixedB64_eq_ok {label text : String} {bytes : Bytes width}
    (h : decodeFixedB64 linked width label text = .ok bytes) : Decodes linked text bytes := by
  simp only [decodeFixedB64, ok_iff] at h
  obtain ⟨list, hlist, hbytes⟩ := h
  rw [Decodes, hlist, Bytes.ofList?_eq_some hbytes]

/-! ## Keys and shares -/

/-- The threshold key a binding names for its source. -/
structure KeyOf (linked : LinkedEnvironment n P)
    (binding : LinkedDeviceEcdsaSourceContributionBinding) (Q : P) : Prop where
  ne_zero : Q ≠ 0
  threshold : Decodes linked binding.source.thresholdPublicKey33B64u (linked.curve.pointBytes Q)
  address : Decodes linked binding.source.thresholdEthereumAddress20B64u
    (ethereumAddress linked.curve linked.address Q)

variable {Q : P}
  {binding : LinkedDeviceEcdsaSourceContributionBinding} {reservation : LinkedReservation}
  {row : LinkedRow}

theorem KeyOf.unique {Q' : P} (h : KeyOf linked binding Q) (h' : KeyOf linked binding Q') :
    Q = Q' :=
  linked.curve.pointBytes_injective h.ne_zero h'.ne_zero (h.threshold.unique h'.threshold)

variable [DecidableEq P]

/-- The sealed server share of a reservation belongs to its target relayer key, the
target's two keys add up to the threshold key `Q`, and the address is the one of `Q`. -/
structure HoldsShare (linked : LinkedEnvironment n P) (reservation : LinkedReservation)
    (share : ZMod n) (Q : P) : Prop where
  relayer : Decodes linked reservation.targetRelayerPublicKey33B64u
    (linked.curve.pointBytes (share • linked.curve.generator))
  client : ∃ C : P, C + share • linked.curve.generator = Q ∧
    Decodes linked reservation.binding.targetClientPublicKey33B64u (linked.curve.pointBytes C)
  threshold : Decodes linked reservation.thresholdPublicKey33B64u (linked.curve.pointBytes Q)
  address : Decodes linked reservation.thresholdEthereumAddress20B64u
    (ethereumAddress linked.curve linked.address Q)
  contribution : ∃ digest sealSeed,
    reservation.binding.digest linked.prims linked.curve linked.hpke = .ok digest ∧
      sealLinkedDeviceEcdsaSourceContribution linked.prims linked.hpke
        reservation.binding.target.signingWorkerRecipientPublicKeyB64u digest
        (K256.scalarBytes share).toList sealSeed = .ok reservation.encryptedTargetServerShare

/-- The share of a client whose key and the wallet's own relayer share make `Q`. -/
structure OwnShare (linked : LinkedEnvironment n P)
    (binding : LinkedDeviceEcdsaSourceContributionBinding) (outputMaterial : Bytes 32)
    (Q : P) : Prop where
  derived : ∃ (C : P) (r : ZMod n) (context : RouterAbEcdsaDerivationStableKeyContext)
      (counter : ℕ) (share : RelayerRoleShare) (identity : PublicIdentity),
    Decodes linked binding.source.clientPublicKey33B64u (linked.curve.pointBytes C) ∧
    deriveRelayerShareForClientPublic linked.curve linked.address linked.derivation context
      outputMaterial (linked.curve.pointBytes C) counter = .ok (share, identity) ∧
    K256.scalarFromRepr n share.xRelayer32 = some r ∧ C + r • linked.curve.generator = Q

variable {Admission Context Bundle : Type}

/-- The key a link was made from is `Q`: the wallet's own, under the source's active key, or
the one of a device linked before. -/
inductive SourceHolds (env : StoreEnvironment n P Admission Context Bundle)
    (tables : LinkedTables Context Bundle)
    (binding : LinkedDeviceEcdsaSourceContributionBinding) (Q : P) : Prop
  | own {row : ActivationRow Context Bundle} (hrow : row ∈ tables.activations.rows)
      (hsource : mpcMaterialActivationFromEcdsaRef binding.source.activation =
        .ok row.ciphertext.value.activeSigningWorkerState.materialActivation)
      (hkey : row.activeKey = activeOutputKey
        row.ciphertext.value.activeSigningWorkerState.materialActivation)
      (hshare : OwnShare env.linked binding row.ciphertext.value.material.outputMaterial Q)
  | device {row : LinkedRow} (hrow : row ∈ tables.linked.rows)
      (hsource : mpcMaterialActivationFromEcdsaRef binding.source.activation =
        .ok row.ciphertext.value.state.materialActivation)
      (hkey : KeyOf env.linked row.ciphertext.value.state.binding Q)

/-- A row with threshold key `Q`: it is the key of its source, and as long as the row is not
revoked it holds a share of it, which is also the material it signs with. -/
structure LinkedShare (env : StoreEnvironment n P Admission Context Bundle)
    (tables : LinkedTables Context Bundle) (row : LinkedRow) (Q : P) : Prop where
  key : KeyOf env.linked row.ciphertext.value.state.binding Q
  source : SourceHolds env tables row.ciphertext.value.state.binding Q
  share : ∀ reservation, row.ciphertext.value.state.unrevoked = some reservation →
    ∃ share, HoldsShare env.linked reservation share Q ∧
      ∀ activation, row.ciphertext.value.activation = some activation →
        activation.material.outputMaterial = K256.scalarBytes share

/-! ## New reservations -/

/-- What a new reservation was rebound from: the points and scalars of its source. -/
structure ReboundFrom (linked : LinkedEnvironment n P)
    (binding : LinkedDeviceEcdsaSourceContributionBinding) (share32 : Bytes 32) (C : P)
    (r : ZMod n) : Prop where
  client : Decodes linked binding.source.clientPublicKey33B64u (linked.curve.pointBytes C)
  share : K256.scalarFromRepr n share32 = some r
  key : KeyOf linked binding (C + r • linked.curve.generator)

variable {request : SourcePreservingReservationRequest} {share32 privateKey sealSeed : Bytes 32}
  {state : EcdsaReservationState}

/-- A new reservation holds the rebound share of its source's key. -/
theorem holdsShare_of_linkedEcdsaInactiveState
    (h : linkedEcdsaInactiveState linked request share32 privateKey sealSeed = .ok state) :
    ∃ reservation C r d, state = .sourcePreservingInactive reservation ∧
      reservation.binding = request.sourceContribution.binding ∧
      ReboundFrom linked reservation.binding share32 C r ∧
      HoldsShare linked reservation (r + d) (C + r • linked.curve.generator) := by
  simp only [linkedEcdsaInactiveState, ok_iff, sourceContributionBindingDigest,
    bindingDigestAs, linkedSourceIdentity, linkedEcdsaSourcePublicKeys] at h
  obtain ⟨digest, hdigest, activation, -, delta, -, _, ⟨_, ⟨client, hclient, relayer, -, rfl⟩,
    threshold, hthreshold, address, haddress, rfl⟩, targetClient, htargetClient, rebound, hrebound,
    envelope, henvelope, -, rfl⟩ := h
  obtain ⟨C, r, d, -, -, hne, -, -, hshare, -, hidentity, rfl, rfl⟩ :=
    rebind_eq_ok linked.curve linked.address hrebound
  cases hidentity
  refine ⟨_, C, r, d, rfl, rfl, ⟨decodeFixedB64_eq_ok hclient, hshare, hne,
    decodeFixedB64_eq_ok hthreshold, decodeFixedB64_eq_ok haddress⟩, ?_⟩
  exact
    { relayer := decodes_encode linked _
      client := ⟨C - d • linked.curve.generator, by rw [add_smul]; abel,
        decodeFixedB64_eq_ok htargetClient⟩
      threshold := decodes_encode linked _
      address := decodes_encode linked _
      contribution := ⟨digest, sealSeed, hdigest, henvelope⟩ }

/-! ## Source shares -/

variable {share : ZMod n} {relayer : Bytes 33}

theorem HoldsShare.opened (h : HoldsShare linked reservation share Q) {digest : Bytes 32}
    (hopen : decryptSourcePreservingServerShare linked reservation.encryptedTargetServerShare
      privateKey digest relayer = .ok share32) :
    share32 = K256.scalarBytes share := by
  obtain ⟨digest', sealSeed, -, hseal⟩ := h.contribution
  simp only [decryptSourcePreservingServerShare, ok_iff] at hopen
  obtain ⟨opened, hopened, bytes, hbytes, _, -, -, rfl⟩ := hopen
  simp only [sealLinkedDeviceEcdsaSourceContribution, ok_iff] at hseal
  obtain ⟨-, key, -, -, ⟨encapped, ciphertext⟩, hsealed, henvelope⟩ := hseal
  rw [← henvelope] at hopened
  simp only [openLinkedDeviceEcdsaSourceContribution, decodeFixedBytes, decodeB64_encode, ok_bind,
    Bytes.ofList?_toList, okOr_some, ok_iff] at hopened
  obtain ⟨-, -, -, -, -, hopened⟩ := hopened
  have hplain := linked.hpke.opens_to_sealed hsealed hopened
  rw [← Bytes.ofList?_eq_some hbytes] at hplain
  exact List.Vector.toList_injective hplain

theorem selectSourcePreservingActiveReservation_eq_ok
    {materialActivation : MpcMaterialActivationRef}
    (h : selectSourcePreservingActiveReservation state materialActivation = .ok reservation) :
    state = .sourcePreservingActive reservation ∧
      reservation.materialActivation = materialActivation := by
  cases state with
  | sourcePreservingActive active =>
    simp only [selectSourcePreservingActiveReservation, ok_iff] at h
    obtain ⟨hactivation, rfl⟩ := h
    exact ⟨rfl, hactivation⟩
  | sourcePreservingInactive _ | sourcePreservingActivating _
  | sourcePreservingDeactivating _ | sourcePreservingRevoked _ =>
    simp [selectSourcePreservingActiveReservation, bind_eq_ok] at h

variable {env : StoreEnvironment n P Admission Context Bundle}
  {tables tables' : LinkedTables Context Bundle} {serverKey : ServerOutputKey}

/-- The share a link starts from belongs to a source of the key it is rebound to. -/
theorem sourceHolds_of_sourceShare {C : P} {r : ZMod n}
    (hrows : ∀ row ∈ tables.linked.rows, ∃ Q, LinkedShare env tables row Q)
    (hshare : sourceShare env tables request serverKey = .ok share32)
    (hrebound : ReboundFrom env.linked request.sourceContribution.binding share32 C r) :
    SourceHolds env tables request.sourceContribution.binding
      (C + r • env.linked.curve.generator) := by
  simp only [sourceShare, bind_eq_ok] at hshare
  obtain ⟨source, hsource, stored, hstored, hshare⟩ := hshare
  rcases readActivation_eq_ok hstored with ⟨rfl, -⟩ | ⟨row, hrow, hkey, rfl, -⟩
  · simp only [ok_iff] at hshare
    obtain ⟨_, hfound, linkedSource, rfl, hlinked⟩ := hshare
    rcases readLinked_eq_ok hfound with ⟨hnone, -⟩ | ⟨row, hrow, -, hsome, -⟩
    · cases hnone
    cases hsome
    simp only [linkedSourceRelayerShare, ok_iff] at hlinked
    obtain ⟨_, hactivation, reservation, hselect, ⟨-, -, hthreshold, -⟩, -⟩ := hlinked
    obtain ⟨hstate, rfl⟩ := selectSourcePreservingActiveReservation_eq_ok hselect
    obtain ⟨Q, hlinkedShare⟩ := hrows row hrow
    obtain ⟨share, hholds, -⟩ := hlinkedShare.share reservation (by rw [hstate]; rfl)
    -- The row's threshold key is named by the binding and by the row's own source.
    have hsame : C + r • env.linked.curve.generator = Q := by
      refine env.linked.curve.pointBytes_injective hrebound.key.ne_zero hlinkedShare.key.ne_zero
        (hrebound.key.threshold.unique ?_)
      rw [hthreshold]
      exact hholds.threshold
    rw [hsame]
    refine .device hrow ?_ hlinkedShare.key
    rw [hstate]
    exact hactivation
  · simp only [ok_iff, linkedEcdsaSourcePublicKeys, registrationSourceRelayerShare] at hshare
    obtain ⟨rfl, _, ⟨client, hclient, relayer, -, rfl⟩, _, -, ⟨share, identity⟩, hderive, -, -,
      rfl⟩ := hshare
    obtain rfl := hrebound.client.unique (decodeFixedB64_eq_ok hclient)
    exact .own hrow hsource hkey
      ⟨C, r, _, _, share, identity, hrebound.client, hderive, hrebound.share, rfl⟩

/-! ## Calls -/

theorem LinkedChange.persists (h : LinkedChange env tables tables')
    (hrow : row ∈ tables.linked.rows) :
    ∃ row' ∈ tables'.linked.rows, row'.ciphertext.value.state.materialActivation =
        row.ciphertext.value.state.materialActivation ∧
      row'.ciphertext.value.state.binding = row.ciphertext.value.state.binding := by
  cases h with
  | kept hlinked => exact ⟨row, hlinked ▸ hrow, rfl, rfl⟩
  | reserved hreserves =>
    refine ⟨row, ?_, rfl, rfl⟩
    rw [hreserves.rows]
    exact List.mem_append_left _ hrow
  | @activated reservation serverKey activation old new hactivates =>
    by_cases hold : row = old
    · subst hold
      refine ⟨new, (hactivates.replaces.mem_iff new).mpr (.inr rfl), ?_⟩
      rw [hactivates.value, hactivates.reserved.materialActivation, hactivates.reserved.binding]
      exact ⟨rfl, rfl⟩
    · exact ⟨row, (hactivates.replaces.mem_iff row).mpr (.inl ⟨hrow, hold⟩), rfl, rfl⟩
  | @revoked revokedAtMs old new hrevokes =>
    by_cases hold : row = old
    · subst hold
      refine ⟨new, (hrevokes.replaces.mem_iff new).mpr (.inr rfl), ?_⟩
      rw [hrevokes.value]
      exact ⟨rfl, rfl⟩
    · exact ⟨row, (hrevokes.replaces.mem_iff row).mpr (.inl ⟨hrow, hold⟩), rfl, rfl⟩

variable {call : LinkedCall Admission Context Bundle}
  (hchange : StoreChange env call tables tables')

include hchange in
theorem SourceHolds.step (h : SourceHolds env tables binding Q) :
    SourceHolds env tables' binding Q := by
  cases h with
  | own hrow hsource hkey hshare => exact .own (hchange.kept _ hrow) hsource hkey hshare
  | device hrow hsource hkey =>
    obtain ⟨row', hrow', hactivation, hbinding⟩ := hchange.linked.persists hrow
    exact .device hrow' (hactivation ▸ hsource) (hbinding ▸ hkey)

include hchange in
theorem LinkedShare.step (h : LinkedShare env tables row Q) : LinkedShare env tables' row Q :=
  ⟨h.key, h.source.step hchange, h.share⟩

variable {activation : EcdsaActivationMaterial}

include hchange in
/-- The row of a new reservation holds a share of its source's key. -/
theorem Reserves.linkedShare
    (hrows : ∀ row ∈ tables.linked.rows, ∃ Q, LinkedShare env tables row Q)
    (h : Reserves env tables tables' request serverKey sealSeed share32 state row) :
    ∃ Q, LinkedShare env tables' row Q := by
  obtain ⟨reservation, C, r, d, rfl, hbinding, hrebound, hholds⟩ :=
    holdsShare_of_linkedEcdsaInactiveState h.inactive
  have hsource := sourceHolds_of_sourceShare hrows h.source (hbinding ▸ hrebound)
  rw [← hbinding] at hsource
  refine ⟨C + r • env.linked.curve.generator, ?_⟩
  constructor <;> rw [h.value]
  · exact hrebound.key
  · exact hsource.step hchange
  · rintro _ ⟨⟩
    exact ⟨r + d, hholds, nofun⟩

variable {row' : LinkedRow}

theorem Activates.linkedShare
    (h : Activates env tables tables' reservation serverKey activation row row')
    (hrow : LinkedShare env tables' row Q) : LinkedShare env tables' row' Q := by
  obtain ⟨hkey, hsource, hshare⟩ := hrow
  rw [h.reserved.binding] at hkey hsource
  obtain ⟨share, hholds, -⟩ := hshare reservation h.reserved.unrevoked
  obtain ⟨server, activatedAtMs, hopened⟩ := h.opened
  constructor <;> rw [h.value]
  · exact hkey
  · exact hsource
  · rintro _ ⟨⟩
    refine ⟨share, hholds, ?_⟩
    rintro _ ⟨⟩
    simp only [linkedEcdsaActiveMaterial, ok_iff] at hopened
    obtain ⟨-, active, hselect, _, -, -, _, -, _, -, share32, hopen, -, -, rfl⟩ := hopened
    obtain ⟨hstate, -⟩ := selectSourcePreservingActiveReservation_eq_ok hselect
    cases hstate
    exact hholds.opened hopen

theorem Revokes.linkedShare {revokedAtMs : ℕ}
    (h : Revokes env tables tables' revokedAtMs row row') (hrow : LinkedShare env tables' row Q) :
    LinkedShare env tables' row' Q := by
  constructor <;> rw [h.value]
  · exact hrow.key
  · exact hrow.source
  · exact nofun

include hchange in
theorem StoreChange.linkedShare
    (hrows : ∀ row ∈ tables.linked.rows, ∃ Q, LinkedShare env tables row Q) :
    ∀ row ∈ tables'.linked.rows, ∃ Q, LinkedShare env tables' row Q := by
  have hkept : ∀ row ∈ tables.linked.rows, ∃ Q, LinkedShare env tables' row Q := by
    intro row hrow
    obtain ⟨Q, hshare⟩ := hrows row hrow
    exact ⟨Q, hshare.step hchange⟩
  refine hchange.linked.forall_mem hkept
    (fun hreserves => hreserves.linkedShare hchange hrows) ?_ ?_
  · rintro _ _ _ _ _ hactivates ⟨Q, hshare⟩
    exact ⟨Q, hactivates.linkedShare hshare⟩
  · rintro _ _ _ hrevokes ⟨Q, hshare⟩
    exact ⟨Q, hrevokes.linkedShare hshare⟩

variable {target : MpcMaterialActivationRef}

/-- A successful reservation leaves a row of its target, made for its binding, and the
wallet's own activations as they were. -/
theorem ReserveOutcome.exists_row {response : SourcePreservingReservationResponse}
    (h : ReserveOutcome env tables tables' request serverKey sealSeed target response) :
    tables'.activations = tables.activations ∧ ∃ row ∈ tables'.linked.rows,
      row.ciphertext.value.state.materialActivation = target ∧
      row.ciphertext.value.state.binding = request.sourceContribution.binding := by
  cases h with
  | @answered row reservation htables hrow hkey hreserved hbinding htarget =>
    subst htables
    exact ⟨rfl, row, hrow, hreserved.materialActivation.trans htarget,
      hreserved.binding.trans hbinding⟩
  | @stored share state row hfresh htarget hreserves =>
    refine ⟨hreserves.activations, row, ?_, ?_⟩
    · rw [hreserves.rows]
      exact List.mem_append_right _ (List.mem_singleton_self row)
    · obtain ⟨reservation, rfl, hbinding, -⟩ :=
        linkedEcdsaInactiveState_eq_ok hreserves.inactive
      rw [hreserves.value]
      exact ⟨htarget, hbinding⟩

omit [DecidableEq P] in
theorem linked_eq_of_materialActivation
    (hkeyed : ∀ row ∈ tables.linked.rows, WellKeyed env row) {r s : LinkedRow}
    (hr : r ∈ tables.linked.rows) (hs : s ∈ tables.linked.rows)
    (h : r.ciphertext.value.state.materialActivation =
      s.ciphertext.value.state.materialActivation) : r = s := by
  apply linked_eq_of_recordKey hr hs
  rw [(hkeyed r hr).recordKey, (hkeyed s hs).recordKey, h]

/-! ## Runs -/

variable [DecidableEq Context] [DecidableEq Bundle]

section

variable (env : StoreEnvironment n P Admission Context Bundle)

/-- In every state a run leads to, all rows hold shares of their sources' keys. -/
theorem linkedShare_and_wellKeyed
    (ecdsa : EcdsaTables) (calls : List (LinkedCall Admission Context Bundle × StoreReads)) :
    let tables := stateAfter (answerLinkedCall env) (.ofEcdsa ecdsa) calls
    (∀ row ∈ tables.linked.rows, ∃ Q, LinkedShare env tables row Q) ∧
      ∀ row ∈ tables.linked.rows, WellKeyed env row := by
  induction calls using List.reverseRecOn with
  | nil => simp [stateAfter, LinkedTables.ofEcdsa, Table.empty]
  | append_singleton calls call ih =>
    rw [stateAfter_snoc]
    have hchange := answerLinkedCall_change env
      (stateAfter (answerLinkedCall env) (.ofEcdsa ecdsa) calls) call
    exact ⟨hchange.linkedShare ih.1, hchange.linked.wellKeyed ih.2⟩

theorem persists_run (calls : List (LinkedCall Admission Context Bundle × StoreReads))
    (hrow : row ∈ tables.linked.rows) :
    ∃ row' ∈ (stateAfter (answerLinkedCall env) tables calls).linked.rows,
      row'.ciphertext.value.state.materialActivation =
        row.ciphertext.value.state.materialActivation ∧
      row'.ciphertext.value.state.binding = row.ciphertext.value.state.binding := by
  induction calls generalizing tables row with
  | nil => exact ⟨row, hrow, rfl, rfl⟩
  | cons call calls ih =>
    obtain ⟨next, hnext, hactivation, hbinding⟩ :=
      (answerLinkedCall_change env tables call).linked.persists hrow
    obtain ⟨last, hlast, hactivation', hbinding'⟩ := ih hnext
    exact ⟨last, hlast, hactivation'.trans hactivation, hbinding'.trans hbinding⟩

end

/-- A device was linked from another one in a run: its reservation succeeded when the wallet
had no material of its own under the source's active key. -/
def LinkedFrom (env : StoreEnvironment n P Admission Context Bundle) (ecdsa : EcdsaTables)
    (calls : List (LinkedCall Admission Context Bundle × StoreReads))
    (target source : MpcMaterialActivationRef) : Prop :=
  ∃ before request serverKey sealSeed reads response after,
    calls = before ++ [(.reserve request serverKey sealSeed, reads)] ++ after ∧
    (answerLinkedCall env (stateAfter (answerLinkedCall env) (.ofEcdsa ecdsa) before)
      (.reserve request serverKey sealSeed, reads)).1 = .reserve (.ok response) ∧
    mpcMaterialActivationFromEcdsaRef
      request.sourceContribution.binding.target.activation = .ok target ∧
    mpcMaterialActivationFromEcdsaRef
      request.sourceContribution.binding.source.activation = .ok source ∧
    ∀ row ∈ (stateAfter (answerLinkedCall env) (.ofEcdsa ecdsa) before).activations.rows,
      row.activeKey ≠ activeOutputKey source

variable {ecdsa : EcdsaTables} {calls : List (LinkedCall Admission Context Bundle × StoreReads)}

/-- A device and the one it was linked from have one key, also after further calls. -/
theorem LinkedFrom.exists_rows {source : MpcMaterialActivationRef}
    (h : LinkedFrom env ecdsa calls target source) :
    ∃ row ∈ (stateAfter (answerLinkedCall env) (.ofEcdsa ecdsa) calls).linked.rows,
      ∃ row₁ ∈ (stateAfter (answerLinkedCall env) (.ofEcdsa ecdsa) calls).linked.rows,
        row.ciphertext.value.state.materialActivation = target ∧
        row₁.ciphertext.value.state.materialActivation = source ∧
        ∃ Q, KeyOf env.linked row.ciphertext.value.state.binding Q ∧
          KeyOf env.linked row₁.ciphertext.value.state.binding Q := by
  obtain ⟨before, request, serverKey, sealSeed, reads, response, after, rfl, hanswer,
    htargetRef, hsourceRef, hnotOwn⟩ := h
  obtain ⟨target', htarget', houtcome⟩ := reserve_of_answer hanswer
  cases htargetRef.symm.trans htarget'
  obtain ⟨hactivations, row, hrow, htarget, hbinding⟩ := houtcome.exists_row
  have hshares := (linkedShare_and_wellKeyed env ecdsa
    (before ++ [(.reserve request serverKey sealSeed, reads)])).1
  rw [stateAfter_append, stateAfter_snoc]
  rw [stateAfter_snoc] at hshares
  -- Right after the reservation the source is a device, since it is not the wallet's own.
  obtain ⟨Q, hshare⟩ := hshares row hrow
  have hsourceHolds := hshare.source
  rw [hbinding] at hsourceHolds
  cases hsourceHolds with
  | own hown hsource hkey _ =>
    cases hsourceRef.symm.trans hsource
    rw [hactivations] at hown
    exact absurd hkey (hnotOwn _ hown)
  | device hdevice hsource hkey =>
    cases hsourceRef.symm.trans hsource
    obtain ⟨last, hlast, hlastTarget, hlastBinding⟩ := persists_run env after hrow
    obtain ⟨last₁, hlast₁, hlastSource, hlastBinding₁⟩ := persists_run env after hdevice
    exact ⟨last, hlast, last₁, hlast₁, hlastTarget.trans htarget, hlastSource, Q,
      hlastBinding ▸ hshare.key, hlastBinding₁ ▸ hkey⟩

/-- A device reached by links from another one has its key. -/
theorem sameKey_of_chain {m m₀ : MpcMaterialActivationRef}
    (h : Relation.ReflTransGen (LinkedFrom env ecdsa calls) m m₀)
    (hrow : row ∈ (stateAfter (answerLinkedCall env) (.ofEcdsa ecdsa) calls).linked.rows)
    (hm : row.ciphertext.value.state.materialActivation = m) :
    ∃ row₀ ∈ (stateAfter (answerLinkedCall env) (.ofEcdsa ecdsa) calls).linked.rows,
      row₀.ciphertext.value.state.materialActivation = m₀ ∧
      ∃ Q, KeyOf env.linked row.ciphertext.value.state.binding Q ∧
        KeyOf env.linked row₀.ciphertext.value.state.binding Q := by
  induction h using Relation.ReflTransGen.head_induction_on generalizing row with
  | refl =>
    obtain ⟨Q, hshare⟩ := (linkedShare_and_wellKeyed env ecdsa calls).1 row hrow
    exact ⟨row, hrow, hm, Q, hshare.key, hshare.key⟩
  | head hlink _ ih =>
    obtain ⟨found, hfound, row₁, hrow₁, hmfound, hm₁, Q, hkey, hkey₁⟩ := hlink.exists_rows
    obtain rfl := linked_eq_of_materialActivation
      (linkedShare_and_wellKeyed env ecdsa calls).2 hrow hfound (hm.trans hmfound.symm)
    obtain ⟨row₀, hrow₀, hm₀, Q', hkey₁', hkey₀⟩ := ih hrow₁ hm₁
    obtain rfl := hkey₁.unique hkey₁'
    exact ⟨row₀, hrow₀, hm₀, Q, hkey, hkey₀⟩

/-- After any calls every linked device that is not revoked holds a valid share of its
source's key, which is also the material it signs with, and all devices reached by links
from one device have the same threshold key and address. -/
theorem linked_devices_share_one_key (env : StoreEnvironment n P Admission Context Bundle)
    (ecdsa : EcdsaTables) (calls : List (LinkedCall Admission Context Bundle × StoreReads)) :
    let tables := stateAfter (answerLinkedCall env) (.ofEcdsa ecdsa) calls
    (∀ row ∈ tables.linked.rows, ∃ Q, LinkedShare env tables row Q) ∧
      ∀ m₀ m m', Relation.ReflTransGen (LinkedFrom env ecdsa calls) m m₀ →
        Relation.ReflTransGen (LinkedFrom env ecdsa calls) m' m₀ →
        ∀ row ∈ tables.linked.rows, row.ciphertext.value.state.materialActivation = m →
        ∀ row' ∈ tables.linked.rows, row'.ciphertext.value.state.materialActivation = m' →
          ∃ Q, LinkedShare env tables row Q ∧ LinkedShare env tables row' Q := by
  intro tables
  obtain ⟨hshares, hkeyed⟩ := linkedShare_and_wellKeyed env ecdsa calls
  refine ⟨hshares, fun m₀ m m' hchain hchain' row hrow hm row' hrow' hm' => ?_⟩
  obtain ⟨row₀, hrow₀, hm₀, Q, hkey, hkey₀⟩ := sameKey_of_chain hchain hrow hm
  obtain ⟨row₀', hrow₀', hm₀', Q', hkey', hkey₀'⟩ := sameKey_of_chain hchain' hrow' hm'
  obtain rfl := linked_eq_of_materialActivation hkeyed hrow₀ hrow₀' (hm₀.trans hm₀'.symm)
  obtain rfl := hkey₀.unique hkey₀'
  obtain ⟨R, hshare⟩ := hshares row hrow
  obtain ⟨R', hshare'⟩ := hshares row' hrow'
  obtain rfl := hkey.unique hshare.key
  obtain rfl := hkey'.unique hshare'.key
  exact ⟨Q, hshare, hshare'⟩

/-- Calls that activate nothing of the wallet's own leave its activations as they are. -/
theorem mem_activations_of_not_own (calls : List (LinkedCall Admission Context Bundle × StoreReads))
    (hcalls : ∀ call ∈ calls, ∀ m, ¬ call.1.ActivatesOwn m) {row : ActivationRow Context Bundle}
    (hrow : row ∈ (stateAfter (answerLinkedCall env) tables calls).activations.rows) :
    row ∈ tables.activations.rows := by
  induction calls generalizing tables with
  | nil => exact hrow
  | cons call calls ih =>
    have hlater := ih (fun call hmem => hcalls call (List.mem_cons_of_mem _ hmem)) hrow
    exact ((answerLinkedCall_change env tables call).added row hlater).resolve_right
      (hcalls call List.mem_cons_self _)

end Shares

/-! ## The small store -/

/-- The second device of the small store is linked from the first. -/
theorem linkSecond_linkedFrom :
    LinkedFrom smallStore ⟨Table.empty _, Table.empty _⟩ linkSecond (smallMaterial "2")
      (smallMaterial "1") := by
  have hanswer : ∃ response, (answerLinkedCall smallStore
      (stateAfter (answerLinkedCall smallStore) smallStart (linkSecond.take 3))
        (.reserve (smallLink "1" 5 2 "2" 6) smallKey (Bytes.zeros 32), smallReads)).1 =
          .reserve (.ok response) := by
    apply exists_of_reserve_isOk
    apply answer_of_answers (p := fun answer : LinkedAnswer => answer.isOk = true)
      [(.deactivate revokeFirst 7, smallReads), (linkAgain, smallReads)]
    exact small_run_succeeds
  obtain ⟨response, hresponse⟩ := hanswer
  refine ⟨linkSecond.take 3, smallLink "1" 5 2 "2" 6, smallKey, Bytes.zeros 32, smallReads,
    response, [], rfl, hresponse, by decide +kernel, by decide +kernel, fun row hrow => ?_⟩
  -- The wallet's own material is activated by the first call only.
  have hfirst : (stateAfter (answerLinkedCall smallStore) smallStart
      (linkSecond.take 1)).activations.rows.map ActivationRow.activeKey =
        [activeOutputKey (smallMaterial "0")] := by
    decide +kernel
  have hsplit : linkSecond.take 3 = linkSecond.take 1 ++ (linkSecond.take 3).drop 1 := rfl
  have hlater : ∀ call ∈ (linkSecond.take 3).drop 1, ∀ m, ¬ call.1.ActivatesOwn m := by
    simp [linkSecond, LinkedCall.ActivatesOwn]
  rw [hsplit] at hrow
  have hmem := mem_activations_of_not_own _ hlater (stateAfter_append _ _ _ _ ▸ hrow)
  have hkey : row.activeKey ∈ [activeOutputKey (smallMaterial "0")] :=
    hfirst ▸ List.mem_map_of_mem hmem
  rw [List.mem_singleton] at hkey
  rw [hkey]
  decide +kernel

/-- The two devices of the small store have one key. -/
theorem linked_devices_share_one_key_small : ∃ row row' : LinkedRow,
      row.ciphertext.value.state.materialActivation = smallMaterial "2" ∧
      row'.ciphertext.value.state.materialActivation = smallMaterial "1" ∧
      ∃ Q, LinkedShare smallStore
          (stateAfter (answerLinkedCall smallStore) smallStart linkSecond) row Q ∧
        LinkedShare smallStore
          (stateAfter (answerLinkedCall smallStore) smallStart linkSecond) row' Q := by
  obtain ⟨row, hrow, row', hrow', hm, hm', -⟩ := linkSecond_linkedFrom.exists_rows
  exact ⟨row, row', hm, hm', (linked_devices_share_one_key smallStore
    ⟨Table.empty _, Table.empty _⟩ linkSecond).2 _ _ _ (.single linkSecond_linkedFrom) .refl
    row hrow hm row' hrow' hm'⟩

end SeamsWallet.LinkedEcdsa
