import SeamsWallet.ThresholdPrf.Wire

/-!
# The Ed25519 roots of the two Derivers

Each Deriver obtains one PRF output of the joined root, under its own purpose. It
keeps its own partial of that output and sends the other Deriver a partial of the
other's output with a proof. On completion it accepts the peer's partial only under
the commitment it expects of the peer's current share.

The outputs are the PRF of `2a - b`, so they survive any number of refreshes, and a
bundle made from a share with another commitment is refused.
-/

namespace SeamsWallet.ThresholdPrf

open Library TwoPartyDeriverRole SigningRootShareCommitment

variable {q : ℕ} {G : Type} [AddCommGroup G] [Module (ZMod q) G]

/-! ## Bundles -/

def encodeRoleTargetBundle (R : Ristretto255 q G) (bundle : PrfPartialProofBundle q G) :
    Bytes 164 :=
  ((bundle.partialPrf.toWire R).append (bundle.commitment.toBytes R)).append
    bundle.proof.toBytes

def decodeRoleTargetBundle (R : Ristretto255 q G) (bytes : Bytes 164) :
    ThresholdPrfResult (PrfPartialProofBundle q G) := do
  let partialPrf ← PrfPartial.ofWire R (bytes.slice 0 66 (by decide))
  let commitment ← fromBytes R (bytes.slice 66 34 (by decide))
  let proof ← PrfDleqProof.fromBytes q (bytes.slice 100 64 (by decide))
  return ⟨partialPrf, commitment, proof⟩

theorem decode_encodeRoleTargetBundle [NeZero q] (R : Ristretto255 q G)
    (bundle : PrfPartialProofBundle q G) :
    decodeRoleTargetBundle R (encodeRoleTargetBundle R bundle) = .ok bundle := by
  have hpartial : (encodeRoleTargetBundle R bundle).slice 0 66 (by decide) =
      bundle.partialPrf.toWire R := by
    rw [encodeRoleTargetBundle, Bytes.slice_append_left _ _ (by decide),
      Bytes.slice_append_left _ _ (by decide), Bytes.slice_all]
  have hcommitment : (encodeRoleTargetBundle R bundle).slice 66 34 (by decide) =
      bundle.commitment.toBytes R := by
    rw [encodeRoleTargetBundle, Bytes.slice_append_left _ _ (by decide), Bytes.slice_append_right]
  have hproof : (encodeRoleTargetBundle R bundle).slice 100 64 (by decide) =
      bundle.proof.toBytes := by
    rw [encodeRoleTargetBundle, Bytes.slice_append_right]
  rw [decodeRoleTargetBundle, hpartial, hcommitment, hproof, PrfPartial.ofWire_toWire, ok_bind,
    fromBytes_toBytes, ok_bind,
    PrfDleqProof.fromBytes_toBytes R.order_le]
  rfl

/-- The proof bundle of one source for the other role's target. -/
structure TargetProofBundleV1 (source : TwoPartyDeriverRole) where
  bytes : Bytes 164

abbrev Ed25519DeriverAToBTargetProofBundleV1 : Type := TargetProofBundleV1 deriverA
abbrev Ed25519DeriverBToATargetProofBundleV1 : Type := TargetProofBundleV1 deriverB

/-- Parses an opened plaintext; any other source is refused. -/
def TargetProofBundleV1.fromSlice (R : Ristretto255 q G) (source : TwoPartyDeriverRole)
    (bytes : List UInt8) : ThresholdPrfResult (TargetProofBundleV1 source) := do
  let wire ← okOr (Bytes.ofList? 164 bytes) .invalidPartialEncoding
  let bundle ← decodeRoleTargetBundle R wire
  ensure (bundle.partialPrf.id = source.shareId ∧ bundle.commitment.id = source.shareId)
    .invalidShareId
  return ⟨wire⟩

/-! ## Preparation -/

/-- A prepared target of one role: its own partial, the context and the commitment it
expects of the peer. -/
structure PreparedTargetV1 (G : Type) (role : TwoPartyDeriverRole) where
  localPartial : Bytes 66
  context : PrfContext
  expectedPeerCommitment : SigningRootShareCommitment G

abbrev PreparedEd25519DeriverATargetV1 (G : Type) : Type := PreparedTargetV1 G deriverA
abbrev PreparedEd25519DeriverBTargetV1 (G : Type) : Type := PreparedTargetV1 G deriverB

def roleTargetContext (purpose : PrfPurpose) (stableContextBytes : List UInt8) : PrfContext :=
  ⟨.ristretto255Sha512, purpose, stableContextBytes⟩

/-- The purpose of a role's own target. -/
def contributionRoot : TwoPartyDeriverRole → PrfPurpose
  | deriverA => .ed25519DeriverAContributionRoot
  | deriverB => .ed25519DeriverBContributionRoot

def prepareTargetV1 (R : Ristretto255 q G) (role : TwoPartyDeriverRole)
    (share : SigningRootShare q) (expectedPeerCommitment : SigningRootShareCommitment G)
    (stableContextBytes : List UInt8) (blind : {scalar : ZMod q // scalar ≠ 0}) :
    ThresholdPrfResult (PreparedTargetV1 G role × TargetProofBundleV1 role) := do
  ensure (share.id = role.shareId) .invalidShareId
  ensure (expectedPeerCommitment.id = role.peer.shareId) .invalidShareId
  let localContext := roleTargetContext (contributionRoot role) stableContextBytes
  let outgoingContext := roleTargetContext (contributionRoot role.peer) stableContextBytes
  let localPartial ← evaluatePartial R share localContext
  let outgoing ← evaluatePartialWithDleqProof R share outgoingContext blind
  return (⟨localPartial.toWire R, localContext, expectedPeerCommitment⟩,
    ⟨encodeRoleTargetBundle R outgoing⟩)

def prepareEd25519DeriverATargetV1 (R : Ristretto255 q G) (share : SigningRootShare q)
    (expectedDeriverBCommitment : SigningRootShareCommitment G) (stableContextBytes : List UInt8)
    (blind : {scalar : ZMod q // scalar ≠ 0}) :
    ThresholdPrfResult
      (PreparedEd25519DeriverATargetV1 G × Ed25519DeriverAToBTargetProofBundleV1) :=
  prepareTargetV1 R deriverA share expectedDeriverBCommitment stableContextBytes blind

def prepareEd25519DeriverBTargetV1 (R : Ristretto255 q G) (share : SigningRootShare q)
    (expectedDeriverACommitment : SigningRootShareCommitment G) (stableContextBytes : List UInt8)
    (blind : {scalar : ZMod q // scalar ≠ 0}) :
    ThresholdPrfResult
      (PreparedEd25519DeriverBTargetV1 G × Ed25519DeriverBToATargetProofBundleV1) :=
  prepareTargetV1 R deriverB share expectedDeriverACommitment stableContextBytes blind

/-! ## Completion -/

section Completion

variable [Fact q.Prime] [DecidableEq G]

def completeRoleTarget (R : Ristretto255 q G) (localPartialWire : Bytes 66)
    (context : PrfContext) (expectedPeerCommitment : SigningRootShareCommitment G)
    (incoming : Bytes 164) (expectedPeerShareId : ThresholdShareId) :
    ThresholdPrfResult (Bytes 32) := do
  let peer ← decodeRoleTargetBundle R incoming
  ensure (peer.partialPrf.id = expectedPeerShareId) .invalidShareId
  -- The context has no epoch: this equality alone keeps an old bundle out.
  ensure (peer.commitment = expectedPeerCommitment) .unexpectedPeerCommitment
  verifyPartialDleqProof R peer.commitment peer.partialPrf context peer.proof
  let localPartial ← PrfPartial.ofWire R localPartialWire
  let policy ← ThresholdPolicy.fromU16s 2 2
  let partials ← fromPartials policy [localPartial, peer.partialPrf]
  combinePartials R partials context

def completeEd25519DeriverATargetV1 (R : Ristretto255 q G)
    (prepared : PreparedEd25519DeriverATargetV1 G)
    (incoming : Ed25519DeriverBToATargetProofBundleV1) : ThresholdPrfResult (Bytes 32) :=
  completeRoleTarget R prepared.localPartial prepared.context prepared.expectedPeerCommitment
    incoming.bytes deriverB.shareId

def completeEd25519DeriverBTargetV1 (R : Ristretto255 q G)
    (prepared : PreparedEd25519DeriverBTargetV1 G)
    (incoming : Ed25519DeriverAToBTargetProofBundleV1) : ThresholdPrfResult (Bytes 32) :=
  completeRoleTarget R prepared.localPartial prepared.context prepared.expectedPeerCommitment
    incoming.bytes deriverA.shareId

end Completion

/-! ## What a preparation gives -/

variable {R : Ristretto255 q G} {role : TwoPartyDeriverRole} {share : SigningRootShare q}
  {expected : SigningRootShareCommitment G} {stable : List UInt8}

theorem prepareTargetV1_eq_ok {blind : {scalar : ZMod q // scalar ≠ 0}}
    {prepared : PreparedTargetV1 G role} {bundle : TargetProofBundleV1 role}
    (h : prepareTargetV1 R role share expected stable blind = .ok (prepared, bundle)) :
    share.id = role.shareId ∧ stable.length < 256 ^ 4 ∧ (∃ localPartial, evaluatePartial R share
          (roleTargetContext (contributionRoot role) stable) = .ok localPartial ∧
        prepared = ⟨localPartial.toWire R, roleTargetContext (contributionRoot role) stable,
          expected⟩) ∧
      ∃ outgoing, BundleOf R .legacy (roleTargetContext (contributionRoot role.peer) stable)
          share outgoing ∧
        bundle.bytes = encodeRoleTargetBundle R outgoing := by
  simp only [prepareTargetV1, ok_iff, Prod.mk.injEq] at h
  obtain ⟨hid, -, localPartial, hlocal, outgoing, houtgoing, rfl, rfl⟩ := h
  have hlength : stable.length < 256 ^ 4 := by
    obtain ⟨point, hpoint, -⟩ := bind_eq_ok.mp hlocal
    exact length_lt_of_hashToGroup hpoint
  obtain ⟨honest, hhonest, hof⟩ : ∃ honest, evaluatePartialWithBinding R .legacy share
        (roleTargetContext (contributionRoot role.peer) stable) blind = .ok honest ∧
      BundleOf R .legacy (roleTargetContext (contributionRoot role.peer) stable) share honest :=
    exists_evaluatePartialWithBinding R .legacy share hlength blind
  obtain rfl := Except.ok.inj (hhonest.symm.trans houtgoing)
  exact ⟨hid, hlength, ⟨localPartial, hlocal, rfl⟩, honest, hof, rfl⟩

theorem exists_prepareTargetV1 (R : Ristretto255 q G)
    (blind : {scalar : ZMod q // scalar ≠ 0}) (hid : share.id = role.shareId)
    (hexpected : expected.id = role.peer.shareId) (hlength : stable.length < 256 ^ 4) :
    ∃ prepared bundle, prepareTargetV1 R role share expected stable blind =
      .ok (prepared, bundle) := by
  have hcontext (purpose : PrfPurpose) :
      (roleTargetContext purpose stable).contextBytes.length < 256 ^ 4 := hlength
  obtain ⟨point, hpoint⟩ := exists_hashToGroup R (hcontext (contributionRoot role))
  obtain ⟨tag, htag⟩ := exists_partialContextTag R (hcontext (contributionRoot role))
  obtain ⟨outgoing, houtgoing, -⟩ := exists_evaluatePartialWithBinding R .legacy share
    (hcontext (contributionRoot role.peer)) blind
  rw [prepareTargetV1, ensure_of hid, ok_bind, ensure_of hexpected, ok_bind]
  dsimp only
  rw [evaluatePartial_of_eq hpoint htag, ok_bind, evaluatePartialWithDleqProof, houtgoing]
  exact ⟨_, _, rfl⟩

section Completion

variable [Fact q.Prime] [DecidableEq G] {R : Ristretto255 q G} {root : ZMod q}

/-- A role completes with the peer's bundle to the PRF of the root their shares share. -/
theorem completeRoleTarget_of_sharing {context : PrfContext}
    {share peerShare : SigningRootShare q} {localPartial : PrfPartial G}
    {peer : PrfPartialProofBundle q G} {coefficient : ZMod q}
    (hlocal : evaluatePartial R share context = .ok localPartial)
    (hpeer : BundleOf R .legacy context peerShare peer) (hne : share.id ≠ peerShare.id)
    (hid : share.id.get ≤ 2) (hpeerId : peerShare.id.get ≤ 2)
    (hshare : share = evalShare root [coefficient] share.id)
    (hpeerShare : peerShare = evalShare root [coefficient] peerShare.id) :
    completeRoleTarget R (localPartial.toWire R) context (.fromShare R peerShare)
      (encodeRoleTargetBundle R peer) peerShare.id = evaluateScalar R root context := by
  have hlocalId := evaluatePartial_id hlocal
  obtain ⟨partials, hpartials⟩ : ∃ partials,
      fromPartials ⟨2, 2, by decide, by decide, by decide⟩ [localPartial, peer.partialPrf] =
        .ok partials := by
    refine exists_validateThresholdSetValues.mpr ⟨rfl, ?_, ?_⟩
    · intro partialPrf hmem
      rcases List.mem_pair.mp hmem with rfl | rfl
      · exact decide_eq_true (hlocalId ▸ hid)
      · exact decide_eq_true (hpeer.id ▸ hpeerId)
    · rw [List.map_cons, List.map_cons, List.map_nil, hlocalId, hpeer.id]
      simpa using hne
  have hvalues := (validateThresholdSetValues_eq_ok hpartials).2
  rw [completeRoleTarget, decode_encodeRoleTargetBundle, ok_bind, ensure_of hpeer.id, ok_bind,
    ensure_of hpeer.commitment, ok_bind, verifyPartialDleqProof, hpeer.verifies, ok_bind,
    PrfPartial.ofWire_toWire, ok_bind]
  change (fromPartials ⟨2, 2, _, _, _⟩ [localPartial, peer.partialPrf] >>= _) = _
  rw [hpartials, ok_bind]
  have hlength : partials.values.length = [coefficient].length + 1 := by
    rw [hvalues]
    rfl
  refine combinePartials_of_sharing R hlength fun partialPrf hmem => ?_
  rw [hvalues] at hmem
  rcases List.mem_pair.mp hmem with rfl | rfl
  · rw [hlocalId, ← hshare]
    exact hlocal
  · rw [hpeer.id, ← hpeerShare]
    exact hpeer.partialPrf

/-! ## Over any number of refreshes -/

/-- One successful refresh of the two shares: contributions that two coefficient
commitments accept, applied by both roles. -/
def Refreshes (R : Ristretto255 q G) (shares next : SigningRootShare q × SigningRootShare q) :
    Prop :=
  ∃ (coefficientA coefficientB : RootShareRefreshCoefficientCommitment G)
    (firstA secondA firstB secondB : VerifiedRootShareRefreshContribution q),
    coefficientA.source = deriverA ∧ coefficientB.source = deriverB ∧
      (∀ contribution ∈ [firstA, secondA, firstB, secondB],
        Accepted R coefficientA coefficientB contribution) ∧
      applyTwoPartyRootShareRefresh shares.1 firstA secondA = .ok next.1 ∧
      applyTwoPartyRootShareRefresh shares.2 firstB secondB = .ok next.2

/-- The shares of one epoch: their identifiers, and the root they share. -/
structure SharesRoot (root : ZMod q) (shares : SigningRootShare q × SigningRootShare q) :
    Prop where
  deriverA_id : shares.1.id = deriverA.shareId
  deriverB_id : shares.2.id = deriverB.shareId
  root_eq : 2 * shares.1.value - shares.2.value = root

variable {shares : SigningRootShare q × SigningRootShare q}

theorem SharesRoot.refreshes {next : SigningRootShare q × SigningRootShare q}
    (h : SharesRoot root shares) (hstep : Refreshes R shares next) : SharesRoot root next := by
  obtain ⟨coefficientA, coefficientB, firstA, secondA, firstB, secondB, hA, hB, haccepted,
    hnextA, hnextB⟩ := hstep
  simp only [List.forall_mem_cons, List.not_mem_nil, false_imp_iff, implies_true,
    and_true] at haccepted
  obtain ⟨hfirstA, hsecondA, hfirstB, hsecondB⟩ := haccepted
  refine ⟨?_, ?_, ?_⟩
  · exact (apply_smul hA hB hfirstA hsecondA h.deriverA_id hnextA).1.trans h.deriverA_id
  · exact (apply_smul hA hB hfirstB hsecondB h.deriverB_id hnextB).1.trans h.deriverB_id
  · rw [root_of_apply hA hB hfirstA hsecondA hfirstB hsecondB h.deriverA_id h.deriverB_id
      hnextA hnextB, h.root_eq]

theorem SharesRoot.refreshed {later : SigningRootShare q × SigningRootShare q}
    (h : SharesRoot root shares) (hrun : Relation.ReflTransGen (Refreshes R) shares later) :
    SharesRoot root later := by
  induction hrun with
  | refl => exact h
  | tail _ hstep ih => exact ih.refreshes hstep

/-- Two shares are the sharing of `2a - b` with coefficient `b - a`. -/
theorem SharesRoot.evalShare_eq (h : SharesRoot root shares) :
    shares.1 = evalShare root [shares.2.value - shares.1.value] shares.1.id ∧
      shares.2 = evalShare root [shares.2.value - shares.1.value] shares.2.id := by
  obtain ⟨⟨idA, a⟩, ⟨idB, b⟩⟩ := shares
  obtain ⟨rfl, rfl, rfl⟩ := h
  constructor
  · have hvalue : a = 2 * a - b + (b - a) * deriverA.shareId.scalar q := by
      rw [deriverA_scalar]
      ring
    exact congrArg (SigningRootShare.mk deriverA.shareId) hvalue
  · have hvalue : b = 2 * a - b + (b - a) * deriverB.shareId.scalar q := by
      rw [deriverB_scalar]
      ring
    exact congrArg (SigningRootShare.mk deriverB.shareId) hvalue

/-- After any number of refreshes, both roles complete with bundles of one epoch to the
PRF of the first epoch's `2a - b` under their purposes, and refuse every bundle of a share
with another commitment than the expected one. -/
theorem role_targets_survive_refresh (R : Ristretto255 q G)
    (shares later : SigningRootShare q × SigningRootShare q)
    (hidA : shares.1.id = deriverA.shareId) (hidB : shares.2.id = deriverB.shareId)
    (hrun : Relation.ReflTransGen (Refreshes R) shares later) (stable : List UInt8)
    (blindA blindB : {scalar : ZMod q // scalar ≠ 0})
    (preparedA : PreparedEd25519DeriverATargetV1 G)
    (preparedB : PreparedEd25519DeriverBTargetV1 G)
    (aToB : Ed25519DeriverAToBTargetProofBundleV1)
    (bToA : Ed25519DeriverBToATargetProofBundleV1)
    (hA : prepareEd25519DeriverATargetV1 R later.1 (.fromShare R later.2) stable blindA =
      .ok (preparedA, aToB))
    (hB : prepareEd25519DeriverBTargetV1 R later.2 (.fromShare R later.1) stable blindB =
      .ok (preparedB, bToA)) :
    (∃ rootA rootB, completeEd25519DeriverATargetV1 R preparedA bToA = .ok rootA ∧
      completeEd25519DeriverBTargetV1 R preparedB aToB = .ok rootB ∧
      evaluateScalar R (2 * shares.1.value - shares.2.value)
        (roleTargetContext .ed25519DeriverAContributionRoot stable) = .ok rootA ∧
      evaluateScalar R (2 * shares.1.value - shares.2.value)
        (roleTargetContext .ed25519DeriverBContributionRoot stable) = .ok rootB) ∧
    (∀ stale expected staleStable blind prepared bundle,
      prepareEd25519DeriverBTargetV1 R stale expected staleStable blind = .ok (prepared, bundle) →
      fromShare R stale ≠ .fromShare R later.2 →
      completeEd25519DeriverATargetV1 R preparedA bundle = .error .unexpectedPeerCommitment) ∧
    ∀ stale expected staleStable blind prepared bundle,
      prepareEd25519DeriverATargetV1 R stale expected staleStable blind = .ok (prepared, bundle) →
      fromShare R stale ≠ .fromShare R later.1 →
      completeEd25519DeriverBTargetV1 R preparedB bundle = .error .unexpectedPeerCommitment := by
  have hroot : SharesRoot (2 * shares.1.value - shares.2.value) later :=
    SharesRoot.refreshed ⟨hidA, hidB, rfl⟩ hrun
  obtain ⟨hlaterA, hlaterB⟩ := hroot.evalShare_eq
  obtain ⟨-, hlength, ⟨localA, hlocalA, rfl⟩, outgoingA, hofA, haToB⟩ := prepareTargetV1_eq_ok hA
  obtain ⟨-, -, ⟨localB, hlocalB, rfl⟩, outgoingB, hofB, hbToA⟩ := prepareTargetV1_eq_ok hB
  have hne : later.1.id ≠ later.2.id := by
    rw [hroot.deriverA_id, hroot.deriverB_id]
    decide
  have hleA : later.1.id.get ≤ 2 := by
    rw [hroot.deriverA_id]
    decide
  have hleB : later.2.id.get ≤ 2 := by
    rw [hroot.deriverB_id]
    decide
  have hcompleteA := completeRoleTarget_of_sharing hlocalA hofB hne hleA hleB hlaterA hlaterB
  have hcompleteB := completeRoleTarget_of_sharing hlocalB hofA hne.symm hleB hleA hlaterB hlaterA
  have hexists (role : TwoPartyDeriverRole) : ∃ root,
      evaluateScalar R (2 * shares.1.value - shares.2.value)
        (roleTargetContext (contributionRoot role) stable) = .ok root := by
    obtain ⟨point, hpoint⟩ : ∃ point, hashToGroup R
        (roleTargetContext (contributionRoot role) stable) = .ok point :=
      exists_hashToGroup R hlength
    rw [evaluateScalar, hpoint, ok_bind]
    exact exists_outputFromPoint R _ hlength
  rw [hroot.deriverB_id, ← hbToA] at hcompleteA
  rw [hroot.deriverA_id, ← haToB] at hcompleteB
  refine ⟨?_, ?_, ?_⟩
  · obtain ⟨rootA, hrootA⟩ := hexists deriverA
    obtain ⟨rootB, hrootB⟩ := hexists deriverB
    exact ⟨rootA, rootB, hcompleteA.trans hrootA, hcompleteB.trans hrootB, hrootA, hrootB⟩
  all_goals
    intro stale expected staleStable blind prepared bundle hprepare hstale
    obtain ⟨hid, -, -, outgoing, hof, hbytes⟩ := prepareTargetV1_eq_ok hprepare
    have hrefused : ∀ wire context commitment, fromShare R stale ≠ commitment →
        completeRoleTarget R wire context commitment (encodeRoleTargetBundle R outgoing) stale.id =
          .error .unexpectedPeerCommitment := by
      intro wire context commitment hne
      rw [completeRoleTarget, decode_encodeRoleTargetBundle, ok_bind, ensure_of hof.id, ok_bind,
        hof.commitment, ensure_of_not hne]
      rfl
    rw [hid, ← hbytes] at hrefused
    exact hrefused _ _ _ hstale

end Completion

/-- One refresh with unit coefficients takes the shares 5 and 4 to 7 and 8. -/
theorem role_targets_survive_refresh_unit : ∃ preparedA bToA rootA,
      completeEd25519DeriverATargetV1 additiveRistretto preparedA bToA = .ok rootA ∧
      evaluateScalar additiveRistretto (2 * 5 - 4)
        (roleTargetContext .ed25519DeriverAContributionRoot [1]) = .ok rootA := by
  have hstep : Refreshes additiveRistretto
      (shareNumber 1 (by decide) 5, shareNumber 2 (by decide) 4)
      (shareNumber 1 (by decide) 7, shareNumber 2 (by decide) 8) := by
    refine ⟨(unitCoefficient deriverA).commitment additiveRistretto,
      (unitCoefficient deriverB).commitment additiveRistretto, ⟨deriverA, deriverA, 1⟩,
      ⟨deriverB, deriverA, 1⟩, ⟨deriverA, deriverB, 2⟩, ⟨deriverB, deriverB, 2⟩, rfl, rfl, ?_,
      by decide +kernel, by decide +kernel⟩
    simp only [List.forall_mem_cons, List.not_mem_nil, false_imp_iff, implies_true, and_true]
    exact ⟨accepted_unitCoefficient deriverA deriverA, accepted_unitCoefficient deriverB deriverA,
      accepted_unitCoefficient deriverA deriverB, accepted_unitCoefficient deriverB deriverB⟩
  have hshort : ([1] : List UInt8).length < 256 ^ 4 := by decide
  obtain ⟨preparedA, aToB, hA⟩ : ∃ preparedA aToB, prepareEd25519DeriverATargetV1
      additiveRistretto (shareNumber 1 (by decide) 7)
      (.fromShare additiveRistretto (shareNumber 2 (by decide) 8)) [1] ⟨1, one_ne_zero⟩ =
        .ok (preparedA, aToB) :=
    exists_prepareTargetV1 additiveRistretto _ rfl rfl hshort
  obtain ⟨preparedB, bToA, hB⟩ : ∃ preparedB bToA, prepareEd25519DeriverBTargetV1
      additiveRistretto (shareNumber 2 (by decide) 8)
      (.fromShare additiveRistretto (shareNumber 1 (by decide) 7)) [1] ⟨1, one_ne_zero⟩ =
        .ok (preparedB, bToA) :=
    exists_prepareTargetV1 additiveRistretto _ rfl rfl hshort
  obtain ⟨⟨rootA, rootB, hrootA, -, houtput, -⟩, -⟩ := role_targets_survive_refresh
    additiveRistretto _ _ rfl rfl (.single hstep) [1] ⟨1, one_ne_zero⟩ ⟨1, one_ne_zero⟩
    preparedA preparedB aToB bToA hA hB
  exact ⟨preparedA, bToA, rootA, hrootA, houtput⟩

end SeamsWallet.ThresholdPrf
