import SeamsWallet.ThresholdPrf.Client

/-!
# The browser and the servers compute one PRF

On the same bytes the client's functions accept exactly what the threshold-PRF crate
accepts, and return the same output, as long as the context fits its 32-bit length
field. A longer context is refused by the crate, while the client hashes it behind a
truncated length.
-/

namespace SeamsWallet.ThresholdPrf

namespace Client

open Library Edwards25519 ThresholdShareId

variable {q : ℕ} {G : Type} [AddCommGroup G] [Module (ZMod q) G]

/-! ## The servers on the client's bytes -/

def serverBundle (R : Ristretto255 q G) (bundle : EcdsaPrfPublicProofBundleV1) :
    ThresholdPrfResult (PrfPartialProofBundle q G) := do
  let partialPrf ← PrfPartial.ofWire R bundle.partialWire
  let commitment ← SigningRootShareCommitment.fromBytes R bundle.commitmentWire
  let proof ← PrfDleqProof.fromBytes q bundle.proofWire
  return ⟨partialPrf, commitment, proof⟩

/-- The crate's parsers and its verified combination in the two-party set. -/
def combineServerBundles [Fact q.Prime] (R : Ristretto255 q G) (proofBinding : DleqProofBinding)
    (context : PrfContext) (bundleA bundleB : EcdsaPrfPublicProofBundleV1) :
    ThresholdPrfResult (Bytes 32) := do
  let a ← serverBundle R bundleA
  let b ← serverBundle R bundleB
  let policy ← ThresholdPolicy.fromU16s 2 2
  let set ← fromProofBundles policy [a, b]
  match proofBinding with
  | .legacy => combineVerifiedPartials R set context
  | .digest digest => combineVerifiedPartialsBoundToDigest R set context digest

def bindingOf : Option (Bytes 32) → DleqProofBinding
  | none => .legacy
  | some digest => .digest digest

/-! ## Transcripts -/

theorem fromU16_eq_ok {value : UInt16} {id : ThresholdShareId} :
    fromU16 value = .ok id ↔ id.get = value := by
  constructor
  · intro h
    unfold fromU16 at h
    split at h
    · cases h
      rfl
    · cases h
  · rintro rfl
    exact fromU16_get id

theorem pushLen16_of_lt {out value : List UInt8} (h : value.length < 256 ^ 2) :
    pushLen16 out value = .ok (out ++ (toBigEndian 2 value.length).toList ++ value) := by
  rw [pushLen16, ensure_of h]
  rfl

variable {digest : Option (Bytes 32)} {purpose : EcdsaPrfPurposeV1} {serverPurpose : PrfPurpose}
  {contextBytes : List UInt8} {context : PrfContext}

section Transcripts

variable {R : Ristretto255 q G} {purpose : EcdsaPrfPurposeV1} {serverPurpose : PrfPurpose}
  {contextBytes : List UInt8} (hlabel : serverPurpose.asBytes = purpose.wireLabel)

include hlabel

theorem pushLen16_head {β : Type} {domain : List UInt8} (hdomain : domain.length < 256 ^ 2)
    (contextBytes : List UInt8) (rest : List UInt8 → ClientResult β) :
    (do
      let out ← pushLen16 [] domain
      let out ← pushLen16 out prfSuiteV1
      let out ← pushLen16 out purpose.wireLabel
      rest out) =
      rest (transcriptHead domain ⟨.ristretto255Sha512, serverPurpose, contextBytes⟩) := by
  have hsuite : prfSuiteV1.length < 256 ^ 2 := by decide
  have hpurpose : purpose.wireLabel.length < 256 ^ 2 := hlabel ▸ serverPurpose.length_asBytes
  rw [pushLen16_of_lt hdomain, ok_bind, pushLen16_of_lt hsuite, ok_bind,
    pushLen16_of_lt hpurpose, ok_bind, transcriptHead, hlabel]
  rfl

theorem prfTranscript_eq {domain payload : List UInt8} (hdomain : domain.length < 256 ^ 2) :
    prfTranscript domain ⟨purpose, contextBytes⟩ payload =
      .ok (transcriptHead domain ⟨.ristretto255Sha512, serverPurpose, contextBytes⟩ ++
        (toBigEndian 4 contextBytes.length).toList ++ contextBytes ++
        (toBigEndian 4 payload.length).toList ++ payload) := by
  rw [prfTranscript, pushLen16_head hlabel hdomain contextBytes]
  rfl

theorem prfDleqChallengeFor_eq_ok {contextTag : Bytes 32}
    {shareId : ThresholdShareId} {inputPoint commitmentPoint partialPoint nonceG nonceP : G}
    {challenge : ZMod q} :
    prfDleqChallengeFor R purpose.wireLabel contextTag digest shareId.get inputPoint
        commitmentPoint partialPoint nonceG nonceP = .ok challenge ↔
      dleqChallenge R ⟨.ristretto255Sha512, serverPurpose, contextBytes⟩
        ⟨contextTag, shareId, inputPoint, commitmentPoint, partialPoint⟩ nonceG nonceP
        (bindingOf digest) = .ok challenge := by
  have hdomain (bound : Bool) :
      (if bound then prfDleqBoundDomainV1 else prfDleqDomainV1).length < 256 ^ 2 := by
    cases bound <;> decide
  rw [dleqChallenge_eq]
  cases digest with
  | none | some =>
    rw [prfDleqChallengeFor]
    dsimp only
    rw [pushLen16_head hlabel (hdomain _) contextBytes]
    rw [pure_eq_ok, Except.ok.injEq]
    rfl

variable (hlength : contextBytes.length < 256 ^ 4)

include hlength

variable {point : G}

theorem prfInputPoint_eq_ok : prfInputPoint R ⟨purpose, contextBytes⟩ = .ok point ↔
      hashToGroup R ⟨.ristretto255Sha512, serverPurpose, contextBytes⟩ = .ok point := by
  rw [prfInputPoint, prfTranscript_eq hlabel (by decide), hashToGroup,
    encodeTranscript_of_lt inputDomain_length hlength (by simp), ok_bind, ok_bind, pure_eq_ok,
    pure_eq_ok]
  rfl

theorem prfContextTag_eq_ok {tag : Bytes 32} : prfContextTag R ⟨purpose, contextBytes⟩ = .ok tag ↔
      partialContextTag R ⟨.ristretto255Sha512, serverPurpose, contextBytes⟩ = .ok tag := by
  rw [prfContextTag, prfTranscript_eq hlabel (by decide), partialContextTag,
    encodeTranscript_of_lt partialContextDomain_length hlength (by simp), ok_bind, ok_bind,
    pure_eq_ok, pure_eq_ok]
  rfl

theorem prfOutput_eq_ok {out : Bytes 32} : prfOutput R ⟨purpose, contextBytes⟩ point = .ok out ↔
      outputFromPoint R point ⟨.ristretto255Sha512, serverPurpose, contextBytes⟩ = .ok out := by
  rw [prfOutput, prfTranscript_eq hlabel (by decide), outputFromPoint,
    encodeTranscript_of_lt outputDomain_length hlength (by simp), ok_bind, ok_bind, pure_eq_ok,
    outputFromTranscript]
  cases purpose with
  | yServer | xClientBase | xServerBase =>
    cases serverPurpose with
    | routerAbEcdsaDerivationYServer | routerAbXClientBaseV1 | routerAbXServerBaseV1
    | ed25519DeriverAContributionRoot | ed25519DeriverBContributionRoot =>
      first
      | exact pure_eq_ok
      | exact absurd hlabel (by decide)

end Transcripts

/-! ## Verification -/

variable {bundle : EcdsaPrfPublicProofBundleV1} {R : Ristretto255 q G}

theorem serverBundle_eq_ok {parsed : PrfPartialProofBundle q G} :
    serverBundle R bundle = .ok parsed ↔ parsed.partialPrf.id.get = proofShareId bundle ∧
        parsed.partialPrf.contextTag = bundle.partialWire.slice 2 32 (by decide) ∧
        R.decompress (bundle.partialWire.slice 34 32 (by decide)) = some parsed.partialPrf.point ∧
        parsed.commitment.id.get = u16OfBigEndian (bundle.commitmentWire.slice 0 2 (by decide)) ∧
        R.decompress (bundle.commitmentWire.slice 2 32 (by decide)) = some parsed.commitment.point ∧
        scalarFromCanonicalBytes q (bundle.proofWire.slice 0 32 (by decide)) =
          some parsed.proof.challenge ∧
        scalarFromCanonicalBytes q (bundle.proofWire.slice 32 32 (by decide)) =
          some parsed.proof.response := by
  simp only [serverBundle, PrfPartial.ofWire, PrfPartial.fromCompressed,
    SigningRootShareCommitment.fromBytes, SigningRootShareCommitment.fromCompressed,
    PrfDleqProof.fromBytes, ok_iff, fromU16_eq_ok]
  constructor
  · rintro ⟨_, ⟨id, hid, point, hpoint, rfl⟩, _, ⟨id', hid', point', hpoint', rfl⟩, _,
      ⟨challenge, hchallenge, response, hresponse, rfl⟩, rfl⟩
    exact ⟨hid, rfl, hpoint, hid', hpoint', hchallenge, hresponse⟩
  · obtain ⟨⟨id, tag, point⟩, ⟨id', point'⟩, ⟨challenge, response⟩⟩ := parsed
    rintro ⟨hid, rfl, hpoint, hid', hpoint', hchallenge, hresponse⟩
    exact ⟨_, ⟨id, hid, point, hpoint, rfl⟩, _, ⟨id', hid', point', hpoint', rfl⟩, _,
      ⟨challenge, hchallenge, response, hresponse, rfl⟩, rfl⟩

def wireOf (R : Ristretto255 q G) (bundle : PrfPartialProofBundle q G) :
    EcdsaPrfPublicProofBundleV1 :=
  ⟨bundle.partialPrf.toWire R, bundle.commitment.toBytes R, bundle.proof.toBytes⟩

theorem serverBundle_wireOf [NeZero q] (R : Ristretto255 q G)
    (bundle : PrfPartialProofBundle q G) : serverBundle R (wireOf R bundle) = .ok bundle := by
  rw [serverBundle, wireOf, PrfPartial.ofWire_toWire, ok_bind,
    SigningRootShareCommitment.fromBytes_toBytes, ok_bind,
    PrfDleqProof.fromBytes_toBytes R.order_le]
  rfl

theorem scalarToBytes_injective [NeZero q] (R : Ristretto255 q G) :
    Function.Injective (scalarToBytes : ZMod q → Bytes 32) := by
  intro s t h
  have hs := scalarFromCanonicalBytes_scalarToBytes R.order_le s
  rw [h, scalarFromCanonicalBytes_scalarToBytes R.order_le t] at hs
  exact (Option.some.inj hs).symm

/-- The client accepts a bundle exactly when the crate parses and verifies it. -/
theorem verifyProofBundle_eq_ok [NeZero q]
    (hlabel : serverPurpose.asBytes = purpose.wireLabel) (hlength : contextBytes.length < 256 ^ 4) :
    verifyProofBundle R ⟨purpose, contextBytes⟩ digest bundle = .ok () ↔
      ∃ parsed, serverBundle R bundle = .ok parsed ∧
        verifyGenericPartialDleqProof R parsed.commitment parsed.partialPrf
          ⟨.ristretto255Sha512, serverPurpose, contextBytes⟩ parsed.proof (bindingOf digest) =
            .ok () := by
  simp only [verifyProofBundle, decompressRistretto, canonicalScalar, ok_iff,
    prfContextTag_eq_ok hlabel hlength, prfInputPoint_eq_ok hlabel hlength, serverBundle_eq_ok,
    verifyGenericPartialDleqProof_eq_ok]
  constructor
  · rintro ⟨⟨hne, hids⟩, tag, htag, htagEq, point, hpoint, point', hpoint', challenge,
      hchallenge, response, hresponse, inputPoint, hinput, expected, hexpected, hequal⟩
    obtain rfl := scalarToBytes_injective R hequal
    exact ⟨⟨⟨⟨_, hne⟩, tag, point⟩, ⟨⟨_, hne⟩, point'⟩, ⟨challenge, response⟩⟩,
      ⟨rfl, htagEq.symm, hpoint, hids, hpoint', hchallenge, hresponse⟩, rfl, htag, inputPoint,
      hinput, (prfDleqChallengeFor_eq_ok hlabel).mp hexpected⟩
  · rintro ⟨⟨⟨id, tag, point⟩, ⟨id', point'⟩, ⟨challenge, response⟩⟩,
      ⟨hid, rfl, hpoint, hid', hpoint', hchallenge, hresponse⟩, hids, htag, inputPoint, hinput,
      hexpected⟩
    obtain rfl : id' = id := hids
    refine ⟨⟨hid ▸ id'.get_ne_zero, hid.symm.trans hid'⟩, _, htag, rfl, point, hpoint, point',
      hpoint', challenge, hchallenge, response, hresponse, inputPoint, hinput, challenge, ?_, rfl⟩
    dsimp only at hid
    rw [← hid]
    exact (prfDleqChallengeFor_eq_ok hlabel).mpr hexpected

/-! ## Combination -/

section Combination

variable [Fact q.Prime] {R : Ristretto255 q G}

open TwoPartyDeriverRole in
theorem lagrangeCoefficients_two_party (q : ℕ) [Fact q.Prime] :
    lagrangeCoefficientsAtZeroForIds q [deriverA.shareId, deriverB.shareId] = [2, -1] := by
  have hsub : (1 : ZMod q) - 2 = -1 := by ring
  have hsub' : (2 : ZMod q) - 1 = 1 := by ring
  rw [lagrangeCoefficientsAtZeroForIds, List.map_cons, List.map_cons, List.map_nil,
    deriverA_scalar, deriverB_scalar]
  simp [weightsAtZero, hsub, hsub', inv_neg]

open TwoPartyDeriverRole in
/-- Partials of the identifiers 1 and 2 under the context's tag combine with the weights
2 and -1. -/
theorem combinePartials_two_party {partials : PartialSet G}
    {a b : PrfPartial G} (hvalues : partials.values = [a, b]) (ha : a.id = deriverA.shareId)
    (hb : b.id = deriverB.shareId) (htagA : partialContextTag R context = .ok a.contextTag)
    (htagB : partialContextTag R context = .ok b.contextTag) :
    combinePartials R partials context =
      outputFromPoint R ((2 : ZMod q) • a.point - b.point) context := by
  have htags : a.contextTag = b.contextTag := Except.ok.inj (htagA.symm.trans htagB)
  have hcheck : (partials.values.forM fun partialPrf =>
      rejectContextMismatch partialPrf a.contextTag) = .ok () := by
    refine forM_eq_ok.mpr fun partialPrf hmem => ?_
    rw [hvalues] at hmem
    rcases List.mem_pair.mp hmem with rfl | rfl
    · exact ensure_of rfl _
    · exact ensure_of htags.symm _
  have hsum : (0 : G) + (2 : ZMod q) • a.point + (-1 : ZMod q) • b.point =
      (2 : ZMod q) • a.point - b.point := by
    module
  have hids : [a, b].map PrfPartial.id = [deriverA.shareId, deriverB.shareId] := by
    rw [List.map_cons, List.map_cons, List.map_nil, ha, hb]
  rw [combinePartials, htagA, ok_bind, combinePartialsWithContextTag, hcheck, ok_bind, hvalues]
  dsimp only
  rw [hids, lagrangeCoefficients_two_party]
  exact congrArg (outputFromPoint R · context) hsum

def twoOfTwo : ThresholdPolicy := ⟨2, 2, (by decide : ¬ (2 : UInt16) = 0), by decide, by decide⟩

omit [Fact q.Prime] in
open TwoPartyDeriverRole in
theorem exists_validate_two_party {T : Type} {shareId : T → ThresholdShareId} {a b : T}
    (ha : shareId a = deriverA.shareId) (hb : shareId b = deriverB.shareId) :
    ∃ set, validateThresholdSetValues twoOfTwo [a, b] shareId = .ok set := by
  refine exists_validateThresholdSetValues.mpr ⟨rfl, ?_, ?_⟩
  · intro value hmem
    rcases List.mem_pair.mp hmem with rfl | rfl
    · rw [ha]
      decide
    · rw [hb]
      decide
  · rw [List.map_cons, List.map_cons, List.map_nil, ha, hb]
    decide

variable {proofBinding : DleqProofBinding} {out : Bytes 32}
  {bundleA bundleB : EcdsaPrfPublicProofBundleV1}

open TwoPartyDeriverRole in
theorem combineServerBundles_eq_ok (hA : proofShareId bundleA = 1) (hB : proofShareId bundleB = 2) :
    combineServerBundles R proofBinding context bundleA bundleB = .ok out ↔
      ∃ a b, serverBundle R bundleA = .ok a ∧ serverBundle R bundleB = .ok b ∧
        verifyGenericPartialDleqProof R a.commitment a.partialPrf context a.proof
          proofBinding = .ok () ∧
        verifyGenericPartialDleqProof R b.commitment b.partialPrf context b.proof
          proofBinding = .ok () ∧
        outputFromPoint R ((2 : ZMod q) • a.partialPrf.point - b.partialPrf.point) context =
          .ok out := by
  have hcombine (a b : PrfPartialProofBundle q G) : (do
      let policy ← ThresholdPolicy.fromU16s 2 2
      let set ← fromProofBundles policy [a, b]
      match proofBinding with
      | .legacy => combineVerifiedPartials R set context
      | .digest digest => combineVerifiedPartialsBoundToDigest R set context digest) = .ok out ↔
      ∃ set, fromProofBundles twoOfTwo [a, b] = .ok set ∧
        combineVerifiedWithBinding R proofBinding set context = .ok out := by
    have hpolicy : ThresholdPolicy.fromU16s 2 2 = .ok twoOfTwo := rfl
    rw [hpolicy, ok_bind, bind_eq_ok]
    cases proofBinding with
    | legacy | digest => rfl
  rw [combineServerBundles, bind_eq_ok]
  refine exists_congr fun a => ?_
  rw [bind_eq_ok, ← exists_and_left]
  refine exists_congr fun b => and_congr_right fun ha => and_congr_right fun hb => ?_
  have hidA : a.partialPrf.id = deriverA.shareId := ext ((serverBundle_eq_ok.mp ha).1.trans hA)
  have hidB : b.partialPrf.id = deriverB.shareId := ext ((serverBundle_eq_ok.mp hb).1.trans hB)
  obtain ⟨partials, hpartials⟩ : ∃ partials, fromPartials twoOfTwo
      ([a, b].map PrfPartialProofBundle.partialPrf) = .ok partials :=
    exists_validate_two_party hidA hidB
  have hvalues := (validateThresholdSetValues_eq_ok hpartials).2
  rw [hcombine, combineVerified_eq_ok R hpartials, List.forall_mem_cons, List.forall_mem_singleton,
    and_assoc]
  refine and_congr_right fun hverifyA => and_congr_right fun hverifyB => ?_
  rw [combinePartials_two_party hvalues hidA hidB
    (verifyGenericPartialDleqProof_eq_ok.mp hverifyA).2.1
    (verifyGenericPartialDleqProof_eq_ok.mp hverifyB).2.1]

/-- What both versions of the client do after their own first checks. -/
theorem client_eq_ok (hlabel : serverPurpose.asBytes = purpose.wireLabel)
    (hlength : contextBytes.length < 256 ^ 4)
    (hA : proofShareId bundleA = 1) (hB : proofShareId bundleB = 2) :
    (verifyProofBundle R ⟨purpose, contextBytes⟩ digest bundleA = .ok () ∧
      verifyProofBundle R ⟨purpose, contextBytes⟩ digest bundleB = .ok () ∧
      combineTwoPartyPartials R ⟨purpose, contextBytes⟩ bundleA bundleB = .ok out) ↔
      combineServerBundles R (bindingOf digest)
        ⟨.ristretto255Sha512, serverPurpose, contextBytes⟩ bundleA bundleB = .ok out := by
  rw [combineServerBundles_eq_ok hA hB, verifyProofBundle_eq_ok hlabel hlength,
    verifyProofBundle_eq_ok hlabel hlength]
  simp only [combineTwoPartyPartials, decompressRistretto, ok_iff, prfOutput_eq_ok hlabel hlength]
  constructor
  · rintro ⟨⟨a, ha, hverifyA⟩, ⟨b, hb, hverifyB⟩, pointA, hpointA, pointB, hpointB, hout⟩
    obtain rfl := Option.some.inj (hpointA.symm.trans (serverBundle_eq_ok.mp ha).2.2.1)
    obtain rfl := Option.some.inj (hpointB.symm.trans (serverBundle_eq_ok.mp hb).2.2.1)
    exact ⟨a, b, ha, hb, hverifyA, hverifyB, hout⟩
  · rintro ⟨a, b, ha, hb, hverifyA, hverifyB, hout⟩
    exact ⟨⟨a, ha, hverifyA⟩, ⟨b, hb, hverifyB⟩, _, (serverBundle_eq_ok.mp ha).2.2.1, _,
      (serverBundle_eq_ok.mp hb).2.2.1, hout⟩

omit [Fact q.Prime] in
theorem finalizeV1_eq_ok {context : EcdsaPrfPublicContextV1} (hne : context.contextBytes ≠ [])
    (hA : proofShareId bundleA = 1) (hB : proofShareId bundleB = 2) :
    finalizeEcdsaPrfTwoPartyOutputV1 R context ⟨.a, bundleA⟩ ⟨.b, bundleB⟩ = .ok out ↔
      verifyProofBundle R context none bundleA = .ok () ∧
        verifyProofBundle R context none bundleB = .ok () ∧
        combineTwoPartyPartials R context bundleA bundleB = .ok out := by
  rw [finalizeEcdsaPrfTwoPartyOutputV1, ensure_of ⟨rfl, rfl⟩, ok_bind, ensure_of ⟨hA, hB⟩,
    ok_bind, verifyEcdsaPrfPublicDleqProofV1, verifyEcdsaPrfPublicDleqProofV1, ensure_of hne,
    ok_bind, ok_bind]
  simp only [ok_iff]

omit [Fact q.Prime] [AddCommGroup G] [Module (ZMod q) G] in
theorem length_stableContextBytes (digest : Bytes 32) :
    (stableContextBytes digest).length < 256 ^ 4 := by
  have htexts : (stringBytes "router-ab-ecdsa-derivation/context/v1" ++
      len16Field (stringBytes "router-ab-ecdsa-derivation-v1") ++
      len16Field (stringBytes "secp256k1")).length = 79 := by decide
  rw [stableContextBytes]
  simp only [List.length_append, List.Vector.toList_length, List.length_singleton] at htexts ⊢
  omega

/-! ## Contexts that do not fit -/

variable (R : Ristretto255 q G)

omit [Fact q.Prime] in
/-- The client accepts some bundle of every identifier, for contexts of any length: the one
of the zero share. -/
theorem exists_verifyProofBundle [NeZero q] (hlabel : serverPurpose.asBytes = purpose.wireLabel)
    (contextBytes : List UInt8) (id : ThresholdShareId) :
    ∃ bundle, proofShareId bundle = id.get ∧
      verifyProofBundle R ⟨purpose, contextBytes⟩ none bundle = .ok () ∧
      R.decompress (bundle.partialWire.slice 34 32 (by decide)) = some 0 := by
  obtain ⟨tag, htag⟩ : ∃ tag, prfContextTag R ⟨purpose, contextBytes⟩ = .ok tag := by
    rw [prfContextTag, prfTranscript_eq hlabel (by decide)]
    exact ⟨_, rfl⟩
  obtain ⟨point, hpoint⟩ : ∃ point, prfInputPoint R ⟨purpose, contextBytes⟩ = .ok point := by
    rw [prfInputPoint, prfTranscript_eq hlabel (by decide)]
    exact ⟨_, rfl⟩
  obtain ⟨challenge, hchallenge⟩ : ∃ challenge, prfDleqChallengeFor R purpose.wireLabel tag none
      id.get point 0 0 R.basepoint point = .ok challenge :=
    ⟨_, (prfDleqChallengeFor_eq_ok hlabel).mpr
      (dleqChallenge_eq R ⟨_, serverPurpose, contextBytes⟩ ..)⟩
  have hwire := serverBundle_wireOf R
    (⟨⟨id, tag, 0⟩, ⟨id, 0⟩, ⟨challenge, 1⟩⟩ : PrfPartialProofBundle q G)
  obtain ⟨hid, htagEq, hpartial, hid', hcommitment, hc, hr⟩ := serverBundle_eq_ok.mp hwire
  refine ⟨_, hid.symm, ?_, hpartial⟩
  simp only [verifyProofBundle, decompressRistretto, canonicalScalar, ok_iff]
  refine ⟨⟨hid ▸ id.get_ne_zero, hid.symm.trans hid'⟩, tag, htag, htagEq.symm, 0, hpartial, 0,
    hcommitment, challenge, hc, 1, hr, point, hpoint, challenge, ?_, rfl⟩
  rw [← hid, one_smul, one_smul, smul_zero, sub_zero, sub_zero]
  exact hchallenge

/-- For a context that does not fit, the client has an output where the servers have none. -/
theorem exists_finalizeV1_long (hlabel : serverPurpose.asBytes = purpose.wireLabel)
    (hlength : ¬ contextBytes.length < 256 ^ 4) :
    ∃ bundleA bundleB out, proofShareId bundleA = 1 ∧ proofShareId bundleB = 2 ∧
      finalizeEcdsaPrfTwoPartyOutputV1 R ⟨purpose, contextBytes⟩ ⟨.a, bundleA⟩ ⟨.b, bundleB⟩ =
        .ok out ∧
      ∀ out', combineServerBundles R .legacy ⟨.ristretto255Sha512, serverPurpose, contextBytes⟩
        bundleA bundleB ≠ .ok out' := by
  obtain ⟨bundleA, hA, hverifyA, hpointA⟩ :=
    exists_verifyProofBundle R hlabel contextBytes ⟨1, by decide⟩
  obtain ⟨bundleB, hB, hverifyB, hpointB⟩ :=
    exists_verifyProofBundle R hlabel contextBytes ⟨2, by decide⟩
  obtain ⟨out, hout⟩ : ∃ out, combineTwoPartyPartials R ⟨purpose, contextBytes⟩ bundleA bundleB =
      .ok out := by
    rw [combineTwoPartyPartials, decompressRistretto, hpointA, decompressRistretto, hpointB,
      okOr_some, ok_bind, ok_bind]
    dsimp only
    rw [prfOutput, prfTranscript_eq hlabel (by decide), ok_bind]
    cases purpose with
    | yServer | xClientBase | xServerBase => exact ⟨_, rfl⟩
  have hne : contextBytes ≠ [] := by
    rintro rfl
    exact hlength (by decide)
  refine ⟨bundleA, bundleB, out, hA, hB,
    (finalizeV1_eq_ok hne hA hB).mpr ⟨hverifyA, hverifyB, hout⟩, fun out' hserver => ?_⟩
  obtain ⟨a, b, -, -, hverify, -⟩ := (combineServerBundles_eq_ok hA hB).mp hserver
  obtain ⟨-, -, point, hpoint, -⟩ := verifyGenericPartialDleqProof_eq_ok.mp hverify
  exact hlength (length_lt_of_hashToGroup hpoint)

/-! ## Honest bundles -/

open TwoPartyDeriverRole in
/-- The servers combine honest bundles of two shares to the PRF of their root. -/
theorem combineServerBundles_honest (context : PrfContext)
    (hcontext : context.contextBytes.length < 256 ^ 4) (proofBinding : DleqProofBinding)
    {shareA shareB : SigningRootShare q} (hidA : shareA.id = deriverA.shareId)
    (hidB : shareB.id = deriverB.shareId) (blindA blindB : {scalar : ZMod q // scalar ≠ 0}) :
    ∃ bundleA bundleB out,
      evaluatePartialWithBinding R proofBinding shareA context blindA = .ok bundleA ∧
      evaluatePartialWithBinding R proofBinding shareB context blindB = .ok bundleB ∧
      proofShareId (wireOf R bundleA) = 1 ∧ proofShareId (wireOf R bundleB) = 2 ∧
      combineServerBundles R proofBinding context (wireOf R bundleA) (wireOf R bundleB) = .ok out ∧
      evaluateScalar R (2 * shareA.value - shareB.value) context = .ok out := by
  obtain ⟨bundleA, hbundleA, hofA⟩ :=
    exists_evaluatePartialWithBinding R proofBinding shareA hcontext blindA
  obtain ⟨bundleB, hbundleB, hofB⟩ :=
    exists_evaluatePartialWithBinding R proofBinding shareB hcontext blindB
  obtain ⟨point, hpoint⟩ := exists_hashToGroup R hcontext
  obtain ⟨tag, htag⟩ := exists_partialContextTag R hcontext
  have hpartialA := Except.ok.inj ((evaluatePartial_of_eq hpoint htag shareA).symm.trans
    hofA.partialPrf)
  have hpartialB := Except.ok.inj ((evaluatePartial_of_eq hpoint htag shareB).symm.trans
    hofB.partialPrf)
  obtain ⟨out, hout⟩ :=
    exists_outputFromPoint R ((2 * shareA.value - shareB.value) • point) hcontext
  have hA : proofShareId (wireOf R bundleA) = 1 := by
    rw [← (serverBundle_eq_ok.mp (serverBundle_wireOf R bundleA)).1, ← hpartialA]
    exact congrArg get hidA
  have hB : proofShareId (wireOf R bundleB) = 2 := by
    rw [← (serverBundle_eq_ok.mp (serverBundle_wireOf R bundleB)).1, ← hpartialB]
    exact congrArg get hidB
  refine ⟨bundleA, bundleB, out, hbundleA, hbundleB, hA, hB, ?_, ?_⟩
  · refine (combineServerBundles_eq_ok hA hB).mpr ⟨bundleA, bundleB, serverBundle_wireOf R _,
      serverBundle_wireOf R _, hofA.verifies, hofB.verifies, ?_⟩
    rw [← hpartialA, ← hpartialB, evaluatePartialWithInput, evaluatePartialWithInput, ← mul_smul,
      ← sub_smul]
    exact hout
  · rw [evaluateScalar, hpoint, ok_bind]
    exact hout

end Combination

end Client

end SeamsWallet.ThresholdPrf
