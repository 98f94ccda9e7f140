import Mathlib.Tactic.NormNum.Prime
import SeamsWallet.ThresholdPrf.Prf

/-!
# Any threshold set evaluates the PRF of the root

The honest prover's proofs verify, and the partials of any threshold set of
shares of one root combine, in the order they are given, to the PRF of the
root. A context whose bytes do not fit their 32-bit length field has no PRF value
at all.
-/

namespace SeamsWallet.ThresholdPrf

open Library Edwards25519

variable {q : ℕ} {G : Type} [AddCommGroup G] [Module (ZMod q) G]

/-! ## Transcripts -/

theorem SuiteId.length_asBytes (suiteId : SuiteId) : suiteId.asBytes.length < 256 ^ 2 := by
  cases suiteId
  decide

theorem PrfPurpose.length_asBytes (purpose : PrfPurpose) : purpose.asBytes.length < 256 ^ 2 := by
  cases purpose <;> decide

variable {out : List UInt8} {bytes : List UInt8}

theorem pushLen16_of_lt (h : bytes.length < 256 ^ 2) :
    pushLen16 out bytes = .ok (out ++ (toBigEndian 2 bytes.length).toList ++ bytes) := by
  rw [pushLen16, ensure_of h]
  rfl

theorem pushLen32_of_lt (h : bytes.length < 256 ^ 4) :
    pushLen32 out bytes = .ok (out ++ (toBigEndian 4 bytes.length).toList ++ bytes) := by
  rw [pushLen32, ensure_of h]
  rfl

/-- What every transcript starts with: the domain, the suite and the purpose. -/
def transcriptHead (domain : List UInt8) (context : PrfContext) : List UInt8 :=
  (toBigEndian 2 domain.length).toList ++ domain ++
    (toBigEndian 2 context.suiteId.asBytes.length).toList ++ context.suiteId.asBytes ++
    (toBigEndian 2 context.purpose.asBytes.length).toList ++ context.purpose.asBytes

variable {domain : List UInt8} {context : PrfContext}

theorem pushLen16_head {β : Type} (hdomain : domain.length < 256 ^ 2)
    (context : PrfContext) (rest : List UInt8 → ThresholdPrfResult β) :
    (do
      let out ← pushLen16 [] domain
      let out ← pushLen16 out context.suiteId.asBytes
      let out ← pushLen16 out context.purpose.asBytes
      rest out) = rest (transcriptHead domain context) := by
  rw [pushLen16_of_lt hdomain, ok_bind, pushLen16_of_lt context.suiteId.length_asBytes, ok_bind,
    pushLen16_of_lt context.purpose.length_asBytes, ok_bind]
  rfl

variable {payload : List UInt8}

theorem encodeTranscript_of_lt
    (hdomain : domain.length < 256 ^ 2) (hcontext : context.contextBytes.length < 256 ^ 4)
    (hpayload : payload.length < 256 ^ 4) :
    encodeTranscript domain context payload = .ok (transcriptHead domain context ++
        (toBigEndian 4 context.contextBytes.length).toList ++ context.contextBytes ++
        (toBigEndian 4 payload.length).toList ++ payload) := by
  rw [encodeTranscript, pushLen16_head hdomain, pushLen32_of_lt hcontext, ok_bind,
    pushLen32_of_lt hpayload]

theorem encodeTranscript_overflow
    (hdomain : domain.length < 256 ^ 2) (hcontext : ¬ context.contextBytes.length < 256 ^ 4) :
    encodeTranscript domain context payload = .error .transcriptLengthOverflow := by
  rw [encodeTranscript, pushLen16_head hdomain, pushLen32, ensure_of_not hcontext]
  rfl

theorem inputDomain_length : inputDomain.length < 256 ^ 2 := by decide

theorem outputDomain_length : outputDomain.length < 256 ^ 2 := by decide

theorem partialContextDomain_length : partialContextDomain.length < 256 ^ 2 := by decide

/-! ## Which hashes are defined -/

theorem hashToGroup_overflow (R : Ristretto255 q G)
    (hcontext : ¬ context.contextBytes.length < 256 ^ 4) :
    hashToGroup R context = .error .transcriptLengthOverflow := by
  rw [hashToGroup, encodeTranscript_overflow inputDomain_length hcontext]
  rfl

theorem exists_hashToGroup (R : Ristretto255 q G)
    (hcontext : context.contextBytes.length < 256 ^ 4) :
    ∃ point, hashToGroup R context = .ok point := by
  rw [hashToGroup, encodeTranscript_of_lt inputDomain_length hcontext (by simp)]
  exact ⟨_, rfl⟩

variable {R : Ristretto255 q G} {point : G}

theorem length_lt_of_hashToGroup (h : hashToGroup R context = .ok point) :
    context.contextBytes.length < 256 ^ 4 := by
  by_contra hcontext
  rw [hashToGroup_overflow R hcontext] at h
  cases h

theorem exists_partialContextTag (R : Ristretto255 q G)
    (hcontext : context.contextBytes.length < 256 ^ 4) :
    ∃ tag, partialContextTag R context = .ok tag := by
  rw [partialContextTag, encodeTranscript_of_lt partialContextDomain_length hcontext (by simp)]
  exact ⟨_, rfl⟩

theorem exists_outputFromPoint (R : Ristretto255 q G) (point : G)
    (hcontext : context.contextBytes.length < 256 ^ 4) :
    ∃ out, outputFromPoint R point context = .ok out := by
  rw [outputFromPoint, encodeTranscript_of_lt outputDomain_length hcontext (by simp)]
  exact ⟨_, rfl⟩

theorem DleqProofBinding.length_domain (proofBinding : DleqProofBinding) :
    proofBinding.domain.length < 256 ^ 2 := by
  have hdomains : dleqDomain.length < 256 ^ 2 ∧ dleqBoundDomainV1.length < 256 ^ 2 := by decide
  cases proofBinding with
  | legacy => exact hdomains.1
  | digest => exact hdomains.2

theorem dleqChallenge_eq (R : Ristretto255 q G) (context : PrfContext)
    (statement : DleqStatement G) (nonceG nonceP : G) (proofBinding : DleqProofBinding) :
    dleqChallenge R context statement nonceG nonceP proofBinding =
      .ok (scalarFromBytesModOrderWide q (R.sha512
        (transcriptHead proofBinding.domain context ++ statement.contextTag.toList ++
          proofBinding.bytes ++ (u16ToBigEndian statement.shareId.get).toList ++
          (R.compress R.basepoint).toList ++
          (R.compress statement.inputPoint).toList ++
          (R.compress statement.commitmentPoint).toList ++
          (R.compress statement.partialPoint).toList ++
          (R.compress nonceG).toList ++ (R.compress nonceP).toList))) := by
  rw [dleqChallenge, encodeDleqChallengeTranscript, pushLen16_head proofBinding.length_domain]
  rfl

variable {proofBinding : DleqProofBinding}

/-- What the verifier checks: one identifier, the tag of the context, and the challenge
recomputed from the two nonce commitments. -/
theorem verifyGenericPartialDleqProof_eq_ok {commitment : SigningRootShareCommitment G}
    {partialPrf : PrfPartial G} {proof : PrfDleqProof q} :
    verifyGenericPartialDleqProof R commitment partialPrf context proof proofBinding = .ok () ↔
      commitment.id = partialPrf.id ∧ partialContextTag R context = .ok partialPrf.contextTag ∧
        ∃ inputPoint, hashToGroup R context = .ok inputPoint ∧ dleqChallenge R context
            ⟨partialPrf.contextTag, partialPrf.id, inputPoint, commitment.point, partialPrf.point⟩
            (proof.response • R.basepoint - proof.challenge • commitment.point)
            (proof.response • inputPoint - proof.challenge • partialPrf.point)
            proofBinding = .ok proof.challenge := by
  simp only [verifyGenericPartialDleqProof, rejectContextMismatch, ok_iff]
  constructor
  · rintro ⟨hid, _, htag, rfl, inputPoint, hinput, _, hchallenge, rfl⟩
    exact ⟨hid, htag, inputPoint, hinput, hchallenge⟩
  · rintro ⟨hid, htag, inputPoint, hinput, hchallenge⟩
    exact ⟨hid, _, htag, rfl, inputPoint, hinput, _, hchallenge, rfl⟩

/-! ## The honest prover -/

/-- A bundle that verifies, and that says of the context's input point what the share
says of the base point. -/
structure BundleOf (R : Ristretto255 q G) (proofBinding : DleqProofBinding)
    (context : PrfContext) (share : SigningRootShare q)
    (bundle : PrfPartialProofBundle q G) : Prop where
  commitment : bundle.commitment = .fromShare R share
  partialPrf : evaluatePartial R share context = .ok bundle.partialPrf
  verifies : verifyGenericPartialDleqProof R bundle.commitment bundle.partialPrf context
    bundle.proof proofBinding = .ok ()

theorem evaluatePartial_of_eq {tag : Bytes 32}
    (hpoint : hashToGroup R context = .ok point) (htag : partialContextTag R context = .ok tag)
    (share : SigningRootShare q) :
    evaluatePartial R share context = .ok (evaluatePartialWithInput share tag point) := by
  rw [evaluatePartial, hpoint, ok_bind, htag]
  rfl

variable {share : SigningRootShare q}

theorem evaluatePartial_id {partialPrf : PrfPartial G}
    (h : evaluatePartial R share context = .ok partialPrf) : partialPrf.id = share.id := by
  simp only [evaluatePartial, ok_iff] at h
  obtain ⟨point, -, tag, -, rfl⟩ := h
  rfl

theorem BundleOf.id {bundle : PrfPartialProofBundle q G}
    (h : BundleOf R proofBinding context share bundle) :
    bundle.partialPrf.id = share.id :=
  evaluatePartial_id h.partialPrf

theorem exists_evaluatePartialWithBinding (R : Ristretto255 q G)
    (proofBinding : DleqProofBinding) (share : SigningRootShare q)
    (hcontext : context.contextBytes.length < 256 ^ 4) (blind : {scalar : ZMod q // scalar ≠ 0}) :
    ∃ bundle, evaluatePartialWithBinding R proofBinding share context blind = .ok bundle ∧
      BundleOf R proofBinding context share bundle := by
  obtain ⟨point, hpoint⟩ := exists_hashToGroup R hcontext
  obtain ⟨tag, htag⟩ := exists_partialContextTag R hcontext
  obtain ⟨challenge, hchallenge⟩ : ∃ challenge, dleqChallenge R context
      ⟨tag, share.id, point, share.value • R.basepoint, share.value • point⟩
      (blind.val • R.basepoint) (blind.val • point) proofBinding = .ok challenge :=
    ⟨_, dleqChallenge_eq ..⟩
  -- The verifier's nonce commitments are the prover's.
  have hnonce (Q : G) : (blind.val + challenge * share.value) • Q - challenge • share.value • Q =
        blind.val • Q := by
    rw [add_smul, mul_smul, add_sub_cancel_right]
  refine ⟨⟨evaluatePartialWithInput share tag point, .fromShare R share,
    ⟨challenge, blind.val + challenge * share.value⟩⟩, ?_, rfl,
    evaluatePartial_of_eq hpoint htag share, ?_⟩
  · rw [evaluatePartialWithBinding, hpoint, ok_bind, htag, ok_bind]
    dsimp only
    rw [provePartialDleq, ensure_of ⟨rfl, rfl⟩, ok_bind]
    dsimp only [evaluatePartialWithInput, SigningRootShareCommitment.fromShare]
    rw [hchallenge]
    rfl
  · refine verifyGenericPartialDleqProof_eq_ok.mpr ⟨rfl, htag, point, hpoint, ?_⟩
    dsimp only [evaluatePartialWithInput, SigningRootShareCommitment.fromShare]
    rw [hnonce, hnonce, hchallenge]

/-! ## Shares of one sharing -/

theorem mem_splitSigningRoot {root : SigningRootScalar q} {policy : ThresholdPolicy}
    {random : ℕ → {scalar : ZMod q // scalar ≠ 0}}
    (h : share ∈ splitSigningRoot root policy random) :
    share = evalShare root.scalar
        ((List.range (policy.threshold.toNat - 1)).map fun i => (random i).val) share.id ∧
      policy.containsShareId share.id = true := by
  obtain ⟨id, hid, rfl⟩ := List.mem_map.mp h
  refine ⟨rfl, ?_⟩
  obtain ⟨i, hi, hsome⟩ := List.mem_filterMap.mp hid
  have hlt : i + 1 ≤ policy.shareCount.toNat := List.mem_range.mp hi
  have hget : id.get = .ofNat (i + 1) := by
    unfold ThresholdShareId.fromU16 at hsome
    split at hsome
    · cases hsome
      rfl
    · cases hsome
  have hnat : (UInt16.ofNat (i + 1)).toNat = i + 1 :=
    UInt16.toNat_ofNat_of_lt' (lt_of_le_of_lt hlt policy.shareCount.toNat_lt)
  rw [ThresholdPolicy.containsShareId, decide_eq_true_iff, UInt16.le_iff_toNat_le]
  change id.get.toNat ≤ _
  rw [hget, hnat]
  exact hlt

/-! ## Combination -/

section Combine

variable [Fact q.Prime] {root : ZMod q} {coefficients : List (ZMod q)} (R : Ristretto255 q G)

/-- A threshold set of partials that are evaluations of a sharing of a root, under the
context's tag, combines to the PRF of the root. -/
theorem combinePartials_of_sharing
    {partials : PartialSet G} (hlength : partials.values.length = coefficients.length + 1)
    (hpartials : ∀ partialPrf ∈ partials.values,
      evaluatePartial R (evalShare root coefficients partialPrf.id) context = .ok partialPrf) :
    combinePartials R partials context = evaluateScalar R root context := by
  by_cases hcontext : context.contextBytes.length < 256 ^ 4
  · obtain ⟨point, hpoint⟩ := exists_hashToGroup R hcontext
    obtain ⟨tag, htag⟩ := exists_partialContextTag R hcontext
    have heq (partialPrf : PrfPartial G) (hmem : partialPrf ∈ partials.values) :
        partialPrf = evaluatePartialWithInput
          (evalShare root coefficients partialPrf.id) tag point := by
      have h := hpartials partialPrf hmem
      rw [evaluatePartial_of_eq hpoint htag] at h
      exact (Except.ok.inj h).symm
    have htags : (partials.values.forM fun partialPrf =>
        rejectContextMismatch partialPrf tag) = .ok () := by
      refine forM_eq_ok.mpr fun partialPrf hmem => ?_
      rw [heq partialPrf hmem]
      exact ensure_of rfl _
    have hcombine := combine_at_zero (m := point) R.shareIds_lt partials.nodup_ids hlength
      fun partialPrf hmem => congrArg PrfPartial.point (heq partialPrf hmem)
    rw [combinePartials, htag, ok_bind, combinePartialsWithContextTag, htags, ok_bind,
      evaluateScalar, hpoint, ok_bind]
    dsimp only
    rw [hcombine]
  · rw [combinePartials, evaluateScalar, hashToGroup_overflow R hcontext, partialContextTag,
      encodeTranscript_overflow partialContextDomain_length hcontext]
    rfl

variable {policy : ThresholdPolicy} {out : Bytes 32}

/-- Bundles combine exactly if all of them verify and their partials combine. -/
theorem combineVerified_eq_ok {bundles : List (PrfPartialProofBundle q G)} {partials : PartialSet G}
    (hpartials : fromPartials policy (bundles.map PrfPartialProofBundle.partialPrf) =
      .ok partials) :
    (∃ set, fromProofBundles policy bundles = .ok set ∧
      combineVerifiedWithBinding R proofBinding set context = .ok out) ↔
      (∀ bundle ∈ bundles, verifyGenericPartialDleqProof R bundle.commitment bundle.partialPrf
        context bundle.proof proofBinding = .ok ()) ∧
      combinePartials R partials context = .ok out := by
  obtain ⟨set, hset⟩ : ∃ set, validateThresholdSetValues policy bundles
      PrfPartialProofBundle.id = .ok set := by
    obtain ⟨hlength, hcontains, hnodup⟩ := exists_validateThresholdSetValues.mp ⟨_, hpartials⟩
    rw [List.length_map] at hlength
    rw [List.map_map] at hnodup
    rw [List.forall_mem_map] at hcontains
    exact exists_validateThresholdSetValues.mpr ⟨hlength, hcontains, hnodup⟩
  obtain ⟨rfl, rfl⟩ := validateThresholdSetValues_eq_ok hset
  simp only [fromProofBundles, hset, combineVerifiedWithBinding, ok_iff, forM_eq_ok]
  constructor
  · rintro ⟨_, ⟨_, hset', -, rfl⟩, hverify, _, hpartials', hout⟩
    cases hset'
    cases hpartials.symm.trans hpartials'
    exact ⟨hverify, hout⟩
  · rintro ⟨hverify, hout⟩
    refine ⟨set, ⟨set, rfl, fun bundle hmem => ?_, rfl⟩, hverify, partials, hpartials, hout⟩
    exact (verifyGenericPartialDleqProof_eq_ok.mp (hverify bundle hmem)).1

/-- Bundles made from a threshold set of shares verify and combine to the PRF of the
root. -/
theorem combineVerified_of_sharing (proofBinding : DleqProofBinding)
    (hcontext : context.contextBytes.length < 256 ^ 4) {shares : List (SigningRootShare q)}
    (hlength : shares.length = policy.threshold.toNat)
    (hcoefficients : shares.length = coefficients.length + 1)
    (hcontains : ∀ share ∈ shares, policy.containsShareId share.id = true)
    (hnodup : (shares.map SigningRootShare.id).Nodup)
    (hshares : ∀ share ∈ shares, share = evalShare root coefficients share.id)
    (blind : SigningRootShare q → {scalar : ZMod q // scalar ≠ 0})
    (hout : evaluateScalar R root context = .ok out) :
    ∃ bundles set, shares.mapM (fun share =>
        evaluatePartialWithBinding R proofBinding share context (blind share)) = .ok bundles ∧
      fromProofBundles policy bundles = .ok set ∧
      combineVerifiedWithBinding R proofBinding set context = .ok out := by
  choose bundle hbundle hof using fun share =>
    exists_evaluatePartialWithBinding R proofBinding share hcontext (blind share)
  have hid (share : SigningRootShare q) := (hof share).id
  have hids : ((shares.map bundle).map PrfPartialProofBundle.partialPrf).map PrfPartial.id =
      shares.map SigningRootShare.id := by
    simp only [List.map_map]
    exact List.map_congr_left fun share _ => hid share
  obtain ⟨partials, hpartials⟩ : ∃ partials, fromPartials policy
      ((shares.map bundle).map PrfPartialProofBundle.partialPrf) = .ok partials :=
    exists_validateThresholdSetValues.mpr ⟨by simpa using hlength,
      by simpa [hid] using hcontains, hids ▸ hnodup⟩
  have hvalues := (validateThresholdSetValues_eq_ok hpartials).2
  have hcombine : combinePartials R partials context = evaluateScalar R root context := by
    have hlength' : partials.values.length = coefficients.length + 1 := by
      rw [hvalues, List.length_map, List.length_map, hcoefficients]
    refine combinePartials_of_sharing R hlength' ?_
    simp only [hvalues, List.forall_mem_map]
    intro share hshare
    rw [hid, ← hshares share hshare]
    exact (hof share).partialPrf
  obtain ⟨set, hset⟩ := (combineVerified_eq_ok R hpartials).mpr
    ⟨List.forall_mem_map.mpr fun share _ => (hof share).verifies, hcombine.trans hout⟩
  exact ⟨shares.map bundle, set, mapM_eq_ok_map fun share _ => hbundle share, hset⟩

theorem reconstructSigningRoot_of_sharing (hq : 65535 < q) {root : SigningRootScalar q}
    {shares : ValidatedThresholdSet (SigningRootShare q) SigningRootShare.id}
    (hlength : shares.values.length = coefficients.length + 1)
    (hshares : ∀ share ∈ shares.values, share = evalShare root.scalar coefficients share.id) :
    reconstructSigningRoot shares = .ok root := by
  have hvalue (share : SigningRootShare q) (hshare : share ∈ shares.values) : share.value =
      (evalShare root.scalar coefficients share.id).value • (1 : ZMod q) := by
    rw [smul_eq_mul, mul_one]
    exact congrArg SigningRootShare.value (hshares share hshare)
  have hcombine := combine_at_zero hq shares.nodup_ids hlength hvalue
  simp only [smul_eq_mul, mul_one] at hcombine
  rw [reconstructSigningRoot]
  dsimp only
  rw [hcombine]
  exact dif_pos root.scalar_ne_zero

/-- For every policy, root, coefficients and context that fits its length field, every
threshold set of shares in every order and all nonces: the bundles of the set verify and
combine, unbound or bound to a digest, to the PRF of the root, and the shares bring the
root back. -/
theorem threshold_prf_agreement (R : Ristretto255 q G) (root : SigningRootScalar q)
    (policy : ThresholdPolicy) (random : ℕ → {scalar : ZMod q // scalar ≠ 0})
    (context : PrfContext) (hcontext : context.contextBytes.length < 256 ^ 4)
    (shares : List (SigningRootShare q))
    (hshares : ∀ share ∈ shares, share ∈ splitSigningRoot root policy random)
    (hnodup : shares.Nodup) (hlength : shares.length = policy.threshold.toNat)
    (blind : SigningRootShare q → {scalar : ZMod q // scalar ≠ 0}) :
    ∃ out, evaluateDirectReference R root context = .ok out ∧
      (∃ bundles set, shares.mapM (fun share =>
          evaluatePartialWithDleqProof R share context (blind share)) = .ok bundles ∧
        fromProofBundles policy bundles = .ok set ∧
        combineVerifiedPartials R set context = .ok out) ∧
      (∀ digest, ∃ bundles set, shares.mapM (fun share =>
          evaluatePartialWithDleqProofBoundToDigest R share context digest (blind share)) =
            .ok bundles ∧
        fromProofBundles policy bundles = .ok set ∧
        combineVerifiedPartialsBoundToDigest R set context digest = .ok out) ∧
      ∃ set, fromSigningRootShares policy shares = .ok set ∧
        reconstructSigningRoot set = .ok root := by
  have hsharing (share) (h : share ∈ shares) := (mem_splitSigningRoot (hshares share h)).1
  have hcontains (share) (h : share ∈ shares) := (mem_splitSigningRoot (hshares share h)).2
  have hids : (shares.map SigningRootShare.id).Nodup :=
    hnodup.map_on fun share h share' h' hid => by rw [hsharing share h, hsharing share' h', hid]
  have hpositive : 0 < policy.threshold.toNat :=
    Nat.pos_of_ne_zero fun h => policy.threshold_ne_zero (UInt16.toNat_inj.mp h)
  have hcoefficients : shares.length =
      ((List.range (policy.threshold.toNat - 1)).map fun i => (random i).val).length + 1 := by
    rw [List.length_map, List.length_range, hlength]
    omega
  obtain ⟨point, hpoint⟩ := exists_hashToGroup R hcontext
  obtain ⟨out, hout⟩ := exists_outputFromPoint R (root.scalar • point) hcontext
  have hdirect : evaluateDirectReference R root context = .ok out := by
    rw [evaluateDirectReference, evaluateScalar, hpoint, ok_bind, hout]
  have hcombine (proofBinding : DleqProofBinding) := combineVerified_of_sharing R proofBinding
    hcontext hlength hcoefficients hcontains hids hsharing blind hdirect
  refine ⟨out, hdirect, hcombine .legacy, fun digest => hcombine (.digest digest), ?_⟩
  · obtain ⟨set, hset⟩ : ∃ set, fromSigningRootShares policy shares = .ok set :=
      exists_validateThresholdSetValues.mpr ⟨hlength, hcontains, hids⟩
    have hvalues := (validateThresholdSetValues_eq_ok hset).2
    rw [← hvalues] at hcoefficients hsharing
    exact ⟨set, hset, reconstructSigningRoot_of_sharing R.shareIds_lt hcoefficients hsharing⟩

end Combine

/-! ## A small group -/

instance fact_prime_65537 : Fact (Nat.Prime 65537) := ⟨by norm_num⟩

/-- The integers modulo a prime as a group, under a constant hash. -/
def additiveRistretto : Ristretto255 65537 (ZMod 65537) where
  basepoint := 1
  basepoint_ne_zero := one_ne_zero
  shareIds_lt := by norm_num
  order_le := (by norm_num : 65536 < 256 ^ 32)
  compress := scalarToBytes
  decompress := scalarFromCanonicalBytes 65537
  decompress_compress := scalarFromCanonicalBytes_scalarToBytes (by norm_num)
  sha512 _ := Bytes.zeros 64
  fromUniformBytes _ := 1

def twoOfThree : ThresholdPolicy := ⟨2, 3, by decide, by decide, by decide⟩

def oneRoot : SigningRootScalar 65537 := ⟨1, one_ne_zero⟩

def shareNumber (id : UInt16) (h : id ≠ 0) (value : ZMod 65537) : SigningRootShare 65537 :=
  ⟨⟨id, h⟩, value⟩

def shortContext : PrfContext :=
  ⟨.ristretto255Sha512, .routerAbEcdsaDerivationYServer, [1]⟩

/-- The third and the first share of a two-of-three sharing. -/
theorem threshold_prf_agreement_third_first :
    ∃ out, evaluateDirectReference additiveRistretto oneRoot shortContext = .ok out ∧
      ∃ set, fromSigningRootShares twoOfThree
          [shareNumber 3 (by decide) 4, shareNumber 1 (by decide) 2] = .ok set ∧
        reconstructSigningRoot set = .ok oneRoot := by
  obtain ⟨out, hout, -, -, hset⟩ := threshold_prf_agreement additiveRistretto oneRoot twoOfThree
    (fun _ => ⟨1, one_ne_zero⟩) shortContext (by decide)
    [shareNumber 3 (by decide) 4, shareNumber 1 (by decide) 2] (by decide +kernel)
    (by decide +kernel) (by decide) fun _ => ⟨1, one_ne_zero⟩
  exact ⟨out, hout, hset⟩

/-- A context that does not fit its length field. -/
def longContext : PrfContext :=
  ⟨.ristretto255Sha512, .routerAbEcdsaDerivationYServer, List.replicate (256 ^ 4) 0⟩

theorem longContext_length : ¬ longContext.contextBytes.length < 256 ^ 4 := by
  rw [longContext, List.length_replicate]
  exact lt_irrefl _

/-- A share of the root does not evaluate on it. -/
theorem evaluate_long_context_fails : shareNumber 1 (by decide) 2 ∈
        splitSigningRoot oneRoot twoOfThree (fun _ => ⟨1, one_ne_zero⟩) ∧
      evaluatePartialWithDleqProof additiveRistretto (shareNumber 1 (by decide) 2) longContext
        ⟨1, one_ne_zero⟩ = .error .transcriptLengthOverflow := by
  refine ⟨by decide +kernel, ?_⟩
  rw [evaluatePartialWithDleqProof, evaluatePartialWithBinding,
    hashToGroup_overflow additiveRistretto longContext_length]
  rfl

end SeamsWallet.ThresholdPrf
