import Mathlib.Tactic.NormNum.Prime
import SeamsWallet.Ed25519.ClientSigning
import SeamsWallet.Ed25519.WorkerHandler

/-!
# Two parties make one Ed25519 signature

The client holds `x_c`, the SigningWorker `x_w`, and the account's key belongs
to `2 x_c - x_w`: two and minus one are the Lagrange coefficients at zero of
the identifiers one and two. What the client returns for the worker's prepared
commitments, the worker's finalize handler completes to a signature that
satisfies the Ed25519 equation.

Client and worker build identifiers, key packages and signing packages in
separate crates. Both are shown to run one FROST session, the one of
`signers`.
-/

namespace SeamsWallet.Ed25519Signing

open Library Library.Frost SignerCore Ed25519Client Ed25519Worker Edwards25519 FrostEd25519
  WalletObject

variable {q : ℕ} {G : Type} [AddCommGroup G] [DecidableEq G]

/-- The Ed25519 verification equation, without the cofactor, for a signature
`R ‖ S` over a message under a public key. -/
def SatisfiesEd25519 {q : ℕ} {G : Type} [AddCommGroup G] (frost : FrostEd25519 q G)
    (publicKey : Bytes 32) (message : List UInt8) (signature : Bytes 64) : Prop :=
  ∃ (RBytes SBytes : Bytes 32) (A R : G) (S : ZMod q),
    signature.toList = RBytes.toList ++ SBytes.toList ∧
    frost.curve.decompress publicKey = some A ∧
    frost.curve.decompress RBytes = some R ∧
    scalarFromCanonicalBytes q SBytes = some S ∧
    frost.curve.mulBase S = R + mulScalar (scalarFromBytesModOrderWide q
        (frost.sha512 (RBytes.toList ++ publicKey.toList ++ message))) A

/-! ## Wire forms -/

def wire (prims : Primitives) (frost : FrostEd25519 q G)
    (commitments : SigningCommitments (Element q G)) : CommitmentsWire :=
  ⟨prims.encodeBase64UrlUnpadded (frost.curve.compress commitments.hidingCommitment).toList,
    prims.encodeBase64UrlUnpadded (frost.curve.compress commitments.bindingCommitment).toList⟩

def toWorker (commitments : CommitmentsWire) : NormalSigningCommitments :=
  ⟨commitments.hidingCommitment, commitments.bindingCommitment⟩

def toClient (commitments : NormalSigningCommitments) : CommitmentsWire :=
  ⟨commitments.hidingCommitment, commitments.bindingCommitment⟩

def NonIdentity (commitments : SigningCommitments (Element q G)) : Prop :=
  commitments.bindingCommitment ≠ 0 ∧ commitments.hidingCommitment ≠ 0

variable {commitments : SigningCommitments (Element q G)}
  {prims : Primitives} (hbase64 : LawfulBase64 prims)

include hbase64

variable (frost : FrostEd25519 q G)

theorem commitmentsFromWire_wire (h : NonIdentity commitments) :
    commitmentsFromWire prims frost (wire prims frost commitments) = .ok commitments := by
  simp only [commitmentsFromWire, wire, hbase64.decodeField_encode,
    frost.deserializeElement_compress h.1, frost.deserializeElement_compress h.2,
    mapError_ok, ok_bind]
  rfl

theorem encode_bytes_ne_empty (bytes : Bytes 32) :
    prims.encodeBase64UrlUnpadded bytes.toList ≠ "" := by
  apply hbase64.nonempty
  simp [← List.length_eq_zero_iff]

theorem decodeBase64UrlFixed32_encode (field : String) (bytes : Bytes 32) :
    decodeBase64UrlFixed32 prims field (prims.encodeBase64UrlUnpadded bytes.toList) =
      .ok bytes := by
  have hspace : (prims.encodeBase64UrlUnpadded bytes.toList).toList.all
      (fun c => ¬ isAsciiWhitespace c) = true := by
    rw [List.all_eq_true]
    intro c hc
    rw [decide_eq_true_eq]
    intro hspace
    have halphabet := hbase64.alphabet _ c hc
    simp only [isBase64UrlChar, isAsciiWhitespace, Bool.or_eq_true, Bool.and_eq_true,
      decide_eq_true_eq, beq_iff_eq] at halphabet hspace
    omega
  have hpadding : '=' ∉ (prims.encodeBase64UrlUnpadded bytes.toList).toList := by
    intro hc
    have halphabet := hbase64.alphabet _ _ hc
    revert halphabet
    decide
  simp only [decodeBase64UrlFixed32, Worker.requireNonEmpty,
    ensure_of (encode_bytes_ne_empty hbase64 bytes), ensure_of hspace, ensure_of hpadding,
    hbase64.worker, mapError_ok, ok_bind, Bytes.ofList?_toList, okOr_some]

theorem decodeNormalSigningCommitments_wire (h : NonIdentity commitments) :
    decodeNormalSigningCommitments prims frost (toWorker (wire prims frost commitments)) =
      .ok commitments := by
  simp only [decodeNormalSigningCommitments, toWorker, wire,
    decodeBase64UrlFixed32_encode hbase64, frost.deserializeElement_compress h.1,
    frost.deserializeElement_compress h.2, mapError_ok, ok_bind]
  rfl

omit [DecidableEq G] in
theorem validate_wire (commitments : SigningCommitments (Element q G)) :
    (toWorker (wire prims frost commitments)).validate = .ok () := by
  have hhiding := encode_bytes_ne_empty hbase64 (frost.curve.compress commitments.hidingCommitment)
  have hbinding := encode_bytes_ne_empty hbase64
    (frost.curve.compress commitments.bindingCommitment)
  unfold NormalSigningCommitments.validate Core.requireNonEmpty
  exact (congrArg (· >>= _) (ensure_of hhiding _)).trans (ensure_of hbinding _)

theorem encodeCommitments_of_nonIdentity (doing : String) (h : NonIdentity commitments) :
    Round1State.encodeCommitments prims frost doing commitments =
      .ok (toWorker (wire prims frost commitments)) := by
  have hvalidate := validate_wire hbase64 frost commitments
  simp only [toWorker, wire] at hvalidate
  simp only [Round1State.encodeCommitments, frost.serialize_of_ne_zero h.1,
    frost.serialize_of_ne_zero h.2, mapError_ok, ok_bind, hvalidate]
  rfl

omit hbase64

/-! ## The finalize handler -/

/-- Once the request is valid, the handler returns what it signs. -/
theorem handleNormalSigningFinalizeRequest_of_signature {Admission : Type}
    {env : NearEnvironment Admission} {frost : FrostEd25519 q G}
    {materialized : MaterializedFinalizeRequest Admission}
    (hvalid : materialized.validate env frost = .ok ()) {signature : Bytes 64}
    (hsignature : finalizeSignature env.prims env.decodeBase58 frost
      materialized.request.request.protocol
      materialized.activeSigningWorker.accountPublicKey
      materialized.material.outputMaterial materialized.serverRound1 = .ok signature) :
    ∃ response, handleNormalSigningFinalizeRequest env frost materialized = .ok response ∧
      response.signature = signature.toList := by
  have hnonempty : signature.toList ≠ [] := by simp [← List.length_eq_zero_iff]
  have hchecks := hvalid
  simp only [MaterializedFinalizeRequest.validate, ActiveSigningWorkerState.validateForScope,
    ActiveSigningWorkerState.validate, Worker.requirePositiveMs, ok_iff] at hchecks
  obtain ⟨-, -, ⟨⟨-, -, -, -, hworker, -⟩, hscope, hmatches⟩, -, -, hsignedAt, -, -⟩ := hchecks
  simp only [handleNormalSigningFinalizeRequest, hvalid, ok_bind, hsignature,
    ensure_of hnonempty, NormalSigningResponse.validate, hscope, hworker,
    ensure_of hmatches.2.2, ensure_of hsignedAt]
  exact ⟨_, rfl, rfl⟩

/-! ## Identifiers and coefficients -/

theorem identifierTryFrom_one : identifierTryFrom q 1 = .ok 1 := by
  simp [identifierTryFrom, ensure_of trivial, Functor.map, Except.map]

theorem identifierTryFrom_two : identifierTryFrom q 2 = .ok 2 := by
  simp [identifierTryFrom, ensure_of trivial, Functor.map, Except.map]

omit [DecidableEq G] in
include frost in
theorem two_lt_order : 2 < q :=
  lt_trans (by decide) frost.curve.identifiers_lt

theorem one_ne_two (hq : 2 < q) : (1 : ZMod q) ≠ 2 := by
  have : Fact (1 < q) := ⟨by omega⟩
  intro h
  have hzero : (1 : ZMod q) = 0 := by linear_combination -h
  exact one_ne_zero hzero

theorem identifierMap_pair {V : Type} (hq : 2 < q) (a b : V) :
    identifierMap [((1 : ZMod q), a), (2, b)] = [(1, a), (2, b)] := by
  have hone : (1 : ZMod q).val = 1 := by
    rw [← Nat.cast_one, ZMod.val_natCast_of_lt (by omega)]
  have htwo : (2 : ZMod q).val = 2 := by
    rw [← Nat.cast_ofNat, ZMod.val_natCast_of_lt hq]
  simp [identifierMap, insertIdentifier, hone, htwo, (one_ne_two hq).symm]

section Prime

variable [Fact q.Prime]

/-- The Lagrange coefficients at zero of the two parties. -/
def coefficient (identifier : ZMod q) : ZMod q := if identifier = 1 then 2 else -1

theorem coefficient_one : coefficient (1 : ZMod q) = 2 := if_pos rfl

theorem coefficient_two (hq : 2 < q) : coefficient (2 : ZMod q) = -1 :=
  if_neg (one_ne_two hq).symm

theorem deriveInterpolatingValue_one (hq : 2 < q) :
    deriveInterpolatingValue [(1 : ZMod q), 2] 1 = .ok (coefficient 1) := by
  have hsub : (2 : ZMod q) - 1 = 1 := by ring
  simp [deriveInterpolatingValue, (one_ne_two hq).symm, hsub, coefficient_one, ensure,
    pure, Except.pure]

theorem deriveInterpolatingValue_two (hq : 2 < q) :
    deriveInterpolatingValue [(1 : ZMod q), 2] 2 = .ok (coefficient 2) := by
  have hsub : (1 : ZMod q) - 2 = -1 := by ring
  simp [deriveInterpolatingValue, one_ne_two hq, hsub, coefficient_two hq, ensure,
    pure, Except.pure]

/-! ## The session -/

def signers (x_c x_w : ZMod q) (clientNonces workerNonces : SigningNonces (ZMod q)) :
    List (Signer (ZMod q)) :=
  [⟨1, x_c, clientNonces⟩, ⟨2, x_w, workerNonces⟩]

theorem signers_nodup (hq : 2 < q) (x_c x_w : ZMod q)
    (clientNonces workerNonces : SigningNonces (ZMod q)) :
    ((signers x_c x_w clientNonces workerNonces).map Signer.identifier).Nodup := by
  simpa [signers] using one_ne_two hq

theorem buildSigningPackage_pair (x_c x_w : ZMod q)
    (clientNonces workerNonces : SigningNonces (ZMod q)) (message : List UInt8) :
    buildSigningPackage message
        [((1 : ZMod q), clientNonces.commitments frost.ciphersuite),
          (2, workerNonces.commitments frost.ciphersuite)] =
      signingPackage frost.ciphersuite (signers x_c x_w clientNonces workerNonces)
        message := rfl

abbrev PairSession (frost : FrostEd25519 q G) (x_c x_w : ZMod q)
    (clientNonces workerNonces : SigningNonces (ZMod q)) (message : List UInt8) : Type :=
  Session frost.ciphersuite ((2 * x_c - x_w) • frost.generator)
    (signingPackage frost.ciphersuite (signers x_c x_w clientNonces workerNonces) message)

variable {x_c x_w : ZMod q} {clientNonces workerNonces : SigningNonces (ZMod q)}
  {message : List UInt8}

def shareOf {frost : FrostEd25519 q G} {verifyingKey : Element q G}
    {package : SigningPackage (ZMod q) (Element q G)}
    (session : Session frost.ciphersuite verifyingKey package)
    (identifier signingShare : ZMod q) (nonces : SigningNonces (ZMod q)) : ZMod q :=
  computeSignatureShare nonces (session.factor identifier) (coefficient identifier)
    signingShare session.c

theorem interpolation_weights : (2 : ZMod q) * (2 - 1)⁻¹ = 2 ∧ (1 : ZMod q) * (1 - 2)⁻¹ = -1 := by
  have hclient : (2 : ZMod q) - 1 = 1 := by ring
  have hworker : (1 : ZMod q) - 2 = -1 := by ring
  rw [hclient, hworker, inv_one, mul_one, inv_neg_one, one_mul]
  exact ⟨rfl, rfl⟩

omit [DecidableEq G] in
/-- The point both verifying shares interpolate is the one of the joint secret. -/
theorem groupPoint_mulBase (x_c x_w : ZMod q) :
    groupPoint (frost.curve.mulBase x_c) (frost.curve.mulBase x_w) (1 : ZMod q) 2 =
      frost.curve.mulBase (2 * x_c - x_w) := by
  have hsplit : (2 * x_c - x_w) • frost.generator =
      (2 : ZMod q) • x_c • frost.generator + (-1 : ZMod q) • x_w • frost.generator := by
    module
  rw [groupPoint, interpolation_weights.1, interpolation_weights.2,
    ← frost.coe_smul_generator (2 * x_c - x_w), hsplit, AddSubgroup.coe_add, Element.coe_smul 2,
    Element.coe_smul (-1), frost.coe_smul_generator, frost.coe_smul_generator]

/-- What either party signs in the session. -/
theorem sign_pair {frost : FrostEd25519 q G}
    (session : PairSession frost x_c x_w clientNonces workerNonces message) {s : Signer (ZMod q)}
    (hs : s ∈ signers x_c x_w clientNonces workerNonces)
    (hcoefficient : deriveInterpolatingValue [(1 : ZMod q), 2] s.identifier =
      .ok (coefficient s.identifier)) :
    sign frost.ciphersuite (signingPackage frost.ciphersuite
        (signers x_c x_w clientNonces workerNonces) message) s.nonces
      ⟨s.identifier, s.signingShare, s.signingShare • frost.generator,
        (2 * x_c - x_w) • frost.generator, 2⟩ =
      .ok (shareOf session s.identifier s.signingShare s.nonces) :=
  sign_of_session session (signers_nodup (two_lt_order frost) x_c x_w clientNonces workerNonces) hs
    hcoefficient rfl rfl rfl (le_refl 2)

/-! ## Key packages -/

theorem deserializeElement_mulBase {x : ZMod q} (hx : x ≠ 0) :
    frost.deserializeElement (frost.curve.compress (frost.curve.mulBase x)).toList =
      .ok (x • frost.generator) := by
  rw [← frost.coe_smul_generator]
  exact frost.deserializeElement_compress (frost.smul_generator_ne_zero hx)

omit [DecidableEq G] [Fact q.Prime] in
theorem verifyingShareBytes_of_canonical {bytes : Bytes 32} {x : ZMod q}
    (h : scalarFromCanonicalBytes q bytes = some x) :
    verifyingShareBytesFromSigningShareBytes frost bytes =
      frost.curve.compress (frost.curve.mulBase x) := by
  unfold scalarFromCanonicalBytes at h
  split_ifs at h
  rw [verifyingShareBytesFromSigningShareBytes, scalarFromBytesModOrder, Option.some.inj h]

variable {y : ZMod q}

theorem keyPackageFromSigningShareBytes_of_canonical {bytes : Bytes 32} {x : ZMod q}
    (identifier : ZMod q)
    (h : scalarFromCanonicalBytes q bytes = some x) (hx : x ≠ 0) (hy : y ≠ 0) :
    keyPackageFromSigningShareBytes frost bytes
        (frost.curve.compress (frost.curve.mulBase y)) identifier =
      .ok ⟨identifier, x, x • frost.generator, y • frost.generator, 2⟩ := by
  simp only [keyPackageFromSigningShareBytes, deserializeScalar_of_canonical h,
    verifyingShareBytes_of_canonical frost h, deserializeElement_mulBase frost hx,
    deserializeElement_mulBase frost hy, mapError_ok, ok_bind]
  rfl

/-! ## The client -/

omit [DecidableEq G] in
theorem computeGroupPublicKey_pair (x_c x_w : ZMod q) :
    computeThresholdEd25519GroupPublicKey2pFromVerifyingShares frost
        (frost.curve.compress (frost.curve.mulBase x_c))
        (frost.curve.compress (frost.curve.mulBase x_w)) 1 2 =
      .ok (frost.curve.compress (frost.curve.mulBase (2 * x_c - x_w))) := by
  have hids : validateParticipantIds 1 2 = .ok () := by decide
  have hne := one_ne_two (two_lt_order frost)
  have hdenominators : (2 : ZMod q) - 1 ≠ 0 ∧ (1 : ZMod q) - 2 ≠ 0 :=
    ⟨sub_ne_zero.mpr hne.symm, sub_ne_zero.mpr hne⟩
  simp only [computeThresholdEd25519GroupPublicKey2pFromVerifyingShares, hids, ok_bind,
    decompressVerifyingSharePoint, frost.curve.decompress_compress, okOr_some,
    UInt16.reduceToNat, Nat.cast_one, Nat.cast_ofNat, ensure_of hdenominators, groupPoint_mulBase]
  rfl

/-- The client's request for the worker's commitments, under the key of both
shares. -/
def clientRequest (prims : Primitives) (frost : FrostEd25519 q G) (clientShare : Bytes 32)
    (x_c x_w : ZMod q) (digest : Bytes 32)
    (workerCommitments : SigningCommitments (Element q G)) : ClientSigningRequest where
  clientScalarShare := clientShare
  registeredPublicKey := frost.curve.compress (frost.curve.mulBase (2 * x_c - x_w))
  participantIds := (1, 2)
  admittedDigest := digest
  signingWorkerCommitments := wire prims frost workerCommitments
  signingWorkerVerifyingShare := frost.curve.compress (frost.curve.mulBase x_w)

def clientAnswer {message : List UInt8} (prims : Primitives) (frost : FrostEd25519 q G)
    (session : PairSession frost x_c x_w clientNonces workerNonces message) :
    ClientSigningShare where
  clientCommitments := wire prims frost (clientNonces.commitments frost.ciphersuite)
  clientVerifyingShare := frost.curve.compress (frost.curve.mulBase x_c)
  clientSignatureShareB64u := prims.encodeBase64UrlUnpadded
    (scalarToBytes (shareOf session 1 x_c clientNonces)).toList

variable {hidingRandom bindingRandom : Bytes 32}

include hbase64 in
theorem createClientSigningShare_of_session {clientShare : Bytes 32}
    (hshare : scalarFromCanonicalBytes q clientShare = some x_c) (hx_c : x_c ≠ 0)
    (hkey : 2 * x_c - x_w ≠ 0) {digest : Bytes 32}
    (hnonces : frost.commit x_c hidingRandom bindingRandom = clientNonces)
    (hclient : NonIdentity (clientNonces.commitments frost.ciphersuite))
    (hworker : NonIdentity (workerNonces.commitments frost.ciphersuite))
    (session : PairSession frost x_c x_w clientNonces workerNonces digest.toList) :
    createClientSigningShare prims frost (clientRequest prims frost clientShare x_c x_w digest
          (workerNonces.commitments frost.ciphersuite)) hidingRandom bindingRandom =
      .ok (clientAnswer prims frost session) := by
  have hq := two_lt_order frost
  have hscalar : (some x_c).isSome = true ∧ x_c ≠ 0 := ⟨rfl, hx_c⟩
  have hpackage := buildSigningPackage_pair frost x_c x_w clientNonces workerNonces
    digest.toList
  have hsign := sign_pair session List.mem_cons_self (deriveInterpolatingValue_one hq)
  simp only [createClientSigningShare, clientRequest, hshare, Option.getD_some,
    ensure_of hscalar, computeGroupPublicKey_pair, mapError_ok, ok_bind,
    ensure_of, identifierTryFrom_one, identifierTryFrom_two,
    commitmentsFromWire_wire hbase64 frost hworker,
    keyPackageFromSigningShareBytes_of_canonical frost 1 hshare hx_c hkey,
    clientRound1Commit, hnonces, commitmentsToWire, frost.serialize_of_ne_zero hclient.1,
    frost.serialize_of_ne_zero hclient.2, pure,
    Except.pure, identifierMap_pair hq, hpackage, clientRound2SignatureShare, hsign,
      signatureShareToB64u,
    verifyingShareBytes_of_canonical frost hshare]
  rfl

/-! ## The worker -/

/-- The two shares add up to the response of a Schnorr signature. -/
theorem sum_shares_smul_generator
    (session : PairSession frost x_c x_w clientNonces workerNonces message) :
    (shareOf session 1 x_c clientNonces + shareOf session 2 x_w workerNonces) •
        frost.generator =
      session.R + session.c • (2 * x_c - x_w) • frost.generator := by
  have hq := two_lt_order frost
  have hjoint : 2 * x_c - x_w = ((signers x_c x_w clientNonces workerNonces).map fun s =>
      coefficient s.identifier * s.signingShare).sum := by
    simp [signers, coefficient_one, coefficient_two hq, sub_eq_add_neg]
  rw [← sum_shares_of_session session (signers_nodup hq x_c x_w clientNonces workerNonces)
    coefficient (congrArg (· • frost.generator) hjoint)]
  simp only [signers, List.map_cons, List.map_nil, List.sum_cons, List.sum_nil, add_zero]
  rfl

/-- A Schnorr signature of the session, in its encoding, is an Ed25519
signature. -/
theorem satisfiesEd25519_of_session {S : ZMod q} (hy : y ≠ 0)
    {package : SigningPackage (ZMod q) (Element q G)}
    (session : Session frost.ciphersuite (y • frost.generator) package) (hR : session.R ≠ 0)
    (hequation : S • frost.generator = session.R + session.c • y • frost.generator)
    {signature : Bytes 64}
    (hsignature : signature.toList = (frost.curve.compress session.R).toList ++
      (scalarToBytes S).toList) :
    SatisfiesEd25519 frost (frost.curve.compress (frost.curve.mulBase y)) package.message
      signature := by
  have hc : scalarFromBytesModOrderWide q (frost.sha512 ((frost.curve.compress session.R).toList ++
        (frost.curve.compress (frost.curve.mulBase y)).toList ++ package.message)) =
      session.c := by
    have hchallenge := session.c_eq
    simp only [challenge, frost.serialize_of_ne_zero hR,
      frost.serialize_of_ne_zero (frost.smul_generator_ne_zero hy),
      frost.coe_smul_generator, ok_bind, pure_eq_ok] at hchallenge
    exact hchallenge
  refine ⟨_, _, frost.curve.mulBase y, session.R, S, hsignature,
    frost.curve.decompress_compress _, frost.curve.decompress_compress _,
    scalarFromCanonicalBytes_scalarToBytes frost.curve.order_le S, ?_⟩
  rw [hc, ← frost.coe_smul_generator, hequation, AddSubgroup.coe_add, Element.coe_smul,
    frost.coe_smul_generator]

theorem aggregateSignature_of_session (hy : y ≠ 0)
    {parties : List (Signer (ZMod q))} (session : Session frost.ciphersuite (y • frost.generator)
      (signingPackage frost.ciphersuite parties message)) (hR : session.R ≠ 0)
    {shares : List (ZMod q × ZMod q)} {verifyingShares : List (ZMod q × Element q G)}
    (hshares : shares.map Prod.fst = parties.map Signer.identifier)
    (hverifying : verifyingShares.map Prod.fst = parties.map Signer.identifier)
    (hequation : (shares.map Prod.snd).sum • frost.generator =
      session.R + session.c • y • frost.generator) :
    ∃ signature, aggregateSignature frost (signingPackage frost.ciphersuite parties message)
        (y • frost.generator) verifyingShares shares = .ok signature ∧
      SatisfiesEd25519 frost (frost.curve.compress (frost.curve.mulBase y)) message
        signature := by
  have haggregate : aggregate frost.ciphersuite
      (signingPackage frost.ciphersuite parties message) shares verifyingShares
      (y • frost.generator) = .ok ⟨session.R, (shares.map Prod.snd).sum⟩ :=
    aggregate_of_session session hshares hverifying hequation
  let bytes := (frost.curve.compress session.R).toList ++
    (scalarToBytes (shares.map Prod.snd).sum).toList
  have hlength : bytes.length = 64 := by
    simp only [bytes, List.length_append, List.Vector.toList_length]
  have hserialize : Signature.serialize frost.ciphersuite
      ⟨session.R, (shares.map Prod.snd).sum⟩ = .ok bytes := by
    simp only [Signature.serialize, frost.serialize_of_ne_zero hR, ok_bind]
    rfl
  have hofList : Bytes.ofList? 64 bytes = some ⟨bytes, hlength⟩ := dif_pos hlength
  refine ⟨⟨bytes, hlength⟩, ?_, satisfiesEd25519_of_session frost hy session hR hequation rfl⟩
  simp only [aggregateSignature, haggregate, mapError_ok, ok_bind, hserialize, hofList]
  rfl

/-- What the client's answer and the worker's prepared state make of a finalize
request. -/
def finalizeProtocol (prims : Primitives) (frost : FrostEd25519 q G)
    (share : ClientSigningShare) (serverCommitments : NormalSigningCommitments)
    (x_w : ZMod q) : FrostFinalizeProtocol where
  clientCommitments := toWorker share.clientCommitments
  serverCommitments := serverCommitments
  clientVerifyingShareB64u :=
    prims.encodeBase64UrlUnpadded share.clientVerifyingShare.toList
  serverVerifyingShareB64u := prims.encodeBase64UrlUnpadded
    (frost.curve.compress (frost.curve.mulBase x_w)).toList
  clientSignatureShareB64u := share.clientSignatureShareB64u

include hbase64 in
theorem verifyingShareFromB64u_mulBase {x : ZMod q} (hx : x ≠ 0) :
    verifyingShareFromB64u prims frost (prims.encodeBase64UrlUnpadded
      (frost.curve.compress (frost.curve.mulBase x)).toList) = .ok (x • frost.generator) := by
  simp only [verifyingShareFromB64u, hbase64.decodeField_encode, ok_bind,
    deserializeElement_mulBase frost hx, mapError_ok]

omit [DecidableEq G] in
include hbase64 in
theorem signatureShareFromB64u_encode (share : ZMod q) :
    signatureShareFromB64u prims frost (prims.encodeBase64UrlUnpadded
      (scalarToBytes share).toList) = .ok share := by
  have hcanonical := scalarFromCanonicalBytes_scalarToBytes
    frost.curve.order_le share
  rw [signatureShareFromB64u, hbase64.decodeField_encode, ok_bind,
    deserializeScalar_of_canonical hcanonical, mapError_ok]

variable {workerShare : Bytes 32} {share : ClientSigningShare}

include hbase64 in
theorem finalizeSignature_of_session {decodeBase58 : String → Except String (List UInt8)}
    (hshare : scalarFromCanonicalBytes q workerShare = some x_w) (hx_c : x_c ≠ 0)
    (hx_w : x_w ≠ 0) (hkey : 2 * x_c - x_w ≠ 0) {record : Round1Record}
    (hclient : NonIdentity (clientNonces.commitments frost.ciphersuite))
    (hworker : NonIdentity (workerNonces.commitments frost.ciphersuite))
    (hnonces : record.round1State.openSigningNonces frost = .ok workerNonces)
    (hcommitments : record.round1State.commitments =
      toWorker (wire prims frost (workerNonces.commitments frost.ciphersuite)))
    (session : PairSession frost x_c x_w clientNonces workerNonces
      record.admittedSigningDigest.toList)
    (hR : session.R ≠ 0) (hanswer : share = clientAnswer prims frost session)
    {accountPublicKey : String} (haccount : decodeNearEd25519PublicKey decodeBase58
      "active SigningWorker account_public_key" accountPublicKey =
      .ok (frost.curve.compress (frost.curve.mulBase (2 * x_c - x_w)))) :
    ∃ signature, finalizeSignature prims decodeBase58 frost
        (finalizeProtocol prims frost share record.round1State.commitments x_w)
        accountPublicKey workerShare record = .ok signature ∧
      SatisfiesEd25519 frost (frost.curve.compress (frost.curve.mulBase (2 * x_c - x_w)))
        record.admittedSigningDigest.toList signature := by
  have hq := two_lt_order frost
  have hsign := sign_pair session (List.mem_cons_of_mem _ List.mem_cons_self)
    (deriveInterpolatingValue_two hq)
  have hsum : (([((1 : ZMod q), shareOf session 1 x_c clientNonces),
      (2, shareOf session 2 x_w workerNonces)]).map Prod.snd).sum • frost.generator =
      session.R + session.c • (2 * x_c - x_w) • frost.generator := by
    rw [← sum_shares_smul_generator frost session]
    simp only [List.map_cons, List.map_nil, List.sum_cons, List.sum_nil, add_zero]
  have hverifying : ([((1 : ZMod q), x_c • frost.generator),
      (2, x_w • frost.generator)]).map Prod.fst =
      (signers x_c x_w clientNonces workerNonces).map Signer.identifier := rfl
  obtain ⟨signature, haggregate, hsatisfies⟩ := aggregateSignature_of_session frost hkey
    session hR rfl hverifying hsum
  refine ⟨signature, ?_, hsatisfies⟩
  have hpackage := buildSigningPackage_pair frost x_c x_w clientNonces workerNonces
    record.admittedSigningDigest.toList
  simp only [finalizeSignature, finalizeProtocol, hanswer, clientAnswer, ensure_of, ok_bind,
    hcommitments, decodeNormalSigningCommitments_wire hbase64 frost hworker,
    decodeNormalSigningCommitments_wire hbase64 frost hclient, haccount,
    decodeBase64UrlFixed32_encode hbase64, verifyingShareBytes_of_canonical frost hshare,
    identifierTryFrom_one, identifierTryFrom_two, mapError_ok,
    keyPackageFromSigningShareBytes_of_canonical frost 2 hshare hx_w hkey, hpackage, hnonces,
    hsign, deserializeElement_mulBase frost hkey,
    verifyingShareFromB64u_mulBase hbase64 frost hx_c,
    verifyingShareFromB64u_mulBase hbase64 frost hx_w,
    signatureShareFromB64u_encode hbase64, identifierMap_pair hq, haggregate]

/-! ## The prepared state -/

def NonZero {q : ℕ} (nonces : SigningNonces (ZMod q)) : Prop :=
  nonces.hidingNonce ≠ 0 ∧ nonces.bindingNonce ≠ 0

theorem nonIdentity_of_nonZero {nonces : SigningNonces (ZMod q)} (h : NonZero nonces) :
    NonIdentity (nonces.commitments frost.ciphersuite) :=
  ⟨frost.smul_generator_ne_zero h.2, frost.smul_generator_ne_zero h.1⟩

def preparedState (prims : Primitives) (frost : FrostEd25519 q G)
    (nonces : SigningNonces (ZMod q)) : Round1State :=
  ⟨frost.encodeSigningNonces nonces,
    toWorker (wire prims frost (nonces.commitments frost.ciphersuite))⟩

theorem openSigningNonces_preparedState (nonces : SigningNonces (ZMod q)) :
    (preparedState prims frost nonces).openSigningNonces frost = .ok nonces := by
  simp only [Round1State.openSigningNonces, deserializeSigningNonces,
    preparedState, frost.decode_encodeSigningNonces, okOr_some, mapError_ok]

include hbase64 in
theorem prepareEd25519Round1_of_nonZero
    (hshare : scalarFromCanonicalBytes q workerShare = some x_w)
    (hnonces : NonZero (frost.commit x_w hidingRandom bindingRandom)) :
    prepareEd25519Round1 prims frost workerShare hidingRandom bindingRandom =
      .ok (preparedState prims frost (frost.commit x_w hidingRandom bindingRandom)) := by
  have hne := nonIdentity_of_nonZero frost hnonces
  set nonces := frost.commit x_w hidingRandom bindingRandom
  have hserialize : frost.serializeSigningNonces nonces =
      .ok (frost.encodeSigningNonces nonces) := by
    simp only [serializeSigningNonces, frost.serialize_of_ne_zero hne.1,
      frost.serialize_of_ne_zero hne.2, ok_bind]
    rfl
  have hvalidate : (preparedState prims frost nonces).validate prims frost = .ok () := by
    have hcommitments : (preparedState prims frost nonces).commitments.validate = .ok () :=
      validate_wire hbase64 frost _
    simp only [Round1State.validate, hcommitments, ok_bind, openSigningNonces_preparedState,
      encodeCommitments_of_nonIdentity hbase64 frost "validate" hne]
    exact ensure_of rfl _
  simp only [preparedState] at hvalidate
  simp only [prepareEd25519Round1, deserializeScalar_of_canonical hshare,
    mapError_ok, ok_bind, Round1State.create, hserialize, nonces,
    encodeCommitments_of_nonIdentity hbase64 frost "serialize" hne, hvalidate]
  rfl

/-! ## The registered key -/

omit [DecidableEq G] in
/-- The point the client compares with the registered key, for the identifiers
one and two and a verifying share without a component of small order. -/
theorem groupPoint_one_two (hq : 2 < q) (X W : G) (hW : q • W = 0) :
    groupPoint X W (1 : ZMod q) 2 = 2 • X - W := by
  have htwo : mulScalar (2 : ZMod q) X = 2 • X := by
    have hval : (2 : ZMod q).val = 2 := by
      rw [← Nat.cast_ofNat, ZMod.val_natCast_of_lt hq]
    rw [mulScalar, hval]
  have hneg : mulScalar (-1 : ZMod q) W = -W := by
    have h := Element.coe_smul (-1 : ZMod q) (⟨W, hW⟩ : Element q G)
    rw [← h, neg_one_smul, AddSubgroup.coe_neg]
  rw [groupPoint, interpolation_weights.1, interpolation_weights.2, htwo, hneg, sub_eq_add_neg]

end Prime

/-! ## The signature is valid -/

/-- For shares `x_c` and `x_w` of a key and nonces for which FROST forms no
identity element, the client answers the worker's prepared commitments, and
every valid finalize request with that answer returns a signature of the digest
under the key. In any case the client answers only if both verifying shares
interpolate the registered key at its participant ids: twice the client's point
minus the worker's, for the ids one and two and a worker point of prime
order. -/
theorem two_party_signature_valid {q : ℕ} [Fact q.Prime] {G : Type} [AddCommGroup G]
    [DecidableEq G] {Admission : Type} (env : NearEnvironment Admission)
    (hbase64 : LawfulBase64 env.prims) (frost : FrostEd25519 q G) :
    (∀ (clientShare workerShare digest clientHiding clientBinding workerHiding
          workerBinding : Bytes 32) (x_c x_w : ZMod q),
      scalarFromCanonicalBytes q clientShare = some x_c → x_c ≠ 0 →
      scalarFromCanonicalBytes q workerShare = some x_w → x_w ≠ 0 →
      2 * x_c - x_w ≠ 0 →
      NonZero (frost.commit x_c clientHiding clientBinding) →
      NonZero (frost.commit x_w workerHiding workerBinding) →
      groupCommitment frost.ciphersuite ((2 * x_c - x_w) • frost.generator)
        (signingPackage frost.ciphersuite
          (signers x_c x_w (frost.commit x_c clientHiding clientBinding)
            (frost.commit x_w workerHiding workerBinding)) digest.toList) ≠ .ok 0 →
      ∃ state share, prepareEd25519Round1 env.prims frost workerShare workerHiding workerBinding =
          .ok state ∧
        createClientSigningShare env.prims frost {
            clientScalarShare := clientShare
            registeredPublicKey :=
              frost.curve.compress (frost.curve.mulBase (2 * x_c - x_w))
            participantIds := (1, 2)
            admittedDigest := digest
            signingWorkerCommitments := toClient state.commitments
            signingWorkerVerifyingShare :=
              verifyingShareBytesFromSigningShareBytes frost workerShare }
          clientHiding clientBinding = .ok share ∧
        ∀ materialized : MaterializedFinalizeRequest Admission,
          materialized.validate env frost = .ok () →
          materialized.material.outputMaterial = workerShare →
          materialized.serverRound1.round1State = state →
          materialized.serverRound1.admittedSigningDigest = digest →
          decodeNearEd25519PublicKey env.decodeBase58
              "active SigningWorker account_public_key"
              materialized.activeSigningWorker.accountPublicKey =
            .ok (frost.curve.compress (frost.curve.mulBase (2 * x_c - x_w))) →
          materialized.request.request.protocol =
            finalizeProtocol env.prims frost share state.commitments x_w →
          ∃ response signature,
            handleNormalSigningFinalizeRequest env frost materialized = .ok response ∧
            response.signature = List.Vector.toList signature ∧
            SatisfiesEd25519 frost
              (frost.curve.compress (frost.curve.mulBase (2 * x_c - x_w))) digest.toList
              signature) ∧
    (∀ request hidingRandom bindingRandom share,
      createClientSigningShare env.prims frost request hidingRandom bindingRandom = .ok share →
      ∃ x W, scalarFromCanonicalBytes q request.clientScalarShare = some x ∧
        frost.curve.decompress request.signingWorkerVerifyingShare = some W ∧
        frost.curve.compress (groupPoint (frost.curve.mulBase x) W
            (request.participantIds.1.toNat : ZMod q)
            (request.participantIds.2.toNat : ZMod q)) = request.registeredPublicKey ∧
        (request.participantIds = (1, 2) → q • W = 0 →
          frost.curve.compress (2 • frost.curve.mulBase x - W) = request.registeredPublicKey)) := by
  have hq := two_lt_order frost
  constructor
  · intro clientShare workerShare digest clientHiding clientBinding workerHiding
      workerBinding x_c x_w hclientShare hx_c hworkerShare hx_w hkey hclient hworker hR
    have hclientNe := nonIdentity_of_nonZero frost hclient
    have hworkerNe := nonIdentity_of_nonZero frost hworker
    have hprepare := prepareEd25519Round1_of_nonZero hbase64 frost hworkerShare hworker
    obtain ⟨session, hRne⟩ : ∃ session : PairSession frost x_c x_w _ _ digest.toList,
        session.R ≠ 0 := by
      refine exists_session (fun Q hQ => ⟨_, frost.serialize_of_ne_zero hQ⟩)
        (frost.smul_generator_ne_zero hkey) ?_ ?_ hR
      · rw [signingPackage_identifiers]
        exact signers_nodup hq x_c x_w _ _
      · intro entry hentry
        rcases List.mem_cons.mp hentry with rfl | hentry
        · exact hclientNe
        · cases List.mem_singleton.mp hentry
          exact hworkerNe
    have hanswer := createClientSigningShare_of_session hbase64 frost hclientShare hx_c hkey
      rfl hclientNe hworkerNe session
    rw [verifyingShareBytes_of_canonical frost hworkerShare]
    refine ⟨_, _, hprepare, hanswer, ?_⟩
    intro materialized hvalid hmaterial hstate hdigest haccount hprotocol
    subst hdigest
    have hnonces : materialized.serverRound1.round1State.openSigningNonces frost =
        .ok (frost.commit x_w workerHiding workerBinding) := by
      rw [hstate, openSigningNonces_preparedState]
    have hcommitments : materialized.serverRound1.round1State.commitments =
        toWorker (wire env.prims frost
          ((frost.commit x_w workerHiding workerBinding).commitments frost.ciphersuite)) := by
      rw [hstate, preparedState]
    obtain ⟨signature, hsignature, hsatisfies⟩ := finalizeSignature_of_session hbase64 frost
      hworkerShare hx_c hx_w hkey hclientNe hworkerNe hnonces hcommitments session hRne rfl
      haccount
    have hfinalize : finalizeSignature env.prims env.decodeBase58 frost
        materialized.request.request.protocol
        materialized.activeSigningWorker.accountPublicKey
        materialized.material.outputMaterial materialized.serverRound1 =
        .ok signature := by
      rw [hprotocol, hmaterial, ← hsignature, hstate]
    obtain ⟨response, hresponse, hbytes⟩ :=
      handleNormalSigningFinalizeRequest_of_signature hvalid hfinalize
    exact ⟨response, signature, hresponse, hbytes, hsatisfies⟩
  · intro request hidingRandom bindingRandom share hok
    simp only [createClientSigningShare, ok_iff] at hok
    obtain ⟨⟨hsome, -⟩, computed, hcomputed, hregistered, -⟩ := hok
    obtain ⟨x, hx⟩ := Option.isSome_iff_exists.mp hsome
    simp only [computeThresholdEd25519GroupPublicKey2pFromVerifyingShares,
      decompressVerifyingSharePoint, ok_iff, frost.curve.decompress_compress, Option.some.injEq,
      exists_eq_left', hx, Option.getD_some] at hcomputed
    obtain ⟨-, W, hW, -, rfl⟩ := hcomputed
    refine ⟨x, W, hx, hW, hregistered, ?_⟩
    intro hids horder
    simpa only [hids, UInt16.reduceToNat, Nat.cast_one, Nat.cast_ofNat,
      groupPoint_one_two hq _ W horder] using hregistered

/-! ## A small curve

A cyclic group of order `8 * 65537` stands for the curve, with its cofactor, and
every hash is one number. Byte strings are written in hexadecimal. -/

instance fact65537 : Fact (Nat.Prime 65537) := ⟨by norm_num⟩

def SmallGroup : Type := ZMod 524296

instance : DecidableEq SmallGroup := inferInstanceAs (DecidableEq (ZMod 524296))

def smallMultiple (n : ℕ) (x : ZMod 524296) : ZMod 524296 := n * x

theorem smallMultiple_zero (x : ZMod 524296) : smallMultiple 0 x = 0 := by
  rw [smallMultiple, Nat.cast_zero, zero_mul]

theorem smallMultiple_succ (n : ℕ) (x : ZMod 524296) :
    smallMultiple (n + 1) x = smallMultiple n x + x := by
  rw [smallMultiple, smallMultiple, Nat.cast_succ, add_mul, one_mul]

instance : AddCommGroup SmallGroup where
  __ := (inferInstance : AddCommGroup (ZMod 524296))
  nsmul := smallMultiple
  nsmul_zero := smallMultiple_zero
  nsmul_succ := smallMultiple_succ

def smallPoint (n : ZMod 524296) : SmallGroup := n

def smallCurve : Edwards25519 65537 SmallGroup where
  basepoint := smallPoint 8
  basepoint_ne_zero := by decide +kernel
  order_nsmul_basepoint := by decide +kernel
  identifiers_lt := (by decide : 65536 ≤ 65537)
  order_le := by norm_num
  compress Q := toLittleEndian 32 (ZMod.val (n := 524296) Q)
  decompress bytes := some (smallPoint (ofLittleEndian bytes.toList : ZMod 524296))
  decompress_compress Q := by
    have hlt : ZMod.val (n := 524296) Q < 256 ^ 32 :=
      lt_trans (ZMod.val_lt (n := 524296) Q) (by norm_num)
    rw [ofLittleEndian_toLittleEndian_of_lt hlt]
    exact congrArg some (ZMod.natCast_zmod_val (n := 524296) Q)

/-- Every hash is the number `k`. -/
def smallFrost (k : ℕ) : FrostEd25519 65537 SmallGroup where
  curve := smallCurve
  sha512 _ := toLittleEndian 64 k
  encodeSigningNonces nonces := (toLittleEndian 32 nonces.hidingNonce.val).toList ++
    (toLittleEndian 32 nonces.bindingNonce.val).toList
  decodeSigningNonces bytes := some ⟨(ofLittleEndian (bytes.take 32) : ZMod 65537),
    (ofLittleEndian (bytes.drop 32) : ZMod 65537)⟩
  decode_encodeSigningNonces nonces := by
    have hfit : ∀ s : ZMod 65537, s.val < 256 ^ 32 := fun s =>
      lt_trans (ZMod.val_lt s) (by norm_num)
    rw [List.take_left' (List.Vector.toList_length _),
      List.drop_left' (List.Vector.toList_length _),
      ofLittleEndian_toLittleEndian_of_lt (hfit _),
      ofLittleEndian_toLittleEndian_of_lt (hfit _), ZMod.natCast_zmod_val,
      ZMod.natCast_zmod_val]
  displayError _ := ""

def hexValue (c : Char) : ℕ := if c.toNat < 97 then c.toNat - 48 else c.toNat - 87

def decodeHex : List Char → List UInt8
  | high :: low :: rest => UInt8.ofNat (16 * hexValue high + hexValue low) :: decodeHex rest
  | _ => []

theorem decodeHex_hexSlice (bytes : List UInt8) : decodeHex (hexSlice bytes).toList = bytes := by
  have hdigit : ∀ n < 16, hexValue (hexDigit n) = n := by decide
  induction bytes with
  | nil => rfl
  | cons byte bytes ih =>
    simp only [hexSlice, String.toList_ofList, List.flatMap_cons,
      List.cons_append, List.nil_append, decodeHex] at ih ⊢
    have hbyte : byte.toNat < 256 := byte.toNat_lt
    rw [ih, hdigit _ (by omega), hdigit _ (by omega), Nat.div_add_mod, UInt8.ofNat_toNat]

def smallPrims : Primitives where
  sha256 _ := toBigEndian 32 0
  encodeBase64UrlUnpadded := hexSlice
  decodeBase64UrlUnpadded s := .ok (decodeHex s.toList)
  decodeUrlSafeNoPad s := .ok (decodeHex s.toList)

theorem lawfulBase64_smallPrims : LawfulBase64 smallPrims where
  core bytes := congrArg Except.ok (decodeHex_hexSlice bytes)
  worker bytes := congrArg Except.ok (decodeHex_hexSlice bytes)
  alphabet bytes c hc := by
    have hdigit : ∀ n < 16, isBase64UrlChar (hexDigit n) = true := by decide
    simp only [smallPrims, hexSlice, String.toList_ofList, List.mem_flatMap,
      List.mem_cons, List.not_mem_nil, or_false] at hc
    obtain ⟨byte, -, hc⟩ := hc
    have hbyte : byte.toNat < 256 := byte.toNat_lt
    rcases hc with rfl | rfl
    · exact hdigit _ (by omega)
    · exact hdigit _ (by omega)
  nonempty bytes hbytes hempty := by
    have hdecoded := decodeHex_hexSlice bytes
    have hslice : hexSlice bytes = "" := hempty
    rw [hslice] at hdecoded
    exact hbytes hdecoded.symm

def smallEnv : NearEnvironment Unit where
  prims := smallPrims
  decodeBase58 s := .ok (decodeHex s.toList)
  validatePrepareAdmission _ := .ok ()
  validateFinalizeAdmission _ := .ok ()
  scopeJson _ := ""
  claimJson _ := ""
  prepareJson _ := []
  finalizeJson _ := []

def smallBytes (n : ℕ) : Bytes 32 := toLittleEndian 32 n

/-- A request of a client with the share five, for a worker whose nonces are
one. -/
def smallRequest (participantIds : UInt16 × UInt16) (workerPoint key : SmallGroup) :
    ClientSigningRequest where
  clientScalarShare := smallBytes 5
  registeredPublicKey := smallCurve.compress key
  participantIds := participantIds
  admittedDigest := smallBytes 7
  signingWorkerCommitments :=
    ⟨hexSlice (smallBytes 8).toList, hexSlice (smallBytes 8).toList⟩
  signingWorkerVerifyingShare := smallCurve.compress workerPoint

/-- Three ways in which the client's answer is not the one that `2 x_c - x_w`
and all nonces promise. With a worker point that has a component of order two,
and with the participant ids the other way round, the client answers though
twice its point minus the worker's point is not the registered key; with a zero
nonce it does not answer though that point is the registered key. -/
theorem client_answer_not_two_minus_one : ((createClientSigningShare smallPrims (smallFrost 1)
        (smallRequest (1, 2) (smallPoint (8 * 3 + 4 * 65537)) (smallPoint (8 * 7)))
        (smallBytes 1) (smallBytes 2)).isOk = true ∧
      smallCurve.compress (2 • smallCurve.mulBase 5 - smallPoint (8 * 3 + 4 * 65537)) ≠
        smallCurve.compress (smallPoint (8 * 7))) ∧
    ((createClientSigningShare smallPrims (smallFrost 1)
        (smallRequest (2, 1) (smallPoint (8 * 3)) (smallPoint (8 * 1)))
        (smallBytes 1) (smallBytes 2)).isOk = true ∧
      smallCurve.compress (2 • smallCurve.mulBase 5 - smallPoint (8 * 3)) ≠
        smallCurve.compress (smallPoint (8 * 1))) ∧
    ((createClientSigningShare smallPrims (smallFrost 0)
        (smallRequest (1, 2) (smallPoint (8 * 3)) (smallPoint (8 * 7)))
        (smallBytes 1) (smallBytes 2)).isOk = false ∧
      smallCurve.compress (2 • smallCurve.mulBase 5 - smallPoint (8 * 3)) =
        smallCurve.compress (smallPoint (8 * 7))) := by
  decide +kernel

def smallScope : NormalSigningScope where
  requestId := "request"
  accountId := "account"
  authorization := .operationStepUp
  materialActivation := ⟨"activation", "capability", "owner", "key", "lifecycle", "worker"⟩
  signingWorkerId := "worker"

def smallAccountPublicKey : String :=
  "ed25519:" ++ hexSlice (smallCurve.compress (smallPoint (8 * 7))).toList

def smallFinalize (state : Round1State) (share : ClientSigningShare) :
    MaterializedFinalizeRequest Unit :=
  let active : ActiveSigningWorkerState := {
    accountId := "account"
    materialActivation := smallScope.materialActivation
    accountPublicKey := smallAccountPublicKey
    signingWorker := ⟨"worker", "epoch", "key"⟩
    activationTranscriptDigest := smallBytes 1
    activationDigest := smallBytes 2
    signingWorkerMaterialHandle := "material"
    activatedAtMs := 1 }
  { request := {
      request := {
        scope := smallScope
        expiresAtMs := 20
        prepareBinding := ⟨"handle", smallBytes 3, smallBytes 4, smallBytes 5⟩
        protocol := finalizeProtocol smallPrims (smallFrost 1) share state.commitments 3 }
      admissionCandidate := ⟨"org", "project", smallBytes 4, smallBytes 5⟩
      admission := ()
      effectClaim := .operationStepUp "session" "authorized" "operation" "fingerprint"
      materialSource := .registrationActivation ⟨"account", "activation", "worker"⟩
      walletScope := ⟨"org", "project", "environment", "account"⟩
      ownershipGeneration := 1 }
    activeSigningWorker := active
    material := ⟨smallBytes 1, .xServerBase, .server, "worker", smallBytes 3⟩
    serverRound1 := {
      activeSigningWorkerState := active
      serverRound1Handle := "handle"
      round1BindingDigest := smallBytes 3
      intentDigest := smallBytes 4
      signingPayloadDigest := smallBytes 5
      admittedSigningDigest := smallBytes 7
      round1State := state
      createdAtMs := 1
      expiresAtMs := 20 }
    signedAtMs := 10 }

def smallClientRequest (state : Round1State) : ClientSigningRequest where
  clientScalarShare := smallBytes 5
  registeredPublicKey := smallCurve.compress (smallCurve.mulBase (2 * 5 - 3))
  participantIds := (1, 2)
  admittedDigest := smallBytes 7
  signingWorkerCommitments := toClient state.commitments
  signingWorkerVerifyingShare :=
    verifyingShareBytesFromSigningShareBytes (smallFrost 1) (smallBytes 3)

theorem two_party_signature_valid_small : ∃ state share response signature,
      prepareEd25519Round1 smallPrims (smallFrost 1) (smallBytes 3) (smallBytes 1)
        (smallBytes 2) = .ok state ∧
      createClientSigningShare smallPrims (smallFrost 1) {
          clientScalarShare := smallBytes 5
          registeredPublicKey := smallCurve.compress (smallCurve.mulBase (2 * 5 - 3))
          participantIds := (1, 2)
          admittedDigest := smallBytes 7
          signingWorkerCommitments := toClient state.commitments
          signingWorkerVerifyingShare :=
            verifyingShareBytesFromSigningShareBytes (smallFrost 1) (smallBytes 3) }
        (smallBytes 1) (smallBytes 2) = .ok share ∧
      handleNormalSigningFinalizeRequest smallEnv (smallFrost 1) (smallFinalize state share) =
        .ok response ∧
      response.signature = List.Vector.toList signature ∧
      SatisfiesEd25519 (smallFrost 1) (smallCurve.compress (smallCurve.mulBase (2 * 5 - 3)))
        (smallBytes 7).toList signature := by
  obtain ⟨state, share, hprepare, hshare, hfinalize⟩ :=
    (two_party_signature_valid smallEnv lawfulBase64_smallPrims (smallFrost 1)).1
      (smallBytes 5) (smallBytes 3) (smallBytes 7) (smallBytes 1) (smallBytes 2)
      (smallBytes 1) (smallBytes 2) 5 3 (by decide +kernel) (by decide +kernel)
      (by decide +kernel) (by decide +kernel) (by decide +kernel)
      ⟨by decide +kernel, by decide +kernel⟩ ⟨by decide +kernel, by decide +kernel⟩
      (by decide +kernel)
  have hvalid : ∀ state ∈ (prepareEd25519Round1 smallPrims (smallFrost 1) (smallBytes 3)
      (smallBytes 1) (smallBytes 2)).toOption, ∀ share ∈ (createClientSigningShare smallPrims
        (smallFrost 1) (smallClientRequest state) (smallBytes 1) (smallBytes 2)).toOption,
      (smallFinalize state share).validate smallEnv (smallFrost 1) = .ok () := by
    decide +kernel
  have haccount : decodeNearEd25519PublicKey smallEnv.decodeBase58
      "active SigningWorker account_public_key" smallAccountPublicKey =
      .ok (smallCurve.compress (smallCurve.mulBase (2 * 5 - 3))) := by decide +kernel
  obtain ⟨response, signature, hresponse, hbytes, hsatisfies⟩ :=
    hfinalize (smallFinalize state share) (hvalid state (congrArg Except.toOption hprepare) share
        (congrArg Except.toOption hshare))
      rfl rfl rfl haccount rfl
  exact ⟨state, share, response, signature, hprepare, hshare, hresponse, hbytes, hsatisfies⟩

end SeamsWallet.Ed25519Signing
