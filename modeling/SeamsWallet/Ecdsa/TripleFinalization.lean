import SeamsWallet.Ecdsa.Multiplication

/-!
# The last round of triple generation

A role enters with its opened polynomials, the verified polynomials of the peer and its
share of the product. It sends proofs for its own values (`prepareOne`), checks those of the
peer and ends with a triple (`finalizeOne`). The peer is not trusted: whatever it sent, a
triple that is accepted is a multiplication triple, and the role's shares are the ones that
the commitments of both sides determine.
-/

namespace SeamsWallet.EcdsaTriples

open Library EcdsaPresign PresignCodec

/-! ## Proofs of discrete logarithms -/

inductive DLogProofKind where
  | tripleA
  | tripleB
  | productShare

def DLogProofKind.asByte : DLogProofKind → UInt8
  | .tripleA => 1
  | .tripleB => 2
  | .productShare => 3

inductive ProofError where
  | zeroWitness
  | statementWitnessMismatch
  | invalidProof
  | challengeDerivationFailed

inductive TripleGenerationError where
  | contextMismatch
  | tripleIndexMismatch
  | degenerateAggregate
  | degenerateMultiplicationShare
  | privateShareMismatch
  | terminalProductMismatch
  | proof (error : ProofError)

abbrev NonzeroScalar (n : ℕ) : Type := {s : ZMod n // s ≠ 0}

section Finalization

variable {n : ℕ} [Fact n.Prime] {P : Type} [AddCommGroup P] [Module (ZMod n) P] [DecidableEq P]

def scale (s : NonzeroScalar n) (point : NonidentityPoint P) : NonidentityPoint P :=
  ⟨s.1 • point.1, smul_ne_zero s.2 point.2⟩

structure ProofContext where
  role : FixedRole
  binding : PresignPairContext
  tripleIndex : TripleIndex

variable (K : K256 n P) (sha256 : List UInt8 → Bytes 32)

def basePoint : NonidentityPoint P := ⟨K.generator, K.generator_ne_zero⟩

variable (context : ProofContext)

/-- The challenge is the first digest that is not zero as a scalar. -/
def deriveChallenge (proofType kind : UInt8) (points : List (NonidentityPoint P)) :
    Except ProofError (ZMod n) :=
  let base := absorbField 1 "seams/router-ab-ecdsa-presign/proof/v1".toUTF8.toList ++
    absorbField 2 "secp256k1+sha256".toUTF8.toList ++
    absorbField 3 context.binding.signingScope.toList ++
    absorbField 4 context.binding.pair.toList ++
    absorbField 5 [tripleIndexByte context.tripleIndex] ++
    absorbField 6 [roleByte context.role] ++ absorbField 7 [proofType] ++ absorbField 8 [kind] ++
    points.zipIdx.flatMap fun (point, index) =>
      absorbField (16 + index) (PresignCodec.pointBytes K point).toList
  let attempt (counter : ℕ) :=
    K256.reduceBytes n (sha256 (base ++ absorbField 255 (toBigEndian 2 counter).toList))
  okOr (((List.range 256).map attempt).find? (· ≠ 0)) .challengeDerivationFailed

def dlogChallenge (kind : DLogProofKind) (statement commitment : NonidentityPoint P) :
    Except ProofError (ZMod n) :=
  deriveChallenge K sha256 context 1 kind.asByte [statement, commitment]

structure DLogEqStatement (P : Type) [Zero P] where
  public0 : NonidentityPoint P
  generator1 : NonidentityPoint P
  public1 : NonidentityPoint P

variable (statement : DLogEqStatement P)

def dlogEqChallenge (commitment0 commitment1 : NonidentityPoint P) : Except ProofError (ZMod n) :=
  deriveChallenge K sha256 context 2 1
    [statement.public0, statement.generator1, statement.public1, commitment0, commitment1]

/-- The code encodes the points of a statement and parses them again, which gives them back
(`parsePoint_pointBytes`). -/
def proveDlog (kind : DLogProofKind) (statement : NonidentityPoint P) (witness : ZMod n)
    (nonce : NonzeroScalar n) : Except ProofError (DLogProof n P) := do
  ensure (witness ≠ 0) .zeroWitness
  ensure (witness • K.generator = statement.1) .statementWitnessMismatch
  let commitment := scale nonce (basePoint K)
  let challenge ← dlogChallenge K sha256 context kind statement commitment
  return { commitment, response := nonce + challenge * witness }

def verifyDlog (kind : DLogProofKind) (statement : NonidentityPoint P) (proof : DLogProof n P) :
    Except ProofError Unit := do
  let challenge ← dlogChallenge K sha256 context kind statement proof.commitment
  ensure (proof.response • K.generator = proof.commitment.1 + challenge • statement.1)
    .invalidProof

def proveDlogEq (witness : ZMod n) (nonce : NonzeroScalar n) :
    Except ProofError (DLogEqProof n P) := do
  ensure (witness ≠ 0) .zeroWitness
  ensure (witness • K.generator = statement.public0.1 ∧
    witness • statement.generator1.1 = statement.public1.1) .statementWitnessMismatch
  let commitment0 := scale nonce (basePoint K)
  let commitment1 := scale nonce statement.generator1
  let challenge ← dlogEqChallenge K sha256 context statement commitment0 commitment1
  return { commitment0, commitment1, response := nonce + challenge * witness }

def verifyDlogEq (proof : DLogEqProof n P) : Except ProofError Unit := do
  let challenge ←
    dlogEqChallenge K sha256 context statement proof.commitment0 proof.commitment1
  ensure (proof.response • K.generator = proof.commitment0.1 + challenge • statement.public0.1 ∧
    proof.response • statement.generator1.1 =
      proof.commitment1.1 + challenge • statement.public1.1) .invalidProof

/-! ## Polynomials -/

structure LinearPolynomial (n : ℕ) where
  constant : NonzeroScalar n
  slope : NonzeroScalar n

def LinearPolynomial.commitment (polynomial : LinearPolynomial n) : LinearPolynomialCommitment P :=
  ⟨scale polynomial.constant (basePoint K), scale polynomial.slope (basePoint K)⟩

def LinearPolynomial.evaluate (polynomial : LinearPolynomial n) (coordinate : ZMod n) : ZMod n :=
  polynomial.constant + polynomial.slope * coordinate

def evaluateCommitment (commitment : LinearPolynomialCommitment P) (coordinate : ZMod n) : P :=
  commitment.constant.1 + coordinate • commitment.slope.1

structure SecretPolynomialSet (n : ℕ) where
  e : LinearPolynomial n
  f : LinearPolynomial n
  lConstant : NonzeroScalar n

def SecretPolynomialSet.commitment (secrets : SecretPolynomialSet n) : PublicPolynomialSet P :=
  ⟨secrets.e.commitment K, secrets.f.commitment K, scale secrets.lConstant (basePoint K)⟩

structure OpenedPolynomialState (n : ℕ) where
  context : PresignPairContext
  tripleIndex : TripleIndex
  secrets : SecretPolynomialSet n

structure VerifiedPrivatePolynomialShare (n : ℕ) (P : Type) [AddCommGroup P] where
  context : PresignPairContext
  tripleIndex : TripleIndex
  publicSet : PublicPolynomialSet P
  share : PrivatePolynomialShare n

/-! ## The round -/

structure PreparedTriple (n : ℕ) (P : Type) [AddCommGroup P] where
  index : TripleIndex
  bigA : NonidentityPoint P
  bigB : NonidentityPoint P
  peerBigEConstant : NonidentityPoint P
  peerBigFConstant : NonidentityPoint P
  ownBigCContribution : NonidentityPoint P
  ownMultiplicationCommitment : NonidentityPoint P
  aggregateLSlope : P
  aShare : ZMod n
  bShare : ZMod n
  ownProductEvaluation : ZMod n

structure ProofNonces (n : ℕ) where
  e : NonzeroScalar n
  f : NonzeroScalar n
  product : NonzeroScalar n
  multiplication : NonzeroScalar n

def roleCoordinate (n : ℕ) : FixedRole → ZMod n
  | .client => 2
  | .signingWorker => 3

def nonidentity (point : P) : Except TripleGenerationError (NonidentityPoint P) :=
  if h : point = 0 then .error .degenerateAggregate else .ok ⟨point, h⟩

def checkTripleBinding (expectedContext : PresignPairContext) (expectedIndex : TripleIndex)
    (actualContext : PresignPairContext) (actualIndex : TripleIndex) :
    Except TripleGenerationError Unit := do
  ensure (actualContext = expectedContext) .contextMismatch
  ensure (actualIndex = expectedIndex) .tripleIndexMismatch

def prepareOne (role : FixedRole) (context : PresignPairContext) (index : TripleIndex)
    (opened : OpenedPolynomialState n) (peer : VerifiedPrivatePolynomialShare n P)
    (multiplicationShare : ZMod n) (nonces : ProofNonces n) :
    Except TripleGenerationError (PreparedTriple n P × TripleContribution n P) := do
  checkTripleBinding context index opened.context opened.tripleIndex
  checkTripleBinding context index peer.context peer.tripleIndex
  ensure (multiplicationShare ≠ 0) .degenerateMultiplicationShare
  let secrets := opened.secrets
  let own : PublicPolynomialSet P := secrets.commitment K
  let bigA ← nonidentity (own.bigE.constant.1 + peer.publicSet.bigE.constant.1)
  let bigB ← nonidentity (own.bigF.constant.1 + peer.publicSet.bigF.constant.1)
  let bigCContribution ← nonidentity (secrets.e.constant.1 • bigB.1)
  let multiplicationCommitment ← nonidentity (multiplicationShare • K.generator)
  let coordinate := roleCoordinate n role
  let proofContext : ProofContext := ⟨role, context, index⟩
  let eProof ← (proveDlog K sha256 proofContext .tripleA own.bigE.constant secrets.e.constant
    nonces.e).mapError .proof
  let fProof ← (proveDlog K sha256 proofContext .tripleB own.bigF.constant secrets.f.constant
    nonces.f).mapError .proof
  let productProof ← (proveDlogEq K sha256 proofContext
    ⟨own.bigE.constant, bigB, bigCContribution⟩ secrets.e.constant nonces.product).mapError .proof
  let multiplicationProof ← (proveDlog K sha256 proofContext .productShare
    multiplicationCommitment multiplicationShare nonces.multiplication).mapError .proof
  let aShare := secrets.e.evaluate coordinate + peer.share.e
  let bShare := secrets.f.evaluate coordinate + peer.share.f
  ensure (evaluateCommitment own.bigE coordinate +
      evaluateCommitment peer.publicSet.bigE coordinate = aShare • K.generator ∧
    evaluateCommitment own.bigF coordinate +
      evaluateCommitment peer.publicSet.bigF coordinate = bShare • K.generator)
    .privateShareMismatch
  return (
    { index, bigA, bigB
      peerBigEConstant := peer.publicSet.bigE.constant
      peerBigFConstant := peer.publicSet.bigF.constant
      ownBigCContribution := bigCContribution
      ownMultiplicationCommitment := multiplicationCommitment
      aggregateLSlope := own.bigLConstant.1 + peer.publicSet.bigLConstant.1
      aShare, bShare
      ownProductEvaluation := multiplicationShare + secrets.lConstant * coordinate },
    { eProof, fProof, bigCContribution, productProof, multiplicationCommitment,
      multiplicationProof
      privateProductEvaluation :=
        multiplicationShare + secrets.lConstant * roleCoordinate n (oppositeRole role) })

def PreparedTriple.productStatement (state : PreparedTriple n P)
    (message : TripleContribution n P) : DLogEqStatement P :=
  ⟨state.peerBigEConstant, state.bigB, message.bigCContribution⟩

def finalizeOne (context : PresignPairContext) (peerRole : FixedRole)
    (state : PreparedTriple n P) (message : TripleContribution n P) :
    Except TripleGenerationError (ValidatedTriple n P) := do
  let proofContext : ProofContext := ⟨peerRole, context, state.index⟩
  (verifyDlog K sha256 proofContext .tripleA state.peerBigEConstant message.eProof).mapError .proof
  (verifyDlog K sha256 proofContext .tripleB state.peerBigFConstant message.fProof).mapError .proof
  (verifyDlogEq K sha256 proofContext (state.productStatement message)
    message.productProof).mapError .proof
  (verifyDlog K sha256 proofContext .productShare message.multiplicationCommitment
    message.multiplicationProof).mapError .proof
  let bigC := state.ownBigCContribution.1 + message.bigCContribution.1
  let multiplicationProduct :=
    state.ownMultiplicationCommitment.1 + message.multiplicationCommitment.1
  ensure (bigC ≠ 0 ∧ bigC = multiplicationProduct) .terminalProductMismatch
  let coordinate := roleCoordinate n (oppositeRole peerRole)
  let cShare := state.ownProductEvaluation + message.privateProductEvaluation
  ensure (cShare • K.generator = bigC + coordinate • state.aggregateLSlope)
    .privateShareMismatch
  return {
    share := ⟨state.aShare, state.bShare, cShare⟩
    triplePublic := ⟨context, state.bigA.1, state.bigB.1, bigC⟩ }

/-! ## What an accepted triple is -/

variable {K sha256} {role : FixedRole} {context : PresignPairContext} {index : TripleIndex}
  {opened : OpenedPolynomialState n} {peer : VerifiedPrivatePolynomialShare n P}
  {state : PreparedTriple n P} {message : TripleContribution n P} {triple : ValidatedTriple n P}

theorem nonidentity_eq_ok {point : P} {result : NonidentityPoint P} :
    nonidentity point = .ok result ↔ point = result.1 := by
  unfold nonidentity
  split
  · simp [*, eq_comm, result.2]
  · simp [Subtype.ext_iff]

/-- What a role knows of the triple it prepared. -/
structure Prepared (K : K256 n P) (role : FixedRole)
    (secrets : SecretPolynomialSet n) (peer : VerifiedPrivatePolynomialShare n P)
    (state : PreparedTriple n P) : Prop where
  bigA : secrets.e.constant.1 • K.generator + peer.publicSet.bigE.constant.1 = state.bigA.1
  bigB : secrets.f.constant.1 • K.generator + peer.publicSet.bigF.constant.1 = state.bigB.1
  bigC : secrets.e.constant.1 • state.bigB.1 = state.ownBigCContribution.1
  peerE : state.peerBigEConstant = peer.publicSet.bigE.constant
  peerF : state.peerBigFConstant = peer.publicSet.bigF.constant
  slope : state.aggregateLSlope = secrets.lConstant.1 • K.generator + peer.publicSet.bigLConstant.1
  aShare : evaluateCommitment (secrets.e.commitment K) (roleCoordinate n role) +
    evaluateCommitment peer.publicSet.bigE (roleCoordinate n role) = state.aShare • K.generator
  bShare : evaluateCommitment (secrets.f.commitment K) (roleCoordinate n role) +
    evaluateCommitment peer.publicSet.bigF (roleCoordinate n role) = state.bShare • K.generator

structure SoundProofs (K : K256 n P) (sha256 : List UInt8 → Bytes 32) (proofContext : ProofContext)
    (state : PreparedTriple n P) (message : TripleContribution n P) : Prop where
  f : verifyDlog K sha256 proofContext .tripleB state.peerBigFConstant message.fProof = .ok () →
    ∃ x : ZMod n, state.peerBigFConstant.1 = x • K.generator
  product : verifyDlogEq K sha256 proofContext (state.productStatement message)
      message.productProof = .ok () →
    ∃ x : ZMod n, state.peerBigEConstant.1 = x • K.generator ∧
      message.bigCContribution.1 = x • state.bigB.1

/-- A triple of points whose logarithms multiply, with the shares that the commitments of
both roles determine: `a` and `b` are the values of the committed polynomials, and `c` lies
on the line through the product. -/
structure ValidTriple (K : K256 n P) (coordinate : ZMod n) (own peer : PublicPolynomialSet P)
    (triple : ValidatedTriple n P) : Prop where
  product : ∃ a b : ZMod n, triple.triplePublic.bigA = a • K.generator ∧
    triple.triplePublic.bigB = b • K.generator ∧ triple.triplePublic.bigC = (a * b) • K.generator
  bigA : triple.triplePublic.bigA = own.bigE.constant.1 + peer.bigE.constant.1
  bigB : triple.triplePublic.bigB = own.bigF.constant.1 + peer.bigF.constant.1
  a : triple.share.a • K.generator =
    evaluateCommitment own.bigE coordinate + evaluateCommitment peer.bigE coordinate
  b : triple.share.b • K.generator =
    evaluateCommitment own.bigF coordinate + evaluateCommitment peer.bigF coordinate
  c : triple.share.c • K.generator =
    triple.triplePublic.bigC + coordinate • (own.bigLConstant.1 + peer.bigLConstant.1)

theorem oppositeRole_oppositeRole (role : FixedRole) : oppositeRole (oppositeRole role) = role := by
  cases role <;> rfl

/-- Whatever the peer sent, an accepted triple is valid. -/
theorem accepted_triple_valid {multiplicationShare : ZMod n} {nonces : ProofNonces n}
    {contribution : TripleContribution n P}
    (hprepare : prepareOne K sha256 role context index opened peer multiplicationShare nonces =
      .ok (state, contribution))
    (hsound : SoundProofs K sha256 ⟨oppositeRole role, context, state.index⟩ state message)
    (hfinalize : finalizeOne K sha256 context (oppositeRole role) state message = .ok triple) :
    ValidTriple K (roleCoordinate n role) (opened.secrets.commitment K) peer.publicSet triple := by
  have hprepared : Prepared K role opened.secrets peer state := by
    simp only [prepareOne, ok_iff, nonidentity_eq_ok, Prod.mk.injEq] at hprepare
    obtain ⟨-, -, -, _, hA, _, hB, _, hC, _, -, _, -, _, -, _, -, _, -, hshares, rfl, -⟩ := hprepare
    exact ⟨hA, hB, hC, rfl, rfl, rfl, hshares.1, hshares.2⟩
  simp only [finalizeOne, ok_iff, oppositeRole_oppositeRole] at hfinalize
  obtain ⟨-, hf, hproduct, -, -, hc, rfl⟩ := hfinalize
  obtain ⟨y, hy⟩ := hsound.f hf
  obtain ⟨x, hx, hxB⟩ := hsound.product hproduct
  set e := opened.secrets.e.constant.1
  set f := opened.secrets.f.constant.1
  have hB : state.bigB.1 = (f + y) • K.generator := by
    rw [← hprepared.bigB, ← hprepared.peerF, hy, add_smul]
  have hA : state.bigA.1 = (e + x) • K.generator := by
    rw [← hprepared.bigA, ← hprepared.peerE, hx, add_smul]
  refine ⟨⟨e + x, f + y, hA, hB, ?_⟩, hprepared.bigA.symm, hprepared.bigB.symm,
    hprepared.aShare.symm, hprepared.bShare.symm, ?_⟩
  · -- both parts of the product are multiples of `B`, by the two summands of `A`
    change state.ownBigCContribution.1 + message.bigCContribution.1 = _
    rw [← hprepared.bigC, hxB, ← add_smul, hB, smul_smul]
  · rw [hprepared.slope] at hc
    exact hc

end Finalization

/-! ## A small run -/

def sampleOpened (constant : NonzeroScalar 31) : OpenedPolynomialState 31 :=
  let one : NonzeroScalar 31 := ⟨1, by decide⟩
  ⟨⟨toBigEndian 32 1, toBigEndian 32 2⟩, .zero, ⟨⟨constant, one⟩, ⟨constant, one⟩, one⟩⟩

def samplePrepare (role : FixedRole) (own peer : NonzeroScalar 31) (product : ZMod 31) :=
  let coordinate := roleCoordinate 31 role
  let secrets := (sampleOpened peer).secrets
  prepareOne K256.additive31 (fun _ => toBigEndian 32 1) role (sampleOpened own).context .zero
    (sampleOpened own)
    ⟨(sampleOpened own).context, .zero, secrets.commitment K256.additive31,
      ⟨secrets.e.evaluate coordinate, secrets.f.evaluate coordinate⟩⟩
    product ⟨own, own, own, own⟩

def sampleRound := do
  let client ← samplePrepare .client ⟨1, by decide⟩ ⟨2, by decide⟩ 4
  let worker ← samplePrepare .signingWorker ⟨2, by decide⟩ ⟨1, by decide⟩ 5
  let triple ← finalizeOne K256.additive31 (fun _ => toBigEndian 32 1)
    (sampleOpened ⟨1, by decide⟩).context .signingWorker client.1 worker.2
  return (client, worker.2, triple)

theorem accepted_triple_valid_small :
    ∃ client message triple, sampleRound = .ok (client, message, triple) ∧
      ValidTriple K256.additive31 2
        ((sampleOpened ⟨1, by decide⟩).secrets.commitment K256.additive31)
        ((sampleOpened ⟨2, by decide⟩).secrets.commitment K256.additive31) triple := by
  have hrun : sampleRound.toOption.any (fun (client, message, _) =>
      client.1.peerBigEConstant.1 = 2 ∧ message.bigCContribution.1 = 2 * client.1.bigB.1) := by
    decide +kernel
  cases hround : sampleRound with
  | error error =>
    rw [hround] at hrun
    cases hrun
  | ok result =>
    obtain ⟨client, message, triple⟩ := result
    rw [hround] at hrun
    obtain ⟨hE, hC⟩ := of_decide_eq_true hrun
    simp only [sampleRound, ok_iff, Prod.mk.injEq] at hround
    obtain ⟨_, hclient, worker, -, _, htriple, rfl, rfl, rfl⟩ := hround
    refine ⟨_, _, _, rfl, accepted_triple_valid hclient ⟨fun _ => ⟨_, (mul_one _).symm⟩,
      fun _ => ⟨2, hE, hC⟩⟩ htriple⟩

end SeamsWallet.EcdsaTriples
