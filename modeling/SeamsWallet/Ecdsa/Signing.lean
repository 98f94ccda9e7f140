import SeamsWallet.Ecdsa.Online
import SeamsWallet.Ecdsa.PresignCommitments

/-!
# From presigning to a valid signature

The two roles' presign runs are put together, each receiving the other's
messages, and their outputs are handed to the online crate. Lagrange
reconstruction at the coordinates `2` and `3` turns the two outputs into the
nonce inverse `k` and its product with the wallet secret; the client's and the
worker's online shares then add up to an ECDSA signature with the nonce
`delta k⁻¹`.
-/

namespace SeamsWallet.EcdsaSigning

open Library EcdsaPresign EcdsaOnline PresignInput AwaitingPeerAlphaBeta

/-! ## Shared triples -/

/-- A multiplication triple `(a, b, a b)` shared along three lines. -/
structure TripleSharing (n : ℕ) where
  a : ZMod n
  b : ZMod n
  slopeA : ZMod n
  slopeB : ZMod n
  slopeC : ZMod n

variable {n : ℕ} {P : Type} [AddCommGroup P] [Module (ZMod n) P] {K : K256 n P}

namespace TripleSharing

def shareAt (sharing : TripleSharing n) (coordinate : ZMod n) : TripleShare n where
  a := evaluate sharing.a sharing.slopeA coordinate
  b := evaluate sharing.b sharing.slopeB coordinate
  c := evaluate (sharing.a * sharing.b) sharing.slopeC coordinate

/-- A validated triple that holds the share at a coordinate and commits to the
shared values. -/
structure Shares (sharing : TripleSharing n) (K : K256 n P) (coordinate : ZMod n)
    (triple : ValidatedTriple n P) : Prop where
  share : triple.share = sharing.shareAt coordinate
  bigA : triple.triplePublic.bigA = sharing.a • K.generator
  bigB : triple.triplePublic.bigB = sharing.b • K.generator
  bigC : triple.triplePublic.bigC = (sharing.a * sharing.b) • K.generator

def validatedTriple (sharing : TripleSharing n) (K : K256 n P) (context : PresignPairContext)
    (coordinate : ZMod n) : ValidatedTriple n P where
  share := sharing.shareAt coordinate
  triplePublic := {
    context
    bigA := sharing.a • K.generator
    bigB := sharing.b • K.generator
    bigC := (sharing.a * sharing.b) • K.generator }

theorem validatedTriple_shares (sharing : TripleSharing n) (K : K256 n P)
    (context : PresignPairContext) (coordinate : ZMod n) :
    sharing.Shares K coordinate (sharing.validatedTriple K context coordinate) :=
  ⟨rfl, rfl, rfl, rfl⟩

end TripleSharing

/-! ## Both roles on each other's messages -/

def runPresignPair [DecidableEq P] (K : K256 n P) (clientInput workerInput : PresignInput n P) :
    Except PresignError (PresignOutput n P × PresignOutput n P) := do
  let (clientE, clientEShare) ← start .client clientInput
  let (workerE, workerEShare) ← start .signingWorker workerInput
  let (clientAlphaBeta, clientAlpha, clientBeta) ←
    receiveE K clientE (workerE.context, K256.scalarBytes workerEShare)
  let (workerAlphaBeta, workerAlpha, workerBeta) ←
    receiveE K workerE (clientE.context, K256.scalarBytes clientEShare)
  let clientOutput ← finish K clientAlphaBeta
    (workerAlphaBeta.context, K256.scalarBytes workerAlpha, K256.scalarBytes workerBeta)
  let workerOutput ← finish K workerAlphaBeta
    (clientAlphaBeta.context, K256.scalarBytes clientAlpha, K256.scalarBytes clientBeta)
  return (clientOutput, workerOutput)

theorem runPresignPair_eq_ok [Fact n.Prime] [DecidableEq P]
    {clientInput workerInput : PresignInput n P} {clientOutput workerOutput : PresignOutput n P}
    (h : runPresignPair K clientInput workerInput = .ok (clientOutput, workerOutput)) :
    ∃ e alpha beta, (3 : ZMod n) ≠ 0 ∧ (-2 : ZMod n) ≠ 0 ∧ e ≠ 0 ∧
      e = 3 * clientInput.triple0Share.c + -2 * workerInput.triple0Share.c ∧
      alpha = 3 * (clientInput.triple0Share.a + clientInput.triple1Share.a) +
        -2 * (workerInput.triple0Share.a + workerInput.triple1Share.a) ∧
      beta = clientInput.additiveKeyShare + 3 * clientInput.triple1Share.b +
        (workerInput.additiveKeyShare + -2 * workerInput.triple1Share.b) ∧
      clientOutput = ((clientInput.started .client).opened e).output alpha beta ∧
      workerOutput = ((workerInput.started .signingWorker).opened e).output alpha beta := by
  simp only [runPresignPair, ok_iff, Prod.mk.injEq] at h
  obtain ⟨clientE, hclientStart, workerE, hworkerStart, clientAB, hclientE, workerAB,
    hworkerE, _, hclientFinish, _, hworkerFinish, rfl, rfl⟩ := h
  obtain ⟨h3, rfl⟩ := start_eq_ok hclientStart
  obtain ⟨h2, rfl⟩ := start_eq_ok hworkerStart
  have hround (s : ZMod n) := K256.scalarFromRepr_scalarBytes K.order_le s
  obtain ⟨peerE, hpeerE, -, rfl⟩ := receiveE_eq_ok hclientE
  obtain ⟨peerE', hpeerE', -, rfl⟩ := receiveE_eq_ok hworkerE
  obtain rfl := Option.some.inj (hpeerE.symm.trans (hround _))
  obtain rfl := Option.some.inj (hpeerE'.symm.trans (hround _))
  obtain ⟨peerA, peerB, hpeerA, hpeerB, -, -, he, rfl⟩ := finish_eq_ok hclientFinish
  obtain ⟨peerA', peerB', hpeerA', hpeerB', -, -, -, rfl⟩ := finish_eq_ok hworkerFinish
  obtain rfl := Option.some.inj (hpeerA.symm.trans (hround _))
  obtain rfl := Option.some.inj (hpeerB.symm.trans (hround _))
  obtain rfl := Option.some.inj (hpeerA'.symm.trans (hround _))
  obtain rfl := Option.some.inj (hpeerB'.symm.trans (hround _))
  -- a role's additive key share survives the division by its coefficient
  have hclientKey : (clientInput.started .client).additiveKeyShare =
      clientInput.additiveKeyShare := mul_inv_cancel_left₀ h3 _
  have hworkerKey : (workerInput.started .signingWorker).additiveKeyShare =
      workerInput.additiveKeyShare := mul_inv_cancel_left₀ h2 _
  refine ⟨_, _, _, h3, h2, he, rfl, rfl, rfl, ?_, ?_⟩
  · simp only [AwaitingPeerE.opened, hclientKey, hworkerKey]
    rfl
  · simp only [AwaitingPeerE.opened, hclientKey, hworkerKey]
    simp only [started, FixedRole.lagrange, output]
    congr 1
    · rw [add_comm (-2 * workerInput.triple0Share.c)]
    · ring

/-! ## The reconstructed values -/

/-- A line is recovered at zero from its values at `2` and at `3`. -/
theorem evaluate_reconstruct {F : Type*} [CommRing F] (secret slope : F) :
    3 * evaluate secret slope 2 + -2 * evaluate secret slope 3 = secret := by
  unfold evaluate
  ring

/-- The inputs of both roles for one wallet: additive shares of its secret, its
public key, and shares of a nonce triple and of a product triple at the
coordinates of the client and of the signing worker. -/
structure PresignSetup (K : K256 n P) where
  clientKey : AdditiveKeyShare n
  workerKey : AdditiveKeyShare n
  walletKey : Bytes 33
  walletKey_decodes : K.fromEncodedPoint walletKey =
    some ((clientKey.scalar + workerKey.scalar) • K.generator)
  nonceTriple : TripleSharing n
  productTriple : TripleSharing n
  clientTriple0 : ValidatedTriple n P
  clientTriple1 : ValidatedTriple n P
  workerTriple0 : ValidatedTriple n P
  workerTriple1 : ValidatedTriple n P
  clientTriple0_shares : nonceTriple.Shares K 2 clientTriple0
  clientTriple1_shares : productTriple.Shares K 2 clientTriple1
  workerTriple0_shares : nonceTriple.Shares K 3 workerTriple0
  workerTriple1_shares : productTriple.Shares K 3 workerTriple1

namespace PresignSetup

def secret (setup : PresignSetup K) : ZMod n :=
  setup.clientKey.scalar + setup.workerKey.scalar

def publicKey (setup : PresignSetup K) : P :=
  setup.secret • K.generator

def run [DecidableEq P] (setup : PresignSetup K) :
    Except PresignError (PresignOutput n P × PresignOutput n P) := do
  let clientInput ← new K setup.clientKey setup.walletKey
    setup.clientTriple0 setup.clientTriple1
  let workerInput ← new K setup.workerKey setup.walletKey
    setup.workerTriple0 setup.workerTriple1
  runPresignPair K clientInput workerInput

end PresignSetup

theorem presignInput_new_eq_ok [DecidableEq P]
    {keyShare : AdditiveKeyShare n} {walletKey : Bytes 33} {X : P}
    {triple0 triple1 : ValidatedTriple n P} {input : PresignInput n P}
    (hkey : K.fromEncodedPoint walletKey = some X)
    (h : new K keyShare walletKey triple0 triple1 = .ok input) :
    X ≠ 0 ∧ input = {
      context := triple0.triplePublic.context
      additiveKeyShare := keyShare.scalar
      walletPublicKey := X
      triple0Share := triple0.share
      triple0Public := triple0.triplePublic
      triple1Share := triple1.share
      triple1Public := triple1.triplePublic } := by
  simp only [new, EcdsaPresign.parseNonidentityPoint, hkey, ok_iff, exists_const,
    Option.some.injEq] at h
  obtain ⟨-, _, ⟨_, rfl, hne, rfl⟩, rfl⟩ := h
  exact ⟨hne, rfl⟩

/-- What a completed pair of presign runs hands out: the same nonce point
`k⁻¹ G` to both roles, and shares of `k` and of `k` times the wallet secret. -/
theorem run_reconstructs [Fact n.Prime] [DecidableEq P] {setup : PresignSetup K}
    {clientOutput workerOutput : PresignOutput n P}
    (h : setup.run = .ok (clientOutput, workerOutput)) :
    setup.publicKey ≠ 0 ∧ setup.nonceTriple.a ≠ 0 ∧
      clientOutput.bigR = setup.nonceTriple.a⁻¹ • K.generator ∧
      workerOutput.bigR = setup.nonceTriple.a⁻¹ • K.generator ∧
      3 * clientOutput.k + -2 * workerOutput.k = setup.nonceTriple.a ∧
      3 * clientOutput.sigma + -2 * workerOutput.sigma = setup.nonceTriple.a * setup.secret := by
  simp only [PresignSetup.run, bind_eq_ok] at h
  obtain ⟨clientInput, hclient, workerInput, hworker, hpair⟩ := h
  obtain ⟨hX, rfl⟩ := presignInput_new_eq_ok setup.walletKey_decodes hclient
  obtain ⟨-, rfl⟩ := presignInput_new_eq_ok setup.walletKey_decodes hworker
  obtain ⟨e, alpha, beta, h3, h2, he, hopen, halpha, hbeta, rfl, rfl⟩ :=
    runPresignPair_eq_ok hpair
  simp only [setup.clientTriple0_shares.share, setup.clientTriple1_shares.share,
    setup.workerTriple0_shares.share, setup.workerTriple1_shares.share,
    TripleSharing.shareAt] at hopen halpha hbeta
  generalize hk : setup.nonceTriple.a = k at *
  generalize hd : setup.nonceTriple.b = d at *
  generalize ha : setup.productTriple.a = a at *
  generalize hb : setup.productTriple.b = b at *
  -- the opened values are the shared secrets themselves
  have hopen' : e = k * d := by rw [hopen, evaluate_reconstruct]
  have halpha' : alpha = k + a := by
    rw [halpha]
    linear_combination evaluate_reconstruct k setup.nonceTriple.slopeA +
      evaluate_reconstruct a setup.productTriple.slopeA
  have hbeta' : beta = setup.secret + b := by
    rw [hbeta, PresignSetup.secret]
    linear_combination evaluate_reconstruct b setup.productTriple.slopeB
  have hk0 : k ≠ 0 := left_ne_zero_of_mul (hopen' ▸ he)
  have hd0 : d ≠ 0 := right_ne_zero_of_mul (hopen' ▸ he)
  have hbigR : e⁻¹ • d • K.generator = k⁻¹ • K.generator := by
    rw [smul_smul, hopen', mul_inv, mul_assoc, inv_mul_cancel₀ hd0, mul_one]
  refine ⟨hX, hk0, ?_, ?_, ?_, ?_⟩
  · simpa [output, AwaitingPeerE.opened, started, setup.clientTriple0_shares.bigB, hd] using hbigR
  · simpa [output, AwaitingPeerE.opened, started, setup.workerTriple0_shares.bigB, hd] using hbigR
  · simpa [output, AwaitingPeerE.opened, started,
      setup.clientTriple0_shares.share, setup.workerTriple0_shares.share,
      TripleSharing.shareAt, hk] using evaluate_reconstruct k setup.nonceTriple.slopeA
  · have hclient : (3 : ZMod n) * 3⁻¹ = 1 := mul_inv_cancel₀ h3
    have hworker : (-2 : ZMod n) * (-2)⁻¹ = 1 := mul_inv_cancel₀ h2
    rw [← beaver_product k setup.secret a b, ← halpha', ← hbeta']
    simp only [output, AwaitingPeerE.opened, started,
      FixedRole.lagrange, setup.clientTriple1_shares.share,
      setup.workerTriple1_shares.share, TripleSharing.shareAt, ha, hb,
      PresignSetup.secret]
    linear_combination alpha * setup.clientKey.scalar * hclient +
      alpha * setup.workerKey.scalar * hworker -
      beta * evaluate_reconstruct a setup.productTriple.slopeA +
      evaluate_reconstruct (a * b) setup.productTriple.slopeC

/-! ## Signing with the outputs -/

def toMaterial (output : PresignOutput n P) : PresignMaterial n P where
  bigR := output.bigR
  k := output.k
  sigma := output.sigma

/-- The path from a presign output to committed material: the output crosses
as bytes, is parsed, and is bound to the input it will sign. -/
def commitOutput [DecidableEq P] (K : K256 n P) (output : PresignOutput n P)
    (groupPublicKey expectedBigR : Bytes 33) (digest entropy : Bytes 32) :
    Except OnlineError (CommittedOnlineSigning n P) := do
  let material ← parsePresignMaterial K (K.pointBytes output.bigR)
    (K256.scalarBytes output.k) (K256.scalarBytes output.sigma)
  let input ← parseOnlineInput K groupPublicKey expectedBigR digest entropy
  bindMaterial K material input

def exampleSetup : PresignSetup K256.additive31 :=
  let context : PresignPairContext := ⟨Bytes.zeros 32, Bytes.zeros 32⟩
  let nonceTriple : TripleSharing 31 := ⟨7, 11, 5, 29, 3⟩
  let productTriple : TripleSharing 31 := ⟨13, 17, 6, 10, 12⟩
  { clientKey := ⟨20, by decide⟩
    workerKey := ⟨30, by decide⟩
    walletKey := K256.additive31.pointBytes 19
    walletKey_decodes := by decide +kernel
    nonceTriple
    productTriple
    clientTriple0 := nonceTriple.validatedTriple _ context 2
    clientTriple1 := productTriple.validatedTriple _ context 2
    workerTriple0 := nonceTriple.validatedTriple _ context 3
    workerTriple1 := productTriple.validatedTriple _ context 3
    clientTriple0_shares := nonceTriple.validatedTriple_shares ..
    clientTriple1_shares := productTriple.validatedTriple_shares ..
    workerTriple0_shares := nonceTriple.validatedTriple_shares ..
    workerTriple1_shares := productTriple.validatedTriple_shares .. }

def exampleHkdf : Hkdf := fun _ _ _ => some (toBigEndian 32 5)

end SeamsWallet.EcdsaSigning
