import SeamsWallet.Ecdsa.Presign

/-!
# What the presign commitment checks pin

Each successful step is inverted into the facts that made it succeed. Since a
scalar is determined by its multiple of the generator, the checks against the
public points leave the peer no choice: the opened `e`, `alpha` and `beta`, and
with them the output, are a function of the role's own input.
-/

namespace SeamsWallet.EcdsaPresign

open Library

variable {n : ℕ} {P : Type} [AddCommGroup P] [Module (ZMod n) P]

def PresignInput.started (input : PresignInput n P) (role : FixedRole) : AwaitingPeerE n P where
  role := role
  context := input.context
  privateShare := (role.lagrange n)⁻¹ * input.additiveKeyShare
  walletPublicKey := input.walletPublicKey
  triple0Share := input.triple0Share
  triple0Public := input.triple0Public
  triple1Share := input.triple1Share
  triple1Public := input.triple1Public
  ownEPrime := role.lagrange n * input.triple0Share.c

def AwaitingPeerE.opened (state : AwaitingPeerE n P) (e : ZMod n) : AwaitingPeerAlphaBeta n P where
  context := state.context
  privateShare := state.privateShare
  walletPublicKey := state.walletPublicKey
  triple0Share := state.triple0Share
  triple0Public := state.triple0Public
  triple1Share := state.triple1Share
  triple1Public := state.triple1Public
  e := e
  ownAlpha := state.role.lagrange n * (state.triple0Share.a + state.triple1Share.a)
  ownBeta := state.additiveKeyShare + state.role.lagrange n * state.triple1Share.b

def AwaitingPeerAlphaBeta.output (state : AwaitingPeerAlphaBeta n P)
    (alpha beta : ZMod n) : PresignOutput n P where
  bigR := state.e⁻¹ • state.triple0Public.bigB
  k := state.triple0Share.a
  sigma := alpha * state.privateShare - beta * state.triple1Share.a
    + state.triple1Share.c

theorem start_eq_ok {n : ℕ} {P : Type} {role : FixedRole}
    {input : PresignInput n P} {result : AwaitingPeerE n P × ZMod n}
    (h : start role input = .ok result) :
    role.lagrange n ≠ 0 ∧
      result = (input.started role, role.lagrange n * input.triple0Share.c) := by
  simp only [start, ok_iff, exists_const, K256.invert_eq_some] at h
  obtain ⟨-, inverse, ⟨hne, rfl⟩, hresult⟩ := h
  exact ⟨hne, hresult.symm⟩

variable {K : K256 n P}

theorem receiveE_eq_ok [DecidableEq P] {state : AwaitingPeerE n P}
    {message : EShareMessage} {result : AwaitingPeerAlphaBeta n P × ZMod n × ZMod n}
    (h : receiveE K state message = .ok result) :
    ∃ peer, K256.scalarFromRepr n message.2 = some peer ∧
      (state.ownEPrime + peer) • K.generator = state.triple0Public.bigC ∧
      result = (state.opened (state.ownEPrime + peer),
        (state.opened (state.ownEPrime + peer)).ownAlpha,
        (state.opened (state.ownEPrime + peer)).ownBeta) := by
  simp only [receiveE, parseScalar, ok_iff, exists_const] at h
  obtain ⟨-, peer, hpeer, -, hcommit, rfl⟩ := h
  exact ⟨peer, hpeer, hcommit, rfl⟩

variable {output : PresignOutput n P}

theorem finish_eq_ok [DecidableEq P] {state : AwaitingPeerAlphaBeta n P}
    {message : AlphaBetaMessage} (h : finish K state message = .ok output) :
    ∃ peerAlpha peerBeta, K256.scalarFromRepr n message.2.1 = some peerAlpha ∧
      K256.scalarFromRepr n message.2.2 = some peerBeta ∧
      (state.ownAlpha + peerAlpha) • K.generator =
        state.triple0Public.bigA + state.triple1Public.bigA ∧
      (state.ownBeta + peerBeta) • K.generator = state.walletPublicKey + state.triple1Public.bigB ∧
      state.e ≠ 0 ∧
      output = state.output (state.ownAlpha + peerAlpha) (state.ownBeta + peerBeta) := by
  simp only [finish, parseScalar, candidateBigR, K256.invert_eq_some, ok_iff, exists_const] at h
  obtain ⟨-, peerAlpha, halpha, peerBeta, hbeta, ⟨hA, hB⟩, _, ⟨_, ⟨he, rfl⟩, rfl⟩, hresult⟩ := h
  exact ⟨peerAlpha, peerBeta, halpha, hbeta, hA, hB, he, hresult.symm⟩

/-! ## One role against an arbitrary peer -/

def runRole [DecidableEq P] (K : K256 n P) (role : FixedRole) (input : PresignInput n P)
    (eShare : EShareMessage) (alphaBeta : AlphaBetaMessage) :
    Except PresignError (PresignOutput n P) := do
  let (state, _) ← start role input
  let (state, _, _) ← receiveE K state eShare
  finish K state alphaBeta

/-- A completed run opened values that match the public commitments, and its
output is computed from the own input and those values alone. -/
theorem runRole_eq_ok [DecidableEq P] {role : FixedRole} {input : PresignInput n P}
    {eShare : EShareMessage} {alphaBeta : AlphaBetaMessage}
    (h : runRole K role input eShare alphaBeta = .ok output) :
    ∃ e alpha beta, e • K.generator = input.triple0Public.bigC ∧
      alpha • K.generator = input.triple0Public.bigA + input.triple1Public.bigA ∧
      beta • K.generator = input.walletPublicKey + input.triple1Public.bigB ∧
      output = ((input.started role).opened e).output alpha beta := by
  simp only [runRole, bind_eq_ok] at h
  obtain ⟨started, hstart, opened, hreceive, hfinish⟩ := h
  obtain ⟨-, rfl⟩ := start_eq_ok hstart
  obtain ⟨peer, -, he, rfl⟩ := receiveE_eq_ok hreceive
  obtain ⟨peerAlpha, peerBeta, -, -, halpha, hbeta, -, rfl⟩ := finish_eq_ok hfinish
  exact ⟨_, _, _, he, halpha, hbeta, rfl⟩

/-- A role's output does not depend on what its peer sends. -/
theorem runRole_output_unique {n : ℕ} [Fact n.Prime] {P : Type} [AddCommGroup P]
    [Module (ZMod n) P] [DecidableEq P] (K : K256 n P) (role : FixedRole)
    (input : PresignInput n P) (eShare eShare' : EShareMessage)
    (alphaBeta alphaBeta' : AlphaBetaMessage) (output output' : PresignOutput n P)
    (h : runRole K role input eShare alphaBeta = .ok output)
    (h' : runRole K role input eShare' alphaBeta' = .ok output') :
    output = output' := by
  obtain ⟨e, alpha, beta, he, halpha, hbeta, rfl⟩ := runRole_eq_ok h
  obtain ⟨e', alpha', beta', he', halpha', hbeta', rfl⟩ := runRole_eq_ok h'
  have hinj := smul_left_injective (ZMod n) K.generator_ne_zero
  obtain rfl : e = e' := hinj (he.trans he'.symm)
  obtain rfl : alpha = alpha' := hinj (halpha.trans halpha'.symm)
  obtain rfl : beta = beta' := hinj (hbeta.trans hbeta'.symm)
  rfl

/-- A client's input on the small curve, for a wallet with secret `19`, a nonce
triple of `7` and `11` and a product triple of `13` and `17`. -/
def exampleClientInput : PresignInput 31 (ZMod 31) where
  context := ⟨Bytes.zeros 32, Bytes.zeros 32⟩
  additiveKeyShare := 20
  walletPublicKey := 19
  triple0Share := ⟨17, 7, 21⟩
  triple0Public := ⟨⟨Bytes.zeros 32, Bytes.zeros 32⟩, 7, 11, 77⟩
  triple1Share := ⟨25, 6, 28⟩
  triple1Public := ⟨⟨Bytes.zeros 32, Bytes.zeros 32⟩, 13, 17, 221⟩

theorem runRole_output_unique_example : runRole K256.additive31 .client exampleClientInput
        (⟨Bytes.zeros 32, Bytes.zeros 32⟩, toBigEndian 32 14)
        (⟨Bytes.zeros 32, Bytes.zeros 32⟩, toBigEndian 32 18, toBigEndian 32 29) =
      .ok ⟨9, 17, 26⟩ ∧
    ∀ eShare alphaBeta output,
      runRole K256.additive31 .client exampleClientInput eShare alphaBeta = .ok output →
        output = ⟨9, 17, 26⟩ := by
  have hrun : runRole K256.additive31 .client exampleClientInput
      (⟨Bytes.zeros 32, Bytes.zeros 32⟩, toBigEndian 32 14)
      (⟨Bytes.zeros 32, Bytes.zeros 32⟩, toBigEndian 32 18, toBigEndian 32 29) =
      .ok ⟨9, 17, 26⟩ := by decide +kernel
  refine ⟨hrun, ?_⟩
  intro eShare alphaBeta output h
  exact runRole_output_unique _ _ _ _ _ _ _ _ _ h hrun

end SeamsWallet.EcdsaPresign
