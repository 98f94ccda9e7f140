import SeamsWallet.Ecdsa.K256
import SeamsWallet.Library.Except

/-!
# Fixed-role ECDSA presigning

The 2-of-2 presign protocol of the presign crate: from an additive key share
and two validated triples each role opens `e`, then `alpha` and `beta`, checks
every opened value against its public commitment, and ends with a nonce point
and its shares of the nonce inverse and of the product with the key.

Both roles run the same three functions with their own Lagrange coefficient;
the role wrappers of the crate only pair a state with the message it sends.
-/

namespace SeamsWallet.EcdsaPresign

open Library

inductive PresignError where
  | contextMismatch
  | identityPoint
  | invalidPoint
  | nonCanonicalScalar
  | invalidPresignatureLength
  | zeroPresignatureNonce
  | zeroKeyShare
  | zeroEShare
  | eCommitmentMismatch
  | additiveCommitmentMismatch
  | nonInvertibleE
  deriving DecidableEq

/-- The signing scope and the pair a presign run belongs to. -/
structure PresignPairContext where
  signingScope : Bytes 32
  pair : Bytes 32
  deriving DecidableEq

structure TriplePublic (P : Type) where
  context : PresignPairContext
  bigA : P
  bigB : P
  bigC : P

structure TripleShare (n : ℕ) where
  a : ZMod n
  b : ZMod n
  c : ZMod n

structure ValidatedTriple (n : ℕ) (P : Type) where
  share : TripleShare n
  triplePublic : TriplePublic P

structure AdditiveKeyShare (n : ℕ) where
  scalar : ZMod n
  ne_zero : scalar ≠ 0

/-! ## Parsing -/

def parseScalar (n : ℕ) (bytes : Bytes 32) : Except PresignError (ZMod n) :=
  okOr (K256.scalarFromRepr n bytes) .nonCanonicalScalar

variable {n : ℕ} {P : Type} [AddCommGroup P] [Module (ZMod n) P] (K : K256 n P)

def parseNonidentityPoint [DecidableEq P] (bytes : Bytes 33) : Except PresignError P := do
  let point ← okOr (K.fromEncodedPoint bytes) .invalidPoint
  ensure (point ≠ 0) .identityPoint
  return point

def AdditiveKeyShare.fromBytes (n : ℕ) (bytes : Bytes 32) :
    Except PresignError (AdditiveKeyShare n) := do
  let scalar ← parseScalar n bytes
  if h : scalar = 0 then .error .zeroKeyShare else .ok ⟨scalar, h⟩

def TriplePublic.fromBytes [DecidableEq P] (context : PresignPairContext)
    (bigA bigB bigC : Bytes 33) :
    Except PresignError (TriplePublic P) := do
  let bigA ← parseNonidentityPoint K bigA
  let bigB ← parseNonidentityPoint K bigB
  let bigC ← parseNonidentityPoint K bigC
  return { context, bigA, bigB, bigC }

/-! ## Roles and states -/

inductive FixedRole where
  | client
  | signingWorker

/-- The Lagrange coefficient at zero of the role's coordinate, for the
coordinates `2` and `3`. -/
def FixedRole.lagrange (n : ℕ) : FixedRole → ZMod n
  | .client => 3
  | .signingWorker => -2

structure PresignInput (n : ℕ) (P : Type) where
  context : PresignPairContext
  additiveKeyShare : ZMod n
  walletPublicKey : P
  triple0Share : TripleShare n
  triple0Public : TriplePublic P
  triple1Share : TripleShare n
  triple1Public : TriplePublic P

def PresignInput.new [DecidableEq P] (keyShare : AdditiveKeyShare n) (walletPublicKey : Bytes 33)
    (triple0 triple1 : ValidatedTriple n P) :
    Except PresignError (PresignInput n P) := do
  ensure (triple0.triplePublic.context = triple1.triplePublic.context) .contextMismatch
  let walletPublicKey ← parseNonidentityPoint K walletPublicKey
  return {
    context := triple0.triplePublic.context
    additiveKeyShare := keyShare.scalar
    walletPublicKey
    triple0Share := triple0.share
    triple0Public := triple0.triplePublic
    triple1Share := triple1.share
    triple1Public := triple1.triplePublic }

structure AwaitingPeerE (n : ℕ) (P : Type) where
  role : FixedRole
  context : PresignPairContext
  privateShare : ZMod n
  walletPublicKey : P
  triple0Share : TripleShare n
  triple0Public : TriplePublic P
  triple1Share : TripleShare n
  triple1Public : TriplePublic P
  ownEPrime : ZMod n

structure AwaitingPeerAlphaBeta (n : ℕ) (P : Type) where
  context : PresignPairContext
  privateShare : ZMod n
  walletPublicKey : P
  triple0Share : TripleShare n
  triple0Public : TriplePublic P
  triple1Share : TripleShare n
  triple1Public : TriplePublic P
  e : ZMod n
  ownAlpha : ZMod n
  ownBeta : ZMod n

structure PresignOutput (n : ℕ) (P : Type) where
  bigR : P
  k : ZMod n
  sigma : ZMod n
  deriving DecidableEq

abbrev EShareMessage : Type := PresignPairContext × Bytes 32

abbrev AlphaBetaMessage : Type := PresignPairContext × Bytes 32 × Bytes 32

/-! ## The protocol steps -/

def start (role : FixedRole) (input : PresignInput n P) :
    Except PresignError (AwaitingPeerE n P × ZMod n) := do
  let lagrange := role.lagrange n
  let ownEPrime := lagrange * input.triple0Share.c
  ensure (ownEPrime ≠ 0) .zeroEShare
  let lagrangeInverse ← okOr (K256.invert lagrange) .zeroKeyShare
  return ({
    role
    context := input.context
    privateShare := lagrangeInverse * input.additiveKeyShare
    walletPublicKey := input.walletPublicKey
    triple0Share := input.triple0Share
    triple0Public := input.triple0Public
    triple1Share := input.triple1Share
    triple1Public := input.triple1Public
    ownEPrime }, ownEPrime)

def AwaitingPeerE.additiveKeyShare (state : AwaitingPeerE n P) : ZMod n :=
  state.role.lagrange n * state.privateShare

def receiveE [DecidableEq P] (state : AwaitingPeerE n P) (message : EShareMessage) :
    Except PresignError (AwaitingPeerAlphaBeta n P × ZMod n × ZMod n) := do
  ensure (message.1 = state.context) .contextMismatch
  let peerEPrime ← parseScalar n message.2
  ensure (peerEPrime ≠ 0) .zeroEShare
  let e := state.ownEPrime + peerEPrime
  ensure (e • K.generator = state.triple0Public.bigC) .eCommitmentMismatch
  let lagrange := state.role.lagrange n
  let ownAlpha := lagrange * (state.triple0Share.a + state.triple1Share.a)
  let ownBeta := state.additiveKeyShare + lagrange * state.triple1Share.b
  return ({
    context := state.context
    privateShare := state.privateShare
    walletPublicKey := state.walletPublicKey
    triple0Share := state.triple0Share
    triple0Public := state.triple0Public
    triple1Share := state.triple1Share
    triple1Public := state.triple1Public
    e
    ownAlpha
    ownBeta }, ownAlpha, ownBeta)

def candidateBigR (state : AwaitingPeerAlphaBeta n P) : Except PresignError P := do
  let eInverse ← okOr (K256.invert state.e) .nonInvertibleE
  return eInverse • state.triple0Public.bigB

def finish [DecidableEq P] (state : AwaitingPeerAlphaBeta n P) (message : AlphaBetaMessage) :
    Except PresignError (PresignOutput n P) := do
  ensure (message.1 = state.context) .contextMismatch
  let peerAlpha ← parseScalar n message.2.1
  let peerBeta ← parseScalar n message.2.2
  let alpha := state.ownAlpha + peerAlpha
  let beta := state.ownBeta + peerBeta
  let expectedAlpha := state.triple0Public.bigA + state.triple1Public.bigA
  let expectedBeta := state.walletPublicKey + state.triple1Public.bigB
  ensure (alpha • K.generator = expectedAlpha ∧ beta • K.generator = expectedBeta)
    .additiveCommitmentMismatch
  let bigR ← candidateBigR state
  return {
    bigR
    k := state.triple0Share.a
    sigma := alpha * state.privateShare - beta * state.triple1Share.a
      + state.triple1Share.c }

end SeamsWallet.EcdsaPresign
