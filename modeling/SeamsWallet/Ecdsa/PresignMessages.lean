import SeamsWallet.Ecdsa.PresignSession
import SeamsWallet.Library.Chunks

/-!
# The messages of the eleven presign rounds

Each role sends one message in each round. The message types of the two roles are copies of
one another, so that one definition serves both. `fromParts` builds a message from the bytes
of its fields and `intoParts` takes it apart again; points are parsed on the way in, and only
points other than the identity are accepted.
-/

namespace SeamsWallet.PresignCodec

open Library EcdsaPresign

inductive TripleIndex where
  | zero
  | one
  deriving DecidableEq

abbrev NonidentityPoint (P : Type) [Zero P] : Type := { Q : P // Q ≠ 0 }

/-! ## Fields -/

section Fields

variable {n : ℕ} {P : Type} [AddCommGroup P] [Module (ZMod n) P] [DecidableEq P] (K : K256 n P)

/-- Parses a point. The modules of the crate have error types of their own, with the same
cases. -/
def parsePoint (bytes : Bytes 33) : Except PresignError (NonidentityPoint P) := do
  let point ← okOr (K.fromEncodedPoint bytes) .invalidPoint
  if h : point = 0 then .error .identityPoint else .ok ⟨point, h⟩

def pointBytes (point : NonidentityPoint P) : Bytes 33 := K.pointBytes point

theorem parsePoint_eq_ok {bytes : Bytes 33} {point : NonidentityPoint P} :
    parsePoint K bytes = .ok point ↔ K.fromEncodedPoint bytes = some point.1 := by
  simp only [parsePoint, ok_iff]
  constructor
  · rintro ⟨parsed, hparsed, hpoint⟩
    split at hpoint
    · cases hpoint
    · cases hpoint
      exact hparsed
  · intro h
    exact ⟨point.1, h, dif_neg point.2⟩

theorem parsePoint_pointBytes (point : NonidentityPoint P) :
    parsePoint K (pointBytes K point) = .ok point :=
  (parsePoint_eq_ok K).mpr (K.fromEncodedPoint_pointBytes point.1 point.2)

end Fields

abbrev BitRow : Type := List.Vector UInt64 2

abbrev DoubleBitRow : Type := List.Vector UInt64 4

def rowFromBytes {count : ℕ} (bytes : Bytes (count * 8)) : List.Vector UInt64 count :=
  (bytes.chunksExact 8 count).map u64OfLittleEndian

def rowIntoBytes {count : ℕ} (row : List.Vector UInt64 count) : Bytes (count * 8) :=
  Bytes.concat (row.map u64ToLittleEndian)

def BitRow.fromBytes (bytes : Bytes 16) : BitRow := rowFromBytes bytes

def BitRow.intoBytes (row : BitRow) : Bytes 16 := rowIntoBytes row

def DoubleBitRow.fromBytes (bytes : Bytes 32) : DoubleBitRow := rowFromBytes bytes

def DoubleBitRow.intoBytes (row : DoubleBitRow) : Bytes 32 := rowIntoBytes row

@[simp] theorem rowFromBytes_rowIntoBytes {count : ℕ} (row : List.Vector UInt64 count) :
    rowFromBytes (rowIntoBytes row) = row := by
  rw [rowFromBytes, rowIntoBytes, Bytes.chunksExact_concat, map_map_of_inverse (by simp)]

@[simp] theorem rowIntoBytes_rowFromBytes {count : ℕ} (bytes : Bytes (count * 8)) :
    rowIntoBytes (rowFromBytes bytes) = bytes := by
  rw [rowIntoBytes, rowFromBytes, map_map_of_inverse (by simp), Bytes.concat_chunksExact]

abbrev SecretMatrix : Type := List.Vector BitRow 1024

def SecretMatrix.fromBytes (bytes : Bytes (1024 * 16)) : SecretMatrix :=
  (bytes.chunksExact 16 1024).map BitRow.fromBytes

def SecretMatrix.toBytes (matrix : SecretMatrix) : Bytes (1024 * 16) :=
  Bytes.concat (matrix.map BitRow.intoBytes)

theorem SecretMatrix.fromBytes_toBytes (matrix : SecretMatrix) :
    SecretMatrix.fromBytes matrix.toBytes = matrix := by
  rw [SecretMatrix.fromBytes, SecretMatrix.toBytes, Bytes.chunksExact_concat]
  exact map_map_of_inverse rowFromBytes_rowIntoBytes matrix

theorem SecretMatrix.toBytes_fromBytes (bytes : Bytes (1024 * 16)) :
    (SecretMatrix.fromBytes bytes).toBytes = bytes := by
  have hinverse : ∀ row, BitRow.intoBytes (BitRow.fromBytes row) = row :=
    @rowIntoBytes_rowFromBytes 2
  rw [SecretMatrix.toBytes, SecretMatrix.fromBytes, map_map_of_inverse hinverse,
    Bytes.concat_chunksExact]

/-! ## Polynomials and base oblivious transfer (rounds one and two) -/

section Messages

variable (n : ℕ) (P : Type) [AddCommGroup P]

structure PolynomialCommitmentMessage where
  context : PresignPairContext
  tripleIndex : TripleIndex
  digest : Bytes 32

structure SenderHello where
  context : PresignPairContext
  tripleIndex : TripleIndex
  publicY : NonidentityPoint P

structure Round1Message where
  commitments : PolynomialCommitmentMessage × PolynomialCommitmentMessage
  baseHello : SenderHello P

structure LinearPolynomialCommitment where
  constant : NonidentityPoint P
  slope : NonidentityPoint P

structure PublicPolynomialSet where
  bigE : LinearPolynomialCommitment P
  bigF : LinearPolynomialCommitment P
  bigLConstant : NonidentityPoint P

structure PolynomialOpeningMessage where
  context : PresignPairContext
  tripleIndex : TripleIndex
  publicSet : PublicPolynomialSet P
  randomizer : Bytes 32

structure PrivatePolynomialShare where
  e : ZMod n
  f : ZMod n

structure PrivatePolynomialShareMessage where
  context : PresignPairContext
  tripleIndex : TripleIndex
  share : PrivatePolynomialShare n

structure ReceiverChoices where
  context : PresignPairContext
  tripleIndex : TripleIndex
  publicX : List.Vector (NonidentityPoint P) 128

structure Round2Message where
  openings : PolynomialOpeningMessage P × PolynomialOpeningMessage P
  privateShares : PrivatePolynomialShareMessage n × PrivatePolynomialShareMessage n
  baseChoices : ReceiverChoices P

/-! ## Oblivious transfer extension (rounds three to six) -/

structure CorrelationMessage where
  context : PresignPairContext
  tripleIndex : TripleIndex
  matrix : SecretMatrix

structure ChallengeMessage where
  context : PresignPairContext
  tripleIndex : TripleIndex
  seed : Bytes 32

structure ConsistencyProof where
  context : PresignPairContext
  tripleIndex : TripleIndex
  smallX : DoubleBitRow
  smallT : List.Vector DoubleBitRow 128

structure AcceptanceMessage where
  context : PresignPairContext
  tripleIndex : TripleIndex
  digest : Bytes 32

/-! ## Multiplication (rounds seven and eight) -/

structure CiphertextMessage where
  context : PresignPairContext
  tripleIndex : TripleIndex
  values : List.Vector (List.Vector (ZMod n × ZMod n) 384) 2

structure ResponseMessage where
  context : PresignPairContext
  tripleIndex : TripleIndex
  chiFirst : ZMod n × ZMod n
  seeds : Bytes 32 × Bytes 32

/-! ## Triple finalisation (round nine) -/

structure DLogProof where
  commitment : NonidentityPoint P
  response : ZMod n

structure DLogEqProof where
  commitment0 : NonidentityPoint P
  commitment1 : NonidentityPoint P
  response : ZMod n

structure TripleContribution where
  eProof : DLogProof n P
  fProof : DLogProof n P
  bigCContribution : NonidentityPoint P
  productProof : DLogEqProof n P
  multiplicationCommitment : NonidentityPoint P
  multiplicationProof : DLogProof n P
  privateProductEvaluation : ZMod n

structure FinalizationMessage where
  context : PresignPairContext
  contributions : TripleContribution n P × TripleContribution n P

/-! ## The presignature (rounds ten and eleven)

These scalars stay bytes; they are parsed where they are used. -/

structure EShareMessage where
  context : PresignPairContext
  e : Bytes 32

structure AlphaBetaMessage where
  context : PresignPairContext
  alpha : Bytes 32
  beta : Bytes 32

end Messages

structure TripleContributionParts where
  bigCContribution : Bytes 33
  eProofCommitment : Bytes 33
  eProofResponse : Bytes 32
  fProofCommitment : Bytes 33
  fProofResponse : Bytes 32
  productProofCommitment0 : Bytes 33
  productProofCommitment1 : Bytes 33
  productProofResponse : Bytes 32
  multiplicationCommitment : Bytes 33
  multiplicationProofCommitment : Bytes 33
  multiplicationProofResponse : Bytes 32
  privateProductEvaluation : Bytes 32

/-! ## Building messages from parsed bytes -/

section Parts

variable {n : ℕ} {P : Type} [AddCommGroup P] [Module (ZMod n) P] [DecidableEq P] (K : K256 n P)
  (context : PresignPairContext) (tripleIndex : TripleIndex)

def SenderHello.fromParts (publicY : Bytes 33) : Except PresignError (SenderHello P) := do
  let publicY ← parsePoint K publicY
  return { context, tripleIndex, publicY }

def PublicPolynomialSet.fromParts (bigEConstant bigESlope bigFConstant bigFSlope
    bigLConstant : Bytes 33) : Except PresignError (PublicPolynomialSet P) := do
  let bigEConstant ← parsePoint K bigEConstant
  let bigESlope ← parsePoint K bigESlope
  let bigFConstant ← parsePoint K bigFConstant
  let bigFSlope ← parsePoint K bigFSlope
  let bigLConstant ← parsePoint K bigLConstant
  return {
    bigE := { constant := bigEConstant, slope := bigESlope }
    bigF := { constant := bigFConstant, slope := bigFSlope }
    bigLConstant }

def PolynomialOpeningMessage.fromParts
    (bigEConstant bigESlope bigFConstant bigFSlope bigLConstant : Bytes 33)
    (randomizer : Bytes 32) : Except PresignError (PolynomialOpeningMessage P) := do
  let publicSet ← PublicPolynomialSet.fromParts K bigEConstant bigESlope bigFConstant bigFSlope
    bigLConstant
  return { context, tripleIndex, publicSet, randomizer }

def PrivatePolynomialShareMessage.fromParts (n : ℕ) (context : PresignPairContext)
    (tripleIndex : TripleIndex) (e f : Bytes 32) :
    Except PresignError (PrivatePolynomialShareMessage n) := do
  let e ← parseScalar n e
  let f ← parseScalar n f
  return { context, tripleIndex, share := { e, f } }

def ReceiverChoices.fromParts (publicX : List.Vector (Bytes 33) 128) :
    Except PresignError (ReceiverChoices P) := do
  let publicX ← publicX.mmap (parsePoint K)
  return { context, tripleIndex, publicX }

def parseScalarPair (n : ℕ) (pair : Bytes 32 × Bytes 32) :
    Except PresignError (ZMod n × ZMod n) := do
  let first ← parseScalar n pair.1
  let second ← parseScalar n pair.2
  return (first, second)

def scalarPairBytes (pair : ZMod n × ZMod n) : Bytes 32 × Bytes 32 :=
  (K256.scalarBytes pair.1, K256.scalarBytes pair.2)

def CiphertextMessage.fromParts (n : ℕ) (context : PresignPairContext) (tripleIndex : TripleIndex)
    (values : List.Vector (List.Vector (Bytes 32 × Bytes 32) 384) 2) :
    Except PresignError (CiphertextMessage n) := do
  let values ← values.mmap (List.Vector.mmap (parseScalarPair n))
  return { context, tripleIndex, values }

def ResponseMessage.fromParts (n : ℕ) (context : PresignPairContext) (tripleIndex : TripleIndex)
    (chiFirst seeds : Bytes 32 × Bytes 32) : Except PresignError (ResponseMessage n) := do
  let chiFirst ← parseScalarPair n chiFirst
  return { context, tripleIndex, chiFirst, seeds }

def DLogProof.fromParts (commitment : Bytes 33) (response : Bytes 32) :
    Except PresignError (DLogProof n P) := do
  let commitment ← parsePoint K commitment
  let response ← parseScalar n response
  return { commitment, response }

def DLogEqProof.fromParts (commitment0 commitment1 : Bytes 33) (response : Bytes 32) :
    Except PresignError (DLogEqProof n P) := do
  let commitment0 ← parsePoint K commitment0
  let commitment1 ← parsePoint K commitment1
  let response ← parseScalar n response
  return { commitment0, commitment1, response }

def parseContribution (parts : TripleContributionParts) :
    Except PresignError (TripleContribution n P) := do
  let eProof ← DLogProof.fromParts K parts.eProofCommitment parts.eProofResponse
  let fProof ← DLogProof.fromParts K parts.fProofCommitment parts.fProofResponse
  let bigCContribution ← parsePoint K parts.bigCContribution
  let productProof ← DLogEqProof.fromParts K parts.productProofCommitment0
    parts.productProofCommitment1 parts.productProofResponse
  let multiplicationCommitment ← parsePoint K parts.multiplicationCommitment
  let multiplicationProof ← DLogProof.fromParts K parts.multiplicationProofCommitment
    parts.multiplicationProofResponse
  let privateProductEvaluation ← parseScalar n parts.privateProductEvaluation
  return {
    eProof, fProof, bigCContribution, productProof, multiplicationCommitment,
    multiplicationProof, privateProductEvaluation }

def contributionIntoParts (contribution : TripleContribution n P) : TripleContributionParts where
  bigCContribution := pointBytes K contribution.bigCContribution
  eProofCommitment := pointBytes K contribution.eProof.commitment
  eProofResponse := K256.scalarBytes contribution.eProof.response
  fProofCommitment := pointBytes K contribution.fProof.commitment
  fProofResponse := K256.scalarBytes contribution.fProof.response
  productProofCommitment0 := pointBytes K contribution.productProof.commitment0
  productProofCommitment1 := pointBytes K contribution.productProof.commitment1
  productProofResponse := K256.scalarBytes contribution.productProof.response
  multiplicationCommitment := pointBytes K contribution.multiplicationCommitment
  multiplicationProofCommitment := pointBytes K contribution.multiplicationProof.commitment
  multiplicationProofResponse := K256.scalarBytes contribution.multiplicationProof.response
  privateProductEvaluation := K256.scalarBytes contribution.privateProductEvaluation

def FinalizationMessage.fromParts
    (contributions : TripleContributionParts × TripleContributionParts) :
    Except PresignError (FinalizationMessage n P) := do
  let zero ← parseContribution K contributions.1
  let one ← parseContribution K contributions.2
  return { context, contributions := (zero, one) }

end Parts

end SeamsWallet.PresignCodec
