import SeamsWallet.Ecdsa.PresignMessages
import SeamsWallet.Library.Reader

/-!
# The presign frame codec

A frame is a fixed header and a payload of the round's fixed size. Each payload starts with
the pair context; the fields of the message follow at fixed offsets. Encoding first checks
that all parts of a message carry one context and the triple index the role uses in that
round; decoding fills both in.
-/

namespace SeamsWallet.PresignCodec

open Library EcdsaPresign PresignSession

structure MessageCodec (Message : Type) where
  encodePresignMessage : Message → Except PresignCodecError (List UInt8)
  decode : List UInt8 → Except PresignCodecError Message

/-- The codec of a role's round from the writer and the reader of its payload. -/
def messageCodec {Message : Type} (role : FixedRole) (round : ℕ)
    (write : Message → Except PresignCodecError (List UInt8))
    (read : Reader PresignCodecError Message) : MessageCodec Message where
  encodePresignMessage message := encodeRound role round (write message)
  decode encoded := do
    let cursor ← decodeFrame encoded (roleByte role) (UInt8.ofNat round) (payloadSize round)
    let (message, _) ← read.run cursor
    return message

/-! ## Fields -/

def writeContext (context : PresignPairContext) : List UInt8 :=
  context.signingScope.toList ++ context.pair.toList

def take (width : ℕ) : Reader PresignCodecError (Bytes width) := Reader.take width .invalidBody

def readContext : Reader PresignCodecError PresignPairContext := do
  let signingScope ← take 32
  let pair ← take 32
  return { signingScope, pair }

def readPoint : Reader PresignCodecError (Bytes 33) := take 33

def readScalar : Reader PresignCodecError (Bytes 32) := take 32

def readScalarPair : Reader PresignCodecError (Bytes 32 × Bytes 32) := do
  let first ← take 32
  let second ← take 32
  return (first, second)

def writeScalarPair (pair : Bytes 32 × Bytes 32) : List UInt8 := pair.1.toList ++ pair.2.toList

def parsed {α : Type} (x : Except PresignError α) : Reader PresignCodecError α :=
  Reader.lift (x.mapError fun _ => .invalidBody)

def ensureBinding (actualContext expectedContext : PresignPairContext)
    (actualIndex expectedIndex : TripleIndex) : Except PresignCodecError Unit :=
  ensure (actualContext = expectedContext ∧ actualIndex = expectedIndex) .invalidMessageBinding

section Rounds

variable {n : ℕ} {P : Type} [AddCommGroup P] [Module (ZMod n) P] [DecidableEq P] (K : K256 n P)

/-! ## Round one -/

def writeRound1 (helloIndex : TripleIndex) (message : Round1Message P) :
    Except PresignCodecError (List UInt8) := do
  let (zero, one) := message.commitments
  let hello := message.baseHello
  ensureBinding one.context zero.context one.tripleIndex .one
  ensureBinding zero.context zero.context zero.tripleIndex .zero
  ensureBinding hello.context zero.context hello.tripleIndex helloIndex
  return writeContext zero.context ++ (zero.digest.toList ++ (one.digest.toList ++
    (pointBytes K hello.publicY).toList))

def readRound1 (helloIndex : TripleIndex) : Reader PresignCodecError (Round1Message P) := do
  let context ← readContext
  let digestZero ← take 32
  let digestOne ← take 32
  let helloPoint ← readPoint
  let baseHello ← parsed (SenderHello.fromParts K context helloIndex helloPoint)
  return {
    commitments := (⟨context, .zero, digestZero⟩, ⟨context, .one, digestOne⟩)
    baseHello }

variable (role : FixedRole)

def round1Codec (helloIndex : TripleIndex) : MessageCodec (Round1Message P) :=
  messageCodec role 1 (writeRound1 K helloIndex) (readRound1 K helloIndex)

/-! ## Round two -/

def writeOpening (opening : PolynomialOpeningMessage P) (context : PresignPairContext)
    (index : TripleIndex) : Except PresignCodecError (List UInt8) := do
  ensureBinding opening.context context opening.tripleIndex index
  return (pointBytes K opening.publicSet.bigE.constant).toList ++
    ((pointBytes K opening.publicSet.bigE.slope).toList ++
    ((pointBytes K opening.publicSet.bigF.constant).toList ++
    ((pointBytes K opening.publicSet.bigF.slope).toList ++
    ((pointBytes K opening.publicSet.bigLConstant).toList ++ opening.randomizer.toList))))

def writePrivateShare (share : PrivatePolynomialShareMessage n) (context : PresignPairContext)
    (index : TripleIndex) : Except PresignCodecError (List UInt8) := do
  ensureBinding share.context context share.tripleIndex index
  return writeScalarPair (scalarPairBytes (share.share.e, share.share.f))

structure DecodedOpening where
  bigEConstant : Bytes 33
  bigESlope : Bytes 33
  bigFConstant : Bytes 33
  bigFSlope : Bytes 33
  bigLConstant : Bytes 33
  randomizer : Bytes 32

def readOpeningParts : Reader PresignCodecError DecodedOpening := do
  let bigEConstant ← readPoint
  let bigESlope ← readPoint
  let bigFConstant ← readPoint
  let bigFSlope ← readPoint
  let bigLConstant ← readPoint
  let randomizer ← take 32
  return { bigEConstant, bigESlope, bigFConstant, bigFSlope, bigLConstant, randomizer }

def DecodedOpening.message (parts : DecodedOpening) (context : PresignPairContext)
    (index : TripleIndex) : Except PresignError (PolynomialOpeningMessage P) :=
  PolynomialOpeningMessage.fromParts K context index parts.bigEConstant parts.bigESlope
    parts.bigFConstant parts.bigFSlope parts.bigLConstant parts.randomizer

def readPrivateShare (n : ℕ) (context : PresignPairContext) (index : TripleIndex) :
    Reader PresignCodecError (PrivatePolynomialShareMessage n) := do
  let e ← readScalar
  let f ← readScalar
  parsed (PrivatePolynomialShareMessage.fromParts n context index e f)

variable (choicesIndex : TripleIndex)

def writeRound2 (message : Round2Message n P) : Except PresignCodecError (List UInt8) := do
  let (openingZero, openingOne) := message.openings
  let (shareZero, shareOne) := message.privateShares
  let choices := message.baseChoices
  let context := openingZero.context
  let openingZeroBytes ← writeOpening K openingZero context .zero
  let openingOneBytes ← writeOpening K openingOne context .one
  let shareZeroBytes ← writePrivateShare shareZero context .zero
  let shareOneBytes ← writePrivateShare shareOne context .one
  ensureBinding choices.context context choices.tripleIndex choicesIndex
  return writeContext context ++ (openingZeroBytes ++ (openingOneBytes ++ (shareZeroBytes ++
    (shareOneBytes ++ choices.publicX.toList.flatMap fun point => (pointBytes K point).toList))))

def readRound2 : Reader PresignCodecError (Round2Message n P) := do
  let context ← readContext
  let zero ← readOpeningParts
  let one ← readOpeningParts
  let openingZero ← parsed (zero.message K context .zero)
  let openingOne ← parsed (one.message K context .one)
  let shareZero ← readPrivateShare n context .zero
  let shareOne ← readPrivateShare n context .one
  let choices ← Reader.many readPoint 128
  let baseChoices ← parsed (ReceiverChoices.fromParts K context choicesIndex choices)
  return {
    openings := (openingZero, openingOne)
    privateShares := (shareZero, shareOne)
    baseChoices }

def round2Codec : MessageCodec (Round2Message n P) :=
  messageCodec role 2 (writeRound2 K choicesIndex) (readRound2 K choicesIndex)

/-! ## Rounds three to six -/

variable (index : TripleIndex)

def writeRound3 (message : CorrelationMessage) : Except PresignCodecError (List UInt8) := do
  ensureBinding message.context message.context message.tripleIndex index
  return writeContext message.context ++ message.matrix.toBytes.toList

def readRound3 : Reader PresignCodecError CorrelationMessage := do
  let context ← readContext
  let matrix ← take (1024 * 16)
  return { context, tripleIndex := index, matrix := SecretMatrix.fromBytes matrix }

def round3Codec (index : TripleIndex) : MessageCodec CorrelationMessage :=
  messageCodec role 3 (writeRound3 index) (readRound3 index)

/-- A message that holds 32 bytes next to its context and index, with the bytes last. -/
structure DigestParts (Message : Type) where
  intoParts : Message → PresignPairContext × TripleIndex × Bytes 32
  fromParts : PresignPairContext → TripleIndex → Bytes 32 → Message

def challengeParts : DigestParts ChallengeMessage where
  intoParts message := (message.context, message.tripleIndex, message.seed)
  fromParts context tripleIndex seed := { context, tripleIndex, seed }

def acceptanceParts : DigestParts AcceptanceMessage where
  intoParts message := (message.context, message.tripleIndex, message.digest)
  fromParts context tripleIndex digest := { context, tripleIndex, digest }

def writeContextDigest {Message : Type} (parts : DigestParts Message) (index : TripleIndex)
    (message : Message) : Except PresignCodecError (List UInt8) := do
  let (context, messageIndex, digest) := parts.intoParts message
  ensureBinding context context messageIndex index
  return writeContext context ++ digest.toList

def readContextDigest {Message : Type} (parts : DigestParts Message) (index : TripleIndex) :
    Reader PresignCodecError Message := do
  let context ← readContext
  let digest ← take 32
  return parts.fromParts context index digest

def contextDigestCodec {Message : Type} (parts : DigestParts Message) (role : FixedRole)
    (round : ℕ) (index : TripleIndex) : MessageCodec Message :=
  messageCodec role round (writeContextDigest parts index) (readContextDigest parts index)

def writeRound5 (message : ConsistencyProof) : Except PresignCodecError (List UInt8) := do
  ensureBinding message.context message.context message.tripleIndex index
  return writeContext message.context ++ (message.smallX.intoBytes.toList ++
    (message.smallT.map DoubleBitRow.intoBytes).toList.flatMap List.Vector.toList)

def readRound5 : Reader PresignCodecError ConsistencyProof := do
  let context ← readContext
  let smallX ← take 32
  let smallT ← Reader.many (take 32) 128
  return {
    context
    tripleIndex := index
    smallX := DoubleBitRow.fromBytes smallX
    smallT := smallT.map DoubleBitRow.fromBytes }

def round5Codec (index : TripleIndex) : MessageCodec ConsistencyProof :=
  messageCodec role 5 (writeRound5 index) (readRound5 index)

/-! ## Rounds seven and eight -/

def writeRound7 (message : CiphertextMessage n) : Except PresignCodecError (List UInt8) := do
  ensureBinding message.context message.context message.tripleIndex index
  return writeContext message.context ++ message.values.toList.flatMap fun instance' =>
    instance'.toList.flatMap fun pair => writeScalarPair (scalarPairBytes pair)

def readRound7 (n : ℕ) (index : TripleIndex) : Reader PresignCodecError (CiphertextMessage n) := do
  let context ← readContext
  let values ← Reader.many (Reader.many readScalarPair 384) 2
  parsed (CiphertextMessage.fromParts n context index values)

def round7Codec (n : ℕ) (role : FixedRole) (index : TripleIndex) :
    MessageCodec (CiphertextMessage n) :=
  messageCodec role 7 (writeRound7 index) (readRound7 n index)

def writeRound8 (message : ResponseMessage n) : Except PresignCodecError (List UInt8) := do
  ensureBinding message.context message.context message.tripleIndex index
  return writeContext message.context ++
    (writeScalarPair (scalarPairBytes message.chiFirst) ++ writeScalarPair message.seeds)

def readRound8 (n : ℕ) (index : TripleIndex) : Reader PresignCodecError (ResponseMessage n) := do
  let context ← readContext
  let chi ← readScalarPair
  let seeds ← readScalarPair
  parsed (ResponseMessage.fromParts n context index chi seeds)

def round8Codec (n : ℕ) (role : FixedRole) (index : TripleIndex) :
    MessageCodec (ResponseMessage n) :=
  messageCodec role 8 (writeRound8 index) (readRound8 n index)

/-! ## Round nine -/

def writeContribution (contribution : TripleContributionParts) : List UInt8 :=
  contribution.bigCContribution.toList ++ (contribution.eProofCommitment.toList ++
    (contribution.eProofResponse.toList ++ (contribution.fProofCommitment.toList ++
    (contribution.fProofResponse.toList ++ (contribution.productProofCommitment0.toList ++
    (contribution.productProofCommitment1.toList ++ (contribution.productProofResponse.toList ++
    (contribution.multiplicationCommitment.toList ++
    (contribution.multiplicationProofCommitment.toList ++
    (contribution.multiplicationProofResponse.toList ++
    contribution.privateProductEvaluation.toList))))))))))

def readContribution : Reader PresignCodecError TripleContributionParts := do
  let bigCContribution ← readPoint
  let eProofCommitment ← readPoint
  let eProofResponse ← readScalar
  let fProofCommitment ← readPoint
  let fProofResponse ← readScalar
  let productProofCommitment0 ← readPoint
  let productProofCommitment1 ← readPoint
  let productProofResponse ← readScalar
  let multiplicationCommitment ← readPoint
  let multiplicationProofCommitment ← readPoint
  let multiplicationProofResponse ← readScalar
  let privateProductEvaluation ← readScalar
  return {
    bigCContribution, eProofCommitment, eProofResponse, fProofCommitment, fProofResponse,
    productProofCommitment0, productProofCommitment1, productProofResponse,
    multiplicationCommitment, multiplicationProofCommitment, multiplicationProofResponse,
    privateProductEvaluation }

def writeRound9 (message : FinalizationMessage n P) : Except PresignCodecError (List UInt8) :=
  return writeContext message.context ++
    (writeContribution (contributionIntoParts K message.contributions.1) ++
      writeContribution (contributionIntoParts K message.contributions.2))

def readRound9 : Reader PresignCodecError (FinalizationMessage n P) := do
  let context ← readContext
  let zero ← readContribution
  let one ← readContribution
  parsed (FinalizationMessage.fromParts K context (zero, one))

def round9Codec : MessageCodec (FinalizationMessage n P) :=
  messageCodec role 9 (writeRound9 K) (readRound9 K)

/-! ## Rounds ten and eleven -/

def writeRound10 (message : EShareMessage) : Except PresignCodecError (List UInt8) :=
  return writeContext message.context ++ message.e.toList

def readRound10 : Reader PresignCodecError EShareMessage := do
  let context ← readContext
  let e ← readScalar
  return { context, e }

def round10Codec : MessageCodec EShareMessage :=
  messageCodec role 10 writeRound10 readRound10

def writeRound11 (message : AlphaBetaMessage) : Except PresignCodecError (List UInt8) :=
  return writeContext message.context ++ (message.alpha.toList ++ message.beta.toList)

def readRound11 : Reader PresignCodecError AlphaBetaMessage := do
  let context ← readContext
  let alpha ← readScalar
  let beta ← readScalar
  return { context, alpha, beta }

def round11Codec : MessageCodec AlphaBetaMessage :=
  messageCodec role 11 writeRound11 readRound11

end Rounds

/-! ## The codecs of the two roles -/

inductive PresignRound where
  | round1
  | round2
  | round3
  | round4
  | round5
  | round6
  | round7
  | round8
  | round9
  | round10
  | round11

def PresignRound.number : PresignRound → ℕ
  | .round1 => 1
  | .round2 => 2
  | .round3 => 3
  | .round4 => 4
  | .round5 => 5
  | .round6 => 6
  | .round7 => 7
  | .round8 => 8
  | .round9 => 9
  | .round10 => 10
  | .round11 => 11

def PresignMessage (n : ℕ) (P : Type) [AddCommGroup P] : PresignRound → Type
  | .round1 => Round1Message P
  | .round2 => Round2Message n P
  | .round3 => CorrelationMessage
  | .round4 => ChallengeMessage
  | .round5 => ConsistencyProof
  | .round6 => AcceptanceMessage
  | .round7 => CiphertextMessage n
  | .round8 => ResponseMessage n
  | .round9 => FinalizationMessage n P
  | .round10 => EShareMessage
  | .round11 => AlphaBetaMessage

section Roles

variable {n : ℕ} {P : Type} [AddCommGroup P] [Module (ZMod n) P] [DecidableEq P] (K : K256 n P)

def clientCodec : (round : PresignRound) → MessageCodec (PresignMessage n P round)
  | .round1 => round1Codec K .client .one
  | .round2 => round2Codec K .client .zero
  | .round3 => round3Codec .client .one
  | .round4 => contextDigestCodec challengeParts .client 4 .zero
  | .round5 => round5Codec .client .one
  | .round6 => contextDigestCodec acceptanceParts .client 6 .zero
  | .round7 => round7Codec n .client .zero
  | .round8 => round8Codec n .client .one
  | .round9 => round9Codec K .client
  | .round10 => round10Codec .client
  | .round11 => round11Codec .client

def signingWorkerCodec : (round : PresignRound) → MessageCodec (PresignMessage n P round)
  | .round1 => round1Codec K .signingWorker .zero
  | .round2 => round2Codec K .signingWorker .one
  | .round3 => round3Codec .signingWorker .zero
  | .round4 => contextDigestCodec challengeParts .signingWorker 4 .one
  | .round5 => round5Codec .signingWorker .zero
  | .round6 => contextDigestCodec acceptanceParts .signingWorker 6 .one
  | .round7 => round7Codec n .signingWorker .one
  | .round8 => round8Codec n .signingWorker .zero
  | .round9 => round9Codec K .signingWorker
  | .round10 => round10Codec .signingWorker
  | .round11 => round11Codec .signingWorker

def codec : (role : FixedRole) → (round : PresignRound) → MessageCodec (PresignMessage n P round)
  | .client => clientCodec K
  | .signingWorker => signingWorkerCodec K

def encodePresignMessage (role : FixedRole) (round : PresignRound)
    (message : PresignMessage n P round) : Except PresignCodecError (List UInt8) :=
  (codec K role round).encodePresignMessage message

def decode (role : FixedRole) (round : PresignRound) (encoded : List UInt8) :
    Except PresignCodecError (PresignMessage n P round) :=
  (codec K role round).decode encoded

end Roles

end SeamsWallet.PresignCodec
