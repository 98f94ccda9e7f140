import SeamsWallet.Protocol.Identity
import SeamsWallet.ThresholdPrf.Ristretto

/-!
# The threshold PRF

The PRF of a root on a context hashes the context to a point, multiplies it by
the root and hashes the result. A share gives a partial evaluation, with a proof
that its commitment and the partial use one scalar; a threshold set of verified
partials combines to the output. Every hash is over a transcript with the suite,
the purpose and length-prefixed fields.
-/

namespace SeamsWallet.ThresholdPrf

open Library Edwards25519

/-! ## Contexts -/

inductive SuiteId where
  | ristretto255Sha512

def SuiteId.asBytes : SuiteId → List UInt8
  | .ristretto255Sha512 => stringBytes "threshold-prf/ristretto255-sha512"

inductive PrfPurpose where
  | routerAbEcdsaDerivationYServer
  | routerAbXClientBaseV1
  | routerAbXServerBaseV1
  | ed25519DeriverAContributionRoot
  | ed25519DeriverBContributionRoot

inductive PrfOutputEncoding where
  | raw32
  | canonicalEd25519Scalar32

def PrfPurpose.asBytes : PrfPurpose → List UInt8
  | routerAbEcdsaDerivationYServer => stringBytes "router-ab-ecdsa-derivation/y-server/v1"
  | routerAbXClientBaseV1 => stringBytes "router-ab/x_client_base/v1"
  | routerAbXServerBaseV1 => stringBytes "router-ab/x_server_base/v1"
  | ed25519DeriverAContributionRoot =>
    stringBytes "router-ab-ed25519-yao/deriver-a-contribution-root/v1"
  | ed25519DeriverBContributionRoot =>
    stringBytes "router-ab-ed25519-yao/deriver-b-contribution-root/v1"

def PrfPurpose.outputEncoding : PrfPurpose → PrfOutputEncoding
  | routerAbEcdsaDerivationYServer => .raw32
  | ed25519DeriverAContributionRoot | ed25519DeriverBContributionRoot => .raw32
  | routerAbXClientBaseV1 | routerAbXServerBaseV1 => .canonicalEd25519Scalar32

structure PrfContext where
  suiteId : SuiteId
  purpose : PrfPurpose
  contextBytes : List UInt8

/-! ## Transcripts -/

def inputDomain : List UInt8 := stringBytes "threshold-prf/input"
def outputDomain : List UInt8 := stringBytes "threshold-prf/output"
def partialContextDomain : List UInt8 := stringBytes "threshold-prf/partial-context"
def dleqDomain : List UInt8 := stringBytes "threshold-prf/dleq"
def dleqBoundDomainV1 : List UInt8 := stringBytes "threshold-prf/dleq-bound/v1"

def pushLen16 (out bytes : List UInt8) : ThresholdPrfResult (List UInt8) := do
  ensure (bytes.length < 256 ^ 2) .transcriptLengthOverflow
  return out ++ (toBigEndian 2 bytes.length).toList ++ bytes

def pushLen32 (out bytes : List UInt8) : ThresholdPrfResult (List UInt8) := do
  ensure (bytes.length < 256 ^ 4) .transcriptLengthOverflow
  return out ++ (toBigEndian 4 bytes.length).toList ++ bytes

def encodeTranscript (domain : List UInt8) (context : PrfContext) (payload : List UInt8) :
    ThresholdPrfResult (List UInt8) := do
  let out ← pushLen16 [] domain
  let out ← pushLen16 out context.suiteId.asBytes
  let out ← pushLen16 out context.purpose.asBytes
  let out ← pushLen32 out context.contextBytes
  pushLen32 out payload

inductive DleqProofBinding where
  | legacy
  | digest (digest : Bytes 32)

def DleqProofBinding.domain : DleqProofBinding → List UInt8
  | legacy => dleqDomain
  | digest _ => dleqBoundDomainV1

def DleqProofBinding.bytes : DleqProofBinding → List UInt8
  | legacy => []
  | digest bound => bound.toList

/-! ## Partials, commitments and proofs -/

structure PrfPartial (G : Type) where
  id : ThresholdShareId
  contextTag : Bytes 32
  point : G

structure SigningRootShareCommitment (G : Type) where
  id : ThresholdShareId
  point : G
  deriving DecidableEq

structure PrfDleqProof (q : ℕ) where
  challenge : ZMod q
  response : ZMod q

structure PrfPartialProofBundle (q : ℕ) (G : Type) where
  partialPrf : PrfPartial G
  commitment : SigningRootShareCommitment G
  proof : PrfDleqProof q

structure DleqStatement (G : Type) where
  contextTag : Bytes 32
  shareId : ThresholdShareId
  inputPoint : G
  commitmentPoint : G
  partialPoint : G

variable {q : ℕ} {G : Type} [AddCommGroup G] [Module (ZMod q) G]
  (R : Ristretto255 q G) (share : SigningRootShare q)

def SigningRootShareCommitment.fromShare : SigningRootShareCommitment G :=
  ⟨share.id, share.value • R.basepoint⟩

variable (context : PrfContext)

def encodeDleqChallengeTranscript (statement : DleqStatement G) (nonceG nonceP : G)
    (proofBinding : DleqProofBinding) :
    ThresholdPrfResult (List UInt8) := do
  let out ← pushLen16 [] proofBinding.domain
  let out ← pushLen16 out context.suiteId.asBytes
  let out ← pushLen16 out context.purpose.asBytes
  return out ++ statement.contextTag.toList ++ proofBinding.bytes ++
    (u16ToBigEndian statement.shareId.get).toList ++
    (R.compress R.basepoint).toList ++
    (R.compress statement.inputPoint).toList ++
    (R.compress statement.commitmentPoint).toList ++
    (R.compress statement.partialPoint).toList ++
    (R.compress nonceG).toList ++ (R.compress nonceP).toList

/-! ## Hashes -/

def hashToGroup : ThresholdPrfResult G := do
  let transcript ← encodeTranscript inputDomain context []
  return R.hashFromBytes transcript

def partialContextTag : ThresholdPrfResult (Bytes 32) := do
  let transcript ← encodeTranscript partialContextDomain context []
  return (R.sha512 transcript).slice 0 32 (by decide)

def outputFromTranscript (transcript : List UInt8) (context : PrfContext) : Bytes 32 :=
  let out := (R.sha512 transcript).slice 0 32 (by decide)
  match context.purpose.outputEncoding with
  | .raw32 => out
  | .canonicalEd25519Scalar32 => scalarToBytes (scalarFromBytesModOrder q out)

def outputFromPoint (point : G) (context : PrfContext) : ThresholdPrfResult (Bytes 32) := do
  let transcript ← encodeTranscript outputDomain context (R.compress point).toList
  return outputFromTranscript R transcript context

def dleqChallenge (statement : DleqStatement G) (nonceG nonceP : G)
    (proofBinding : DleqProofBinding) : ThresholdPrfResult (ZMod q) := do
  let transcript ←
    encodeDleqChallengeTranscript R context statement nonceG nonceP proofBinding
  return scalarFromBytesModOrderWide q (R.sha512 transcript)

/-! ## Evaluation -/

def evaluateScalar (scalar : ZMod q) (context : PrfContext) : ThresholdPrfResult (Bytes 32) := do
  let p ← hashToGroup R context
  outputFromPoint R (scalar • p) context

def evaluateDirectReference (root : SigningRootScalar q)
    (context : PrfContext) : ThresholdPrfResult (Bytes 32) :=
  evaluateScalar R root.scalar context

def evaluatePartialWithInput (contextTag : Bytes 32) (inputPoint : G) : PrfPartial G :=
  ⟨share.id, contextTag, share.value • inputPoint⟩

def evaluatePartial : ThresholdPrfResult (PrfPartial G) := do
  let inputPoint ← hashToGroup R context
  let contextTag ← partialContextTag R context
  return evaluatePartialWithInput share contextTag inputPoint

variable (commitment : SigningRootShareCommitment G)

/-- The proof of one partial; `blind` is the non-zero nonce the generator gives. -/
def provePartialDleq (partialPrf : PrfPartial G) (context : PrfContext) (inputPoint : G)
    (proofBinding : DleqProofBinding)
    (blind : {scalar : ZMod q // scalar ≠ 0}) : ThresholdPrfResult (PrfDleqProof q) := do
  ensure (commitment.id = share.id ∧ partialPrf.id = share.id) .invalidDleqProof
  let nonceG := blind.val • R.basepoint
  let nonceP := blind.val • inputPoint
  let statement : DleqStatement G :=
    ⟨partialPrf.contextTag, partialPrf.id, inputPoint, commitment.point, partialPrf.point⟩
  let challenge ← dleqChallenge R context statement nonceG nonceP proofBinding
  return ⟨challenge, blind.val + challenge * share.value⟩

def evaluatePartialWithBinding (proofBinding : DleqProofBinding)
    (share : SigningRootShare q) (context : PrfContext) (blind : {scalar : ZMod q // scalar ≠ 0}) :
    ThresholdPrfResult (PrfPartialProofBundle q G) := do
  let inputPoint ← hashToGroup R context
  let contextTag ← partialContextTag R context
  let partialPrf := evaluatePartialWithInput share contextTag inputPoint
  let commitment := SigningRootShareCommitment.fromShare R share
  let proof ← provePartialDleq R share commitment partialPrf context inputPoint proofBinding blind
  return ⟨partialPrf, commitment, proof⟩

def evaluatePartialWithDleqProof (blind : {scalar : ZMod q // scalar ≠ 0}) :
    ThresholdPrfResult (PrfPartialProofBundle q G) :=
  evaluatePartialWithBinding R .legacy share context blind

def evaluatePartialWithDleqProofBoundToDigest (proofBindingDigest : Bytes 32)
    (blind : {scalar : ZMod q // scalar ≠ 0}) :
    ThresholdPrfResult (PrfPartialProofBundle q G) :=
  evaluatePartialWithBinding R (.digest proofBindingDigest) share context blind

/-! ## Verification -/

def rejectContextMismatch (partialPrf : PrfPartial G) (expected : Bytes 32) :
    ThresholdPrfResult Unit :=
  ensure (partialPrf.contextTag = expected) .contextMismatch

def verifyGenericPartialDleqProof (partialPrf : PrfPartial G) (context : PrfContext)
    (proof : PrfDleqProof q) (proofBinding : DleqProofBinding) :
    ThresholdPrfResult Unit := do
  ensure (commitment.id = partialPrf.id) .invalidDleqProof
  let expectedContextTag ← partialContextTag R context
  rejectContextMismatch partialPrf expectedContextTag
  let inputPoint ← hashToGroup R context
  let nonceG := proof.response • R.basepoint - proof.challenge • commitment.point
  let nonceP := proof.response • inputPoint - proof.challenge • partialPrf.point
  let statement : DleqStatement G :=
    ⟨expectedContextTag, partialPrf.id, inputPoint, commitment.point, partialPrf.point⟩
  let expectedChallenge ← dleqChallenge R context statement nonceG nonceP proofBinding
  ensure (proof.challenge = expectedChallenge) .invalidDleqProof

def verifyPartialDleqProof (partialPrf : PrfPartial G) (context : PrfContext)
    (proof : PrfDleqProof q) :
    ThresholdPrfResult Unit :=
  verifyGenericPartialDleqProof R commitment partialPrf context proof .legacy

def verifyPartialDleqProofBoundToDigest (partialPrf : PrfPartial G) (context : PrfContext)
    (proofBindingDigest : Bytes 32) (proof : PrfDleqProof q) :
    ThresholdPrfResult Unit :=
  verifyGenericPartialDleqProof R commitment partialPrf context proof (.digest proofBindingDigest)

/-! ## Combination -/

def PrfPartialProofBundle.id (bundle : PrfPartialProofBundle q G) : ThresholdShareId :=
  bundle.partialPrf.id

abbrev PartialSet (G : Type) : Type := ValidatedThresholdSet (PrfPartial G) PrfPartial.id

abbrev BundleSet (q : ℕ) (G : Type) [AddCommGroup G] [Module (ZMod q) G] : Type :=
  ValidatedThresholdSet (PrfPartialProofBundle q G) PrfPartialProofBundle.id

variable (policy : ThresholdPolicy)

def fromPartials (partials : List (PrfPartial G)) : ThresholdPrfResult (PartialSet G) :=
  validateThresholdSetValues policy partials PrfPartial.id

def fromProofBundles (bundles : List (PrfPartialProofBundle q G)) :
    ThresholdPrfResult (BundleSet q G) := do
  let set ← validateThresholdSetValues policy bundles PrfPartialProofBundle.id
  ensure (∀ bundle ∈ set.values, bundle.commitment.id = bundle.partialPrf.id) .invalidDleqProof
  return set

def fromSigningRootShares (shares : List (SigningRootShare q)) :
    ThresholdPrfResult (ValidatedThresholdSet (SigningRootShare q) SigningRootShare.id) :=
  validateThresholdSetValues policy shares SigningRootShare.id

variable [Fact q.Prime]

def combinePartialsWithContextTag (partials : PartialSet G)
    (context : PrfContext) (expectedContextTag : Bytes 32) : ThresholdPrfResult (Bytes 32) := do
  partials.values.forM fun partialPrf => rejectContextMismatch partialPrf expectedContextTag
  let ids := partials.values.map PrfPartial.id
  let coefficients := lagrangeCoefficientsAtZeroForIds q ids
  let z := (coefficients.zip partials.values).foldl
    (fun z (coefficient, partialPrf) => z + coefficient • partialPrf.point) 0
  outputFromPoint R z context

def combinePartials (partials : PartialSet G) (context : PrfContext) :
    ThresholdPrfResult (Bytes 32) := do
  let expectedContextTag ← partialContextTag R context
  combinePartialsWithContextTag R partials context expectedContextTag

def combineVerifiedWithBinding (proofBinding : DleqProofBinding)
    (bundles : BundleSet q G) (context : PrfContext) : ThresholdPrfResult (Bytes 32) := do
  bundles.values.forM fun bundle =>
    verifyGenericPartialDleqProof R bundle.commitment bundle.partialPrf context bundle.proof
      proofBinding
  let partials := bundles.values.map PrfPartialProofBundle.partialPrf
  let partialSet ← fromPartials bundles.policy partials
  combinePartials R partialSet context

def combineVerifiedPartials (bundles : BundleSet q G)
    (context : PrfContext) : ThresholdPrfResult (Bytes 32) :=
  combineVerifiedWithBinding R .legacy bundles context

def combineVerifiedPartialsBoundToDigest (bundles : BundleSet q G)
    (context : PrfContext) (proofBindingDigest : Bytes 32) : ThresholdPrfResult (Bytes 32) :=
  combineVerifiedWithBinding R (.digest proofBindingDigest) bundles context

end SeamsWallet.ThresholdPrf
