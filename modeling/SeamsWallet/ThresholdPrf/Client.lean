import SeamsWallet.ThresholdPrf.Wire

/-!
# The PRF in the browser

The client crate has no threshold-PRF backend. It parses the two proof bundles,
hashes the transcripts, checks the proofs, combines the partials for the
identifiers 1 and 2 and hashes the output by itself; these are its functions. The
length of a field goes into the transcript as its lowest 32 bits.
-/

namespace SeamsWallet.ThresholdPrf

namespace Client

open Library Edwards25519

inductive EcdsaClientProtocolError where
  | invalidShape
  | invalidDleqProof
  | contextMismatch

abbrev ClientResult (α : Type) : Type := Except EcdsaClientProtocolError α

inductive EcdsaDeriverRoleV1 where
  | a
  | b
  deriving DecidableEq

inductive EcdsaPrfPurposeV1 where
  | yServer
  | xClientBase
  | xServerBase

def EcdsaPrfPurposeV1.wireLabel : EcdsaPrfPurposeV1 → List UInt8
  | yServer => stringBytes "router-ab-ecdsa-derivation/y-server/v1"
  | xClientBase => stringBytes "router-ab/x_client_base/v1"
  | xServerBase => stringBytes "router-ab/x_server_base/v1"

structure EcdsaPrfPublicContextV1 where
  purpose : EcdsaPrfPurposeV1
  contextBytes : List UInt8

structure EcdsaPrfPublicProofBundleV1 where
  partialWire : Bytes 66
  commitmentWire : Bytes 34
  proofWire : Bytes 64

structure EcdsaRoleBoundPrfProofV1 where
  role : EcdsaDeriverRoleV1
  proof : EcdsaPrfPublicProofBundleV1

/-! ## The stable context -/

structure EcdsaStablePrfPublicContextV2 where
  stableContextDigest : Bytes 32
  custodyBindingDigest : Bytes 32
  contextBytes : List UInt8

structure EcdsaStablePrfPublicProofBundleV2 where
  stableContextDigest : Bytes 32
  custodyBindingDigest : Bytes 32
  proof : EcdsaPrfPublicProofBundleV1

structure EcdsaRoleBoundStablePrfProofV2 where
  role : EcdsaDeriverRoleV1
  proof : EcdsaStablePrfPublicProofBundleV2

def len16Field (bytes : List UInt8) : List UInt8 :=
  (toBigEndian 2 bytes.length).toList ++ bytes

def stableContextBytes (applicationBindingDigest : Bytes 32) : List UInt8 :=
  stringBytes "router-ab-ecdsa-derivation/context/v1" ++
    len16Field (stringBytes "router-ab-ecdsa-derivation-v1") ++
    len16Field (stringBytes "secp256k1") ++
    applicationBindingDigest.toList ++ [2] ++
    (u16ToBigEndian 1).toList ++ (u16ToBigEndian 2).toList

def EcdsaStablePrfPublicContextV2.new (sha256 : List UInt8 → Bytes 32)
    (applicationBindingDigest custodyBindingDigest : Bytes 32) :
    EcdsaStablePrfPublicContextV2 :=
  let contextBytes := stableContextBytes applicationBindingDigest
  ⟨sha256 contextBytes, custodyBindingDigest, contextBytes⟩

def stablePrfContextV1 (context : EcdsaStablePrfPublicContextV2) : EcdsaPrfPublicContextV1 :=
  ⟨.xClientBase, context.contextBytes⟩

/-! ## Transcripts -/

def prfSuiteV1 : List UInt8 := stringBytes "threshold-prf/ristretto255-sha512"
def prfInputDomainV1 : List UInt8 := stringBytes "threshold-prf/input"
def prfPartialContextDomainV1 : List UInt8 := stringBytes "threshold-prf/partial-context"
def prfDleqDomainV1 : List UInt8 := stringBytes "threshold-prf/dleq"
def prfDleqBoundDomainV1 : List UInt8 := stringBytes "threshold-prf/dleq-bound/v1"

def pushLen16 (out value : List UInt8) : ClientResult (List UInt8) := do
  ensure (value.length < 256 ^ 2) .invalidShape
  return out ++ (toBigEndian 2 value.length).toList ++ value

/-- The length is cast to 32 bits. -/
def pushBytes (out value : List UInt8) : List UInt8 :=
  out ++ (toBigEndian 4 value.length).toList ++ value

def prfTranscript (domain : List UInt8) (context : EcdsaPrfPublicContextV1)
    (payload : List UInt8) : ClientResult (List UInt8) := do
  let out ← pushLen16 [] domain
  let out ← pushLen16 out prfSuiteV1
  let out ← pushLen16 out context.purpose.wireLabel
  return pushBytes (pushBytes out context.contextBytes) payload

variable {q : ℕ} {G : Type} [AddCommGroup G] [Module (ZMod q) G]
  (R : Ristretto255 q G) (context : EcdsaPrfPublicContextV1)

def prfInputPoint : ClientResult G := do
  let transcript ← prfTranscript prfInputDomainV1 context []
  return R.hashFromBytes transcript

def prfContextTag : ClientResult (Bytes 32) := do
  let transcript ← prfTranscript prfPartialContextDomainV1 context []
  return (R.sha512 transcript).slice 0 32 (by decide : 32 ≤ 32 + 32)

def prfOutput (point : G) : ClientResult (Bytes 32) := do
  let transcript ←
    prfTranscript (stringBytes "threshold-prf/output") context (R.compress point).toList
  let output := (R.sha512 transcript).slice 0 32 (by decide : 32 ≤ 32 + 32)
  match context.purpose with
  | .xClientBase | .xServerBase => return scalarToBytes (scalarFromBytesModOrder q output)
  | .yServer => return output

def prfDleqChallengeFor (purposeWireLabel : List UInt8)
    (contextTag : Bytes 32) (proofBindingDigest : Option (Bytes 32)) (shareId : UInt16)
    (inputPoint commitmentPoint partialPoint nonceG nonceP : G) : ClientResult (ZMod q) := do
  let domain := if proofBindingDigest.isSome then prfDleqBoundDomainV1 else prfDleqDomainV1
  let out ← pushLen16 [] domain
  let out ← pushLen16 out prfSuiteV1
  let out ← pushLen16 out purposeWireLabel
  let binding := (proofBindingDigest.map List.Vector.toList).getD []
  let transcript := out ++ contextTag.toList ++ binding ++ (u16ToBigEndian shareId).toList ++
    (R.compress R.basepoint).toList ++ (R.compress inputPoint).toList ++
    (R.compress commitmentPoint).toList ++ (R.compress partialPoint).toList ++
    (R.compress nonceG).toList ++ (R.compress nonceP).toList
  return scalarFromBytesModOrderWide q (R.sha512 transcript)

/-! ## Verification -/

def decompressRistretto (value : Bytes 32) : ClientResult G :=
  okOr (R.decompress value) .invalidDleqProof

def canonicalScalar (q : ℕ) (value : Bytes 32) : ClientResult (ZMod q) :=
  okOr (scalarFromCanonicalBytes q value) .invalidDleqProof

def proofShareId (bundle : EcdsaPrfPublicProofBundleV1) : UInt16 :=
  u16OfBigEndian (bundle.partialWire.slice 0 2 (by decide : 2 ≤ 66))

def verifyProofBundle (proofBindingDigest : Option (Bytes 32))
    (bundle : EcdsaPrfPublicProofBundleV1) :
    ClientResult Unit := do
  let partialShareId := proofShareId bundle
  let commitmentShareId := u16OfBigEndian (bundle.commitmentWire.slice 0 2 (by decide : 2 ≤ 2 + 32))
  ensure (partialShareId ≠ 0 ∧ partialShareId = commitmentShareId) .invalidDleqProof
  let expectedContextTag ← prfContextTag R context
  ensure (bundle.partialWire.slice 2 32 (by decide : 34 ≤ 66) = expectedContextTag) .contextMismatch
  let partialPoint ← decompressRistretto R (bundle.partialWire.slice 34 32 (by decide : 66 ≤ 66))
  let commitmentPoint ← decompressRistretto R
    (bundle.commitmentWire.slice 2 32 (by decide : 34 ≤ 34))
  let challenge ← canonicalScalar q (bundle.proofWire.slice 0 32 (by decide : 32 ≤ 32 + 32))
  let response ← canonicalScalar q (bundle.proofWire.slice 32 32 (by decide : 64 ≤ 64))
  let inputPoint ← prfInputPoint R context
  let nonceG := response • R.basepoint - challenge • commitmentPoint
  let nonceP := response • inputPoint - challenge • partialPoint
  let expectedChallenge ← prfDleqChallengeFor R context.purpose.wireLabel expectedContextTag
    proofBindingDigest partialShareId inputPoint commitmentPoint partialPoint nonceG nonceP
  ensure (scalarToBytes challenge = scalarToBytes expectedChallenge) .invalidDleqProof

def verifyEcdsaPrfPublicDleqProofV1 (bundle : EcdsaPrfPublicProofBundleV1) : ClientResult Unit := do
  ensure (context.contextBytes ≠ []) .invalidShape
  verifyProofBundle R context none bundle

def verifyEcdsaStablePrfPublicDleqProofV2
    (context : EcdsaStablePrfPublicContextV2) (bundle : EcdsaStablePrfPublicProofBundleV2) :
    ClientResult Unit := do
  ensure (bundle.stableContextDigest = context.stableContextDigest ∧
    bundle.custodyBindingDigest = context.custodyBindingDigest) .contextMismatch
  verifyProofBundle R (stablePrfContextV1 context) (some context.custodyBindingDigest) bundle.proof

/-! ## The two-party output -/

def combineTwoPartyPartials (proofA proofB : EcdsaPrfPublicProofBundleV1) :
    ClientResult (Bytes 32) := do
  let partialA ← decompressRistretto R (proofA.partialWire.slice 34 32 (by decide : 66 ≤ 66))
  let partialB ← decompressRistretto R (proofB.partialWire.slice 34 32 (by decide : 66 ≤ 66))
  let combined := (2 : ZMod q) • partialA - partialB
  prfOutput R context combined

def finalizeEcdsaPrfTwoPartyOutputV1 (deriverA deriverB : EcdsaRoleBoundPrfProofV1) :
    ClientResult (Bytes 32) := do
  ensure (deriverA.role = .a ∧ deriverB.role = .b) .invalidDleqProof
  ensure (proofShareId deriverA.proof = 1 ∧ proofShareId deriverB.proof = 2) .invalidDleqProof
  verifyEcdsaPrfPublicDleqProofV1 R context deriverA.proof
  verifyEcdsaPrfPublicDleqProofV1 R context deriverB.proof
  combineTwoPartyPartials R context deriverA.proof deriverB.proof

def finalizeEcdsaStablePrfTwoPartyOutputV2 (context : EcdsaStablePrfPublicContextV2)
    (deriverA deriverB : EcdsaRoleBoundStablePrfProofV2) : ClientResult (Bytes 32) := do
  ensure (deriverA.role = .a ∧ deriverB.role = .b) .invalidDleqProof
  ensure (proofShareId deriverA.proof.proof = 1 ∧ proofShareId deriverB.proof.proof = 2)
    .invalidDleqProof
  verifyEcdsaStablePrfPublicDleqProofV2 R context deriverA.proof
  verifyEcdsaStablePrfPublicDleqProofV2 R context deriverB.proof
  combineTwoPartyPartials R (stablePrfContextV1 context) deriverA.proof.proof
    deriverB.proof.proof

end Client

end SeamsWallet.ThresholdPrf
