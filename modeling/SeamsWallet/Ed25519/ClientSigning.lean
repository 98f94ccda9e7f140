import SeamsWallet.Ed25519.SignerCore

/-!
# The client's signature share

The client holds a scalar share from the activation ceremony. It refuses to
sign unless its share and the SigningWorker's verifying share define the
registered key; then it commits to fresh nonces and signs the admitted digest
under both parties' commitments.
-/

namespace SeamsWallet.Ed25519Client

open Library Library.Frost SignerCore

inductive ClientSigningError where
  | invalidClientShare
  | invalidPublicRelation
  | invalidSigningWorkerCommitments
  | signingFailed

open ClientSigningError

structure ClientSigningRequest where
  clientScalarShare : Bytes 32
  registeredPublicKey : Bytes 32
  participantIds : UInt16 × UInt16
  admittedDigest : Bytes 32
  signingWorkerCommitments : CommitmentsWire
  signingWorkerVerifyingShare : Bytes 32

structure ClientSigningShare where
  clientCommitments : CommitmentsWire
  clientVerifyingShare : Bytes 32
  clientSignatureShareB64u : String

variable {q : ℕ} {G : Type} [AddCommGroup G] [DecidableEq G]

/-- One client share. The two random strings are what the nonces are drawn
from. -/
def createClientSigningShare (prims : Primitives) (frost : FrostEd25519 q G)
    (request : ClientSigningRequest) (hidingRandom bindingRandom : Bytes 32) :
    Except ClientSigningError ClientSigningShare := do
  let scalarOption := Edwards25519.scalarFromCanonicalBytes q request.clientScalarShare
  let scalar := scalarOption.getD 0
  let clientVerifyingShare := frost.curve.compress (frost.curve.mulBase scalar)
  ensure (scalarOption.isSome ∧ scalar ≠ 0) invalidClientShare
  let computedPublicKey ← (computeThresholdEd25519GroupPublicKey2pFromVerifyingShares frost
      clientVerifyingShare request.signingWorkerVerifyingShare request.participantIds.1
      request.participantIds.2).mapError fun _ => invalidPublicRelation
  ensure (computedPublicKey = request.registeredPublicKey)
    invalidPublicRelation
  let clientIdentifier ← (FrostEd25519.identifierTryFrom q
    request.participantIds.1).mapError fun _ => invalidPublicRelation
  let signingWorkerIdentifier ← (FrostEd25519.identifierTryFrom q
    request.participantIds.2).mapError fun _ => invalidPublicRelation
  let signingWorkerCommitments ← (commitmentsFromWire prims frost
      request.signingWorkerCommitments).mapError
    fun _ => invalidSigningWorkerCommitments
  let keyPackage ← (keyPackageFromSigningShareBytes frost request.clientScalarShare
      request.registeredPublicKey clientIdentifier).mapError
    fun _ => invalidClientShare
  let round1 ← (clientRound1Commit prims frost keyPackage hidingRandom
    bindingRandom).mapError fun _ => signingFailed
  let signingPackage := buildSigningPackage request.admittedDigest.toList
    (FrostEd25519.identifierMap [(clientIdentifier, round1.commitments),
      (signingWorkerIdentifier, signingWorkerCommitments)])
  let signatureShare ← (clientRound2SignatureShare frost signingPackage round1.nonces
    keyPackage).mapError fun _ => signingFailed
  let clientSignatureShareB64u ← (signatureShareToB64u prims frost signatureShare).mapError
    fun _ => signingFailed
  return {
    clientCommitments := round1.commitmentsWire
    clientVerifyingShare :=
      verifyingShareBytesFromSigningShareBytes frost request.clientScalarShare
    clientSignatureShareB64u }

end SeamsWallet.Ed25519Client
