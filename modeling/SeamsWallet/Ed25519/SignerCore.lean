import SeamsWallet.Ed25519.FrostEd25519
import SeamsWallet.Library.Text
import SeamsWallet.Protocol.Identity

/-!
# The FROST helpers of the signer core

Wire encodings of commitments and shares, key packages from signing shares, the
group key of two verifying shares, and aggregation, as the client and the
SigningWorker both call them.
-/

namespace SeamsWallet.SignerCore

open Library Library.Frost

inductive SignerCoreErrorCode where
  | invalidInput
  | invalidLength
  | decodeError
  | encodeError
  | hkdfError
  | cryptoError
  | utf8Error
  | unsupported
  | internal
  deriving DecidableEq

structure SignerCoreError where
  code : SignerCoreErrorCode
  message : String
  deriving DecidableEq

abbrev CoreResult : Type → Type := Except SignerCoreError

/-! ## Text -/

def isWhitespace (c : Char) : Bool :=
  (9 ≤ c.toNat && c.toNat ≤ 13) || c.toNat == 32 || c.toNat == 133 || c.toNat == 160 ||
    c.toNat == 5760 || (8192 ≤ c.toNat && c.toNat ≤ 8202) || c.toNat == 8232 ||
    c.toNat == 8233 || c.toNat == 8239 || c.toNat == 8287 || c.toNat == 12288

def trim (s : String) : String := trimBy isWhitespace s

variable (prims : Primitives)

def decodeBase64Url (input : String) : CoreResult (List UInt8) :=
  (prims.decodeBase64UrlUnpadded input).mapError fun e =>
    ⟨.decodeError, s!"Base64 decode error: {e}"⟩

def isBase64UrlChar (c : Char) : Bool :=
  (48 ≤ c.toNat && c.toNat ≤ 57) || (65 ≤ c.toNat && c.toNat ≤ 90) ||
    (97 ≤ c.toNat && c.toNat ≤ 122) || c.toNat == 45 || c.toNat == 95

theorem isWhitespace_of_isBase64UrlChar {c : Char} (h : isBase64UrlChar c = true) :
    isWhitespace c = false := by
  simp only [isBase64UrlChar, Bool.or_eq_true, Bool.and_eq_true, decide_eq_true_eq, beq_iff_eq] at h
  simp only [isWhitespace, Bool.or_eq_false_iff, Bool.and_eq_false_iff, decide_eq_false_iff_not,
    beq_eq_false_iff_ne]
  omega

/-- What the two base64url libraries document: both read back what is written,
only characters of the alphabet are written, and something is written for
something. -/
structure LawfulBase64 (prims : Primitives) : Prop where
  core : ∀ bytes, prims.decodeBase64UrlUnpadded (prims.encodeBase64UrlUnpadded bytes) = .ok bytes
  worker : ∀ bytes, prims.decodeUrlSafeNoPad (prims.encodeBase64UrlUnpadded bytes) = .ok bytes
  alphabet : ∀ bytes, ∀ c ∈ (prims.encodeBase64UrlUnpadded bytes).toList, isBase64UrlChar c = true
  nonempty : ∀ bytes, bytes ≠ [] → prims.encodeBase64UrlUnpadded bytes ≠ ""

/-! ## Shares and keys -/

variable {q : ℕ} {G : Type} [AddCommGroup G] [DecidableEq G] (frost : FrostEd25519 q G)

def verifyingShareBytesFromSigningShareBytes (signingShareBytes : Bytes 32) : Bytes 32 :=
  let scalar := Edwards25519.scalarFromBytesModOrder q signingShareBytes
  frost.curve.compress (frost.curve.mulBase scalar)

def keyPackageFromSigningShareBytes (signingShareBytes nearPublicKeyBytes : Bytes 32)
    (identifier : ZMod q) :
    CoreResult (KeyPackage (ZMod q) (Element q G)) := do
  let signingShare ← (FrostEd25519.deserializeScalar q signingShareBytes.toList).mapError
    fun e => ⟨.decodeError, s!"threshold-signer: invalid signing share: {frost.displayError e}"⟩
  let verifyingShareBytes := verifyingShareBytesFromSigningShareBytes frost signingShareBytes
  let verifyingShare ← (frost.deserializeElement verifyingShareBytes.toList).mapError
    fun e => ⟨.decodeError, s!"threshold-signer: invalid verifying share: {frost.displayError e}"⟩
  let verifyingKey ← (frost.deserializeElement nearPublicKeyBytes.toList).mapError
    fun e => ⟨.decodeError, s!"threshold-signer: invalid group public key: {frost.displayError e}"⟩
  return ⟨identifier, signingShare, verifyingShare, verifyingKey, 2⟩

def joinParticipantIds (ids : List UInt16) : String :=
  ",".intercalate (ids.map fun n => s!"{n.toNat}")

def expectedIds (c r : UInt16) : List UInt16 :=
  if c = r then [c] else if c < r then [c, r] else [r, c]

def validateThresholdEd25519ParticipantIds2p (clientIdOpt relayerIdOpt : Option UInt16)
    (participantIdsNorm : List UInt16) : CoreResult (UInt16 × UInt16) :=
  match clientIdOpt, relayerIdOpt with
  | some c, some r => do
    ensure (c ≠ r) ⟨.invalidInput,
      "threshold-signer: clientParticipantId must differ from relayerParticipantId"⟩
    if participantIdsNorm ≠ [] then
      ensure (2 ≤ participantIdsNorm.length)
        ⟨.invalidInput, "threshold-signer: participantIds must contain at least 2 ids"⟩
      ensure (c ∈ participantIdsNorm ∧ r ∈ participantIdsNorm) ⟨.invalidInput,
        "threshold-signer: participantIds must include clientParticipantId/" ++
        "relayerParticipantId (expected to include participantIds=[" ++
        joinParticipantIds (expectedIds c r) ++ "], got participantIds=[" ++
        joinParticipantIds participantIdsNorm ++ "])"⟩
    return (c, r)
  | none, none =>
    match participantIdsNorm with
    | [] => return (1, 2)
    | [c, r] => return (c, r)
    | [_] => throw
        ⟨.invalidInput, "threshold-signer: participantIds must contain at least 2 ids"⟩
    | _ => throw ⟨.invalidInput,
        "threshold-signer: participantIds contains more than 2 ids; set " ++
        "clientParticipantId and relayerParticipantId to select the signer set"⟩
  | _, _ => throw ⟨.invalidInput,
      "threshold-signer: clientParticipantId and relayerParticipantId must be set together"⟩

def validateParticipantIds (clientId relayerId : UInt16) : CoreResult Unit := do
  ensure (clientId ≠ 0) ⟨.invalidInput, "clientParticipantId must be an integer in [1,65535]"⟩
  ensure (relayerId ≠ 0) ⟨.invalidInput, "relayerParticipantId must be an integer in [1,65535]"⟩
  let _ ← validateThresholdEd25519ParticipantIds2p (some clientId) (some relayerId) []
  return ()

def decompressVerifyingSharePoint (bytes : Bytes 32) (label : String) : CoreResult G :=
  okOr (frost.curve.decompress bytes) ⟨.decodeError, s!"Invalid {label} point"⟩

/-- The point that the two verifying shares interpolate at zero. -/
def groupPoint {q : ℕ} {G : Type} [AddCommGroup G] (clientPoint relayerPoint : G)
    (xc xr : ZMod q) : G :=
  Edwards25519.mulScalar (xr * (xr - xc)⁻¹) clientPoint +
    Edwards25519.mulScalar (xc * (xc - xr)⁻¹) relayerPoint

def computeThresholdEd25519GroupPublicKey2pFromVerifyingShares
    (clientVerifyingShareBytes relayerVerifyingShareBytes : Bytes 32)
    (clientParticipantId relayerParticipantId : UInt16) : CoreResult (Bytes 32) := do
  validateParticipantIds clientParticipantId relayerParticipantId
  let clientPoint ← decompressVerifyingSharePoint frost clientVerifyingShareBytes
    "client verifying share"
  let relayerPoint ← decompressVerifyingSharePoint frost relayerVerifyingShareBytes
    "relayer verifying share"
  let xc : ZMod q := clientParticipantId.toNat
  let xr : ZMod q := relayerParticipantId.toNat
  let denomC := xr - xc
  let denomR := xc - xr
  ensure (denomC ≠ 0 ∧ denomR ≠ 0)
    ⟨.invalidInput, "clientParticipantId must differ from relayerParticipantId"⟩
  return frost.curve.compress (groupPoint clientPoint relayerPoint xc xr)

/-! ## Rounds -/

structure CommitmentsWire where
  hidingCommitment : String
  bindingCommitment : String

structure ClientRound1State (q : ℕ) (G : Type) [AddCommGroup G] where
  nonces : SigningNonces (ZMod q)
  commitments : SigningCommitments (Element q G)
  commitmentsWire : CommitmentsWire

def commitmentsToWire (commitments : SigningCommitments (Element q G)) :
    CoreResult CommitmentsWire := do
  let hidingBytes ← (frost.ciphersuite.serialize commitments.hidingCommitment).mapError
    fun e => ⟨.encodeError,
      s!"threshold-signer: serialize hiding commitment: {frost.displayError e}"⟩
  let bindingBytes ← (frost.ciphersuite.serialize commitments.bindingCommitment).mapError
    fun e => ⟨.encodeError,
      s!"threshold-signer: serialize binding commitment: {frost.displayError e}"⟩
  return ⟨prims.encodeBase64UrlUnpadded hidingBytes, prims.encodeBase64UrlUnpadded bindingBytes⟩

def decodeField (what input : String) : CoreResult (List UInt8) :=
  (decodeBase64Url prims (trim input)).mapError fun e =>
    ⟨.decodeError, s!"threshold-signer: invalid {what}: {e.message}"⟩

theorem LawfulBase64.decodeField_encode {prims : Primitives} (h : LawfulBase64 prims)
    (what : String) (bytes : List UInt8) :
    decodeField prims what (prims.encodeBase64UrlUnpadded bytes) = .ok bytes := by
  have htrim : trim (prims.encodeBase64UrlUnpadded bytes) = prims.encodeBase64UrlUnpadded bytes :=
    trimBy_of_forall fun c hc => isWhitespace_of_isBase64UrlChar (h.alphabet bytes c hc)
  rw [decodeField, htrim, decodeBase64Url, h.core, mapError_ok, mapError_ok]

def commitmentsFromWire (wire : CommitmentsWire) :
    CoreResult (SigningCommitments (Element q G)) := do
  let hidingBytes ← decodeField prims "commitments.hiding" wire.hidingCommitment
  let bindingBytes ← decodeField prims "commitments.binding" wire.bindingCommitment
  let hidingPoint ← (frost.deserializeElement hidingBytes).mapError
    fun e => ⟨.decodeError, s!"threshold-signer: invalid hiding commitment: {frost.displayError e}"⟩
  let bindingPoint ← (frost.deserializeElement bindingBytes).mapError
    fun e => ⟨.decodeError,
      s!"threshold-signer: invalid binding commitment: {frost.displayError e}"⟩
  return ⟨hidingPoint, bindingPoint⟩

def clientRound1Commit (keyPackage : KeyPackage (ZMod q) (Element q G))
    (hidingRandom bindingRandom : Bytes 32) :
    CoreResult (ClientRound1State q G) := do
  let nonces := frost.commit keyPackage.signingShare hidingRandom bindingRandom
  let commitments := nonces.commitments frost.ciphersuite
  let commitmentsWire ← commitmentsToWire prims frost commitments
  return ⟨nonces, commitments, commitmentsWire⟩

def buildSigningPackage (message : List UInt8)
    (commitmentsById : List (ZMod q × SigningCommitments (Element q G))) :
    SigningPackage (ZMod q) (Element q G) :=
  ⟨commitmentsById, message⟩

def clientRound2SignatureShare (signingPackage : SigningPackage (ZMod q) (Element q G))
    (nonces : SigningNonces (ZMod q)) (keyPackage : KeyPackage (ZMod q) (Element q G)) :
    CoreResult (ZMod q) :=
  (sign frost.ciphersuite signingPackage nonces keyPackage).mapError
    fun e => ⟨.cryptoError, s!"threshold-signer: round2 sign failed: {frost.displayError e}"⟩

def signatureShareToB64u (share : ZMod q) : CoreResult String :=
  .ok (prims.encodeBase64UrlUnpadded (frost.ciphersuite.serializeScalar share))

def signatureShareFromB64u (b64u : String) : CoreResult (ZMod q) := do
  let bytes ← decodeField prims "signature share" b64u
  (FrostEd25519.deserializeScalar q bytes).mapError
    fun e => ⟨.decodeError, s!"threshold-signer: invalid signature share: {frost.displayError e}"⟩

def verifyingShareFromB64u (b64u : String) : CoreResult (Element q G) := do
  let bytes ← decodeField prims "verifying share" b64u
  (frost.deserializeElement bytes).mapError
    fun e => ⟨.decodeError, s!"threshold-signer: invalid verifying share: {frost.displayError e}"⟩

def aggregateSignature (signingPackage : SigningPackage (ZMod q) (Element q G))
    (verifyingKey : Element q G)
    (verifyingShares : List (ZMod q × Element q G)) (signatureShares : List (ZMod q × ZMod q)) :
    CoreResult (Bytes 64) := do
  let groupSignature ← (aggregate frost.ciphersuite signingPackage signatureShares
      verifyingShares verifyingKey).mapError
    fun e => ⟨.cryptoError, s!"threshold-signer: aggregate failed: {frost.displayError e}"⟩
  let bytes ← (groupSignature.serialize frost.ciphersuite).mapError
    fun e => ⟨.encodeError,
      s!"threshold-signer: signature serialization failed: {frost.displayError e}"⟩
  okOr (Bytes.ofList? 64 bytes) ⟨.invalidLength,
    s!"threshold-signer: invalid signature length from aggregation: {bytes.length}"⟩

end SeamsWallet.SignerCore
