import SeamsWallet.Ecdsa.K256
import SeamsWallet.Library.Except

/-!
# Online ECDSA signing over presign material

The client turns its presign material into a signature share, the signing
worker adds its own share, normalises `s`, and releases the signature only
after it verified under the wallet key and the key was recovered from it. Both
roles rerandomise the nonce point by a scalar derived from the public input.
-/

namespace SeamsWallet.EcdsaOnline

open Library K256

inductive OnlineError where
  | invalidPoint
  | identityPoint
  | nonCanonicalScalar
  | zeroScalar
  | presignCommitmentMismatch
  | randomnessDerivation
  | signatureVerification
  | recoveryId
  deriving DecidableEq

def combineRerandomizationContributions
    (clientContribution signingWorkerContribution : Bytes 32) : Bytes 32 :=
  clientContribution.xor signingWorkerContribution

structure PresignMaterial (n : ℕ) (P : Type) where
  bigR : P
  k : ZMod n
  sigma : ZMod n

structure OnlineInput (P : Type) where
  groupPublicKey : P
  expectedBigR : P
  digest : Bytes 32
  entropy : Bytes 32

structure CommittedOnlineSigning (n : ℕ) (P : Type) where
  material : PresignMaterial n P
  input : OnlineInput P

variable {n : ℕ} {P : Type} [AddCommGroup P] [Module (ZMod n) P]

/-! ## Parsing -/

def parseScalar (n : ℕ) (bytes : Bytes 32) : Except OnlineError (ZMod n) :=
  okOr (scalarFromRepr n bytes) .nonCanonicalScalar

def parseNonzeroScalar (n : ℕ) (bytes : Bytes 32) : Except OnlineError (ZMod n) := do
  let scalar ← parseScalar n bytes
  ensure (scalar ≠ 0) .zeroScalar
  return scalar

variable (K : K256 n P)

def parseNonidentityPoint [DecidableEq P] (bytes : Bytes 33) : Except OnlineError P := do
  let point ← okOr (K.fromEncodedPoint bytes) .invalidPoint
  ensure (point ≠ 0) .identityPoint
  return point

def parsePresignMaterial [DecidableEq P] (bigR : Bytes 33) (kShare sigmaShare : Bytes 32) :
    Except OnlineError (PresignMaterial n P) := do
  let bigR ← parseNonidentityPoint K bigR
  let k ← parseNonzeroScalar n kShare
  let sigma ← parseScalar n sigmaShare
  return { bigR, k, sigma }

def parseOnlineInput [DecidableEq P]
    (groupPublicKey expectedBigR : Bytes 33) (digest entropy : Bytes 32) :
    Except OnlineError (OnlineInput P) := do
  let groupPublicKey ← parseNonidentityPoint K groupPublicKey
  let expectedBigR ← parseNonidentityPoint K expectedBigR
  return { groupPublicKey, expectedBigR, digest, entropy }

def bindMaterial (material : PresignMaterial n P) (input : OnlineInput P) :
    Except OnlineError (CommittedOnlineSigning n P) := do
  ensure (K.pointBytes material.bigR = K.pointBytes input.expectedBigR)
    .presignCommitmentMismatch
  return { material, input }

/-! ## Rerandomisation -/

def rerandomizationSalt : List UInt8 :=
  [0x32, 0x8a, 0x47, 0xc2, 0xb8, 0x79, 0x44, 0x45, 0x25, 0x5c, 0x16, 0x47,
    0x60, 0x8d, 0xf5, 0xdb, 0x85, 0xc6, 0x8b, 0xb0, 0xe7, 0x17, 0x0a, 0xbe,
    0xc5, 0x34, 0xdf, 0x27, 0x64, 0xa4, 0x58, 0x31]

/-- HKDF over SHA3-256, expanded to 32 bytes: salt, key material and info. -/
abbrev Hkdf : Type := List UInt8 → List UInt8 → List UInt8 → Option (Bytes 32)

/-- The derivation info after its counter byte: a version byte, the wallet key,
32 zero bytes, the digest, the nonce point and the two participant ids as
little-endian words. -/
def rerandomizationInfo (input : OnlineInput P) : List UInt8 :=
  [1] ++ (K.pointBytes input.groupPublicKey).toList ++ (Bytes.zeros 32).toList ++
    input.digest.toList ++ (K.pointBytes input.expectedBigR).toList ++
    [1, 0, 0, 0] ++ [2, 0, 0, 0]

/-- The scalar derived under one counter byte, if it is canonical and non-zero. -/
def deriveCandidate (n : ℕ) (expand : List UInt8 → Option (Bytes 32))
    (info : List UInt8) (counter : ℕ) : Except OnlineError (Option (ZMod n)) := do
  let candidate ← okOr (expand (UInt8.ofNat counter :: info)) .randomnessDerivation
  return (scalarFromRepr n candidate).filter (· ≠ 0)

/-- Tries the counter byte `255 - remaining` and every later one. The counter
byte must not overflow. -/
def deriveDeltaFrom (n : ℕ) (expand : List UInt8 → Option (Bytes 32))
    (info : List UInt8) : ℕ → Except OnlineError (ZMod n)
  | 0 => do
    match ← deriveCandidate n expand info 255 with
    | some scalar => return scalar
    | none => .error .randomnessDerivation
  | remaining + 1 => do
    match ← deriveCandidate n expand info (254 - remaining) with
    | some scalar => return scalar
    | none => deriveDeltaFrom n expand info remaining

def deriveRerandomizationDelta (hkdf : Hkdf) (input : OnlineInput P) :
    Except OnlineError (ZMod n) :=
  deriveDeltaFrom n (hkdf rerandomizationSalt input.entropy.toList)
    (rerandomizationInfo K input) 255

/-! ## Signing -/

def clientLagrangeCoefficient (n : ℕ) : ZMod n := 3

def signingWorkerLagrangeMagnitude (n : ℕ) : ZMod n := 2

def computeClientSignatureShare (hkdf : Hkdf)
    (committed : CommittedOnlineSigning n P) : Except OnlineError (Bytes 32) := do
  let material := committed.material
  let delta ← deriveRerandomizationDelta K hkdf committed.input
  let inverse ← okOr (invert delta) .zeroScalar
  let rerandomizedBigR := delta • material.bigR
  let rerandomizedK := material.k * inverse
  let rerandomizedSigma := material.sigma * inverse
  let lambda := clientLagrangeCoefficient n
  let h := reduceBytes n committed.input.digest
  let r := reduceBytes n (K.xBytes rerandomizedBigR)
  let signatureShare := h * (lambda * rerandomizedK) + r * (lambda * rerandomizedSigma)
  return scalarBytes signatureShare

/-- Tries the recovery ids in order and returns the first that recovers the
expected key. -/
def recoveryIdFrom [Fact n.Prime] [DecidableEq P] (K : K256 n P) (expected : P)
    (digest : Bytes 32) (signature : K256.Signature n) :
    List ℕ → Except OnlineError ℕ
  | [] => .error .recoveryId
  | value :: values =>
    match K.recoverFromPrehash digest signature value with
    | none => recoveryIdFrom K expected digest signature values
    | some recovered =>
      if K.pointBytes recovered = K.pointBytes expected then .ok value
      else recoveryIdFrom K expected digest signature values

def recoveryId [Fact n.Prime] [DecidableEq P] (expected : P)
    (digest : Bytes 32) (signature : K256.Signature n) : Except OnlineError ℕ :=
  recoveryIdFrom K expected digest signature [0, 1, 2, 3]

def encodeSignature (signature : K256.Signature n) (recoveryId : ℕ) : Bytes 65 :=
  scalarBytes signature.r ++ scalarBytes signature.s ++ toBigEndian 1 recoveryId

/-- Combines the client's share with the worker's own and releases the
signature once it verifies and the wallet key is recovered from it. -/
def finalizeSigningWorkerSignature [Fact n.Prime] [DecidableEq P]
    (hkdf : Hkdf) (committed : CommittedOnlineSigning n P)
    (clientSignatureShare : Bytes 32) : Except OnlineError (Bytes 65) := do
  let material := committed.material
  let input := committed.input
  let clientShare ← parseScalar n clientSignatureShare
  let delta ← deriveRerandomizationDelta K hkdf input
  let inverse ← okOr (invert delta) .zeroScalar
  let rerandomizedBigR := delta • material.bigR
  let lambda := -signingWorkerLagrangeMagnitude n
  let h := reduceBytes n input.digest
  let r := reduceBytes n (K.xBytes rerandomizedBigR)
  let workerShare :=
    h * (lambda * material.k * inverse) + r * (lambda * material.sigma * inverse)
  let s := normalizeS (clientShare + workerShare)
  let signature ← okOr (K256.Signature.fromScalars r s) .signatureVerification
  ensure (input.groupPublicKey ≠ 0) .invalidPoint
  ensure (K.verifyPrehash input.groupPublicKey input.digest signature)
    .signatureVerification
  let recoveryId ← recoveryId K input.groupPublicKey input.digest signature
  return encodeSignature signature recoveryId

/-! ## What the parts return -/

theorem deriveDeltaFrom_ne_zero {expand : List UInt8 → Option (Bytes 32)}
    {info : List UInt8} {remaining : ℕ} {delta : ZMod n}
    (h : deriveDeltaFrom n expand info remaining = .ok delta) : delta ≠ 0 := by
  have hcandidate : ∀ {counter : ℕ} {scalar : ZMod n},
      deriveCandidate n expand info counter = .ok (some scalar) → scalar ≠ 0 := by
    intro counter scalar hc
    simp only [deriveCandidate, ok_iff, Option.filter_eq_some_iff] at hc
    obtain ⟨_, _, _, hne⟩ := hc
    simpa using hne
  induction remaining with
  | zero =>
    simp only [deriveDeltaFrom, bind_eq_ok] at h
    obtain ⟨candidate, hc, hrest⟩ := h
    cases candidate with
    | none => cases hrest
    | some scalar =>
      obtain rfl := pure_eq_ok.mp hrest
      exact hcandidate hc
  | succ remaining ih =>
    simp only [deriveDeltaFrom, bind_eq_ok] at h
    obtain ⟨candidate, hc, hrest⟩ := h
    cases candidate with
    | none => exact ih hrest
    | some scalar =>
      obtain rfl := pure_eq_ok.mp hrest
      exact hcandidate hc

theorem recoveryIdFrom_of_mem [Fact n.Prime] [DecidableEq P] {K : K256 n P} {expected : P}
    {digest : Bytes 32} {signature : K256.Signature n} {values : List ℕ} {value : ℕ}
    (hmem : value ∈ values)
    (hrecover : K.recoverFromPrehash digest signature value = some expected) :
    ∃ id ∈ values, recoveryIdFrom K expected digest signature values = .ok id := by
  induction values with
  | nil => cases hmem
  | cons first values ih =>
    by_cases hfirst : ∃ recovered, K.recoverFromPrehash digest signature first = some recovered ∧
          K.pointBytes recovered = K.pointBytes expected
    · obtain ⟨recovered, hrec, hbytes⟩ := hfirst
      refine ⟨first, List.mem_cons_self, ?_⟩
      simp [recoveryIdFrom, hrec, hbytes]
    · -- the id that recovers the key is a later one
      have hlater : value ∈ values := by
        rcases List.mem_cons.mp hmem with rfl | hlater
        · exact (hfirst ⟨expected, hrecover, rfl⟩).elim
        · exact hlater
      obtain ⟨id, hid, hok⟩ := ih hlater
      refine ⟨id, List.mem_cons_of_mem _ hid, ?_⟩
      rw [recoveryIdFrom]
      cases hrec : K.recoverFromPrehash digest signature first with
      | none => exact hok
      | some recovered =>
        have hbytes : K.pointBytes recovered ≠ K.pointBytes expected :=
          fun hb => hfirst ⟨recovered, hrec, hb⟩
        simpa [hbytes] using hok

theorem deriveRerandomizationDelta_ne_zero {K : K256 n P} {hkdf : Hkdf} {input : OnlineInput P}
    {delta : ZMod n} (h : deriveRerandomizationDelta K hkdf input = .ok delta) :
    delta ≠ 0 :=
  deriveDeltaFrom_ne_zero h

def signingWorkerShare (committed : CommittedOnlineSigning n P) (delta : ZMod n) : ZMod n :=
  reduceBytes n committed.input.digest * (-2 * committed.material.k * delta⁻¹) +
    K.reducedX (delta • committed.material.bigR) * (-2 * committed.material.sigma * delta⁻¹)

/-- If the two shares add up to an ECDSA signature under the wallet key, the
worker releases it in its low form. -/
theorem finalizeSigningWorkerSignature_of_nonce [Fact n.Prime] [DecidableEq P] {K : K256 n P}
    {hkdf : Hkdf} (committed : CommittedOnlineSigning n P) {delta κ x r s clientShare : ZMod n}
    (hdelta : deriveRerandomizationDelta K hkdf committed.input = .ok delta)
    (hkey : committed.input.groupPublicKey = x • K.generator) (hx : x ≠ 0)
    (hκ : κ ≠ 0) (hR : delta • committed.material.bigR = κ • K.generator)
    (hr : K.reducedX (κ • K.generator) = r)
    (hs : clientShare + signingWorkerShare K committed delta = s)
    (hsign : κ * s = reduceBytes n committed.input.digest + r * x)
    (hr0 : r ≠ 0) (hs0 : normalizeS s ≠ 0) :
    K.Verifies (x • K.generator) (reduceBytes n committed.input.digest) r (normalizeS s) ∧
      ∃ id ∈ [0, 1, 2, 3],
        finalizeSigningWorkerSignature K hkdf committed (scalarBytes clientShare) =
          .ok (encodeSignature ⟨r, normalizeS s, hr0, hs0⟩ id) := by
  obtain ⟨κ', hκ', hx', hsign'⟩ := K.exists_nonce_normalizeS hκ hsign
  rw [hr] at hx'
  have hverifies : K.Verifies (x • K.generator)
      (reduceBytes n committed.input.digest) r (normalizeS s) := by
    subst hx'
    exact K.verifies_of_nonce hr0 hs0 hsign'
  have hverify : K.verifyPrehash (x • K.generator) committed.input.digest
      ⟨r, normalizeS s, hr0, hs0⟩ = true := by
    simp [verifyPrehash, isHigh_normalizeS, hverifies]
  have hrecover := K.recoverFromPrehash_of_nonce hκ' hx hx'.symm hsign' hverify
  obtain ⟨id, hid, hrecovery⟩ :=
    recoveryIdFrom_of_mem (K.recoveryIdOf_mem _) hrecover
  refine ⟨hverifies, id, hid, ?_⟩
  -- with every part known, the worker's computation is replayed step by step
  have hinv : invert delta = some delta⁻¹ :=
    invert_eq_some.mpr ⟨deriveRerandomizationDelta_ne_zero hdelta, rfl⟩
  have hparse : parseScalar n (scalarBytes clientShare) = .ok clientShare :=
    okOr_eq_ok.mpr (scalarFromRepr_scalarBytes K.order_le clientShare)
  have hkey0 : x • K.generator ≠ 0 := smul_ne_zero hx K.generator_ne_zero
  have hsum : clientShare + (reduceBytes n committed.input.digest *
      (-2 * committed.material.k * delta⁻¹) +
        r * (-2 * committed.material.sigma * delta⁻¹)) = s := by
    rw [← hs, signingWorkerShare, hR, hr]
  simp only [finalizeSigningWorkerSignature, hparse, hdelta, hinv, ok_bind, okOr_some,
    signingWorkerLagrangeMagnitude, K.reduceBytes_xBytes, hR, hr, hsum,
    K256.Signature.fromScalars, dif_pos (And.intro hr0 hs0), hkey,
    ensure_of hkey0, ensure_of hverify, recoveryId, hrecovery, pure_eq_ok]

end SeamsWallet.EcdsaOnline
