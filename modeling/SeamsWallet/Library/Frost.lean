import Mathlib.Algebra.Module.Basic
import Mathlib.Tactic.LinearCombination
import Mathlib.Tactic.Module
import SeamsWallet.Library.Dict
import SeamsWallet.Library.Except

/-!
# FROST: two-round threshold Schnorr signatures

The signing half of FROST over any group that is a module over its scalars. A
ciphersuite fixes the generator, five hash functions and the encodings of
scalars and group elements; the identity has no encoding. A signer publishes
commitments to two nonces, receives the signing package with everybody's
commitments and the message, and answers with a signature share; the shares of
all signers add up to one Schnorr signature.

The main result is that the shares of signers whose interpolated secret is the
secret of the verifying key aggregate to a signature that verifies.
-/

namespace Library

namespace Frost

inductive FrostError where
  | malformedScalar
  | invalidZeroScalar
  | malformedElement
  | invalidIdentityElement
  | invalidNonPrimeOrderElement
  | malformedSigningNonces
  | identityCommitment
  | incorrectNumberOfCommitments
  | missingCommitment
  | incorrectCommitment
  | unknownIdentifier
  | duplicatedIdentifier
  | invalidSignature
  deriving DecidableEq

open FrostError

/-- The parameters of the scheme. -/
structure Ciphersuite (F P : Type) where
  generator : P
  cofactor : ℕ
  h1 : List UInt8 → F
  h2 : List UInt8 → F
  h3 : List UInt8 → F
  h4 : List UInt8 → List UInt8
  h5 : List UInt8 → List UInt8
  serializeScalar : F → List UInt8
  serializeElement : P → Option (List UInt8)

structure SigningCommitments (P : Type) where
  hidingCommitment : P
  bindingCommitment : P
  deriving DecidableEq

structure SigningNonces (F : Type) where
  hidingNonce : F
  bindingNonce : F

/-- The commitments of the signers, in the order of their identifiers, and the
message. -/
structure SigningPackage (F P : Type) where
  commitments : List (F × SigningCommitments P)
  message : List UInt8

structure KeyPackage (F P : Type) where
  identifier : F
  signingShare : F
  verifyingShare : P
  verifyingKey : P
  minSigners : ℕ

structure Signature (F P : Type) where
  R : P
  z : F

/-! ## Round one -/

variable {F P : Type}

def SigningNonces.commitments [SMul F P] (suite : Ciphersuite F P)
    (nonces : SigningNonces F) : SigningCommitments P :=
  ⟨nonces.hidingNonce • suite.generator, nonces.bindingNonce • suite.generator⟩

/-- A nonce hedged with the secret: the hash of fresh bytes and the secret. -/
def nonceGenerate (suite : Ciphersuite F P) (secret : F) (randomBytes : List UInt8) : F :=
  suite.h3 (randomBytes ++ suite.serializeScalar secret)

/-! ## Round two -/

def Ciphersuite.serialize (suite : Ciphersuite F P) (Q : P) : Except FrostError (List UInt8) :=
  okOr (suite.serializeElement Q) .invalidIdentityElement

def encodeGroupCommitments (suite : Ciphersuite F P) :
    List (F × SigningCommitments P) → Except FrostError (List UInt8)
  | [] => .ok []
  | (identifier, commitments) :: rest => do
    let hidingBytes ← suite.serialize commitments.hidingCommitment
    let bindingBytes ← suite.serialize commitments.bindingCommitment
    let tail ← encodeGroupCommitments suite rest
    return suite.serializeScalar identifier ++ hidingBytes ++ bindingBytes ++ tail

/-- The binding factor of every signer: a hash of the key, the message, all
commitments and the signer. -/
def computeBindingFactorList (suite : Ciphersuite F P) (verifyingKey : P)
    (package : SigningPackage F P) : Except FrostError (List (F × F)) := do
  let key ← suite.serialize verifyingKey
  let encoded ← encodeGroupCommitments suite package.commitments
  let rhoInput := key ++ suite.h4 package.message ++ suite.h5 encoded
  return package.commitments.map fun entry =>
    (entry.1, suite.h1 (rhoInput ++ suite.serializeScalar entry.1))

def computeGroupCommitment [DecidableEq F] [AddCommGroup P] [DecidableEq P]
    [SMul F P] (factors : List (F × F)) :
    List (F × SigningCommitments P) → Except FrostError P
  | [] => .ok 0
  | (identifier, commitments) :: rest => do
    ensure (commitments.bindingCommitment ≠ 0 ∧ commitments.hidingCommitment ≠ 0)
      identityCommitment
    let factor ← okOr (factors.lookup identifier) unknownIdentifier
    let tail ← computeGroupCommitment factors rest
    return commitments.hidingCommitment + factor • commitments.bindingCommitment + tail

/-- The Lagrange coefficient at zero of one identifier among the others. -/
def deriveInterpolatingValue [CommRing F] [Inv F] [DecidableEq F]
    (identifiers : List F) (identifier : F) : Except FrostError F := do
  let others := identifiers.filter (· ≠ identifier)
  let numerator := others.prod
  let denominator := (others.map (· - identifier)).prod
  ensure (identifier ∈ identifiers) unknownIdentifier
  ensure (denominator ≠ 0) duplicatedIdentifier
  return numerator * denominator⁻¹

def challenge (suite : Ciphersuite F P) (R verifyingKey : P)
    (message : List UInt8) : Except FrostError F := do
  let commitment ← suite.serialize R
  let key ← suite.serialize verifyingKey
  return suite.h2 (commitment ++ key ++ message)

def computeSignatureShare [Add F] [Mul F] (nonces : SigningNonces F)
    (factor lambda signingShare challenge : F) : F :=
  nonces.hidingNonce + nonces.bindingNonce * factor + lambda * signingShare * challenge

def sign [CommRing F] [Inv F] [DecidableEq F] [AddCommGroup P]
    [DecidableEq P] [SMul F P] (suite : Ciphersuite F P) (package : SigningPackage F P)
    (nonces : SigningNonces F) (key : KeyPackage F P) : Except FrostError F := do
  ensure (key.minSigners ≤ package.commitments.length)
    incorrectNumberOfCommitments
  let commitment ← okOr (package.commitments.lookup key.identifier)
    missingCommitment
  ensure (nonces.commitments suite = commitment) incorrectCommitment
  let factors ← computeBindingFactorList suite key.verifyingKey package
  let factor ← okOr (factors.lookup key.identifier) unknownIdentifier
  let R ← computeGroupCommitment factors package.commitments
  let lambda ← deriveInterpolatingValue (package.commitments.map Prod.fst) key.identifier
  let c ← challenge suite R key.verifyingKey package.message
  return computeSignatureShare nonces factor lambda key.signingShare c

/-! ## Verification and aggregation -/

/-- The verification equation, multiplied by the cofactor. -/
def verify [AddCommGroup P] [DecidableEq P] [SMul F P]
    (suite : Ciphersuite F P) (verifyingKey : P) (message : List UInt8)
    (signature : Signature F P) : Except FrostError Unit := do
  let c ← challenge suite signature.R verifyingKey message
  ensure (suite.cofactor • (signature.z • suite.generator - c • verifyingKey -
    signature.R) = 0) invalidSignature

/-- Adds the shares up; the signature is returned only if it verifies. -/
def aggregate [CommRing F] [DecidableEq F] [AddCommGroup P]
    [DecidableEq P] [SMul F P] (suite : Ciphersuite F P) (package : SigningPackage F P)
    (shares : List (F × F)) (verifyingShares : List (F × P)) (verifyingKey : P) :
    Except FrostError (Signature F P) := do
  ensure (package.commitments.length = shares.length) unknownIdentifier
  ensure (∀ entry ∈ package.commitments, entry.1 ∈ shares.map Prod.fst ∧
    entry.1 ∈ verifyingShares.map Prod.fst) unknownIdentifier
  let factors ← computeBindingFactorList suite verifyingKey package
  let R ← computeGroupCommitment factors package.commitments
  let signature : Signature F P := ⟨R, (shares.map Prod.snd).sum⟩
  verify suite verifyingKey package.message signature
  return signature

variable {suite : Ciphersuite F P} {package : SigningPackage F P} {verifyingKey : P}

def Signature.serialize (suite : Ciphersuite F P) (signature : Signature F P) :
    Except FrostError (List UInt8) := do
  let R ← suite.serialize signature.R
  return R ++ suite.serializeScalar signature.z

/-! ## Honest signers -/

/-- One signer of a session, with what it keeps secret. -/
structure Signer (F : Type) where
  identifier : F
  signingShare : F
  nonces : SigningNonces F

/-- The package that signers with these nonces receive. -/
def signingPackage [SMul F P] (suite : Ciphersuite F P)
    (signers : List (Signer F)) (message : List UInt8) : SigningPackage F P :=
  ⟨signers.map fun s => (s.identifier, s.nonces.commitments suite), message⟩

/-- The values all signers of a session derive from its package. -/
structure Session {F P : Type} [DecidableEq F] [AddCommGroup P] [DecidableEq P]
    [SMul F P] (suite : Ciphersuite F P) (verifyingKey : P)
    (package : SigningPackage F P) where
  factors : List (F × F)
  R : P
  c : F
  factors_eq : computeBindingFactorList suite verifyingKey package = .ok factors
  R_eq : computeGroupCommitment factors package.commitments = .ok R
  c_eq : challenge suite R verifyingKey package.message = .ok c

/-- The group commitment of a package under a key. -/
def groupCommitment [DecidableEq F] [AddCommGroup P] [DecidableEq P]
    [SMul F P] (suite : Ciphersuite F P) (verifyingKey : P) (package : SigningPackage F P) :
    Except FrostError P := do
  let factors ← computeBindingFactorList suite verifyingKey package
  computeGroupCommitment factors package.commitments

theorem lookup_map_of_mem {K V A : Type} [DecidableEq K] {key : A → K} {value : A → V}
    {entries : List A} (hnodup : (entries.map key).Nodup) {a : A} (ha : a ∈ entries) :
    (entries.map fun a => (key a, value a)).lookup (key a) = some (value a) := by
  have hkeys : ((entries.map fun a => (key a, value a)).map Prod.fst).Nodup := by
    rwa [List.map_map]
  exact (Dict.lookup_eq_some_iff hkeys).mpr (List.mem_map.mpr ⟨a, ha, rfl⟩)

variable {commitments : List (F × SigningCommitments P)} {factors : List (F × F)}

/-! A session exists unless one of the group elements it serialises is the
identity. -/

theorem exists_encodeGroupCommitments [Zero P]
    (hserialize : ∀ Q : P, Q ≠ 0 → ∃ bytes, suite.serialize Q = .ok bytes)
    (hne : ∀ entry ∈ commitments, entry.2.bindingCommitment ≠ 0 ∧ entry.2.hidingCommitment ≠ 0) :
    ∃ bytes, encodeGroupCommitments suite commitments = .ok bytes := by
  induction commitments with
  | nil => exact ⟨[], rfl⟩
  | cons entry rest ih =>
    rw [List.forall_mem_cons] at hne
    obtain ⟨hidingBytes, hhiding⟩ := hserialize _ hne.1.2
    obtain ⟨bindingBytes, hbinding⟩ := hserialize _ hne.1.1
    obtain ⟨tail, htail⟩ := ih hne.2
    simp only [encodeGroupCommitments, hhiding, hbinding, htail, ok_bind]
    exact ⟨_, rfl⟩

section

variable [DecidableEq F] [AddCommGroup P] [DecidableEq P] [SMul F P]

theorem exists_computeGroupCommitment
    (hfactors : ∀ entry ∈ commitments, ∃ factor, factors.lookup entry.1 = some factor)
    (hne : ∀ entry ∈ commitments, entry.2.bindingCommitment ≠ 0 ∧ entry.2.hidingCommitment ≠ 0) :
    ∃ R, computeGroupCommitment factors commitments = .ok R := by
  induction commitments with
  | nil => exact ⟨0, rfl⟩
  | cons entry rest ih =>
    rw [List.forall_mem_cons] at hfactors hne
    obtain ⟨factor, hfactor⟩ := hfactors.1
    obtain ⟨tail, htail⟩ := ih hfactors.2 hne.2
    simp only [computeGroupCommitment, ensure_of hne.1, hfactor, okOr_some, htail, ok_bind]
    exact ⟨_, rfl⟩

theorem exists_session
    (hserialize : ∀ Q : P, Q ≠ 0 → ∃ bytes, suite.serialize Q = .ok bytes)
    (hkey : verifyingKey ≠ 0) (hnodup : (package.commitments.map Prod.fst).Nodup)
    (hne : ∀ entry ∈ package.commitments, entry.2.bindingCommitment ≠ 0 ∧
      entry.2.hidingCommitment ≠ 0) (hR : groupCommitment suite verifyingKey package ≠ .ok 0) :
    ∃ session : Session suite verifyingKey package, session.R ≠ 0 := by
  obtain ⟨key, hkeyBytes⟩ := hserialize _ hkey
  obtain ⟨encoded, hencoded⟩ := exists_encodeGroupCommitments hserialize hne
  have hfactors : ∃ factors, computeBindingFactorList suite verifyingKey package =
      .ok factors ∧ ∀ entry ∈ package.commitments,
        ∃ factor, factors.lookup entry.1 = some factor := by
    simp only [computeBindingFactorList, hkeyBytes, hencoded, ok_bind]
    exact ⟨_, rfl, fun entry hentry => ⟨_, lookup_map_of_mem hnodup hentry⟩⟩
  obtain ⟨factors, hfactors, hlookup⟩ := hfactors
  obtain ⟨R, hcommitment⟩ := exists_computeGroupCommitment hlookup hne
  have hRne : R ≠ 0 := by
    rintro rfl
    exact hR (by rw [groupCommitment, hfactors, ok_bind, hcommitment])
  obtain ⟨RBytes, hRBytes⟩ := hserialize _ hRne
  have hchallenge : challenge suite R verifyingKey package.message =
      .ok (suite.h2 (RBytes ++ key ++ package.message)) := by
    simp only [challenge, hRBytes, hkeyBytes, ok_bind]
    rfl
  exact ⟨⟨factors, R, _, hfactors, hcommitment, hchallenge⟩, hRne⟩

/-- The group commitment is the sum of the commitments, the binding ones scaled
by their factors. -/
theorem computeGroupCommitment_eq_ok {factor : F → F} {R : P}
    (hfactor : ∀ entry ∈ commitments, factors.lookup entry.1 = some (factor entry.1))
    (h : computeGroupCommitment factors commitments = .ok R) :
    R = (commitments.map fun entry =>
      entry.2.hidingCommitment + factor entry.1 • entry.2.bindingCommitment).sum := by
  induction commitments generalizing R with
  | nil => exact (Except.ok.inj h).symm
  | cons entry rest ih =>
    rw [List.forall_mem_cons] at hfactor
    simp only [computeGroupCommitment, ok_iff, hfactor.1, Option.some.injEq, exists_eq_left'] at h
    obtain ⟨-, tail, htail, rfl⟩ := h
    rw [List.map_cons, List.sum_cons, ih hfactor.2 htail]

end

def Session.factor [DecidableEq F] [Zero F] [AddCommGroup P] [DecidableEq P] [SMul F P]
    (session : Session suite verifyingKey package) (identifier : F) : F :=
  (session.factors.lookup identifier).getD 0

theorem Session.lookup_factor [DecidableEq F] [Zero F] [AddCommGroup P] [DecidableEq P] [SMul F P]
    (session : Session suite verifyingKey package)
    (hnodup : (package.commitments.map Prod.fst).Nodup)
    {entry : F × SigningCommitments P} (hentry : entry ∈ package.commitments) :
    session.factors.lookup entry.1 = some (session.factor entry.1) := by
  have h := session.factors_eq
  simp only [computeBindingFactorList, ok_iff] at h
  obtain ⟨key, -, encoded, -, hfactors⟩ := h
  obtain ⟨value, hvalue⟩ : ∃ value, session.factors.lookup entry.1 = some value :=
    ⟨_, hfactors ▸ lookup_map_of_mem hnodup hentry⟩
  rw [factor, hvalue, Option.getD_some]

/-- The shares of all signers, multiplied out over the generator. -/
theorem sum_shares_smul [CommRing F] [AddCommGroup P] [Module F P]
    (B : P) (factor lambda : F → F) (c : F) (signers : List (Signer F)) :
    (signers.map fun s => computeSignatureShare s.nonces (factor s.identifier)
        (lambda s.identifier) s.signingShare c).sum • B =
      (signers.map fun s => s.nonces.hidingNonce • B +
        factor s.identifier • s.nonces.bindingNonce • B).sum +
      c • (signers.map fun s => lambda s.identifier * s.signingShare).sum • B := by
  induction signers with
  | nil => simp
  | cons s signers ih =>
    have hhead : computeSignatureShare s.nonces (factor s.identifier)
        (lambda s.identifier) s.signingShare c • B =
        s.nonces.hidingNonce • B + factor s.identifier • s.nonces.bindingNonce • B +
          c • (lambda s.identifier * s.signingShare) • B := by
      unfold computeSignatureShare
      module
    simp only [List.map_cons, List.sum_cons, add_smul, ih, hhead, smul_add]
    exact add_add_add_comm _ _ _ _

section Honest

variable {F P : Type} [CommRing F] [DecidableEq F] [AddCommGroup P]
  [DecidableEq P] [Module F P] {suite : Ciphersuite F P} {verifyingKey : P}
  {signers : List (Signer F)} {message : List UInt8}

omit [DecidableEq F] [DecidableEq P] in
theorem signingPackage_identifiers :
    (signingPackage suite signers message).commitments.map Prod.fst =
      signers.map Signer.identifier := by
  simp [signingPackage, Function.comp_def]

variable (session : Session suite verifyingKey (signingPackage suite signers message))

theorem sign_of_session [Inv F]
    (hnodup : (signers.map Signer.identifier).Nodup) {s : Signer F} (hs : s ∈ signers)
    {lambda : F}
    (hlambda : deriveInterpolatingValue (signers.map Signer.identifier) s.identifier = .ok lambda)
    {key : KeyPackage F P} (hidentifier : key.identifier = s.identifier)
    (hshare : key.signingShare = s.signingShare) (hkey : key.verifyingKey = verifyingKey)
    (hmin : key.minSigners ≤ signers.length) :
    sign suite (signingPackage suite signers message) s.nonces key =
      .ok (computeSignatureShare s.nonces (session.factor s.identifier) lambda
        s.signingShare session.c) := by
  have hids : (signingPackage suite signers message).commitments.map Prod.fst =
      signers.map Signer.identifier := signingPackage_identifiers
  have hcommitment : (signingPackage suite signers message).commitments.lookup
      s.identifier = some (s.nonces.commitments suite) :=
    lookup_map_of_mem hnodup hs
  have hfactor : session.factors.lookup s.identifier = some (session.factor s.identifier) := by
    have hentry : (s.identifier, s.nonces.commitments suite) ∈
        (signingPackage suite signers message).commitments :=
      List.mem_map.mpr ⟨s, hs, rfl⟩
    exact session.lookup_factor (hids ▸ hnodup) hentry
  have hlength : key.minSigners ≤ (signingPackage suite signers message).commitments.length := by
    simpa [signingPackage] using hmin
  simp only [sign, ensure_of hlength, hidentifier, hcommitment, okOr_some, ok_bind,
    ensure_of, hkey, session.factors_eq, hfactor, session.R_eq, hids, hlambda,
    session.c_eq, hshare, pure, Except.pure]

/-- The shares of all signers add up to a Schnorr signature, if the verifying
key belongs to the secret that the signers' shares interpolate. -/
theorem sum_shares_of_session (hnodup : (signers.map Signer.identifier).Nodup) (lambda : F → F)
    (hkey : verifyingKey =
      (signers.map fun s => lambda s.identifier * s.signingShare).sum • suite.generator) :
    (signers.map fun s => computeSignatureShare s.nonces (session.factor s.identifier)
        (lambda s.identifier) s.signingShare session.c).sum • suite.generator =
      session.R + session.c • verifyingKey := by
  have hids : (signingPackage suite signers message).commitments.map Prod.fst =
      signers.map Signer.identifier := signingPackage_identifiers
  have hR : session.R = (signers.map fun s => s.nonces.hidingNonce • suite.generator +
      session.factor s.identifier • s.nonces.bindingNonce • suite.generator).sum := by
    refine (computeGroupCommitment_eq_ok (fun entry hentry =>
      session.lookup_factor (hids ▸ hnodup) hentry) session.R_eq).trans ?_
    exact congrArg List.sum List.map_map
  rw [sum_shares_smul, ← hkey, hR]

theorem aggregate_of_session {shares : List (F × F)} {verifyingShares : List (F × P)}
    (hshares : shares.map Prod.fst = signers.map Signer.identifier)
    (hverifying : verifyingShares.map Prod.fst = signers.map Signer.identifier)
    (hsum : (shares.map Prod.snd).sum • suite.generator = session.R + session.c • verifyingKey) :
    aggregate suite (signingPackage suite signers message) shares verifyingShares
      verifyingKey = .ok ⟨session.R, (shares.map Prod.snd).sum⟩ := by
  have hlength : (signingPackage suite signers message).commitments.length = shares.length := by
    simpa [signingPackage] using (congrArg List.length hshares).symm
  have hmem : ∀ entry ∈ (signingPackage suite signers message).commitments,
      entry.1 ∈ shares.map Prod.fst ∧ entry.1 ∈ verifyingShares.map Prod.fst := by
    intro entry hentry
    have hid := List.mem_map_of_mem (f := Prod.fst) hentry
    rw [signingPackage_identifiers] at hid
    rw [hshares, hverifying]
    exact ⟨hid, hid⟩
  have hequation : suite.cofactor • ((shares.map Prod.snd).sum • suite.generator -
      session.c • verifyingKey - session.R) = 0 := by
    rw [hsum, add_sub_cancel_right, sub_self, smul_zero]
  simp only [aggregate, ensure_of hlength, ensure_of hmem, ok_bind, session.factors_eq,
    session.R_eq, verify, session.c_eq, ensure_of hequation, pure, Except.pure]

end Honest

end Frost

end Library
