import SeamsWallet.Ecdsa.Derivation

/-!
# Rebinding an ECDSA lane to a new holder

A wallet key is shared additively between a holder and the relayer. To move the
lane to another holder share, the old holder sends the difference of the two
shares, and the relayer adds it to its own after checking every public value
against the threshold key and the Ethereum address.

`rebind_eq_ok` and `rebind_of_points` say together that the checks are exactly
as strong as the relation they protect: a rebinding succeeds if and only if the
inputs come from points with that relation. The last section follows a lane
through any sequence of rebindings.
-/

namespace SeamsWallet

open Library K256

namespace EcdsaDerivation

open RouterAbEcdsaDerivationError

/-! ## Deltas -/

/-- The difference of two holder shares, as canonical bytes. Zero is allowed. -/
structure EcdsaLaneDelta (n : ℕ) where
  delta32 : Bytes 32
  canonical : ∃ s, parseScalar32Be n delta32.toList "delta32" = .ok s

open EcdsaLaneDelta

def EcdsaLaneDelta.fromBytes (n : ℕ) (delta32 : Bytes 32) :
    RouterAbEcdsaDerivationResult (EcdsaLaneDelta n) :=
  match h : parseScalar32Be n delta32.toList "delta32" with
  | .ok s => .ok ⟨delta32, s, h⟩
  | .error e => .error e

variable {delta32 : Bytes 32}

theorem EcdsaLaneDelta.delta32_of_fromBytes {n : ℕ} {delta : EcdsaLaneDelta n}
    (h : fromBytes n delta32 = .ok delta) : delta.delta32 = delta32 := by
  unfold fromBytes at h
  split at h
  · cases h
    rfl
  · cases h

theorem EcdsaLaneDelta.exists_fromBytes {n : ℕ} {d : ZMod n}
    (hd : scalarFromRepr n delta32 = some d) :
    ∃ delta, fromBytes n delta32 = .ok delta ∧ delta.delta32 = delta32 := by
  unfold fromBytes
  split
  case h_1 s hs => exact ⟨_, rfl, rfl⟩
  case h_2 e he =>
    rw [parseScalar32Be_eq_ok.mpr hd] at he
    cases he

section Lane

variable {n : ℕ} [Fact n.Prime] {P : Type} [AddCommGroup P] [Module (ZMod n) P]
  [DecidableEq P] (K : K256 n P) (H : AddressHash P)

/-! ## Target shares -/

/-- A sampled holder share; its key is the key of its scalar. -/
structure EcdsaLaneClientShare (K : K256 n P) where
  xClient32 : Bytes 32
  publicKey33 : Bytes 33
  isKey : privateKeyToPublicKey33 K xClient32 "target client public key" = .ok publicKey33

open EcdsaLaneClientShare

def EcdsaLaneClientShare.ofSecret (xClient32 : Bytes 32) :
    RouterAbEcdsaDerivationResult (EcdsaLaneClientShare K) :=
  match h : privateKeyToPublicKey33 K xClient32 "target client public key" with
  | .ok publicKey33 => .ok ⟨xClient32, publicKey33, h⟩
  | .error e => .error e

def sampleEcdsaLaneClientShareV1 (randomness32 : Bytes 32) :
    RouterAbEcdsaDerivationResult (EcdsaLaneClientShare K) := do
  let scalar ← parseScalar32Be n randomness32.toList "target client share"
  ensure (scalar ≠ 0) (invalidInput "target client share must be non-zero")
  ofSecret K (scalarBytes scalar)

def deriveEcdsaLaneDeltaFromSourceShare32V1 (sourceClientShare32 : Bytes 32)
    (targetClientShare : EcdsaLaneClientShare K) :
    RouterAbEcdsaDerivationResult (EcdsaLaneDelta n) := do
  let sourceClient ←
    parseNonzeroScalar32Be n sourceClientShare32.toList "source client share"
  let targetClient ←
    parseNonzeroScalar32Be n targetClientShare.xClient32.toList "target client share"
  let delta := sourceClient.val - targetClient.val
  fromBytes n (scalarBytes delta)

/-! ## Rebinding -/

structure EcdsaLanePublicIdentityBindingV1 where
  sourceClientPublicKey33 : Bytes 33
  sourceRelayerPublicKey33 : Bytes 33
  thresholdPublicKey33 : Bytes 33
  thresholdEthereumAddress20 : Bytes 20

structure EcdsaLaneRelayerRebindV1 where
  targetRelayerShare32 : Bytes 32
  targetRelayerPublicKey33 : Bytes 33
  targetClientPublicKey33 : Bytes 33
  targetThresholdPublicKey33 : Bytes 33
  targetEthereumAddress20 : Bytes 20

def targetClientPublicKeyFromDelta (sourceClientPublicKey : PublicKey P)
    (delta : ZMod n) : RouterAbEcdsaDerivationResult (Bytes 33) := do
  let targetPoint := sourceClientPublicKey.val - delta • K.generator
  ensure (targetPoint ≠ 0) (invalidInput "target client public key must not be the identity point")
  vecToFixed33 (compressedPoint K targetPoint) "target client public key"

def rebindEcdsaLaneRelayerShareBytesV1 (sourceRelayerShare32 : Bytes 32)
    (sourceIdentity : EcdsaLanePublicIdentityBindingV1) (delta : EcdsaLaneDelta n)
    (targetClientPublicKey33 : Bytes 33) :
    RouterAbEcdsaDerivationResult EcdsaLaneRelayerRebindV1 := do
  let sourceClientPublicKey33 ←
    validatePublicKey33 K sourceIdentity.sourceClientPublicKey33 "source client public key"
  let sourceRelayerPublicKey33 ←
    validatePublicKey33 K sourceIdentity.sourceRelayerPublicKey33 "source relayer public key"
  let sourceThresholdPublicKey33 ←
    validatePublicKey33 K sourceIdentity.thresholdPublicKey33 "source threshold public key"
  let expectedSourceThreshold ←
    addPublicKeysNonIdentity33 K sourceClientPublicKey33 sourceRelayerPublicKey33
      "source threshold public key"
  ensure (expectedSourceThreshold = sourceThresholdPublicKey33)
    (invalidInput "source threshold public key is inconsistent")
  let sourceAddress ←
    publicKeyToAddress20 K H sourceThresholdPublicKey33 "source threshold ethereum address"
  ensure (sourceAddress = sourceIdentity.thresholdEthereumAddress20)
    (invalidInput "source threshold ethereum address is inconsistent")
  let sourceRelayerScalar ←
    parseNonzeroScalar32Be n sourceRelayerShare32.toList "source relayer share"
  let sourceRelayerPublicFromScalar ←
    privateKeyToPublicKey33 K sourceRelayerShare32 "source relayer public key"
  ensure (sourceRelayerPublicFromScalar = sourceRelayerPublicKey33)
    (invalidInput "source relayer share public key is inconsistent")
  let targetClientPublicKey33 ←
    validatePublicKey33 K targetClientPublicKey33 "target client public key"
  let deltaScalar ← parseScalar32Be n delta.delta32.toList "delta32"
  let sourceClientPoint ← okOr (PublicKey.fromSec1Bytes K sourceClientPublicKey33)
    (decodeError "source client public key is invalid")
  let expectedTargetClient ← targetClientPublicKeyFromDelta K sourceClientPoint deltaScalar
  ensure (expectedTargetClient = targetClientPublicKey33) (invalidInput
      "target client public key does not match source client public key and delta")
  let targetRelayerScalar ←
    okOr (NonZeroScalar.new (sourceRelayerScalar.val + deltaScalar))
      (invalidInput "target relayer share must remain a non-zero scalar")
  let targetRelayerShare32 := scalarBytes targetRelayerScalar.val
  let targetRelayerPublicKey33 ←
    privateKeyToPublicKey33 K targetRelayerShare32 "target relayer public key"
  let targetThresholdPublicKey33 ←
    addPublicKeysNonIdentity33 K targetClientPublicKey33 targetRelayerPublicKey33
      "target threshold public key"
  ensure (targetThresholdPublicKey33 = sourceThresholdPublicKey33)
    (invalidInput "target threshold public key does not preserve source identity")
  let targetEthereumAddress20 ←
    publicKeyToAddress20 K H targetThresholdPublicKey33 "target threshold ethereum address"
  ensure (targetEthereumAddress20 = sourceIdentity.thresholdEthereumAddress20)
    (invalidInput "target threshold ethereum address does not preserve source identity")
  return {
    targetRelayerShare32, targetRelayerPublicKey33, targetClientPublicKey33,
    targetThresholdPublicKey33, targetEthereumAddress20 }

def reconstructEcdsaAdditiveExportKeyV1 (holderShare32 signingWorkerShare32 : Bytes 32)
    (expectedThresholdPublicKey33 : Bytes 33) (expectedEthereumAddress20 : Bytes 20) :
    RouterAbEcdsaDerivationResult (Bytes 32) := do
  let holder ← parseNonzeroScalar32Be n holderShare32.toList "holder_share32"
  let signingWorker ←
    parseNonzeroScalar32Be n signingWorkerShare32.toList "signing_worker_share32"
  let exported ← okOr (NonZeroScalar.new (holder.val + signingWorker.val))
    (invalidInput "additive export key reconstructed to zero")
  let export32 := scalarBytes exported.val
  let publicKey33 ← privateKeyToPublicKey33 K export32 "additive export public key"
  ensure (publicKey33 = expectedThresholdPublicKey33)
    (invalidInput "additive export public key does not match threshold public key")
  let ethereumAddress20 ←
    publicKeyToAddress20 K H publicKey33 "additive export ethereum address"
  ensure (ethereumAddress20 = expectedEthereumAddress20)
    (invalidInput "additive export ethereum address does not match threshold address")
  return export32

/-! ## When the operations succeed -/

variable {share : EcdsaLaneClientShare K} {t : ZMod n}

theorem EcdsaLaneClientShare.publicKey33_eq (ht : scalarFromRepr n share.xClient32 = some t) :
    t ≠ 0 ∧ share.publicKey33 = K.pointBytes (t • K.generator) := by
  obtain ⟨s, hs, hparse, hkey⟩ := (privateKeyToPublicKey33_eq_ok K).mp share.isKey
  rw [ht, Option.some.injEq] at hparse
  subst hparse
  exact ⟨hs, hkey⟩

variable {x : Bytes 32}

theorem EcdsaLaneClientShare.exists_ofSecret (ht : t ≠ 0) (hx : scalarFromRepr n x = some t) :
    ∃ share, ofSecret K x = .ok share ∧ share.xClient32 = x := by
  unfold ofSecret
  split
  case h_1 key hkey => exact ⟨_, rfl, rfl⟩
  case h_2 e he =>
    rw [(privateKeyToPublicKey33_eq_ok K).mpr ⟨t, ht, hx, rfl⟩] at he
    cases he

theorem exists_sample (ht : t ≠ 0) :
    ∃ share, sampleEcdsaLaneClientShareV1 K (scalarBytes t) = .ok share ∧
      share.xClient32 = scalarBytes t := by
  have hrepr := scalarFromRepr_scalarBytes K.order_le t
  obtain ⟨share, hshare, hx⟩ := exists_ofSecret K ht hrepr
  refine ⟨share, ?_, hx⟩
  rw [sampleEcdsaLaneClientShareV1, parseScalar32Be_eq_ok.mpr hrepr, ok_bind,
    ensure_of ht, ok_bind, hshare]

variable {target : EcdsaLaneClientShare K} {delta : EcdsaLaneDelta n} {share : Bytes 32}

theorem derive_eq_ok (h : deriveEcdsaLaneDeltaFromSourceShare32V1 K share target = .ok delta) :
    ∃ c t : ZMod n, c ≠ 0 ∧ scalarFromRepr n share = some c ∧
      scalarFromRepr n target.xClient32 = some t ∧
      delta.delta32 = scalarBytes (c - t) := by
  simp only [deriveEcdsaLaneDeltaFromSourceShare32V1, bind_eq_ok, parseNonzeroScalar32Be_eq_ok] at h
  obtain ⟨c, hc, t, ht, hdelta⟩ := h
  exact ⟨c.val, t.val, c.property, hc, ht, delta32_of_fromBytes hdelta⟩

variable {c : ZMod n}

theorem exists_derive (hc : c ≠ 0) (hshare : scalarFromRepr n share = some c)
    (htarget : scalarFromRepr n target.xClient32 = some t) :
    ∃ delta, deriveEcdsaLaneDeltaFromSourceShare32V1 K share target = .ok delta ∧
      delta.delta32 = scalarBytes (c - t) := by
  have ht : t ≠ 0 := (publicKey33_eq K htarget).1
  obtain ⟨delta, hdelta, hbytes⟩ :=
    exists_fromBytes (scalarFromRepr_scalarBytes K.order_le (c - t))
  refine ⟨delta, ?_, hbytes⟩
  simp only [deriveEcdsaLaneDeltaFromSourceShare32V1, bind_eq_ok, parseNonzeroScalar32Be_eq_ok]
  exact ⟨⟨c, hc⟩, hshare, ⟨t, ht⟩, htarget, hdelta⟩

variable {d : ZMod n}

theorem targetClientPublicKeyFromDelta_eq_ok {C : PublicKey P} {key : Bytes 33} :
    targetClientPublicKeyFromDelta K C d = .ok key ↔
      C.val - d • K.generator ≠ 0 ∧ key = K.pointBytes (C.val - d • K.generator) := by
  simp only [targetClientPublicKeyFromDelta, ok_iff]
  refine and_congr_right fun hpoint => ?_
  rw [compressedPoint_of_ne_zero K hpoint, vecToFixed33_toList, Except.ok.injEq, eq_comm]

/-! ## What a rebinding relates -/

def laneIdentity (C R : P) : EcdsaLanePublicIdentityBindingV1 where
  sourceClientPublicKey33 := K.pointBytes C
  sourceRelayerPublicKey33 := K.pointBytes R
  thresholdPublicKey33 := K.pointBytes (C + R)
  thresholdEthereumAddress20 := ethereumAddress K H (C + R)

def relayerMaterial (C : P) (r : ZMod n) (X : P) : EcdsaLaneRelayerRebindV1 where
  targetRelayerShare32 := scalarBytes r
  targetRelayerPublicKey33 := K.pointBytes (r • K.generator)
  targetClientPublicKey33 := K.pointBytes C
  targetThresholdPublicKey33 := K.pointBytes X
  targetEthereumAddress20 := ethereumAddress K H X

/-- A rebinding that succeeds was made from the points of a lane, with the client
point moved by the delta, and its material is that of the moved lane. -/
theorem rebind_eq_ok {identity : EcdsaLanePublicIdentityBindingV1} {targetKey : Bytes 33}
    {result : EcdsaLaneRelayerRebindV1}
    (h : rebindEcdsaLaneRelayerShareBytesV1 K H share identity delta targetKey = .ok result) :
    ∃ (C : P) (r d : ZMod n), C ≠ 0 ∧ r ≠ 0 ∧ C + r • K.generator ≠ 0 ∧
      C - d • K.generator ≠ 0 ∧ r + d ≠ 0 ∧
      scalarFromRepr n share = some r ∧
      scalarFromRepr n delta.delta32 = some d ∧
      identity = laneIdentity K H C (r • K.generator) ∧
      targetKey = K.pointBytes (C - d • K.generator) ∧
      result = relayerMaterial K H (C - d • K.generator) (r + d) (C + r • K.generator) := by
  obtain ⟨clientKey, relayerKey, thresholdKey, address⟩ := identity
  simp only [rebindEcdsaLaneRelayerShareBytesV1, ok_iff, validatePublicKey33_eq_ok,
    parseNonzeroScalar32Be_eq_ok, parseScalar32Be_eq_ok, privateKeyToPublicKey33_eq_ok,
    NonZeroScalar.new_eq_some, targetClientPublicKeyFromDelta_eq_ok] at h
  obtain ⟨_, ⟨C, hC, hC33, hC33'⟩, _, ⟨R, hR, hR33, hR33'⟩, _, ⟨X, hX, hX33, hX33'⟩, _,
    hsum, hsum33, _, haddress, haddress20, ⟨r, hr⟩, hshare, _, ⟨r', hr', hshare', hr33⟩,
    hrelayer, _, ⟨T, hT, hT33, hT33'⟩, d, hd, C', hC', _, ⟨hmoved, hmoved33⟩, hclient,
    ⟨s, hs⟩, hsum_rd, _, ⟨s', hs', hrepr, hs33⟩, _, -, hsum33', _, haddress',
    haddress20', hresult⟩ := h
  subst hC33' hR33' hX33' hT33' hC33 hR33 hX33 hT33 hsum33 haddress20 hr33 hmoved33 hs33
    hsum33' haddress20' hresult
  -- Every scalar and point is parsed twice; the two readings agree.
  rw [PublicKey.fromSec1Bytes_pointBytes K hC, Option.some.injEq] at hC'
  rw [hshare, Option.some.injEq] at hshare'
  rw [scalarFromRepr_scalarBytes K.order_le, Option.some.injEq] at hrepr
  subst hC' hshare' hrepr
  simp only at hmoved hclient hsum_rd
  -- The relayer's point is its scalar's, the threshold point is their sum, and the
  -- target point is the client's moved by the delta.
  have hpoint : r • K.generator ≠ 0 := smul_ne_zero hr K.generator_ne_zero
  obtain rfl := K.pointBytes_injective hpoint hR hrelayer
  obtain ⟨hne, hthreshold⟩ := (addPublicKeysNonIdentity33_eq_ok K hC hpoint).mp hsum
  obtain rfl := K.pointBytes_injective hX hne hthreshold
  obtain rfl := K.pointBytes_injective hmoved hT hclient
  rw [publicKeyToAddress20_pointBytes K H hX, Except.ok.injEq] at haddress
  subst haddress hsum_rd
  exact ⟨C, r, d, hC, hr, hne, hmoved, hs, hshare, hd, rfl, rfl, rfl⟩

variable {r : ZMod n}

/-- A rebinding of a lane's points succeeds unless the moved client point or the
moved relayer scalar vanishes. -/
theorem rebind_of_points {C : P} (hC : C ≠ 0) (hr : r ≠ 0) (hsum : C + r • K.generator ≠ 0)
    (hmoved : C - d • K.generator ≠ 0) (hrd : r + d ≠ 0)
    (hshare : scalarFromRepr n share = some r)
    (hdelta : scalarFromRepr n delta.delta32 = some d) :
    rebindEcdsaLaneRelayerShareBytesV1 K H share (laneIdentity K H C (r • K.generator))
        delta (K.pointBytes (C - d • K.generator)) =
      .ok (relayerMaterial K H (C - d • K.generator) (r + d) (C + r • K.generator)) := by
  have hpoint : r • K.generator ≠ 0 := smul_ne_zero hr K.generator_ne_zero
  have hpoint' : (r + d) • K.generator ≠ 0 := smul_ne_zero hrd K.generator_ne_zero
  have hkept : C - d • K.generator + (r + d) • K.generator = C + r • K.generator := by
    module
  have hsource (name : String) :
      addPublicKeysNonIdentity33 K (K.pointBytes C) (K.pointBytes (r • K.generator)) name =
        .ok (K.pointBytes (C + r • K.generator)) :=
    (addPublicKeysNonIdentity33_eq_ok K hC hpoint).mpr ⟨hsum, rfl⟩
  have htarget (name : String) : addPublicKeysNonIdentity33 K (K.pointBytes (C - d • K.generator))
          (K.pointBytes ((r + d) • K.generator)) name =
        .ok (K.pointBytes (C + r • K.generator)) :=
    (addPublicKeysNonIdentity33_eq_ok K hmoved hpoint').mpr (by rw [hkept]; exact ⟨hsum, rfl⟩)
  simp only [rebindEcdsaLaneRelayerShareBytesV1, laneIdentity, relayerMaterial, ok_iff,
    validatePublicKey33_eq_ok, parseNonzeroScalar32Be_eq_ok, parseScalar32Be_eq_ok,
    privateKeyToPublicKey33_eq_ok, NonZeroScalar.new_eq_some, targetClientPublicKeyFromDelta_eq_ok]
  exact ⟨_, ⟨C, hC, rfl, rfl⟩, _, ⟨_, hpoint, rfl, rfl⟩, _, ⟨_, hsum, rfl, rfl⟩,
    _, hsource _, rfl, _, publicKeyToAddress20_pointBytes K H hsum _, ensure_of rfl _,
    ⟨r, hr⟩, hshare, _, ⟨r, hr, hshare, rfl⟩, rfl, _, ⟨_, hmoved, rfl, rfl⟩, d, hdelta,
    ⟨C, hC⟩, PublicKey.fromSec1Bytes_pointBytes K hC, _, ⟨hmoved, rfl⟩, rfl,
    ⟨r + d, hrd⟩, rfl, _,
    ⟨r + d, hrd, scalarFromRepr_scalarBytes K.order_le (r + d), rfl⟩,
    _, htarget _, rfl, _, publicKeyToAddress20_pointBytes K H hsum _, ensure_of rfl _, rfl⟩

variable {holder32 worker32 : Bytes 32}

/-- From the shares `c` and `r` the holder and the relayer reach the holder share
`t`: the three steps succeed, with the material that completes `t`. -/
theorem exists_rebinding (hc : c ≠ 0) (hr : r ≠ 0) (ht : t ≠ 0) (hsum : c + r ≠ 0)
    (hmoved : c + r - t ≠ 0) (hholder : scalarFromRepr n holder32 = some c)
    (hworker : scalarFromRepr n worker32 = some r) :
    ∃ share delta, sampleEcdsaLaneClientShareV1 K (scalarBytes t) = .ok share ∧
      share.xClient32 = scalarBytes t ∧
      deriveEcdsaLaneDeltaFromSourceShare32V1 K holder32 share = .ok delta ∧
      rebindEcdsaLaneRelayerShareBytesV1 K H worker32
          (laneIdentity K H (c • K.generator) (r • K.generator)) delta share.publicKey33 =
        .ok (relayerMaterial K H (c • K.generator - (c - t) • K.generator) (r + (c - t))
          (c • K.generator + r • K.generator)) := by
  obtain ⟨share, hsample, hx⟩ := exists_sample K ht
  have hrepr : scalarFromRepr n share.xClient32 = some t := by
    rw [hx, scalarFromRepr_scalarBytes K.order_le]
  obtain ⟨delta, hdelta, hdelta32⟩ := exists_derive K hc hholder hrepr
  refine ⟨share, delta, hsample, hx, hdelta, ?_⟩
  have hd : scalarFromRepr n delta.delta32 = some (c - t) := by
    rw [hdelta32, scalarFromRepr_scalarBytes K.order_le]
  have hclient : c • K.generator - (c - t) • K.generator = t • K.generator := by module
  have hkey : share.publicKey33 = K.pointBytes (c • K.generator - (c - t) • K.generator) := by
    rw [(publicKey33_eq K hrepr).2, hclient]
  have hthreshold : c • K.generator + r • K.generator ≠ 0 := by
    rw [← add_smul]
    exact smul_ne_zero hsum K.generator_ne_zero
  have hclient0 : c • K.generator - (c - t) • K.generator ≠ 0 := by
    rw [hclient]
    exact smul_ne_zero ht K.generator_ne_zero
  have hrd : r + (c - t) ≠ 0 := by rwa [← add_sub_assoc, add_comm r c]
  rw [hkey]
  exact rebind_of_points K H (smul_ne_zero hc K.generator_ne_zero) hr hthreshold hclient0
    hrd hworker hd

theorem reconstruct_of_shares (hc : c ≠ 0) (hr : r ≠ 0) (hsum : c + r ≠ 0)
    (hholder : scalarFromRepr n holder32 = some c)
    (hworker : scalarFromRepr n worker32 = some r) :
    reconstructEcdsaAdditiveExportKeyV1 K H holder32 worker32 (K.pointBytes ((c + r) • K.generator))
        (ethereumAddress K H ((c + r) • K.generator)) =
      .ok (scalarBytes (c + r)) := by
  simp only [reconstructEcdsaAdditiveExportKeyV1, ok_iff, parseNonzeroScalar32Be_eq_ok,
    privateKeyToPublicKey33_eq_ok, NonZeroScalar.new_eq_some]
  exact ⟨⟨c, hc⟩, hholder, ⟨r, hr⟩, hworker, ⟨c + r, hsum⟩, rfl, _,
    ⟨c + r, hsum, scalarFromRepr_scalarBytes K.order_le (c + r), rfl⟩, rfl, _,
    publicKeyToAddress20_pointBytes K H (smul_ne_zero hsum K.generator_ne_zero) _,
    rfl, rfl⟩

/-! ## Chains of rebindings -/

/-- A lane as its two parties hold it: the shares and the public facts about them. -/
structure Lane where
  holderShare32 : Bytes 32
  workerShare32 : Bytes 32
  identity : EcdsaLanePublicIdentityBindingV1

def Lane.ofMaterial (holderShare32 : Bytes 32) (rebound : EcdsaLaneRelayerRebindV1) : Lane where
  holderShare32
  workerShare32 := rebound.targetRelayerShare32
  identity := {
    sourceClientPublicKey33 := rebound.targetClientPublicKey33
    sourceRelayerPublicKey33 := rebound.targetRelayerPublicKey33
    thresholdPublicKey33 := rebound.targetThresholdPublicKey33
    thresholdEthereumAddress20 := rebound.targetEthereumAddress20 }

/-- Moves a lane to a holder share sampled from a random block: the old holder
derives the delta, the relayer rebinds its share. -/
def Lane.rebind (lane : Lane) (randomness32 : Bytes 32) : RouterAbEcdsaDerivationResult Lane := do
  let targetShare ← sampleEcdsaLaneClientShareV1 K randomness32
  let delta ← deriveEcdsaLaneDeltaFromSourceShare32V1 K lane.holderShare32 targetShare
  let rebound ← rebindEcdsaLaneRelayerShareBytesV1 K H lane.workerShare32 lane.identity
    delta targetShare.publicKey33
  return Lane.ofMaterial targetShare.xClient32 rebound

def Lane.exportKey (lane : Lane) : RouterAbEcdsaDerivationResult (Bytes 32) :=
  reconstructEcdsaAdditiveExportKeyV1 K H lane.holderShare32 lane.workerShare32
    lane.identity.thresholdPublicKey33 lane.identity.thresholdEthereumAddress20

/-- A lane holds the shares `c` and `r` of a key, and its public facts are theirs. -/
structure Lane.Holds (lane : Lane) (c r : ZMod n) : Prop where
  holder_ne_zero : c ≠ 0
  worker_ne_zero : r ≠ 0
  key_ne_zero : c + r ≠ 0
  holder : scalarFromRepr n lane.holderShare32 = some c
  worker : scalarFromRepr n lane.workerShare32 = some r
  identity : lane.identity = laneIdentity K H (c • K.generator) (r • K.generator)

variable {lane : Lane}

theorem Lane.Holds.exportKey (h : lane.Holds K H c r) :
    lane.exportKey K H = .ok (scalarBytes (c + r)) := by
  rw [Lane.exportKey, h.identity]
  simp only [laneIdentity, ← add_smul]
  exact reconstruct_of_shares K H h.holder_ne_zero h.worker_ne_zero h.key_ne_zero
    h.holder h.worker

omit [DecidableEq P] in
theorem Lane.holds_ofMaterial (ht : t ≠ 0) (hmoved : c + r - t ≠ 0) (hsum : c + r ≠ 0)
    (hx : scalarFromRepr n x = some t) :
    (Lane.ofMaterial x (relayerMaterial K H (c • K.generator - (c - t) • K.generator)
      (r + (c - t)) (c • K.generator + r • K.generator))).Holds K H t (c + r - t) := by
  have hclient : c • K.generator - (c - t) • K.generator = t • K.generator := by module
  have hworker : r + (c - t) = c + r - t := by ring
  have hkey : c • K.generator + r • K.generator =
      t • K.generator + (c + r - t) • K.generator := by module
  rw [hclient, hworker, hkey]
  exact
    { holder_ne_zero := ht
      worker_ne_zero := hmoved
      key_ne_zero := by rwa [add_sub_cancel]
      holder := hx
      worker := scalarFromRepr_scalarBytes K.order_le _
      identity := rfl }

variable {lane' : Lane}

/-- A rebinding that succeeds starts from a lane with shares of a key and ends in
one with shares of the same key. -/
theorem Lane.holds_of_rebind {block : Bytes 32} (h : lane.rebind K H block = .ok lane') :
    ∃ c r t : ZMod n, lane.Holds K H c r ∧ lane'.Holds K H t (c + r - t) := by
  simp only [Lane.rebind, ok_iff] at h
  obtain ⟨target, htarget, delta, hdelta, rebound, hrebound, rfl⟩ := h
  obtain ⟨c, t, hc, hholder, ht, hdelta32⟩ := derive_eq_ok K hdelta
  obtain ⟨ht0, hkey⟩ := publicKey33_eq K ht
  obtain ⟨C, r, d, hC, hr, hsum, hmoved, hrd, hworker, hd, hidentity, htargetKey, rfl⟩ :=
    rebind_eq_ok K H hrebound
  rw [hdelta32, scalarFromRepr_scalarBytes K.order_le, Option.some.injEq] at hd
  subst hd
  -- The target key is that of `t`, so the client point was that of `c`.
  have hclient : C = c • K.generator := by
    have hpoint := K.pointBytes_injective (smul_ne_zero ht0 K.generator_ne_zero) hmoved
      (hkey.symm.trans htargetKey)
    rw [sub_smul, sub_sub_eq_add_sub, eq_sub_iff_add_eq, add_comm] at hpoint
    exact (add_right_cancel hpoint).symm
  subst hclient
  have hkept : c + r ≠ 0 := by
    intro h0
    rw [← add_smul, h0, zero_smul] at hsum
    exact hsum rfl
  have hshift : r + (c - t) = c + r - t := by ring
  rw [hshift] at hrd
  exact ⟨c, r, t, ⟨hc, hr, hkept, hholder, hworker, hidentity⟩,
    Lane.holds_ofMaterial K H ht0 hrd hkept ht⟩

theorem Lane.Holds.exists_rebind (h : lane.Holds K H c r) (ht : t ≠ 0) (hmoved : c + r - t ≠ 0) :
    ∃ lane', lane.rebind K H (scalarBytes t) = .ok lane' ∧ lane'.Holds K H t (c + r - t) := by
  obtain ⟨share, delta, hsample, hx, hderive, hrebind⟩ := exists_rebinding K H
    h.holder_ne_zero h.worker_ne_zero ht h.key_ne_zero hmoved h.holder h.worker
  have hrepr : scalarFromRepr n share.xClient32 = some t := by
    rw [hx, scalarFromRepr_scalarBytes K.order_le]
  refine ⟨_, ?_, Lane.holds_ofMaterial K H ht hmoved h.key_ne_zero hrepr⟩
  rw [Lane.rebind, hsample, ok_bind, hderive, ok_bind, h.identity, hrebind, ok_bind]
  rfl

/-- No chain of rebindings changes what the lane exports. -/
theorem Lane.exportKey_of_rebinds {blocks : List (Bytes 32)}
    (h : blocks.foldlM (Lane.rebind K H) lane = .ok lane') :
    lane'.exportKey K H = lane.exportKey K H := by
  induction blocks generalizing lane with
  | nil =>
    rw [List.foldlM_nil, pure_eq_ok] at h
    rw [h]
  | cons block blocks ih =>
    rw [List.foldlM_cons, bind_eq_ok] at h
    obtain ⟨next, hnext, hrest⟩ := h
    obtain ⟨c, r, t, hlane, hholds⟩ := Lane.holds_of_rebind K H hnext
    rw [ih hrest, hholds.exportKey, hlane.exportKey, add_sub_cancel]

/-- A chain of rebindings succeeds when each of its shares leaves the relayer one:
the relayer's share is always the key minus the current holder share. -/
theorem Lane.Holds.exists_rebinds (h : lane.Holds K H c r) {targets : List (ZMod n)}
    (htargets : ∀ t ∈ targets, t ≠ 0 ∧ c + r - t ≠ 0) :
    ∃ lane', (targets.map scalarBytes).foldlM (Lane.rebind K H) lane = .ok lane' := by
  induction targets generalizing lane c r with
  | nil => exact ⟨lane, rfl⟩
  | cons t targets ih =>
    obtain ⟨ht, hmoved⟩ := htargets t List.mem_cons_self
    obtain ⟨next, hnext, hholds⟩ := h.exists_rebind K H ht hmoved
    have hrest : ∀ u ∈ targets, u ≠ 0 ∧ t + (c + r - t) - u ≠ 0 := by
      intro u hu
      rw [add_sub_cancel]
      exact htargets u (List.mem_cons_of_mem t hu)
    obtain ⟨lane', hlane'⟩ := ih hholds hrest
    exact ⟨lane', by rw [List.map_cons, List.foldlM_cons, hnext, ok_bind, hlane']⟩

/-- **Rebinding an ECDSA lane keeps the wallet key.** A rebinding that succeeds, on
any inputs, moves the delta from the client point to the relayer's scalar and keeps
the threshold key and the address. From shares of a key the rebinding to any share
that leaves the relayer one succeeds, and both pairs of shares export the same
private key. So does every chain of rebindings. -/
theorem lane_rebinding_preserves_key :
    (∀ (share : Bytes 32) (identity : EcdsaLanePublicIdentityBindingV1)
        (delta : EcdsaLaneDelta n) (targetKey : Bytes 33)
        (result : EcdsaLaneRelayerRebindV1),
        rebindEcdsaLaneRelayerShareBytesV1 K H share identity delta targetKey = .ok result →
        ∃ (r d : ZMod n) (C : P), scalarFromRepr n share = some r ∧
          scalarFromRepr n delta.delta32 = some d ∧
          K.fromEncodedPoint identity.sourceClientPublicKey33 = some C ∧
          r + d ≠ 0 ∧ result.targetRelayerShare32 = scalarBytes (r + d) ∧
          result.targetClientPublicKey33 = targetKey ∧
          K.fromEncodedPoint targetKey = some (C - d • K.generator) ∧
          result.targetThresholdPublicKey33 = identity.thresholdPublicKey33 ∧
          result.targetEthereumAddress20 = identity.thresholdEthereumAddress20) ∧
    (∀ c r t : ZMod n, c ≠ 0 → r ≠ 0 → t ≠ 0 → c + r ≠ 0 → r + c - t ≠ 0 → ∃ share delta result key,
          sampleEcdsaLaneClientShareV1 K (scalarBytes t) = .ok share ∧
          deriveEcdsaLaneDeltaFromSourceShare32V1 K (scalarBytes c) share = .ok delta ∧
          rebindEcdsaLaneRelayerShareBytesV1 K H (scalarBytes r)
            (laneIdentity K H (c • K.generator) (r • K.generator)) delta
            share.publicKey33 = .ok result ∧
          reconstructEcdsaAdditiveExportKeyV1 K H (scalarBytes c)
            (scalarBytes r) (K.pointBytes ((c + r) • K.generator))
            (ethereumAddress K H ((c + r) • K.generator)) = .ok key ∧
          reconstructEcdsaAdditiveExportKeyV1 K H (scalarBytes t)
            result.targetRelayerShare32 result.targetThresholdPublicKey33
            result.targetEthereumAddress20 = .ok key) ∧
    (∀ (lane lane' : Lane) (blocks : List (Bytes 32)),
        blocks.foldlM (Lane.rebind K H) lane = .ok lane' →
        lane'.exportKey K H = lane.exportKey K H) ∧
    (∀ (c r : ZMod n) (targets : List (ZMod n)), c ≠ 0 → r ≠ 0 → c + r ≠ 0 →
        (∀ t ∈ targets, t ≠ 0 ∧ c + r - t ≠ 0) →
        ∃ lane', (targets.map scalarBytes).foldlM (Lane.rebind K H) ⟨scalarBytes c, scalarBytes r,
              laneIdentity K H (c • K.generator) (r • K.generator)⟩ = .ok lane' ∧
          lane'.exportKey K H = .ok (scalarBytes (c + r))) := by
  have hrepr (s : ZMod n) : scalarFromRepr n (scalarBytes s) = some s :=
    scalarFromRepr_scalarBytes K.order_le s
  refine ⟨?_, ?_, ?_, ?_⟩
  · intro share identity delta targetKey result h
    obtain ⟨C, r, d, hC, -, -, hmoved, hrd, hshare, hd, rfl, rfl, rfl⟩ :=
      rebind_eq_ok K H h
    exact ⟨r, d, C, hshare, hd, K.fromEncodedPoint_pointBytes C hC, hrd, rfl, rfl,
      K.fromEncodedPoint_pointBytes _ hmoved, rfl, rfl⟩
  · intro c r t hc hr ht hsum hmoved
    rw [add_comm r c] at hmoved
    obtain ⟨share, delta, hsample, -, hderive, hrebind⟩ :=
      exists_rebinding K H hc hr ht hsum hmoved (hrepr c) (hrepr r)
    refine ⟨share, delta, _, _, hsample, hderive, hrebind,
      reconstruct_of_shares K H hc hr hsum (hrepr c) (hrepr r), ?_⟩
    have hexport := (Lane.holds_ofMaterial K H ht hmoved hsum (hrepr t)).exportKey
    rw [add_sub_cancel] at hexport
    exact hexport
  · intro lane lane' blocks h
    exact Lane.exportKey_of_rebinds K H h
  · intro c r targets hc hr hsum htargets
    have hlane : Lane.Holds K H ⟨scalarBytes c, scalarBytes r,
        laneIdentity K H (c • K.generator) (r • K.generator)⟩ c r :=
      ⟨hc, hr, hsum, hrepr c, hrepr r, rfl⟩
    obtain ⟨lane', hlane'⟩ := hlane.exists_rebinds K H htargets
    exact ⟨lane', hlane', (Lane.exportKey_of_rebinds K H hlane').trans hlane.exportKey⟩

end Lane

def additive31Address : AddressHash (ZMod 31) where
  yBytes Q := toBigEndian 32 Q.val
  keccak256 input := (Bytes.ofList? 32 (input.drop 32)).getD (Bytes.zeros 32)

def additive31Lane : Lane where
  holderShare32 := scalarBytes (3 : ZMod 31)
  workerShare32 := scalarBytes (4 : ZMod 31)
  identity := laneIdentity additive31 additive31Address
    ((3 : ZMod 31) • additive31.generator) ((4 : ZMod 31) • additive31.generator)

/-- The key `7` shared as `3` and `4`, rebound to the holder share `5` and then on to
`9`. -/
theorem lane_rebinding_preserves_key_additive31 : (∃ share delta result,
      sampleEcdsaLaneClientShareV1 additive31 (scalarBytes (5 : ZMod 31)) = .ok share ∧
      deriveEcdsaLaneDeltaFromSourceShare32V1 additive31
        additive31Lane.holderShare32 share = .ok delta ∧
      rebindEcdsaLaneRelayerShareBytesV1 additive31 additive31Address
        additive31Lane.workerShare32 additive31Lane.identity delta share.publicKey33 = .ok result ∧
      result.targetThresholdPublicKey33 = additive31Lane.identity.thresholdPublicKey33) ∧
    ∃ lane', ([5, 9].map (scalarBytes : ZMod 31 → Bytes 32)).foldlM
        (Lane.rebind additive31 additive31Address) additive31Lane = .ok lane' ∧
      lane'.exportKey additive31 additive31Address = .ok (scalarBytes (3 + 4 : ZMod 31)) := by
  obtain ⟨hsound, hcomplete, -, hchain⟩ :=
    lane_rebinding_preserves_key additive31 additive31Address
  constructor
  · obtain ⟨share, delta, result, -, hsample, hderive, hrebind, -, -⟩ :=
      hcomplete 3 4 5 (by decide) (by decide) (by decide) (by decide) (by decide)
    obtain ⟨-, -, -, -, -, -, -, -, -, -, hthreshold, -⟩ := hsound _ _ _ _ _ hrebind
    exact ⟨share, delta, result, hsample, hderive, hrebind, hthreshold⟩
  · exact hchain 3 4 [5, 9] (by decide) (by decide) (by decide) (by decide)

end EcdsaDerivation

end SeamsWallet
