import SeamsWallet.Ecdsa.RelayerShare
import SeamsWallet.Ecdsa.LaneRebind

/-!
# The two role shares of a derived key

The client derives its share from its own root, the relayer from its root and the client's
public key. The key is the sum of the shares: its public identity is composed from the two
public keys alone, and an export checks the sum of the scalars against it.
-/

namespace SeamsWallet.EcdsaDerivation

open Library RouterAbEcdsaDerivationError K256

structure ClientRoleShare where
  contextBytes : List UInt8
  contextBinding32 : Bytes 32
  retryCounter : ℕ
  xClient32 : Bytes 32
  derivationClientSharePublicKey33 : Bytes 33

section Roles

variable {n : ℕ} [Fact n.Prime] {P : Type} [AddCommGroup P] [Module (ZMod n) P] [DecidableEq P]
  (K : K256 n P) (H : AddressHash P) (R : DerivationHash n)

def deriveClientShare (context : RouterAbEcdsaDerivationStableKeyContext) (yClient32Le : Bytes 32) :
    RouterAbEcdsaDerivationResult ClientRoleShare := do
  let contextBytes := encodeContext context
  let contextBinding32 ← contextBindingFromBytes R contextBytes
  let xClient32 ← deriveRoleShare32 R
    (stringBytes "router-ab-ecdsa-derivation/role-local/client-share/v1") contextBytes
    contextBinding32 yClient32Le 0
  let key33 ← privateKeyToPublicKey33 K xClient32 "client role public key"
  return ⟨contextBytes, contextBinding32, 0, xClient32, key33⟩

def composePublicIdentityFromPublicKeys (context : RouterAbEcdsaDerivationStableKeyContext)
    (derivationClientSharePublicKey33 : Bytes 33) (clientShareRetryCounter : ℕ)
    (relayerPublicKey33 : Bytes 33) (relayerShareRetryCounter : ℕ) :
    RouterAbEcdsaDerivationResult PublicIdentity := do
  let contextBytes := encodeContext context
  let contextBinding32 ← contextBindingFromBytes R contextBytes
  let clientKey33 ← validatePublicKey33 K derivationClientSharePublicKey33 "client public key"
  let relayerKey33 ← validatePublicKey33 K relayerPublicKey33 "relayer public key"
  let thresholdKey33 ← addPublicKeysNonIdentity33 K clientKey33 relayerKey33
    "threshold public key"
  let address20 ← publicKeyToAddress20 K H thresholdKey33 "threshold ethereum address"
  return ⟨contextBytes, contextBinding32, clientKey33, relayerKey33, thresholdKey33, address20,
    clientShareRetryCounter, relayerShareRetryCounter⟩

def reconstructExportKey (clientShare : ClientRoleShare) (relayerExportShare32 : Bytes 32)
    (identity : PublicIdentity) : RouterAbEcdsaDerivationResult (Bytes 32) := do
  ensure (clientShare.contextBinding32 = identity.contextBinding32)
    (invalidInput "client share context binding does not match public identity")
  ensure (clientShare.retryCounter = identity.clientShareRetryCounter)
    (invalidInput "client share retry counter does not match public identity")
  ensure (clientShare.derivationClientSharePublicKey33 = identity.derivationClientSharePublicKey33)
    (invalidInput "client public key does not match public identity")
  let xClient ← parseNonzeroScalar32Be n clientShare.xClient32.toList "x_client32"
  let xRelayer ← parseNonzeroScalar32Be n relayerExportShare32.toList "relayer_export_share32"
  let xExport ← okOr (NonZeroScalar.new (xClient.val + xRelayer.val))
    (invalidInput "export key reconstructed to zero")
  let xExport32 := scalarBytes xExport.val
  let publicKey33 ← privateKeyToPublicKey33 K xExport32 "export public key"
  ensure (publicKey33 = identity.thresholdPublicKey33)
    (invalidInput "export public key does not match threshold public key")
  let address20 ← publicKeyToAddress20 K H publicKey33 "export ethereum address"
  ensure (address20 = identity.thresholdEthereumAddress20)
    (invalidInput "export ethereum address does not match threshold address")
  return xExport32

/-! ## Shares and identities -/

variable {K H R} {context : RouterAbEcdsaDerivationStableKeyContext} {y : Bytes 32} {counter : ℕ}
  {share : RelayerRoleShare} {identity : PublicIdentity}

theorem exists_scalar_of_roleShare {domain contextBytes : List UInt8} {binding x : Bytes 32}
    {key : Bytes 33} {fieldName : String}
    (hx : deriveRoleShare32 R domain contextBytes binding y counter = .ok x)
    (hkey : privateKeyToPublicKey33 K x fieldName = .ok key) :
    ∃ s : ZMod n, s ≠ 0 ∧ x = scalarBytes s ∧ key = K.pointBytes (s • K.generator) := by
  obtain ⟨frame, -, hx⟩ := bind_eq_ok.mp hx
  obtain rfl := pure_eq_ok.mp hx
  obtain ⟨s, hs, hrepr, rfl⟩ := (privateKeyToPublicKey33_eq_ok K).mp hkey
  rw [scalarFromRepr_scalarBytes K.order_le, Option.some.injEq] at hrepr
  exact ⟨s, hs, by rw [hrepr], rfl⟩

/-- What a share says of its context, its scalar and its key. -/
def RelayerRoleShare.HasScalar (K : K256 n P) (R : DerivationHash n)
    (context : RouterAbEcdsaDerivationStableKeyContext) (counter : ℕ) (s : ZMod n)
    (share : RelayerRoleShare) : Prop :=
  s ≠ 0 ∧ contextBindingFromBytes R (encodeContext context) = .ok share.contextBinding32 ∧
    share.retryCounter = counter ∧ share.xRelayer32 = scalarBytes s ∧
    share.relayerPublicKey33 = K.pointBytes (s • K.generator)

theorem deriveRelayerShareWithRetry_eq_ok
    (h : deriveRelayerShareWithRetry K R context y counter = .ok share) :
    ∃ s, share.HasScalar K R context counter s := by
  simp only [deriveRelayerShareWithRetry, ok_iff] at h
  obtain ⟨binding, hbinding, x, hx, key, hkey, rfl⟩ := h
  obtain ⟨s, hs, rfl, rfl⟩ := exists_scalar_of_roleShare hx hkey
  exact ⟨s, hs, hbinding, rfl, rfl, rfl⟩

variable (K H) in
def identityOf (context : RouterAbEcdsaDerivationStableKeyContext) (binding : Bytes 32) (A B : P)
    (clientCounter relayerCounter : ℕ) : PublicIdentity :=
  ⟨encodeContext context, binding, K.pointBytes A, K.pointBytes B, K.pointBytes (A + B),
    ethereumAddress K H (A + B), clientCounter, relayerCounter⟩

variable {A B : P} {s c : ZMod n} {clientCounter : ℕ}

theorem composePublicIdentity_eq_ok (hA : A ≠ 0) (hshare : share.HasScalar K R context counter s) :
    composePublicIdentity K H R context (K.pointBytes A) clientCounter share = .ok identity ↔
      A + s • K.generator ≠ 0 ∧ identity = identityOf K H context share.contextBinding32 A
        (s • K.generator) clientCounter counter := by
  obtain ⟨hs, hbinding, rfl, -, hkey⟩ := hshare
  have hB : s • K.generator ≠ 0 := smul_ne_zero hs K.generator_ne_zero
  have hvalid : ∀ Q : P, Q ≠ 0 → ∀ field, validatePublicKey33 K (K.pointBytes Q) field =
      .ok (K.pointBytes Q) := fun Q hQ _ => (validatePublicKey33_eq_ok K).mpr ⟨Q, hQ, rfl, rfl⟩
  simp only [composePublicIdentity, hbinding, ok_bind, ensure_of, hkey, hvalid A hA, hvalid _ hB,
    ok_iff, addPublicKeysNonIdentity33_eq_ok K hA hB]
  constructor
  · rintro ⟨_, ⟨hsum, rfl⟩, address, haddress, rfl⟩
    rw [publicKeyToAddress20_pointBytes K H hsum, Except.ok.injEq] at haddress
    exact ⟨hsum, by rw [identityOf, ← haddress]⟩
  · rintro ⟨hsum, rfl⟩
    exact ⟨_, ⟨hsum, rfl⟩, _, publicKeyToAddress20_pointBytes K H hsum _, rfl⟩

/-- The loop stops at the first counter for which the identity can be composed. -/
theorem deriveRelayerShareFrom_eq_ok {key33 : Bytes 33} {left : ℕ}
    (h : deriveRelayerShareFrom K H R context y key33 clientCounter left counter =
      .ok (share, identity)) :
    ∃ last, deriveRelayerShareWithRetry K R context y last = .ok share ∧
      composePublicIdentity K H R context key33 clientCounter share = .ok identity ∧
      ∀ earlier, counter ≤ earlier → earlier < last → ∃ refused,
        deriveRelayerShareWithRetry K R context y earlier = .ok refused ∧ ∀ identity,
          composePublicIdentity K H R context key33 clientCounter refused ≠ .ok identity := by
  induction left generalizing counter with
  | zero => cases h
  | succ left ih =>
    obtain ⟨first, hfirst, h⟩ := bind_eq_ok.mp h
    split at h
    · rename_i hidentity
      cases h
      exact ⟨counter, hfirst, hidentity, fun _ _ _ => by omega⟩
    · rename_i error herror
      split_ifs at h
      obtain ⟨last, hlast, hidentity, hrefused⟩ := ih h
      refine ⟨last, hlast, hidentity, fun earlier hle hlt => ?_⟩
      rcases Nat.eq_or_lt_of_le hle with rfl | hlt'
      · exact ⟨first, hfirst, fun identity hok => by cases herror.symm.trans hok⟩
      · exact hrefused earlier hlt' hlt

/-- A key is exported from exactly one relayer share. -/
theorem reconstructExportKey_eq_ok {client : ClientRoleShare} (H : AddressHash P)
    (context : RouterAbEcdsaDerivationStableKeyContext) (counter : ℕ) (x key : Bytes 32)
    (hc : c ≠ 0) (hs : s ≠ 0) (hsum : c + s ≠ 0) (hx : client.xClient32 = scalarBytes c)
    (hkey : client.derivationClientSharePublicKey33 = K.pointBytes (c • K.generator)) :
    reconstructExportKey K H client x (identityOf K H context client.contextBinding32
        (c • K.generator) (s • K.generator) client.retryCounter counter) = .ok key ↔
      x = scalarBytes s ∧ key = scalarBytes (c + s) := by
  have hgen : ∀ t : ZMod n, t ≠ 0 → t • K.generator ≠ 0 :=
    fun t ht => smul_ne_zero ht K.generator_ne_zero
  have hthreshold : c • K.generator + s • K.generator = (c + s) • K.generator :=
    (add_smul _ _ _).symm
  simp only [reconstructExportKey, identityOf, hkey, hx, hthreshold, ok_iff,
    parseNonzeroScalar32Be_eq_ok, true_and, privateKeyToPublicKey33_eq_ok,
    NonZeroScalar.new_eq_some, scalarFromRepr_eq_some K.order_le]
  constructor
  · rintro ⟨a, ha, b, rfl, e, he, _, ⟨t, ht, het, rfl⟩, hpoint, _, -, -, rfl⟩
    obtain rfl := smul_left_injective _ K.generator_ne_zero
      (K.pointBytes_injective (hgen t ht) (hgen _ hsum) hpoint)
    have hac := scalarBytes_injective K.order_le ha
    have hes := scalarBytes_injective K.order_le het
    rw [← hes, hac, add_right_inj] at he
    exact ⟨by rw [he], by rw [hes]⟩
  · rintro ⟨rfl, rfl⟩
    exact ⟨⟨c, hc⟩, rfl, ⟨s, hs⟩, rfl, ⟨c + s, hsum⟩, rfl, _, ⟨c + s, hsum, rfl, rfl⟩, rfl, _,
      publicKeyToAddress20_pointBytes K H (hgen _ hsum) _, rfl, rfl⟩

/-! ## Agreement -/

variable {client : ClientRoleShare} {yClient yRelayer : Bytes 32}

/-- The relayer's counter is the least one whose key does not cancel the client's, the identity
is the one of the two public keys, and its key is the sum of the two shares and of no
others. -/
theorem role_derivation_consistent (hclient : deriveClientShare K R context yClient = .ok client)
    (hrelayer : deriveRelayerShareForClientPublic K H R context yRelayer
      client.derivationClientSharePublicKey33 client.retryCounter = .ok (share, identity)) :
    ∃ c r : ZMod n, scalarFromRepr n client.xClient32 = some c ∧
      scalarFromRepr n share.xRelayer32 = some r ∧
      deriveRelayerShareWithRetry K R context yRelayer share.retryCounter = .ok share ∧
      c • K.generator + r • K.generator ≠ 0 ∧
      (∀ earlier < share.retryCounter, ∃ refused s,
        deriveRelayerShareWithRetry K R context yRelayer earlier = .ok refused ∧
        scalarFromRepr n refused.xRelayer32 = some s ∧
        c • K.generator + s • K.generator = 0) ∧
      composePublicIdentityFromPublicKeys K H R context client.derivationClientSharePublicKey33
        client.retryCounter share.relayerPublicKey33 share.retryCounter = .ok identity ∧
      reconstructExportKey K H client share.xRelayer32 identity = .ok (scalarBytes (c + r)) ∧
      identity.thresholdPublicKey33 = K.pointBytes ((c + r) • K.generator) ∧
      identity.thresholdEthereumAddress20 = ethereumAddress K H ((c + r) • K.generator) ∧
      ∀ x ≠ share.xRelayer32, ∃ error, reconstructExportKey K H client x identity = .error error
    := by
  simp only [deriveClientShare, ok_iff] at hclient
  obtain ⟨binding, hbinding, x, hscalar, key, hpoint, hclient⟩ := hclient
  obtain ⟨c, hc, rfl, rfl⟩ := exists_scalar_of_roleShare hscalar hpoint
  have hx : client.xClient32 = scalarBytes c := by rw [← hclient]
  have hkey : client.derivationClientSharePublicKey33 = K.pointBytes (c • K.generator) := by
    rw [← hclient]
  have hC : c • K.generator ≠ 0 := smul_ne_zero hc K.generator_ne_zero
  obtain ⟨_, hvalid, hloop⟩ := bind_eq_ok.mp hrelayer
  obtain ⟨-, -, -, rfl⟩ := (validatePublicKey33_eq_ok K).mp hvalid
  obtain ⟨last, hlast, hidentity, hrefused⟩ := deriveRelayerShareFrom_eq_ok hloop
  obtain ⟨r, hshare⟩ := deriveRelayerShareWithRetry_eq_ok hlast
  obtain ⟨_, hbound, hcomposed⟩ := bind_eq_ok.mp hidentity
  obtain ⟨_, -, hcomposed⟩ := bind_eq_ok.mp hcomposed
  rw [hkey, composePublicIdentity_eq_ok hC hshare] at hidentity
  obtain ⟨hne, rfl⟩ := hidentity
  obtain ⟨hr, hbinding', rfl, hxr, -⟩ := hshare
  have hsame : client.contextBinding32 = share.contextBinding32 := by
    rw [← hclient]
    exact Except.ok.inj (hbinding.symm.trans hbinding')
  have hsum : c + r ≠ 0 := fun h0 => hne (by rw [← add_smul, h0, zero_smul])
  have hexport := fun x key => reconstructExportKey_eq_ok (K := K) H context share.retryCounter x
    key hc hr hsum hx hkey
  rw [hsame] at hexport
  refine ⟨c, r, ?_, ?_, hlast, hne, fun earlier hlt => ?_,
    bind_eq_ok.mpr ⟨_, hbound, hcomposed⟩, (hexport _ _).mpr ⟨hxr, rfl⟩, ?_, ?_,
    fun x hother => ?_⟩
  · rw [hx, scalarFromRepr_scalarBytes K.order_le]
  · rw [hxr, scalarFromRepr_scalarBytes K.order_le]
  · obtain ⟨refused, hok, hnone⟩ := hrefused earlier (Nat.zero_le _) hlt
    obtain ⟨s, hs⟩ := deriveRelayerShareWithRetry_eq_ok hok
    refine ⟨refused, s, hok, ?_, ?_⟩
    · rw [hs.2.2.2.1, scalarFromRepr_scalarBytes K.order_le]
    · by_contra hopen
      rw [hkey] at hnone
      exact hnone _ ((composePublicIdentity_eq_ok hC hs).mpr ⟨hopen, rfl⟩)
  · rw [identityOf, add_smul]
  · rw [identityOf, add_smul]
  · cases hresult : reconstructExportKey K H client x _ with
    | error error => exact ⟨error, rfl⟩
    | ok key => exact absurd (((hexport x key).mp hresult).1.trans hxr.symm) hother

end Roles

/-- Digests that add up the bytes of their input. -/
def byteSumHash : DerivationHash 31 where
  sha256 input := toBigEndian 32 (input.map UInt8.toNat).sum
  sha512 input := toBigEndian 64 (input.map UInt8.toNat).sum
  reduceSha512DigestToNonzeroScalar digest :=
    (NonZeroScalar.new (ofBigEndian digest.toList : ZMod 31)).getD ⟨1, fun h => by cases h⟩

/-- The client's scalar is `12` and the relayer's first one `19`, so the second, `20`, is used. -/
theorem role_derivation_consistent_after_retry : ∃ client share identity,
      deriveClientShare additive31 byteSumHash ⟨Bytes.zeros 32⟩ (Bytes.zeros 32) = .ok client ∧
      deriveRelayerShareForClientPublic additive31 additive31Address byteSumHash
        ⟨Bytes.zeros 32⟩ (toBigEndian 32 14) client.derivationClientSharePublicKey33
        client.retryCounter = .ok (share, identity) ∧
      share.retryCounter = 1 ∧ ∃ c r : ZMod 31,
        reconstructExportKey additive31 additive31Address client share.xRelayer32 identity =
          .ok (scalarBytes (c + r)) := by
  have hrun : (deriveClientShare additive31 byteSumHash ⟨Bytes.zeros 32⟩ (Bytes.zeros 32)
      >>= fun client => deriveRelayerShareForClientPublic additive31 additive31Address
        byteSumHash ⟨Bytes.zeros 32⟩ (toBigEndian 32 14) client.derivationClientSharePublicKey33
        client.retryCounter >>= fun made => pure made.1.retryCounter) = .ok 1 := by
    decide +kernel
  simp only [ok_iff] at hrun
  obtain ⟨client, hclient, ⟨share, identity⟩, hrelayer, hcounter⟩ := hrun
  obtain ⟨c, r, -, -, -, -, -, -, hexport, -⟩ := role_derivation_consistent hclient hrelayer
  exact ⟨client, share, identity, hclient, hrelayer, hcounter, c, r, hexport⟩

end SeamsWallet.EcdsaDerivation
