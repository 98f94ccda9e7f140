import SeamsWallet.Recovery.Custody

/-!
# Which recovery codes open a wallet

A set is sealed for a wallet identifier with any number of codes. The wrap of a code is
found again under the trimmed identifier, since both the derivation and the lookup trim
it. The associated data is not: the wrap opens exactly when trimming does not change the
identifier it was sealed for. A code that is not in the set, or another wallet, finds no
wrap.
-/

namespace SeamsWallet.WalletRecovery

open Library SignerCore

/-! ## Encodings -/

theorem requireField_length {label value : String} (h : requireField label value = .ok ()) :
    (stringBytes value).length < 256 ^ 4 := by
  obtain ⟨_, -, h⟩ := bind_eq_ok.mp h
  have hle : (stringBytes value).length ≤ 512 := ensure_eq_ok.mp h
  omega

variable {codeBytes : List UInt8} {walletId id : String} {code : List UInt8}

section

variable {prims : RecoveryPrimitives}

/-- The identifier of a code is derived for wallet identifiers and codes in range. -/
theorem deriveWalletRecoveryKeyId_eq_ok :
    deriveWalletRecoveryKeyId prims walletId codeBytes = .ok id ↔
      requireField "walletId" (trim walletId) = .ok () ∧
        (codeBytes ≠ [] ∧ codeBytes.length ≤ maxRecoveryFieldLen) ∧
        "wallet-rkid-v1-" ++ prims.encodeBase64Url
          (prims.sha256 (recoveryKeyIdTuple prims (trim walletId) codeBytes)).toList = id := by
  simp only [deriveWalletRecoveryKeyId, ok_iff]

variable {walletId' : String} {codeBytes' : List UInt8}

theorem recoveryKeyIdTuple_inj (hwallet : requireField "walletId" walletId = .ok ())
    (hwallet' : requireField "walletId" walletId' = .ok ())
    (hcode : codeBytes.length ≤ maxRecoveryFieldLen)
    (hcode' : codeBytes'.length ≤ maxRecoveryFieldLen)
    (h : recoveryKeyIdTuple prims walletId codeBytes =
      recoveryKeyIdTuple prims walletId' codeBytes') :
    walletId = walletId' ∧ codeBytes = codeBytes' := by
  have hfits : ∀ bytes : List UInt8, bytes.length ≤ maxRecoveryFieldLen →
      (stringBytes (prims.encodeBase64Url bytes)).length < 256 ^ 4 := by
    intro bytes hbytes
    have hle := prims.encodeBase64Url_length bytes
    have hmax : bytes.length ≤ 512 := hbytes
    omega
  rw [recoveryKeyIdTuple, recoveryKeyIdTuple] at h
  obtain ⟨hencoded, h⟩ := pushLen32_append_inj (hfits _ hcode) (hfits _ hcode')
    (List.append_cancel_left h)
  obtain ⟨hid, -⟩ := pushLen32_append_inj (requireField_length hwallet)
    (requireField_length hwallet') h
  exact ⟨stringBytes_injective hid,
    prims.encodeBase64Url_injective (stringBytes_injective hencoded)⟩

/-- The pairs of a wallet and a code that are hashed into identifiers do not collide. -/
def CollisionFree (prims : RecoveryPrimitives) (uses : Set (String × List UInt8)) : Prop :=
  Set.InjOn prims.sha256 ((fun use => recoveryKeyIdTuple prims (trim use.1) use.2) '' uses)

theorem recoveryKeyId_inj {uses : Set (String × List UInt8)} (hsha : CollisionFree prims uses)
    (huse : (walletId, codeBytes) ∈ uses) (huse' : (walletId', codeBytes') ∈ uses)
    (h : deriveWalletRecoveryKeyId prims walletId codeBytes = .ok id)
    (h' : deriveWalletRecoveryKeyId prims walletId' codeBytes' = .ok id) :
    trim walletId = trim walletId' ∧ codeBytes = codeBytes' := by
  obtain ⟨hwallet, ⟨-, hcode⟩, hid⟩ := deriveWalletRecoveryKeyId_eq_ok.mp h
  obtain ⟨hwallet', ⟨-, hcode'⟩, hid'⟩ := deriveWalletRecoveryKeyId_eq_ok.mp h'
  have hencoded := String.append_right_inj _ |>.mp (hid.trans hid'.symm)
  have hdigest := List.Vector.toList_injective (prims.encodeBase64Url_injective hencoded)
  have htuple := hsha (Set.mem_image_of_mem _ huse) (Set.mem_image_of_mem _ huse') hdigest
  exact recoveryKeyIdTuple_inj hwallet hwallet' hcode hcode' htuple

variable {aad : List UInt8} {scope : WalletRecoveryCodeScope}

theorem encodeRecoveryManifestAad_eq_ok (h : encodeRecoveryManifestAad scope = .ok aad) :
    (stringBytes scope.walletId).length < 256 ^ 4 ∧
      aad = labeledStr "context" "seams/wallet-recovery/manifest-kek/aad/v1" ++
        labeledStr "setVersion" setVersion ++ labeledStr "wrapAlg" wrapAlg ++
        labeledStr "walletId" scope.walletId ++
        labeledStr "recoveryKeyId" scope.recoveryKeyId ++
        labeledStr "purpose" "wallet_recovery_manifest_kek" := by
  simp only [encodeRecoveryManifestAad, ok_iff] at h
  exact ⟨requireField_length h.1, h.2.2.symm⟩

theorem encodeRecoveryManifestAad_inj {scope' : WalletRecoveryCodeScope}
    (h : encodeRecoveryManifestAad scope = .ok aad)
    (h' : encodeRecoveryManifestAad scope' = .ok aad) : scope.walletId = scope'.walletId := by
  obtain ⟨hlength, haad⟩ := encodeRecoveryManifestAad_eq_ok h
  obtain ⟨hlength', haad'⟩ := encodeRecoveryManifestAad_eq_ok h'
  rw [haad] at haad'
  simp only [List.append_assoc] at haad'
  have hrest := List.append_cancel_left (List.append_cancel_left (List.append_cancel_left haad'))
  rw [labeledStr, labeledStr, List.append_assoc, List.append_assoc] at hrest
  obtain ⟨hid, -⟩ := pushLen32_append_inj hlength hlength' (List.append_cancel_left hrest)
  exact stringBytes_injective hid

/-! ## Opening what was sealed -/

theorem openBytes_sealBytes {key : Bytes 32} {nonce plaintext ciphertext : List UInt8}
    (hplaintext : plaintext ≠ []) (h : sealBytes prims key nonce aad plaintext = .ok ciphertext) :
    openBytes prims key nonce aad ciphertext = .ok plaintext := by
  obtain ⟨fixed, hnonce, h⟩ := bind_eq_ok.mp h
  have hencrypt := okOr_eq_ok.mp h
  have hlength : 16 < ciphertext.length := by
    have hpos := List.length_pos_iff.mpr hplaintext
    rw [prims.encrypt_length _ _ _ _ _ hencrypt]
    omega
  rw [openBytes, ensure_of hlength, ok_bind, hnonce, ok_bind,
    prims.decrypt_encrypt _ _ _ _ _ hencrypt, okOr_some]

theorem openWalletRecoveryManifestKek_seal {recoveryKeyId : String}
    {nonce manifestKek : List UInt8} {wrap : SealedRecoveryWrap}
    (h : sealWalletRecoveryManifestKek prims codeBytes walletId recoveryKeyId nonce manifestKek =
      .ok wrap) :
    ∃ kek : Bytes 32, kek.toList = manifestKek ∧
      openWalletRecoveryManifestKek prims codeBytes ⟨walletId, recoveryKeyId⟩ nonce
        wrap.ciphertext = .ok kek := by
  simp only [sealWalletRecoveryManifestKek, ok_iff] at h
  obtain ⟨hlength, aad, haad, key, hkey, ciphertext, hseal, rfl⟩ := h
  have hne : manifestKek ≠ [] := by
    rintro rfl
    cases hlength
  refine ⟨⟨manifestKek, hlength⟩, rfl, ?_⟩
  rw [openWalletRecoveryManifestKek, haad, ok_bind, hkey, ok_bind,
    openBytes_sealBytes hne hseal, ok_bind]
  exact okOr_eq_ok.mpr (Bytes.ofList?_toList (⟨manifestKek, hlength⟩ : Bytes 32))

/-- The wrap of a code, stored under its identifier for the wallet. -/
def SealedFor (prims : RecoveryPrimitives) (walletId : String) (manifestKek : List UInt8)
    (code : List UInt8) (wrap : WalletRecoveryManifestKekWrap) : Prop :=
  deriveWalletRecoveryKeyId prims walletId code = .ok wrap.recoveryKeyId ∧
    ∃ aadHash, sealWalletRecoveryManifestKek prims code walletId wrap.recoveryKeyId wrap.nonce
      manifestKek = .ok ⟨wrap.ciphertext, aadHash⟩

/-- What is sealed under one of the keys and associated data is refused under another. -/
def Authentic (prims : RecoveryPrimitives) (uses : Set (Bytes 32 × List UInt8)) : Prop :=
  ∀ use ∈ uses, ∀ use' ∈ uses, use ≠ use' → ∀ nonce message ciphertext,
    prims.encrypt use.1 nonce use.2 message = some ciphertext →
      prims.decrypt use'.1 nonce use'.2 ciphertext = none

/-- The keys and associated data of the wraps, for the identifier as given and trimmed. -/
def wrapUses (prims : RecoveryPrimitives) (walletId : String) (codes : List (List UInt8)) :
    Set (Bytes 32 × List UInt8) :=
  {use | ∃ code ∈ codes, ∃ id wallet, deriveWalletRecoveryKeyId prims walletId code = .ok id ∧
    (wallet = walletId ∨ wallet = trim walletId) ∧
    deriveWalletRecoveryCodeKek prims code ⟨wallet, id⟩ = .ok use.1 ∧
    encodeRecoveryManifestAad ⟨wallet, id⟩ = .ok use.2}

theorem openWalletCustodySeed_eq (h : deriveWalletRecoveryKeyId prims walletId code = .ok id)
    (wraps : List WalletRecoveryManifestKekWrap) (entryNonce entryCiphertext : List UInt8) :
    openWalletCustodySeedWithRecoveryCode prims walletId code wraps entryNonce entryCiphertext =
      match wraps.find? (fun candidate => candidate.recoveryKeyId == id) with
      | none => .ok none
      | some wrap => do
        let manifestKek ← openWalletRecoveryManifestKek prims code ⟨trim walletId, id⟩
          wrap.nonce wrap.ciphertext
        let seed ← openWalletRecoveryEntry prims manifestKek.toList ⟨trim walletId⟩ entryNonce
          entryCiphertext
        return some seed := by
  have hfield := (deriveWalletRecoveryKeyId_eq_ok.mp h).1
  have htrim : trim (trim walletId) = trim walletId := trimBy_trimBy isWhitespace walletId
  have hid : deriveWalletRecoveryKeyId prims (trim walletId) code = .ok id := by
    rw [← h, deriveWalletRecoveryKeyId, deriveWalletRecoveryKeyId, htrim]
  rw [openWalletCustodySeedWithRecoveryCode, hfield, ok_bind, hid, ok_bind]
  rfl

end

section Sets

variable {prims : RecoveryPrimitives} {walletId : String} {manifestKek : List UInt8}
  {entries : List (List UInt8 × WalletRecoveryManifestKekWrap)}
  {uses : Set (String × List UInt8)}
  (hset : ∀ entry ∈ entries, SealedFor prims walletId manifestKek entry.1 entry.2)
include hset

/-- The lookup of a code in the set finds a wrap that was sealed for this code. -/
theorem find_wrap
    (huses : ∀ entry ∈ entries, (walletId, entry.1) ∈ uses) (hsha : CollisionFree prims uses)
    {entry : List UInt8 × WalletRecoveryManifestKekWrap} (hentry : entry ∈ entries) :
    ∃ wrap, (entries.map (·.2)).find?
        (fun candidate => candidate.recoveryKeyId == entry.2.recoveryKeyId) = some wrap ∧
      SealedFor prims walletId manifestKek entry.1 wrap ∧
      wrap.recoveryKeyId = entry.2.recoveryKeyId := by
  have hsome : ((entries.map (·.2)).find?
      (fun candidate => candidate.recoveryKeyId == entry.2.recoveryKeyId)).isSome := by
    rw [List.find?_isSome]
    exact ⟨entry.2, List.mem_map_of_mem hentry, beq_self_eq_true _⟩
  obtain ⟨wrap, hwrap⟩ := Option.isSome_iff_exists.mp hsome
  have hid : wrap.recoveryKeyId = entry.2.recoveryKeyId := by
    simpa using List.find?_some hwrap
  obtain ⟨found, hfound, rfl⟩ := List.mem_map.mp (List.mem_of_find?_eq_some hwrap)
  have hfoundId := (hset found hfound).1
  rw [hid] at hfoundId
  obtain ⟨-, hcode⟩ := recoveryKeyId_inj hsha (huses found hfound) (huses entry hentry) hfoundId
    (hset entry hentry).1
  refine ⟨found.2, hwrap, ?_, hid⟩
  rw [← hcode]
  exact hset found hfound

omit hset

/-- A wrap sealed for an identifier that trimming changes does not open. -/
theorem openManifest_ne_ok (htrim : trim walletId ≠ walletId) {codes : List (List UInt8)}
    (haead : Authentic prims (wrapUses prims walletId codes))
    (hcode : code ∈ codes) {wrap : WalletRecoveryManifestKekWrap}
    (hwrap : SealedFor prims walletId manifestKek code wrap) {kek : Bytes 32} :
    openWalletRecoveryManifestKek prims code ⟨trim walletId, wrap.recoveryKeyId⟩ wrap.nonce
      wrap.ciphertext ≠ .ok kek := by
  intro hopen
  obtain ⟨hid, aadHash, hseal⟩ := hwrap
  simp only [sealWalletRecoveryManifestKek, openWalletRecoveryManifestKek, sealBytes, openBytes,
    ok_iff] at hseal hopen
  obtain ⟨-, aad, haad, key, hkey, ciphertext, ⟨nonce, hnonce, hencrypt⟩, hsealed⟩ := hseal
  have hciphertext := congrArg SealedRecoveryWrap.ciphertext hsealed
  obtain ⟨aad', haad', key', hkey', opened, ⟨-, nonce', hnonce', hdecrypt⟩, -⟩ := hopen
  obtain rfl := Except.ok.inj (hnonce.symm.trans hnonce')
  -- the two uses differ in their associated data, since the wallet identifiers differ
  have hne : (key, aad) ≠ (key', aad') := by
    intro heq
    rw [← (Prod.mk.inj heq).2] at haad'
    exact htrim (encodeRecoveryManifestAad_inj haad' haad)
  have hnone := haead (key, aad) ⟨code, hcode, _, walletId, hid, .inl rfl, hkey, haad⟩
    (key', aad') ⟨code, hcode, _, trim walletId, hid, .inr rfl, hkey', haad'⟩ hne nonce _ _
    hencrypt
  rw [show ciphertext = wrap.ciphertext from hciphertext] at hnone
  cases hnone.symm.trans hdecrypt

end Sets

/-- For every wallet identifier and set of codes that sealing accepts, each code of the set
opens the custody secret exactly when trimming does not change the identifier; and a code
of another wallet, or one outside the set, finds nothing. The hash does not collide on
the wallets and codes in use, and the cipher refuses a wrap under other associated data. -/
theorem recovery_code_opens_wallet (prims : RecoveryPrimitives) (walletId : String)
    (manifestKek entryNonce custodySecret : List UInt8)
    (entries : List (List UInt8 × WalletRecoveryManifestKekWrap)) (seed : SealedRecoveryWrap)
    (uses : Set (String × List UInt8))
    (hset : ∀ entry ∈ entries, SealedFor prims walletId manifestKek entry.1 entry.2)
    (hseed : sealWalletRecoveryEntry prims manifestKek walletId entryNonce custodySecret = .ok seed)
    (huses : ∀ entry ∈ entries, (walletId, entry.1) ∈ uses) (hsha : CollisionFree prims uses)
    (haead : Authentic prims (wrapUses prims walletId (entries.map (·.1)))) :
    (∀ entry ∈ entries,
      openWalletCustodySeedWithRecoveryCode prims walletId entry.1 (entries.map (·.2)) entryNonce
          seed.ciphertext = .ok (some custodySecret) ↔
        trim walletId = walletId) ∧
    ∀ use ∈ uses, ∀ id, deriveWalletRecoveryKeyId prims use.1 use.2 = .ok id →
      trim use.1 ≠ trim walletId ∨ use.2 ∉ entries.map (·.1) →
        openWalletCustodySeedWithRecoveryCode prims use.1 use.2 (entries.map (·.2)) entryNonce
          seed.ciphertext = .ok none := by
  constructor
  · intro entry hentry
    obtain ⟨wrap, hfind, hwrap, hid⟩ := find_wrap hset huses hsha hentry
    rw [openWalletCustodySeed_eq (hset entry hentry).1, hfind, ← hid]
    dsimp only
    constructor
    · intro hopen
      by_contra htrim
      obtain ⟨kek, hkek, -⟩ := bind_eq_ok.mp hopen
      exact openManifest_ne_ok htrim haead (List.mem_map_of_mem hentry) hwrap hkek
    · intro htrim
      obtain ⟨-, aadHash, hseal⟩ := hwrap
      obtain ⟨kek, hkek, hopen⟩ := openWalletRecoveryManifestKek_seal hseal
      simp only [sealWalletRecoveryEntry, ok_iff] at hseed
      obtain ⟨hsecret, aad, haad, key, hkey, ciphertext, hsealed, rfl⟩ := hseed
      rw [htrim, hopen, ok_bind, hkek, openWalletRecoveryEntry, haad, ok_bind, hkey, ok_bind,
        openBytes_sealBytes hsecret.1 hsealed]
      rfl
  · intro use huse id hid hother
    rw [openWalletCustodySeed_eq hid, List.find?_eq_none.mpr]
    intro wrap hwrap hmatch
    obtain ⟨entry, hentry, rfl⟩ := List.mem_map.mp hwrap
    have hderive := (hset entry hentry).1
    rw [eq_of_beq hmatch] at hderive
    obtain ⟨hwallet, hcode⟩ := recoveryKeyId_inj hsha huse (huses entry hentry) hid hderive
    rcases hother with hother | hother
    · exact hother hwallet
    · rw [hcode] at hother
      exact hother (List.mem_map_of_mem hentry)

/-! ### A small cipher -/

namespace SmallCipher

def checksum (bytes : List UInt8) : ℕ := bytes.foldl (fun sum b => sum * 257 + b.toNat + 1) 0

def encode (bytes : List UInt8) : String := String.ofList (bytes.map fun b => Char.ofNat b.toNat)

def tag (aad : List UInt8) : List UInt8 := (toBigEndian 16 (checksum aad)).toList

theorem encode_injective : Function.Injective encode := by
  have hchar : ∀ m < 256, ∀ n < 256, Char.ofNat m = Char.ofNat n → m = n := by
    intro m hm n hn h
    have hvalid : ∀ k < 256, (Char.ofNat k).toNat = k := by decide +kernel
    rw [← hvalid m hm, h, hvalid n hn]
  intro bytes bytes' h
  refine List.map_injective_iff.mpr ?_ (String.ofList_injective h)
  intro b b' hb
  exact UInt8.toNat_inj.mp (hchar _ b.toNat_lt _ b'.toNat_lt hb)

theorem encode_length (bytes : List UInt8) :
    (stringBytes (encode bytes)).length ≤ 2 * bytes.length := by
  have hsize : ∀ n < 256, (Char.ofNat n).utf8Size ≤ 2 := by decide +kernel
  change (encode bytes).utf8ByteSize ≤ 2 * bytes.length
  rw [encode, String.utf8ByteSize_ofList]
  induction bytes with
  | nil => rfl
  | cons b bytes ih =>
    have hb := hsize b.toNat b.toNat_lt
    rw [List.map_cons, String.utf8Len_cons, List.length_cons]
    omega

/-- The message itself, followed by a checksum of the associated data. -/
def prims : RecoveryPrimitives where
  sha256 bytes := toBigEndian 32 (checksum bytes)
  hkdf salt key info := some (toBigEndian 32 (checksum (salt ++ key ++ info)))
  encodeBase64Url := encode
  encodeBase64Url_injective := encode_injective
  encodeBase64Url_length := encode_length
  encrypt _ _ aad message := some (message ++ tag aad)
  decrypt _ _ aad ciphertext :=
    if ciphertext.drop (ciphertext.length - 16) = tag aad then
      some (ciphertext.take (ciphertext.length - 16))
    else none
  encrypt_length := by
    intro key nonce aad message ciphertext h
    cases h
    simp [tag]
  decrypt_encrypt := by
    intro key nonce aad message ciphertext h
    cases h
    simp [tag]

theorem authentic {uses : Set (Bytes 32 × List UInt8)}
    (h : ∀ use ∈ uses, ∀ use' ∈ uses, use ≠ use' → tag use.2 ≠ tag use'.2) :
    Authentic prims uses := by
  intro use huse use' huse' hne nonce message ciphertext hencrypt
  cases hencrypt
  refine if_neg ?_
  have hlength : (tag use.2).length = 16 := by simp [tag]
  rw [List.length_append, hlength, Nat.add_sub_cancel, List.drop_left]
  exact h use huse use' huse' hne

def kek : List UInt8 := (toBigEndian 32 5).toList

def nonce : List UInt8 := (toBigEndian 12 1).toList

def idFor (walletId : String) (code : List UInt8) : String :=
  (deriveWalletRecoveryKeyId prims walletId code).toOption.getD ""

def sealedFor (walletId : String) (code : List UInt8) : SealedRecoveryWrap :=
  (sealWalletRecoveryManifestKek prims code walletId (idFor walletId code) nonce
    kek).toOption.getD ⟨[], Bytes.zeros 32⟩

def wrapFor (walletId : String) (code : List UInt8) : WalletRecoveryManifestKekWrap :=
  ⟨idFor walletId code, nonce, (sealedFor walletId code).ciphertext⟩

def seedFor (walletId : String) : SealedRecoveryWrap :=
  (sealWalletRecoveryEntry prims kek walletId nonce [7]).toOption.getD ⟨[], Bytes.zeros 32⟩

def useFor (walletId : String) (code : List UInt8) : Bytes 32 × List UInt8 :=
  ((deriveWalletRecoveryCodeKek prims code ⟨walletId, idFor walletId code⟩).toOption.getD
      (Bytes.zeros 32),
    (encodeRecoveryManifestAad ⟨walletId, idFor walletId code⟩).toOption.getD [])

theorem eq_useFor (htrim : trim walletId = walletId)
    {codes : List (List UInt8)} {use : Bytes 32 × List UInt8}
    (h : use ∈ wrapUses prims walletId codes) : ∃ code ∈ codes, useFor walletId code = use := by
  obtain ⟨code, hcode, id, wallet, hid, hwallet, hkey, haad⟩ := h
  rw [htrim, or_self] at hwallet
  subst hwallet
  have hidFor : idFor wallet code = id := by
    rw [idFor, hid]
    rfl
  refine ⟨code, hcode, ?_⟩
  rw [useFor, hidFor, hkey, haad]
  rfl

end SmallCipher

open SmallCipher in
/-- Two codes of a wallet: the second one opens, and for another wallet it finds nothing. -/
theorem recovery_code_opens_wallet_second :
    openWalletCustodySeedWithRecoveryCode prims "w" [2] [wrapFor "w" [1], wrapFor "w" [2]] nonce
        (seedFor "w").ciphertext = .ok (some [7]) ∧
      openWalletCustodySeedWithRecoveryCode prims "v" [2] [wrapFor "w" [1], wrapFor "w" [2]] nonce
        (seedFor "w").ciphertext = .ok none := by
  have hset : ∀ entry ∈ [([1], wrapFor "w" [1]), ([2], wrapFor "w" [2])],
      SealedFor prims "w" kek entry.1 entry.2 := by
    rw [List.forall_mem_cons, List.forall_mem_singleton]
    exact ⟨⟨by decide +kernel, (sealedFor "w" [1]).aadHash, by decide +kernel⟩,
      ⟨by decide +kernel, (sealedFor "w" [2]).aadHash, by decide +kernel⟩⟩
  have hsha : CollisionFree prims {use | use ∈ [("w", [1]), ("w", [2]), ("v", [2])]} := by
    have hpairs : ∀ use ∈ [("w", [1]), ("w", [2]), ("v", [2])],
        ∀ use' ∈ [("w", [1]), ("w", [2]), ("v", [2])],
          prims.sha256 (recoveryKeyIdTuple prims (trim use.1) use.2) =
            prims.sha256 (recoveryKeyIdTuple prims (trim use'.1) use'.2) → use = use' := by
      decide +kernel
    rintro _ ⟨use, huse, rfl⟩ _ ⟨use', huse', rfl⟩ h
    rw [hpairs use huse use' huse' h]
  have haead : Authentic prims (wrapUses prims "w" [[1], [2]]) := by
    have hpairs : ∀ code ∈ [[1], [2]], ∀ code' ∈ [[1], [2]], useFor "w" code ≠ useFor "w" code' →
          tag (useFor "w" code).2 ≠ tag (useFor "w" code').2 := by
      decide +kernel
    refine authentic fun use huse use' huse' => ?_
    obtain ⟨code, hcode, rfl⟩ := eq_useFor (by decide +kernel) huse
    obtain ⟨code', hcode', rfl⟩ := eq_useFor (by decide +kernel) huse'
    exact hpairs code hcode code' hcode'
  obtain ⟨hopen, hnone⟩ := recovery_code_opens_wallet prims "w" kek nonce [7]
    [([1], wrapFor "w" [1]), ([2], wrapFor "w" [2])] (seedFor "w") _ hset (by decide +kernel)
    (by decide) hsha haead
  exact ⟨(hopen ([2], wrapFor "w" [2]) (by simp)).mpr (by decide +kernel),
    hnone ("v", [2]) (by decide) (idFor "v" [2]) (by decide +kernel) (.inl (by decide +kernel))⟩

open SmallCipher in
/-- A wallet identifier with a space in front is sealed as it is and opened trimmed. -/
theorem recovery_untrimmed_wallet_fails : SealedFor prims " w" kek [1] (wrapFor " w" [1]) ∧
      sealWalletRecoveryEntry prims kek " w" nonce [7] = .ok (seedFor " w") ∧
      openWalletCustodySeedWithRecoveryCode prims " w" [1] [wrapFor " w" [1]] nonce
        (seedFor " w").ciphertext = .error (cryptoError "wallet recovery open failed") :=
  ⟨⟨by decide +kernel, (sealedFor " w" [1]).aadHash, by decide +kernel⟩, by decide +kernel,
    by decide +kernel⟩

end SeamsWallet.WalletRecovery
