import SeamsWallet.Ed25519.SignerCore

/-!
# Recovery envelope sets of a wallet

A recovery code opens the custody seed of a wallet in two levels: the code gives a key
that opens the manifest key, and the manifest key gives a key that opens the seed. Each
level binds the wallet in its associated data. A stored wrap is found by an identifier
derived from the wallet and the code.

The functions trim the wallet identifier at different places: deriving the identifier of
a code and opening trim it, sealing binds it as it was given.
-/

namespace SeamsWallet.WalletRecovery

open Library SignerCore

/-! ## The primitives -/

/-- SHA-256, HKDF over SHA-256 expanded to 32 bytes (salt, key material, info), base64url
and ChaCha20-Poly1305, with what their crates document: distinct bytes are written
differently and with at most two characters per byte, a ciphertext is sixteen bytes longer
than the message and opens to it. -/
structure RecoveryPrimitives where
  sha256 : List UInt8 → Bytes 32
  hkdf : List UInt8 → List UInt8 → List UInt8 → Option (Bytes 32)
  encodeBase64Url : List UInt8 → String
  encodeBase64Url_injective : Function.Injective encodeBase64Url
  encodeBase64Url_length : ∀ bytes, (stringBytes (encodeBase64Url bytes)).length ≤ 2 * bytes.length
  encrypt : Bytes 32 → Bytes 12 → List UInt8 → List UInt8 → Option (List UInt8)
  decrypt : Bytes 32 → Bytes 12 → List UInt8 → List UInt8 → Option (List UInt8)
  encrypt_length : ∀ key nonce aad message ciphertext,
    encrypt key nonce aad message = some ciphertext → ciphertext.length = message.length + 16
  decrypt_encrypt : ∀ key nonce aad message ciphertext,
    encrypt key nonce aad message = some ciphertext →
      decrypt key nonce aad ciphertext = some message

def invalidInput (message : String) : SignerCoreError := ⟨.invalidInput, message⟩

def invalidLength (message : String) : SignerCoreError := ⟨.invalidLength, message⟩

def cryptoError (message : String) : SignerCoreError := ⟨.cryptoError, message⟩

/-! ## Fields -/

def setVersion : String := "wallet_recovery_envelope_set_v1"

def wrapAlg : String := "chacha20poly1305-hkdf-sha256-v1"

def maxRecoveryFieldLen : ℕ := 512

def maxCustodySecretLen : ℕ := 1024

def requireField (label value : String) : CoreResult Unit := do
  ensure (value ≠ "") (invalidInput s!"{label} must not be empty")
  ensure ((stringBytes value).length ≤ maxRecoveryFieldLen)
    (invalidInput s!"{label} exceeds the maximum recovery binding field length")

def requireNonce (nonce : List UInt8) : CoreResult (Bytes 12) :=
  okOr (Bytes.ofList? 12 nonce) (invalidLength "wallet recovery nonce must be 12 bytes")

def labeledStr (label value : String) : List UInt8 :=
  pushLen32 (stringBytes label) ++ pushLen32 (stringBytes value)

/-! ## Identifiers of codes -/

variable (prims : RecoveryPrimitives)

def recoveryKeyIdTuple (walletId : String) (codeBytes : List UInt8) : List UInt8 :=
  pushLen32 (stringBytes "seams/wallet-recovery/recovery-key-id/v1") ++
    (pushLen32 (stringBytes (prims.encodeBase64Url codeBytes)) ++
      (pushLen32 (stringBytes walletId) ++ pushLen32 (stringBytes setVersion)))

def deriveWalletRecoveryKeyId (walletId : String) (codeBytes : List UInt8) : CoreResult String := do
  let walletId := trim walletId
  requireField "walletId" walletId
  ensure (codeBytes ≠ [] ∧ codeBytes.length ≤ maxRecoveryFieldLen)
    (invalidLength "recovery code bytes are out of range")
  return "wallet-rkid-v1-" ++ prims.encodeBase64Url
    (prims.sha256 (recoveryKeyIdTuple prims walletId codeBytes)).toList

/-! ## Associated data and keys -/

structure WalletRecoveryCodeScope where
  walletId : String
  recoveryKeyId : String

structure WalletRecoveryEntryScope where
  walletId : String

structure SealedRecoveryWrap where
  ciphertext : List UInt8
  aadHash : Bytes 32
  deriving DecidableEq

def encodeRecoveryManifestAad (scope : WalletRecoveryCodeScope) : CoreResult (List UInt8) := do
  requireField "walletId" scope.walletId
  requireField "recoveryKeyId" scope.recoveryKeyId
  return labeledStr "context" "seams/wallet-recovery/manifest-kek/aad/v1" ++
    labeledStr "setVersion" setVersion ++ labeledStr "wrapAlg" wrapAlg ++
    labeledStr "walletId" scope.walletId ++ labeledStr "recoveryKeyId" scope.recoveryKeyId ++
    labeledStr "purpose" "wallet_recovery_manifest_kek"

def encodeRecoveryEntryAad (scope : WalletRecoveryEntryScope) : CoreResult (List UInt8) := do
  requireField "walletId" scope.walletId
  return labeledStr "context" "seams/wallet-recovery/entry/aad/v1" ++
    labeledStr "setVersion" setVersion ++ labeledStr "wrapAlg" wrapAlg ++
    labeledStr "walletId" scope.walletId ++
    labeledStr "custodySecretKind" "wallet_custody_seed_v1" ++ labeledStr "scope" "wallet"

variable (recoveryCodeBytes : List UInt8)

def deriveWalletRecoveryCodeKek (scope : WalletRecoveryCodeScope) : CoreResult (Bytes 32) := do
  ensure (recoveryCodeBytes ≠ []) (invalidInput "recovery code bytes must not be empty")
  let aad ← encodeRecoveryManifestAad scope
  okOr (prims.hkdf (stringBytes "seams/wallet-recovery/code-kek/salt/v1") recoveryCodeBytes
      (stringBytes "seams/wallet-recovery/code-kek/info/v1" ++ (prims.sha256 aad).toList))
    ⟨.hkdfError, "wallet recovery code KEK derivation failed"⟩

def manifestKekLength : SignerCoreError :=
  invalidLength "wallet recovery manifest KEK must be 32 bytes"

variable (manifestKek : List UInt8)

def deriveWalletRecoveryEntryKek (scope : WalletRecoveryEntryScope) : CoreResult (Bytes 32) := do
  ensure (manifestKek.length = 32) manifestKekLength
  let aad ← encodeRecoveryEntryAad scope
  okOr (prims.hkdf (stringBytes "seams/wallet-recovery/entry-kek/salt/v1") manifestKek
      (stringBytes "seams/wallet-recovery/entry-kek/info/v1" ++ (prims.sha256 aad).toList))
    ⟨.hkdfError, "wallet recovery entry KEK derivation failed"⟩

/-! ## Sealing and opening -/

def sealBytes (key : Bytes 32) (nonce aad plaintext : List UInt8) : CoreResult (List UInt8) := do
  let nonce ← requireNonce nonce
  okOr (prims.encrypt key nonce aad plaintext) (cryptoError "wallet recovery seal failed")

def openBytes (key : Bytes 32) (nonce aad ciphertext : List UInt8) : CoreResult (List UInt8) := do
  ensure (16 < ciphertext.length)
    (invalidLength "wallet recovery ciphertext is shorter than its authentication tag")
  let nonce ← requireNonce nonce
  okOr (prims.decrypt key nonce aad ciphertext) (cryptoError "wallet recovery open failed")

def sealWalletRecoveryManifestKek (walletId recoveryKeyId : String)
    (nonce manifestKek : List UInt8) : CoreResult SealedRecoveryWrap := do
  ensure (manifestKek.length = 32) manifestKekLength
  let scope : WalletRecoveryCodeScope := ⟨walletId, recoveryKeyId⟩
  let aad ← encodeRecoveryManifestAad scope
  let codeKek ← deriveWalletRecoveryCodeKek prims recoveryCodeBytes scope
  let ciphertext ← sealBytes prims codeKek nonce aad manifestKek
  return ⟨ciphertext, prims.sha256 aad⟩

def openWalletRecoveryManifestKek (scope : WalletRecoveryCodeScope)
    (nonce ciphertext : List UInt8) : CoreResult (Bytes 32) := do
  let aad ← encodeRecoveryManifestAad scope
  let codeKek ← deriveWalletRecoveryCodeKek prims recoveryCodeBytes scope
  let opened ← openBytes prims codeKek nonce aad ciphertext
  okOr (Bytes.ofList? 32 opened) manifestKekLength

def sealWalletRecoveryEntry (walletId : String) (nonce custodySecret : List UInt8) :
    CoreResult SealedRecoveryWrap := do
  ensure (custodySecret ≠ [] ∧ custodySecret.length ≤ maxCustodySecretLen)
    (invalidInput "custody secret length is invalid")
  let scope : WalletRecoveryEntryScope := ⟨walletId⟩
  let aad ← encodeRecoveryEntryAad scope
  let entryKek ← deriveWalletRecoveryEntryKek prims manifestKek scope
  let ciphertext ← sealBytes prims entryKek nonce aad custodySecret
  return ⟨ciphertext, prims.sha256 aad⟩

def openWalletRecoveryEntry (scope : WalletRecoveryEntryScope) (nonce ciphertext : List UInt8) :
    CoreResult (List UInt8) := do
  let aad ← encodeRecoveryEntryAad scope
  let entryKek ← deriveWalletRecoveryEntryKek prims manifestKek scope
  openBytes prims entryKek nonce aad ciphertext

structure WalletRecoveryManifestKekWrap where
  recoveryKeyId : String
  nonce : List UInt8
  ciphertext : List UInt8

def openWalletCustodySeedWithRecoveryCode (walletId : String)
    (recoveryCodeBytes : List UInt8) (wraps : List WalletRecoveryManifestKekWrap)
    (entryNonce entryCiphertext : List UInt8) : CoreResult (Option (List UInt8)) := do
  let walletId := trim walletId
  requireField "walletId" walletId
  let recoveryKeyId ← deriveWalletRecoveryKeyId prims walletId recoveryCodeBytes
  match wraps.find? (fun candidate => candidate.recoveryKeyId == recoveryKeyId) with
  | none => return none
  | some wrap => do
    let manifestKek ← openWalletRecoveryManifestKek prims recoveryCodeBytes
      ⟨walletId, recoveryKeyId⟩ wrap.nonce wrap.ciphertext
    let seed ← openWalletRecoveryEntry prims manifestKek.toList ⟨walletId⟩ entryNonce
      entryCiphertext
    return some seed

end SeamsWallet.WalletRecovery
