import SeamsWallet.Ecdsa.K256
import SeamsWallet.Library.Except

/-!
# Keys and shares of the derivation crate

The derivation crate takes scalars and public keys as byte strings and answers
with byte strings. This module models its parsing, its checks of compressed
keys, the addition of two keys, and the Ethereum address of a key. A scalar that
must not be zero and a key that must not be the identity are subtypes, as they
are types of their own in `k256`.

For every operation there is one lemma that says when it succeeds and with what,
in terms of scalars and points.
-/

namespace SeamsWallet

open Library

/-! ## Errors -/

inductive RouterAbEcdsaDerivationErrorCode where
  | invalidInput
  | invalidLength
  | decodeError
  | cryptoError
  | internal
deriving DecidableEq

structure RouterAbEcdsaDerivationError where
  code : RouterAbEcdsaDerivationErrorCode
  message : String
deriving DecidableEq

namespace RouterAbEcdsaDerivationError

variable (message : String)

def invalidInput : RouterAbEcdsaDerivationError :=
  ⟨.invalidInput, message⟩

def invalidLength : RouterAbEcdsaDerivationError :=
  ⟨.invalidLength, message⟩

def decodeError : RouterAbEcdsaDerivationError :=
  ⟨.decodeError, message⟩

def cryptoError : RouterAbEcdsaDerivationError :=
  ⟨.cryptoError, message⟩

def internal : RouterAbEcdsaDerivationError :=
  ⟨.internal, message⟩

/-- The derived `Debug` text; the messages have no character it would escape. -/
def debug (error : RouterAbEcdsaDerivationError) : String :=
  let code := match error.code with
    | .invalidInput => "InvalidInput"
    | .invalidLength => "InvalidLength"
    | .decodeError => "DecodeError"
    | .cryptoError => "CryptoError"
    | .internal => "Internal"
  "RouterAbEcdsaDerivationError \x7b code: " ++ code ++ ", message: \"" ++ error.message ++
    "\" \x7d"

end RouterAbEcdsaDerivationError

abbrev RouterAbEcdsaDerivationResult (α : Type) : Type :=
  Except RouterAbEcdsaDerivationError α

namespace EcdsaDerivation

open RouterAbEcdsaDerivationError

/-! ## Scalars and keys of `k256` -/

abbrev NonZeroScalar (n : ℕ) : Type := { s : ZMod n // s ≠ 0 }

def NonZeroScalar.new {n : ℕ} (s : ZMod n) : Option (NonZeroScalar n) :=
  if h : s ≠ 0 then some ⟨s, h⟩ else none

variable {n : ℕ}

theorem NonZeroScalar.new_eq_some {s : ZMod n} {t : NonZeroScalar n} :
    NonZeroScalar.new s = some t ↔ s = t.val := by
  obtain ⟨t, ht⟩ := t
  unfold NonZeroScalar.new
  constructor
  · intro h
    split at h
    · exact congrArg Subtype.val (Option.some.inj h)
    · cases h
  · rintro rfl
    rw [dif_pos ht]

abbrev PublicKey (P : Type) [Zero P] : Type := { Q : P // Q ≠ 0 }

/-- What the Ethereum address of a key is computed from besides the curve: the
second coordinate of a point and the hash function. -/
structure AddressHash (P : Type) where
  yBytes : P → Bytes 32
  keccak256 : List UInt8 → Bytes 32

section Keys

variable {n : ℕ} {P : Type} [AddCommGroup P] [Module (ZMod n) P] [DecidableEq P]
  (K : K256 n P) (H : AddressHash P)

def PublicKey.fromSec1Bytes (bytes : Bytes 33) : Option (PublicKey P) :=
  (K.fromEncodedPoint bytes).bind fun Q => if h : Q ≠ 0 then some ⟨Q, h⟩ else none

/-- The compressed encoding of a point; the identity takes one byte. -/
def compressedPoint (Q : P) : List UInt8 :=
  if Q = 0 then [0] else (K.pointBytes Q).toList

def uncompressedPoint (Q : P) : List UInt8 :=
  if Q = 0 then [0] else 4 :: ((K.xBytes Q).toList ++ (H.yBytes Q).toList)

variable {Q : P}

theorem compressedPoint_of_ne_zero (hQ : Q ≠ 0) : compressedPoint K Q = (K.pointBytes Q).toList :=
  if_neg hQ

theorem PublicKey.fromSec1Bytes_pointBytes (hQ : Q ≠ 0) :
    PublicKey.fromSec1Bytes K (K.pointBytes Q) = some ⟨Q, hQ⟩ := by
  rw [PublicKey.fromSec1Bytes, K.fromEncodedPoint_pointBytes Q hQ, Option.bind_some, dif_pos hQ]

def PublicKey.ofScalar [Fact n.Prime] (s : NonZeroScalar n) : PublicKey P :=
  ⟨s.val • K.generator, smul_ne_zero s.property K.generator_ne_zero⟩

def ethereumAddress (Q : P) : Bytes 20 :=
  ⟨(H.keccak256 ((K.xBytes Q).toList ++ (H.yBytes Q).toList)).toList.drop 12, by simp⟩

end Keys

/-! ## Byte strings of a fixed width -/

def vecToFixed33 (bytes : List UInt8) (fieldName : String) :
    RouterAbEcdsaDerivationResult (Bytes 33) :=
  okOr (Bytes.ofList? 33 bytes)
    (invalidLength s!"{fieldName} must be 33 bytes (got {bytes.length})")

def vecToFixed20 (bytes : List UInt8) (fieldName : String) :
    RouterAbEcdsaDerivationResult (Bytes 20) :=
  okOr (Bytes.ofList? 20 bytes)
    (invalidLength s!"{fieldName} must be 20 bytes (got {bytes.length})")

@[simp] theorem vecToFixed33_toList (bytes : Bytes 33) (fieldName : String) :
    vecToFixed33 bytes.toList fieldName = .ok bytes := by
  rw [vecToFixed33, Bytes.ofList?_toList, okOr_some]

@[simp] theorem vecToFixed20_toList (bytes : Bytes 20) (fieldName : String) :
    vecToFixed20 bytes.toList fieldName = .ok bytes := by
  rw [vecToFixed20, Bytes.ofList?_toList, okOr_some]

/-! ## Scalars from bytes -/

def parseScalar32Be (n : ℕ) (bytes : List UInt8) (fieldName : String) :
    RouterAbEcdsaDerivationResult (ZMod n) := do
  let repr ← okOr (Bytes.ofList? 32 bytes)
    (invalidLength s!"{fieldName} must be 32 bytes (got {bytes.length})")
  okOr (K256.scalarFromRepr n repr)
    (invalidInput s!"{fieldName} must be a canonical secp256k1 scalar")

def parseNonzeroScalar32Be (n : ℕ) (bytes : List UInt8) (fieldName : String) :
    RouterAbEcdsaDerivationResult (NonZeroScalar n) := do
  let scalar ← parseScalar32Be n bytes fieldName
  okOr (NonZeroScalar.new scalar) (invalidInput s!"{fieldName} must be in (0, n)")

variable {fieldName : String} {bytes : Bytes 32}

theorem parseScalar32Be_eq_ok {s : ZMod n} :
    parseScalar32Be n bytes.toList fieldName = .ok s ↔ K256.scalarFromRepr n bytes = some s := by
  rw [parseScalar32Be, Bytes.ofList?_toList, okOr_some, ok_bind, okOr_eq_ok]

theorem parseNonzeroScalar32Be_eq_ok {s : NonZeroScalar n} :
    parseNonzeroScalar32Be n bytes.toList fieldName = .ok s ↔
      K256.scalarFromRepr n bytes = some s.val := by
  simp only [parseNonzeroScalar32Be, ok_iff, parseScalar32Be_eq_ok, NonZeroScalar.new_eq_some]
  constructor
  · rintro ⟨a, ha, rfl⟩
    exact ha
  · intro h
    exact ⟨s.val, h, rfl⟩

/-! ## Keys from bytes -/

section Operations

variable {n : ℕ} {P : Type} [AddCommGroup P] [Module (ZMod n) P] [DecidableEq P]
  (K : K256 n P) (H : AddressHash P)

def validateSecp256k1PublicKey33 (publicKey33 : List UInt8) :
    RouterAbEcdsaDerivationResult (List UInt8) := do
  let bytes33 ← okOr (Bytes.ofList? 33 publicKey33)
    (invalidLength s!"public_key33 must be 33 bytes (got {publicKey33.length})")
  let key ← okOr (PublicKey.fromSec1Bytes K bytes33)
    (decodeError "invalid compressed secp256k1 public key")
  let bytes := compressedPoint K key.val
  ensure (bytes = publicKey33)
    (decodeError "compressed secp256k1 public key must use canonical SEC1 encoding")
  return bytes

def secp256k1PrivateKey32ToPublicKey33 [Fact n.Prime] (privateKey32 : List UInt8) :
    RouterAbEcdsaDerivationResult (List UInt8) := do
  let bytes32 ← okOr (Bytes.ofList? 32 privateKey32)
    (invalidLength s!"private_key32 must be 32 bytes (got {privateKey32.length})")
  let secretKey ← okOr ((K256.scalarFromRepr n bytes32).bind NonZeroScalar.new)
    (cryptoError "invalid secp256k1 private key")
  return compressedPoint K (PublicKey.ofScalar K secretKey).val

def addSecp256k1PublicKeys33 (left33 right33 : Bytes 33) :
    RouterAbEcdsaDerivationResult (List UInt8) := do
  let left ← okOr (PublicKey.fromSec1Bytes K left33)
    (decodeError "left33 is not a valid compressed secp256k1 public key")
  let right ← okOr (PublicKey.fromSec1Bytes K right33)
    (decodeError "right33 is not a valid compressed secp256k1 public key")
  return compressedPoint K (left.val + right.val)

def secp256k1PublicKey33ToEthereumAddress20 (publicKey33 : Bytes 33) :
    RouterAbEcdsaDerivationResult (List UInt8) := do
  let publicKey ← okOr (PublicKey.fromSec1Bytes K publicKey33)
    (decodeError "invalid compressed secp256k1 public key")
  let bytes := uncompressedPoint K H publicKey.val
  ensure (bytes.length = 65 ∧ bytes.head? = some 4)
    (invalidLength "uncompressed secp256k1 public key must be 65 bytes with 0x04 prefix")
  let digest := (H.keccak256 bytes.tail).toList
  return digest.drop (digest.length - 20)

def privateKeyToPublicKey33 [Fact n.Prime] (privateKey32 : Bytes 32)
    (fieldName : String) : RouterAbEcdsaDerivationResult (Bytes 33) := do
  vecToFixed33 (← secp256k1PrivateKey32ToPublicKey33 K privateKey32.toList) fieldName

def validatePublicKey33 (publicKey33 : Bytes 33) (fieldName : String) :
    RouterAbEcdsaDerivationResult (Bytes 33) := do
  vecToFixed33 (← validateSecp256k1PublicKey33 K publicKey33.toList) fieldName

def publicKeySumIsIdentity (left33 right33 : Bytes 33) : RouterAbEcdsaDerivationResult Bool := do
  let left ← okOr (PublicKey.fromSec1Bytes K left33) (decodeError "left public key is invalid")
  let right ← okOr (PublicKey.fromSec1Bytes K right33) (decodeError "right public key is invalid")
  return decide (left.val + right.val = 0)

def addPublicKeysNonIdentity33 (left33 right33 : Bytes 33) (fieldName : String) :
    RouterAbEcdsaDerivationResult (Bytes 33) := do
  let isIdentity ← publicKeySumIsIdentity K left33 right33
  ensure (isIdentity = false) (invalidInput s!"{fieldName} must not be the identity point")
  vecToFixed33 (← addSecp256k1PublicKeys33 K left33 right33) fieldName

def publicKeyToAddress20 (publicKey33 : Bytes 33) (fieldName : String) :
    RouterAbEcdsaDerivationResult (Bytes 20) := do
  vecToFixed20 (← secp256k1PublicKey33ToEthereumAddress20 K H publicKey33) fieldName

/-! ### When the operations succeed -/

variable {fieldName : String} {key : Bytes 33}

/-- A key is valid exactly when it is the encoding of a point other than the
identity, and validation returns it unchanged. -/
theorem validatePublicKey33_eq_ok {bytes : Bytes 33} :
    validatePublicKey33 K bytes fieldName = .ok key ↔
      ∃ Q : P, Q ≠ 0 ∧ bytes = K.pointBytes Q ∧ key = bytes := by
  simp only [validatePublicKey33, validateSecp256k1PublicKey33, Bytes.ofList?_toList, okOr_some,
    ok_bind, ok_iff]
  constructor
  · rintro ⟨_, ⟨⟨Q, hQ⟩, -, hbytes, rfl⟩, hkey⟩
    rw [hbytes, vecToFixed33_toList, Except.ok.injEq] at hkey
    rw [compressedPoint_of_ne_zero K hQ] at hbytes
    exact ⟨Q, hQ, (List.Vector.toList_injective hbytes).symm, hkey.symm⟩
  · rintro ⟨Q, hQ, rfl, rfl⟩
    have hbytes := compressedPoint_of_ne_zero K hQ
    exact ⟨_, ⟨⟨Q, hQ⟩, PublicKey.fromSec1Bytes_pointBytes K hQ, hbytes, hbytes⟩,
      vecToFixed33_toList _ _⟩

/-- A private key has a public key exactly when it is a scalar other than zero. -/
theorem privateKeyToPublicKey33_eq_ok [Fact n.Prime] :
    privateKeyToPublicKey33 K bytes fieldName = .ok key ↔
      ∃ s : ZMod n, s ≠ 0 ∧ K256.scalarFromRepr n bytes = some s ∧
        key = K.pointBytes (s • K.generator) := by
  simp only [privateKeyToPublicKey33, secp256k1PrivateKey32ToPublicKey33, Bytes.ofList?_toList,
    okOr_some, ok_bind, ok_iff, Option.bind_eq_some_iff, NonZeroScalar.new_eq_some]
  constructor
  · rintro ⟨_, ⟨s, ⟨_, hs, rfl⟩, rfl⟩, hkey⟩
    rw [compressedPoint_of_ne_zero K (PublicKey.ofScalar K s).property,
      vecToFixed33_toList, Except.ok.injEq] at hkey
    exact ⟨s.val, s.property, hs, hkey.symm⟩
  · rintro ⟨s, hs, hparse, rfl⟩
    refine ⟨_, ⟨⟨s, hs⟩, ⟨s, hparse, rfl⟩, rfl⟩, ?_⟩
    rw [compressedPoint_of_ne_zero K (PublicKey.ofScalar K ⟨s, hs⟩).property]
    exact vecToFixed33_toList _ _

theorem addPublicKeysNonIdentity33_eq_ok {A B : P} (hA : A ≠ 0) (hB : B ≠ 0) :
    addPublicKeysNonIdentity33 K (K.pointBytes A) (K.pointBytes B) fieldName = .ok key ↔
      A + B ≠ 0 ∧ key = K.pointBytes (A + B) := by
  simp only [addPublicKeysNonIdentity33, publicKeySumIsIdentity, addSecp256k1PublicKeys33,
    PublicKey.fromSec1Bytes_pointBytes K hA, PublicKey.fromSec1Bytes_pointBytes K hB, okOr_some,
    ok_bind, pure_bind, ok_iff, decide_eq_false_iff_not]
  refine and_congr_right fun hsum => ?_
  rw [compressedPoint_of_ne_zero K hsum, vecToFixed33_toList, Except.ok.injEq, eq_comm]

theorem publicKeyToAddress20_pointBytes {Q : P} (hQ : Q ≠ 0) (fieldName : String) :
    publicKeyToAddress20 K H (K.pointBytes Q) fieldName = .ok (ethereumAddress K H Q) := by
  have hpoint : uncompressedPoint K H Q =
      4 :: ((K.xBytes Q).toList ++ (H.yBytes Q).toList) := if_neg hQ
  have hshape : (uncompressedPoint K H Q).length = 65 ∧
      (uncompressedPoint K H Q).head? = some 4 := by simp [hpoint]
  simp only [publicKeyToAddress20, secp256k1PublicKey33ToEthereumAddress20,
    PublicKey.fromSec1Bytes_pointBytes K hQ, okOr_some, ok_bind, ensure_of hshape]
  rw [hpoint]
  simp only [List.tail_cons, List.Vector.toList_length, pure_bind]
  exact vecToFixed20_toList (ethereumAddress K H Q) fieldName

end Operations

end EcdsaDerivation

end SeamsWallet
